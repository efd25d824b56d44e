import ODataQuery.Command.Outcome

/-!
# The command line

The outer layer: it copies the files that a command may look at from the disk into a volume, calls
the command, and carries what changed in the volume back to the disk.
-/

namespace ODataQuery.Disk

/-- The text of bytes. Bytes that are not UTF-8 give a text that is no JSON. -/
def textOf (bytes : ByteArray) : String := (String.fromUTF8? bytes).getD "\x00"

/-- What stands in a directory. -/
def entries (path : String) : IO (List String) := do
  return (← ((← IO.currentDir) / path).readDir).toList.map (·.fileName)

/-- What stands at a path of the disk. -/
def look (path : String) : IO (Option Entry) := do
  try
    let _ ← entries path
    return some .directory
  catch _ =>
    try return some (.file (textOf (← IO.FS.readBinFile path)))
    catch _ => return none

/-- Copies what stands at a path, and the directories on the way to it, from the disk. -/
def load (volume : Volume) (path : String) : IO Volume := do
  let names := path.splitOn "/"
  let mut volume := volume
  for count in List.range names.length do
    let start := String.intercalate "/" (names.take (count + 1))
    if let .ok location := volume.locate start then
      if let some entry ← look start then
        if location ≠ [] then volume := volume.insert location entry
  return volume

/-- Copies a directory with what stands in it. -/
def loadAll (volume : Volume) (path : String) : IO Volume := do
  let mut volume ← load volume path
  try
    for name in ← entries path do
      volume ← load volume (joinPath path name)
    return volume
  catch _ => return volume

/-- Carries the entries that are new or different back to the disk. -/
def store (before after : Volume) : IO Unit := do
  for (location, entry) in after.entries do
    if before.entry? location ≠ some entry then
      let path := String.join (location.map ("/" ++ ·))
      match entry with
      | .directory => IO.FS.createDir path
      | .file text => IO.FS.writeFile path text

/-- The volume that a command works on. -/
def volumeFor (home : Option String) (args : List String) : IO Volume := do
  let here := (← IO.currentDir).toString
  let mut volume ← load { workDir := (here.splitOn "/").filter (· ≠ "") } here
  if let some home := home then
    for shelf in [Store.Shelf.contexts, Store.Shelf.current] do
      volume ← loadAll volume (Store.folder home shelf)
  if let some path := Command.filterFile? args then volume ← load volume path
  return volume

/-- Everything that is left on a stream. -/
partial def readAll (stream : IO.FS.Stream) (read : ByteArray := .empty) : IO ByteArray := do
  let bytes ← stream.read 65536
  if bytes.isEmpty then return read else readAll stream (read ++ bytes)

/-- Whether reports are coloured: on a terminal, unless the environment decides otherwise. -/
def wantsColor : IO Bool := do
  if (← IO.getEnv "NO_COLOR").isSome then return false
  if let some force ← IO.getEnv "CLICOLOR_FORCE" then
    if force ≠ "0" then return true
  return (← IO.getEnv "CLICOLOR") ≠ some "0" && (← (← IO.getStdout).isTty)

end ODataQuery.Disk

open ODataQuery

/-- Runs the command that the arguments stand for. -/
def main (args : List String) : IO UInt32 := do
  let home ← IO.getEnv "HOME"
  let input ←
    if Command.readsInput args then
      pure (Disk.textOf (← Disk.readAll (← IO.getStdin)))
    else pure ""
  let before ← Disk.volumeFor home args
  let around : Surroundings := { home, input, color := ← Disk.wantsColor }
  let (outcome, after) := Command.call around before args
  Disk.store before after
  IO.print outcome.output
  IO.eprint outcome.errors
  return UInt32.ofNat outcome.status
