/-!
# Volumes

A tree of directories and text files. A path is resolved name by name from the root or from the
working directory; every name but the last has to be the name of a directory, and the first one
that is not decides the error.
-/

namespace ODataQuery

/-- Why an operation of the system fails. -/
inductive SystemError where
  | notFound
  | alreadyExists
  | notDirectory
  | isDirectory
  | nameTooLong
  | nulInName
  /-- An address without a colon. -/
  | addressWithoutColon
  /-- An address whose last part is not a number of 16 bits. -/
  | addressWithoutNumber
deriving DecidableEq, Repr

/-- The wording of an error. -/
def SystemError.message : SystemError → String
  | .notFound => "No such file or directory (os error 2)"
  | .alreadyExists => "File exists (os error 17)"
  | .notDirectory => "Not a directory (os error 20)"
  | .isDirectory => "Is a directory (os error 21)"
  | .nameTooLong => "File name too long (os error 36)"
  | .nulInName => "file name contained an unexpected NUL byte"
  | .addressWithoutColon => "invalid socket address"
  | .addressWithoutNumber => "invalid port value"

/-- The names on the way from the root. -/
abbrev Location := List String

/-- What stands at a location. -/
inductive Entry where
  | directory
  | file (text : String)
deriving DecidableEq, Repr

/-- Directories and files by their locations. The root is a directory without being listed. -/
structure Volume where
  entries : List (Location × Entry) := []
  workDir : Location := []
deriving Repr, Inhabited

/-- Goes on from a path with a relative one. A slash comes between them, unless the path is empty or
ends in one. -/
def joinPath (path rest : String) : String :=
  if path = "" ∨ path.toList.getLast? = some '/' then path ++ rest else path ++ "/" ++ rest

namespace Volume

/-- What stands at a location. -/
def entry? (volume : Volume) (location : Location) : Option Entry :=
  if location = [] then some .directory else volume.entries.lookup location

/-- Puts an entry in the place of the one at its location. -/
def place (location : Location) (entry : Entry) :
    List (Location × Entry) → List (Location × Entry)
  | [] => [(location, entry)]
  | (other, entry') :: entries =>
    if other = location then (location, entry) :: entries
    else (other, entry') :: place location entry entries

/-- Puts an entry at a location. -/
def insert (volume : Volume) (location : Location) (entry : Entry) : Volume :=
  { volume with entries := place location entry volume.entries }

/-! ## Paths

A path is text; which location it leads to depends on the directories on the way. Steps to the same
directory and to the one above it are taken while walking. -/

/-- Names are at most this many bytes long. -/
def maxNameSize : Nat := 255

/-- Paths are shorter than this many bytes. -/
def maxPathSize : Nat := 4096

/-- The names of a path between its slashes, and the directory that it starts from. -/
def names (volume : Volume) (path : String) : Except SystemError (Location × List String) :=
  if '\x00' ∈ path.toList then .error .nulInName
  else if path = "" then .error .notFound
  else if maxPathSize ≤ path.utf8ByteSize then .error .nameTooLong
  else
    let names := (path.toList.splitOn '/').map String.ofList
    .ok (if names.head? = some "" then [] else volume.workDir, names)

/-- Whether a name stands for a directory that is found without looking. -/
def isStep (name : String) : Bool := name = "" || name = "." || name = ".."

/-- The directory that a step leads to. -/
def step (directory : Location) (name : String) : Location :=
  if name = ".." then directory.dropLast else directory

/-- Goes from a directory into another. -/
def enter (volume : Volume) (directory : Location) (name : String) :
    Except SystemError Location :=
  if isStep name then .ok (step directory name)
  else if maxNameSize < name.utf8ByteSize then .error .nameTooLong
  else match volume.entry? (directory ++ [name]) with
    | some .directory => .ok (directory ++ [name])
    | some (.file _) => .error .notDirectory
    | none => .error .notFound

/-- The location that a path leads to, where something may stand or not. -/
def locate (volume : Volume) (path : String) : Except SystemError Location := do
  let (start, names) ← volume.names path
  let directory ← names.dropLast.foldlM volume.enter start
  match names.getLast? with
  | none => return directory
  | some name =>
    if isStep name then return step directory name
    else if maxNameSize < name.utf8ByteSize then .error .nameTooLong
    else return directory ++ [name]

/-! ## Operations

What a program can ask of a volume. Every operation locates its path first, so all of them fail
alike where that is not possible. -/

/-- What stands at the end of a path. -/
def look (volume : Volume) (path : String) : Except SystemError Entry := do
  let location ← volume.locate path
  match volume.entry? location with
  | some entry => return entry
  | none => .error .notFound

/-- Writes a file in the place of the one that was there. -/
def write (volume : Volume) (path text : String) : Except SystemError Volume := do
  let location ← volume.locate path
  match volume.entry? location with
  | some .directory => .error .isDirectory
  | _ => return volume.insert location (.file text)

/-- Makes the directories that are missing on the way. -/
def makeAll (volume : Volume) (directory : Location) : List String → Except SystemError Volume
  | [] => .ok volume
  | name :: names =>
    match volume.enter directory name with
    | .ok directory' => volume.makeAll directory' names
    | .error .notFound =>
      (volume.insert (directory ++ [name]) .directory).makeAll (directory ++ [name]) names
    | .error .notDirectory => .error (if names = [] then .alreadyExists else .notDirectory)
    | .error e => .error e

/-- Makes a directory and those on the way to it, as far as they are missing. -/
def makeDirectories (volume : Volume) (path : String) : Except SystemError Volume := do
  let (start, names) ← volume.names path
  volume.makeAll start names

/-- The files of a directory with their texts, ascending by their names. -/
def filesIn (volume : Volume) (directory : Location) : List (String × String) :=
  let files := volume.entries.filterMap fun
    | (location, .file text) =>
      if location.dropLast = directory then location.getLast?.map (·, text) else none
    | (_, .directory) => none
  files.mergeSort fun a b => a.1 ≤ b.1

/-- The files of the directory at the end of a path, ascending by their names. -/
def list (volume : Volume) (path : String) : Except SystemError (List (String × String)) := do
  let location ← volume.locate path
  match volume.entry? location with
  | some .directory => return volume.filesIn location
  | some (.file _) => .error .notDirectory
  | none => .error .notFound

end Volume

end ODataQuery
