import Mathlib.Data.List.Basic
import ODataQuery.Proofs.Store.History
import ODataQuery.Proofs.Store.Reading

/-!
# What writing leaves alone

A context or a name that was written is read again as it was, and what else is stored is read as
before, whatever else stands in the volume (`written_is_read_and_the_rest_is_kept`). The files of
contexts and the file of the name in use never meet: the former end in another character than the
latter, even if the name of a context leads out of its folder (`exists_last_of_locate`).
-/

namespace ODataQuery.Store

open Volume ODataQuery.Action

variable {home : String} {shelf : Shelf} {file text name : String} {world after : World}

/-! ## Actions

Writing a file opens its folder and puts the file there. What is needed of it is collected in
`Writes`, so that nothing below goes through the steps of the action again. -/

/-- A write that succeeds put the file into its folder. -/
theorem exists_writes (h : (writeEntry (some home) shelf file text).run world = .ok () after) :
    ∃ rooted opened root place,
      Writes home shelf file text world.volume rooted opened after.volume root place := by
  rw [writeEntry] at h
  cases hmade : world.volume.makeDirectories (folder home shelf) with
  | error e =>
    rw [run_bind_error (result_openFolder_error hmade)] at h
    exact absurd h nofun
  | ok opened =>
    obtain ⟨hpath, hopened⟩ := result_openFolder hmade
    rw [run_bind hpath, hopened, run_bind (result_tell _ _)] at h
    have hwrite : opened.write (joinPath (folder home shelf) file) text = .ok after.volume :=
      volume_of_run_change h
    obtain ⟨place, hlocate, hfree, hwritten⟩ := write_eq_ok_iff.mp hwrite
    obtain ⟨rooted, root, hbase⟩ := Rooted.exists_of_makeDirectories hmade
    exact ⟨rooted, opened, root, place, hbase, hbase.opens hmade, hlocate, hfree, hwritten⟩

/-! ## Names of files

The name of the file of a context ends in `n`, like its extension, and the name of the other file
does not. That is all that tells them apart if the name of a context has slashes in it, which may
lead anywhere. -/

/-- The last of several names ends with the last character. -/
theorem exists_namesOf_getLast {path : String} {c : Char} (h : path.toList.getLast? = some c)
    (hc : c ≠ '/') :
    ∃ before last, namesOf path = before ++ [last] ∧ last.toList.getLast? = some c := by
  -- The last name is all behind the last slash.
  by_cases hslash : '/' ∈ path.toList
  · obtain ⟨last, before, hsplit, hlast⟩ :=
      List.eq_append_cons_of_mem (List.mem_reverse.mpr hslash)
    have hpath : path.toList = before.reverse ++ '/' :: last.reverse := by
      rw [← List.reverse_reverse path.toList, hsplit]
      simp
    have hne : last.reverse ≠ [] := by
      intro hnil
      rw [hpath, hnil, List.getLast?_concat] at h
      exact hc (Option.some.inj h).symm
    rw [hpath, List.append_cons, List.getLast?_append_of_ne_nil _ hne] at h
    have hlast : '/' ∉ last.reverse := by simpa using hlast
    refine ⟨namesOf (String.ofList before.reverse), String.ofList last.reverse, ?_, ?_⟩
    · rw [namesOf, hpath, List.splitOn_append_cons_self, List.splitOn_eq_singleton hlast,
        List.map_append, namesOf, String.toList_ofList]
      rfl
    · rw [String.toList_ofList]
      exact h
  · exact ⟨[], path, namesOf_of_no_slash hslash, h⟩

-- The last letter of the ending of the file decides, since every path of the file ends in it.
/-- The name of the file of a context ends like its extension. -/
theorem getLast?_contextFile (name : String) :
    (contextFile name).toList.getLast? = some 'n' := by
  rw [contextFile, String.toList_append, List.getLast?_append]
  rfl

theorem slash_not_mem_contextFile (h : '/' ∉ name.toList) :
    '/' ∉ (contextFile name).toList := by
  simp [contextFile, String.toList_append, h]

/-- The name of the file of a context is no step to another directory. -/
theorem isStep_contextFile (name : String) : isStep (contextFile name) = false :=
  isStep_of_mem (List.mem_of_getLast? (getLast?_contextFile name)) (by decide)

/-- Wherever the path of the file of a context leads, the last name there ends as the path does. -/
theorem exists_last_of_locate {volume : Volume} {path : String} {place : Location}
    (h : volume.locate (joinPath path (contextFile name)) = .ok place) :
    ∃ directory last, place = directory ++ [last] ∧ last.toList.getLast? = some 'n' := by
  obtain ⟨before, last, hnames, hlast⟩ :=
    exists_namesOf_getLast (getLast?_contextFile name) (by decide)
  rw [locate_eq, bind_eq_ok_iff] at h
  obtain ⟨⟨start, names⟩, hfound, hfrom⟩ := h
  obtain ⟨-, -, -, -, rfl⟩ := names_eq_ok hfound
  change volume.locateFrom start (namesOf (joinPath path (contextFile name))) = _ at hfrom
  rw [namesOf_joinPath, hnames, ← List.append_assoc, locateFrom_concat, bind_eq_ok_iff] at hfrom
  obtain ⟨directory, -, harrive⟩ := hfrom
  rw [arrive, isStep_of_mem (List.mem_of_getLast? hlast) (by decide), if_neg (by decide)] at harrive
  split at harrive
  · exact absurd harrive (by simp)
  · exact ⟨directory, last, (Except.ok.inj harrive).symm, hlast⟩

/-- Files whose names end differently are different. -/
theorem file_ne_of_getLast {directory root : Location} {last : String}
    (hlast : last.toList.getLast? = some 'n') (hfile : file.toList.getLast? ≠ some 'n') :
    root ++ [file] ≠ directory ++ [last] := by
  intro heq
  obtain rfl := List.singleton_inj.mp (List.append_inj_right' heq rfl)
  exact hfile hlast

/-! ## Writing a context

The new file is not the file of the name in use, and not that of another context if neither name
leads out of the folder. -/

section WriteContext

variable {context : Context} {volume rooted opened last : Volume} {root place : Location}
  (h : Writes home .contexts (contextFile context.name) text volume rooted opened last root place)

include h

/-- The files of other contexts are found as before. -/
theorem lookIn_other_context (hne : name ≠ context.name) (hslash : '/' ∉ name.toList)
    (hslash' : '/' ∉ context.name.toList) :
    lookIn last (folder home .contexts) (contextFile name)
      = lookIn volume (folder home .contexts) (contextFile name) := by
  have hplace : place = shelfAt root .contexts ++ [contextFile context.name] :=
    h.opens.leads.locate_eq_ok (slash_not_mem_contextFile hslash') (isStep_contextFile _) h.locate
  refine h.lookIn_of_ne (slash_not_mem_contextFile hslash) (isStep_contextFile name) ?_ ?_
  · rw [hplace]
    exact (file_ne_shelfAt _).symm
  · rw [hplace]
    intro heq
    exact hne (contextFile_injective (List.singleton_inj.mp (List.append_cancel_left heq)))

/-- The name in use is found or missing as before, wherever the name of the context leads. -/
theorem lookIn_current_of_context :
    lookIn last (folder home .current) currentFile
      = lookIn volume (folder home .current) currentFile := by
  -- The path may lead out of the folder, but never to a place with the name of the other file.
  obtain ⟨directory, final, rfl, hfinal⟩ := exists_last_of_locate h.locate
  refine h.lookIn_of_ne (by decide) (by decide) ?_ ?_
  · exact file_ne_of_getLast hfinal (by decide)
  · exact file_ne_of_getLast hfinal (by decide)

end WriteContext

/-! ## Writing the name in use

This file has a fixed name, so its place is known, and no file of a context is there. -/

section WriteCurrentName

variable {volume rooted opened last : Volume} {root place : Location}
  (h : Writes home .current currentFile text volume rooted opened last root place)

include h

/-- The file of the name in use stands in its folder. -/
theorem place_of_current : place = shelfAt root .current ++ [currentFile] :=
  h.opens.leads.locate_eq_ok (by decide) (by decide) h.locate

theorem shelfAt_contexts_ne_place : shelfAt root .contexts ≠ place := by
  rw [place_of_current h]
  exact (file_ne_shelfAt _).symm

/-- After the name in use was written, the contexts are found as before. -/
theorem lookIn_context_of_current (hslash : '/' ∉ name.toList) :
    lookIn last (folder home .contexts) (contextFile name)
      = lookIn volume (folder home .contexts) (contextFile name) := by
  refine h.lookIn_of_ne (slash_not_mem_contextFile hslash) (isStep_contextFile name)
    (shelfAt_contexts_ne_place h) ?_
  rw [place_of_current h]
  exact (file_ne_of_getLast (getLast?_contextFile name) (by decide)).symm

/-- A context that was found is still found, even if its name leads out of the folder. -/
theorem lookIn_found_context_of_current {text' : String}
    (hfound : lookIn volume (folder home .contexts) (contextFile name) = .ok (.file text')) :
    lookIn last (folder home .contexts) (contextFile name) = .ok (.file text') := by
  refine h.lookIn_of_ok (shelfAt_contexts_ne_place h) ?_ hfound
  intro volume' hlocate
  obtain ⟨directory, final, hplace, hfinal⟩ := exists_last_of_locate hlocate
  rw [place_of_current h] at hplace
  exact file_ne_of_getLast hfinal (by decide) hplace

/-- After the name in use was written, the contexts are listed as before. -/
theorem listIn_contexts_of_current :
    listIn last (folder home .contexts) = listIn volume (folder home .contexts) := by
  refine h.listIn_of_ne (shelfAt_contexts_ne_place h) ?_
  rw [place_of_current h, List.dropLast_concat]
  intro heq
  exact absurd (shelfAt_injective heq) (by decide)

end WriteCurrentName

/-! ## Reading after writing

Reading depends on what is found, and what is found is the same for all files but the one that was
written. -/

/-- Only a file can be read. -/
theorem readFound_eq_ok {α : Type} {read : Json.Reader α} {a : α}
    {found : Except SystemError Entry} (h : readFound read found = .ok a) :
    ∃ text, found = .ok (.file text) := by
  cases found with
  | error e => exact absurd h (by simp [readFound])
  | ok entry =>
    cases entry with
    | directory => exact absurd h (by simp [readFound])
    | file text => exact ⟨text, rfl⟩

/-- A context that was written is read again, and other contexts and the name in use are read as
before. -/
theorem readContext_after_writeContext {context : Context}
    (h : (writeContext (some home) context).run world = .ok () after) :
    (readContext (some home) context.name).result after = .ok context ∧
    (∀ name, name ≠ context.name → '/' ∉ name.toList → '/' ∉ context.name.toList →
      (readContext (some home) name).result after
        = (readContext (some home) name).result world) ∧
    (readCurrentName (some home)).result after = (readCurrentName (some home)).result world := by
  obtain ⟨rooted, opened, root, place, hwrites⟩ := exists_writes h
  refine ⟨?_, fun name hne hslash hslash' => ?_, ?_⟩
  · rw [readContext, result_readEntry, hwrites.lookIn_self, readFound, context.read_toText]
    rfl
  · rw [readContext, result_readEntry, result_readEntry,
      lookIn_other_context hwrites hne hslash hslash']
  · rw [readCurrentName, result_readEntry, result_readEntry, lookIn_current_of_context hwrites]

/-- A name that was taken into use is read again, and the contexts are read as before. -/
theorem readContext_after_writeCurrentName
    (h : (writeCurrentName (some home) name).run world = .ok () after) :
    (readCurrentName (some home)).result after = .ok name ∧
    (∀ other, '/' ∉ other.toList →
      (readContext (some home) other).result after
        = (readContext (some home) other).result world) ∧
    (∀ other context, (readContext (some home) other).result world = .ok context →
      (readContext (some home) other).result after = .ok context) ∧
    (readContexts (some home)).result after = (readContexts (some home)).result world := by
  -- All that is needed of the write is where it put which file.
  obtain ⟨rooted, opened, root, place, hwrites⟩ := exists_writes h
  refine ⟨?_, fun other hslash => ?_, fun other context hread => ?_, ?_⟩
  · rw [readCurrentName, result_readEntry, hwrites.lookIn_self, readFound, readName_toText]
    rfl
  · rw [readContext, result_readEntry, result_readEntry, lookIn_context_of_current hwrites hslash]
  · rw [readContext, result_readEntry] at hread ⊢
    obtain ⟨found, hfound⟩ := readFound_eq_ok hread
    rw [lookIn_found_context_of_current hwrites hfound, ← hfound, hread]
  · rw [result_readContexts, result_readContexts, listIn_contexts_of_current hwrites]

/-- What is written is read again as it was, and nothing else changes. A context is read from its
own text. After a context is stored, in whatever state the home directory is, it is read under its
name, every other context without a slash in its name is read or missing as before, and so is the
name in use. After a name is taken into use, it is read, and every stored context stays. -/
theorem written_is_read_and_the_rest_is_kept (home : Option String) (world after : World) :
    (∀ context : Context, Context.read.ofText context.toText = .ok context) ∧
    (∀ context : Context, (writeContext home context).run world = .ok () after →
      (readContext home context.name).result after = .ok context ∧
      (∀ name, name ≠ context.name → '/' ∉ name.toList → '/' ∉ context.name.toList →
        (readContext home name).result after = (readContext home name).result world) ∧
      (readCurrentName home).result after = (readCurrentName home).result world) ∧
    (∀ name : String, (writeCurrentName home name).run world = .ok () after →
      (readCurrentName home).result after = .ok name ∧
      (∀ other, '/' ∉ other.toList →
        (readContext home other).result after = (readContext home other).result world) ∧
      (∀ other context, (readContext home other).result world = .ok context →
        (readContext home other).result after = .ok context) ∧
      (readContexts home).result after = (readContexts home).result world) := by
  refine ⟨Context.read_toText, fun context h => ?_, fun name h => ?_⟩
  · cases home with
    | none => exact absurd h nofun
    | some home => exact readContext_after_writeContext h
  · cases home with
    | none => exact absurd h nofun
    | some home => exact readContext_after_writeCurrentName h

/-- A context whose name and service root have to be quoted in its text. -/
def quotedContext : Context where
  name := "übung \"1\""
  base := "https://one.example/\t"
  pageSize := 0
  useSkipTokens := true

theorem written_is_read_at_home :
    let world : World := { volume := { entries := [(["home"], .directory)] } }
    let stored := (writeContext (some "/home") quotedContext).after world
    let chosen := (writeCurrentName (some "/home") quotedContext.name).after stored
    (writeContext (some "/home") quotedContext).run world = .ok () stored ∧
      (writeCurrentName (some "/home") quotedContext.name).run stored = .ok () chosen ∧
      (readContext (some "/home") quotedContext.name).result stored = .ok quotedContext ∧
      (readContext (some "/home") "2").result stored
        = (readContext (some "/home") "2").result world ∧
      (readCurrentName (some "/home")).result chosen = .ok quotedContext.name ∧
      (readContext (some "/home") quotedContext.name).result chosen = .ok quotedContext := by
  intro world stored chosen
  have hwrite : (writeContext (some "/home") quotedContext).result world = .ok () := by
    decide +kernel
  have hchoose : (writeCurrentName (some "/home") quotedContext.name).result stored = .ok () := by
    decide +kernel
  obtain ⟨-, hstored, -⟩ := written_is_read_and_the_rest_is_kept (some "/home") world stored
  obtain ⟨-, -, hchosen⟩ := written_is_read_and_the_rest_is_kept (some "/home") stored chosen
  -- First the context is written, then its name.
  obtain ⟨hread, hothers, -⟩ := hstored quotedContext (run_of_result hwrite)
  obtain ⟨hname, -, hkept, -⟩ := hchosen quotedContext.name (run_of_result hchoose)
  exact ⟨run_of_result hwrite, run_of_result hchoose, hread,
    hothers "2" (by decide) (by decide) (by decide), hname,
    hkept quotedContext.name quotedContext hread⟩

end ODataQuery.Store
