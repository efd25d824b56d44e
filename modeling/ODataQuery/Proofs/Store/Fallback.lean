import ODataQuery.Proofs.Store.Reading
import ODataQuery.Proofs.Store.Records

/-!
# Commands without a context

A command that can do without a context works with the usual settings if nothing is found where the
name in use is stored. It does so as well if a name is found, but nothing is found where the context
of that name is stored: the two failures are the same one (`usual_settings_iff_missing`).
-/

namespace ODataQuery.Store

open ODataQuery.Action

/-! ## Failures to read

Where a folder can be opened, reading fails because nothing is found, because it is no file, or
because the file is not what it should be. Only the first is taken for a missing context. -/

section Found

variable {α : Type} {read : Json.Reader α} {found : Except SystemError Entry}

/-- Why a file cannot be read: the way to it fails, a directory is in its place, or its text is not
what is to be read. -/
theorem readFound_eq_error {failure : Failure} (h : readFound read found = .error failure) :
    (∃ e, found = .error e ∧ failure = .system e) ∨ failure = .unreadable .isDirectory ∨
      ∃ fault, failure = .document fault := by
  -- Nothing was found, or something that is no file, or a file.
  cases found with
  | error e =>
    have hfailure : Failure.system e = failure := Except.error.inj h
    exact .inl ⟨e, rfl, hfailure.symm⟩
  | ok entry =>
    cases entry with
    | directory =>
      have hfailure : Failure.unreadable .isDirectory = failure := Except.error.inj h
      exact .inr (.inl hfailure.symm)
    | file text =>
      rw [readFound] at h
      cases hread : read.ofText text with
      | ok a =>
        rw [hread] at h
        exact absurd h (by simp [Except.mapError])
      | error fault =>
        rw [hread] at h
        have hfailure : Failure.document fault = failure := Except.error.inj h
        exact .inr (.inr ⟨fault, hfailure.symm⟩)

/-- Nothing but a missing file is reported as missing. -/
theorem readFound_eq_notFound :
    readFound read found = .error (.system .notFound) ↔ found = .error .notFound := by
  constructor
  · intro h
    rcases readFound_eq_error h with ⟨e, hfound, hfailure⟩ | hfailure | ⟨fault, hfailure⟩
    · exact Failure.system.inj hfailure ▸ hfound
    · exact Failure.noConfusion hfailure
    · exact Failure.noConfusion hfailure
  · rintro rfl
    rfl

/-- What was found has a home directory. -/
theorem readFound_ne_noHome : readFound read found ≠ .error .noHome := by
  intro h
  rcases readFound_eq_error h with ⟨e, -, hfailure⟩ | hfailure | ⟨fault, hfailure⟩
  · exact Failure.noConfusion hfailure
  · exact Failure.noConfusion hfailure
  · exact Failure.noConfusion hfailure

end Found

/-- Two failures count as a missing context. -/
theorem isMissing_iff {failure : Failure} :
    isMissing failure = true ↔ failure = .system .notFound ∨ failure = .noHome := by
  unfold isMissing
  split
  · simp
  · simp
  · next hsystem hhome =>
    have hneither : ¬ (failure = .system .notFound ∨ failure = .noHome) :=
      not_or.mpr ⟨hsystem, hhome⟩
    simp [hneither]

variable {home : String} {world : World}

/-- With a home directory no failure says that there is none. -/
theorem result_readCurrent_ne_noHome :
    (readCurrent (some home)).result world ≠ .error .noHome := by
  intro h
  rcases result_bind_eq_error.mp h with hname | ⟨name, -, hcontext⟩
  · rw [readCurrentName, result_readEntry] at hname
    exact readFound_ne_noHome hname
  · rw [readContext, result_readEntry] at hcontext
    exact readFound_ne_noHome hcontext

/-- Where the context in use is missing: its name is, or the context that was stored under it. -/
theorem result_readCurrent_eq_notFound :
    (readCurrent (some home)).result world = .error (.system .notFound)
      ↔ lookIn world.volume (folder home .current) currentFile = .error .notFound ∨
        ∃ name, (readCurrentName (some home)).result world = .ok name ∧
          lookIn ((readCurrentName (some home)).after world).volume (folder home .contexts)
            (contextFile name) = .error .notFound := by
  have hname : (readCurrentName (some home)).result world = .error (.system .notFound)
      ↔ lookIn world.volume (folder home .current) currentFile = .error .notFound := by
    rw [readCurrentName, result_readEntry, readFound_eq_notFound]
  have hcontext : ∀ name (later : World),
      (readContext (some home) name).result later = .error (.system .notFound)
        ↔ lookIn later.volume (folder home .contexts) (contextFile name) = .error .notFound := by
    intro name later
    rw [readContext, result_readEntry, readFound_eq_notFound]
  rw [readCurrent, result_bind_eq_error, hname]
  simp only [hcontext]

/-! ## The usual settings

Two files are read, and the first tells which the second one is. A missing file counts as a missing
context in both places. -/

/-- What a command that can do without a context finds out about the one in use. There is none for
it if and only if no name of a context is stored, or the context of the stored name is missing; it
is the context that is read under the stored name; and every other failure to read the name or the
context is kept. -/
theorem usual_settings_iff_missing (home : String) (world : World) :
    let named := readCurrentName (some home)
    let outcome := (readCurrent? (some home)).result world
    (outcome = .ok none
      ↔ lookIn world.volume (folder home .current) currentFile = .error .notFound ∨
        ∃ name, named.result world = .ok name ∧
          lookIn (named.after world).volume (folder home .contexts) (contextFile name)
            = .error .notFound) ∧
    (∀ context, outcome = .ok (some context)
      ↔ ∃ name, named.result world = .ok name ∧
        (readContext (some home) name).result (named.after world) = .ok context) ∧
    ∀ failure, outcome = .error failure
      ↔ failure ≠ .system .notFound ∧
        (named.result world = .error failure ∨ ∃ name, named.result world = .ok name ∧
          (readContext (some home) name).result (named.after world) = .error failure) := by
  intro named outcome
  have hcontext : ∀ context, (readCurrent (some home)).result world = .ok context
      ↔ ∃ name, named.result world = .ok name ∧
        (readContext (some home) name).result (named.after world) = .ok context :=
    fun context => result_bind_eq_ok
  have hfailure : ∀ failure, (readCurrent (some home)).result world = .error failure
      ↔ named.result world = .error failure ∨ ∃ name, named.result world = .ok name ∧
        (readContext (some home) name).result (named.after world) = .error failure :=
    fun failure => result_bind_eq_error
  -- The outcome is a function of what reading the context in use results in.
  have houtcome : outcome = _ := result_readCurrent? (some home) world
  rw [← result_readCurrent_eq_notFound]
  simp only [← hcontext, ← hfailure, houtcome]
  cases hread : (readCurrent (some home)).result world with
  | ok context => simp
  | error e =>
    by_cases hmissing : e = .system .notFound
    · subst hmissing
      have hother : ∀ failure : Failure, ¬ failure = .system .notFound →
          ¬ Failure.system .notFound = failure := fun failure hne => Ne.symm hne
      simpa [isMissing] using hother
    · -- With a home directory no other failure stands for a missing context.
      have hkept : ¬ isMissing e = true := by
        rw [isMissing_iff, not_or]
        exact ⟨hmissing, fun hhome => result_readCurrent_ne_noHome (hhome ▸ hread)⟩
      simp only [if_neg hkept]
      simp [hmissing]

/-- A name may be in use and no context be found: none was ever stored under it. -/
theorem not_context_kept_in_use :
    ¬ ∀ (home : String) (world : World) (name : String),
      (readCurrentName (some home)).result world = .ok name →
        (readCurrent? (some home)).result world ≠ .ok none := by
  intro h
  let selected := (writeCurrentName (some "/home") "gone").after
    { volume := { entries := [(["home"], .directory)] } }
  have hname : (readCurrentName (some "/home")).result selected = .ok "gone" := by
    decide +kernel
  have hnone : (readCurrent? (some "/home")).result selected = .ok none := by
    decide +kernel
  exact h "/home" selected "gone" hname hnone

end ODataQuery.Store
