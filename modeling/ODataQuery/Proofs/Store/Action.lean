import ODataQuery.Store.Action

/-!
# Triples and results of actions

A `Triple` says what holds of the volume after an action, if something holds before: one thing where
the action gives a result, and another where it fails. A failure takes nothing back, so both are
about the volume as the action leaves it. `Keeps` is the case of an invariant.

`result` and `after` are what an action results in and the world that it leaves. A sequence goes on
from both of them (`result_bind`, `after_bind`), or ends with the first failure.
-/

namespace ODataQuery.Action

/-- After a volume of which `pre` holds, `post` holds of the result and the volume where the action
succeeds, and `fails` of the failure and the volume where it fails. -/
def Triple {α : Type} (pre : Volume → Prop) (x : Action α) (post : α → Volume → Prop)
    (fails : Failure → Volume → Prop) : Prop :=
  ∀ world, pre world.volume →
    match x.run world with
    | .ok a after => post a after.volume
    | .error failure after => fails failure after.volume

/-- The action leaves the invariant as it is, whether it succeeds or fails. -/
def Keeps {α : Type} (invariant : Volume → Prop) (x : Action α) : Prop :=
  Triple invariant x (fun _ => invariant) (fun _ => invariant)

variable {α β : Type} {pre : Volume → Prop} {post : α → Volume → Prop}
  {fails : Failure → Volume → Prop} {invariant : Volume → Prop}

namespace Triple

theorem consequence {pre' : Volume → Prop} {post' : α → Volume → Prop}
    {fails' : Failure → Volume → Prop} {x : Action α} (h : Triple pre' x post' fails')
    (hpre : ∀ volume, pre volume → pre' volume)
    (hpost : ∀ a volume, post' a volume → post a volume)
    (hfails : ∀ failure volume, fails' failure volume → fails failure volume) :
    Triple pre x post fails := by
  intro world hworld
  have hx := h world (hpre _ hworld)
  cases hrun : x.run world with
  | ok a after =>
    rw [hrun] at hx
    exact hpost a _ hx
  | error failure after =>
    rw [hrun] at hx
    exact hfails failure _ hx

/-- What two triples say of one action holds together. -/
theorem and {pre' : Volume → Prop} {post' : α → Volume → Prop} {fails' : Failure → Volume → Prop}
    {x : Action α} (h : Triple pre x post fails) (h' : Triple pre' x post' fails') :
    Triple (fun volume => pre volume ∧ pre' volume) x
      (fun a volume => post a volume ∧ post' a volume)
      (fun failure volume => fails failure volume ∧ fails' failure volume) := by
  rintro world ⟨hpre, hpre'⟩
  have hx := h world hpre
  have hx' := h' world hpre'
  cases hrun : x.run world with
  | ok a after =>
    rw [hrun] at hx hx'
    exact ⟨hx, hx'⟩
  | error failure after =>
    rw [hrun] at hx hx'
    exact ⟨hx, hx'⟩

/-! ## Rules of the monad

What an action does is followed along its steps: a sequence meets the first postcondition in
between, and a handler starts where the failure has left the volume. -/

/-- A sequence goes on from what holds after its first action. -/
theorem bind {x : Action α} {f : α → Action β} {post' : β → Volume → Prop}
    (hx : Triple pre x post fails) (hf : ∀ a, Triple (post a) (f a) post' fails) :
    Triple pre (x >>= f) post' fails := by
  intro world hworld
  have hx := hx world hworld
  show match EStateM.bind x f world with
    | .ok a after => post' a after.volume
    | .error failure after => fails failure after.volume
  -- A failure ends the sequence in the world where it happens.
  unfold EStateM.bind
  cases hrun : x world with
  | ok a after =>
    rw [EStateM.run, hrun] at hx
    exact hf a after hx
  | error failure after =>
    rw [EStateM.run, hrun] at hx
    exact hx

/-- What handles a failure starts from the volume that the failure left. -/
theorem tryCatch {x : Action α} {handle : Failure → Action α} {between : Failure → Volume → Prop}
    (hx : Triple pre x post between)
    (hhandle : ∀ failure, Triple (between failure) (handle failure) post fails) :
    Triple pre (MonadExcept.tryCatch x handle) post fails := by
  intro world hworld
  have hx := hx world hworld
  show match EStateM.tryCatch x handle world with
    | .ok a after => post a after.volume
    | .error failure after => fails failure after.volume
  -- The handler starts in the world where the action has failed.
  unfold EStateM.tryCatch
  cases hrun : x world with
  | ok a after =>
    rw [EStateM.run, hrun] at hx
    exact hx
  | error failure after =>
    rw [EStateM.run, hrun] at hx
    exact hhandle failure after hx

/-! ## Rules of the actions

The actions that touch the volume either give what a function of the volume gives or fail with its
error. Printing and logging do nothing to the volume. -/

theorem run_ofVolume (f : Volume → Except SystemError α) (world : World) :
    (Action.ofVolume f).run world = match f world.volume with
      | .ok a => .ok a world
      | .error e => .error (.system e) world := by
  show (match f world.volume with
    | .ok a => (Pure.pure a : Action α)
    | .error e => MonadExcept.throw (Failure.system e)) world = _
  cases f world.volume <;> rfl

/-- Asking the volume leaves it as it is. -/
theorem ofVolume (f : Volume → Except SystemError α) :
    Triple pre (Action.ofVolume f) (fun a volume => pre volume ∧ f volume = .ok a)
      (fun _ volume => pre volume ∧ ∃ e, f volume = .error e) := by
  intro world hworld
  rw [run_ofVolume]
  cases hf : f world.volume with
  | ok a => exact ⟨hworld, hf⟩
  | error e => exact ⟨hworld, e, hf⟩

/-- Anything but the volume may change without notice. -/
theorem modify {f : World → World} (hf : ∀ world, (f world).volume = world.volume) :
    Triple pre (modify f : Action Unit) (fun _ => pre) fails := by
  intro world hworld
  show pre (f world).volume
  rwa [hf]

/-- A change of the volume takes place or the volume stays as it is. -/
theorem change (f : Volume → Except SystemError Volume) :
    Triple pre (Action.change f) (fun _ after => ∃ volume, pre volume ∧ f volume = .ok after)
      (fun _ volume => pre volume ∧ ∃ e, f volume = .error e) := by
  refine bind (ofVolume f) fun after world hworld => ?_
  exact ⟨_, hworld⟩

/-- Reading a file leaves the volume as it is and fails where there is no file. -/
theorem readFile (path : String) :
    Triple pre (Action.readFile path)
      (fun text volume => pre volume ∧ volume.look path = .ok (.file text))
      (fun _ volume => pre volume ∧ ∀ text, volume.look path ≠ .ok (.file text)) := by
  refine bind ((ofVolume _).consequence (fun _ h => h) (fun _ _ h => h) ?_) ?_
  · rintro failure volume ⟨hpre, e, he⟩
    exact ⟨hpre, fun text htext => by simp [he] at htext⟩
  · intro entry
    cases entry with
    | file text => exact fun _ h => h
    | directory =>
      rintro world ⟨hpre, hlook⟩
      exact ⟨hpre, fun text htext => by simp [hlook] at htext⟩

/-- Reading a document does not touch the volume. -/
theorem ofDocument (r : Except Json.Fault α) :
    Triple pre (Action.ofDocument r) (fun a volume => pre volume ∧ r = .ok a)
      (fun _ volume => pre volume ∧ ∃ fault, r = .error fault) := by
  intro world hworld
  cases r with
  | ok a => exact ⟨hworld, rfl⟩
  | error fault => exact ⟨hworld, fault, rfl⟩

end Triple

/-! ## Invariants

An invariant is kept whether an action succeeds or fails, so it goes through sequences and handlers
unchanged. -/

namespace Keeps

theorem pure (a : α) : Keeps invariant (Pure.pure a) := fun _ h => h

theorem throw (failure : Failure) :
    Keeps invariant (MonadExcept.throw failure : Action α) := fun _ h => h

theorem bind {x : Action α} {f : α → Action β} (hx : Keeps invariant x)
    (hf : ∀ a, Keeps invariant (f a)) : Keeps invariant (x >>= f) := Triple.bind hx hf

theorem map {x : Action α} (f : α → β) (hx : Keeps invariant x) : Keeps invariant (f <$> x) := by
  intro world hworld
  have hx := hx world hworld
  show match EStateM.map f x world with
    | .ok _ after => invariant after.volume
    | .error _ after => invariant after.volume
  unfold EStateM.map
  cases hrun : x world with
  | ok a after =>
    rw [EStateM.run, hrun] at hx
    exact hx
  | error failure after =>
    rw [EStateM.run, hrun] at hx
    exact hx

theorem tryCatch {x : Action α} {handle : Failure → Action α} (hx : Keeps invariant x)
    (hhandle : ∀ failure, Keeps invariant (handle failure)) :
    Keeps invariant (MonadExcept.tryCatch x handle) := Triple.tryCatch hx hhandle

theorem printAll (lines : List String) : Keeps invariant (Action.printAll lines) :=
  Triple.modify fun _ => rfl

theorem ofVolume (f : Volume → Except SystemError α) : Keeps invariant (Action.ofVolume f) :=
  (Triple.ofVolume f).consequence (fun _ h => h) (fun _ _ h => h.1) (fun _ _ h => h.1)

theorem readFile (path : String) : Keeps invariant (Action.readFile path) :=
  (Triple.readFile path).consequence (fun _ h => h) (fun _ _ h => h.1) (fun _ _ h => h.1)

theorem ofDocument (r : Except Json.Fault α) : Keeps invariant (Action.ofDocument r) :=
  (Triple.ofDocument r).consequence (fun _ h => h) (fun _ _ h => h.1) (fun _ _ h => h.1)

theorem ofLogged (x : Logged FilterError α) : Keeps invariant (Action.ofLogged x) := by
  refine bind (Triple.modify fun _ => rfl) fun _ => ?_
  cases x.result with
  | ok a => exact pure a
  | error e => exact throw _

end Keeps

/-! ## Results

Where a result has to be computed and not only bounded, an action is run in a given world. These
rules take a sequence apart without unfolding the monad. -/

/-- What an action results in. -/
def result (x : Action α) (world : World) : Except Failure α :=
  match x.run world with
  | .ok a _ => .ok a
  | .error failure _ => .error failure

/-- The world that an action leaves, whether it succeeds or fails. -/
def after (x : Action α) (world : World) : World :=
  match x.run world with
  | .ok _ after => after
  | .error _ after => after

section Results

variable {x : Action α} {f : α → Action β} {world : World} {a : α} {failure : Failure}

theorem result_of_run {last : World} (h : x.run world = .ok a last) : x.result world = .ok a := by
  rw [result, h]

theorem after_of_run {last : World} (h : x.run world = .ok a last) : x.after world = last := by
  rw [after, h]

theorem run_of_result (h : x.result world = .ok a) : x.run world = .ok a (x.after world) := by
  rw [result] at h
  rw [after]
  split at h
  · next heq => rw [heq, Except.ok.inj h]
  · exact absurd h (by simp)

theorem run_of_result_error (h : x.result world = .error failure) :
    x.run world = .error failure (x.after world) := by
  rw [result] at h
  rw [after]
  split at h
  · exact absurd h (by simp)
  · next heq => rw [heq, Except.error.inj h]

/-- An action that cannot fail gives a result. -/
theorem Triple.exists_ok (h : Triple pre x post (fun _ _ => False)) (world : World)
    (hpre : pre world.volume) :
    ∃ a, x.result world = .ok a ∧ post a (x.after world).volume := by
  have hx := h world hpre
  rw [result, after]
  cases hrun : x.run world with
  | ok a last =>
    rw [hrun] at hx
    exact ⟨a, rfl, hx⟩
  | error failure last =>
    rw [hrun] at hx
    exact hx.elim

/-- An action that cannot succeed gives a failure. -/
theorem Triple.exists_error (h : Triple pre x (fun _ _ => False) fails) (world : World)
    (hpre : pre world.volume) :
    ∃ failure, x.result world = .error failure ∧ fails failure (x.after world).volume := by
  have hx := h world hpre
  rw [result, after]
  cases hrun : x.run world with
  | ok a last =>
    rw [hrun] at hx
    exact hx.elim
  | error failure last =>
    rw [hrun] at hx
    exact ⟨failure, rfl, hx⟩

theorem run_bind (h : x.result world = .ok a) :
    (x >>= f).run world = (f a).run (x.after world) := by
  have hrun := run_of_result h
  show EStateM.bind x f world = _
  unfold EStateM.bind
  rw [EStateM.run] at hrun
  rw [hrun]
  rfl

theorem run_bind_error (h : x.result world = .error failure) :
    (x >>= f).run world = .error failure (x.after world) := by
  have hrun := run_of_result_error h
  show EStateM.bind x f world = _
  unfold EStateM.bind
  rw [EStateM.run] at hrun
  rw [hrun]

/-- A sequence results in what its second action does in the world after the first one. -/
theorem result_bind (h : x.result world = .ok a) :
    (x >>= f).result world = (f a).result (x.after world) := by
  rw [result, run_bind h, result]

/-- A sequence fails if its first action does. -/
theorem result_bind_error (h : x.result world = .error failure) :
    (x >>= f).result world = .error failure := by
  rw [result, run_bind_error h]

/-- A sequence succeeds if both actions do. -/
theorem result_bind_eq_ok {b : β} :
    (x >>= f).result world = .ok b
      ↔ ∃ a, x.result world = .ok a ∧ (f a).result (x.after world) = .ok b := by
  cases h : x.result world with
  | ok a =>
    rw [result_bind h]
    exact ⟨fun hb => ⟨a, rfl, hb⟩, fun ⟨a', ha', hb⟩ => Except.ok.inj ha' ▸ hb⟩
  | error e =>
    rw [result_bind_error h]
    exact ⟨nofun, fun ⟨_, ha, _⟩ => absurd ha nofun⟩

/-- A sequence fails where its first part does, or where the second one does after the first. -/
theorem result_bind_eq_error :
    (x >>= f).result world = .error failure
      ↔ x.result world = .error failure ∨
        ∃ a, x.result world = .ok a ∧ (f a).result (x.after world) = .error failure := by
  -- The sequence fails in its first action or, after that, in its second one.
  cases h : x.result world with
  | ok a =>
    rw [result_bind h]
    constructor
    · exact fun hfails => .inr ⟨a, rfl, hfails⟩
    · rintro (hfails | ⟨a', ha', hfails⟩)
      · exact absurd hfails nofun
      · exact Except.ok.inj ha' ▸ hfails
  | error e =>
    rw [result_bind_error h]
    constructor
    · exact fun hfails => .inl (congrArg _ (Except.error.inj hfails))
    · rintro (hfails | ⟨a, ha, -⟩)
      · exact congrArg _ (Except.error.inj hfails)
      · exact absurd ha nofun

/-- The world after a sequence is that after its second action. -/
theorem after_bind (h : x.result world = .ok a) :
    (x >>= f).after world = (f a).after (x.after world) := by
  conv => lhs; rw [after, run_bind h]
  rfl

/-- If the first action fails, the second one changes nothing. -/
theorem after_bind_error (h : x.result world = .error failure) :
    (x >>= f).after world = x.after world := by
  conv => lhs; rw [after]
  rw [run_bind_error h]

/-- An action that succeeds is not handled. -/
theorem result_tryCatch {handle : Failure → Action α} (h : x.result world = .ok a) :
    (tryCatch x handle).result world = .ok a := by
  have hrun := run_of_result h
  show (match EStateM.tryCatch x handle world with
    | .ok a _ => Except.ok a
    | .error failure _ => .error failure) = _
  unfold EStateM.tryCatch
  rw [EStateM.run] at hrun
  rw [hrun]

theorem after_tryCatch {handle : Failure → Action α} (h : x.result world = .ok a) :
    (tryCatch x handle).after world = x.after world := by
  have hrun := run_of_result h
  show (match EStateM.tryCatch x handle world with
    | .ok _ after => after
    | .error _ after => after) = _
  unfold EStateM.tryCatch
  rw [EStateM.run] at hrun
  rw [hrun]

theorem run_tryCatch_error {handle : Failure → Action α} (h : x.result world = .error failure) :
    (tryCatch x handle).run world = (handle failure).run (x.after world) := by
  have hrun := run_of_result_error h
  show EStateM.tryCatch x handle world = _
  unfold EStateM.tryCatch
  rw [EStateM.run] at hrun
  rw [hrun]
  rfl

/-- A failure is handled in the world where it happens. -/
theorem result_tryCatch_error {handle : Failure → Action α} (h : x.result world = .error failure) :
    (tryCatch x handle).result world = (handle failure).result (x.after world) := by
  rw [result, run_tryCatch_error h, result]

theorem after_tryCatch_error {handle : Failure → Action α} (h : x.result world = .error failure) :
    (tryCatch x handle).after world = (handle failure).after (x.after world) := by
  conv => lhs; rw [after, run_tryCatch_error h]
  rfl

theorem run_ofLogged (logged : Logged FilterError α) (world : World) :
    (Action.ofLogged logged).run world = match logged.result with
      | .ok a => .ok a { world with log := world.log ++ logged.log }
      | .error e => .error (.filter e) { world with log := world.log ++ logged.log } := by
  obtain ⟨log, e | a⟩ := logged
  · rfl
  · rfl

theorem result_ofLogged (logged : Logged FilterError α) (world : World) :
    (Action.ofLogged logged).result world = logged.result.mapError Failure.filter := by
  obtain ⟨log, e | a⟩ := logged
  · rfl
  · rfl

theorem output_ofLogged (logged : Logged FilterError α) (world : World) :
    ((Action.ofLogged logged).after world).output = world.output := by
  obtain ⟨log, e | a⟩ := logged
  · rfl
  · rfl

theorem result_ofVolume (g : Volume → Except SystemError α) (world : World) :
    (Action.ofVolume g).result world = (g world.volume).mapError Failure.system := by
  rw [result, Triple.run_ofVolume]
  cases g world.volume <;> rfl

theorem after_ofVolume (g : Volume → Except SystemError α) (world : World) :
    (Action.ofVolume g).after world = world := by
  rw [after, Triple.run_ofVolume]
  cases g world.volume <;> rfl

theorem result_change (g : Volume → Except SystemError Volume) (world : World) :
    (Action.change g).result world
      = ((g world.volume).mapError Failure.system).map fun _ => () := by
  cases h : g world.volume with
  | ok volume =>
    have hasked : (Action.ofVolume g).result world = .ok volume := by
      rw [result_ofVolume, h]
      rfl
    exact result_bind hasked
  | error e =>
    have hasked : (Action.ofVolume g).result world = .error (.system e) := by
      rw [result_ofVolume, h]
      rfl
    exact result_bind_error hasked

theorem after_change {g : Volume → Except SystemError Volume} {volume : Volume}
    (h : g world.volume = .ok volume) :
    (Action.change g).after world = { world with volume } := by
  have hasked : (Action.ofVolume g).result world = .ok volume := by
    rw [result_ofVolume, h]
    rfl
  rw [Action.change, after_bind hasked, after_ofVolume]
  rfl

/-- A change that succeeds leaves the changed volume. -/
theorem volume_of_run_change {g : Volume → Except SystemError Volume} {last : World}
    (h : (Action.change g).run world = .ok () last) : g world.volume = .ok last.volume := by
  have hresult := result_of_run h
  rw [result_change] at hresult
  cases hg : g world.volume with
  | ok volume => rw [← after_of_run h, after_change hg]
  | error e =>
    rw [hg] at hresult
    exact absurd hresult nofun

end Results

end ODataQuery.Action
