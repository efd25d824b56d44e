import ODataQuery.Log

/-!
# Laws of computations that fail or log

A computation in steps succeeds if every step does (`bind_eq_ok_iff`). The messages of a computation come before those of what it goes on with, so computations that log
form a lawful monad. A computation succeeds if all its parts do (`Logged.result_bind_eq_ok`).
-/

namespace ODataQuery

/-- A sequence of computations that may fail succeeds if and only if both do. -/
theorem bind_eq_ok_iff {ε α β : Type} {x : Except ε α} {f : α → Except ε β} {b : β} :
    x >>= f = .ok b ↔ ∃ a, x = .ok a ∧ f a = .ok b := by
  cases x <;> simp [bind, Except.bind]

namespace Logged

variable {ε α β γ : Type}

/-- What follows a result adds its messages behind those that are there. -/
theorem bind_ok {log : List LogEntry} {a : α} (f : α → Logged ε β) :
    (⟨log, .ok a⟩ : Logged ε α) >>= f = ⟨log ++ (f a).log, (f a).result⟩ := rfl

theorem ofExcept_ok (a : α) : (ofExcept (.ok a) : Logged ε α) = Pure.pure a := rfl

theorem id_map (x : Logged ε α) : id <$> x = x := by
  obtain ⟨log, e | a⟩ := x
  · rfl
  · show (⟨log ++ [], .ok a⟩ : Logged ε α) = _
    rw [List.append_nil]

/-- Messages are appended in one order, however the steps are grouped. -/
theorem bind_assoc (x : Logged ε α) (f : α → Logged ε β) (g : β → Logged ε γ) :
    x >>= f >>= g = x >>= fun a => f a >>= g := by
  obtain ⟨log, e | a⟩ := x
  · rfl
  · rw [bind_ok, bind_ok]
    obtain ⟨log', e | b⟩ := f a
    · rfl
    · rw [bind_ok, bind_ok, List.append_assoc]

instance : LawfulMonad (Logged ε) := .mk' _ id_map (fun _ _ => rfl) bind_assoc

/-- What a computation results in depends on the results of its parts and not on what they log. -/
theorem result_bind (x : Logged ε α) (f : α → Logged ε β) :
    (x >>= f).result = x.result >>= fun a => (f a).result := by
  obtain ⟨log, e | a⟩ := x
  · rfl
  · rfl

/-- A computation succeeds if and only if its first part does and the second one does with the
result of the first. -/
theorem result_bind_eq_ok {x : Logged ε α} {f : α → Logged ε β} {b : β} :
    (x >>= f).result = .ok b ↔ ∃ a, x.result = .ok a ∧ (f a).result = .ok b := by
  obtain ⟨log, result⟩ := x
  show (Logged.bind ⟨log, result⟩ f).result = .ok b ↔ _
  cases result <;> simp [Logged.bind]

/-! ## Computations whose result does not matter

A computation that is used as a check only is compared with others after its result is dropped. -/

/-- A check whose result is dropped still succeeds where it did. -/
theorem result_discard_eq_ok {x : Logged ε α} :
    (x >>= fun _ => Pure.pure ()).result = .ok () ↔ ∃ a, x.result = .ok a := by
  rw [result_bind_eq_ok]
  exact exists_congr fun _ => and_iff_left rfl

/-- Dropping the result of a check keeps its error. -/
theorem result_discard_eq_error {x : Logged ε α} {e : ε} :
    (x >>= fun _ => Pure.pure ()).result = .error e ↔ x.result = .error e := by
  obtain ⟨log, e' | a⟩ := x
  · show (Except.error e' : Except ε Unit) = .error e ↔ (Except.error e' : Except ε α) = .error e
    rw [Except.error.injEq, Except.error.injEq]
  · show (Except.ok () : Except ε Unit) = .error e ↔ (Except.ok a : Except ε α) = .error e
    exact ⟨nofun, nofun⟩

end Logged

end ODataQuery
