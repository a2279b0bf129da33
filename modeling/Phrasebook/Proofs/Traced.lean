import Phrasebook.Journal

/-!
# Results and calls of steps in a row

What the result of a traced computation is and which calls it makes, one law for each way of
building it. A proof takes a computation apart with these laws and opens none of its steps.
-/

namespace Phrasebook.Traced

variable {ε δ α β : Type}

@[simp] theorem result_pure (a : α) : (pure a : Traced ε α).result = .ok a := rfl

@[simp] theorem result_ask (call : FileCall) (answer : Except ε α) :
    (ask call answer).result = answer := rfl

@[simp] theorem result_mapError (f : ε → δ) (x : Traced ε α) :
    (x.mapError f).result = x.result.mapError f := rfl

theorem result_bind_of_ok {x : Traced ε α} {a : α} (h : x.result = .ok a)
    (f : α → Traced ε β) : (x >>= f).result = (f a).result := by
  change (x.bind f).result = _
  rw [bind_of_ok h]

/-- A row of steps succeeds exactly if each of them does. -/
@[simp] theorem result_bind_eq_ok_iff {x : Traced ε α} {f : α → Traced ε β} {b : β} :
    (x >>= f).result = .ok b ↔ ∃ a, x.result = .ok a ∧ (f a).result = .ok b := by
  change (x.bind f).result = .ok b ↔ _
  cases h : x.result with
  | error e => simp [bind_of_error h]
  | ok a => simp [bind_of_ok h]

/-- A row of steps fails exactly if one of them does. -/
theorem result_bind_eq_error_iff {x : Traced ε α} {f : α → Traced ε β} {e : ε} :
    (x >>= f).result = .error e ↔
      x.result = .error e ∨ ∃ a, x.result = .ok a ∧ (f a).result = .error e := by
  change (x.bind f).result = .error e ↔ _
  cases h : x.result with
  | error e => simp [bind_of_error h]
  | ok a => simp [bind_of_ok h]

theorem journal_bind_of_ok {x : Traced ε α} {a : α} (h : x.result = .ok a)
    (f : α → Traced ε β) : (x >>= f).journal = x.journal ++ (f a).journal :=
  congrArg journal (bind_of_ok h f)

/-- Nothing is done after an error. -/
theorem journal_bind_of_error {x : Traced ε α} {e : ε} (h : x.result = .error e)
    (f : α → Traced ε β) : (x >>= f).journal = x.journal :=
  congrArg journal (bind_of_error h f)

@[simp] theorem calls_ask (call : FileCall) (answer : Except ε α) :
    (ask call answer).journal.calls = [call] := rfl

/-- A row of steps makes the calls of its steps, up to the one that fails. -/
theorem mem_calls_bind_iff {x : Traced ε α} {f : α → Traced ε β} {call : FileCall} :
    call ∈ (x >>= f).journal.calls ↔
      call ∈ x.journal.calls ∨ ∃ a, x.result = .ok a ∧ call ∈ (f a).journal.calls := by
  cases h : x.result with
  | error e => simp [journal_bind_of_error h]
  | ok a => simp [journal_bind_of_ok h]

/-- What comes behind a question depends on its answer alone. -/
theorem ask_bind_congr {call : FileCall} {a b : α} {f : α → Traced ε β} (h : f a = f b) :
    (ask call (.ok a) >>= f) = (ask call (.ok b) >>= f) := by
  change Traced.bind _ _ = Traced.bind _ _
  rw [bind_of_ok rfl, bind_of_ok rfl, h]
  rfl

end Phrasebook.Traced

namespace Phrasebook

@[simp] theorem mapError_eq_ok_iff {ε δ α : Type} {f : ε → δ} {x : Except ε α} {a : α} :
    x.mapError f = .ok a ↔ x = .ok a := by
  cases x with
  | error e =>
      constructor
      · intro h
        cases h
      · intro h
        cases h
  | ok b => rw [show (Except.ok b).mapError f = .ok b from rfl, Except.ok.injEq, Except.ok.injEq]

end Phrasebook
