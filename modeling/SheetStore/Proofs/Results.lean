/-!
# Results of chains

A chain of questions succeeds if each of them does, on the value of the one before (`of_bind_ok`),
and fails with the first that fails (`of_bind_error`).

The result of an action on a state has two parts, what it *answers*, a value or a failure, and the
state that it *leaves*, which a failure leaves too.  In a chain of actions a value is handed to the
next action together with the state, and a failure is the answer of the whole.
-/

namespace SheetStore

/-! ## Questions -/

/-- Both parts of a chain that succeeds succeed. -/
theorem of_bind_ok {x : Except ε α} {f : α → Except ε β} {b : β} (h : (x >>= f) = .ok b) :
    ∃ a, x = .ok a ∧ f a = .ok b := by
  cases x with
  | error e => cases h
  | ok a => exact ⟨a, rfl, h⟩

/-- A chain fails with its first part or with its second. -/
theorem of_bind_error {x : Except ε α} {f : α → Except ε β} {e : ε} (h : (x >>= f) = .error e) :
    x = .error e ∨ ∃ a, x = .ok a ∧ f a = .error e := by
  cases x with
  | error e' =>
      cases h
      exact .inl rfl
  | ok a => exact .inr ⟨a, rfl, h⟩

/-! ## Actions -/

theorem bind_of_ok {x : EStateM ε σ α} {f : α → EStateM ε σ β} {s s' : σ} {a : α}
    (h : x s = .ok a s') : (x >>= f) s = f a s' := by
  show EStateM.bind x f s = _
  rw [EStateM.bind, h]

theorem bind_of_error {x : EStateM ε σ α} {f : α → EStateM ε σ β} {s s' : σ} {e : ε}
    (h : x s = .error e s') : (x >>= f) s = .error e s' := by
  show EStateM.bind x f s = _
  rw [EStateM.bind, h]

/-- Both parts of a chain of actions that succeeds succeed. -/
theorem of_bind_eq_ok {x : EStateM ε σ α} {f : α → EStateM ε σ β} {s s'' : σ} {b : β}
    (h : (x >>= f) s = .ok b s'') : ∃ a s', x s = .ok a s' ∧ f a s' = .ok b s'' := by
  cases hx : x s with
  | ok a s' => exact ⟨a, s', rfl, (bind_of_ok hx).symm.trans h⟩
  | error e s' => cases (bind_of_error hx).symm.trans h

/-- A chain of actions fails with its first part or with its second. -/
theorem of_bind_eq_error {x : EStateM ε σ α} {f : α → EStateM ε σ β} {s s'' : σ} {e : ε}
    (h : (x >>= f) s = .error e s'') :
    x s = .error e s'' ∨ ∃ a s', x s = .ok a s' ∧ f a s' = .error e s'' := by
  cases hx : x s with
  | ok a s' => exact .inr ⟨a, s', rfl, (bind_of_ok hx).symm.trans h⟩
  | error e' s' =>
      cases (bind_of_error hx).symm.trans h
      exact .inl rfl

/-- The value or the failure of a result. -/
def answerOf : EStateM.Result ε σ α → Except ε α
  | .ok a _ => .ok a
  | .error e _ => .error e

/-- The state that a result leaves. -/
def stateOf : EStateM.Result ε σ α → σ
  | .ok _ s => s
  | .error _ s => s

theorem eq_ok_of_answerOf {x : EStateM.Result ε σ α} {a : α} (h : answerOf x = .ok a) :
    x = .ok a (stateOf x) := by
  cases x with
  | ok b s =>
      cases h
      rfl
  | error e s => cases h

theorem eq_error_of_answerOf {x : EStateM.Result ε σ α} {e : ε} (h : answerOf x = .error e) :
    x = .error e (stateOf x) := by
  cases x with
  | ok b s => cases h
  | error e' s =>
      cases h
      rfl

theorem answer_map (f : α → β) (x : EStateM ε σ α) (s : σ) :
    answerOf ((f <$> x) s) = (answerOf (x s)).map f := by
  show answerOf (EStateM.map f x s) = _
  rw [EStateM.map]
  cases x s <;> rfl

theorem state_map (f : α → β) (x : EStateM ε σ α) (s : σ) :
    stateOf ((f <$> x) s) = stateOf (x s) := by
  show stateOf (EStateM.map f x s) = _
  rw [EStateM.map]
  cases x s <;> rfl

end SheetStore
