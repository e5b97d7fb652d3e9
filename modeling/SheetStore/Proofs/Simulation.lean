import Mathlib.Data.List.Forall2
import SheetStore.Proofs.Results

/-!
# Actions that answer alike

An action *refines* another one on a different kind of state if from related states both give the
same answer and leave states that are related again (`Refines`).  The second relation may be weaker
than the first.  Refinement follows the structure of actions: it holds of values, and of one action
after another (`Refines.pure`, `Refines.bind`).

An action *keeps* a property of states if it leaves states with the property (`Keeps`).

Actions are also run one after the other with all their answers noted, so that a failure does not
stop the run (`runSteps`).  What each of its steps keeps, a run keeps (`runSteps_keeps_of_mem`).  If
every step agrees and keeps two states related as long as its answer is allowed, then so does a run
whose answers are allowed (`runSteps_agrees`).  If the answers of each step are only related, then
so are those of a run, one by one (`runSteps_related`).
-/

namespace SheetStore

/-! ## Refinement -/

/-- From states related by `R` the actions give one answer and leave states related by `S`. -/
def Refines (R S : σ → τ → Prop) (x : EStateM ε σ α) (y : EStateM ε τ α) : Prop :=
  ∀ s t, R s t → answerOf (x s) = answerOf (y t) ∧ S (stateOf (x s)) (stateOf (y t))

namespace Refines

variable {R S T : σ → τ → Prop} {x : EStateM ε σ α} {y : EStateM ε τ α}

theorem pure (a : α) : Refines R R (pure a : EStateM ε σ α) (pure a : EStateM ε τ α) :=
  fun _ _ hR => ⟨rfl, hR⟩

theorem bind {f : α → EStateM ε σ β} {g : α → EStateM ε τ β} (hx : Refines R S x y)
    (hST : ∀ s t, S s t → T s t) (hf : ∀ a, Refines S T (f a) (g a)) :
    Refines R T (x >>= f) (y >>= g) := by
  intro s t hR
  obtain ⟨hanswer, hS⟩ := hx s t hR
  cases hy : answerOf (y t) with
  | ok a =>
      rw [hy] at hanswer
      rw [bind_of_ok (eq_ok_of_answerOf hanswer), bind_of_ok (eq_ok_of_answerOf hy)]
      exact hf a _ _ hS
  | error e =>
      rw [hy] at hanswer
      rw [bind_of_error (eq_error_of_answerOf hanswer), bind_of_error (eq_error_of_answerOf hy)]
      exact ⟨rfl, hST _ _ hS⟩

theorem map (hx : Refines R S x y) (f : α → β) : Refines R S (f <$> x) (f <$> y) := by
  intro s t hR
  obtain ⟨hanswer, hS⟩ := hx s t hR
  rw [answer_map, answer_map, state_map, state_map, hanswer]
  exact ⟨rfl, hS⟩

end Refines

/-! ## What an action keeps -/

/-- The action leaves a state with the property, if it starts in one. -/
def Keeps (p : σ → Prop) (x : EStateM ε σ α) : Prop := ∀ s, p s → p (stateOf (x s))

namespace Keeps

variable {p : σ → Prop} {x : EStateM ε σ α}

theorem pure (a : α) : Keeps p (pure a : EStateM ε σ α) := fun _ hs => hs

theorem bind {f : α → EStateM ε σ β} (hx : Keeps p x) (hf : ∀ a, Keeps p (f a)) :
    Keeps p (x >>= f) := by
  intro s hs
  have hleft := hx s hs
  cases hanswer : answerOf (x s) with
  | ok a =>
      rw [bind_of_ok (eq_ok_of_answerOf hanswer)]
      exact hf a _ hleft
  | error e =>
      rw [bind_of_error (eq_error_of_answerOf hanswer)]
      exact hleft

theorem map (hx : Keeps p x) (f : α → β) : Keeps p (f <$> x) := by
  intro s hs
  rw [state_map]
  exact hx s hs

end Keeps

/-! ## Runs -/

/-- Takes the steps one after the other, from the state that the one before leaves.  The result is
all answers and the last state. -/
def runSteps (step : ι → EStateM ε σ α) : List ι → σ → List (Except ε α) × σ
  | [], s => ([], s)
  | i :: rest, s =>
      let later := runSteps step rest (stateOf (step i s))
      (answerOf (step i s) :: later.1, later.2)

theorem runSteps_cons (step : ι → EStateM ε σ α) (i : ι) (rest : List ι) (s : σ) :
    runSteps step (i :: rest) s
      = (answerOf (step i s) :: (runSteps step rest (stateOf (step i s))).1,
        (runSteps step rest (stateOf (step i s))).2) := rfl

/-- What each of the steps keeps, a run keeps. -/
theorem runSteps_keeps_of_mem {p : σ → Prop} {step : ι → EStateM ε σ α} {steps : List ι}
    (hstep : ∀ i ∈ steps, ∀ s, p s → p (stateOf (step i s))) {s : σ} (h : p s) :
    p (runSteps step steps s).2 := by
  induction steps generalizing s with
  | nil => exact h
  | cons i rest ih =>
      rw [List.forall_mem_cons] at hstep
      exact ih hstep.2 (hstep.1 s h)

/-- What every step keeps, a run keeps. -/
theorem runSteps_keeps {p : σ → Prop} {step : ι → EStateM ε σ α}
    (hstep : ∀ i s, p s → p (stateOf (step i s))) (steps : List ι) {s : σ} (h : p s) :
    p (runSteps step steps s).2 :=
  runSteps_keeps_of_mem (fun i _ => hstep i) h

/-- Runs agree if their steps do, and states stay related as long as the answers are allowed. -/
theorem runSteps_agrees {R : σ → τ → Prop} (allowed : Except ε α → Prop)
    {step : ι → EStateM ε σ α} {step' : ι → EStateM ε τ α}
    (hstep : ∀ i s t, R s t → answerOf (step i s) = answerOf (step' i t) ∧
      (allowed (answerOf (step' i t)) → R (stateOf (step i s)) (stateOf (step' i t))))
    (steps : List ι) {s : σ} {t : τ} (h : R s t)
    (hallowed : ∀ a ∈ (runSteps step' steps t).1, allowed a) :
    (runSteps step steps s).1 = (runSteps step' steps t).1 ∧
      R (runSteps step steps s).2 (runSteps step' steps t).2 := by
  induction steps generalizing s t with
  | nil => exact ⟨rfl, h⟩
  | cons i rest ih =>
      obtain ⟨hanswer, hnext⟩ := hstep i s t h
      rw [runSteps_cons, List.forall_mem_cons] at hallowed
      obtain ⟨hanswers, hlast⟩ := ih (hnext hallowed.1) hallowed.2
      rw [runSteps_cons, runSteps_cons, hanswer, hanswers]
      exact ⟨rfl, hlast⟩

/-- The answers to some steps at the beginning are the first answers. -/
theorem runSteps_take (step : ι → EStateM ε σ α) (steps : List ι) (n : Nat) (s : σ) :
    (runSteps step (steps.take n) s).1 = (runSteps step steps s).1.take n := by
  induction steps generalizing n s with
  | nil => rw [List.take_nil, runSteps, List.take_nil]
  | cons i rest ih =>
      cases n with
      | zero => rfl
      | succ n => rw [List.take_succ_cons, runSteps_cons, runSteps_cons, ih, List.take_succ_cons]

/-- Runs have related answers if their steps do and keep the states related. -/
theorem runSteps_related {R : σ → τ → Prop} {related : Except ε α → Except ε α → Prop}
    {step : ι → EStateM ε σ α} {step' : ι → EStateM ε τ α} {steps : List ι}
    (hstep : ∀ i ∈ steps, ∀ s t, R s t → related (answerOf (step i s)) (answerOf (step' i t)) ∧
      R (stateOf (step i s)) (stateOf (step' i t))) {s : σ} {t : τ} (h : R s t) :
    List.Forall₂ related (runSteps step steps s).1 (runSteps step' steps t).1 := by
  induction steps generalizing s t with
  | nil => exact .nil
  | cons i rest ih =>
      rw [List.forall_mem_cons] at hstep
      obtain ⟨hanswer, hnext⟩ := hstep.1 s t h
      rw [runSteps_cons, runSteps_cons]
      exact .cons hanswer (ih hstep.2 hnext)

end SheetStore
