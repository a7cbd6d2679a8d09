/-! Outcomes of steps that may fail. A condition holds of the value of each step that has one, and
each failure is excused; the rules below carry both from steps to what is put together of them. -/

namespace Steward

variable {ε σ α β : Type} {excused : ε → Prop}

def Meets (good : α → Prop) (excused : ε → Prop) : Except ε α → Prop
  | .ok value => good value
  | .error failure => excused failure

def Anything : α → Prop := fun _ => True

namespace Meets

variable {good better : α → Prop} {result : Except ε α}

theorem weaken (meets : Meets good excused result) (implies : ∀ value, good value → better value) :
    Meets better excused result := by
  cases result with
  | ok value => exact implies value meets
  | error failure => exact meets

theorem excuse {other : ε → Prop} (meets : Meets good excused result)
    (implies : ∀ failure, excused failure → other failure) : Meets good other result := by
  cases result with
  | ok value => exact meets
  | error failure => exact implies failure meets

theorem ite {condition : Prop} [Decidable condition] {other : Except ε α}
    (holds : condition → Meets good excused result)
    (fails : ¬condition → Meets good excused other) :
    Meets good excused (if condition then result else other) := by
  split
  · exact holds ‹_›
  · exact fails ‹_›

theorem bind {next : α → Except ε β} {last : β → Prop} (meets : Meets good excused result)
    (continues : ∀ value, good value → Meets last excused (next value)) :
    Meets last excused (result >>= next) := by
  cases result with
  | ok value => exact continues value meets
  | error failure => exact meets

end Meets

/-- From each state that meets a condition, an action ends in a result and a state as they should
be, or with an excused failure. -/
def Runs (before : σ → Prop) (action : StateT σ (Except ε) α) (after : α → σ → Prop)
    (excused : ε → Prop) : Prop :=
  ∀ state, before state → Meets (fun ended => after ended.1 ended.2) excused (action.run state)

namespace Runs

variable {before stronger : σ → Prop} {middle : β → σ → Prop} {after weaker : α → σ → Prop}
  {action : StateT σ (Except ε) α}

theorem strengthen (runs : Runs before action after excused)
    (implies : ∀ state, stronger state → before state) : Runs stronger action after excused :=
  fun state holds => runs state (implies state holds)

/-- What holds whatever the state may be used on the way. -/
theorem given {fact : Prop} (runs : fact → Runs before action after excused) :
    Runs (fun state => before state ∧ fact) action after excused :=
  fun state holds => runs holds.2 state holds.1

theorem weaken (runs : Runs before action after excused)
    (implies : ∀ value state, after value state → weaker value state) :
    Runs before action weaker excused :=
  fun state holds => (runs state holds).weaken fun ended => implies ended.1 ended.2

theorem pure {value : α} (holds : ∀ state, before state → after value state) :
    Runs before (Pure.pure value) after excused :=
  holds

theorem bind {first : StateT σ (Except ε) β} {next : β → StateT σ (Except ε) α}
    (begins : Runs before first middle excused)
    (continues : ∀ value, Runs (middle value) (next value) after excused) :
    Runs before (first >>= next) after excused := by
  intro state holds
  rw [StateT.run_bind]
  exact (begins state holds).bind fun ended reached => continues ended.1 ended.2 reached

/-- A state that is looked at stays as it is. -/
theorem read {next : σ → StateT σ (Except ε) α}
    (continues : ∀ state, before state → Runs (· = state) (next state) after excused) :
    Runs before (get >>= next) after excused :=
  fun state holds => continues state holds state rfl

theorem modify {change : σ → σ} {after : PUnit → σ → Prop}
    (holds : ∀ state, before state → after ⟨⟩ (change state)) :
    Runs before (modify change) after excused :=
  holds

theorem set {state : σ} {after : PUnit → σ → Prop} (holds : ∀ old, before old → after ⟨⟩ state) :
    Runs before (set state) after excused :=
  holds

theorem throw {failure : ε} (excuse : excused failure) :
    Runs before (MonadExcept.throw failure) after excused :=
  fun _ _ => excuse

theorem lift {result : Except ε α} {good : α → Prop} (meets : Meets good excused result)
    (holds : ∀ value state, good value → before state → after value state) :
    Runs before (liftM result) after excused := by
  intro state begins
  cases result with
  | ok value => exact holds value state meets begins
  | error failure => exact meets

theorem ite {condition : Prop} [Decidable condition] {other : StateT σ (Except ε) α}
    (holds : condition → Runs before action after excused)
    (fails : ¬condition → Runs before other after excused) :
    Runs before (if condition then action else other) after excused := by
  split
  · exact holds ‹_›
  · exact fails ‹_›

/-- Each item is worked on in a state that meets the condition, and leaves one. -/
theorem mapM {step : β → StateT σ (Except ε) α} {items : List β}
    (steps : ∀ item ∈ items, Runs before (step item) (fun _ => before) excused) :
    Runs before (items.mapM step) (fun _ => before) excused := by
  induction items with
  | nil =>
      rw [List.mapM_nil]
      exact .pure fun _ holds => holds
  | cons item rest induction =>
      rw [List.mapM_cons]
      refine .bind (steps item List.mem_cons_self) fun _ => ?_
      refine .bind (induction fun other member => steps other (List.mem_cons_of_mem _ member)) ?_
      exact fun _ => .pure fun _ holds => holds

end Runs

end Steward
