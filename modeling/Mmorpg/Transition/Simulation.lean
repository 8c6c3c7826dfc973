import Mmorpg.Transition.Run

/-!
# Forward simulation

A system simulates another when each of its steps is matched by a run of the
other one that shows the same visible actions.
-/

namespace Mmorpg.Transition

universe u v w x y

variable {α : Type u} {σ : Type v} {β : Type w} {τ : Type x} {γ : Type y}

/-- From related states, every step is matched by a run with the same visible
actions. -/
def Simulates (step : α → σ → Option σ) (spec : β → τ → Option τ) (visible : α → List γ)
    (specVisible : β → List γ) (relation : σ → τ → Prop) : Prop :=
  ∀ label state next abstract, step label state = some next → relation state abstract →
    ∃ labels abstractNext, run spec labels abstract = some abstractNext ∧
      labels.flatMap specVisible = visible label ∧ relation next abstractNext

namespace Simulates

variable {step : α → σ → Option σ} {spec : β → τ → Option τ} {visible : α → List γ}
  {specVisible : β → List γ} {relation : σ → τ → Prop}

/-- Every run is matched by a run with the same visible actions. -/
theorem run (simulates : Simulates step spec visible specVisible relation) {labels : List α}
    {source target : σ} {abstract : τ} (ran : run step labels source = some target)
    (related : relation source abstract) :
    ∃ specLabels specTarget, Transition.run spec specLabels abstract = some specTarget ∧
      specLabels.flatMap specVisible = labels.flatMap visible ∧ relation target specTarget := by
  induction labels generalizing source abstract with
  | nil =>
      obtain rfl := Option.some.inj ran
      exact ⟨[], abstract, rfl, rfl, related⟩
  | cons label rest ih =>
      rcases run_cons_eq_some.mp ran with ⟨middle, taken, later⟩
      rcases simulates label source middle abstract taken related with
        ⟨first, between, firstRan, firstShows, kept⟩
      rcases ih later kept with ⟨second, last, secondRan, secondShows, finally_⟩
      refine ⟨first ++ second, last, ?_, ?_, finally_⟩
      · exact run_append_eq_some.mpr ⟨between, firstRan, secondRan⟩
      · rw [List.flatMap_append, firstShows, secondShows, List.flatMap_cons]

end Simulates

/-! ## Matching one step -/

/-- A step that the specification does not see. -/
theorem simulated_silently {spec : β → τ → Option τ} {specVisible : β → List γ}
    {holds : τ → Prop} {abstract : τ} (related : holds abstract) :
    ∃ labels abstractNext, run spec labels abstract = some abstractNext ∧
      labels.flatMap specVisible = [] ∧ holds abstractNext :=
  ⟨[], abstract, rfl, rfl, related⟩

/-- A step that is one step of the specification. -/
theorem simulated_once {spec : β → τ → Option τ} {specVisible : β → List γ} {holds : τ → Prop}
    {abstract next : τ} {label : β} (taken : spec label abstract = some next)
    (related : holds next) :
    ∃ labels abstractNext, run spec labels abstract = some abstractNext ∧
      labels.flatMap specVisible = specVisible label ∧ holds abstractNext := by
  refine ⟨[label], next, ?_, ?_, related⟩
  · rw [run_cons, taken, Option.bind_some, run_nil]
  · rw [List.flatMap_cons, List.flatMap_nil, List.append_nil]

end Mmorpg.Transition
