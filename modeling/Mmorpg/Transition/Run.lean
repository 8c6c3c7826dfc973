import Mathlib.Data.List.Basic
import Mathlib.Data.List.Infix

/-!
# Runs of a labelled partial step function

A system is a function that takes a label and a state and may be undefined.  A
run executes a list of labels and is undefined as soon as one step is.  The
rules below carry facts about one step to facts about a whole run; the guarded
ones assume a side condition of every step of the run.
-/

namespace Mmorpg.Transition

universe u v w

variable {α : Type u} {σ : Type v} {ρ : Type w}

/-- Execute the labels in order. -/
def run (step : α → σ → Option σ) : List α → σ → Option σ
  | [], state => some state
  | label :: rest, state => (step label state).bind (run step rest)

variable {step : α → σ → Option σ}

@[simp]
theorem run_nil (state : σ) : run step [] state = some state :=
  rfl

theorem run_cons (label : α) (rest : List α) (state : σ) :
    run step (label :: rest) state = (step label state).bind (run step rest) :=
  rfl

/-- A run is a first step and the rest. -/
theorem run_cons_eq_some {label : α} {rest : List α} {source target : σ} :
    run step (label :: rest) source = some target ↔
      ∃ middle, step label source = some middle ∧ run step rest middle = some target := by
  rw [run_cons, Option.bind_eq_some_iff]

theorem run_append (first second : List α) (state : σ) :
    run step (first ++ second) state = (run step first state).bind (run step second) := by
  induction first generalizing state with
  | nil => rfl
  | cons label rest ih =>
      rw [List.cons_append, run_cons, run_cons, Option.bind_assoc]
      congr 1
      funext middle
      exact ih middle

/-- A run may be cut in two. -/
theorem run_append_eq_some {first second : List α} {source target : σ} :
    run step (first ++ second) source = some target ↔
      ∃ middle, run step first source = some middle ∧ run step second middle = some target := by
  rw [run_append, Option.bind_eq_some_iff]

/-! ## Side conditions along a run -/

/-- Every step of the run satisfies the side condition in the state in which
it is taken. -/
def Along (step : α → σ → Option σ) (condition : α → σ → Prop) : List α → σ → Prop
  | [], _ => True
  | label :: rest, state =>
      condition label state ∧ ∀ next, step label state = some next → Along step condition rest next

variable {condition : α → σ → Prop}

/-- A weaker condition holds along the same run. -/
theorem Along.mono {weaker : α → σ → Prop} (implies : ∀ label state,
    condition label state → weaker label state) {labels : List α} {state : σ}
    (along : Along step condition labels state) : Along step weaker labels state := by
  induction labels generalizing state with
  | nil => trivial
  | cons label rest ih => exact ⟨implies _ _ along.1, fun next taken => ih (along.2 next taken)⟩

/-- The condition along two runs, one after the other. -/
theorem Along.append {first second : List α} {state : σ}
    (along : Along step condition (first ++ second) state) :
    Along step condition first state ∧
      ∀ middle, run step first state = some middle → Along step condition second middle := by
  induction first generalizing state with
  | nil =>
      constructor
      · trivial
      · rintro middle same
        exact Option.some.inj same ▸ along
  | cons label rest ih =>
      constructor
      · exact ⟨along.1, fun next taken => (ih (along.2 next taken)).1⟩
      · intro middle ran
        rcases run_cons_eq_some.mp ran with ⟨next, taken, later⟩
        exact (ih (along.2 next taken)).2 middle later

/-- A condition on the labels alone may join in. -/
theorem Along.and_labels {labels : List α} {state : σ} {allowed : α → Prop}
    (along : Along step condition labels state) (every : ∀ label ∈ labels, allowed label) :
    Along step (fun label state => allowed label ∧ condition label state) labels state := by
  induction labels generalizing state with
  | nil => trivial
  | cons label rest ih =>
      constructor
      · exact ⟨every label List.mem_cons_self, along.1⟩
      · intro next taken
        exact ih (along.2 next taken) fun other member => every other (List.mem_cons_of_mem _ member)

/-- Check a decidable guard along a run. -/
def checkAlong (step : α → σ → Option σ) (check : α → σ → Bool) : List α → σ → Bool
  | [], _ => true
  | label :: rest, state =>
      check label state &&
        match step label state with
        | some next => checkAlong step check rest next
        | none => true

/-- A condition that can be computed is checked by running. -/
theorem along_of_check {check : α → σ → Bool} {labels : List α} {state : σ}
    (checked : checkAlong step check labels state = true) :
    Along step (fun label state => check label state = true) labels state := by
  induction labels generalizing state with
  | nil => trivial
  | cons label rest ih =>
      rcases Bool.and_eq_true_iff.mp checked with ⟨here, later⟩
      constructor
      · exact here
      · intro next taken
        rw [taken] at later
        exact ih later

/-- An invariant that every guarded step keeps holds after every guarded run. -/
theorem invariant_of_along {invariant : σ → Prop}
    (preserved : ∀ label state next, condition label state → step label state = some next →
      invariant state → invariant next)
    {labels : List α} {source target : σ} (along : Along step condition labels source)
    (ran : run step labels source = some target) (initially : invariant source) :
    invariant target := by
  induction labels generalizing source with
  | nil => exact Option.some.inj ran ▸ initially
  | cons label rest ih =>
      rcases run_cons_eq_some.mp ran with ⟨middle, taken, later⟩
      exact ih (along.2 middle taken) later (preserved _ _ _ along.1 taken initially)

/-- An invariant that every step keeps holds after every run. -/
theorem invariant_of_run {invariant : σ → Prop}
    (preserved : ∀ label state next, step label state = some next →
      invariant state → invariant next)
    {labels : List α} {source target : σ} (ran : run step labels source = some target)
    (initially : invariant source) : invariant target := by
  induction labels generalizing source with
  | nil => exact Option.some.inj ran ▸ initially
  | cons label rest ih =>
      rcases run_cons_eq_some.mp ran with ⟨middle, taken, later⟩
      exact ih later (preserved _ _ _ taken initially)

/-- A side condition may be weakened by what holds in every state of the run. -/
theorem Along.mono_of_invariant {weaker : α → σ → Prop} {invariant : σ → Prop}
    (preserved : ∀ label state next, step label state = some next →
      invariant state → invariant next)
    (implies : ∀ label state, invariant state → condition label state → weaker label state)
    {labels : List α} {state : σ} (along : Along step condition labels state)
    (initially : invariant state) : Along step weaker labels state := by
  induction labels generalizing state with
  | nil => trivial
  | cons label rest ih =>
      constructor
      · exact implies _ _ initially along.1
      · intro next taken
        exact ih (along.2 next taken) (preserved _ _ _ taken initially)

/-- A reflexive and transitive relation that holds across every step holds
across every run. -/
theorem relates_of_run {relates : σ → σ → Prop} (refl : ∀ state, relates state state)
    (trans : ∀ first second third, relates first second → relates second third →
      relates first third)
    (stepwise : ∀ label state next, step label state = some next → relates state next)
    {labels : List α} {source target : σ} (ran : run step labels source = some target) :
    relates source target := by
  induction labels generalizing source with
  | nil => exact Option.some.inj ran ▸ refl source
  | cons label rest ih =>
      rcases run_cons_eq_some.mp ran with ⟨middle, taken, later⟩
      exact trans _ _ _ (stepwise _ _ _ taken) (ih later)

/-- A run whose steps never fail under an invariant they keep completes. -/
theorem run_isSome {invariant : σ → Prop}
    (progress : ∀ label state, invariant state → ∃ next, step label state = some next ∧
      invariant next)
    (labels : List α) {source : σ} (initially : invariant source) :
    ∃ target, run step labels source = some target ∧ invariant target := by
  induction labels generalizing source with
  | nil => exact ⟨source, rfl, initially⟩
  | cons label rest ih =>
      rcases progress label source initially with ⟨middle, taken, kept⟩
      rcases ih kept with ⟨target, later, last⟩
      exact ⟨target, run_cons_eq_some.mpr ⟨middle, taken, later⟩, last⟩

/-! ## Logs -/

section Log

variable {log : σ → List ρ}

/-- Every guarded step appends at most one entry. -/
def AppendsOne (step : α → σ → Option σ) (condition : α → σ → Prop) (log : σ → List ρ) : Prop :=
  ∀ label state next, condition label state → step label state = some next →
    log next = log state ∨ ∃ entry, log next = log state ++ [entry]

/-- A log only grows. -/
theorem AppendsOne.prefix_of_run (appends : AppendsOne step condition log)
    {labels : List α} {source target : σ} (along : Along step condition labels source)
    (ran : run step labels source = some target) : log source <+: log target := by
  induction labels generalizing source with
  | nil => exact Option.some.inj ran ▸ List.prefix_refl _
  | cons label rest ih =>
      rcases run_cons_eq_some.mp ran with ⟨middle, taken, later⟩
      have grows : log source <+: log middle := by
        rcases appends label source middle along.1 taken with same | ⟨entry, appended⟩
        · rw [same]
        · rw [appended]
          exact List.prefix_append _ _
      exact grows.trans (ih (along.2 middle taken) later)

/-- Each prefix of the final log that covers the initial one is the log after
a prefix of the labels. -/
theorem AppendsOne.exists_take (appends : AppendsOne step condition log)
    {labels : List α} {source target : σ} (along : Along step condition labels source)
    (ran : run step labels source = some target) {kept : List ρ}
    (covers : log source <+: kept) (before : kept <+: log target) :
    ∃ count ≤ labels.length, ∃ middle, run step (labels.take count) source = some middle ∧
      log middle = kept := by
  induction labels generalizing source with
  | nil =>
      obtain rfl := Option.some.inj ran
      exact ⟨0, Nat.le_refl 0, source, rfl, covers.eq_of_length_le before.length_le⟩
  | cons label rest ih =>
      by_cases whole : kept = log source
      · exact ⟨0, Nat.zero_le _, source, rfl, whole.symm⟩
      · rcases run_cons_eq_some.mp ran with ⟨middle, taken, later⟩
        have reaches : log middle <+: log target :=
          appends.prefix_of_run (along.2 middle taken) later
        have covered : log middle <+: kept := by
          rcases appends label source middle along.1 taken with same | ⟨entry, appended⟩
          · rw [same]
            exact covers
          · apply List.prefix_of_prefix_length_le reaches before
            have longer : (log source).length ≠ kept.length :=
              fun same => whole (covers.eq_of_length same).symm
            have bound := covers.length_le
            rw [appended, List.length_append, List.length_singleton]
            omega
        rcases ih (along.2 middle taken) later covered with ⟨count, bound, state, reached, same⟩
        refine ⟨count + 1, Nat.succ_le_succ bound, state, ?_, same⟩
        rw [List.take_succ_cons]
        exact run_cons_eq_some.mpr ⟨middle, taken, reached⟩

end Log

end Mmorpg.Transition
