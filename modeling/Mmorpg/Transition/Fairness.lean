import Mmorpg.Transition.Run

/-!
# Fair infinite runs

An infinite run of a partial step function is fair to an actor when the actor
moves again and again unless it is again and again unable to.  A measure that
the others do not raise and the actor lowers brings a fair run to its goal.
-/

namespace Mmorpg.Transition

universe u v

variable {α : Type u} {σ : Type v}

/-- An infinite run. -/
structure Trace (step : α → σ → Option σ) where
  label : Nat → α
  state : Nat → σ
  next : ∀ n, step (label n) (state n) = some (state (n + 1))

namespace Trace

variable {step : α → σ → Option σ}

/-- The labels of `actor` are taken, or all impossible, at arbitrarily late
times. -/
def Fair (trace : Trace step) (actor : α → Prop) : Prop :=
  ∀ n, ∃ m, n ≤ m ∧
    (actor (trace.label m) ∨ ∀ label, actor label → step label (trace.state m) = none)

/-- Every beginning of an infinite run is a run. -/
theorem run_take (trace : Trace step) (n : Nat) :
    run step ((List.range n).map trace.label) (trace.state 0) = some (trace.state n) := by
  induction n with
  | zero => rfl
  | succ n ih =>
      rw [List.range_succ, List.map_append, run_append, ih, Option.bind_some, List.map_singleton,
        run_cons, trace.next n]
      rfl

/-- Under an invariant, a fair actor that can always move reaches the goal
when its steps lower a measure that no step raises. -/
theorem eventually {actor : α → Prop} (trace : Trace step) (fair : trace.Fair actor)
    (invariant goal : σ → Prop) (measure : σ → Nat)
    (enabled : ∀ state, invariant state → ¬goal state →
      ∃ label, actor label ∧ step label state ≠ none)
    (stays : ∀ label state next, step label state = some next → invariant state → ¬goal state →
      goal next ∨ (invariant next ∧ measure next ≤ measure state ∧
        (actor label → measure next < measure state)))
    (n : Nat) (initially : invariant (trace.state n)) : ∃ m, n ≤ m ∧ goal (trace.state m) := by
  by_contra never
  rw [not_exists] at never
  have unreached : ∀ m, n ≤ m → ¬goal (trace.state m) := fun m later reached =>
    never m ⟨later, reached⟩
  have forward : ∀ first last, n ≤ first → first ≤ last → invariant (trace.state first) →
      invariant (trace.state last) ∧ measure (trace.state last) ≤ measure (trace.state first) := by
    intro first last from_ later holds
    induction last, later using Nat.le_induction with
    | base => exact ⟨holds, Nat.le_refl _⟩
    | succ last between ih =>
        rcases stays _ _ _ (trace.next last) ih.1 (unreached last (from_.trans between)) with
          reached | ⟨kept, lower, _⟩
        · exact absurd reached (unreached _ (from_.trans (between.trans (Nat.le_succ last))))
        · exact ⟨kept, lower.trans ih.2⟩
  have drops : ∀ first, n ≤ first → invariant (trace.state first) → ∃ later, n ≤ later ∧
      invariant (trace.state later) ∧
      measure (trace.state later) < measure (trace.state first) := by
    intro first from_ holds
    obtain ⟨m, later, moves⟩ := fair first
    obtain ⟨held, lower⟩ := forward first m from_ later holds
    have unreachedHere := unreached m (from_.trans later)
    have active : actor (trace.label m) := by
      refine moves.resolve_right fun stuck => ?_
      obtain ⟨label, isActor, possible⟩ := enabled _ held unreachedHere
      exact possible (stuck label isActor)
    have beyond : n ≤ m + 1 := from_.trans (later.trans (Nat.le_succ m))
    rcases stays _ _ _ (trace.next m) held unreachedHere with reached | ⟨kept, _, strictly⟩
    · exact absurd reached (unreached (m + 1) beyond)
    · exact ⟨m + 1, beyond, kept, (strictly active).trans_le lower⟩
  have descend : ∀ bound first, n ≤ first → invariant (trace.state first) →
      measure (trace.state first) ≤ bound → False := by
    intro bound
    induction bound with
    | zero =>
        intro first from_ holds small
        obtain ⟨later, _, _, less⟩ := drops first from_ holds
        omega
    | succ bound ih =>
        intro first from_ holds small
        obtain ⟨later, after, kept, less⟩ := drops first from_ holds
        exact ih later after kept (by omega)
  exact descend _ n (Nat.le_refl n) initially (Nat.le_refl _)

end Trace

end Mmorpg.Transition
