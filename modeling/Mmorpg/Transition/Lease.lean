import Mathlib.Data.Fintype.Card
import Mathlib.Data.Finset.Card
import Mathlib.Data.List.Nodup
import Mathlib.Logic.Function.Basic

/-!
# Lent resources

A pool owns resources and lends them to borrowers, one to each at a time.  With
as many resources as borrowers there is one left for whoever has none.
-/

namespace Mmorpg.Transition

universe u v

variable {ι : Type u} {ρ : Type v}

/-- Every resource is idle or with one borrower. -/
structure Lent (owned idle : List ρ) (held : ι → Option ρ) : Prop where
  nodup : idle.Nodup
  covers : ∀ resource, resource ∈ owned ↔
    resource ∈ idle ∨ ∃ borrower, held borrower = some resource
  apart : ∀ borrower resource, held borrower = some resource → resource ∉ idle
  exclusive : ∀ first second resource, held first = some resource →
    held second = some resource → first = second

namespace Lent

variable {owned idle : List ρ} {held : ι → Option ρ} {borrower : ι} {resource : ρ}

theorem start (distinct : owned.Nodup) : Lent owned owned (fun _ : ι => none) where
  nodup := distinct
  covers _ := by simp
  apart _ _ holds := by contradiction
  exclusive _ _ _ holds := by contradiction

variable [DecidableEq ι]

/-- An idle resource goes to somebody who holds none. -/
theorem borrow (lent : Lent owned (idle ++ [resource]) held) (free : held borrower = none) :
    Lent owned idle (Function.update held borrower (some resource)) := by
  obtain ⟨unique, _, last⟩ := List.nodup_append.mp lent.nodup
  have absent : resource ∉ idle := fun member => last resource member resource (by simp) rfl
  have elsewhere : ∀ other, held other ≠ some resource := fun other holds =>
    lent.apart other resource holds (by simp)
  have holders : ∀ other found, Function.update held borrower (some resource) other = some found →
      other = borrower ∧ found = resource ∨ held other = some found := by
    intro other found holds
    rw [Function.update_apply] at holds
    split at holds
    · next same => exact .inl ⟨same, (Option.some.inj holds).symm⟩
    · exact .inr holds
  refine ⟨unique, fun found => ?_, fun other found holds => ?_, fun first second found one two => ?_⟩
  · rw [lent.covers found, List.mem_append, List.mem_singleton, or_assoc]
    refine or_congr_right ⟨?_, ?_⟩
    · rintro (rfl | ⟨other, holds⟩)
      · exact ⟨borrower, Function.update_self _ _ _⟩
      · refine ⟨other, ?_⟩
        rwa [Function.update_of_ne]
        rintro rfl
        rw [free] at holds
        contradiction
    · rintro ⟨other, holds⟩
      rcases holders other found holds with ⟨_, same⟩ | kept
      · exact .inl same
      · exact .inr ⟨other, kept⟩
  · rcases holders other found holds with ⟨_, rfl⟩ | kept
    · exact absent
    · exact fun member => lent.apart other found kept (List.mem_append_left _ member)
  · rcases holders first found one with ⟨rfl, rfl⟩ | early
    · rcases holders second found two with ⟨rfl, _⟩ | late
      · rfl
      · exact absurd late (elsewhere second)
    · rcases holders second found two with ⟨rfl, rfl⟩ | late
      · exact absurd early (elsewhere first)
      · exact lent.exclusive first second found early late

theorem giveBack (lent : Lent owned idle held) (holds : held borrower = some resource) :
    Lent owned (idle ++ [resource]) (Function.update held borrower none) := by
  have absent := lent.apart borrower resource holds
  have holders : ∀ other found, Function.update held borrower none other = some found →
      other ≠ borrower ∧ held other = some found := by
    intro other found kept
    rw [Function.update_apply] at kept
    split at kept
    · contradiction
    · next different => exact ⟨different, kept⟩
  refine ⟨?_, fun found => ?_, fun other found kept => ?_, fun first second found one two => ?_⟩
  · refine List.nodup_append.mpr ⟨lent.nodup, List.nodup_singleton _, ?_⟩
    rintro found member last isLast rfl
    exact absent (List.mem_singleton.mp isLast ▸ member)
  · rw [lent.covers found, List.mem_append, List.mem_singleton, or_assoc]
    refine or_congr_right ⟨?_, ?_⟩
    · rintro ⟨other, kept⟩
      by_cases same : other = borrower
      · subst same
        exact .inl (Option.some.inj (kept.symm.trans holds))
      · exact .inr ⟨other, (Function.update_of_ne same _ _).trans kept⟩
    · rintro (rfl | ⟨other, kept⟩)
      · exact ⟨borrower, holds⟩
      · exact ⟨other, (holders other found kept).2⟩
  · obtain ⟨different, old⟩ := holders other found kept
    intro member
    rcases List.mem_append.mp member with before | last
    · exact lent.apart other found old before
    · obtain rfl := List.mem_singleton.mp last
      exact different (lent.exclusive other borrower found old holds)
  · exact lent.exclusive first second found (holders first found one).2 (holders second found two).2

omit [DecidableEq ι] in
/-- Whoever has no resource leaves one of the owned ones idle. -/
theorem exists_idle [Fintype ι] (lent : Lent owned idle held) (distinct : owned.Nodup)
    (enough : Fintype.card ι ≤ owned.length) (free : held borrower = none) : idle ≠ [] := by
  classical
  intro empty
  have lends : ∀ resource : {found // found ∈ owned.toFinset}, ∃ other,
      held other = some resource.1 := by
    rintro ⟨found, member⟩
    rcases (lent.covers found).mp (List.mem_toFinset.mp member) with left | holds
    · exact absurd (empty ▸ left) List.not_mem_nil
    · exact holds
  choose holder holds using lends
  have injective : Function.Injective holder := by
    intro first second same
    have found := (holds first).symm.trans ((congrArg held same).trans (holds second))
    exact Subtype.ext (Option.some.inj found)
  have misses : ¬Function.Surjective holder := by
    intro onto
    obtain ⟨found, isHolder⟩ := onto borrower
    have lent_ := holds found
    rw [isHolder, free] at lent_
    contradiction
  have smaller := Fintype.card_lt_of_injective_not_surjective holder injective misses
  rw [Fintype.card_coe, List.toFinset_card_of_nodup distinct] at smaller
  omega

end Lent

end Mmorpg.Transition
