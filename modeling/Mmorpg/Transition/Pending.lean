import Mathlib.Data.List.Perm.Basic
import Mathlib.Algebra.BigOperators.Group.List.Basic
import Mathlib.Logic.Function.Basic

/-!
# Counting pending work

Work waits in a family of queues, one for each place, and in a list of events
that are removed by position.  The rules below say how the number of pending
elements of one kind changes when an element enters or leaves.
-/

namespace Mmorpg.Transition

universe u v w

variable {α : Type u} {ι : Type v} {κ : Type w}

/-! ## Lists of events -/

/-- Removing one event by its position. -/
theorem countP_eraseIdx (counted : α → Bool) {entries : List α} {index : Nat} {entry : α}
    (found : entries[index]? = some entry) :
    entries.countP counted =
      (entries.eraseIdx index).countP counted + if counted entry = true then 1 else 0 := by
  rw [List.getElem?_eq_some_iff] at found
  rcases found with ⟨bound, rfl⟩
  have moved := List.getElem_cons_eraseIdx_perm bound
  rw [← moved.countP_eq counted, List.countP_cons]

/-- Removing an event that the filter drops anyway. -/
theorem filter_eraseIdx (kept : α → Bool) {entries : List α} {index : Nat} {entry : α}
    (found : entries[index]? = some entry) (dropped : kept entry = false) :
    (entries.eraseIdx index).filter kept = entries.filter kept := by
  induction entries generalizing index with
  | nil => rfl
  | cons first rest ih =>
    cases index with
    | zero =>
      obtain rfl := Option.some.inj found
      rw [List.eraseIdx_cons_zero, List.filter_cons_of_neg]
      rw [dropped]
      exact Bool.false_ne_true
    | succ index =>
      rw [List.eraseIdx_cons_succ, List.filter_cons, List.filter_cons, ih found]

/-! ## Families of queues -/

section Queues

variable [DecidableEq ι] {queues : ι → List α} {place : ι} {element : α} {rest : List α}

/-- One more element at the end of a queue. -/
theorem countP_push (counted : α → Bool) (other : ι) :
    (Function.update queues place (queues place ++ [element]) other).countP counted =
      (queues other).countP counted + if other = place ∧ counted element = true then 1 else 0 := by
  rw [Function.update_apply]
  split
  · next same =>
    subst same
    rw [List.countP_append, List.countP_singleton]
    simp
  · next different => simp [different]

/-- The kept elements of a queue that grows at its end. -/
theorem filter_push (kept : α → Bool) (other : ι) :
    (Function.update queues place (queues place ++ [element]) other).filter kept =
      (queues other).filter kept ++ if other = place ∧ kept element = true then [element] else [] := by
  rw [Function.update_apply]
  split
  · next same =>
    subst same
    rw [List.filter_append, List.filter_singleton]
    simp [Bool.cond_eq_ite]
  · next different => simp [different]

/-- The kept elements of a queue that loses its head. -/
theorem filter_pop (kept : α → Bool) (queued : queues place = element :: rest) (other : ι) :
    (queues other).filter kept =
      (if other = place ∧ kept element = true then [element] else []) ++
        (Function.update queues place rest other).filter kept := by
  by_cases same : other = place
  · subst same
    rw [Function.update_self, queued, List.filter_cons]
    by_cases keeps : kept element = true
    · rw [if_pos keeps, if_pos ⟨rfl, keeps⟩]
      rfl
    · rw [if_neg keeps, if_neg fun both => keeps both.2]
      rfl
  · rw [Function.update_of_ne same, if_neg fun both => same both.1]
    rfl

/-- The head of a queue leaves. -/
theorem countP_pop (counted : α → Bool) (queued : queues place = element :: rest) (other : ι) :
    (queues other).countP counted =
      (Function.update queues place rest other).countP counted +
        if other = place ∧ counted element = true then 1 else 0 := by
  rw [Function.update_apply]
  split
  · next same =>
    subst same
    rw [queued, List.countP_cons]
    simp
  · next different => simp [different]

/-! ## Elements with keys -/

/-- No two elements of the queues have one key. -/
structure Distinct (keyOf : α → Option κ) (queues : ι → List α) : Prop where
  within : ∀ place, ((queues place).filterMap keyOf).Nodup
  across : ∀ first second key, key ∈ (queues first).filterMap keyOf →
    key ∈ (queues second).filterMap keyOf → first = second

variable {keyOf : α → Option κ} {key : κ}

omit [DecidableEq ι] in

/-- Taking elements away makes no duplicates. -/
theorem Distinct.sublist {smaller : ι → List α} (distinct : Distinct keyOf queues)
    (sublist : ∀ place, (smaller place).Sublist (queues place)) : Distinct keyOf smaller where
  within place := (distinct.within place).sublist ((sublist place).filterMap keyOf)
  across first second key one two := distinct.across first second key
    (((sublist first).filterMap keyOf).subset one) (((sublist second).filterMap keyOf).subset two)

/-- An element without a key joins. -/
theorem Distinct.push_none (distinct : Distinct keyOf queues) (noKey : keyOf element = none) :
    Distinct keyOf (Function.update queues place (queues place ++ [element])) := by
  have same : ∀ other, (Function.update queues place (queues place ++ [element]) other).filterMap
      keyOf = (queues other).filterMap keyOf := by
    intro other
    rw [Function.update_apply]
    split
    · next here => rw [List.filterMap_append, here]; simp [noKey]
    · rfl
  constructor
  · exact fun other => same other ▸ distinct.within other
  · intro first second key one two
    exact distinct.across first second key (same first ▸ one) (same second ▸ two)

/-- An element with a new key joins. -/
theorem Distinct.push_new (distinct : Distinct keyOf queues) (hasKey : keyOf element = some key)
    (new : ∀ other, key ∉ (queues other).filterMap keyOf) :
    Distinct keyOf (Function.update queues place (queues place ++ [element])) := by
  have keys : ∀ other, (Function.update queues place (queues place ++ [element]) other).filterMap
      keyOf = (queues other).filterMap keyOf ++ if other = place then [key] else [] := by
    intro other
    rw [Function.update_apply]
    split
    · next here => rw [List.filterMap_append, here]; simp [hasKey]
    · rw [List.append_nil]
  constructor
  · intro other
    rw [keys, List.nodup_append]
    refine ⟨distinct.within other, by split <;> simp, ?_⟩
    rintro old member last lastMember rfl
    split at lastMember
    · exact new other (List.mem_singleton.mp lastMember ▸ member)
    · exact absurd lastMember List.not_mem_nil
  · intro first second other one two
    rw [keys] at one two
    rcases List.mem_append.mp one with oldOne | newOne
    · rcases List.mem_append.mp two with oldTwo | newTwo
      · exact distinct.across first second other oldOne oldTwo
      · split at newTwo
        · exact absurd (List.mem_singleton.mp newTwo ▸ oldOne) (new first)
        · exact absurd newTwo List.not_mem_nil
    · split at newOne
      · next here =>
        rcases List.mem_append.mp two with oldTwo | newTwo
        · exact absurd (List.mem_singleton.mp newOne ▸ oldTwo) (new second)
        · split at newTwo
          · next there => exact here.trans there.symm
          · exact absurd newTwo List.not_mem_nil
      · exact absurd newOne List.not_mem_nil

/-- Once an element has left, its key is nowhere. -/
theorem Distinct.gone (distinct : Distinct keyOf queues) (queued : queues place = element :: rest)
    (hasKey : keyOf element = some key) (other : ι) :
    key ∉ (Function.update queues place rest other).filterMap keyOf := by
  have here : (queues place).filterMap keyOf = key :: rest.filterMap keyOf := by
    rw [queued, List.filterMap_cons, hasKey]
  intro member
  rw [Function.update_apply] at member
  split at member
  · have nodup := distinct.within place
    rw [here] at nodup
    exact (List.nodup_cons.mp nodup).1 member
  · next apart =>
    exact apart (distinct.across other place key member (here ▸ List.mem_cons_self))

end Queues

end Mmorpg.Transition
