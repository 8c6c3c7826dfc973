import Mathlib.Data.List.Sort
import Mathlib.Data.List.TakeWhile

/-!
# Priority queues

A queue kept in the order of a total transitive relation; the head is the next
element to leave.  Elements are compared by time stamp first and by sequence
number second.
-/

namespace Mmorpg.Transition

universe u

/-- A queue that is ordered by `before`. -/
structure PriorityQueue {α : Type u} (before : α → α → Prop) where
  elements : List α
  ordered : elements.Pairwise before

namespace PriorityQueue

variable {α : Type u} {before : α → α → Prop}

/-- No element. -/
def empty : PriorityQueue before :=
  ⟨[], List.Pairwise.nil⟩

@[simp]
theorem elements_empty : (empty : PriorityQueue before).elements = [] :=
  rfl

section Push

variable [DecidableRel before] [Std.Total before] [IsTrans α before]

/-- Insert an element where it belongs. -/
def push (element : α) (queue : PriorityQueue before) : PriorityQueue before where
  elements := queue.elements.orderedInsert before element
  ordered := queue.ordered.orderedInsert element _

@[simp]
theorem mem_push {element other : α} {queue : PriorityQueue before} :
    other ∈ (queue.push element).elements ↔ other = element ∨ other ∈ queue.elements :=
  List.mem_orderedInsert before

end Push

/-- Remove the head. -/
def pop (queue : PriorityQueue before) : Option (α × PriorityQueue before) :=
  match queue with
  | ⟨[], _⟩ => none
  | ⟨head :: rest, ordered⟩ => some (head, ⟨rest, (List.pairwise_cons.mp ordered).2⟩)

/-- Popping removes the head and nothing else. -/
theorem elements_of_pop {queue rest : PriorityQueue before} {head : α}
    (popped : queue.pop = some (head, rest)) : queue.elements = head :: rest.elements := by
  rcases queue with ⟨_ | ⟨first, others⟩, ordered⟩
  · simp [pop] at popped
  · simp only [pop, Option.some.injEq, Prod.mk.injEq] at popped
    rcases popped with ⟨rfl, rfl⟩
    rfl

/-- The popped element comes before everything that stays. -/
theorem before_of_pop {queue rest : PriorityQueue before} {head : α}
    (popped : queue.pop = some (head, rest)) : ∀ other ∈ rest.elements, before head other := by
  have ordered := queue.ordered
  rw [elements_of_pop popped, List.pairwise_cons] at ordered
  exact ordered.1

/-- Pop as long as the head is due. -/
def drain (due : α → Bool) (queue : PriorityQueue before) : List α × PriorityQueue before :=
  (queue.elements.takeWhile due,
    ⟨queue.elements.dropWhile due, queue.ordered.sublist (List.dropWhile_sublist due)⟩)

@[simp]
theorem drain_append (due : α → Bool) (queue : PriorityQueue before) :
    (queue.drain due).1 ++ (queue.drain due).2.elements = queue.elements :=
  List.takeWhile_append_dropWhile

/-- Only elements that are due are taken out. -/
theorem due_of_mem_drain {due : α → Bool} {queue : PriorityQueue before} {element : α}
    (member : element ∈ (queue.drain due).1) : due element = true :=
  List.mem_takeWhile_imp member

/-- Everything that is due is drained, if what comes before it is due too. -/
theorem mem_drain {due : α → Bool} {queue : PriorityQueue before} {element : α}
    (earlier : ∀ first second, before first second → due second = true → due first = true)
    (member : element ∈ queue.elements) (isDue : due element = true) :
    element ∈ (queue.drain due).1 := by
  rw [← drain_append due queue] at member
  rcases List.mem_append.mp member with drained | left
  · exact drained
  · have ordered := (queue.drain due).2.ordered
    rcases rest : (queue.drain due).2.elements with _ | ⟨first, others⟩
    · rw [rest] at left
      contradiction
    · have undue : due first = false := by
        have dropped : queue.elements.dropWhile due = first :: others := rest
        have head := List.head_dropWhile_not due (dropped ▸ List.cons_ne_nil first others)
        simpa only [dropped, List.head_cons] using head
      rw [rest] at left ordered
      have isFirst : due first = true := by
        rcases List.mem_cons.mp left with rfl | later
        · exact isDue
        · exact earlier _ _ ((List.pairwise_cons.mp ordered).1 _ later) isDue
      exact absurd isFirst (undue ▸ Bool.false_ne_true)

end PriorityQueue

/-! ## Time stamps -/

/-- A time stamp with the sequence number that breaks ties. -/
structure Stamp where
  wakeupTime : Nat
  sequence : Nat
  deriving DecidableEq, Repr

namespace Stamp

/-- The order of the event queues: earlier time first, then lower sequence. -/
def le (first second : Stamp) : Prop :=
  first.wakeupTime < second.wakeupTime ∨
    first.wakeupTime = second.wakeupTime ∧ first.sequence ≤ second.sequence

instance (first second : Stamp) : Decidable (le first second) :=
  inferInstanceAs (Decidable (_ ∨ _))

theorem le_total (first second : Stamp) : le first second ∨ le second first := by
  unfold le
  omega

theorem le_trans {first second third : Stamp} (one : le first second) (two : le second third) :
    le first third := by
  unfold le at *
  omega

theorem wakeupTime_le {first second : Stamp} (before : le first second) :
    first.wakeupTime ≤ second.wakeupTime := by
  unfold le at before
  omega

/-- An earlier or equal time with a lower sequence is strictly first. -/
theorem not_le_of_earlier {first second : Stamp} (time : first.wakeupTime ≤ second.wakeupTime)
    (sequence : first.sequence < second.sequence) : ¬le second first := by
  unfold le
  omega

end Stamp

end Mmorpg.Transition
