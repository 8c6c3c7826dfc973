import Mmorpg.Transition.PriorityQueue

/-!
# A timer in front of a queue

Events wait in a timer with their stamps, leave it in the order of the stamps,
and then wait in a queue.  Read together, queue and timer are one line of
events that are served from its head; a new event enters the line somewhere in
the part that is still in the timer.
-/

namespace Mmorpg.Transition

universe u v

variable {α : Type u} {κ : Type v} {kind : α → κ}

/-- Pairs in the order of their stamps. -/
def stampOrder (first second : α × Stamp) : Prop :=
  Stamp.le first.2 second.2

instance : DecidableRel (stampOrder (α := α)) :=
  fun first second => inferInstanceAs (Decidable (Stamp.le first.2 second.2))

instance : Std.Total (stampOrder (α := α)) :=
  ⟨fun first second => Stamp.le_total first.2 second.2⟩

instance : IsTrans (α × Stamp) stampOrder :=
  ⟨fun _ _ _ => Stamp.le_trans⟩

/-- The line reads the queue first and then the timer in the order of its
stamps. -/
def Timeline (kind : α → κ) (queued : List κ) (pairs : List (α × Stamp)) (line : List κ) : Prop :=
  ∃ sorted : List (α × Stamp), sorted.Perm pairs ∧
    sorted.Pairwise stampOrder ∧
      line = queued ++ sorted.map fun pair => kind pair.1

/-- One new element somewhere in a list. -/
def Inserted (element : κ) (old new : List κ) : Prop :=
  ∃ front back, old = front ++ back ∧ new = front ++ element :: back

theorem Inserted.perm {element : κ} {old new : List κ} (inserted : Inserted element old new) :
    new.Perm (element :: old) := by
  rcases inserted with ⟨front, back, rfl, rfl⟩
  exact List.perm_middle

theorem inserted_nil {element : κ} {new : List κ} (inserted : Inserted element [] new) :
    new = [element] :=
  List.perm_singleton.mp inserted.perm

theorem inserted_singleton {element other : κ} {new : List κ}
    (inserted : Inserted element [other] new) : new = [element, other] ∨ new = [other, element] := by
  rcases inserted with ⟨front, back, old, rfl⟩
  cases front with
  | nil =>
    rw [List.nil_append] at old
    exact .inl (old ▸ rfl)
  | cons first rest =>
    rw [List.cons_append, List.cons.injEq] at old
    rcases List.append_eq_nil_iff.mp old.2.symm with ⟨rfl, rfl⟩
    exact .inr (old.1 ▸ rfl)

namespace Stamp

theorem le_antisymm {first second : Stamp} (one : le first second) (two : le second first) :
    first = second := by
  rcases first with ⟨firstTime, firstSequence⟩
  rcases second with ⟨secondTime, secondSequence⟩
  unfold le at one two
  dsimp only at one two
  simp only [mk.injEq]
  omega

end Stamp

namespace Timeline

variable {queued line : List κ} {pairs rest : List (α × Stamp)} {event : α} {stamp : Stamp}

theorem nil : Timeline kind ([] : List κ) [] [] :=
  ⟨[], List.Perm.refl _, List.Pairwise.nil, rfl⟩

/-- The line shows exactly what is pending. -/
theorem perm (timeline : Timeline kind queued pairs line) :
    line.Perm (queued ++ pairs.map fun pair => kind pair.1) := by
  rcases timeline with ⟨sorted, same, _, rfl⟩
  exact (same.map _).append_left queued

/-- A new event takes its place among the events of the timer. -/
theorem push (timeline : Timeline kind queued pairs line) (event : α) (stamp : Stamp) :
    ∃ longer, Inserted (kind event) line longer ∧
      Timeline kind queued (pairs ++ [(event, stamp)]) longer := by
  rcases timeline with ⟨sorted, same, ordered, rfl⟩
  have split : sorted.orderedInsert stampOrder (event, stamp) =
      (sorted.takeWhile fun pair => ¬stampOrder (event, stamp) pair) ++
        (event, stamp) :: sorted.dropWhile fun pair => ¬stampOrder (event, stamp) pair :=
    List.orderedInsert_eq_take_drop _ _ _
  refine ⟨queued ++ (sorted.orderedInsert stampOrder (event, stamp)).map fun pair => kind pair.1,
    ?_, ?_⟩
  · rw [split, List.map_append, List.map_cons, ← List.append_assoc]
    refine ⟨_, _, ?_, rfl⟩
    rw [List.append_assoc, ← List.map_append, List.takeWhile_append_dropWhile]
  · refine ⟨_, ?_, List.Pairwise.orderedInsert _ _ ordered, rfl⟩
    refine (List.perm_orderedInsert stampOrder (event, stamp) sorted).trans ?_
    exact (same.cons _).trans (List.perm_append_singleton (event, stamp) pairs).symm

/-- An event that is due after all others waits at the end. -/
theorem pushLast (timeline : Timeline kind queued pairs line)
    (last : ∀ pair ∈ pairs, Stamp.le pair.2 stamp) :
    Timeline kind queued (pairs ++ [(event, stamp)]) (line ++ [kind event]) := by
  rcases timeline with ⟨sorted, same, ordered, rfl⟩
  refine ⟨sorted ++ [(event, stamp)], same.append_right _, ?_, ?_⟩
  · rw [List.pairwise_append]
    refine ⟨ordered, List.pairwise_singleton _ _, ?_⟩
    intro pair member other single
    rw [List.mem_singleton.mp single]
    exact last pair (same.mem_iff.mp member)
  · rw [List.map_append, List.append_assoc]
    rfl

/-- The event with the least stamp moves to the queue, and the line stays. -/
theorem fire (timeline : Timeline kind queued pairs line)
    (distinct : (pairs.map Prod.snd).Nodup) (taken : pairs.Perm ((event, stamp) :: rest))
    (least : ∀ pair ∈ pairs, Stamp.le stamp pair.2) :
    Timeline kind (queued ++ [kind event]) rest line := by
  rcases timeline with ⟨sorted, same, ordered, rfl⟩
  have whole := same.trans taken
  cases sorted with
  | nil => exact absurd whole.length_eq (by simp)
  | cons head others =>
    have headFirst : Stamp.le head.2 stamp := by
      rcases List.mem_cons.mp (whole.mem_iff.mpr List.mem_cons_self) with first | later
      · rw [← first]
        exact (Stamp.le_total _ _).elim id id
      · exact (List.pairwise_cons.mp ordered).1 _ later
    have sameStamp : head.2 = stamp :=
      Stamp.le_antisymm headFirst (least head (same.mem_iff.mp List.mem_cons_self))
    have isHead : head = (event, stamp) := by
      have unique : ((head :: others).map Prod.snd).Nodup :=
        (same.map Prod.snd).nodup_iff.mpr distinct
      apply List.inj_on_of_nodup_map unique List.mem_cons_self
        (whole.mem_iff.mpr List.mem_cons_self)
      exact sameStamp
    subst isHead
    refine ⟨others, whole.cons_inv, (List.pairwise_cons.mp ordered).2, ?_⟩
    rw [List.map_cons, List.append_assoc]
    rfl

/-- The head of the queue is the head of the line. -/
theorem pop {head : κ} (timeline : Timeline kind (head :: queued) pairs line) :
    ∃ shorter, line = head :: shorter ∧ Timeline kind queued pairs shorter := by
  rcases timeline with ⟨sorted, same, ordered, rfl⟩
  exact ⟨_, rfl, sorted, same, ordered, rfl⟩

end Timeline

/-! ## Growing timers -/

/-- Events are added one after the other; each is due at its delay after the
reading of a clock that never goes back. -/
inductive Grown (delay : α → Nat) (clock : Nat) (pairs : List (α × Stamp)) :
    Nat → List (α × Stamp) → Prop
  | refl : Grown delay clock pairs clock pairs
  | wait {early late : Nat} {grown : List (α × Stamp)} : Grown delay clock pairs early grown →
      early ≤ late → Grown delay clock pairs late grown
  | add {early reading : Nat} {grown : List (α × Stamp)} (event : α) (sequence : Nat) :
      Grown delay clock pairs early grown → early ≤ reading →
      Grown delay clock pairs reading (grown ++ [(event, ⟨reading + delay event, sequence⟩)])

namespace Grown

variable {delay : α → Nat} {clock late : Nat} {pairs grown : List (α × Stamp)}

theorem clock_le (grows : Grown delay clock pairs late grown) : clock ≤ late := by
  induction grows with
  | refl => exact Nat.le_refl _
  | wait _ later ih => exact ih.trans later
  | add _ _ _ later ih => exact ih.trans later

theorem prefix_of (grows : Grown delay clock pairs late grown) : pairs <+: grown := by
  induction grows with
  | refl => exact List.prefix_refl _
  | wait _ _ ih => exact ih
  | add _ _ _ _ ih => exact ih.trans (List.prefix_append _ _)

/-- Nothing was added. -/
theorem eq_of_length (grows : Grown delay clock pairs late grown)
    (same : grown.length = pairs.length) : grown = pairs :=
  (grows.prefix_of.eq_of_length same.symm).symm

/-- The event that was added last. -/
theorem last {event : α} {stamp : Stamp} {earlier : List (α × Stamp)}
    (grows : Grown delay clock pairs late (earlier ++ [(event, stamp)]))
    (longer : pairs.length ≤ earlier.length) :
    ∃ early reading, Grown delay clock pairs early earlier ∧ early ≤ reading ∧ reading ≤ late ∧
      stamp.wakeupTime = reading + delay event := by
  generalize all : earlier ++ [(event, stamp)] = grown at grows
  induction grows with
  | refl =>
    rw [← all, List.length_append, List.length_singleton] at longer
    omega
  | wait _ later ih =>
    rcases ih all with ⟨early, reading, grows, first, second, due⟩
    exact ⟨early, reading, grows, first, second.trans later, due⟩
  | @add early reading grown added sequence grows later ih =>
    rcases List.append_inj' all rfl with ⟨rfl, same⟩
    obtain ⟨rfl, rfl⟩ := Prod.mk.inj (List.singleton_inj.mp same)
    exact ⟨early, reading, grows, later, Nat.le_refl _, rfl⟩

end Grown

end Mmorpg.Transition
