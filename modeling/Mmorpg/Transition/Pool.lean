import Mathlib.Logic.Function.Basic
import Mathlib.Data.List.Nodup

/-!
# Queues through recycled cells

Work is put into cells of a shared memory; a free list keeps the cells that are
not in use with whatever they held.  As long as every cell has one place, the
queues behave like queues of values: what is taken is what was put, whatever
the other queues do in between.
-/

namespace Mmorpg.Transition

universe u v

/-- A memory of cells, the free ones, and for every queue the cells in it. -/
structure Pool (κ : Type u) (α : Type v) where
  memory : Nat → α
  allocated : Nat
  freeList : List Nat
  queues : κ → List Nat

namespace Pool

variable {κ : Type u} {α : Type v} [DecidableEq κ]

/-- Nothing allocated; new cells hold `fresh`. -/
def start (fresh : α) : Pool κ α where
  memory := fun _ => fresh
  allocated := 0
  freeList := []
  queues := fun _ => []

/-- The last freed cell, or a new one. -/
def acquire (pool : Pool κ α) : Nat × Pool κ α :=
  match pool.freeList with
  | cell :: rest => (cell, { pool with freeList := rest })
  | [] => (pool.allocated, { pool with allocated := pool.allocated + 1 })

/-- A change of one queue. -/
def setQueue (queue : κ) (cells : List Nat) (pool : Pool κ α) : Pool κ α :=
  { pool with queues := Function.update pool.queues queue cells }

/-- A change of what a cell holds. -/
def write (cell : Nat) (content : α) (pool : Pool κ α) : Pool κ α :=
  { pool with memory := Function.update pool.memory cell content }

/-- Fill a cell over what it held and queue it. -/
def put (fill : α → α) (queue : κ) (pool : Pool κ α) : Pool κ α :=
  let (cell, rest) := pool.acquire
  (rest.setQueue queue (rest.queues queue ++ [cell])).write cell (fill (rest.memory cell))

/-- Take the first cell of a queue, and free it with `clear` applied. -/
def take (clear : α → α) (queue : κ) (pool : Pool κ α) : Option (α × Pool κ α) :=
  match pool.queues queue with
  | [] => none
  | cell :: rest =>
      some (pool.memory cell,
        { (pool.setQueue queue rest).write cell (clear (pool.memory cell)) with
          freeList := cell :: pool.freeList })

/-- What lies in a queue. -/
def contents (queue : κ) (pool : Pool κ α) : List α :=
  (pool.queues queue).map pool.memory

/-! ## Exclusive cells -/

/-- The free list, or a queue. -/
def place (pool : Pool κ α) : Option κ → List Nat
  | none => pool.freeList
  | some queue => pool.queues queue

/-- Every cell in use is in one place, once. -/
structure Exclusive (pool : Pool κ α) : Prop where
  nodup : ∀ at_, (pool.place at_).Nodup
  single : ∀ first second, ∀ cell ∈ pool.place first, cell ∈ pool.place second → first = second
  bound : ∀ at_, ∀ cell ∈ pool.place at_, cell < pool.allocated

/-- A cell that has been handed out and not been queued yet. -/
structure Spare (cell : Nat) (pool : Pool κ α) : Prop where
  unplaced : ∀ at_, cell ∉ pool.place at_
  bound : cell < pool.allocated

omit [DecidableEq κ] in

theorem start_exclusive (fresh : α) : Exclusive (start fresh : Pool κ α) := by
  have nowhere : ∀ at_, (start fresh : Pool κ α).place at_ = [] := by
    intro at_
    cases at_ <;> rfl
  refine ⟨fun at_ => nowhere at_ ▸ List.nodup_nil, fun first _ cell member => ?_,
    fun at_ cell member => ?_⟩
  · rw [nowhere first] at member
    exact absurd member List.not_mem_nil
  · rw [nowhere at_] at member
    exact absurd member List.not_mem_nil

variable {pool : Pool κ α} {cell : Nat}

omit [DecidableEq κ] in

/-- The cell handed out is in no queue, or it is new. -/
theorem Exclusive.acquire (exclusive : Exclusive pool) :
    Exclusive pool.acquire.2 ∧ Spare pool.acquire.1 pool.acquire.2 := by
  obtain ⟨nodup, single, bound⟩ := exclusive
  rw [Pool.acquire]
  split
  · next cell rest free =>
    have whole : pool.place none = cell :: rest := free
    have parts : (cell :: rest).Nodup := whole ▸ nodup none
    have listed : cell ∈ pool.place none := whole ▸ List.mem_cons_self
    have shrunk : ∀ at_, (({ pool with freeList := rest } : Pool κ α).place at_).Sublist
        (pool.place at_) := by
      intro at_
      cases at_ with
      | none =>
          rw [whole]
          exact List.sublist_cons_self cell rest
      | some queue => exact List.Sublist.refl _
    refine ⟨⟨fun at_ => (shrunk at_).nodup (nodup at_), fun first second other one two =>
      single first second other ((shrunk first).subset one) ((shrunk second).subset two),
      fun at_ other member => bound at_ other ((shrunk at_).subset member)⟩, ?_, ?_⟩
    · intro at_ member
      obtain rfl := single at_ none cell ((shrunk at_).subset member) listed
      exact (List.nodup_cons.mp parts).1 member
    · exact bound none cell listed
  · exact ⟨⟨nodup, single, fun at_ other member => Nat.lt_succ_of_lt (bound at_ other member)⟩,
      fun at_ member => Nat.lt_irrefl _ (bound at_ _ member), Nat.lt_succ_self _⟩

theorem place_setQueue (queue : κ) (cells : List Nat) (at_ : Option κ) :
    (pool.setQueue queue cells).place at_ = if at_ = some queue then cells else pool.place at_ := by
  cases at_ with
  | none => rfl
  | some other =>
      simp only [place, setQueue, Function.update_apply, Option.some.injEq]

/-- A spare cell gets a place. -/
theorem Exclusive.add {next : Pool κ α} (exclusive : Exclusive pool) (spare : Spare cell pool)
    (here : Option κ) (allocated : next.allocated = pool.allocated)
    (grown : ∀ at_, (next.place at_).Perm
      (if at_ = here then cell :: pool.place at_ else pool.place at_)) : Exclusive next := by
  obtain ⟨nodup, single, bound⟩ := exclusive
  have placed : ∀ at_ other, other ∈ next.place at_ →
      other ∈ pool.place at_ ∨ at_ = here ∧ other = cell := by
    intro at_ other member
    have listed := (grown at_).mem_iff.mp member
    split at listed
    · next same =>
      rcases List.mem_cons.mp listed with new | old
      · exact .inr ⟨same, new⟩
      · exact .inl old
    · exact .inl listed
  refine ⟨fun at_ => ?_, fun first second other one two => ?_, fun at_ other member => ?_⟩
  · rw [(grown at_).nodup_iff]
    split
    · exact List.nodup_cons.mpr ⟨spare.unplaced at_, nodup at_⟩
    · exact nodup at_
  · rcases placed first other one with early | ⟨atHere, same⟩
    · rcases placed second other two with late | ⟨_, same⟩
      · exact single first second other early late
      · exact absurd (same ▸ early) (spare.unplaced first)
    · rcases placed second other two with late | ⟨alsoHere, _⟩
      · exact absurd (same ▸ late) (spare.unplaced second)
      · exact atHere.trans alsoHere.symm
  · rw [allocated]
    rcases placed at_ other member with old | ⟨_, same⟩
    · exact bound at_ other old
    · exact same ▸ spare.bound

theorem Exclusive.queue (exclusive : Exclusive pool) (spare : Spare cell pool) (queue : κ) :
    Exclusive (pool.setQueue queue (pool.queues queue ++ [cell])) := by
  refine exclusive.add spare (some queue) rfl fun at_ => ?_
  rw [place_setQueue]
  split
  · next same =>
    subst same
    exact List.perm_append_singleton cell (pool.queues queue)
  · exact List.Perm.refl _

theorem Exclusive.free (exclusive : Exclusive pool) (spare : Spare cell pool) :
    Exclusive { pool with freeList := cell :: pool.freeList } := by
  refine exclusive.add spare none rfl fun at_ => ?_
  cases at_ <;> exact List.Perm.refl _

/-- Taking the first cell out of a queue. -/
theorem Exclusive.unqueue (exclusive : Exclusive pool) {queue : κ} {rest : List Nat}
    (queued : pool.queues queue = cell :: rest) :
    Exclusive (pool.setQueue queue rest) ∧ Spare cell (pool.setQueue queue rest) := by
  obtain ⟨nodup, single, bound⟩ := exclusive
  have whole : pool.place (some queue) = cell :: rest := queued
  have listed : cell ∈ pool.place (some queue) := whole ▸ List.mem_cons_self
  have shrunk : ∀ at_, ((pool.setQueue queue rest).place at_).Sublist (pool.place at_) := by
    intro at_
    rw [place_setQueue]
    split
    · next same =>
      rw [same, whole]
      exact List.sublist_cons_self cell rest
    · exact List.Sublist.refl _
  refine ⟨⟨fun at_ => (shrunk at_).nodup (nodup at_), fun first second other one two =>
    single first second other ((shrunk first).subset one) ((shrunk second).subset two),
    fun at_ other member => bound at_ other ((shrunk at_).subset member)⟩, ?_, ?_⟩
  · intro at_ member
    obtain rfl := single at_ (some queue) cell ((shrunk at_).subset member) listed
    rw [place_setQueue, if_pos rfl] at member
    exact (List.nodup_cons.mp (whole ▸ nodup (some queue))).1 member
  · exact bound (some queue) cell listed

/-! ## Queues of values -/

omit [DecidableEq κ] in
theorem acquire_queues : pool.acquire.2.queues = pool.queues := by
  rw [acquire]
  split <;> rfl

omit [DecidableEq κ] in
theorem acquire_memory : pool.acquire.2.memory = pool.memory := by
  rw [acquire]
  split <;> rfl

/-- Writing to a cell that is not in the queue. -/
theorem map_memory_update {memory : Nat → α} {cells : List Nat} (content : α)
    (absent : cell ∉ cells) :
    cells.map (Function.update memory cell content) = cells.map memory :=
  List.map_congr_left fun other member =>
    Function.update_of_ne (fun same : other = cell => absent (same ▸ member)) content memory

/-- A new element goes into a cell of its own. -/
theorem Exclusive.put (exclusive : Exclusive pool) (fill : α → α) (queue : κ) :
    Exclusive (pool.put fill queue) := by
  obtain ⟨kept, spare⟩ := exclusive.acquire
  have queued := kept.queue spare queue
  exact ⟨queued.nodup, queued.single, queued.bound⟩

/-- A put adds the filled cell at the end of its queue and leaves the others. -/
theorem Exclusive.contents_put (exclusive : Exclusive pool) (fill : α → α) (queue : κ) :
    ∃ held, ∀ other, (pool.put fill queue).contents other =
      pool.contents other ++ if other = queue then [fill held] else [] := by
  have spare := exclusive.acquire.2
  refine ⟨pool.acquire.2.memory pool.acquire.1, fun other => ?_⟩
  have absent : pool.acquire.1 ∉ pool.queues other := by
    have unplaced := spare.unplaced (some other)
    rwa [place, acquire_queues] at unplaced
  rw [contents, contents, Pool.put]
  simp only [write, setQueue, acquire_queues, acquire_memory, Function.update_apply]
  split
  · next same =>
    subst same
    rw [List.map_append, map_memory_update _ absent, List.map_singleton, Function.update_self]
  · rw [map_memory_update _ absent, List.append_nil]

variable {clear : α → α} {queue : κ} {content : α} {next : Pool κ α}

/-- A take removes the first cell of its queue and leaves the others. -/
theorem Exclusive.take (exclusive : Exclusive pool)
    (taken : pool.take clear queue = some (content, next)) : Exclusive next ∧
      pool.contents queue = content :: next.contents queue ∧
      ∀ other, other ≠ queue → next.contents other = pool.contents other := by
  rw [Pool.take] at taken
  split at taken
  · contradiction
  · next cell rest queued =>
    obtain ⟨rfl, rfl⟩ := Prod.mk.inj (Option.some.inj taken)
    obtain ⟨kept, spare⟩ := exclusive.unqueue queued
    have freed := kept.free spare
    have absent : ∀ other, cell ∉ (pool.setQueue queue rest).queues other :=
      fun other => spare.unplaced (some other)
    refine ⟨⟨freed.nodup, freed.single, freed.bound⟩, ?_, ?_⟩
    · have gone := absent queue
      simp only [setQueue, Function.update_self] at gone
      simp only [contents, queued, List.map_cons, setQueue, write, Function.update_self]
      rw [map_memory_update _ gone]
    · intro other different
      have gone := absent other
      simp only [setQueue, Function.update_of_ne different] at gone
      simp only [contents, setQueue, write, Function.update_of_ne different]
      exact map_memory_update _ gone

/-- A queue that is not empty can be taken from. -/
theorem take_isSome (clear : α → α) (some_ : pool.contents queue ≠ []) :
    (pool.take clear queue).isSome := by
  rw [Pool.take]
  split
  · next empty => exact absurd (by rw [contents, empty, List.map_nil]) some_
  · rfl

end Pool

end Mmorpg.Transition
