import Mathlib.Data.Finset.Card
import Mathlib.Data.List.Chain
import Mathlib.Data.List.Sort

/-!
# A* search with a consistent estimate

A search over unit-cost neighbours that keeps stale queue entries, a closed set
and overwritable parents.  The queue hands out some element of least total
cost; which one is open.  With an estimate that changes by at most one along an
edge, a vertex is closed with its exact distance, so the walk back along the
parents is a shortest path.
-/

namespace Mmorpg.Search

universe u

variable {V : Type u}

/-- `Walk neighbors start vertex length`: `length` steps lead to `vertex`. -/
inductive Walk (neighbors : V → List V) (start : V) : V → Nat → Prop
  | refl : Walk neighbors start start 0
  | step {vertex next : V} {length : Nat} :
      Walk neighbors start vertex length → next ∈ neighbors vertex →
        Walk neighbors start next (length + 1)

/-- A first step may be put in front of a walk. -/
theorem Walk.prepend {neighbors : V → List V} {start first vertex : V} {length : Nat}
    (edge : first ∈ neighbors start) (walk : Walk neighbors first vertex length) :
    Walk neighbors start vertex (length + 1) := by
  induction walk with
  | refl => exact Walk.step Walk.refl edge
  | step _ linked ih => exact Walk.step ih linked

/-- A linked list of vertices is a walk to its last vertex. -/
theorem Walk.of_chain {neighbors : V → List V} {start : V} {route : List V}
    (linked : (start :: route).IsChain fun earlier later => later ∈ neighbors earlier) :
    Walk neighbors start ((start :: route).getLast (List.cons_ne_nil _ _)) route.length := by
  induction route generalizing start with
  | nil => exact Walk.refl
  | cons first rest ih =>
      rw [List.isChain_cons_cons] at linked
      rw [List.getLast_cons (List.cons_ne_nil first rest)]
      exact Walk.prepend linked.1 (ih linked.2)

/-- Every vertex but the first of a linked list is entered from another. -/
theorem exists_earlier_of_chain {edge : V → V → Prop} {start vertex : V} {route : List V}
    (linked : (start :: route).IsChain edge) (among : vertex ∈ route) :
    ∃ earlier, edge earlier vertex := by
  induction route generalizing start with
  | nil => exact absurd among List.not_mem_nil
  | cons first rest ih =>
      rw [List.isChain_cons_cons] at linked
      rcases List.mem_cons.mp among with rfl | later
      · exact ⟨start, linked.1⟩
      · exact ih linked.2 later

/-- An entry of the open set: a vertex with its costs. -/
structure Node (V : Type u) where
  position : V
  gCost : Nat
  hCost : Nat
  fCost : Nat
  deriving DecidableEq, Repr

/-- A way to take an element of least total cost out of a queue. -/
structure PopOrder (V : Type u) where
  pop : List (Node V) → Option (Node V × List (Node V))
  eq_nil_of_pop : ∀ queue, pop queue = none → queue = []
  perm_of_pop : ∀ {queue node rest}, pop queue = some (node, rest) → queue.Perm (node :: rest)
  least_of_pop : ∀ {queue node rest}, pop queue = some (node, rest) →
    ∀ other ∈ rest, node.fCost ≤ other.fCost

/-- Keep the queue sorted and take its head. -/
def PopOrder.sorted : PopOrder V where
  pop queue :=
    match queue.insertionSort fun node other => node.fCost ≤ other.fCost with
    | [] => none
    | node :: rest => some (node, rest)
  eq_nil_of_pop queue popped := by
    have same := queue.perm_insertionSort fun node other => node.fCost ≤ other.fCost
    cases shape : queue.insertionSort fun node other => node.fCost ≤ other.fCost with
    | nil => exact List.Perm.eq_nil (shape ▸ same).symm
    | cons node rest => simp only [shape, reduceCtorEq] at popped
  perm_of_pop {queue node rest} popped := by
    have same := queue.perm_insertionSort fun node other => node.fCost ≤ other.fCost
    cases shape : queue.insertionSort fun node other => node.fCost ≤ other.fCost with
    | nil => simp only [shape, reduceCtorEq] at popped
    | cons first others =>
        simp only [shape, Option.some.injEq, Prod.mk.injEq] at popped
        rcases popped with ⟨rfl, rfl⟩
        exact (shape ▸ same).symm
  least_of_pop {queue node rest} popped := by
    have ordered := queue.pairwise_insertionSort fun node other => node.fCost ≤ other.fCost
    cases shape : queue.insertionSort fun node other => node.fCost ≤ other.fCost with
    | nil => simp only [shape, reduceCtorEq] at popped
    | cons first others =>
        simp only [shape, Option.some.injEq, Prod.mk.injEq] at popped
        rcases popped with ⟨rfl, rfl⟩
        rw [shape, List.pairwise_cons] at ordered
        exact ordered.1

/-- The search: the open set, the predecessor and the best cost of each vertex
seen, and the vertices that are done. -/
structure State (V : Type u) where
  openSet : List (Node V)
  cameFrom : V → Option V
  gScores : V → Option Nat
  closedSet : Finset V

section Algorithm

variable [DecidableEq V] [Inhabited V] (neighbors : V → List V) (heuristic : V → Nat)

/-- Only the start is open. -/
def State.initial (start : V) : State V where
  openSet := [⟨start, 0, heuristic start, heuristic start⟩]
  cameFrom := Function.update (fun _ => none) start (some start)
  gScores := Function.update (fun _ => none) start (some 0)
  closedSet := ∅

/-- Nothing as cheap is known for `vertex`. -/
def State.improves (state : State V) (vertex : V) (newCost : Nat) : Bool :=
  match state.gScores vertex with
  | none => true
  | some known => newCost < known

/-- Note the cheaper way over `current` and queue `next` once more. -/
def State.record (current next : V) (newCost : Nat) (state : State V) : State V :=
  { state with
    gScores := Function.update state.gScores next (some newCost)
    openSet := ⟨next, newCost, heuristic next, newCost + heuristic next⟩ :: state.openSet
    cameFrom := Function.update state.cameFrom next (some current) }

/-- Record a neighbour when the way through the current vertex is cheaper. -/
def relaxOne (current : V) (state : State V) (next : V) : State V :=
  let newCost := (state.gScores current).getD 0 + 1
  if state.improves next newCost then state.record heuristic current next newCost else state

/-- Look at all neighbours of the current vertex. -/
def relax (current : V) (state : State V) : State V :=
  (neighbors current).foldl (relaxOne heuristic current) state

/-- Collect the vertices on the way back along the parents; `none` means out of
fuel. -/
def walkBack (cameFrom : V → Option V) (start : V) : Nat → V → Option (List V)
  | 0, _ => none
  | fuel + 1, current =>
      if current = start then some []
      else (walkBack cameFrom start fuel ((cameFrom current).getD default)).map (current :: ·)

/-- A stale entry is thrown away. -/
def State.drop (state : State V) (rest : List (Node V)) : State V :=
  { state with openSet := rest }

/-- A vertex is done. -/
def State.close (state : State V) (vertex : V) (rest : List (Node V)) : State V :=
  { state with openSet := rest, closedSet := insert vertex state.closedSet }

/-- The main loop; `none` means out of fuel. -/
def search (pops : Nat → PopOrder V) (start goal : V) (walkFuel : Nat) :
    Nat → State V → Option (List V)
  | 0, _ => none
  | fuel + 1, state =>
      match (pops fuel).pop state.openSet with
      | none => some []
      | some (node, rest) =>
          if node.position ∈ state.closedSet then
            search pops start goal walkFuel fuel (state.drop rest)
          else if node.position = goal then walkBack state.cameFrom start walkFuel goal
          else
            search pops start goal walkFuel fuel
              (relax neighbors heuristic node.position (state.close node.position rest))

end Algorithm

/-! ## What the loop keeps -/

/-- The invariant of the loop.  `waived` are the edges out of a closed vertex
that are still to be relaxed; `region` holds every vertex the search can meet. -/
structure Inv (neighbors : V → List V) (heuristic : V → Nat) (region : Finset V) (start : V)
    (waived : V → V → Prop) (state : State V) : Prop where
  start_score : state.gScores start = some 0
  inside : ∀ vertex cost, state.gScores vertex = some cost → vertex ∈ region
  walk : ∀ vertex cost, state.gScores vertex = some cost → Walk neighbors start vertex cost
  parent : ∀ vertex cost, state.gScores vertex = some cost → vertex ≠ start →
    ∃ previous previousCost, state.cameFrom vertex = some previous ∧
      previous ∈ state.closedSet ∧ vertex ∈ neighbors previous ∧
      state.gScores previous = some previousCost ∧ cost = previousCost + 1
  exact : ∀ vertex ∈ state.closedSet, ∃ cost, state.gScores vertex = some cost ∧
    ∀ length, Walk neighbors start vertex length → cost ≤ length
  relaxed : ∀ vertex ∈ state.closedSet, ∀ cost, state.gScores vertex = some cost →
    ∀ next ∈ neighbors vertex, ¬waived vertex next →
      ∃ nextCost, state.gScores next = some nextCost ∧ nextCost ≤ cost + 1
  opened : ∀ node ∈ state.openSet, node.fCost = node.gCost + heuristic node.position ∧
    ∃ cost, state.gScores node.position = some cost ∧ cost ≤ node.gCost
  queued : ∀ vertex cost, state.gScores vertex = some cost → vertex ∉ state.closedSet →
    ∃ node ∈ state.openSet, node.position = vertex ∧ node.gCost = cost
  early : ∀ vertex ∈ state.closedSet, ∀ cost, state.gScores vertex = some cost →
    cost < state.closedSet.card

section Invariant

variable {neighbors : V → List V} {heuristic : V → Nat} {region : Finset V} {start : V}

/-- Along any walk there is an open entry that promises no more than the walk
needs, unless the walk's end is closed.  By induction on the walk. -/
theorem Inv.frontier {state : State V}
    (inv : Inv neighbors heuristic region start (fun _ _ => False) state)
    (consistent : ∀ vertex, ∀ next ∈ neighbors vertex, heuristic vertex ≤ heuristic next + 1)
    {vertex : V} {length : Nat} (walk : Walk neighbors start vertex length) :
    vertex ∈ state.closedSet ∨
      ∃ node ∈ state.openSet, node.fCost ≤ length + heuristic vertex := by
  induction walk with
  | refl =>
      by_cases closed : start ∈ state.closedSet
      · exact Or.inl closed
      · obtain ⟨node, isOpen, at_, cost⟩ := inv.queued start 0 inv.start_score closed
        refine Or.inr ⟨node, isOpen, ?_⟩
        rw [(inv.opened node isOpen).1, at_, cost]
  | @step vertex next length _ linked ih =>
      rcases ih with closed | ⟨node, isOpen, cheap⟩
      · obtain ⟨cost, score, least⟩ := inv.exact vertex closed
        obtain ⟨nextCost, nextScore, bounded⟩ :=
          inv.relaxed vertex closed cost score next linked (fun impossible => impossible)
        have upTo : cost ≤ length := least length ‹_›
        by_cases nextClosed : next ∈ state.closedSet
        · exact Or.inl nextClosed
        · obtain ⟨node, isOpen, at_, exactly⟩ := inv.queued next nextCost nextScore nextClosed
          refine Or.inr ⟨node, isOpen, ?_⟩
          rw [(inv.opened node isOpen).1, at_, exactly]
          omega
      · have slope := consistent vertex next linked
        exact Or.inr ⟨node, isOpen, by omega⟩

/-- Forgetting an entry of a closed vertex changes nothing. -/
theorem Inv.drop {state : State V} {node : Node V} {rest : List (Node V)}
    (inv : Inv neighbors heuristic region start (fun _ _ => False) state)
    (popped : state.openSet.Perm (node :: rest)) (stale : node.position ∈ state.closedSet) :
    Inv neighbors heuristic region start (fun _ _ => False) (state.drop rest) :=
  { start_score := inv.start_score
    inside := inv.inside
    walk := inv.walk
    parent := inv.parent
    exact := inv.exact
    relaxed := inv.relaxed
    opened := fun other isOpen =>
      inv.opened other (popped.mem_iff.mpr (List.mem_cons_of_mem node isOpen))
    queued := by
      intro vertex cost score unclosed
      obtain ⟨other, isOpen, rfl, exactly⟩ := inv.queued vertex cost score unclosed
      rcases List.mem_cons.mp (popped.mem_iff.mp isOpen) with rfl | left
      · exact absurd stale unclosed
      · exact ⟨other, left, rfl, exactly⟩
    early := inv.early }

/-- The cheapest entry of an unclosed vertex carries its exact distance. -/
theorem Inv.popped_exact {state : State V} {node : Node V} {rest : List (Node V)}
    (inv : Inv neighbors heuristic region start (fun _ _ => False) state)
    (consistent : ∀ vertex, ∀ next ∈ neighbors vertex, heuristic vertex ≤ heuristic next + 1)
    (popped : state.openSet.Perm (node :: rest)) (least : ∀ other ∈ rest, node.fCost ≤ other.fCost)
    (fresh : node.position ∉ state.closedSet) :
    ∃ cost, state.gScores node.position = some cost ∧
      ∀ length, Walk neighbors start node.position length → cost ≤ length := by
  obtain ⟨total, cost, score, bounded⟩ :=
    inv.opened node (popped.mem_iff.mpr List.mem_cons_self)
  refine ⟨cost, score, fun length walk => ?_⟩
  obtain ⟨other, isOpen, cheap⟩ := (inv.frontier consistent walk).resolve_left fresh
  have first : node.fCost ≤ other.fCost := by
    rcases List.mem_cons.mp (popped.mem_iff.mp isOpen) with rfl | left
    · exact Nat.le_refl _
    · exact least other left
  omega

/-! ## Improvements -/

/-- A way that is refused is no cheaper than the known one. -/
theorem State.known_of_not_improves {state : State V} {vertex : V} {newCost : Nat}
    (same : state.improves vertex newCost = false) :
    ∃ known, state.gScores vertex = some known ∧ known ≤ newCost := by
  cases score : state.gScores vertex with
  | none => simp [State.improves, score] at same
  | some known =>
      simp only [State.improves, score, decide_eq_false_iff_not, Nat.not_lt] at same
      exact ⟨known, rfl, same⟩

/-- A way that is recorded is cheaper than the known one. -/
theorem State.lt_of_improves {state : State V} {vertex : V} {newCost known : Nat}
    (better : state.improves vertex newCost = true) (score : state.gScores vertex = some known) :
    newCost < known := by
  simpa [State.improves, score] using better

/-- An edge out of a closed vertex cannot shorten the way to a closed one. -/
theorem Inv.unclosed_of_improves {waived : V → V → Prop} {state : State V} {current next : V}
    {cost : Nat} (inv : Inv neighbors heuristic region start waived state)
    (score : state.gScores current = some cost) (linked : next ∈ neighbors current)
    (better : state.improves next (cost + 1) = true) : next ∉ state.closedSet := by
  intro closed
  obtain ⟨known, nextScore, least⟩ := inv.exact next closed
  have shorter := State.lt_of_improves better nextScore
  have atMost := least (cost + 1) (Walk.step (inv.walk current cost score) linked)
  omega

section Decidable

variable [DecidableEq V]

/-- Closing the vertex of the cheapest entry; its edges are waived until they
are relaxed. -/
theorem Inv.close {state : State V} {node : Node V} {rest : List (Node V)}
    (inv : Inv neighbors heuristic region start (fun _ _ => False) state)
    (consistent : ∀ vertex, ∀ next ∈ neighbors vertex, heuristic vertex ≤ heuristic next + 1)
    (popped : state.openSet.Perm (node :: rest)) (least : ∀ other ∈ rest, node.fCost ≤ other.fCost)
    (fresh : node.position ∉ state.closedSet) :
    Inv neighbors heuristic region start
      (fun vertex next => vertex = node.position ∧ next ∈ neighbors node.position)
      (state.close node.position rest) :=
  { start_score := inv.start_score
    inside := inv.inside
    walk := inv.walk
    parent := by
      intro vertex cost score other
      obtain ⟨previous, previousCost, came, closed, linked, known, longer⟩ :=
        inv.parent vertex cost score other
      exact ⟨previous, previousCost, came, Finset.mem_insert_of_mem closed, linked, known, longer⟩
    exact := by
      intro vertex closed
      rcases Finset.mem_insert.mp closed with rfl | earlier
      · exact inv.popped_exact consistent popped least fresh
      · exact inv.exact vertex earlier
    relaxed := by
      intro vertex closed cost score next linked unwaived
      rcases Finset.mem_insert.mp closed with rfl | earlier
      · exact absurd ⟨rfl, linked⟩ unwaived
      · exact inv.relaxed vertex earlier cost score next linked (fun impossible => impossible)
    opened := fun other isOpen =>
      inv.opened other (popped.mem_iff.mpr (List.mem_cons_of_mem node isOpen))
    queued := by
      intro vertex cost score unclosed
      rw [State.close, Finset.mem_insert, not_or] at unclosed
      obtain ⟨other, isOpen, at_, exactly⟩ := inv.queued vertex cost score unclosed.2
      rcases List.mem_cons.mp (popped.mem_iff.mp isOpen) with rfl | left
      · exact absurd at_.symm unclosed.1
      · exact ⟨other, left, at_, exactly⟩
    early := by
      intro vertex closed cost score
      rw [State.close, Finset.card_insert_of_notMem fresh]
      rcases Finset.mem_insert.mp closed with rfl | earlier
      · by_cases atStart : node.position = start
        · have zero : some cost = some 0 := by
            rw [← inv.start_score, ← atStart]
            exact score.symm
          rw [Option.some.inj zero]
          exact Nat.succ_pos _
        · obtain ⟨previous, previousCost, _, parentClosed, _, known, longer⟩ :=
            inv.parent _ cost score atStart
          have before := inv.early previous parentClosed previousCost known
          omega
      · exact (inv.early vertex earlier cost score).trans (Nat.lt_succ_self _) }

/-! ## Relaxing an edge -/

@[simp]
theorem closedSet_relaxOne (current next : V) (state : State V) :
    (relaxOne heuristic current state next).closedSet = state.closedSet := by
  simp only [relaxOne]
  split <;> rfl

section Record

variable {current next : V} {newCost : Nat} {state : State V}

theorem gScores_record_self :
    (state.record heuristic current next newCost).gScores next = some newCost :=
  Function.update_self _ _ _

theorem gScores_record_of_ne {vertex : V} (apart : vertex ≠ next) :
    (state.record heuristic current next newCost).gScores vertex = state.gScores vertex :=
  Function.update_of_ne apart _ _

theorem cameFrom_record_self :
    (state.record heuristic current next newCost).cameFrom next = some current :=
  Function.update_self _ _ _

theorem cameFrom_record_of_ne {vertex : V} (apart : vertex ≠ next) :
    (state.record heuristic current next newCost).cameFrom vertex = state.cameFrom vertex :=
  Function.update_of_ne apart _ _

end Record

/-- Noting a cheaper way out of a closed vertex keeps the invariant: only the
score of the unclosed vertex `next` changes. -/
theorem Inv.record {waived waived' : V → V → Prop} {state : State V} {current next : V} {cost : Nat}
    (inv : Inv neighbors heuristic region start waived state)
    (closed : current ∈ state.closedSet) (score : state.gScores current = some cost)
    (linked : next ∈ neighbors current) (inRegion : next ∈ region)
    (better : state.improves next (cost + 1) = true)
    (fewer : ∀ vertex other, ¬waived' vertex other →
      (vertex = current ∧ other = next) ∨ ¬waived vertex other) :
    Inv neighbors heuristic region start waived'
      (state.record heuristic current next (cost + 1)) := by
  have unclosed := inv.unclosed_of_improves score linked better
  have away : ∀ vertex ∈ state.closedSet, vertex ≠ next := fun vertex isClosed same =>
    unclosed (same ▸ isClosed)
  have notStart : start ≠ next := by
    rintro rfl
    exact absurd (State.lt_of_improves better inv.start_score) (Nat.not_lt_zero _)
  exact
    { start_score := by rw [gScores_record_of_ne notStart, inv.start_score]
      inside := by
        intro vertex known vertexScore
        by_cases same : vertex = next
        · exact same ▸ inRegion
        · exact inv.inside vertex known (by rwa [gScores_record_of_ne same] at vertexScore)
      walk := by
        intro vertex known vertexScore
        by_cases same : vertex = next
        · subst same
          rw [gScores_record_self] at vertexScore
          cases vertexScore
          exact Walk.step (inv.walk current cost score) linked
        · exact inv.walk vertex known (by rwa [gScores_record_of_ne same] at vertexScore)
      parent := by
        intro vertex known vertexScore apart
        by_cases same : vertex = next
        · subst same
          rw [gScores_record_self] at vertexScore
          cases vertexScore
          exact ⟨current, cost, cameFrom_record_self, closed, linked,
            by rw [gScores_record_of_ne (away current closed), score], rfl⟩
        · rw [gScores_record_of_ne same] at vertexScore
          obtain ⟨previous, previousCost, came, isClosed, edge, previousScore, longer⟩ :=
            inv.parent vertex known vertexScore apart
          exact ⟨previous, previousCost, by rw [cameFrom_record_of_ne same, came], isClosed, edge,
            by rw [gScores_record_of_ne (away previous isClosed), previousScore], longer⟩
      exact := by
        intro vertex isClosed
        rw [gScores_record_of_ne (away vertex isClosed)]
        exact inv.exact vertex isClosed
      relaxed := by
        intro vertex isClosed vertexCost vertexScore target edge free
        rw [gScores_record_of_ne (away vertex isClosed)] at vertexScore
        by_cases same : target = next
        · subst same
          refine ⟨cost + 1, gScores_record_self, ?_⟩
          rcases fewer vertex target free with ⟨rfl, _⟩ | unwaived
          · rw [score] at vertexScore
            cases vertexScore
            exact Nat.le_refl _
          · obtain ⟨known, targetScore, bounded⟩ :=
              inv.relaxed vertex isClosed vertexCost vertexScore target edge unwaived
            exact (State.lt_of_improves better targetScore).le.trans bounded
        · rw [gScores_record_of_ne same]
          exact inv.relaxed vertex isClosed vertexCost vertexScore target edge
            ((fewer vertex target free).resolve_left fun both => same both.2)
      opened := by
        intro node isOpen
        rcases List.mem_cons.mp isOpen with rfl | earlier
        · exact ⟨rfl, cost + 1, gScores_record_self, Nat.le_refl _⟩
        · obtain ⟨total, known, nodeScore, bounded⟩ := inv.opened node earlier
          refine ⟨total, ?_⟩
          by_cases same : node.position = next
          · rw [same] at nodeScore ⊢
            exact ⟨cost + 1, gScores_record_self,
              (State.lt_of_improves better nodeScore).le.trans bounded⟩
          · exact ⟨known, by rw [gScores_record_of_ne same, nodeScore], bounded⟩
      queued := by
        intro vertex known vertexScore isUnclosed
        by_cases same : vertex = next
        · subst same
          rw [gScores_record_self] at vertexScore
          cases vertexScore
          exact ⟨_, List.mem_cons_self, rfl, rfl⟩
        · rw [gScores_record_of_ne same] at vertexScore
          obtain ⟨node, isOpen, at_, exactly⟩ := inv.queued vertex known vertexScore isUnclosed
          exact ⟨node, List.mem_cons_of_mem _ isOpen, at_, exactly⟩
      early := by
        intro vertex isClosed known vertexScore
        rw [gScores_record_of_ne (away vertex isClosed)] at vertexScore
        exact inv.early vertex isClosed known vertexScore }

/-- Relaxing one edge keeps the invariant and gives up its waiver. -/
theorem Inv.relaxOne {waived waived' : V → V → Prop} {state : State V} {current next : V}
    (inv : Inv neighbors heuristic region start waived state)
    (closed : current ∈ state.closedSet) (linked : next ∈ neighbors current)
    (inRegion : next ∈ region)
    (fewer : ∀ vertex other, ¬waived' vertex other →
      (vertex = current ∧ other = next) ∨ ¬waived vertex other) :
    Inv neighbors heuristic region start waived' (relaxOne heuristic current state next) := by
  obtain ⟨cost, score, _⟩ := inv.exact current closed
  simp only [Search.relaxOne, score, Option.getD_some]
  split
  · rename_i better
    exact inv.record closed score linked inRegion better fewer
  · rename_i same
    obtain ⟨known, nextScore, bounded⟩ :=
      State.known_of_not_improves (Bool.eq_false_of_not_eq_true same)
    exact
      { inv with
        relaxed := by
          intro vertex isClosed vertexCost vertexScore other edge free
          rcases fewer vertex other free with ⟨rfl, rfl⟩ | unwaived
          · rw [score] at vertexScore
            cases vertexScore
            exact ⟨known, nextScore, bounded⟩
          · exact inv.relaxed vertex isClosed vertexCost vertexScore other edge unwaived }

/-- Relaxing the edges to `pending` lifts all the waivers. -/
theorem Inv.foldl_relaxOne {state : State V} {current : V} {pending : List V}
    (inv : Inv neighbors heuristic region start
      (fun vertex next => vertex = current ∧ next ∈ pending) state)
    (closed : current ∈ state.closedSet) (linked : ∀ next ∈ pending, next ∈ neighbors current)
    (inRegion : ∀ next ∈ pending, next ∈ region) :
    Inv neighbors heuristic region start (fun _ _ => False)
      (pending.foldl (Search.relaxOne heuristic current) state) := by
  induction pending generalizing state with
  | nil =>
      exact { inv with
        relaxed := fun vertex isClosed cost score next edge _ =>
          inv.relaxed vertex isClosed cost score next edge fun held =>
            List.not_mem_nil held.2 }
  | cons next rest ih =>
      have lifted : ∀ vertex target, ¬(vertex = current ∧ target ∈ rest) →
          (vertex = current ∧ target = next) ∨ ¬(vertex = current ∧ target ∈ next :: rest) := by
        intro vertex target free
        by_cases this : vertex = current ∧ target = next
        · exact Or.inl this
        · refine Or.inr fun ⟨same, among⟩ => ?_
          rcases List.mem_cons.mp among with rfl | later
          · exact this ⟨same, rfl⟩
          · exact free ⟨same, later⟩
      have stepped := inv.relaxOne closed (linked next List.mem_cons_self)
        (inRegion next List.mem_cons_self) lifted
      exact ih stepped (by rwa [closedSet_relaxOne])
        (fun target among => linked target (List.mem_cons_of_mem _ among))
        (fun target among => inRegion target (List.mem_cons_of_mem _ among))

/-- One turn of the loop that closes a vertex. -/
theorem Inv.expand {state : State V} {node : Node V} {rest : List (Node V)}
    (inv : Inv neighbors heuristic region start (fun _ _ => False) state)
    (consistent : ∀ vertex, ∀ next ∈ neighbors vertex, heuristic vertex ≤ heuristic next + 1)
    (bounded : ∀ vertex, ∀ next ∈ neighbors vertex, next ∈ region)
    (popped : state.openSet.Perm (node :: rest)) (least : ∀ other ∈ rest, node.fCost ≤ other.fCost)
    (fresh : node.position ∉ state.closedSet) :
    Inv neighbors heuristic region start (fun _ _ => False)
      (relax neighbors heuristic node.position (state.close node.position rest)) :=
  (inv.close consistent popped least fresh).foldl_relaxOne (Finset.mem_insert_self _ _)
    (fun _ among => among) (bounded node.position)

/-! ## Termination -/

/-- Looking at neighbours finishes none of them. -/
theorem closedSet_foldl_relaxOne (current : V) (pending : List V) (state : State V) :
    (pending.foldl (Search.relaxOne heuristic current) state).closedSet = state.closedSet := by
  induction pending generalizing state with
  | nil => rfl
  | cons next rest ih => rw [List.foldl_cons, ih, closedSet_relaxOne]

theorem length_openSet_relaxOne (current next : V) (state : State V) :
    (Search.relaxOne heuristic current state next).openSet.length ≤ state.openSet.length + 1 := by
  simp only [Search.relaxOne]
  split
  · exact Nat.le_refl _
  · exact Nat.le_succ _

theorem length_openSet_foldl_relaxOne (current : V) (pending : List V) (state : State V) :
    (pending.foldl (Search.relaxOne heuristic current) state).openSet.length
      ≤ state.openSet.length + pending.length := by
  induction pending generalizing state with
  | nil => exact Nat.le_refl _
  | cons next rest ih =>
      have one : (Search.relaxOne heuristic current state next).openSet.length
          ≤ state.openSet.length + 1 := length_openSet_relaxOne current next state
      have others := ih (Search.relaxOne heuristic current state next)
      rw [List.foldl_cons, List.length_cons]
      omega

/-- Pops that are left at most, when a vertex has at most `degree` neighbours. -/
def State.budget (region : Finset V) (degree : Nat) (state : State V) : Nat :=
  (region.card - state.closedSet.card) * (degree + 1) + state.openSet.length

/-- Closing a vertex pays for all the entries it brings. -/
theorem budget_expand {state : State V} {node : Node V} {rest : List (Node V)} {degree : Nat}
    (narrow : (neighbors node.position).length ≤ degree)
    (popped : state.openSet.Perm (node :: rest)) (fresh : node.position ∉ state.closedSet)
    (within : insert node.position state.closedSet ⊆ region) :
    (relax neighbors heuristic node.position (state.close node.position rest)).budget region degree
      < state.budget region degree := by
  have size := popped.length_eq
  rw [List.length_cons] at size
  have grown : ((neighbors node.position).foldl (Search.relaxOne heuristic node.position)
      (state.close node.position rest)).openSet.length
        ≤ (state.close node.position rest).openSet.length + (neighbors node.position).length :=
    length_openSet_foldl_relaxOne node.position (neighbors node.position) _
  have room := Finset.card_le_card within
  rw [Finset.card_insert_of_notMem fresh] at room
  rw [State.budget, State.budget, relax, closedSet_foldl_relaxOne]
  simp only [State.close] at grown ⊢
  rw [Finset.card_insert_of_notMem fresh]
  obtain ⟨spare, enough⟩ := Nat.exists_eq_add_of_le room
  have before : region.card - state.closedSet.card = spare + 1 := by omega
  have after : region.card - (state.closedSet.card + 1) = spare := by omega
  rw [before, after, Nat.add_mul, Nat.one_mul]
  omega

omit [DecidableEq V] in

/-- A stale entry uses up some of the budget. -/
theorem budget_drop {state : State V} {node : Node V} {rest : List (Node V)} {degree : Nat}
    (popped : state.openSet.Perm (node :: rest)) :
    (state.drop rest).budget region degree < state.budget region degree := by
  have size := popped.length_eq
  rw [List.length_cons] at size
  simp only [State.budget, State.drop]
  omega

/-! ## The way back -/

/-- `path` leads from `vertex` back to the start, which it leaves out. -/
structure LeadsBack (neighbors : V → List V) (start vertex : V) (path : List V) : Prop where
  first : (path ++ [start]).head? = some vertex
  linked : (path ++ [start]).IsChain fun later earlier => later ∈ neighbors earlier

/-- Following the parents takes exactly as many steps as the score says. -/
theorem Inv.walkBack [Inhabited V] {state : State V}
    (inv : Inv neighbors heuristic region start (fun _ _ => False) state) {fuel : Nat}
    {vertex : V} {cost : Nat} (score : state.gScores vertex = some cost) (enough : cost < fuel) :
    ∃ path, Search.walkBack state.cameFrom start fuel vertex = some path ∧ path.length = cost ∧
      LeadsBack neighbors start vertex path := by
  induction fuel generalizing vertex cost with
  | zero => exact absurd enough (Nat.not_lt_zero cost)
  | succ fuel ih =>
      by_cases arrived : vertex = start
      · subst arrived
        have zero : some cost = some 0 := by rw [← score, inv.start_score]
        exact ⟨[], if_pos rfl, (Option.some.inj zero).symm, rfl, List.isChain_singleton _⟩
      · obtain ⟨previous, previousCost, came, _, edge, known, rfl⟩ :=
          inv.parent vertex cost score arrived
        obtain ⟨path, walked, length, back⟩ := ih known (Nat.lt_of_succ_lt_succ enough)
        refine ⟨vertex :: path, ?_, by rw [List.length_cons, length], rfl, ?_⟩
        · rw [Search.walkBack, if_neg arrived, came, Option.getD_some, walked, Option.map_some]
        · rw [List.cons_append, List.isChain_cons_iff]
          cases shape : path ++ [start] with
          | nil => exact Or.inl rfl
          | cons head tail =>
              have first := back.first
              have linked := back.linked
              rw [shape] at first linked
              rw [List.head?_cons, Option.some.injEq] at first
              exact Or.inr ⟨head, tail, first ▸ edge, linked, rfl⟩

/-! ## The search -/

/-- What the search may answer when the goal is not the start. -/
def Answer (neighbors : V → List V) (start goal : V) (path : List V) : Prop :=
  (path = [] ∧ ∀ length, ¬Walk neighbors start goal length) ∨
    (path ≠ [] ∧ LeadsBack neighbors start goal path ∧
      ∀ length, Walk neighbors start goal length → path.length ≤ length)

section Search

variable [Inhabited V] {goal : V} {degree : Nat}

/-- From any state the loop can be in, enough fuel brings the answer. -/
theorem Inv.search {state : State V}
    (inv : Inv neighbors heuristic region start (fun _ _ => False) state)
    (consistent : ∀ vertex, ∀ next ∈ neighbors vertex, heuristic vertex ≤ heuristic next + 1)
    (bounded : ∀ vertex, ∀ next ∈ neighbors vertex, next ∈ region)
    (narrow : ∀ vertex, (neighbors vertex).length ≤ degree) (pops : Nat → PopOrder V)
    (apart : start ≠ goal) {walkFuel fuel : Nat} (wayBack : region.card ≤ walkFuel)
    (enough : state.budget region degree < fuel) (ahead : goal ∉ state.closedSet) :
    ∃ path, Search.search neighbors heuristic pops start goal walkFuel fuel state = some path ∧
      Answer neighbors start goal path := by
  induction fuel generalizing state with
  | zero => exact absurd enough (Nat.not_lt_zero _)
  | succ fuel ih =>
      rw [Search.search]
      cases result : (pops fuel).pop state.openSet with
      | none =>
          have empty := (pops fuel).eq_nil_of_pop _ result
          refine ⟨[], rfl, Or.inl ⟨rfl, fun length walk => ?_⟩⟩
          obtain ⟨node, isOpen, _⟩ := (inv.frontier consistent walk).resolve_left ahead
          rw [empty] at isOpen
          exact List.not_mem_nil isOpen
      | some both =>
          obtain ⟨node, rest⟩ := both
          have popped := (pops fuel).perm_of_pop result
          have least := (pops fuel).least_of_pop result
          dsimp only
          by_cases stale : node.position ∈ state.closedSet
          · rw [if_pos stale]
            have smaller : (state.drop rest).budget region degree < state.budget region degree :=
              budget_drop popped
            exact ih (inv.drop popped stale) (by omega) ahead
          · rw [if_neg stale]
            have closing := inv.close consistent popped least stale
            have within : insert node.position state.closedSet ⊆ region := by
              intro vertex closed
              obtain ⟨cost, score, _⟩ := closing.exact vertex closed
              exact closing.inside vertex cost score
            by_cases reached : node.position = goal
            · rw [if_pos reached]
              obtain ⟨cost, score, shortest⟩ := inv.popped_exact consistent popped least stale
              rw [reached] at score shortest
              have short : cost < walkFuel := by
                have early := closing.early goal
                  (reached ▸ Finset.mem_insert_self _ _) cost score
                exact early.trans_le ((Finset.card_le_card within).trans wayBack)
              obtain ⟨path, walked, length, back⟩ := inv.walkBack score short
              refine ⟨path, walked, Or.inr ⟨?_, back, fun steps walk => ?_⟩⟩
              · rintro rfl
                exact apart (Option.some.inj back.first)
              · rw [length]
                exact shortest steps walk
            · rw [if_neg reached]
              have smaller : (relax neighbors heuristic node.position
                  (state.close node.position rest)).budget region degree
                    < state.budget region degree :=
                budget_expand (narrow node.position) popped stale within
              refine ih (inv.expand consistent bounded popped least stale) (by omega) ?_
              rw [relax, closedSet_foldl_relaxOne, State.close, Finset.mem_insert, not_or]
              exact ⟨fun same => reached same.symm, ahead⟩

omit [Inhabited V] in

theorem Inv.initial (inRegion : start ∈ region) :
    Inv neighbors heuristic region start (fun _ _ => False) (State.initial heuristic start) := by
  have only : ∀ vertex cost, (State.initial heuristic start).gScores vertex = some cost →
      vertex = start ∧ cost = 0 := by
    intro vertex cost score
    by_cases same : vertex = start
    · subst same
      simp only [State.initial, Function.update_self] at score
      exact ⟨rfl, (Option.some.inj score).symm⟩
    · simp only [State.initial, Function.update_of_ne same] at score
      cases score
  have atStart : (State.initial heuristic start).gScores start = some 0 := by
    simp only [State.initial, Function.update_self]
  exact
    { start_score := atStart
      inside := fun vertex cost score => (only vertex cost score).1 ▸ inRegion
      walk := by
        intro vertex cost score
        obtain ⟨rfl, rfl⟩ := only vertex cost score
        exact Walk.refl
      parent := fun vertex cost score away => absurd (only vertex cost score).1 away
      exact := fun vertex closed => absurd closed (Finset.notMem_empty vertex)
      relaxed := fun vertex closed => absurd closed (Finset.notMem_empty vertex)
      opened := by
        intro node isOpen
        rw [State.initial, List.mem_singleton] at isOpen
        subst isOpen
        exact ⟨(Nat.zero_add _).symm, 0, atStart, Nat.le_refl 0⟩
      queued := by
        intro vertex cost score _
        obtain ⟨rfl, rfl⟩ := only vertex cost score
        exact ⟨_, List.mem_singleton.mpr rfl, rfl, rfl⟩
      early := fun vertex closed => absurd closed (Finset.notMem_empty vertex) }

/-- The whole search: enough fuel brings a shortest path, or none when there is
none. -/
theorem search_answer
    (consistent : ∀ vertex, ∀ next ∈ neighbors vertex, heuristic vertex ≤ heuristic next + 1)
    (bounded : ∀ vertex, ∀ next ∈ neighbors vertex, next ∈ region)
    (narrow : ∀ vertex, (neighbors vertex).length ≤ degree) (pops : Nat → PopOrder V)
    (inRegion : start ∈ region) (apart : start ≠ goal) {walkFuel fuel : Nat}
    (wayBack : region.card ≤ walkFuel) (enough : region.card * (degree + 1) + 1 < fuel) :
    ∃ path, Search.search neighbors heuristic pops start goal walkFuel fuel
        (State.initial heuristic start) = some path ∧ Answer neighbors start goal path :=
  (Inv.initial inRegion).search consistent bounded narrow pops apart wayBack
    (by simpa [State.budget, State.initial] using enough) (Finset.notMem_empty goal)

end Search

end Decidable

end Invariant

end Mmorpg.Search
