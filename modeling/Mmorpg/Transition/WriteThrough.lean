import Mmorpg.Transition.Run

/-!
# Write-through stores

A memory issues requests that are replayed, in order, on a store.  If every
request writes the memory's present values at its own keys, and every changed
key has a request, the store mirrors the memory after each step.  If moreover
no step issues more than one request, a store that stops after any prefix of
the requests mirrors the memory after some prefix of the steps.
-/

namespace Mmorpg.Transition

universe u v w x y z

variable {α : Type u} {σ : Type v} {ρ : Type w} {δ : Type x} {κ : Type y} {ν : Type z}

/-- Apply the requests in order. -/
def replay (apply : ρ → δ → δ) (requests : List ρ) (store : δ) : δ :=
  requests.foldl (fun reached request => apply request reached) store

@[simp]
theorem replay_nil (apply : ρ → δ → δ) (store : δ) : replay apply [] store = store :=
  rfl

theorem replay_cons (apply : ρ → δ → δ) (request : ρ) (rest : List ρ) (store : δ) :
    replay apply (request :: rest) store = replay apply rest (apply request store) :=
  rfl

theorem replay_append (apply : ρ → δ → δ) (first second : List ρ) (store : δ) :
    replay apply (first ++ second) store = replay apply second (replay apply first store) :=
  List.foldl_append

/-- What each request makes of a reading, the whole list makes of it. -/
theorem replay_hom {apply : ρ → δ → δ} {effect : ρ → ν → ν} (read : δ → ν)
    (each : ∀ request store, read (apply request store) = effect request (read store))
    (requests : List ρ) (store : δ) :
    read (replay apply requests store) = replay effect requests (read store) :=
  (List.foldl_hom read fun reached request => (each request reached).symm).symm

/-- Replaying requests that write `view` at their keys makes the store agree
with `view` wherever it agreed outside those keys. -/
theorem read_replay [DecidableEq κ] {apply : ρ → δ → δ} (read : δ → κ → ν) (keys : ρ → List κ)
    (view : κ → ν) (requests : List ρ)
    (writes : ∀ request ∈ requests, ∀ store key, read (apply request store) key =
      if key ∈ keys request then view key else read store key)
    (store : δ)
    (agree : ∀ key, (∀ request ∈ requests, key ∉ keys request) → read store key = view key)
    (key : κ) : read (replay apply requests store) key = view key := by
  induction requests generalizing store with
  | nil => exact agree key (by simp)
  | cons request rest ih =>
      rw [replay_cons]
      apply ih
      · exact fun other member => writes other (List.mem_cons_of_mem _ member)
      · intro other outside
        rw [writes request List.mem_cons_self]
        by_cases covered : other ∈ keys request
        · rw [if_pos covered]
        · rw [if_neg covered]
          apply agree
          intro entry member
          rcases List.mem_cons.mp member with rfl | later
          · exact covered
          · exact outside entry later

/-! ## Mirroring runs -/

section Mirror

variable {step : α → σ → Option σ} {log : σ → List ρ} {apply : ρ → δ → δ}
  {mirrors : σ → δ → Prop}

/-- Each step appends requests whose replay turns a mirror of the old memory
into a mirror of the new one. -/
def WritesThrough (step : α → σ → Option σ) (log : σ → List ρ) (apply : ρ → δ → δ)
    (mirrors : σ → δ → Prop) : Prop :=
  ∀ label state next, step label state = some next → ∃ issued, log next = log state ++ issued ∧
    ∀ store, mirrors state store → mirrors next (replay apply issued store)

/-- The store that has replayed the whole log mirrors the memory. -/
theorem WritesThrough.mirrors_of_run (through : WritesThrough step log apply mirrors)
    {labels : List α} {source target : σ} {store : δ}
    (ran : run step labels source = some target)
    (initially : mirrors source (replay apply (log source) store)) :
    mirrors target (replay apply (log target) store) := by
  have preserved : ∀ label state next, step label state = some next →
      mirrors state (replay apply (log state) store) →
      mirrors next (replay apply (log next) store) := by
    intro label state next taken mirrored
    rcases through label state next taken with ⟨issued, appended, keeps⟩
    rw [appended, replay_append]
    exact keeps _ mirrored
  exact invariant_of_run preserved ran initially

/-- Stopping after any prefix of the log leaves a mirror of the memory after
some prefix of the labels. -/
theorem WritesThrough.mirrors_take (through : WritesThrough step log apply mirrors)
    {condition : α → σ → Prop} (appends : AppendsOne step condition log)
    {labels : List α} {source target : σ} {store : δ}
    (along : Along step condition labels source) (ran : run step labels source = some target)
    (initially : mirrors source (replay apply (log source) store)) {kept : List ρ}
    (covers : log source <+: kept) (before : kept <+: log target) :
    ∃ count ≤ labels.length, ∃ middle, run step (labels.take count) source = some middle ∧
      mirrors middle (replay apply kept store) := by
  rcases appends.exists_take along ran covers before with ⟨count, bound, middle, reached, same⟩
  refine ⟨count, bound, middle, reached, ?_⟩
  rw [← same]
  exact through.mirrors_of_run reached initially

end Mirror

end Mmorpg.Transition
