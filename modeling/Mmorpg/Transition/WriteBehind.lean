import Mmorpg.Transition.WriteThrough

/-!
# Write-behind stores

Writes wait in a list before they reach a store.  What matters is the store
that is left once all of them were made.  Reading it under one key only depends
on the writes of that key, so a write may be made as soon as no earlier write
of its key waits.
-/

namespace Mmorpg.Transition

universe u v w x

variable {δ : Type u} {ρ : Type v} {κ : Type w} {ν : Type x}

/-- A write changes what is read under its own key, by what was read there, and
nothing else. -/
structure Keyed (apply : ρ → δ → δ) (keyOf : ρ → Option κ) (read : δ → κ → ν)
    (effect : ρ → ν → ν) : Prop where
  own : ∀ write store key, keyOf write = some key →
    read (apply write store) key = effect write (read store key)
  other : ∀ write store key, keyOf write ≠ some key → read (apply write store) key = read store key

namespace Keyed

variable {apply : ρ → δ → δ} {keyOf : ρ → Option κ} {read : δ → κ → ν} {effect : ρ → ν → ν}
  {writes : List ρ} {index : Nat} {write : ρ} {key : κ} {store first second : δ}

/-- What is read under a key decides what is read there after any writes. -/
theorem replay_congr (keyed : Keyed apply keyOf read effect)
    (same : read first key = read second key) (writes : List ρ) :
    read (replay apply writes first) key = read (replay apply writes second) key := by
  induction writes generalizing first second with
  | nil => exact same
  | cons write rest ih =>
      rw [replay_cons, replay_cons]
      apply ih
      by_cases mine : keyOf write = some key
      · rw [keyed.own write first key mine, keyed.own write second key mine, same]
      · rw [keyed.other write first key mine, keyed.other write second key mine, same]

/-- Writes of other keys do not show. -/
theorem replay_other (keyed : Keyed apply keyOf read effect)
    (others : ∀ write ∈ writes, keyOf write ≠ some key) (store : δ) :
    read (replay apply writes store) key = read store key := by
  induction writes generalizing store with
  | nil => rfl
  | cons write rest ih =>
      rw [replay_cons, ih fun other member => others other (List.mem_cons_of_mem write member)]
      exact keyed.other write store key (others write List.mem_cons_self)

/-- Making a write before the earlier ones, none of which has its key, does not
show once all were made. -/
theorem replay_eraseIdx (keyed : Keyed apply keyOf read effect) (found : writes[index]? = some write)
    (first : ∀ earlier ∈ writes.take index, keyOf earlier = none ∨ keyOf earlier ≠ keyOf write)
    (store : δ) (key : κ) :
    read (replay apply (writes.eraseIdx index) (apply write store)) key =
      read (replay apply writes store) key := by
  induction writes generalizing index store with
  | nil => simp at found
  | cons head rest ih =>
      cases index with
      | zero =>
          obtain rfl := Option.some.inj found
          rfl
      | succ index =>
          have apart := first head (by simp)
          have later : ∀ earlier ∈ rest.take index,
              keyOf earlier = none ∨ keyOf earlier ≠ keyOf write :=
            fun earlier member => first earlier (by simp [member])
          rw [List.eraseIdx_cons_succ, replay_cons, replay_cons, ← ih found later]
          apply keyed.replay_congr
          -- At most one of the two writes shows under the key.
          by_cases headMine : keyOf head = some key
          · have writeOther : keyOf write ≠ some key := by
              intro writeMine
              rcases apart with none_ | different
              · rw [none_] at headMine
                contradiction
              · exact different (headMine.trans writeMine.symm)
            rw [keyed.own head _ key headMine, keyed.other write _ key writeOther,
              keyed.other write _ key writeOther, keyed.own head _ key headMine]
          · rw [keyed.other head _ key headMine]
            by_cases writeMine : keyOf write = some key
            · rw [keyed.own write _ key writeMine, keyed.own write _ key writeMine,
                keyed.other head _ key headMine]
            · rw [keyed.other write _ key writeMine, keyed.other write _ key writeMine,
                keyed.other head _ key headMine]

end Keyed

end Mmorpg.Transition
