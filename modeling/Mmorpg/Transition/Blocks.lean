import Mathlib.Data.List.Infix

/-!
# Streams of blocks

A stream carries blocks one after the other.  A cut of a part of it lists the
blocks that have gone by completely and keeps the beginning of the next one.
-/

namespace Mmorpg.Transition

universe u

variable {α : Type u}

/-- The stream consists of the blocks `done` and of `tail`, a proper beginning
of the first block of `rest`. -/
structure Cut (blocks done rest : List (List α)) (stream tail : List α) : Prop where
  blocks_eq : blocks = done ++ rest
  stream_eq : stream = done.flatten ++ tail
  tail_prefix : tail <+: rest.flatten
  incomplete : ∀ block, rest.head? = some block → tail.length < block.length

namespace Cut

variable {blocks done rest more : List (List α)} {stream tail : List α}

/-- Nothing has gone by. -/
theorem start {blocks : List (List α)} (nonempty : ∀ block ∈ blocks, block ≠ []) :
    Cut blocks [] blocks [] [] where
  blocks_eq := rfl
  stream_eq := rfl
  tail_prefix := List.nil_prefix
  incomplete block first :=
    List.length_pos_iff.mpr (nonempty block (List.mem_of_head? first))

/-- Cutting the rest again cuts the longer stream. -/
theorem append {later : List (List α)} {chunk next : List α}
    (cut : Cut blocks done rest stream tail) (again : Cut rest more later (tail ++ chunk) next) :
    Cut blocks (done ++ more) later (stream ++ chunk) next where
  blocks_eq := by rw [cut.blocks_eq, again.blocks_eq, List.append_assoc]
  stream_eq := by
    rw [cut.stream_eq, List.append_assoc, again.stream_eq, List.flatten_append, List.append_assoc]
  tail_prefix := again.tail_prefix
  incomplete := again.incomplete

/-- One more block goes by at the front of the stream. -/
theorem cons {block : List α} (cut : Cut blocks done rest stream tail) :
    Cut (block :: blocks) (block :: done) rest (block ++ stream) tail where
  blocks_eq := congrArg (block :: ·) cut.blocks_eq
  stream_eq := by rw [cut.stream_eq, List.flatten_cons, List.append_assoc]
  tail_prefix := cut.tail_prefix
  incomplete := cut.incomplete

/-- The stream may go on behind the blocks. -/
theorem extend (cut : Cut blocks done rest stream tail) {further : List (List α)}
    (nonempty : ∀ block ∈ further, block ≠ []) :
    Cut (blocks ++ further) done (rest ++ further) stream tail where
  blocks_eq := by rw [cut.blocks_eq, List.append_assoc]
  stream_eq := cut.stream_eq
  tail_prefix := by
    rw [List.flatten_append]
    exact cut.tail_prefix.trans (List.prefix_append _ _)
  incomplete block first := by
    cases rest with
    | nil =>
        have empty : tail = [] := List.prefix_nil.mp cut.tail_prefix
        rw [empty]
        exact List.length_pos_iff.mpr (nonempty block (List.mem_of_head? first))
    | cons head later => exact cut.incomplete block first

/-- What is left of the stream begins with the rest of the block that was cut. -/
theorem flatten_eq (cut : Cut blocks done rest stream tail) :
    blocks.flatten = stream ++ rest.flatten.drop tail.length := by
  obtain ⟨left, whole⟩ := cut.tail_prefix
  rw [cut.blocks_eq, cut.stream_eq, List.flatten_append, ← whole, List.drop_left,
    List.append_assoc]

/-- A stream that has gone by completely leaves nothing. -/
theorem rest_eq_nil (cut : Cut blocks done rest stream tail) (all : stream = blocks.flatten) :
    rest = [] := by
  rw [cut.flatten_eq] at all
  have short : rest.flatten.length ≤ tail.length := by
    have nothing := List.self_eq_append_right.mp all
    exact List.drop_eq_nil_iff.mp nothing
  cases rest with
  | nil => rfl
  | cons block later =>
      have long := cut.incomplete block rfl
      rw [List.flatten_cons, List.length_append] at short
      omega

end Cut

end Mmorpg.Transition
