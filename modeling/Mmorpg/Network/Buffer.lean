import Mathlib.Data.List.GetD
import Mathlib.Data.List.Infix

/-!
# Byte buffers

Arrays of a fixed number of bytes, as the contexts of a session and the packet
jobs have them, and the copies that `memcpy` and the socket make into them.
-/

namespace Mmorpg

/-- A byte array of fixed size. -/
structure Buffer (capacity : Nat) where
  bytes : List UInt8
  length_bytes : bytes.length = capacity
  deriving DecidableEq

namespace Buffer

variable {capacity : Nat}

/-- A zero-initialized array. -/
def zero (capacity : Nat) : Buffer capacity where
  bytes := List.replicate capacity 0
  length_bytes := List.length_replicate

/-- `memcpy` to `offset`; bytes beyond the end of the array are not stored. -/
def copyAt (offset : Nat) (data : List UInt8) (buffer : Buffer capacity) : Buffer capacity where
  bytes := buffer.bytes.mapIdx fun index old =>
    if offset ≤ index then data.getD (index - offset) old else old
  length_bytes := by rw [List.length_mapIdx, buffer.length_bytes]

/-- The little-endian 16-bit number at `offset`. -/
def readUInt16 (offset : Nat) (bytes : List UInt8) : Nat :=
  (bytes.getD offset 0).toNat + 256 * (bytes.getD (offset + 1) 0).toNat

/-- Copied bytes stand behind the ones before `offset`. -/
theorem take_copyAt {offset : Nat} {data : List UInt8} (buffer : Buffer capacity)
    (fits : offset + data.length ≤ capacity) :
    (buffer.copyAt offset data).bytes.take (offset + data.length) =
      buffer.bytes.take offset ++ data := by
  have size := buffer.length_bytes
  apply List.ext_getElem
  · simp only [List.length_take, (buffer.copyAt offset data).length_bytes, List.length_append, size]
    omega
  · intro index inLeft inRight
    rw [List.length_take] at inLeft
    simp only [List.getElem_take, copyAt, List.getElem_mapIdx]
    by_cases before : index < offset
    · rw [if_neg (Nat.not_le.mpr before), List.getElem_append_left]
      · rw [List.getElem_take]
      · rw [List.length_take, size]
        omega
    · have kept : (buffer.bytes.take offset).length = offset := by
        rw [List.length_take, size]
        omega
      have inData : index - offset < data.length := by omega
      rw [if_pos (Nat.not_lt.mp before), List.getElem_append_right (by omega),
        List.getD_eq_getElem _ _ inData]
      simp only [kept]

theorem take_copyAt_zero {data : List UInt8} (buffer : Buffer capacity)
    (fits : data.length ≤ capacity) : (buffer.copyAt 0 data).bytes.take data.length = data := by
  have behind : 0 + data.length ≤ capacity := by omega
  have copied := buffer.take_copyAt behind
  simpa using copied

/-- A copy to the start leaves what stood behind it. -/
theorem bytes_copyAt_zero {data : List UInt8} (buffer : Buffer capacity)
    (fits : data.length ≤ capacity) :
    (buffer.copyAt 0 data).bytes = data ++ buffer.bytes.drop data.length := by
  have start := buffer.take_copyAt_zero fits
  have behind : (buffer.copyAt 0 data).bytes.drop data.length = buffer.bytes.drop data.length := by
    apply List.ext_getElem
    · simp [(buffer.copyAt 0 data).length_bytes, buffer.length_bytes]
    · intro index inLeft inRight
      simp [copyAt, List.getElem_drop]
  have split := List.take_append_drop data.length (buffer.copyAt 0 data).bytes
  rw [start, behind] at split
  exact split.symm

/-- The number at the start of a prefix is the number at the start. -/
theorem readUInt16_of_prefix {first second : List UInt8} {offset : Nat}
    (within : first <+: second) (long : offset + 2 ≤ first.length) :
    readUInt16 offset first = readUInt16 offset second := by
  obtain ⟨rest, rfl⟩ := within
  rw [readUInt16, readUInt16, List.getD_append _ _ _ _ (by omega),
    List.getD_append _ _ _ _ (by omega)]

theorem readUInt16_drop (offset : Nat) (bytes : List UInt8) :
    readUInt16 0 (bytes.drop offset) = readUInt16 offset bytes := by
  simp [readUInt16, List.getD_eq_getElem?_getD, List.getElem?_drop]

end Buffer

end Mmorpg
