import Mathlib.Data.Int.ModEq
import Mathlib.Data.List.TakeWhile

/-!
# Packed structs

A layout says how the values of a type lie in the bytes of a packed struct.
Writing goes through the conversion to the type of the field, so reading gives
back what the field keeps of a value.  Layouts of structs are put together from
those of their fields; little-endian numbers, arrays and texts are the leaves.
-/

namespace Mmorpg.Wire

universe u v

/-- The bytes of a type.  `read` looks at the start of an array and is `none`
where no value of the type lies there. -/
structure Layout (α : Type u) where
  width : Nat
  write : α → List UInt8
  read : List UInt8 → Option α
  kept : α → α
  length_write : ∀ value, (write value).length = width
  read_write : ∀ value rest, read (write value ++ rest) = some (kept value)

attribute [simp] Layout.length_write Layout.read_write

namespace Layout

variable {α : Type u} {β : Type v}

theorem read_of_eq {layout : Layout α} {value : α} {bytes rest : List UInt8}
    (lies : bytes = layout.write value ++ rest) : layout.read bytes = some (layout.kept value) := by
  rw [lies, layout.read_write]

/-- The field keeps the value as it is. -/
def Holds (layout : Layout α) (value : α) : Prop :=
  layout.kept value = value

/-! ## Structs -/

/-- One field behind another. -/
def pair (first : Layout α) (second : Layout β) : Layout (α × β) where
  width := first.width + second.width
  write value := first.write value.1 ++ second.write value.2
  read bytes :=
    (first.read bytes).bind fun left =>
      (second.read (bytes.drop first.width)).map fun right => (left, right)
  kept value := (first.kept value.1, second.kept value.2)
  length_write value := by simp
  read_write value rest := by
    have behind : (first.write value.1 ++ (second.write value.2 ++ rest)).drop first.width =
        second.write value.2 ++ rest := by
      rw [← first.length_write value.1, List.drop_left]
    rw [List.append_assoc, first.read_write, behind, second.read_write]
    rfl

@[simp]
theorem pair_kept (first : Layout α) (second : Layout β) (value : α × β) :
    (first.pair second).kept value = (first.kept value.1, second.kept value.2) :=
  rfl

/-- The fields of a struct that lies at an offset. -/
theorem read_pair {first : Layout α} {second : Layout β} {value : α × β} {bytes rest : List UInt8}
    {offset : Nat} (lies : bytes.drop offset = (first.pair second).write value ++ rest) :
    first.read (bytes.drop offset) = some (first.kept value.1) ∧
      second.read (bytes.drop (offset + first.width)) = some (second.kept value.2) := by
  have whole : bytes.drop offset = first.write value.1 ++ (second.write value.2 ++ rest) := by
    rw [lies, pair, List.append_assoc]
  constructor
  · rw [whole, first.read_write]
  · rw [← List.drop_drop, whole, ← first.length_write value.1, List.drop_left, second.read_write]

/-- Another type in the same bytes. -/
def convert (layout : Layout α) (stored : β → α) (meaning : α → Option β) (kept : β → β)
    (converts : ∀ value, meaning (layout.kept (stored value)) = some (kept value)) : Layout β where
  width := layout.width
  write value := layout.write (stored value)
  read bytes := (layout.read bytes).bind meaning
  kept := kept
  length_write value := layout.length_write (stored value)
  read_write value rest := by
    rw [layout.read_write]
    exact converts value

/-! ## Numbers -/

/-- The lowest `width` bytes of a number, the lowest one first. -/
def littleEndian : Nat → Nat → List UInt8
  | 0, _ => []
  | width + 1, value => UInt8.ofNat value :: littleEndian width (value / 256)

/-- The number that little-endian bytes stand for. -/
def number : List UInt8 → Nat
  | [] => 0
  | byte :: rest => byte.toNat + 256 * number rest

@[simp]
theorem length_littleEndian (width value : Nat) : (littleEndian width value).length = width := by
  induction width generalizing value with
  | zero => rfl
  | succ width ih => rw [littleEndian, List.length_cons, ih]

/-- Numbers are read as they are written, up to the width of the field. -/
theorem number_littleEndian (width value : Nat) :
    number (littleEndian width value) = value % 256 ^ width := by
  induction width generalizing value with
  | zero => rw [littleEndian, number, Nat.pow_zero, Nat.mod_one]
  | succ width ih =>
      have lowest : (UInt8.ofNat value).toNat = value % 256 := UInt8.toNat_ofNat'
      rw [littleEndian, number, ih, lowest, Nat.pow_succ', ← Nat.mod_mul]

/-- An unsigned field of `width` bytes. -/
def unsigned (width : Nat) : Layout Nat where
  width := width
  write := littleEndian width
  read bytes := if width ≤ bytes.length then some (number (bytes.take width)) else none
  kept value := value % 256 ^ width
  length_write := length_littleEndian width
  read_write value rest := by
    rw [if_pos (by simp), List.take_left' (length_littleEndian width value), number_littleEndian]

/-- A field in two's complement. -/
def signed (width : Nat) : Layout Int :=
  (unsigned width).convert (fun value => (value % 256 ^ width).toNat)
    (fun value => some (Int.bmod value (256 ^ width))) (fun value => Int.bmod value (256 ^ width))
    (fun value => by
      have positive : (0 : Int) < 256 ^ width := Int.pow_pos (by decide)
      have inside := Int.emod_nonneg value (Int.ne_of_gt positive)
      have below := Int.emod_lt_of_pos value positive
      have same : (((value % 256 ^ width).toNat % 256 ^ width : Nat) : Int) =
          value % (256 ^ width : Nat) := by
        rw [Int.natCast_mod, Int.toNat_of_nonneg inside]
        push_cast
        exact Int.emod_emod_of_dvd value dvd_rfl
      change some (Int.bmod ((value % 256 ^ width).toNat % 256 ^ width : Nat) _) = _
      rw [same, Int.emod_bmod])

theorem unsigned_holds {width value : Nat} (fits : value < 256 ^ width) :
    (unsigned width).Holds value :=
  Nat.mod_eq_of_lt fits

/-! ## Arrays -/

/-- An array of `count` entries that was filled with `fill` before. -/
def entries (count : Nat) (fill : α) (values : List α) : List α :=
  values.take count ++ List.replicate (count - values.length) fill

@[simp]
theorem length_entries (count : Nat) (fill : α) (values : List α) :
    (entries count fill values).length = count := by
  rw [entries, List.length_append, List.length_take, List.length_replicate]
  omega

/-- Read a number of values one behind the other. -/
def readMany (layout : Layout α) : Nat → List UInt8 → Option (List α)
  | 0, _ => some []
  | count + 1, bytes =>
      (layout.read bytes).bind fun value =>
        (layout.readMany count (bytes.drop layout.width)).map fun later => value :: later

theorem length_flatMap_write (layout : Layout α) (values : List α) :
    (values.flatMap layout.write).length = values.length * layout.width := by
  induction values with
  | nil => simp
  | cons value later ih =>
      rw [List.flatMap_cons, List.length_append, ih, layout.length_write, List.length_cons,
        Nat.succ_mul, Nat.add_comm]

/-- What was written one behind the other is read so. -/
theorem readMany_flatMap_write (layout : Layout α) (values : List α) (rest : List UInt8) :
    layout.readMany values.length (values.flatMap layout.write ++ rest) =
      some (values.map layout.kept) := by
  induction values with
  | nil => rfl
  | cons value later ih =>
      have behind : (layout.write value ++ (later.flatMap layout.write ++ rest)).drop layout.width =
          later.flatMap layout.write ++ rest := by
        rw [← layout.length_write value, List.drop_left]
      rw [List.length_cons, readMany, List.flatMap_cons, List.append_assoc, layout.read_write,
        behind, Option.bind_some, ih]
      rfl

/-- A `T[count]` array, filled up with a default value. -/
def array (count : Nat) (fill : α) (layout : Layout α) : Layout (List α) where
  width := count * layout.width
  write values := (entries count fill values).flatMap layout.write
  read := layout.readMany count
  kept values := (entries count fill values).map layout.kept
  length_write values := by rw [length_flatMap_write, length_entries]
  read_write values rest := by
    have whole := layout.readMany_flatMap_write (entries count fill values) rest
    rwa [length_entries] at whole

/-! ## Texts -/

/-- The bytes in front of the terminator. -/
def cString (bytes : List UInt8) : List UInt8 :=
  bytes.takeWhile fun byte => byte ≠ 0

/-- What `strncpy_s` with `_TRUNCATE` copies to an array of `size` characters:
there is always room for the terminator. -/
def truncated (size : Nat) (source : List UInt8) : List UInt8 :=
  (cString source).take (size - 1)

theorem truncated_ne_zero {size : Nat} {source : List UInt8} :
    ∀ byte ∈ truncated size source, byte ≠ 0 := by
  intro byte member
  have kept := List.mem_takeWhile_imp (List.mem_of_mem_take member)
  simpa using kept

theorem length_truncated_lt {size : Nat} (room : 0 < size) (source : List UInt8) :
    (truncated size source).length < size := by
  rw [truncated, List.length_take]
  omega

/-- The terminator ends a text. -/
theorem cString_append {text rest : List UInt8} (solid : ∀ byte ∈ text, byte ≠ 0) :
    cString (text ++ 0 :: rest) = text := by
  rw [cString, List.takeWhile_append_of_pos (by simpa using solid)]
  simp

/-- A zeroed array of `size + 1` characters that a text was copied to. -/
def text (size : Nat) : Layout (List UInt8) where
  width := size + 1
  write source :=
    truncated (size + 1) source ++
      List.replicate (size + 1 - (truncated (size + 1) source).length) 0
  read bytes := if size + 1 ≤ bytes.length then some (cString (bytes.take (size + 1))) else none
  kept := truncated (size + 1)
  length_write source := by
    have short := length_truncated_lt (by omega : 0 < size + 1) source
    rw [List.length_append, List.length_replicate]
    omega
  read_write source rest := by
    have short := length_truncated_lt (by omega : 0 < size + 1) source
    obtain ⟨zeros, filled⟩ : ∃ zeros,
        size + 1 - (truncated (size + 1) source).length = zeros + 1 :=
      ⟨size - (truncated (size + 1) source).length, by omega⟩
    have whole : (truncated (size + 1) source ++ List.replicate (zeros + 1) 0).length =
        size + 1 := by
      rw [List.length_append, List.length_replicate]
      omega
    rw [filled, if_pos (by rw [List.length_append, whole]; omega), List.take_left' whole,
      List.replicate_succ, cString_append truncated_ne_zero]

end Layout

end Mmorpg.Wire
