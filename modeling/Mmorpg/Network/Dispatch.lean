import Mathlib.Data.List.TakeWhile
import Mmorpg.Network.Receive
import Mmorpg.World.Route

/-!
# Packet jobs

`PacketDispatchJob` and the casts of `Route::Dispatch` on bytes.  A job of the
pool keeps what an earlier packet left in it; a new packet overwrites the start.
The handlers read their fields after their checks; reading has no effect, so all
fields are read first.
-/

namespace Mmorpg

namespace Network

/-! ## Jobs -/

/-- The `packet` array of a job. -/
abbrev PacketDispatchJob := Buffer maxClientPacketSize

/-- A job whose bytes are all the same. -/
def PacketDispatchJob.filled (byte : UInt8) : PacketDispatchJob where
  bytes := List.replicate maxClientPacketSize byte
  length_bytes := List.length_replicate

/-- The values of `PacketType` that `Route::Dispatch` has a case for. -/
inductive RequestType
  | userLoginReq
  | userMoveReq
  | userAttackReq
  | userSkillReq
  | userTeleportReq
  | itemEquipReq
  | itemUnequipReq
  | itemSwapReq
  | itemDiscardReq
  | itemPickupReq
  | itemUseReq
  | csChat
  deriving DecidableEq, Repr

/-- The switch on the type byte. -/
def requestType (value : UInt8) : Option RequestType :=
  match value.toNat with
  | 0 => some .userLoginReq
  | 1 => some .userMoveReq
  | 2 => some .userAttackReq
  | 3 => some .userSkillReq
  | 4 => some .userTeleportReq
  | 5 => some .itemEquipReq
  | 6 => some .itemUnequipReq
  | 7 => some .itemSwapReq
  | 8 => some .itemDiscardReq
  | 9 => some .itemPickupReq
  | 10 => some .itemUseReq
  | 33 => some .csChat
  | _ => none

/-! ## Fields -/

/-- The byte at an offset, zero behind the end. -/
def byteAt (offset : Nat) (bytes : List UInt8) : UInt8 :=
  bytes.getD offset 0

/-- The signed value of the unsigned number with the given sign bit. -/
def signed (signBit : Nat) (value : Nat) : Int :=
  if value < signBit then value else value - 2 * signBit

/-- A `char` is signed. -/
def charAt (offset : Nat) (bytes : List UInt8) : Int :=
  signed 128 (byteAt offset bytes).toNat

/-- The signed 16-bit number at an offset. -/
def shortAt (offset : Nat) (bytes : List UInt8) : Int :=
  signed 32768 (Buffer.readUInt16 offset bytes)

/-- The unsigned 16-bit number at an offset. -/
def uint16At (offset : Nat) (bytes : List UInt8) : UInt16 :=
  UInt16.ofNat (Buffer.readUInt16 offset bytes)

/-- What `strncpy_s` copies out of an array of `size` characters. -/
def textAt (offset size : Nat) (bytes : List UInt8) : List UInt8 :=
  ((bytes.drop offset).take size).takeWhile fun byte => byte ≠ 0

/-- Characters are bytes. -/
def asString (bytes : List UInt8) : String :=
  String.ofList (bytes.map fun byte => Char.ofNat byte.toNat)

/-- The fields of the packed structs, by the type byte. -/
def readRequest (type : RequestType) (bytes : List UInt8) : ClientPacket :=
  match type with
  | .userLoginReq =>
      .userLoginReq (asString (textAt headerSize nameSize bytes))
        (asString (textAt (headerSize + nameSize) passwordSize bytes))
  | .userMoveReq => .userMoveReq (charAt headerSize bytes)
  | .userAttackReq => .userAttackReq (byteAt headerSize bytes)
  | .userSkillReq => .userSkillReq
  | .userTeleportReq => .userTeleportReq (shortAt headerSize bytes) (shortAt (headerSize + 2) bytes)
  | .itemEquipReq => .itemEquipReq (uint16At headerSize bytes)
  | .itemUnequipReq => .itemUnequipReq (uint16At headerSize bytes)
  | .itemSwapReq => .itemSwapReq (uint16At headerSize bytes) (uint16At (headerSize + 2) bytes)
  | .itemDiscardReq => .itemDiscardReq (uint16At headerSize bytes) (uint16At (headerSize + 2) bytes)
  | .itemPickupReq => .itemPickupReq
  | .itemUseReq => .itemUseReq (uint16At headerSize bytes)
  | .csChat => .csChat (asString (textAt headerSize chatSize bytes))

/-- `Route::Dispatch` on the bytes of a job; an unknown type does nothing. -/
def routeDispatch {grid : CollisionGrid} (thread : Nat) (choice : Choice grid) (session : Nat)
    (packet : List UInt8) (world : World) : Option World :=
  match requestType (byteAt 2 packet) with
  | none => some world
  | some type => world.dispatch thread choice session (readRequest type packet)

/-! ## Own bytes -/

/-- The text ends inside the frame, or the frame has the whole array. -/
def OwnText (offset size : Nat) (frame : List UInt8) : Prop :=
  offset + size ≤ frame.length ∨ 0 ∈ (frame.drop offset).take size

/-- The frame has every byte of a request that a handler lets decide anything.
A teleport whose column is outside the world is refused whatever its row is, and
so is a discard from a slot that does not exist whatever its count is.  The last
character of a chat is cut off before the message is sent. -/
def ReadsOwn (frame : List UInt8) : RequestType → Prop
  | .userLoginReq =>
      OwnText headerSize nameSize frame ∧ OwnText (headerSize + nameSize) passwordSize frame
  | .userMoveReq => headerSize + 1 ≤ frame.length
  | .userAttackReq => headerSize + 1 ≤ frame.length
  | .userSkillReq => True
  | .userTeleportReq =>
      headerSize + 4 ≤ frame.length ∨ headerSize + 2 ≤ frame.length ∧
        ¬(0 ≤ shortAt headerSize frame ∧ shortAt headerSize frame < wWidth)
  | .itemEquipReq => headerSize + 2 ≤ frame.length
  | .itemUnequipReq => headerSize + 2 ≤ frame.length
  | .itemSwapReq => headerSize + 4 ≤ frame.length
  | .itemDiscardReq =>
      headerSize + 4 ≤ frame.length ∨ headerSize + 2 ≤ frame.length ∧
        isValidSlotIndex (uint16At headerSize frame) = false
  | .itemPickupReq => True
  | .itemUseReq => headerSize + 2 ≤ frame.length
  | .csChat => OwnText headerSize (chatSize - 1) frame

/-- The frame has its type byte and the bytes that type reads. -/
def OwnBytes (frame : List UInt8) : Prop :=
  headerSize ≤ frame.length ∧ ∀ type, requestType (byteAt 2 frame) = some type →
    ReadsOwn frame type

/-! ## Reading inside a frame -/

section Prefix

variable {frame rest : List UInt8} {offset size : Nat}

/-- Bytes behind the frame do not change a byte inside it. -/
theorem byteAt_append (inside : offset < frame.length) :
    byteAt offset (frame ++ rest) = byteAt offset frame :=
  List.getD_append _ _ _ _ inside

theorem charAt_append (inside : offset < frame.length) :
    charAt offset (frame ++ rest) = charAt offset frame := by
  rw [charAt, charAt, byteAt_append inside]

theorem shortAt_append (inside : offset + 2 ≤ frame.length) :
    shortAt offset (frame ++ rest) = shortAt offset frame := by
  have same := Buffer.readUInt16_of_prefix (List.prefix_append frame rest) inside
  exact congrArg (signed 32768) same.symm

theorem uint16At_append (inside : offset + 2 ≤ frame.length) :
    uint16At offset (frame ++ rest) = uint16At offset frame := by
  have same := Buffer.readUInt16_of_prefix (List.prefix_append frame rest) inside
  exact congrArg UInt16.ofNat same.symm

/-- The region of an array that begins inside the frame. -/
theorem region_append (inside : offset ≤ frame.length) :
    ((frame ++ rest).drop offset).take size =
      (frame.drop offset).take size ++ rest.take (size - (frame.length - offset)) := by
  rw [List.drop_append_of_le_length inside, List.take_append, List.length_drop]

/-- They do not change a text that ends inside it. -/
theorem textAt_append (own : OwnText offset size frame) :
    textAt offset size (frame ++ rest) = textAt offset size frame := by
  rcases own with whole | ends
  · rw [textAt, region_append (by omega),
      show size - (frame.length - offset) = 0 by omega, List.take_zero, List.append_nil]
    rfl
  · have inside : offset ≤ frame.length := by
      by_contra beyond
      rw [List.drop_eq_nil_of_le (by omega), List.take_nil] at ends
      exact absurd ends List.not_mem_nil
    rw [textAt, region_append inside, List.takeWhile_append, if_neg]
    · rfl
    · intro full
      have every := List.takeWhile_eq_self_iff.mp
        (List.takeWhile_prefix _ |>.eq_of_length full) 0 ends
      exact absurd every (by decide)

end Prefix

end Network

end Mmorpg
