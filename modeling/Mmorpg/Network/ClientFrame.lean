import Mmorpg.Network.ServerFrame

/-!
# Requests as bytes

The packed structs that the two clients send, and what `Route::Dispatch` reads
from a job that carries one of them: the request as its struct keeps it,
whatever the job carried before.
-/

namespace Mmorpg

open Wire

namespace Network

/-- The packet type of a request. -/
def RequestType.packetType : RequestType → PacketType
  | .userLoginReq => .userLoginReq
  | .userMoveReq => .userMoveReq
  | .userAttackReq => .userAttackReq
  | .userSkillReq => .userSkillReq
  | .userTeleportReq => .userTeleportReq
  | .itemEquipReq => .itemEquipReq
  | .itemUnequipReq => .itemUnequipReq
  | .itemSwapReq => .itemSwapReq
  | .itemDiscardReq => .itemDiscardReq
  | .itemPickupReq => .itemPickupReq
  | .itemUseReq => .itemUseReq
  | .csChat => .csChat

@[simp]
theorem requestType_toByte (type : RequestType) :
    requestType type.packetType.toByte = some type := by
  cases type <;> rfl

/-! ## Structs behind the header -/

/-- A signed byte. -/
def char : Layout Int := .signed 1

/-- The name and the password. -/
def userLoginReqPacket : Layout (String × String) :=
  (chars 19).pair (chars 19)

/-- The last field is `move_time`, which the server does not read. -/
def userMoveReqPacket : Layout (Int × Nat) :=
  char.pair uint32

/-- The tile to go to. -/
def userTeleportReqPacket : Layout (Int × Int) :=
  short.pair short

/-- Two slots, or a slot and a count. -/
def itemPairReqPacket : Layout (UInt16 × UInt16) :=
  word.pair word

end Network

namespace ClientPacket

open Network

/-- The kind of a request. -/
def type : ClientPacket → RequestType
  | userLoginReq .. => .userLoginReq
  | userMoveReq _ => .userMoveReq
  | userAttackReq _ => .userAttackReq
  | userSkillReq => .userSkillReq
  | userTeleportReq .. => .userTeleportReq
  | itemEquipReq _ => .itemEquipReq
  | itemUnequipReq _ => .itemUnequipReq
  | itemSwapReq .. => .itemSwapReq
  | itemDiscardReq .. => .itemDiscardReq
  | itemPickupReq => .itemPickupReq
  | itemUseReq _ => .itemUseReq
  | csChat _ => .csChat

/-- The fields behind the header, as the clients fill them. -/
def body (moveTime : Nat) : ClientPacket → List UInt8
  | userLoginReq name password => userLoginReqPacket.write (name, password)
  | userMoveReq direction => userMoveReqPacket.write (direction, moveTime)
  | userAttackReq facing => byte.write facing
  | userSkillReq => []
  | userTeleportReq x y => userTeleportReqPacket.write (x, y)
  | itemEquipReq slotIndex => word.write slotIndex
  | itemUnequipReq slotIndex => word.write slotIndex
  | itemSwapReq slotIndexA slotIndexB => itemPairReqPacket.write (slotIndexA, slotIndexB)
  | itemDiscardReq slotIndex count => itemPairReqPacket.write (slotIndex, count)
  | itemPickupReq => []
  | itemUseReq slotIndex => word.write slotIndex
  | csChat mess => (chars 127).write mess

/-- What `send_packet` sends: the size is that of the struct. -/
def frame (moveTime : Nat) (request : ClientPacket) : List UInt8 :=
  packed request.type.packetType (request.body moveTime)

/-- The request as the fields of its struct keep it. -/
def kept : ClientPacket → ClientPacket
  | userLoginReq name password => userLoginReq ((chars 19).kept name) ((chars 19).kept password)
  | userMoveReq direction => userMoveReq (char.kept direction)
  | userTeleportReq x y => userTeleportReq (short.kept x) (short.kept y)
  | csChat mess => csChat ((chars 127).kept mess)
  | request => request

/-! ## Frames -/

@[simp]
theorem length_frame (moveTime : Nat) (request : ClientPacket) :
    (request.frame moveTime).length = headerSize + (request.body moveTime).length :=
  length_packed _ _

/-- The client sends frames of the sizes the server knows. -/
theorem length_frame_mem (moveTime : Nat) (request : ClientPacket) :
    (request.frame moveTime).length ∈ clientPacketSizes := by
  rw [length_frame]
  cases request with
  | userSkillReq =>
      rw [body]
      decide
  | itemPickupReq =>
      rw [body]
      decide
  | _ =>
      rw [body, Layout.length_write]
      decide

theorem isFrame_frame (moveTime : Nat) (request : ClientPacket) :
    IsFrame (request.frame moveTime) := by
  have sized : ∀ size ∈ clientPacketSizes, headerSize ≤ size ∧ size ≤ maxClientPacketSize := by
    decide
  have bounded := sized _ (length_frame_mem moveTime request)
  refine ⟨bounded.1, bounded.2, readUInt16_packed ?_⟩
  rw [length_frame, maxClientPacketSize_eq] at bounded
  omega

end ClientPacket

namespace Network

/-! ## The reads of the server -/

variable {bytes rest : List UInt8}

/-- What the layout reads as a number, the server's cast does. -/
theorem readUInt16_eq {offset value : Nat} (read : uint16.read (bytes.drop offset) = some value) :
    Buffer.readUInt16 offset bytes = value := by
  rw [← Buffer.readUInt16_drop]
  change (if 2 ≤ (bytes.drop offset).length then
    some (Layout.number ((bytes.drop offset).take 2)) else none) = some value at read
  split at read
  · next long =>
    obtain ⟨low, high, later, split⟩ : ∃ low high later,
        bytes.drop offset = low :: high :: later := by
      match bytes.drop offset, long with
      | low :: high :: later, _ => exact ⟨low, high, later, rfl⟩
    rw [split] at read ⊢
    simpa [Buffer.readUInt16, Layout.number] using read
  · contradiction

theorem uint16At_eq {offset : Nat} {value : UInt16} (read : word.read (bytes.drop offset) = some value) :
    uint16At offset bytes = value := by
  rcases Option.bind_eq_some_iff.mp read with ⟨number, stored, meant⟩
  rw [uint16At, readUInt16_eq stored]
  exact Option.some.inj meant

theorem readUInt16_lt (offset : Nat) (bytes : List UInt8) :
    Buffer.readUInt16 offset bytes < 65536 := by
  have low := (bytes.getD offset 0).toNat_lt
  have high := (bytes.getD (offset + 1) 0).toNat_lt
  rw [Buffer.readUInt16]
  omega

/-- Two's complement. -/
theorem signed_eq {half value : Nat} (small : value < 2 * half) :
    signed half value = Int.bmod value (2 * half) := by
  have inside : (value : Int) % (2 * half : Nat) = value :=
    Int.emod_eq_of_lt (Int.natCast_nonneg value) (Int.ofNat_lt.mpr small)
  rw [signed, Int.bmod, inside]
  split <;> split <;> omega

theorem shortAt_eq {offset : Nat} {value : Int} (read : short.read (bytes.drop offset) = some value) :
    shortAt offset bytes = value := by
  rcases Option.bind_eq_some_iff.mp read with ⟨number, stored, meant⟩
  have small := readUInt16_lt offset bytes
  rw [readUInt16_eq stored] at small
  rw [shortAt, readUInt16_eq stored, signed_eq small]
  exact Option.some.inj meant

theorem byteAt_eq {offset value : Nat} (read : uint8.read (bytes.drop offset) = some value) :
    (byteAt offset bytes).toNat = value := by
  change (if 1 ≤ (bytes.drop offset).length then
    some (Layout.number ((bytes.drop offset).take 1)) else none) = some value at read
  have here : byteAt offset bytes = (bytes.drop offset).getD 0 0 := by
    simp [byteAt, List.getD_eq_getElem?_getD, List.getElem?_drop]
  rw [here]
  cases split : bytes.drop offset with
  | nil => simp [split] at read
  | cons first later => simpa [split, Layout.number] using read

theorem charAt_eq {offset : Nat} {value : Int} (read : char.read (bytes.drop offset) = some value) :
    charAt offset bytes = value := by
  rcases Option.bind_eq_some_iff.mp read with ⟨number, stored, meant⟩
  have small := (byteAt offset bytes).toNat_lt
  rw [byteAt_eq stored] at small
  rw [charAt, byteAt_eq stored, signed_eq small]
  exact Option.some.inj meant

theorem byte_eq {offset : Nat} {value : UInt8} (read : byte.read (bytes.drop offset) = some value) :
    byteAt offset bytes = value := by
  rcases Option.bind_eq_some_iff.mp read with ⟨number, stored, meant⟩
  rw [← Option.some.inj meant, ← byteAt_eq stored, UInt8.ofNat_toNat]

theorem textAt_eq {offset room : Nat} {text : String}
    (read : (chars room).read (bytes.drop offset) = some text) :
    asString (textAt offset (room + 1) bytes) = text := by
  rcases Option.bind_eq_some_iff.mp read with ⟨array, stored, meant⟩
  change (if room + 1 ≤ (bytes.drop offset).length then
    some (textAt offset (room + 1) bytes) else none) = some array at stored
  split at stored
  · rw [Option.some.inj stored]
    exact Option.some.inj meant
  · contradiction

/-- Whatever lies behind the frame, the server reads the request. -/
theorem readRequest_frame (moveTime : Nat) (request : ClientPacket) (rest : List UInt8) :
    readRequest request.type (request.frame moveTime ++ rest) = request.kept := by
  have fields : (request.frame moveTime ++ rest).drop headerSize =
      request.body moveTime ++ rest := rfl
  cases request with
  | userLoginReq name password =>
      have both := Layout.read_pair fields
      exact congrArg₂ ClientPacket.userLoginReq (textAt_eq both.1) (textAt_eq both.2)
  | userMoveReq direction =>
      exact congrArg ClientPacket.userMoveReq (charAt_eq (Layout.read_pair fields).1)
  | userAttackReq facing =>
      exact congrArg ClientPacket.userAttackReq (byte_eq (Layout.read_of_eq fields))
  | userSkillReq => rfl
  | userTeleportReq x y =>
      have both := Layout.read_pair fields
      exact congrArg₂ ClientPacket.userTeleportReq (shortAt_eq both.1) (shortAt_eq both.2)
  | itemEquipReq slotIndex =>
      exact congrArg ClientPacket.itemEquipReq (uint16At_eq (Layout.read_of_eq fields))
  | itemUnequipReq slotIndex =>
      exact congrArg ClientPacket.itemUnequipReq (uint16At_eq (Layout.read_of_eq fields))
  | itemSwapReq slotIndexA slotIndexB =>
      have both := Layout.read_pair fields
      exact congrArg₂ ClientPacket.itemSwapReq (uint16At_eq both.1) (uint16At_eq both.2)
  | itemDiscardReq slotIndex count =>
      have both := Layout.read_pair fields
      exact congrArg₂ ClientPacket.itemDiscardReq (uint16At_eq both.1) (uint16At_eq both.2)
  | itemPickupReq => rfl
  | itemUseReq slotIndex =>
      exact congrArg ClientPacket.itemUseReq (uint16At_eq (Layout.read_of_eq fields))
  | csChat mess =>
      exact congrArg ClientPacket.csChat (textAt_eq (Layout.read_of_eq fields))

end Network

end Mmorpg
