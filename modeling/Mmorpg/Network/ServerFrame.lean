import Mmorpg.Client.Receivers
import Mmorpg.Network.Dispatch
import Mmorpg.Network.Send
import Mmorpg.Wire.Layout
import Mmorpg.World.Packet

/-!
# Server packets as bytes

The packed structs of `Protocol.h` that the server sends, as the `Send`
functions fill them and as the casts of the client's `ProcessPacket` see them.
Identifiers of the model have neither kind nor serial; characters are bytes.
-/

namespace Mmorpg

open Wire

/-! ## Packet types -/

/-- `PacketType`, in the order of the source. -/
inductive PacketType
  | userLoginReq | userMoveReq | userAttackReq | userSkillReq | userTeleportReq
  | itemEquipReq | itemUnequipReq | itemSwapReq | itemDiscardReq | itemPickupReq | itemUseReq
  | userLoginAck | userLoginFailAck | userAttackAck | itemListAck | itemEquipAck
  | itemUnequipAck | itemSwapAck | itemDiscardAck | itemPickupAck | itemUseAck
  | subjectAddNfy | subjectMoveNfy | subjectRemoveNfy | subjectDieNfy | subjectRespawnNfy
  | subjectAttackNfy | playerAttackNfy | subjectEquipChangeNfy
  | userHealInf | userStatChangeInf | itemAcquireInf | systemMessageInf
  | csChat | scChat
  deriving DecidableEq, Repr

namespace PacketType

/-- The packet types in the order of `Protocol.h`. -/
def all : List PacketType :=
  [ userLoginReq, userMoveReq, userAttackReq, userSkillReq, userTeleportReq,
    itemEquipReq, itemUnequipReq, itemSwapReq, itemDiscardReq, itemPickupReq, itemUseReq,
    userLoginAck, userLoginFailAck, userAttackAck, itemListAck, itemEquipAck,
    itemUnequipAck, itemSwapAck, itemDiscardAck, itemPickupAck, itemUseAck,
    subjectAddNfy, subjectMoveNfy, subjectRemoveNfy, subjectDieNfy, subjectRespawnNfy,
    subjectAttackNfy, playerAttackNfy, subjectEquipChangeNfy,
    userHealInf, userStatChangeInf, itemAcquireInf, systemMessageInf,
    csChat, scChat ]

/-- The type byte. -/
def toByte (type : PacketType) : UInt8 :=
  UInt8.ofNat (all.idxOf type)

/-- The packet type of a byte, if it is one. -/
def ofByte (byte : UInt8) : Option PacketType :=
  all[byte.toNat]?

@[simp]
theorem ofByte_toByte (type : PacketType) : ofByte type.toByte = some type := by
  cases type <;> rfl

end PacketType

namespace Network

/-! ## Fields -/

/-- One byte. -/
def uint8 : Layout Nat := .unsigned 1

/-- Two bytes, the low one first. -/
def uint16 : Layout Nat := .unsigned 2

/-- Four bytes. -/
def uint32 : Layout Nat := .unsigned 4

/-- Eight bytes. -/
def uint64 : Layout Nat := .unsigned 8

/-- A signed 16-bit number. -/
def short : Layout Int := .signed 2

/-- An `int32_t` that is assigned unsigned numbers. -/
def int32 : Layout Nat :=
  (Layout.signed 4).convert (fun value => (value : Int)) (fun value => some value.toNat)
    (fun value => ((Layout.signed 4).kept value).toNat) fun _ => rfl

/-- A `uint16_t` that is one in the model, too. -/
def word : Layout UInt16 :=
  uint16.convert UInt16.toNat (fun value => some (UInt16.ofNat value)) id fun value => by
    have small : value.toNat % 256 ^ 2 = value.toNat := Nat.mod_eq_of_lt value.toNat_lt
    change some (UInt16.ofNat (value.toNat % 256 ^ 2)) = _
    rw [small, UInt16.ofNat_toNat]
    rfl

/-- One byte, kept as a `UInt8`. -/
def byte : Layout UInt8 :=
  uint8.convert UInt8.toNat (fun value => some (UInt8.ofNat value)) id fun value => by
    have small : value.toNat % 256 ^ 1 = value.toNat := Nat.mod_eq_of_lt value.toNat_lt
    change some (UInt8.ofNat (value.toNat % 256 ^ 1)) = _
    rw [small, UInt8.ofNat_toNat]
    rfl

/-- A flag that is written as zero or one. -/
def flag : Layout Bool :=
  uint8.convert Bool.toNat (fun value => some (value != 0)) id fun value => by
    cases value <;> rfl

@[simp]
theorem word_kept (value : UInt16) : word.kept value = value :=
  rfl

@[simp]
theorem byte_kept (value : UInt8) : byte.kept value = value :=
  rfl

@[simp]
theorem flag_kept (value : Bool) : flag.kept value = value :=
  rfl

/-- The bytes of a text. -/
def asBytes (text : String) : List UInt8 :=
  text.toList.map fun char => UInt8.ofNat char.toNat

/-- A zeroed `char` array of `room + 1` bytes, filled by `strncpy_s`. -/
def chars (room : Nat) : Layout String :=
  (Layout.text room).convert asBytes (fun bytes => some (asString bytes))
    (fun text => asString (Layout.truncated (room + 1) (asBytes text))) fun _ => rfl

/-! ## Identifiers -/

/-- The kinds of identifiers in the order of `EnumCategory`. -/
def categories : List EnumCategory :=
  [.eNone, .eAccount, .eUser, .eMonster, .eStat, .eUserLv, .eHp, .eExp, .eItem]

/-- `ContentID` and `DatabaseID`; an identifier with a kind or a serial is none
of the model. -/
def objId : Layout ObjID :=
  (uint16.pair (uint16.pair (uint32.pair uint64))).convert
    (fun id => (categories.idxOf id.category, 0, 0, id.databaseId))
    (fun fields =>
      if fields.2.1 = 0 ∧ fields.2.2.1 = 0 then
        (categories[fields.1]?).map fun category => ⟨category, fields.2.2.2⟩
      else none)
    (fun id => { id with databaseId := uint64.kept id.databaseId })
    fun id => by
      rcases id with ⟨category, databaseId⟩
      cases category <;> rfl

@[simp]
theorem objId_kept_category (id : ObjID) : (objId.kept id).category = id.category :=
  rfl

/-! ## Item slots -/

/-- `ITEM_SLOT_DATA`. -/
def itemSlotData : Layout ItemSlotData :=
  (word.pair (word.pair (word.pair flag))).convert
    (fun slot => (slot.slotIndex, slot.itemId, slot.count, slot.equipped))
    (fun fields => some ⟨fields.1, fields.2.1, fields.2.2.1, fields.2.2.2⟩) id fun _ => rfl

@[simp]
theorem itemSlotData_kept (slot : ItemSlotData) : itemSlotData.kept slot = slot :=
  rfl

/-- `slotCount` and `items`: the packet is zeroed, and the client looks at the
first `slotCount` entries. -/
def itemList : Layout (List ItemSlotData) :=
  (uint8.pair (Layout.array maxInventorySlots { slotIndex := 0 } itemSlotData)).convert
    (fun items => (min items.length maxInventorySlots, items))
    (fun fields => some (fields.2.take fields.1)) (fun items => items.take maxInventorySlots)
    fun items => by
      have small : uint8.kept (min items.length maxInventorySlots) =
          min items.length maxInventorySlots :=
        Layout.unsigned_holds ((Nat.min_le_right _ _).trans_lt (by decide))
      change some (((Layout.entries maxInventorySlots { slotIndex := 0 } items).map id).take
        (uint8.kept (min items.length maxInventorySlots))) = _
      rw [small, List.map_id, Layout.entries, List.take_append_of_le_length (by simp [min_comm]),
        List.take_take, min_eq_left (Nat.min_le_right _ _), ← List.take_take]
      simp

end Network

/-! ## Monster types -/

/-- `MONSTER_TYPE`; the field stays zero for users and items. -/
def MonsterType.toByte : Option MonsterType → Nat
  | some .passive => 1
  | _ => 0

@[simp]
theorem Network.uint8_kept_toByte (type : Option MonsterType) :
    Network.uint8.kept (MonsterType.toByte type) = MonsterType.toByte type :=
  Layout.unsigned_holds (by rcases type with _ | _ | _ <;> decide)

/-- The client looks at the field for monsters only and tells `PASSIVE` from
everything else. -/
def MonsterType.ofByte (category : EnumCategory) (value : Nat) : Option MonsterType :=
  if category = .eMonster then some (if value = 1 then .passive else .aggro) else none

namespace Network

/-! ## The header -/

/-- A struct: its size and its type in front of its fields. -/
def packed (type : PacketType) (fields : List UInt8) : List UInt8 :=
  uint16.write (headerSize + fields.length) ++ (type.toByte :: fields)

section Packed

variable (type : PacketType) (fields rest : List UInt8)

/-- A packed struct begins with its size and its type. -/
theorem packed_eq : packed type fields = UInt8.ofNat (headerSize + fields.length) ::
    UInt8.ofNat ((headerSize + fields.length) / 256) :: type.toByte :: fields :=
  rfl

@[simp]
theorem length_packed : (packed type fields).length = headerSize + fields.length := by
  rw [packed_eq, List.length_cons, List.length_cons, List.length_cons]
  exact Nat.add_comm fields.length headerSize

theorem byteAt_packed : byteAt 2 (packed type fields ++ rest) = type.toByte :=
  rfl

theorem drop_packed : (packed type fields ++ rest).drop headerSize = fields ++ rest :=
  rfl

theorem readUInt16_packed {type : PacketType} {fields : List UInt8}
    (small : headerSize + fields.length < 65536) :
    Buffer.readUInt16 0 (packed type fields) = (packed type fields).length := by
  have low : (UInt8.ofNat (headerSize + fields.length)).toNat =
      (headerSize + fields.length) % 256 := UInt8.toNat_ofNat'
  have high : (UInt8.ofNat ((headerSize + fields.length) / 256)).toNat =
      (headerSize + fields.length) / 256 % 256 := UInt8.toNat_ofNat'
  rw [length_packed, packed_eq]
  simp only [Buffer.readUInt16, List.getD_cons_zero, List.getD_cons_succ, low, high]
  omega

end Packed

/-! ## Structs behind the header -/

/-- The identifier, the position, both hit points, the level and the
experience. -/
def userLoginAckPacket : Layout (ObjID × Int × Int × Nat × Nat × Nat × Nat) :=
  objId.pair (short.pair (short.pair (uint16.pair (uint16.pair (uint8.pair uint32)))))

/-- The target, what is left of its hit points, and the damage. -/
def userAttackAckPacket : Layout (ObjID × Nat × Nat) :=
  objId.pair (int32.pair int32)

/-- The answers to requests about one slot. -/
def itemAckPacket : Layout (Bool × ItemSlotData) :=
  flag.pair itemSlotData

/-- The outcome and both slots. -/
def itemSwapAckPacket : Layout (Bool × ItemSlotData × ItemSlotData) :=
  flag.pair (itemSlotData.pair itemSlotData)

/-- Someone new in view, with name and weapon. -/
def subjectAddNfyPacket : Layout (Nat × ObjID × Int × Int × String × ItemTableId) :=
  uint8.pair (objId.pair (short.pair (short.pair ((chars 19).pair word))))

/-- The last field is `move_time`. -/
def subjectMoveNfyPacket : Layout (ObjID × Int × Int × Nat) :=
  objId.pair (short.pair (short.pair uint32))

/-- Who died, with its hit points. -/
def subjectDieNfyPacket : Layout (ObjID × Nat) :=
  objId.pair uint16

/-- Someone back in the world, without a weapon. -/
def subjectRespawnNfyPacket : Layout (Nat × ObjID × Int × Int × Nat × String) :=
  uint8.pair (objId.pair (short.pair (short.pair (uint16.pair (chars 19)))))

/-- The victim, the attacker, and the hit points that are left. -/
def subjectAttackNfyPacket : Layout (ObjID × ObjID × Nat) :=
  objId.pair (objId.pair int32)

/-- Who swings, and which way it faces. -/
def playerAttackNfyPacket : Layout (ObjID × UInt8) :=
  objId.pair byte

/-- Who holds which weapon now. -/
def subjectEquipChangeNfyPacket : Layout (ObjID × ItemTableId) :=
  objId.pair word

/-- The level, both hit points and the experience of the user itself. -/
def userStatChangeInfPacket : Layout (Nat × Nat × Nat × Nat) :=
  uint8.pair (uint16.pair (uint16.pair uint32))

/-- `InventoryFull` is the only code. -/
def systemMessageInfPacket : Layout (Nat × Nat × Nat) :=
  uint16.pair (int32.pair int32)

/-- Who speaks, and the text. -/
def scChatPacket : Layout (ObjID × String) :=
  objId.pair (chars 127)

end Network

namespace ServerPacket

open Network

/-- The packet type of a packet. -/
def type : ServerPacket → PacketType
  | userLoginAck .. => .userLoginAck
  | userLoginFailAck => .userLoginFailAck
  | userAttackAck .. => .userAttackAck
  | itemListAck _ => .itemListAck
  | itemEquipAck .. => .itemEquipAck
  | itemUnequipAck .. => .itemUnequipAck
  | itemSwapAck .. => .itemSwapAck
  | itemDiscardAck .. => .itemDiscardAck
  | itemPickupAck _ => .itemPickupAck
  | itemUseAck .. => .itemUseAck
  | subjectAddNfy .. => .subjectAddNfy
  | subjectMoveNfy .. => .subjectMoveNfy
  | subjectRemoveNfy _ => .subjectRemoveNfy
  | subjectDieNfy .. => .subjectDieNfy
  | subjectRespawnNfy .. => .subjectRespawnNfy
  | subjectAttackNfy .. => .subjectAttackNfy
  | playerAttackNfy .. => .playerAttackNfy
  | subjectEquipChangeNfy .. => .subjectEquipChangeNfy
  | userHealInf _ => .userHealInf
  | userStatChangeInf .. => .userStatChangeInf
  | itemAcquireInf _ => .itemAcquireInf
  | systemMessageInf .. => .systemMessageInf
  | scChat .. => .scChat

/-- The fields behind the header, as the `Send` functions fill them. -/
def body : ServerPacket → List UInt8
  | userLoginAck id x y maxhp hp level exp =>
      userLoginAckPacket.write (id, x, y, maxhp, hp, level, exp)
  | userLoginFailAck => []
  | userAttackAck id hp damage => userAttackAckPacket.write (id, hp, damage)
  | itemListAck items => itemList.write items
  | itemEquipAck success slot => itemAckPacket.write (success, slot)
  | itemUnequipAck success slot => itemAckPacket.write (success, slot)
  | itemSwapAck success slotA slotB => itemSwapAckPacket.write (success, slotA, slotB)
  | itemDiscardAck success slot => itemAckPacket.write (success, slot)
  | itemPickupAck success => flag.write success
  | itemUseAck success slot => itemAckPacket.write (success, slot)
  | subjectAddNfy id x y name monsterType itemId =>
      subjectAddNfyPacket.write (MonsterType.toByte monsterType, id, x, y, name, itemId)
  | subjectMoveNfy id x y => subjectMoveNfyPacket.write (id, x, y, 0)
  | subjectRemoveNfy id => objId.write id
  | subjectDieNfy id hp => subjectDieNfyPacket.write (id, hp)
  | subjectRespawnNfy id x y hp name monsterType =>
      subjectRespawnNfyPacket.write (MonsterType.toByte monsterType, id, x, y, hp, name)
  | subjectAttackNfy victimId attackerId hp =>
      subjectAttackNfyPacket.write (victimId, attackerId, hp)
  | playerAttackNfy attackerId facing => playerAttackNfyPacket.write (attackerId, facing)
  | subjectEquipChangeNfy id itemId => subjectEquipChangeNfyPacket.write (id, itemId)
  | userHealInf hp => int32.write hp
  | userStatChangeInf level hp maxhp exp =>
      userStatChangeInfPacket.write (level, hp, maxhp, exp)
  | itemAcquireInf slot => itemSlotData.write slot
  | systemMessageInf .inventoryFull param1 param2 =>
      systemMessageInfPacket.write (0, param1, param2)
  | scChat senderId mess => scChatPacket.write (senderId, mess)

/-- The packet that `PostSend` is given: `InitializePacket` has written the
header. -/
def frame (packet : ServerPacket) : List UInt8 :=
  packed packet.type packet.body

/-- The struct that the client casts the bytes behind the header to; `none`
where `ProcessPacket` has no case. -/
def readBody (bytes : List UInt8) : PacketType → Option ServerPacket
  | .userLoginAck =>
      (userLoginAckPacket.read bytes).map fun (id, x, y, maxhp, hp, level, exp) =>
        userLoginAck id x y maxhp hp level exp
  | .userLoginFailAck => some userLoginFailAck
  | .userAttackAck =>
      (userAttackAckPacket.read bytes).map fun (id, hp, damage) => userAttackAck id hp damage
  | .itemListAck => (itemList.read bytes).map itemListAck
  | .itemEquipAck =>
      (itemAckPacket.read bytes).map fun (success, slot) => itemEquipAck success slot
  | .itemUnequipAck =>
      (itemAckPacket.read bytes).map fun (success, slot) => itemUnequipAck success slot
  | .itemSwapAck =>
      (itemSwapAckPacket.read bytes).map fun (success, slotA, slotB) =>
        itemSwapAck success slotA slotB
  | .itemDiscardAck =>
      (itemAckPacket.read bytes).map fun (success, slot) => itemDiscardAck success slot
  | .itemPickupAck => (flag.read bytes).map itemPickupAck
  | .itemUseAck =>
      (itemAckPacket.read bytes).map fun (success, slot) => itemUseAck success slot
  | .subjectAddNfy =>
      (subjectAddNfyPacket.read bytes).map fun (monsterType, id, x, y, name, itemId) =>
        subjectAddNfy id x y name (MonsterType.ofByte id.category monsterType) itemId
  | .subjectMoveNfy =>
      (subjectMoveNfyPacket.read bytes).map fun (id, x, y, _) => subjectMoveNfy id x y
  | .subjectRemoveNfy => (objId.read bytes).map subjectRemoveNfy
  | .subjectDieNfy =>
      (subjectDieNfyPacket.read bytes).map fun (id, hp) => subjectDieNfy id hp
  | .subjectRespawnNfy =>
      (subjectRespawnNfyPacket.read bytes).map fun (monsterType, id, x, y, hp, name) =>
        subjectRespawnNfy id x y hp name (MonsterType.ofByte id.category monsterType)
  | .subjectAttackNfy =>
      (subjectAttackNfyPacket.read bytes).map fun (victimId, attackerId, hp) =>
        subjectAttackNfy victimId attackerId hp
  | .playerAttackNfy =>
      (playerAttackNfyPacket.read bytes).map fun (attackerId, facing) =>
        playerAttackNfy attackerId facing
  | .subjectEquipChangeNfy =>
      (subjectEquipChangeNfyPacket.read bytes).map fun (id, itemId) =>
        subjectEquipChangeNfy id itemId
  | .userHealInf => (int32.read bytes).map userHealInf
  | .userStatChangeInf =>
      (userStatChangeInfPacket.read bytes).map fun (level, hp, maxhp, exp) =>
        userStatChangeInf level hp maxhp exp
  | .itemAcquireInf => (itemSlotData.read bytes).map itemAcquireInf
  | .systemMessageInf =>
      (systemMessageInfPacket.read bytes).bind fun (code, param1, param2) =>
        if code = 0 then some (systemMessageInf .inventoryFull param1 param2) else none
  | .scChat => (scChatPacket.read bytes).map fun (senderId, mess) => scChat senderId mess
  | _ => none

/-- The switch of `ProcessPacket` with its casts. -/
def read (ptr : List UInt8) : Option ServerPacket :=
  (PacketType.ofByte (byteAt 2 ptr)).bind (readBody (ptr.drop headerSize))

/-! ## What arrives -/

/-- The packet as the fields of its struct keep it. -/
def kept : ServerPacket → ServerPacket
  | userLoginAck id x y maxhp hp level exp =>
      userLoginAck (objId.kept id) (short.kept x) (short.kept y) (uint16.kept maxhp)
        (uint16.kept hp) (uint8.kept level) (uint32.kept exp)
  | userAttackAck id hp damage =>
      userAttackAck (objId.kept id) (int32.kept hp) (int32.kept damage)
  | itemListAck items => itemListAck (items.take maxInventorySlots)
  | subjectAddNfy id x y name monsterType itemId =>
      subjectAddNfy (objId.kept id) (short.kept x) (short.kept y) ((chars 19).kept name)
        (MonsterType.ofByte id.category (MonsterType.toByte monsterType)) itemId
  | subjectMoveNfy id x y => subjectMoveNfy (objId.kept id) (short.kept x) (short.kept y)
  | subjectRemoveNfy id => subjectRemoveNfy (objId.kept id)
  | subjectDieNfy id hp => subjectDieNfy (objId.kept id) (uint16.kept hp)
  | subjectRespawnNfy id x y hp name monsterType =>
      subjectRespawnNfy (objId.kept id) (short.kept x) (short.kept y) (uint16.kept hp)
        ((chars 19).kept name) (MonsterType.ofByte id.category (MonsterType.toByte monsterType))
  | subjectAttackNfy victimId attackerId hp =>
      subjectAttackNfy (objId.kept victimId) (objId.kept attackerId) (int32.kept hp)
  | playerAttackNfy attackerId facing => playerAttackNfy (objId.kept attackerId) facing
  | subjectEquipChangeNfy id itemId => subjectEquipChangeNfy (objId.kept id) itemId
  | userHealInf hp => userHealInf (int32.kept hp)
  | userStatChangeInf level hp maxhp exp =>
      userStatChangeInf (uint8.kept level) (uint16.kept hp) (uint16.kept maxhp) (uint32.kept exp)
  | systemMessageInf code param1 param2 =>
      systemMessageInf code (int32.kept param1) (int32.kept param2)
  | scChat senderId mess => scChat (objId.kept senderId) ((chars 127).kept mess)
  | packet => packet

/-- The fields are read back from the bytes behind the header. -/
theorem readBody_body (packet : ServerPacket) (rest : List UInt8) :
    readBody (packet.body ++ rest) packet.type = some packet.kept := by
  have code : uint16.kept 0 = 0 := Layout.unsigned_holds (by decide)
  cases packet with
  | userLoginFailAck => rfl
  | itemListAck items =>
      simp only [body, type, readBody, Layout.read_write, Option.map_some]
      rfl
  | systemMessageInf message param1 param2 =>
      cases message
      simp only [body, type, readBody, Layout.read_write, Option.bind_some, systemMessageInfPacket,
        Layout.pair_kept, code, if_true, kept]
  | _ =>
      simp only [body, type, readBody, kept, Layout.read_write, Option.map_some, Layout.pair_kept,
        userLoginAckPacket, userAttackAckPacket, itemAckPacket, itemSwapAckPacket,
        subjectAddNfyPacket, subjectMoveNfyPacket, subjectDieNfyPacket, subjectRespawnNfyPacket,
        subjectAttackNfyPacket, playerAttackNfyPacket, subjectEquipChangeNfyPacket,
        userStatChangeInfPacket, scChatPacket, word_kept, byte_kept, flag_kept, itemSlotData_kept,
        objId_kept_category, uint8_kept_toByte]

/-! ## Frames -/

@[simp]
theorem length_frame (packet : ServerPacket) :
    packet.frame.length = headerSize + packet.body.length :=
  length_packed _ _

/-- Whatever lies behind the frame, the client sees the packet. -/
theorem read_frame (packet : ServerPacket) (rest : List UInt8) :
    read (packet.frame ++ rest) = some packet.kept := by
  rw [read, frame, byteAt_packed, drop_packed, PacketType.ofByte_toByte, Option.bind_some,
    readBody_body]

/-- The frame is the struct of its type. -/
theorem length_frame_mem (packet : ServerPacket) :
    packet.frame.length ∈ serverPacketSizes := by
  rw [length_frame]
  cases packet with
  | userLoginFailAck => decide
  | systemMessageInf code param1 param2 =>
      cases code
      rw [body, Layout.length_write]
      decide
  | _ =>
      rw [body, Layout.length_write]
      decide

/-- Every packet fits the buffers of server and clients. -/
theorem frame_bounded (packet : ServerPacket) :
    headerSize ≤ packet.frame.length ∧ packet.frame.length ≤ maxServerPacketSize ∧
      packet.frame.length ≤ 255 := by
  have sized : ∀ size ∈ serverPacketSizes,
      headerSize ≤ size ∧ size ≤ maxServerPacketSize ∧ size ≤ 255 := by decide
  exact sized _ packet.length_frame_mem

theorem isServerFrame_frame (packet : ServerPacket) : Client.IsServerFrame packet.frame where
  header := packet.frame_bounded.1
  bounded := packet.frame_bounded.2.2
  size := by
    have bounded := packet.frame_bounded.2.2
    rw [length_frame] at bounded
    exact readUInt16_packed (by omega)

/-- An array that starts with the frame of a packet is that packet. -/
theorem read_of_packetBytes {packet : ServerPacket} {ptr : List UInt8}
    (bytes : Client.packetBytes ptr = packet.frame) : read ptr = some packet.kept := by
  obtain ⟨rest, rfl⟩ : packet.frame <+: ptr := bytes ▸ List.take_prefix _ ptr
  exact packet.read_frame rest

end ServerPacket

end Mmorpg
