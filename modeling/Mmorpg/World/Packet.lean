import Mmorpg.Object.Subject

/-!
# Packets

The requests a client sends and the packets the server sends, after decoding.
Sizes, the type byte and the truncation of texts belong to the wire format and
are left out.
-/

namespace Mmorpg

/-- The requests of a client, with what each carries. -/
inductive ClientPacket
  | userLoginReq (name password : String)
  | userMoveReq (direction : Int)
  | userAttackReq (facing : UInt8)
  | userSkillReq
  | userTeleportReq (x y : Int)
  | itemEquipReq (slotIndex : SlotIndex)
  | itemUnequipReq (slotIndex : SlotIndex)
  | itemSwapReq (slotIndexA slotIndexB : SlotIndex)
  | itemDiscardReq (slotIndex : SlotIndex) (count : UInt16)
  | itemPickupReq
  | itemUseReq (slotIndex : SlotIndex)
  | csChat (mess : String)
  deriving DecidableEq, Repr

/-- `ITEM_SLOT_DATA`. -/
structure ItemSlotData where
  slotIndex : SlotIndex
  itemId : ItemTableId := 0
  count : UInt16 := 0
  equipped : Bool := false
  deriving DecidableEq, Repr

/-- The codes of system messages. -/
inductive SystemMessageCode
  | inventoryFull
  deriving DecidableEq, Repr

/-- The packets to a client, with what each carries. -/
inductive ServerPacket
  | userLoginAck (id : ObjID) (x y : Int) (maxhp hp level exp : Nat)
  | userLoginFailAck
  | userAttackAck (id : ObjID) (hp damage : Nat)
  | itemListAck (items : List ItemSlotData)
  | itemEquipAck (success : Bool) (slot : ItemSlotData)
  | itemUnequipAck (success : Bool) (slot : ItemSlotData)
  | itemSwapAck (success : Bool) (slotA slotB : ItemSlotData)
  | itemDiscardAck (success : Bool) (slot : ItemSlotData)
  | itemPickupAck (success : Bool)
  | itemUseAck (success : Bool) (slot : ItemSlotData)
  | subjectAddNfy (id : ObjID) (x y : Int) (name : String) (monsterType : Option MonsterType)
      (itemId : ItemTableId)
  | subjectMoveNfy (id : ObjID) (x y : Int)
  | subjectRemoveNfy (id : ObjID)
  | subjectDieNfy (id : ObjID) (hp : Nat)
  | subjectRespawnNfy (id : ObjID) (x y : Int) (hp : Nat) (name : String)
      (monsterType : Option MonsterType)
  | subjectAttackNfy (victimId attackerId : ObjID) (hp : Nat)
  | playerAttackNfy (attackerId : ObjID) (facing : UInt8)
  | subjectEquipChangeNfy (id : ObjID) (itemId : ItemTableId)
  | userHealInf (hp : Nat)
  | userStatChangeInf (level hp maxhp exp : Nat)
  | itemAcquireInf (slot : ItemSlotData)
  | systemMessageInf (code : SystemMessageCode) (param1 param2 : Nat)
  | scChat (senderId : ObjID) (mess : String)
  deriving DecidableEq, Repr

/-- `FillItemSlotData`. -/
def fillItemSlotData (slotIndex : SlotIndex) (item : Option Item) : ItemSlotData :=
  match item with
  | none => { slotIndex := slotIndex }
  | some item =>
      { slotIndex := slotIndex
        itemId := item.itemTableId
        count := item.count
        equipped := item.isEquipped }

end Mmorpg
