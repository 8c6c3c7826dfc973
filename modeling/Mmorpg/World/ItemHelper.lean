import Mmorpg.World.SectorHelper

/-!
# Field items

`ItemHelper.cpp`.  `none` is a failed assertion.
-/

namespace Mmorpg

variable {grid : CollisionGrid}

namespace World

/-- An item on the ground lies for 30 seconds. -/
def itemDespawnDelay : Nat := 30000

/-- For the first ten seconds only the killer may pick it up. -/
def kLootPriorityDuration : Nat := 10000

/-- `RemoveFieldItem`: those who see the item are told, and it is gone from the
grid, the zone map and the registry. -/
def removeFieldItem (zone : Nat) (choice : Choice grid) (itemId : ObjID) (subject : Subject)
    (world : World) : World :=
  let notified := world.sendAll (world.viewers choice.hash zone subject) (.subjectRemoveNfy itemId)
  ((notified.removeObject zone itemId subject.transform).removeObjectZone itemId).deleteObject itemId

/-- The object that `SpawnFieldItem` registers for an item. -/
def fieldSubject (item : Item) (lootPriorityOwner : ObjID) : Subject where
  name := item.name
  body := .item { item with lootPriorityOwner := lootPriorityOwner }

/-- The two timers of a fresh field item. -/
def scheduleItemTimers (zone : Nat) (itemId lootPriorityOwner : ObjID) (world : World) : World :=
  let scheduled := world.scheduleAfter zone itemId itemDespawnDelay .evItemDespawn ObjID.npos
  if lootPriorityOwner ≠ ObjID.npos then
    scheduled.scheduleAfter zone itemId kLootPriorityDuration .evItemLootPriorityExpire ObjID.npos
  else scheduled

/-- `SpawnFieldItem` registers an item, puts it on its tile, shows it and
schedules its end. -/
def spawnFieldItem (zone : Nat) (choice : Choice grid) (item : Item) (x y : Int)
    (lootPriorityOwner : ObjID) (world : World) : Option World :=
  let itemId := ObjID.item world.nextFieldItemId
  if item.isOnGround ∧ (world.objects itemId).isNone then
    let registered := { world with nextFieldItemId := world.nextFieldItemId + 1 }.insertObject itemId
      (fieldSubject item lootPriorityOwner)
    let placed := registered.updatePosition zone itemId x y
    match placed.objects itemId with
    | none => none
    | some subject =>
        some ((placed.sendAll (placed.viewers choice.hash zone subject)
          (addPacket choice.slots itemId subject)).scheduleItemTimers zone itemId lootPriorityOwner)
  else none

/-- The item `TryPickupAt` settles on: the first in the snapshot that lies on
the player's tile and is not reserved for somebody else. -/
def pickupTarget (zone : Nat) (choice : Choice grid) (playerId : ObjID) (player : Subject)
    (world : World) : Option (ObjID × Subject × Item) :=
  (world.neighborObjects choice.hash zone player.transform.sector).findSome? fun entry =>
    if entry.1.category ≠ .eItem then none
    else if entry.2.x ≠ player.x ∨ entry.2.y ≠ player.y then none
    else
      match entry.2.body with
      | .item item =>
          if item.lootPriorityOwner ≠ ObjID.npos ∧ item.lootPriorityOwner ≠ playerId then none
          else some (entry.1, entry.2, item)
      | _ => none

/-- The packets `SendITEM_ACQUIRE_INF` builds for the touched slots; a missing
slot fails its assertion. -/
def acquirePackets (playerId : ObjID) (inventory : Inventory) (touched : List SlotIndex) :
    Option (List (Nat × ServerPacket)) :=
  touched.mapM fun index =>
    (inventory.itemAt index).map fun item =>
      (playerId.databaseId, .itemAcquireInf (fillItemSlotData index (some item)))

/-- `TryPickupAt`: the item goes from the ground into the inventory, or stays
on the ground when it does not fit. -/
def tryPickupAt (zone : Nat) (choice : Choice grid) (playerId : ObjID) (player : Subject) (user : User)
    (world : World) : Option World :=
  match world.pickupTarget zone choice playerId player with
  | none => some (world.send playerId (.itemPickupAck false))
  | some (itemId, subject, item) =>
      match user.inventory.tryAddItem choice.slots item.itemTableId item.count with
      | none => none
      | some (none, _) =>
          some ((world.send playerId (.itemPickupAck false)).send playerId
            (.systemMessageInf .inventoryFull item.itemTableId.toNat item.count.toNat))
      | some (some touched, filled) =>
          match acquirePackets playerId filled touched with
          | none => none
          | some acquired =>
              let stored := world.setInventory playerId filled
              some (((stored.removeFieldItem zone choice itemId subject).send playerId
                (.itemPickupAck true)).post acquired)

/-- `HandleDespawn` removes an item that is still there. -/
def handleDespawn (zone : Nat) (choice : Choice grid) (itemId : ObjID) (world : World) : World :=
  match world.getItem itemId with
  | none => world
  | some (subject, _) => world.removeFieldItem zone choice itemId subject

/-- `HandleLootPriorityExpire` opens the item to everyone. -/
def handleLootPriorityExpire (itemId : ObjID) (world : World) : World :=
  world.modifyItem itemId fun item => { item with lootPriorityOwner := ObjID.npos }

end World

end Mmorpg
