import Mmorpg.Client.Inventory
import Mmorpg.World.Server

/-!
# Inventories and what their owners are told

The stock of a session: the slots of its user, the inventory its client shows
after all packets posted so far, and the session state.  Only the inventory
requests, the login and the removal of the user change it; everything else a
task does leaves every stock alone.
-/

namespace Mmorpg

open ZoneLayout

variable {grid : CollisionGrid}

/-- The slots of a user. -/
def Subject.slots (subject : Subject) : Option Slots :=
  match subject.body with
  | .user user => some user.inventory.slots
  | _ => none

/-- The slots of a player, the slots its client shows, and the state of the
session. -/
@[ext]
structure Stock where
  slots : Option Slots
  mirror : ClientInventory
  state : SocketState

/-- Packets that are not about the inventory. -/
def Unlisted (packet : ServerPacket) : Prop :=
  packet.isInventory = false

namespace World

/-- The packets posted to a session, in order. -/
def received (session : Nat) (world : World) : List ServerPacket :=
  (world.outbox.filter fun entry => entry.1 = session).map Prod.snd

/-- The client's inventory once it has processed everything posted to it. -/
def mirror (session : Nat) (world : World) : ClientInventory :=
  (world.received session).foldl ClientInventory.processPacket .blank

/-- The stock of a session. -/
def stock (session : Nat) (world : World) : Stock where
  slots := (world.objects (ObjID.user session)).bind Subject.slots
  mirror := world.mirror session
  state := world.sessionState session

variable {world before after : World} {session : Nat} {zone : Nat} {choice : Choice grid}

theorem stock_slots_eq_some {slots : Slots} :
    (world.stock session).slots = some slots ↔ ∃ client user,
      world.getUser (ObjID.user session) = some (client, user) ∧ slots = user.inventory.slots := by
  simp only [stock, Option.bind_eq_some_iff, getUser_eq_some]
  constructor
  · rintro ⟨client, found, same⟩
    cases bodyOf : client.body with
    | user user =>
        rw [Subject.slots, bodyOf, Option.some.injEq] at same
        exact ⟨client, user, ⟨found, bodyOf⟩, same.symm⟩
    | monster monster => simp [Subject.slots, bodyOf] at same
    | item item => simp [Subject.slots, bodyOf] at same
  · rintro ⟨client, user, ⟨found, bodyOf⟩, rfl⟩
    exact ⟨client, found, by rw [Subject.slots, bodyOf]⟩

/-- The stock depends on objects, sessions and packets. -/
theorem stock_congr (objects : after.objects = before.objects) (sessions : after.sessions = before.sessions)
    (outbox : after.outbox = before.outbox) : after.stock session = before.stock session := by
  simp only [stock, mirror, received, sessionState, objects, sessions, outbox]

/-! ## Packets -/

/-- What the client shows after some packets. -/
theorem mirror_post (packets : List (Nat × ServerPacket)) :
    (world.post packets).mirror session =
      ((packets.filter fun entry => entry.1 = session).map Prod.snd).foldl
        ClientInventory.processPacket (world.mirror session) := by
  rw [mirror, received, post, List.filter_append, List.map_append, List.foldl_append]
  rfl

/-- Packets about no slot change nothing that is shown. -/
theorem foldl_processPacket_unlisted {packets : List ServerPacket}
    (others : ∀ packet ∈ packets, Unlisted packet) (inventory : ClientInventory) :
    packets.foldl ClientInventory.processPacket inventory = inventory := by
  induction packets generalizing inventory with
  | nil => rfl
  | cons packet rest ih =>
      rw [List.foldl_cons, processPacket_of_not_isInventory (others packet List.mem_cons_self)]
      exact ih (fun other member => others other (List.mem_cons_of_mem packet member)) inventory

theorem stock_post {packets : List (Nat × ServerPacket)}
    (others : ∀ entry ∈ packets, Unlisted entry.2) :
    (world.post packets).stock session = world.stock session := by
  refine Stock.ext rfl ?_ rfl
  change (world.post packets).mirror session = world.mirror session
  rw [mirror_post]
  apply foldl_processPacket_unlisted
  intro packet member
  obtain ⟨entry, among, rfl⟩ := List.mem_map.mp member
  exact others entry (List.mem_of_mem_filter among)

theorem stock_send {receiver : ObjID} {packet : ServerPacket} (other : Unlisted packet) :
    (world.send receiver packet).stock session = world.stock session :=
  stock_post fun _ member => List.mem_singleton.mp member ▸ other

theorem stock_sendAll {receivers : List ObjID} {packet : ServerPacket} (other : Unlisted packet) :
    (world.sendAll receivers packet).stock session = world.stock session := by
  apply stock_post
  intro entry member
  obtain ⟨receiver, _, rfl⟩ := List.mem_map.mp member
  exact other

theorem unlisted_addPacket (slots : SlotOrder) (id : ObjID) (subject : Subject) :
    Unlisted (addPacket slots id subject) := by
  unfold addPacket
  split <;> rfl

theorem unlisted_respawnPacket (id : ObjID) (subject : Subject) :
    Unlisted (respawnPacket id subject) := by
  unfold respawnPacket
  split <;> rfl

/-! ## Objects -/

theorem stock_objects {id : ObjID} {object : Option Subject}
    (same : object.bind Subject.slots = (world.objects id).bind Subject.slots) :
    stock session { world with objects := Function.update world.objects id object } =
      world.stock session := by
  refine Stock.ext ?_ rfl rfl
  simp only [stock, Function.update_apply]
  split
  · next here => rw [here, same]
  · rfl

/-- Filing or dropping an object under an identifier that has no slots. -/
theorem stock_update {id : ObjID} {object : Option Subject} (none_ : object.bind Subject.slots = none)
    (unused : id = ObjID.user session → (world.stock session).slots = none) :
    stock session { world with objects := Function.update world.objects id object } =
      world.stock session := by
  by_cases here : id = ObjID.user session
  · apply stock_objects
    rw [none_, here]
    exact (unused here).symm
  · refine Stock.ext ?_ rfl rfl
    simp only [stock, Function.update_of_ne (Ne.symm here)]

theorem stock_modify {id : ObjID} {change : Subject → Subject}
    (same : ∀ subject, (change subject).slots = subject.slots) :
    (world.modify id change).stock session = world.stock session := by
  apply stock_objects
  cases world.objects id with
  | none => rfl
  | some subject => exact same subject

@[simp]
theorem stock_modifyTransform {id : ObjID} {change : Transform → Transform} :
    (world.modifyTransform id change).stock session = world.stock session :=
  stock_modify fun _ => rfl

theorem stock_modifyUser {id : ObjID} {change : User → User}
    (same : ∀ user, (change user).inventory.slots = user.inventory.slots) :
    (world.modifyUser id change).stock session = world.stock session := by
  apply stock_modify
  rintro ⟨name, transform, facing, body⟩
  cases body with
  | user user => exact congrArg some (same user)
  | monster monster => rfl
  | item item => rfl

@[simp]
theorem stock_setStat {id : ObjID} {change : Stat → Stat} :
    (world.setStat id change).stock session = world.stock session :=
  stock_modifyUser fun _ => rfl

@[simp]
theorem stock_modifyMonster {id : ObjID} {change : Monster → Monster} :
    (world.modifyMonster id change).stock session = world.stock session := by
  apply stock_modify
  rintro ⟨name, transform, facing, body⟩
  cases body <;> rfl

@[simp]
theorem stock_modifyItem {id : ObjID} {change : Item → Item} :
    (world.modifyItem id change).stock session = world.stock session := by
  apply stock_modify
  rintro ⟨name, transform, facing, body⟩
  cases body <;> rfl

/-! ## Everything else -/

@[simp]
theorem stock_modifyCell {sector : SectorCoord} {change : Cell → Cell} :
    (world.modifyCell zone sector change).stock session = world.stock session :=
  stock_congr rfl rfl rfl

@[simp]
theorem stock_updateObjectZone {id : ObjID} {zoneId : Nat} :
    (world.updateObjectZone id zoneId).stock session = world.stock session := by
  unfold updateObjectZone
  split
  · exact stock_congr rfl rfl rfl
  · rfl

@[simp]
theorem stock_removeObjectZone {id : ObjID} :
    (world.removeObjectZone id).stock session = world.stock session :=
  stock_congr rfl rfl rfl

@[simp]
theorem stock_setRoutingZoneId {other zoneId : Nat} :
    (world.setRoutingZoneId other zoneId).stock session = world.stock session :=
  Stock.ext rfl rfl (sessionState_setRoutingZoneId other zoneId session world)

@[simp]
theorem stock_enqueueByZone {zoneId : Nat} {task : Task} :
    (world.enqueueByZone zoneId task).stock session = world.stock session :=
  stock_congr rfl rfl rfl

@[simp]
theorem stock_scheduleAfter {id targetId : ObjID} {delay : Nat} {event : TimerEventType} :
    (world.scheduleAfter zone id delay event targetId).stock session = world.stock session :=
  stock_congr rfl rfl rfl

@[simp]
theorem stock_requestDb {request : DBThread.DbRequest} :
    (world.requestDb request).stock session = world.stock session :=
  stock_congr rfl rfl rfl

@[simp]
theorem stock_removeObject {id : ObjID} {transform : Transform} :
    (world.removeObject zone id transform).stock session = world.stock session := by
  unfold removeObject
  split
  · simp only [stock_modifyTransform, stock_modifyCell]
  · rfl

theorem stock_updateObjectSectorAndPosition {id : ObjID} {transform : Transform} {x y : Int}
    (moved : before.updateObjectSectorAndPosition zone id transform x y = some after) :
    after.stock session = before.stock session := by
  simp only [updateObjectSectorAndPosition] at moved
  split at moved
  · rw [← Option.some.inj moved, stock_modifyTransform]
    split
    · rw [stock_modifyCell]
      split
      · exact stock_modifyCell
      · rfl
    · rfl
  · contradiction

@[simp]
theorem stock_updatePosition {id : ObjID} {x y : Int} :
    (world.updatePosition zone id x y).stock session = world.stock session := by
  unfold updatePosition
  split
  · rfl
  · split
    · rfl
    · next placed moved =>
      rw [← stock_updateObjectSectorAndPosition moved]
      dsimp only
      split
      · rw [stock_setRoutingZoneId]
        split
        · rw [stock_updateObjectZone, stock_modifyTransform]
        · rfl
      · split
        · rw [stock_updateObjectZone, stock_modifyTransform]
        · rfl

end World

end Mmorpg
