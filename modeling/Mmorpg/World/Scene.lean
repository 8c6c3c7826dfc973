import Mmorpg.Client.Players
import Mmorpg.Item.AttackPower
import Mmorpg.World.Stock

/-!
# Users as the clients show them

The scene of a world: who the users are, where they stand, which sessions are
in the game, and which weapon every client shows for every other player.
Monsters, items and most packets are no part of it.
-/

namespace Mmorpg

open ZoneLayout

variable {grid : CollisionGrid}

/-- Where a user is, whether it is dead, and what it holds. -/
structure Figure where
  transform : Transform
  dead : Bool
  slots : Slots

/-- The figure of a user. -/
def Subject.figure (subject : Subject) : Option Figure :=
  match subject.body with
  | .user user => some ⟨subject.transform, user.stat.dead, user.inventory.slots⟩
  | _ => none

/-- Users are named by their sessions. -/
@[ext]
structure Scene where
  figure : Nat → Option Figure
  stands : Nat → Nat → SectorCoord → Prop
  state : Nat → SocketState
  shown : Nat → Nat → Option ItemTableId

/-- Packets that change the weapon of no user. -/
def Unworn (packet : ServerPacket) : Prop :=
  ∀ id, packet.bearer = some id → id.category ≠ .eUser

namespace World

/-- The weapon the client of `viewer` knows for `target`. -/
def shownWeapon (viewer target : Nat) (world : World) : Option ItemTableId :=
  (world.received viewer).foldl (ServerPacket.weaponAfter (ObjID.user target)) none

/-- The scene of the world: its users, where they stand, who is in the game,
and what the clients show. -/
def scene (world : World) : Scene where
  figure session := (world.objects (ObjID.user session)).bind Subject.figure
  stands session zone sector := ObjID.user session ∈ world.cells zone sector
  state session := world.sessionState session
  shown viewer target := world.shownWeapon viewer target

variable {world before after : World} {zone : Nat} {choice : Choice grid} {id : ObjID}

theorem user_of_category (user : id.category = .eUser) : id = ObjID.user id.databaseId := by
  rcases id with ⟨category, databaseId⟩
  exact congrArg (ObjID.mk · databaseId) user

theorem ne_user (other : id.category ≠ .eUser) (session : Nat) : ObjID.user session ≠ id :=
  fun same => other (congrArg ObjID.category same).symm

theorem figure_eq_some {session : Nat} {figure : Figure} :
    world.scene.figure session = some figure ↔ ∃ client user,
      world.getUser (ObjID.user session) = some (client, user) ∧
        figure = ⟨client.transform, user.stat.dead, user.inventory.slots⟩ := by
  simp only [scene, Option.bind_eq_some_iff, getUser_eq_some]
  constructor
  · rintro ⟨client, found, same⟩
    cases bodyOf : client.body with
    | user user =>
        rw [Subject.figure, bodyOf, Option.some.injEq] at same
        exact ⟨client, user, ⟨found, bodyOf⟩, same.symm⟩
    | monster monster => simp [Subject.figure, bodyOf] at same
    | item item => simp [Subject.figure, bodyOf] at same
  · rintro ⟨client, user, ⟨found, bodyOf⟩, rfl⟩
    exact ⟨client, found, by rw [Subject.figure, bodyOf]⟩

theorem figure_of_getUser {session : Nat} {client : Subject} {user : User}
    (found : world.getUser (ObjID.user session) = some (client, user)) :
    world.scene.figure session =
      some ⟨client.transform, user.stat.dead, user.inventory.slots⟩ :=
  figure_eq_some.mpr ⟨client, user, found, rfl⟩

/-- The scene depends on objects, cells, sessions and packets. -/
theorem scene_congr (objects : after.objects = before.objects) (cells : after.cells = before.cells)
    (sessions : after.sessions = before.sessions) (outbox : after.outbox = before.outbox) :
    after.scene = before.scene := by
  simp only [scene, shownWeapon, received, sessionState, objects, cells, sessions, outbox]

/-! ## Packets -/

/-- What `viewer` is told by a list of packets. -/
def toldTo (viewer : Nat) (packets : List (Nat × ServerPacket)) : List ServerPacket :=
  (packets.filter fun entry => entry.1 = viewer).map Prod.snd

theorem mem_toldTo_iff {viewer : Nat} {packets : List (Nat × ServerPacket)}
    {packet : ServerPacket} : packet ∈ toldTo viewer packets ↔ (viewer, packet) ∈ packets := by
  simp [toldTo]

theorem shownWeapon_post (packets : List (Nat × ServerPacket)) (viewer target : Nat) :
    (world.post packets).shownWeapon viewer target =
      (toldTo viewer packets).foldl (ServerPacket.weaponAfter (ObjID.user target))
        (world.shownWeapon viewer target) := by
  rw [shownWeapon, received, post, List.filter_append, List.map_append, List.foldl_append]
  rfl

/-- A client that is told nothing about a player shows what it did. -/
theorem shownWeapon_post_other {packets : List (Nat × ServerPacket)} {viewer target : Nat}
    (others : ∀ packet, (viewer, packet) ∈ packets → packet.bearer ≠ some (ObjID.user target)) :
    (world.post packets).shownWeapon viewer target = world.shownWeapon viewer target := by
  rw [shownWeapon_post]
  apply ServerPacket.weaponAfter_keeps (· = world.shownWeapon viewer target) _ rfl
  intro packet member known same
  rw [ServerPacket.weaponAfter_of_bearer (others packet (mem_toldTo_iff.mp member)), same]

theorem scene_post {packets : List (Nat × ServerPacket)}
    (unworn : ∀ entry ∈ packets, Unworn entry.2) : (world.post packets).scene = world.scene := by
  refine Scene.ext rfl rfl rfl ?_
  funext viewer target
  apply shownWeapon_post_other
  intro packet member bearer
  exact unworn _ member _ bearer rfl

theorem unworn_of_bearer {packet : ServerPacket} (nobody : packet.bearer = none) : Unworn packet :=
  fun _ bearer => by rw [nobody] at bearer; contradiction

theorem scene_send {receiver : ObjID} {packet : ServerPacket} (unworn : Unworn packet) :
    (world.send receiver packet).scene = world.scene :=
  scene_post fun _ member => List.mem_singleton.mp member ▸ unworn

theorem scene_sendAll {receivers : List ObjID} {packet : ServerPacket} (unworn : Unworn packet) :
    (world.sendAll receivers packet).scene = world.scene := by
  apply scene_post
  intro entry member
  obtain ⟨receiver, _, rfl⟩ := List.mem_map.mp member
  exact unworn

theorem bearer_addPacket (slots : SlotOrder) (id : ObjID) (subject : Subject) :
    (addPacket slots id subject).bearer = some id := by
  unfold addPacket
  split <;> rfl

theorem bearer_respawnPacket (id : ObjID) (subject : Subject) :
    (respawnPacket id subject).bearer = some id := by
  unfold respawnPacket
  split <;> rfl

theorem unworn_addPacket (other : id.category ≠ .eUser) (slots : SlotOrder) (subject : Subject) :
    Unworn (addPacket slots id subject) := by
  intro bearer same
  rw [bearer_addPacket] at same
  exact Option.some.inj same ▸ other

theorem unworn_respawnPacket (other : id.category ≠ .eUser) (subject : Subject) :
    Unworn (respawnPacket id subject) := by
  intro bearer same
  rw [bearer_respawnPacket] at same
  exact Option.some.inj same ▸ other

/-! ## Objects -/

theorem scene_objects {object : Option Subject}
    (same : ∀ session, ObjID.user session = id →
      object.bind Subject.figure = world.scene.figure session) :
    scene { world with objects := Function.update world.objects id object } = world.scene := by
  refine Scene.ext ?_ rfl rfl rfl
  funext session
  simp only [scene, Function.update_apply]
  split
  · next here => exact same session here
  · rfl

/-- Filing or dropping something that is no user. -/
theorem scene_update {object : Option Subject} (other : id.category ≠ .eUser) :
    scene { world with objects := Function.update world.objects id object } = world.scene :=
  scene_objects fun session here => absurd here (ne_user other session)

theorem scene_modify {change : Subject → Subject}
    (same : ∀ subject, (change subject).figure = subject.figure) :
    (world.modify id change).scene = world.scene := by
  apply scene_objects
  rintro session rfl
  simp only [scene]
  cases world.objects (ObjID.user session) with
  | none => rfl
  | some subject => exact same subject

/-- A change of a user that keeps its figure. -/
theorem scene_modifyUser {change : User → User}
    (dead : ∀ user, (change user).stat.dead = user.stat.dead)
    (slots : ∀ user, (change user).inventory.slots = user.inventory.slots) :
    (world.modifyUser id change).scene = world.scene := by
  apply scene_modify
  rintro ⟨name, transform, facing, body⟩
  cases body with
  | user user => simp only [Subject.figure, dead, slots]
  | monster monster => rfl
  | item item => rfl

theorem scene_setStat {change : Stat → Stat} (dead : ∀ stat, (change stat).dead = stat.dead) :
    (world.setStat id change).scene = world.scene :=
  scene_modifyUser (fun user => dead user.stat) fun _ => rfl

@[simp]
theorem scene_modifyMonster {change : Monster → Monster} :
    (world.modifyMonster id change).scene = world.scene := by
  apply scene_modify
  rintro ⟨name, transform, facing, body⟩
  cases body <;> rfl

@[simp]
theorem scene_modifyItem {change : Item → Item} :
    (world.modifyItem id change).scene = world.scene := by
  apply scene_modify
  rintro ⟨name, transform, facing, body⟩
  cases body <;> rfl

theorem scene_modifyTransform (other : id.category ≠ .eUser) {change : Transform → Transform} :
    (world.modifyTransform id change).scene = world.scene :=
  scene_update other

/-! ## Everything else -/

@[simp]
theorem scene_updateObjectZone {zoneId : Nat} :
    (world.updateObjectZone id zoneId).scene = world.scene := by
  unfold updateObjectZone
  split
  · exact scene_congr rfl rfl rfl rfl
  · rfl

@[simp]
theorem scene_removeObjectZone : (world.removeObjectZone id).scene = world.scene :=
  scene_congr rfl rfl rfl rfl

@[simp]
theorem scene_setRoutingZoneId {session zoneId : Nat} :
    (world.setRoutingZoneId session zoneId).scene = world.scene :=
  Scene.ext rfl rfl (funext fun other => sessionState_setRoutingZoneId session zoneId other world) rfl

@[simp]
theorem scene_enqueueByZone {zoneId : Nat} {task : Task} :
    (world.enqueueByZone zoneId task).scene = world.scene :=
  scene_congr rfl rfl rfl rfl

@[simp]
theorem scene_scheduleAfter {targetId : ObjID} {delay : Nat} {event : TimerEventType} :
    (world.scheduleAfter zone id delay event targetId).scene = world.scene :=
  scene_congr rfl rfl rfl rfl

@[simp]
theorem scene_requestDb {request : DBThread.DbRequest} :
    (world.requestDb request).scene = world.scene :=
  scene_congr rfl rfl rfl rfl

theorem scene_modifyCell {sector : SectorCoord} {change : Cell → Cell}
    (same : ∀ session cell, ObjID.user session ∈ change cell ↔ ObjID.user session ∈ cell) :
    (world.modifyCell zone sector change).scene = world.scene := by
  refine Scene.ext rfl ?_ rfl rfl
  funext session otherZone otherSector
  simp only [scene, modifyCell]
  split
  · exact propext (same session _)
  · rfl

theorem scene_erase (other : id.category ≠ .eUser) {sector : SectorCoord} :
    (world.modifyCell zone sector (Cell.erase id)).scene = world.scene := by
  apply scene_modifyCell
  intro session cell
  rw [Cell.mem_erase_iff]
  exact and_iff_right (ne_user other session)

theorem scene_insert (other : id.category ≠ .eUser) {sector : SectorCoord} :
    (world.modifyCell zone sector (Cell.insert id)).scene = world.scene := by
  apply scene_modifyCell
  intro session cell
  rw [Cell.mem_insert_iff]
  exact or_iff_right (ne_user other session)

theorem scene_removeObject (other : id.category ≠ .eUser) {transform : Transform} :
    (world.removeObject zone id transform).scene = world.scene := by
  unfold removeObject
  split
  · rw [scene_modifyTransform other, scene_erase other]
  · rfl

theorem scene_updateObjectSectorAndPosition (other : id.category ≠ .eUser) {transform : Transform}
    {x y : Int} (moved : before.updateObjectSectorAndPosition zone id transform x y = some after) :
    after.scene = before.scene := by
  simp only [updateObjectSectorAndPosition] at moved
  split at moved
  · rw [← Option.some.inj moved, scene_modifyTransform other]
    split
    · rw [scene_insert other]
      split
      · exact scene_erase other
      · rfl
    · rfl
  · contradiction

theorem scene_updatePosition (other : id.category ≠ .eUser) {x y : Int} :
    (world.updatePosition zone id x y).scene = world.scene := by
  unfold updatePosition
  split
  · rfl
  · split
    · rfl
    · next placed moved =>
      rw [← scene_updateObjectSectorAndPosition other moved]
      dsimp only
      split
      · rw [scene_setRoutingZoneId]
        split
        · rw [scene_updateObjectZone, scene_modifyTransform other]
        · rfl
      · split
        · rw [scene_updateObjectZone, scene_modifyTransform other]
        · rfl

end World

end Mmorpg
