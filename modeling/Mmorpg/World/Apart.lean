import Mmorpg.World.Script
import Mmorpg.World.Placement

/-!
# Changes of one object

Most operations change one object and leave all others apart.  `Apart` says what
that means for the other objects: their cores, their cells, their entries in
the zone map and the timer events that are pending for them.
-/

namespace Mmorpg

open ZoneLayout

variable {grid : CollisionGrid}

/-- A timer event of `id` that was handed to a game logic thread. -/
def Task.isEventOf (id : ObjID) : Task → Bool
  | timer _ subjectId _ => subjectId = id
  | _ => false

/-- Where the object is. -/
def Core.transform : Core → Transform
  | user transform .. => transform
  | monster transform _ => transform
  | item transform .. => transform

/-- The kind of the object. -/
def Core.category : Core → EnumCategory
  | user .. => .eUser
  | monster .. => .eMonster
  | item .. => .eItem

theorem Subject.core_transform (subject : Subject) : subject.core.transform = subject.transform := by
  unfold core
  split <;> rfl

theorem Subject.core_category (subject : Subject) : subject.core.category = subject.category := by
  rcases subject with ⟨name, transform, facing, body⟩
  cases body <;> rfl

namespace World

/-- Only the object `id` changed. -/
structure Apart (id : ObjID) (before after : World) : Prop where
  core : ∀ other, other ≠ id → after.coreOf other = before.coreOf other
  cells : ∀ other, other ≠ id → ∀ zone sector,
    other ∈ after.cells zone sector ↔ other ∈ before.cells zone sector
  zones : ∀ other, other ≠ id → after.objectZones other = before.objectZones other
  queues : ∀ other, other ≠ id → ∀ thread,
    (after.queues thread).filter (Task.isEventOf other) =
      (before.queues thread).filter (Task.isEventOf other)
  timers : ∃ added, after.timers = before.timers ++ added ∧
    ∀ event ∈ added, event.subjectId = id ∨
      event.event = .evHeal ∧ event.subjectId.category = .eUser

theorem Plain.apart {before after : World} (plain : Plain before after) (id : ObjID) :
    Apart id before after where
  core other _ := plain.core other
  cells other _ zone sector := by rw [plain.cells]
  zones other _ := by rw [plain.objectZones]
  queues other _ thread := by rw [plain.queues]
  timers := by
    rcases plain.timers with ⟨added, timers, heal⟩
    exact ⟨added, timers, fun event member => .inr (heal event member)⟩

namespace Apart

variable {id : ObjID} {before middle after : World}

theorem refl (id : ObjID) (world : World) : Apart id world world :=
  (Plain.refl world).apart id

theorem trans (first : Apart id before middle) (second : Apart id middle after) :
    Apart id before after where
  core other different := (second.core other different).trans (first.core other different)
  cells other different zone sector :=
    (second.cells other different zone sector).trans (first.cells other different zone sector)
  zones other different := (second.zones other different).trans (first.zones other different)
  queues other different thread :=
    (second.queues other different thread).trans (first.queues other different thread)
  timers := by
    rcases first.timers with ⟨early, earlyTimers, earlyOwn⟩
    rcases second.timers with ⟨late, lateTimers, lateOwn⟩
    refine ⟨early ++ late, by rw [lateTimers, earlyTimers, List.append_assoc], ?_⟩
    intro event member
    rcases List.mem_append.mp member with old | new
    · exact earlyOwn event old
    · exact lateOwn event new

theorem thenPlain (apart : Apart id before middle) (plain : Plain middle after) :
    Apart id before after :=
  apart.trans (plain.apart id)

theorem post {packets : List (Nat × ServerPacket)} (apart : Apart id before after) :
    Apart id before (after.post packets) :=
  apart.thenPlain (Plain.refl after).post

/-- Replacing, filing or dropping the object. -/
theorem update {object : Option Subject} (apart : Apart id before after) :
    Apart id before { after with objects := Function.update after.objects id object } where
  core other different := by
    rw [← apart.core other different]
    simp only [coreOf, Function.update_of_ne different]
  cells := apart.cells
  zones := apart.zones
  queues := apart.queues
  timers := apart.timers

theorem modify {change : Subject → Subject} (apart : Apart id before after) :
    Apart id before (after.modify id change) :=
  apart.update

theorem modifyCell {zone : Nat} {sector : SectorCoord} {change : Cell → Cell}
    (own : ∀ cell other, other ≠ id → (other ∈ change cell ↔ other ∈ cell))
    (apart : Apart id before after) : Apart id before (after.modifyCell zone sector change) where
  core := apart.core
  cells other different otherZone otherSector := by
    rw [← apart.cells other different, mem_modifyCell_iff]
    split
    · exact own _ other different
    · rfl
  zones := apart.zones
  queues := apart.queues
  timers := apart.timers

theorem erase {zone : Nat} {sector : SectorCoord} (apart : Apart id before after) :
    Apart id before (after.modifyCell zone sector (Cell.erase id)) := by
  apply apart.modifyCell
  intro cell other different
  rw [Cell.mem_erase_iff]
  exact and_iff_right different

theorem insert {zone : Nat} {sector : SectorCoord} (apart : Apart id before after) :
    Apart id before (after.modifyCell zone sector (Cell.insert id)) := by
  apply apart.modifyCell
  intro cell other different
  rw [Cell.mem_insert_iff]
  exact or_iff_right different

theorem removeObject {zone : Nat} {transform : Transform} (apart : Apart id before after) :
    Apart id before (after.removeObject zone id transform) := by
  unfold World.removeObject
  split
  · exact apart.erase.modify
  · exact apart

theorem updateObjectSectorAndPosition {zone : Nat} {transform : Transform} {x y : Int}
    {placed : World} (apart : Apart id before after)
    (moved : after.updateObjectSectorAndPosition zone id transform x y = some placed) :
    Apart id before placed := by
  simp only [World.updateObjectSectorAndPosition] at moved
  split at moved
  · rw [← Option.some.inj moved]
    apply modify
    split
    · apply insert
      split
      · exact apart.erase
      · exact apart
    · exact apart
  · contradiction

/-- Changes of the zone map at `id` and of sessions. -/
theorem congr {changed : World} (apart : Apart id before after)
    (objects : changed.objects = after.objects) (cells : changed.cells = after.cells)
    (zones : ∀ other, other ≠ id → changed.objectZones other = after.objectZones other)
    (queues : changed.queues = after.queues) (timers : changed.timers = after.timers) :
    Apart id before changed where
  core other different := by
    rw [← apart.core other different, coreOf, coreOf, objects]
  cells other different zone sector := by
    rw [cells]
    exact apart.cells other different zone sector
  zones other different := (zones other different).trans (apart.zones other different)
  queues other different thread := by
    rw [queues]
    exact apart.queues other different thread
  timers := timers ▸ apart.timers

theorem updateObjectZone {zoneId : Nat} (apart : Apart id before after) :
    Apart id before (after.updateObjectZone id zoneId) := by
  unfold World.updateObjectZone
  split
  · refine apart.congr rfl rfl ?_ rfl rfl
    exact fun other different => Function.update_of_ne different _ _
  · exact apart

theorem removeObjectZone (apart : Apart id before after) :
    Apart id before (after.removeObjectZone id) := by
  refine apart.congr rfl rfl ?_ rfl rfl
  exact fun other different => Function.update_of_ne different _ _

theorem setRoutingZoneId {session zoneId : Nat} (apart : Apart id before after) :
    Apart id before (after.setRoutingZoneId session zoneId) :=
  apart.congr rfl rfl (fun _ _ => rfl) rfl rfl

theorem updatePosition {zone : Nat} {x y : Int} (apart : Apart id before after) :
    Apart id before (after.updatePosition zone id x y) := by
  unfold World.updatePosition
  split
  · exact apart
  · split
    · exact apart
    · next placed moved =>
      have settled := apart.updateObjectSectorAndPosition moved
      have mapped : Apart id before ((placed.modifyTransform id fun current =>
          { current with zoneId := getZoneIdByWorld x y }).updateObjectZone id
            (getZoneIdByWorld x y)) := settled.modify.updateObjectZone
      dsimp only
      split
      · apply setRoutingZoneId
        split
        · exact mapped
        · exact settled
      · split
        · exact mapped
        · exact settled

theorem scheduleAfter {zone delay : Nat} {event : TimerEventType} {targetId : ObjID}
    (apart : Apart id before after) :
    Apart id before (after.scheduleAfter zone id delay event targetId) := by
  apply apart.trans
  constructor
  case timers =>
    refine ⟨[⟨id, delay, event, targetId, zone⟩], rfl, ?_⟩
    intro added member
    rw [List.mem_singleton.mp member]
    exact .inl rfl
  case core => exact fun _ _ => rfl
  case cells => exact fun _ _ _ _ => Iff.rfl
  case zones => exact fun _ _ => rfl
  case queues => exact fun _ _ _ => rfl

/-- Queueing a task that is no timer event. -/
theorem enqueueByZone {zoneId : Nat} {task : Task}
    (noEvent : ∀ other, other ≠ id → task.isEventOf other = false)
    (apart : Apart id before after) : Apart id before (after.enqueueByZone zoneId task) where
  core := apart.core
  cells := apart.cells
  zones := apart.zones
  queues other different thread := by
    rw [← apart.queues other different]
    simp only [World.enqueueByZone, Function.update_apply]
    split
    · next here => rw [List.filter_append, List.filter_singleton, noEvent other different, here,
        cond_false, List.append_nil]
    · rfl
  timers := apart.timers

end Apart

/-! ## Composite operations -/

variable {zone : Nat} {choice : Choice grid} {world after : World}

/-- Storing an inventory changes its owner only. -/
theorem setInventory_apart (id : ObjID) (inventory : Inventory) :
    Apart id world (world.setInventory id inventory) :=
  Apart.congr (Apart.modify (Apart.refl id world)) rfl rfl (fun _ _ => rfl) rfl rfl

theorem publishUser_apart (session : Nat) (subject : Subject) :
    Apart (ObjID.user session) world (world.publishUser session subject) :=
  Apart.congr (Apart.update (Apart.refl _ world)) rfl rfl (fun _ _ => rfl) rfl rfl

theorem handleZoneTransfer_apart {playerId : ObjID} {player : Subject} {x y : Int}
    {newZoneId : Nat} :
    Apart playerId world (world.handleZoneTransfer zone choice playerId player x y newZoneId) := by
  unfold handleZoneTransfer
  apply Apart.enqueueByZone (fun _ _ => rfl)
  apply Apart.setRoutingZoneId
  apply Apart.updateObjectZone
  apply Apart.modify
  apply Apart.post
  apply Apart.modify
  apply Apart.removeObject
  exact Apart.modify (Apart.refl playerId world)

theorem saveUserInfo_plain (id : ObjID) : Plain world (world.saveUserInfo choice id) := by
  unfold saveUserInfo
  split
  · exact Plain.refl world
  · split
    · exact (Plain.refl world).requestDb
    · exact (Plain.refl world).requestDb

theorem leaveWorld_apart {clientId : ObjID} {client : Subject} :
    Apart clientId world (world.leaveWorld zone choice clientId client) := by
  unfold leaveWorld
  apply Apart.removeObjectZone
  apply Apart.update
  apply Apart.thenPlain _ (saveUserInfo_plain clientId)
  apply Apart.removeObject
  exact Apart.post (Apart.refl clientId world)

theorem removeFieldItem_apart {itemId : ObjID} {subject : Subject} :
    Apart itemId world (world.removeFieldItem zone choice itemId subject) := by
  unfold removeFieldItem
  apply Apart.update
  apply Apart.removeObjectZone
  apply Apart.removeObject
  exact Apart.post (Apart.refl itemId world)

theorem scheduleItemTimers_apart (itemId owner : ObjID) :
    Apart itemId world (world.scheduleItemTimers zone itemId owner) := by
  unfold scheduleItemTimers
  dsimp only
  split
  · exact (Apart.refl itemId world).scheduleAfter.scheduleAfter
  · exact (Apart.refl itemId world).scheduleAfter

/-- The new item has an identifier that nobody has. -/
theorem spawnFieldItem_apart {item : Item} {x y : Int} {owner : ObjID}
    (spawned : world.spawnFieldItem zone choice item x y owner = some after) :
    world.objects (ObjID.item world.nextFieldItemId) = none ∧
      Apart (ObjID.item world.nextFieldItemId) world after := by
  unfold spawnFieldItem at spawned
  dsimp only at spawned
  split at spawned
  · next accepted =>
    refine ⟨by simpa using accepted.2, ?_⟩
    have registered : Apart (ObjID.item world.nextFieldItemId) world
        ({ world with nextFieldItemId := world.nextFieldItemId + 1 }.insertObject
          (ObjID.item world.nextFieldItemId) (fieldSubject item owner)) :=
      Apart.update ((Apart.refl _ world).congr rfl rfl (fun _ _ => rfl) rfl rfl)
    split at spawned
    · contradiction
    · rw [← Option.some.inj spawned]
      apply Apart.trans _ (scheduleItemTimers_apart _ owner)
      apply Apart.post
      exact registered.updatePosition
  · contradiction

theorem handleItemDrop_apart {monsterId attackerId : ObjID} {x y : Int}
    (dropped : world.handleItemDrop zone choice monsterId attackerId x y = some after) :
    ∃ itemId, itemId.category = .eItem ∧ Apart itemId world after := by
  unfold handleItemDrop at dropped
  split at dropped
  · exact Option.some.inj dropped ▸ ⟨ObjID.item 0, rfl, Apart.refl _ world⟩
  · split at dropped
    · contradiction
    · exact ⟨_, rfl, (spawnFieldItem_apart dropped).2⟩

theorem wakeUpMonster_apart {monsterId wakerId : ObjID} {forceWake : Bool} :
    Apart monsterId world (world.wakeUpMonster zone monsterId wakerId forceWake) := by
  unfold wakeUpMonster
  split
  · split
    · exact Apart.refl monsterId world
    · split
      · exact Apart.refl monsterId world
      · split
        · exact Apart.refl monsterId world
        · dsimp only
          split
          · exact Apart.scheduleAfter (Apart.modify (Apart.refl monsterId world))
          · exact Apart.scheduleAfter (Apart.modify (Apart.refl monsterId world))
  · exact Apart.refl monsterId world

theorem rewarded_plain (playerId : ObjID) (expGain : Nat) :
    Plain world (world.setStat playerId (Stat.addExp expGain)) := by
  apply Plain.modifyUser _ _ _ _ (Plain.refl world)
  · exact fun _ => rfl
  · exact fun _ => rfl
  · exact fun user => Stat.addExp_hp expGain user.stat
  · exact fun user => Stat.addExp_dead expGain user.stat

/-- A kill changes the monster only, rewards and drops apart. -/
theorem killMonster_apart {monsterId playerId : ObjID} {subject : Subject} {monster : Monster}
    {attacker : User} :
    Apart monsterId world
      (world.killMonster zone choice monsterId playerId subject monster attacker) := by
  unfold killMonster
  dsimp only
  apply Apart.post
  apply Apart.thenPlain _ (rewarded_plain playerId _)
  apply Apart.modify
  apply Apart.removeObject
  exact Apart.post (Apart.refl monsterId world)

/-! ## Cores after single changes -/

theorem coreOf_eq_monster {id : ObjID} {transform : Transform} {monster : Monster} :
    world.coreOf id = some (.monster transform monster) ↔
      ∃ subject, world.getMonster id = some (subject, monster) ∧ subject.transform = transform := by
  simp only [coreOf, Option.map_eq_some_iff, getMonster_eq_some]
  constructor
  · rintro ⟨subject, found, same⟩
    rcases subject with ⟨name, own, facing, body⟩
    cases body with
    | user user => contradiction
    | monster other =>
      obtain ⟨rfl, rfl⟩ : own = transform ∧ other = monster := by
        simpa [Subject.core] using same
      exact ⟨_, ⟨found, rfl⟩, rfl⟩
    | item item => contradiction
  · rintro ⟨subject, ⟨found, bodyOf⟩, rfl⟩
    exact ⟨subject, found, by rw [Subject.core, bodyOf]⟩

theorem coreOf_of_getMonster {id : ObjID} {subject : Subject} {monster : Monster}
    (found : world.getMonster id = some (subject, monster)) :
    world.coreOf id = some (.monster subject.transform monster) :=
  coreOf_eq_monster.mpr ⟨subject, found, rfl⟩

/-- The core of a monster after a change of its body. -/
theorem coreOf_modifyMonster {id : ObjID} {transform : Transform} {monster : Monster}
    {change : Monster → Monster} (found : world.coreOf id = some (.monster transform monster)) :
    (world.modifyMonster id change).coreOf id = some (.monster transform (change monster)) := by
  rcases coreOf_eq_monster.mp found with ⟨subject, isMonster, rfl⟩
  rw [getMonster_eq_some] at isMonster
  simp [coreOf, modifyMonster, modify, isMonster.1, isMonster.2, Subject.core]

/-- A changed monster is the monster with the change. -/
theorem getMonster_modifyMonster {id : ObjID} {subject : Subject} {monster : Monster}
    (change : Monster → Monster) (found : world.getMonster id = some (subject, monster)) :
    (world.modifyMonster id change).getMonster id =
      some ({ subject with body := .monster (change monster) }, change monster) := by
  rw [getMonster_eq_some] at found ⊢
  simp [modifyMonster, modify, found.1, found.2]

/-- A monster that leaves the grid keeps its own state. -/
theorem Removed.coreOf_monster {id : ObjID} {transform own : Transform} {monster : Monster}
    (removal : Removed zone id own world after)
    (found : world.coreOf id = some (.monster transform monster)) :
    after.coreOf id = some (.monster
      (if Sector.isValidSector zone own.sector = true then { transform with sector := {} }
        else transform) monster) := by
  rcases coreOf_eq_monster.mp found with ⟨subject, isMonster, rfl⟩
  rw [getMonster_eq_some] at isMonster
  rw [coreOf, removal.objects]
  split
  · next removed =>
    rw [if_pos removed.2]
    simp [isMonster.1, Subject.unplaced, Subject.core, isMonster.2]
  · next kept =>
    rw [if_neg fun valid => kept ⟨rfl, valid⟩]
    simp [isMonster.1, Subject.core, isMonster.2]

end World

end Mmorpg
