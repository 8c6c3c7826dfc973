import Mmorpg.World.Standing
import Mmorpg.Item.InventoryStep

/-!
# Users stay aside

Monsters, items and inventories change without touching who the users are,
where they stand, or what is queued for them.  `Aside` collects what such a
change leaves alone; every task except those that move, kill, revive, publish
or remove a user is of this kind.
-/

namespace Mmorpg

open ZoneLayout

/-- Who a user is and where it stands. -/
structure Person where
  name : String
  playerId : Int
  transform : Transform
  dead : Bool
  deriving DecidableEq

/-- What the standing of a user says of its player. -/
def Standing.person (standing : Standing) : Option Person :=
  match standing.holding with
  | .inventory playerId _ =>
      some ⟨standing.name, playerId, standing.transform, standing.dead⟩
  | _ => none

namespace World

/-- The player registered under an identifier. -/
def personOf (id : ObjID) (world : World) : Option Person :=
  (world.standingOf id).bind Standing.person

/-- Objects are filed under identifiers of their own category. -/
def Filed (world : World) : Prop :=
  ∀ id subject, world.objects id = some subject → subject.category = id.category

theorem personOf_of_monster {id : ObjID} {world : World} {subject : Subject} {monster : Monster}
    (found : world.getMonster id = some (subject, monster)) : world.personOf id = none := by
  rw [getMonster_eq_some] at found
  simp [personOf, standingOf, found.1, Subject.standing, Standing.person, Subject.holding, found.2]

theorem personOf_of_item {id : ObjID} {world : World} {subject : Subject} {item : Item}
    (found : world.getItem id = some (subject, item)) : world.personOf id = none := by
  rw [getItem_eq_some] at found
  simp [personOf, standingOf, found.1, Subject.standing, Standing.person, Subject.holding, found.2]

theorem personOf_of_none {id : ObjID} {world : World} (missing : world.objects id = none) :
    world.personOf id = none := by
  simp [personOf, standingOf, missing]

theorem personOf_eq_some_iff {id : ObjID} {world : World} {person : Person} :
    world.personOf id = some person ↔ ∃ subject user, world.getUser id = some (subject, user) ∧
      person = ⟨subject.name, user.inventory.playerId, subject.transform, user.stat.dead⟩ := by
  simp only [personOf, standingOf, getUser_eq_some, Option.bind_eq_some_iff, Option.map_eq_some_iff]
  constructor
  · rintro ⟨_, ⟨subject, found, rfl⟩, same⟩
    cases bodyOf : subject.body with
    | user user =>
      refine ⟨subject, user, ⟨found, bodyOf⟩, ?_⟩
      simpa [Standing.person, Subject.standing, Subject.holding, Subject.isDead, bodyOf] using
        same.symm
    | monster monster => simp [Standing.person, Subject.standing, Subject.holding, bodyOf] at same
    | item item => simp [Standing.person, Subject.standing, Subject.holding, bodyOf] at same
  · rintro ⟨subject, user, ⟨found, bodyOf⟩, rfl⟩
    refine ⟨_, ⟨subject, found, rfl⟩, ?_⟩
    simp [Standing.person, Subject.standing, Subject.holding, Subject.isDead, bodyOf]

theorem Filed.monster {id : ObjID} {world : World} (filed : Filed world) {subject : Subject}
    {monster : Monster} (found : world.getMonster id = some (subject, monster)) :
    id.category = .eMonster := by
  rw [getMonster_eq_some] at found
  rw [← filed id subject found.1, Subject.category, found.2]

theorem Filed.item {id : ObjID} {world : World} (filed : Filed world) {subject : Subject}
    {item : Item} (found : world.getItem id = some (subject, item)) : id.category = .eItem := by
  rw [getItem_eq_some] at found
  rw [← filed id subject found.1, Subject.category, found.2]

theorem Filed.user {id : ObjID} {world : World} (filed : Filed world) {subject : Subject}
    {user : User} (found : world.getUser id = some (subject, user)) : id.category = .eUser := by
  rw [getUser_eq_some] at found
  rw [← filed id subject found.1, Subject.category, found.2]

/-- No user is touched, and nothing is queued or revived. -/
structure Aside (before after : World) : Prop where
  persons : ∀ id, after.personOf id = before.personOf id
  filed : Filed before → Filed after
  zones : ∀ id, id.category = .eUser → after.objectZones id = before.objectZones id
  sessions : after.sessions = before.sessions
  queues : after.queues = before.queues
  nextObjectId : after.nextObjectId = before.nextObjectId
  timers : ∃ added, after.timers = before.timers ++ added ∧
    ∀ event ∈ added, event.event ≠ .evUserRespawn

theorem filed_congr {before after : World}
    (category : ∀ id subject, after.objects id = some subject →
      ∃ old, before.objects id = some old ∧ subject.category = old.category)
    (filed : Filed before) : Filed after := by
  intro id subject found
  rcases category id subject found with ⟨old, oldFound, same⟩
  exact same.trans (filed id old oldFound)

theorem Quiet.personOf {allowed : ServerPacket → Prop} {zone : Nat} {actor : ObjID}
    {before after : World} (quiet : Quiet allowed zone actor before after) (id : ObjID) :
    after.personOf id = before.personOf id := by
  rw [World.personOf, World.personOf, quiet.standing]

theorem Quiet.filed {allowed : ServerPacket → Prop} {zone : Nat} {actor : ObjID}
    {before after : World} (quiet : Quiet allowed zone actor before after) (filed : Filed before) :
    Filed after := by
  apply filed_congr _ filed
  intro id subject found
  have same := quiet.standing id
  rw [standingOf, standingOf, found, Option.map_some, eq_comm, Option.map_eq_some_iff] at same
  rcases same with ⟨old, oldFound, standing⟩
  exact ⟨old, oldFound, (congrArg Standing.category standing).symm⟩

theorem Quiet.aside {allowed : ServerPacket → Prop} {zone : Nat} {actor : ObjID}
    {before after : World} (quiet : Quiet allowed zone actor before after) :
    Aside before after where
  persons := quiet.personOf
  filed := quiet.filed
  zones id _ := by rw [quiet.objectZones]
  sessions := quiet.sessions
  queues := quiet.queues
  nextObjectId := quiet.nextObjectId
  timers := by
    rcases quiet.timers with ⟨added, timers, routine⟩
    refine ⟨added, timers, ?_⟩
    intro event member same
    have kind := (routine event member).kind
    rw [same] at kind
    contradiction

namespace Aside

variable {before middle after : World}

theorem refl (world : World) : Aside world world where
  persons _ := rfl
  filed := id
  zones _ _ := rfl
  sessions := rfl
  queues := rfl
  nextObjectId := rfl
  timers := ⟨[], (List.append_nil _).symm, fun _ member => absurd member List.not_mem_nil⟩

theorem trans (first : Aside before middle) (second : Aside middle after) : Aside before after where
  persons id := (second.persons id).trans (first.persons id)
  filed filed := second.filed (first.filed filed)
  zones id user := (second.zones id user).trans (first.zones id user)
  sessions := second.sessions.trans first.sessions
  queues := second.queues.trans first.queues
  nextObjectId := second.nextObjectId.trans first.nextObjectId
  timers := by
    rcases first.timers with ⟨early, earlyTimers, earlyOther⟩
    rcases second.timers with ⟨late, lateTimers, lateOther⟩
    refine ⟨early ++ late, by rw [lateTimers, earlyTimers, List.append_assoc], ?_⟩
    intro event member
    rcases List.mem_append.mp member with old | new
    · exact earlyOther event old
    · exact lateOther event new

theorem thenQuiet {allowed : ServerPacket → Prop} {zone : Nat} {actor : ObjID}
    (aside : Aside before middle) (quiet : Quiet allowed zone actor middle after) :
    Aside before after :=
  aside.trans quiet.aside

theorem post {packets : List (Nat × ServerPacket)} (aside : Aside before after) :
    Aside before (after.post packets) :=
  { aside with filed := aside.filed }

theorem send {receiver : ObjID} {packet : ServerPacket} (aside : Aside before after) :
    Aside before (after.send receiver packet) :=
  aside.post

theorem sendAll {receivers : List ObjID} {packet : ServerPacket} (aside : Aside before after) :
    Aside before (after.sendAll receivers packet) :=
  aside.post

/-- Changing an object so that users stay the persons they are. -/
theorem modify {id : ObjID} {change : Subject → Subject}
    (person : ∀ subject, after.objects id = some subject →
      (change subject).standing.person = subject.standing.person)
    (category : ∀ subject, (change subject).category = subject.category)
    (aside : Aside before after) : Aside before (after.modify id change) := by
  apply aside.trans
  constructor
  case persons =>
    intro other
    simp only [World.personOf, standingOf, World.modify, Function.update_apply]
    split
    · next same =>
      subst same
      cases found : after.objects other with
      | none => rfl
      | some subject => exact person subject found
    · rfl
  case filed =>
    apply filed_congr
    intro other subject found
    simp only [World.modify, Function.update_apply] at found
    split at found
    · next same =>
      subst same
      rcases Option.map_eq_some_iff.mp found with ⟨old, oldFound, rfl⟩
      exact ⟨old, oldFound, category old⟩
    · exact ⟨subject, found, rfl⟩
  case zones => exact fun _ _ => rfl
  case timers =>
    exact ⟨[], (List.append_nil _).symm, fun _ member => absurd member List.not_mem_nil⟩
  all_goals rfl

theorem modifyTransform {id : ObjID} {change : Transform → Transform}
    (nobody : before.personOf id = none) (aside : Aside before after) :
    Aside before (after.modifyTransform id change) := by
  apply aside.modify
  · intro subject found
    have stillNobody := (aside.persons id).trans nobody
    rw [World.personOf, standingOf, found] at stillNobody
    rcases subject with ⟨name, transform, facing, body⟩
    cases body with
    | user user => contradiction
    | monster monster => rfl
    | item item => rfl
  · exact fun _ => rfl

theorem modifyMonster {id : ObjID} {change : Monster → Monster} (aside : Aside before after) :
    Aside before (after.modifyMonster id change) := by
  apply aside.modify
  · rintro ⟨name, transform, facing, body⟩ _
    cases body <;> rfl
  · rintro ⟨name, transform, facing, body⟩
    cases body <;> rfl

theorem modifyCell {zone : Nat} {sector : SectorCoord} {change : Cell → Cell}
    (aside : Aside before after) : Aside before (after.modifyCell zone sector change) where
  __ := aside
  filed := aside.filed

/-- Removing something that is nobody from its cell. -/
theorem removeObject {zone : Nat} {id : ObjID} {transform : Transform}
    (nobody : before.personOf id = none) (aside : Aside before after) :
    Aside before (after.removeObject zone id transform) := by
  unfold World.removeObject
  split
  · exact modifyTransform nobody (modifyCell aside)
  · exact aside

theorem updateObjectSectorAndPosition {zone : Nat} {id : ObjID} {transform : Transform}
    {x y : Int} {placed : World} (nobody : before.personOf id = none) (aside : Aside before after)
    (moved : after.updateObjectSectorAndPosition zone id transform x y = some placed) :
    Aside before placed := by
  simp only [World.updateObjectSectorAndPosition] at moved
  split at moved
  · rw [← Option.some.inj moved]
    apply modifyTransform nobody
    split
    · apply modifyCell
      split
      · exact modifyCell aside
      · exact aside
    · exact aside
  · contradiction

theorem updateObjectZone {id : ObjID} {zoneId : Nat} (category : id.category ≠ .eUser)
    (aside : Aside before after) : Aside before (after.updateObjectZone id zoneId) := by
  unfold World.updateObjectZone
  split
  · constructor
    case zones =>
      intro other user
      have different : other ≠ id := fun same => category (same ▸ user)
      exact (Function.update_of_ne different _ _).trans (aside.zones other user)
    case persons => exact aside.persons
    case filed => exact aside.filed
    case sessions => exact aside.sessions
    case queues => exact aside.queues
    case nextObjectId => exact aside.nextObjectId
    case timers => exact aside.timers
  · exact aside

theorem removeObjectZone {id : ObjID} (category : id.category ≠ .eUser)
    (aside : Aside before after) : Aside before (after.removeObjectZone id) where
  persons := aside.persons
  filed := aside.filed
  zones other user := by
    have different : other ≠ id := fun same => category (same ▸ user)
    exact (Function.update_of_ne different _ _).trans (aside.zones other user)
  sessions := aside.sessions
  queues := aside.queues
  nextObjectId := aside.nextObjectId
  timers := aside.timers

theorem updatePosition {zone : Nat} {id : ObjID} {x y : Int} (nobody : before.personOf id = none)
    (category : id.category ≠ .eUser) (aside : Aside before after) :
    Aside before (after.updatePosition zone id x y) := by
  unfold World.updatePosition
  split
  · exact aside
  · split
    · exact aside
    · next placed moved =>
      have settled := updateObjectSectorAndPosition nobody aside moved
      dsimp only
      rw [if_neg category]
      split
      · exact updateObjectZone category (modifyTransform nobody settled)
      · exact settled

/-- Filing or dropping an object that is no user. -/
theorem update {id : ObjID} {object : Option Subject} (nobody : before.personOf id = none)
    (noUser : ∀ subject, object = some subject →
      subject.standing.person = none ∧ subject.category = id.category)
    (aside : Aside before after) :
    Aside before { after with objects := Function.update after.objects id object } := by
  constructor
  case persons =>
    intro other
    rw [← aside.persons other]
    simp only [World.personOf, standingOf, Function.update_apply]
    split
    · next same =>
      subst same
      have stillNobody := (aside.persons other).trans nobody
      rw [World.personOf, standingOf] at stillNobody
      rw [stillNobody]
      cases object with
      | none => rfl
      | some subject => exact (noUser subject rfl).1
    · rfl
  case filed =>
    intro filed other subject found
    simp only [Function.update_apply] at found
    split at found
    · next same =>
      subst same
      exact (noUser subject found).2
    · exact aside.filed filed other subject found
  case zones => exact aside.zones
  case sessions => exact aside.sessions
  case queues => exact aside.queues
  case nextObjectId => exact aside.nextObjectId
  case timers => exact aside.timers

theorem scheduleAfter {zone : Nat} {subjectId targetId : ObjID} {delay : Nat}
    {event : TimerEventType} (kind : event ≠ .evUserRespawn) (aside : Aside before after) :
    Aside before (after.scheduleAfter zone subjectId delay event targetId) := by
  apply aside.trans
  constructor
  case timers =>
    refine ⟨[⟨subjectId, delay, event, targetId, zone⟩], rfl, ?_⟩
    intro added member
    rw [List.mem_singleton.mp member]
    exact kind
  case filed => exact id
  case persons => exact fun _ => rfl
  case zones => exact fun _ _ => rfl
  all_goals rfl

/-- Storing another inventory of the same player. -/
theorem setInventory {id : ObjID} {subject : Subject} {user : User} {inventory : Inventory}
    (found : before.getUser id = some (subject, user))
    (owner : user.inventory.SameOwner inventory) :
    Aside before (before.setInventory id inventory) := by
  rw [getUser_eq_some] at found
  have changed : Aside before (before.modifyUser id fun user =>
      { user with inventory := { inventory with issued := [] } }) := by
    apply (Aside.refl before).modify
    · intro other same
      obtain rfl := Option.some.inj (found.1.symm.trans same)
      simp only [found.2, Subject.standing, Standing.person, Subject.holding, Subject.isDead,
        User.stat, owner.playerId, owner.dead]
    · rintro ⟨name, transform, facing, body⟩
      cases body <;> rfl
  exact { changed with filed := changed.filed }

end Aside

end World

end Mmorpg
