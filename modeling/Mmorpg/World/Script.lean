import Mmorpg.World.Effect

/-!
# Tasks as scripts of small operations

Every task is a sequence of a few kinds of operations on the world.  An
invariant of the world between tasks is proved for each kind of operation once;
`Script` carries it over a whole task.
-/

namespace Mmorpg

open ZoneLayout

variable {grid : CollisionGrid}

/-! ## Plain changes -/

/-- The events by which a living monster moves and attacks. -/
def TimerEventType.isAct : TimerEventType → Bool
  | evRandomMove | evAggroMove | evMonsterAttackToUser => true
  | _ => false

/-- The part of an object that some invariant looks at. -/
inductive Core
  | user (transform : Transform) (playerId : Int) (slots : Slots) (hp : Nat) (dead : Bool)
  | monster (transform : Transform) (monster : Monster)
  | item (transform : Transform) (itemId : ItemTableId) (count : UInt16)

/-- The core of a subject. -/
def Subject.core (subject : Subject) : Core :=
  match subject.body with
  | .user user =>
      .user subject.transform user.inventory.playerId user.inventory.slots user.stat.hp
        user.stat.dead
  | .monster monster => .monster subject.transform monster
  | .item item => .item subject.transform item.itemTableId item.count

namespace World

/-- The core of what is registered under an identifier. -/
def coreOf (id : ObjID) (world : World) : Option Core :=
  (world.objects id).map Subject.core

/-- Packets, saving, time stamps, facing and experience: nothing an invariant
looks at changes, and only healing is scheduled. -/
structure Plain (before after : World) : Prop where
  core : ∀ id, after.coreOf id = before.coreOf id
  cells : after.cells = before.cells
  objectZones : after.objectZones = before.objectZones
  sessions : after.sessions = before.sessions
  queues : after.queues = before.queues
  nextObjectId : after.nextObjectId = before.nextObjectId
  nextFieldItemId : after.nextFieldItemId = before.nextFieldItemId
  timers : ∃ added, after.timers = before.timers ++ added ∧
    ∀ event ∈ added, event.event = .evHeal ∧ event.subjectId.category = .eUser

namespace Plain

variable {before middle after : World}

theorem refl (world : World) : Plain world world where
  core _ := rfl
  cells := rfl
  objectZones := rfl
  sessions := rfl
  queues := rfl
  nextObjectId := rfl
  nextFieldItemId := rfl
  timers := ⟨[], (List.append_nil _).symm, fun _ member => absurd member List.not_mem_nil⟩

theorem trans (first : Plain before middle) (second : Plain middle after) : Plain before after where
  core id := (second.core id).trans (first.core id)
  cells := second.cells.trans first.cells
  objectZones := second.objectZones.trans first.objectZones
  sessions := second.sessions.trans first.sessions
  queues := second.queues.trans first.queues
  nextObjectId := second.nextObjectId.trans first.nextObjectId
  nextFieldItemId := second.nextFieldItemId.trans first.nextFieldItemId
  timers := by
    rcases first.timers with ⟨early, earlyTimers, earlyHeal⟩
    rcases second.timers with ⟨late, lateTimers, lateHeal⟩
    refine ⟨early ++ late, by rw [lateTimers, earlyTimers, List.append_assoc], ?_⟩
    intro event member
    rcases List.mem_append.mp member with old | new
    · exact earlyHeal event old
    · exact lateHeal event new

theorem post {packets : List (Nat × ServerPacket)} (plain : Plain before after) :
    Plain before (after.post packets) :=
  { plain with core := plain.core }

theorem send {receiver : ObjID} {packet : ServerPacket} (plain : Plain before after) :
    Plain before (after.send receiver packet) :=
  plain.post

theorem sendAll {receivers : List ObjID} {packet : ServerPacket} (plain : Plain before after) :
    Plain before (after.sendAll receivers packet) :=
  plain.post

theorem requestDb {request : DBThread.DbRequest} (plain : Plain before after) :
    Plain before (after.requestDb request) :=
  { plain with core := plain.core }

theorem modify {id : ObjID} {change : Subject → Subject}
    (keeps : ∀ subject, (change subject).core = subject.core) (plain : Plain before after) :
    Plain before (after.modify id change) := by
  apply plain.trans
  constructor
  case core =>
    intro other
    simp only [coreOf, World.modify, Function.update_apply]
    split
    · next same =>
      subst same
      cases after.objects other with
      | none => rfl
      | some subject => simp [keeps subject]
    · rfl
  case timers =>
    exact ⟨[], (List.append_nil _).symm, fun _ member => absurd member List.not_mem_nil⟩
  all_goals rfl

/-- Changes of time stamps, level and experience. -/
theorem modifyUser {id : ObjID} {change : User → User}
    (playerId : ∀ user, (change user).inventory.playerId = user.inventory.playerId)
    (slots : ∀ user, (change user).inventory.slots = user.inventory.slots)
    (hp : ∀ user, (change user).stat.hp = user.stat.hp)
    (dead : ∀ user, (change user).stat.dead = user.stat.dead) (plain : Plain before after) :
    Plain before (after.modifyUser id change) := by
  apply modify _ plain
  rintro ⟨name, transform, facing, body⟩
  cases body with
  | user user => simp [Subject.core, playerId user, slots user, hp user, dead user]
  | monster monster => rfl
  | item item => rfl

theorem modifyFacing {id : ObjID} {change : Subject → Subject}
    (transform : ∀ subject, (change subject).transform = subject.transform)
    (body : ∀ subject, (change subject).body = subject.body) (plain : Plain before after) :
    Plain before (after.modify id change) := by
  apply modify _ plain
  intro subject
  simp [Subject.core, transform subject, body subject]

theorem scheduleHeal {zone : Nat} {id targetId : ObjID} {delay : Nat}
    (category : id.category = .eUser) (plain : Plain before after) :
    Plain before (after.scheduleAfter zone id delay .evHeal targetId) := by
  apply plain.trans
  constructor
  case timers =>
    refine ⟨[⟨id, delay, .evHeal, targetId, zone⟩], rfl, ?_⟩
    intro event member
    rw [List.mem_singleton.mp member]
    exact ⟨rfl, category⟩
  case core => exact fun _ => rfl
  all_goals rfl

end Plain

/-! ## Operations -/


/-- What an inventory operation may do to the owner. -/
structure Serves (before after : Inventory) : Prop where
  playerId : after.playerId = before.playerId
  dead : after.stat.dead = before.stat.dead
  hp : after.stat.hp = before.stat.hp ∨
    before.stat.dead = false ∧ ∃ amount, after.stat.hp = (before.stat.healHp amount playerMaxHp).hp

/-- What a monster's own task may do to it besides reviving it. -/
structure Tends (before after : Monster) : Prop where
  stat : after.stat = before.stat
  type : after.type = before.type
  active : after.active = true → before.active = true ∨ before.stat.dead = false

/-- A user as a login builds it. -/
structure IsNewUser (subject : Subject) : Prop where
  transform : subject.transform = {}
  user : ∃ user, subject.body = .user user ∧ user.stat.hp = playerMaxHp ∧ user.stat.dead = false

/-- The monster `AttackMonster` has killed, with its drop and its respawn. -/
def slain (zone : Nat) (choice : Choice grid) (monsterId playerId : ObjID) (damage : Nat)
    (subject : Subject) (monster : Monster) (attacker : User) (world : World) : Option World :=
  (((world.modifyMonster monsterId fun current =>
      { current with stat := monster.stat.takeDamage damage }).killMonster zone choice monsterId
        playerId subject monster attacker).handleItemDrop zone choice monsterId playerId subject.x
          subject.y).map fun dropped =>
    dropped.scheduleAfter zone monsterId 10000 .evMonsterRespawn ObjID.npos

/-- One operation of a task on the thread of `zone`; `own` is the monster whose
timer event the task is, or the user who attacks in it. -/
inductive Op (zone : Nat) (choice : Choice grid) (own : ObjID) (before : World) : World → Prop
  | plain {after : World} : Plain before after → Op zone choice own before after
  | heal {id : ObjID} {subject : Subject} {user : User} :
      before.getUser id = some (subject, user) → user.stat.dead = false →
      Op zone choice own before (before.setStat id (Stat.healHp healSize playerMaxHp))
  | store {id : ObjID} {subject : Subject} {user : User} {inventory : Inventory} :
      before.getUser id = some (subject, user) → Serves user.inventory inventory →
      Op zone choice own before (before.setInventory id inventory)
  | wake {monsterId wakerId : ObjID} {forceWake : Bool} {sector : SectorCoord} :
      isValidZoneId zone = true → monsterId ∈ before.cells zone sector →
      Op zone choice own before (before.wakeUpMonster zone monsterId wakerId forceWake)
  | place {id : ObjID} {subject : Subject} {user : User} {x y : Int} :
      isValidZoneId zone = true → before.getUser id = some (subject, user) →
      Op zone choice own before (before.updatePosition zone id x y)
  | settle {id : ObjID} {subject : Subject} {user : User} {x y : Int} {placed : World} :
      isValidZoneId zone = true → before.getUser id = some (subject, user) →
      before.updateObjectSectorAndPosition zone id subject.transform x y = some placed →
      Op zone choice own before placed
  | arrive {id : ObjID} : id.category = .eUser →
      Op zone choice own before (before.modifyTransform id fun current =>
        { current with transferring := false })
  | transfer {id : ObjID} {player : Subject} {user : User} {x y : Int} {newZoneId : Nat} :
      before.getUser id = some (player, user) → isValidZoneId newZoneId = true →
      Op zone choice own before
        (before.handleZoneTransfer zone choice id player x y newZoneId)
  | leave {id : ObjID} {client : Subject} {user : User} :
      before.getUser id = some (client, user) →
      Op zone choice own before (before.leaveWorld zone choice id client)
  | publish {session : Nat} {subject : Subject} :
      before.sessionState session = .stAlloc → before.objects (ObjID.user session) = none →
      IsNewUser subject → Op zone choice own before (before.publishUser session subject)
  | requeue {id : ObjID} {zoneId : Nat} :
      Op zone choice own before (before.enqueueByZone zoneId (.disconnect id))
  | wound {monsterId : ObjID} {subject : Subject} {monster : Monster} {damage : Nat}
      {sector : SectorCoord} :
      isValidZoneId zone = true → before.getMonster monsterId = some (subject, monster) →
      monster.stat.dead = false → monsterId ∈ before.cells zone sector →
      own.category = .eUser → (monster.stat.takeDamage damage).hp > 0 →
      Op zone choice own before (before.modifyMonster monsterId fun current =>
        { current with stat := monster.stat.takeDamage damage })
  | slay {monsterId : ObjID} {subject player : Subject} {monster : Monster} {attacker : User}
      {damage : Nat} {sector : SectorCoord} {after : World} :
      isValidZoneId zone = true → before.getMonster monsterId = some (subject, monster) →
      monster.stat.dead = false → monsterId ∈ before.cells zone sector →
      own.category = .eUser → before.getUser own = some (player, attacker) →
      (monster.stat.takeDamage damage).hp = 0 →
      before.slain zone choice monsterId own damage subject monster attacker = some after →
      Op zone choice own before after
  | spawn {item : Item} {x y : Int} {owner : ObjID} {after : World} :
      isValidZoneId zone = true → before.spawnFieldItem zone choice item x y owner = some after →
      Op zone choice own before after
  | pick {itemId : ObjID} {subject : Subject} {item : Item} :
      before.getItem itemId = some (subject, item) →
      Op zone choice own before (before.removeFieldItem zone choice itemId subject)
  | hurt {id : ObjID} :
      Op zone choice own before (before.setStat id fun current =>
        current.takeDamage monsterOffensive)
  | hide {id : ObjID} {transform : Transform} : id.category = .eUser →
      Op zone choice own before (before.removeObject zone id transform)
  | mourn {id : ObjID} : id.category = .eUser →
      Op zone choice own before (before.scheduleAfter zone id 30000 .evUserRespawn ObjID.npos)
  | revive {id : ObjID} :
      Op zone choice own before (before.setStat id fun current =>
        { current with dead := false, hp := playerMaxHp })
  | tend {change : Monster → Monster} :
      own.category = .eMonster →
      (∀ subject monster, before.getMonster own = some (subject, monster) →
        Tends monster (change monster)) →
      Op zone choice own before (before.modifyMonster own change)
  | raise {change : Monster → Monster} :
      own.category = .eMonster →
      (∀ monster, (change monster).stat.hp = monsterMaxHp ∧ (change monster).stat.dead = false) →
      (∀ monster, (change monster).type = monster.type) →
      Op zone choice own before (before.modifyMonster own change)
  | step {subject : Subject} {monster : Monster} {x y : Int} :
      isValidZoneId zone = true → before.getMonster own = some (subject, monster) →
      monster.stat.dead = false →
      Op zone choice own before (before.updatePosition zone own x y)
  | schedule {delay : Nat} {event : TimerEventType} {targetId : ObjID} :
      own.category = .eMonster → event.isAct = true →
      Op zone choice own before (before.scheduleAfter zone own delay event targetId)

/-- A task as a sequence of operations. -/
abbrev Script (zone : Nat) (choice : Choice grid) (own : ObjID) : World → World → Prop :=
  Relation.ReflTransGen (Op zone choice own)

variable {zone : Nat} {choice : Choice grid} {own : ObjID} {before middle after : World}

theorem Script.op (script : Script zone choice own before middle)
    (last : Op zone choice own middle after) : Script zone choice own before after :=
  Relation.ReflTransGen.tail script last

/-- Something that changes nobody may follow. -/
theorem Script.thenPlain (script : Script zone choice own before middle)
    (plain : Plain middle after) : Script zone choice own before after :=
  script.op (.plain plain)

theorem Plain.script (plain : Plain before after) : Script zone choice own before after :=
  Relation.ReflTransGen.single (.plain plain)

/-- What every operation keeps, every script keeps. -/
theorem Script.keeps (invariant : World → Prop)
    (preserved : ∀ before after, Op zone choice own before after → invariant before →
      invariant after)
    (script : Script zone choice own before after) (initially : invariant before) :
    invariant after := by
  induction script with
  | refl => exact initially
  | tail _ last ih => exact preserved _ _ last ih

end World

end Mmorpg
