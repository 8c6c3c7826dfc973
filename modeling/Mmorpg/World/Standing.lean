import Mmorpg.World.Server

/-!
# What stays unchanged

Most of what a handler does is quiet: packets, wake-ups, healing, facing.  The
standing of an object is what is left of it once these are forgotten: its
transform, whether it is dead, and the items or viewers it holds.  `Quiet`
relates two worlds that agree on all standings, cells, sessions, zones and
queues, whose timer only gained routine events and whose outbox only gained
packets of an allowed kind.
-/

namespace Mmorpg

open ZoneLayout

variable {grid : CollisionGrid}

/-- The account and items of a user, an item on the ground, or the viewers a
monster remembers. -/
inductive Holding
  | inventory (playerId : Int) (slots : Slots)
  | fieldItem (itemId : ItemTableId) (count : UInt16)
  | viewers (viewList : List ObjID)

/-- The part of an object that decides where it is and what it owns. -/
structure Standing where
  name : String
  transform : Transform
  dead : Bool
  category : EnumCategory
  holding : Holding

namespace Subject

/-- What a subject holds. -/
def holding (subject : Subject) : Holding :=
  match subject.body with
  | .user user => .inventory user.inventory.playerId user.inventory.slots
  | .monster monster => .viewers monster.viewList
  | .item item => .fieldItem item.itemTableId item.count

/-- The standing of a subject. -/
def standing (subject : Subject) : Standing where
  name := subject.name
  transform := subject.transform
  dead := subject.isDead
  category := subject.category
  holding := subject.holding

end Subject

/-- Events that are scheduled without a change of any standing. -/
def TimerEventType.isRoutine : TimerEventType → Bool
  | evRandomMove => true
  | evMonsterAttackToUser => true
  | evHeal => true
  | evAggroMove => true
  | _ => false

/-- The packets that change what a client knows to be around. -/
def ServerPacket.isVisibility : ServerPacket → Bool
  | subjectAddNfy .. => true
  | subjectRemoveNfy .. => true
  | subjectDieNfy .. => true
  | subjectRespawnNfy .. => true
  | _ => false

/-- The packet does not change who is around. -/
def Silent (packet : ServerPacket) : Prop :=
  packet.isVisibility = false

/-- Every packet. -/
def Any (_ : ServerPacket) : Prop :=
  True

namespace World

/-- The standing of what is registered under an identifier. -/
def standingOf (id : ObjID) (world : World) : Option Standing :=
  (world.objects id).map Subject.standing

theorem standingOf_eq_some {id : ObjID} {world : World} {standing : Standing} :
    world.standingOf id = some standing ↔
      ∃ subject, world.objects id = some subject ∧ subject.standing = standing :=
  Option.map_eq_some_iff

theorem standingOf_of_objects {id : ObjID} {world : World} {subject : Subject}
    (found : world.objects id = some subject) : world.standingOf id = some subject.standing :=
  standingOf_eq_some.mpr ⟨subject, found, rfl⟩

/-- A routine event of `zone`, about the object `actor` of the running task or
about something in the zone's grid. -/
structure Routine (zone : Nat) (actor : ObjID) (world : World) (event : TimerEvent) : Prop where
  stamped : event.zoneId = zone
  kind : event.event.isRoutine = true
  subject : event.subjectId = actor ∨ ∃ sector, event.subjectId ∈ world.cells zone sector

/-- Nothing changes but routine events, allowed packets, and what standings
forget. -/
structure Quiet (allowed : ServerPacket → Prop) (zone : Nat) (actor : ObjID) (before after : World) : Prop where
  standing : ∀ id, after.standingOf id = before.standingOf id
  cells : after.cells = before.cells
  objectZones : after.objectZones = before.objectZones
  sessions : after.sessions = before.sessions
  queues : after.queues = before.queues
  nextObjectId : after.nextObjectId = before.nextObjectId
  nextFieldItemId : after.nextFieldItemId = before.nextFieldItemId
  timers : ∃ added, after.timers = before.timers ++ added ∧
    ∀ event ∈ added, Routine zone actor before event
  outbox : ∃ sent, after.outbox = before.outbox ++ sent ∧ ∀ entry ∈ sent, allowed entry.2

namespace Quiet

variable {allowed : ServerPacket → Prop} {zone : Nat} {actor : ObjID} {world before middle after : World}

theorem refl (world : World) : Quiet allowed zone actor world world where
  standing _ := rfl
  cells := rfl
  objectZones := rfl
  sessions := rfl
  queues := rfl
  nextObjectId := rfl
  nextFieldItemId := rfl
  timers := ⟨[], (List.append_nil _).symm, fun _ member => absurd member List.not_mem_nil⟩
  outbox := ⟨[], (List.append_nil _).symm, fun _ member => absurd member List.not_mem_nil⟩

theorem trans (first : Quiet allowed zone actor before middle) (second : Quiet allowed zone actor middle after) :
    Quiet allowed zone actor before after where
  standing id := (second.standing id).trans (first.standing id)
  cells := second.cells.trans first.cells
  objectZones := second.objectZones.trans first.objectZones
  sessions := second.sessions.trans first.sessions
  queues := second.queues.trans first.queues
  nextObjectId := second.nextObjectId.trans first.nextObjectId
  nextFieldItemId := second.nextFieldItemId.trans first.nextFieldItemId
  timers := by
    rcases first.timers with ⟨early, earlyTimers, earlyRoutine⟩
    rcases second.timers with ⟨late, lateTimers, lateRoutine⟩
    refine ⟨early ++ late, by rw [lateTimers, earlyTimers, List.append_assoc], ?_⟩
    intro event member
    rcases List.mem_append.mp member with old | new
    · exact earlyRoutine event old
    · have routine := lateRoutine event new
      exact ⟨routine.stamped, routine.kind, first.cells ▸ routine.subject⟩
  outbox := by
    rcases first.outbox with ⟨early, earlyOutbox, earlyAllowed⟩
    rcases second.outbox with ⟨late, lateOutbox, lateAllowed⟩
    refine ⟨early ++ late, by rw [lateOutbox, earlyOutbox, List.append_assoc], ?_⟩
    intro entry member
    rcases List.mem_append.mp member with old | new
    · exact earlyAllowed entry old
    · exact lateAllowed entry new

theorem post {packets : List (Nat × ServerPacket)} (all : ∀ entry ∈ packets, allowed entry.2)
    (quiet : Quiet allowed zone actor before after) :
    Quiet allowed zone actor before (after.post packets) := by
  apply quiet.trans
  constructor
  case standing => exact fun _ => rfl
  case timers =>
    exact ⟨[], (List.append_nil _).symm, fun _ member => absurd member List.not_mem_nil⟩
  case outbox => exact ⟨packets, rfl, all⟩
  all_goals rfl

theorem send {receiver : ObjID} {packet : ServerPacket} (fits : allowed packet)
    (quiet : Quiet allowed zone actor before after) :
    Quiet allowed zone actor before (after.send receiver packet) := by
  apply quiet.post
  intro entry member
  rw [List.mem_singleton.mp member]
  exact fits

theorem sendAll {receivers : List ObjID} {packet : ServerPacket} (fits : allowed packet)
    (quiet : Quiet allowed zone actor before after) :
    Quiet allowed zone actor before (after.sendAll receivers packet) := by
  apply quiet.post
  intro entry member
  rcases List.mem_map.mp member with ⟨receiver, _, rfl⟩
  exact fits

theorem requestDb {request : DBThread.DbRequest} (quiet : Quiet allowed zone actor before after) :
    Quiet allowed zone actor before (after.requestDb request) := by
  apply quiet.trans
  constructor
  case standing => exact fun _ => rfl
  case timers =>
    exact ⟨[], (List.append_nil _).symm, fun _ member => absurd member List.not_mem_nil⟩
  case outbox =>
    exact ⟨[], (List.append_nil _).symm, fun _ member => absurd member List.not_mem_nil⟩
  all_goals rfl

/-- A change of one object that keeps its standing. -/
theorem modify {id : ObjID} {change : Subject → Subject}
    (keeps : ∀ subject, (change subject).standing = subject.standing)
    (quiet : Quiet allowed zone actor before after) :
    Quiet allowed zone actor before (after.modify id change) := by
  apply quiet.trans
  constructor
  case standing =>
    intro other
    simp only [standingOf, World.modify, Function.update_apply]
    split
    · next same =>
      subst same
      cases after.objects other with
      | none => rfl
      | some subject => simp [keeps subject]
    · rfl
  case timers =>
    exact ⟨[], (List.append_nil _).symm, fun _ member => absurd member List.not_mem_nil⟩
  case outbox =>
    exact ⟨[], (List.append_nil _).symm, fun _ member => absurd member List.not_mem_nil⟩
  all_goals rfl

theorem modifyMonster {id : ObjID} {change : Monster → Monster}
    (dead : ∀ monster, (change monster).stat.dead = monster.stat.dead)
    (viewList : ∀ monster, (change monster).viewList = monster.viewList)
    (quiet : Quiet allowed zone actor before after) :
    Quiet allowed zone actor before (after.modifyMonster id change) := by
  apply modify _ quiet
  rintro ⟨name, transform, facing, body⟩
  cases body with
  | user user => rfl
  | monster monster =>
    simp [Subject.standing, Subject.isDead, Subject.category, Subject.holding, dead monster,
      viewList monster]
  | item item => rfl

theorem modifyUser {id : ObjID} {change : User → User}
    (dead : ∀ user, (change user).stat.dead = user.stat.dead)
    (playerId : ∀ user, (change user).inventory.playerId = user.inventory.playerId)
    (slots : ∀ user, (change user).inventory.slots = user.inventory.slots)
    (quiet : Quiet allowed zone actor before after) :
    Quiet allowed zone actor before (after.modifyUser id change) := by
  apply modify _ quiet
  rintro ⟨name, transform, facing, body⟩
  cases body with
  | user user =>
    simp [Subject.standing, Subject.isDead, Subject.category, Subject.holding, dead user,
      playerId user, slots user]
  | monster monster => rfl
  | item item => rfl

theorem setStat {id : ObjID} {change : Stat → Stat}
    (dead : ∀ stat, (change stat).dead = stat.dead) (quiet : Quiet allowed zone actor before after) :
    Quiet allowed zone actor before (after.setStat id change) :=
  modifyUser (fun user => dead user.stat) (fun _ => rfl) (fun _ => rfl) quiet

theorem modifyItem {id : ObjID} {change : Item → Item}
    (itemId : ∀ item, (change item).itemTableId = item.itemTableId)
    (count : ∀ item, (change item).count = item.count) (quiet : Quiet allowed zone actor before after) :
    Quiet allowed zone actor before (after.modifyItem id change) := by
  apply modify _ quiet
  rintro ⟨name, transform, facing, body⟩
  cases body with
  | user user => rfl
  | monster monster => rfl
  | item item =>
    simp [Subject.standing, Subject.isDead, Subject.category, Subject.holding, itemId item,
      count item]

theorem modifyFacing {id : ObjID} {change : Subject → Subject}
    (name : ∀ subject, (change subject).name = subject.name)
    (transform : ∀ subject, (change subject).transform = subject.transform)
    (body : ∀ subject, (change subject).body = subject.body)
    (quiet : Quiet allowed zone actor before after) :
    Quiet allowed zone actor before (after.modify id change) := by
  apply modify _ quiet
  intro subject
  simp [Subject.standing, Subject.isDead, Subject.category, Subject.holding, name subject,
    transform subject, body subject]

theorem scheduleAfter {subjectId targetId : ObjID} {delay : Nat} {event : TimerEventType}
    (kind : event.isRoutine = true)
    (subject : subjectId = actor ∨ ∃ sector, subjectId ∈ before.cells zone sector)
    (quiet : Quiet allowed zone actor before after) :
    Quiet allowed zone actor before (after.scheduleAfter zone subjectId delay event targetId) := by
  apply quiet.trans
  constructor
  case timers =>
    refine ⟨[⟨subjectId, delay, event, targetId, zone⟩], rfl, ?_⟩
    intro added member
    rw [List.mem_singleton] at member
    subst member
    exact ⟨rfl, kind, quiet.cells ▸ subject⟩
  case standing => exact fun _ => rfl
  case outbox =>
    exact ⟨[], (List.append_nil _).symm, fun _ member => absurd member List.not_mem_nil⟩
  all_goals rfl

end Quiet

/-! ## Quiet loops and handlers -/

variable {allowed : ServerPacket → Prop} {zone : Nat} {actor : ObjID} {world : World}

theorem wakeUpMonster_quiet {before after : World} {monsterId wakerId : ObjID} {forceWake : Bool}
    (subject : ∃ sector, monsterId ∈ before.cells zone sector)
    (quiet : Quiet allowed zone actor before after) :
    Quiet allowed zone actor before (after.wakeUpMonster zone monsterId wakerId forceWake) := by
  unfold wakeUpMonster
  split
  · next monster _ _ _ _ =>
    split
    · exact quiet
    · split
      · exact quiet
      · split
        · exact quiet
        · dsimp only
          split
          · apply Quiet.scheduleAfter rfl (.inr subject)
            exact Quiet.modifyMonster (fun _ => rfl) (fun _ => rfl) quiet
          · apply Quiet.scheduleAfter rfl (.inr subject)
            exact Quiet.modifyMonster (fun _ => rfl) (fun _ => rfl) quiet
  · exact quiet

theorem wakeUpMonsters_quiet {before after : World} {ids : List ObjID} {wakerId : ObjID}
    {forceWake : Bool} (inGrid : ∀ id ∈ ids, ∃ sector, id ∈ before.cells zone sector)
    (quiet : Quiet allowed zone actor before after) :
    Quiet allowed zone actor before (after.wakeUpMonsters zone ids wakerId forceWake) := by
  unfold wakeUpMonsters
  have filtered : ∀ id ∈ ids.filter (fun id => id.category = .eMonster),
      ∃ sector, id ∈ before.cells zone sector :=
    fun id member => inGrid id (List.mem_of_mem_filter member)
  generalize ids.filter (fun id => id.category = .eMonster) = monsters at filtered
  induction monsters generalizing after with
  | nil => exact quiet
  | cons id rest induction =>
    apply induction (wakeUpMonster_quiet (filtered id List.mem_cons_self) quiet)
    exact fun other member => filtered other (List.mem_cons_of_mem id member)

theorem mem_neighborIds_cells {hash : HashOrder} {sector : SectorCoord} {id : ObjID}
    (member : id ∈ world.neighborIds hash zone sector) :
    ∃ other, id ∈ world.cells zone other := by
  rcases mem_neighborIds_iff.mp member with ⟨_, other, _, _, _, _, _, inCell⟩
  exact ⟨other, inCell⟩

/-- Who is collected: others, in sight, and users only in the game. -/
theorem mem_collectSubjects_iff {choice : Choice grid} {playerId id : ObjID} :
    id ∈ world.collectSubjects zone choice playerId ↔
      ∃ player user, world.getUser playerId = some (player, user) ∧
        id ∈ world.neighborIds choice.hash zone player.transform.sector ∧ id ≠ playerId ∧
          (id.category = .eUser → world.isIngame id = true) ∧
            ∃ subject, world.objects id = some subject ∧
              SubjectHelper.canSee player subject = true := by
  unfold collectSubjects
  split
  · next missing => simp [missing]
  · next player user found =>
    simp only [found, List.mem_map, List.mem_filter, decide_eq_true_eq, Option.some.injEq,
      Prod.mk.injEq]
    constructor
    · rintro ⟨⟨other, subject⟩, ⟨member, different, sees, ingame⟩, rfl⟩
      rw [mem_neighborObjects_iff] at member
      exact ⟨player, user, ⟨rfl, rfl⟩, member.1, different, ingame, subject, member.2, sees⟩
    · rintro ⟨_, _, ⟨rfl, rfl⟩, member, different, ingame, subject, registered, sees⟩
      exact ⟨(id, subject), ⟨mem_neighborObjects_iff.mpr ⟨member, registered⟩, different, sees,
        ingame⟩, rfl⟩

theorem mem_collectSubjects_cells {choice : Choice grid} {playerId id : ObjID}
    (member : id ∈ world.collectSubjects zone choice playerId) :
    ∃ sector, id ∈ world.cells zone sector := by
  rcases mem_collectSubjects_iff.mp member with ⟨_, _, _, near, _⟩
  exact mem_neighborIds_cells near

theorem notifyPlayerEnteredWorld_quiet {before after : World} {choice : Choice grid} {playerId : ObjID}
    {isRespawn : Bool} (quiet : Quiet Any zone actor before after) :
    Quiet Any zone actor before (after.notifyPlayerEnteredWorld zone choice playerId isRespawn) := by
  unfold notifyPlayerEnteredWorld
  split
  · exact quiet
  · apply wakeUpMonsters_quiet _ (Quiet.post (fun _ _ => trivial) quiet)
    intro id member
    rw [← quiet.cells]
    exact mem_collectSubjects_cells member

theorem replace_quiet {before after : World} {choice : Choice grid} {monsterId : ObjID}
    {oldList newList : List ObjID} (quiet : Quiet Any zone actor before after) :
    Quiet Any zone actor before (after.replace choice monsterId oldList newList) := by
  unfold replace
  split
  · exact quiet
  · exact Quiet.post (fun _ _ => trivial) quiet

theorem saveUserInfo_quiet {before after : World} {choice : Choice grid} {id : ObjID}
    (quiet : Quiet allowed zone actor before after) :
    Quiet allowed zone actor before (after.saveUserInfo choice id) := by
  unfold saveUserInfo
  split
  · exact quiet
  · split
    · exact Quiet.requestDb quiet
    · exact Quiet.requestDb quiet

theorem broadcastEquipChange_quiet {before after : World} {choice : Choice grid} {playerId : ObjID}
    (quiet : Quiet Silent zone actor before after) :
    Quiet Silent zone actor before (after.broadcastEquipChange zone choice playerId) := by
  unfold broadcastEquipChange
  split
  · exact quiet
  · exact Quiet.sendAll rfl quiet

theorem broadcastChat_quiet (choice : Choice grid) (senderId : ObjID) (mess : String) (world : World) :
    Quiet Silent zone actor world (world.broadcastChat zone choice senderId mess) := by
  unfold broadcastChat
  split
  · exact Quiet.refl world
  · exact Quiet.sendAll rfl (Quiet.send rfl (Quiet.refl world))

theorem handleHeal_quiet (playerId : ObjID) (world : World) :
    Quiet Silent zone playerId world (world.handleHeal zone playerId) := by
  unfold handleHeal
  split
  · exact Quiet.refl world
  · split
    · exact Quiet.refl world
    · split
      · exact Quiet.refl world
      · apply Quiet.scheduleAfter rfl (.inl rfl)
        apply Quiet.send (show Silent (.userHealInf _) from rfl)
        exact Quiet.setStat (fun _ => rfl) (Quiet.refl world)

theorem stopMonster_quiet {before after : World} {monsterId : ObjID}
    (quiet : Quiet allowed zone actor before after) :
    Quiet allowed zone actor before (after.stopMonster monsterId) :=
  Quiet.modifyMonster (fun _ => rfl) (fun _ => rfl) quiet

theorem afterChase_quiet (monsterId targetId : ObjID) (world : World) :
    Quiet allowed zone monsterId world (world.afterChase zone monsterId targetId) := by
  unfold afterChase
  split
  · split
    · apply Quiet.scheduleAfter rfl (.inl rfl)
      exact Quiet.modifyMonster (fun _ => rfl) (fun _ => rfl) (Quiet.refl world)
    · exact stopMonster_quiet (Quiet.refl world)
  · exact Quiet.refl world

theorem surviveAttack_quiet {before after : World} {choice : Choice grid} {monsterId playerId : ObjID}
    {subject victim : Subject} {hp : Nat} (quiet : Quiet Silent zone monsterId before after) :
    Quiet Silent zone monsterId before
      (after.surviveAttack zone choice monsterId playerId subject victim hp) := by
  unfold surviveAttack
  dsimp only
  split
  · exact Quiet.scheduleAfter rfl (.inl rfl) (Quiet.sendAll rfl quiet)
  · exact Quiet.modifyMonster (fun _ => rfl) (fun _ => rfl) (Quiet.sendAll rfl quiet)

end World

end Mmorpg
