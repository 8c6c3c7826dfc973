import Mmorpg.World.Effect
import Mmorpg.World.Placement

/-!
# One session seen from outside

What decides which thread may act on the user of a session: where the user
belongs, whether it is between two zones or dead, the routing of its session,
and the tasks and respawn events that are pending for it.  Every operation of
a task changes this view of one session at most.
-/

namespace Mmorpg

open ZoneLayout

/-! ## Tasks about a user -/

/-- Requests that `Dispatch` guards with the state, owner and transfer checks. -/
def ClientPacket.isGuarded : ClientPacket → Bool
  | userLoginReq .. => false
  | csChat _ => false
  | _ => true

/-- Guarded requests that a dead user may not make. -/
def ClientPacket.needsAlive : ClientPacket → Bool
  | userMoveReq _ => true
  | userAttackReq _ => true
  | userSkillReq => true
  | userTeleportReq .. => true
  | itemUseReq _ => true
  | _ => false

namespace Task

/-- A guarded request of a session, or the disconnect of its user. -/
def concerns (session : Nat) : Task → Bool
  | dispatch sender packet => sender = session ∧ packet.isGuarded = true
  | disconnect clientId => clientId = ObjID.user session
  | _ => false

/-- The task lets the session's player into a zone. -/
def enters (session : Nat) : Task → Bool
  | enterZone playerId _ _ => playerId = ObjID.user session
  | _ => false

/-- The task brings the session's player back. -/
def respawns (session : Nat) : Task → Bool
  | timer .evUserRespawn playerId _ => playerId = ObjID.user session
  | _ => false

/-- The task is about the session. -/
def isAbout (session : Nat) (task : Task) : Bool :=
  task.concerns session || task.enters session || task.respawns session

end Task

/-- The event brings the session's player back. -/
def TimerEvent.respawns (session : Nat) (event : TimerEvent) : Bool :=
  event.event = .evUserRespawn ∧ event.subjectId = ObjID.user session

/-! ## The view -/

/-- Where a user belongs, and whether it is changing zones or dead. -/
structure Stance where
  zoneId : Nat
  transferring : Bool
  dead : Bool
  deriving DecidableEq

/-- The stance of a user. -/
def Subject.stance (subject : Subject) : Option Stance :=
  match subject.body with
  | .user user =>
      some ⟨subject.transform.zoneId, subject.transform.transferring, user.stat.dead⟩
  | _ => none

/-- What there is of a session: its player's stance, its record, its zone on
the map, the tasks about it, and its respawn events. -/
@[ext]
structure View where
  stance : Option Stance
  session : Option Session
  zone : Option Nat
  waiting : Nat → List Task
  respawns : Nat

/-- The session is in the game. -/
def View.ingame (view : View) : Prop :=
  ∃ record, view.session = some record ∧ record.state = .stIngame

namespace World

/-- The view of a session. -/
def view (session : Nat) (world : World) : View where
  stance := (world.objects (ObjID.user session)).bind Subject.stance
  session := world.sessions session
  zone := world.objectZones (ObjID.user session)
  waiting thread := (world.queues thread).filter (Task.isAbout session)
  respawns := world.timers.countP (TimerEvent.respawns session)

variable {world before after : World} {session : Nat}

theorem mem_waiting {thread : Nat} {task : Task} (member : task ∈ world.queues thread)
    (about : task.isAbout session = true) : task ∈ (world.view session).waiting thread :=
  List.mem_filter.mpr ⟨member, about⟩

theorem view_congr (stance : (after.objects (ObjID.user session)).bind Subject.stance =
      (before.objects (ObjID.user session)).bind Subject.stance)
    (sessions : after.sessions session = before.sessions session)
    (zone : after.objectZones (ObjID.user session) = before.objectZones (ObjID.user session))
    (queues : after.queues = before.queues)
    (timers : after.timers.countP (TimerEvent.respawns session) =
      before.timers.countP (TimerEvent.respawns session)) :
    after.view session = before.view session := by
  rw [view, view, stance, sessions, zone, queues, timers]

theorem stance_eq_some {id : ObjID} {stance : Stance} :
    (world.objects id).bind Subject.stance = some stance ↔ ∃ subject user,
      world.getUser id = some (subject, user) ∧
        stance = ⟨subject.transform.zoneId, subject.transform.transferring, user.stat.dead⟩ := by
  simp only [getUser_eq_some, Option.bind_eq_some_iff]
  constructor
  · rintro ⟨subject, found, same⟩
    unfold Subject.stance at same
    split at same
    · next user bodyOf => exact ⟨subject, user, ⟨found, bodyOf⟩, (Option.some.inj same).symm⟩
    · contradiction
  · rintro ⟨subject, user, ⟨found, bodyOf⟩, rfl⟩
    exact ⟨subject, found, by rw [Subject.stance, bodyOf]⟩

theorem stance_eq_person (id : ObjID) (world : World) :
    (world.objects id).bind Subject.stance = (world.personOf id).map fun person =>
      ⟨person.transform.zoneId, person.transform.transferring, person.dead⟩ := by
  apply Option.ext
  intro stance
  simp only [stance_eq_some, Option.map_eq_some_iff, personOf_eq_some_iff]
  constructor
  · rintro ⟨subject, user, found, rfl⟩
    exact ⟨_, ⟨subject, user, found, rfl⟩, rfl⟩
  · rintro ⟨_, ⟨subject, user, found, rfl⟩, rfl⟩
    exact ⟨subject, user, found, rfl⟩

theorem Aside.view (aside : Aside before after) (session : Nat) :
    after.view session = before.view session := by
  rcases aside.timers with ⟨added, timers, other⟩
  apply view_congr
  · rw [stance_eq_person, stance_eq_person, aside.persons]
  · rw [aside.sessions]
  · exact aside.zones _ rfl
  · exact aside.queues
  · rw [timers, List.countP_append]
    have none : added.countP (TimerEvent.respawns session) = 0 := by
      rw [List.countP_eq_zero]
      intro event member same
      exact other event member (of_decide_eq_true same).1
    rw [none, Nat.add_zero]

theorem Quiet.view {allowed : ServerPacket → Prop} {zone : Nat} {actor : ObjID}
    (quiet : Quiet allowed zone actor before after) (session : Nat) :
    after.view session = before.view session :=
  quiet.aside.view session

/-! ## Operations that keep all views -/

theorem view_modify {id : ObjID} {change : Subject → Subject}
    (keeps : ∀ subject, (change subject).stance = subject.stance) :
    (world.modify id change).view session = world.view session := by
  refine view_congr ?_ rfl rfl rfl rfl
  simp only [modify, Function.update_apply]
  split
  · next same =>
    rw [← same]
    cases world.objects (ObjID.user session) with
    | none => rfl
    | some subject => exact keeps subject
  · rfl

theorem stance_transform {change : Transform → Transform}
    (zoneId : ∀ transform, (change transform).zoneId = transform.zoneId)
    (transferring : ∀ transform, (change transform).transferring = transform.transferring)
    (subject : Subject) :
    Subject.stance { subject with transform := change subject.transform } = subject.stance := by
  rcases subject with ⟨name, transform, facing, body⟩
  cases body with
  | user user => simp [Subject.stance, zoneId transform, transferring transform]
  | monster monster => rfl
  | item item => rfl

theorem view_modifyTransform {id : ObjID} {change : Transform → Transform}
    (zoneId : ∀ transform, (change transform).zoneId = transform.zoneId)
    (transferring : ∀ transform, (change transform).transferring = transform.transferring) :
    (world.modifyTransform id change).view session = world.view session :=
  view_modify (stance_transform zoneId transferring)

theorem view_removeObject {zone : Nat} {id : ObjID} {transform : Transform} :
    (world.removeObject zone id transform).view session = world.view session := by
  unfold removeObject
  split
  · exact view_modifyTransform (fun _ => rfl) (fun _ => rfl)
  · rfl

theorem view_updateObjectSectorAndPosition {zone : Nat} {id : ObjID} {transform : Transform}
    {x y : Int} {placed : World}
    (moved : world.updateObjectSectorAndPosition zone id transform x y = some placed) :
    placed.view session = world.view session := by
  simp only [updateObjectSectorAndPosition] at moved
  split at moved
  · rw [← Option.some.inj moved]
    refine Eq.trans (view_modifyTransform (fun _ => rfl) (fun _ => rfl)) ?_
    split
    · split <;> rfl
    · rfl
  · contradiction

/-- Setting the position of a user inside the zone it belongs to. -/
theorem view_updatePosition {zone : Nat} {id : ObjID} {x y : Int} {subject : Subject}
    {record : Session} (found : world.objects id = some subject)
    (home : subject.transform.zoneId = zone)
    (recorded : world.sessions id.databaseId = some record) (routed : record.routingZoneId = zone)
    (valid : isValidZoneId zone = true) :
    (world.updatePosition zone id x y).view session = world.view session := by
  by_cases inZone : getZoneIdByWorld x y = zone
  · have settled := updatePosition_settled valid found inZone
    have sameSessions : (world.setRoutingZoneId id.databaseId zone).sessions = world.sessions := by
      have unchanged : { record with routingZoneId := zone } = record := by rw [← routed]
      simp only [setRoutingZoneId, modifySession, recorded, Option.map_some, unchanged]
      rw [← recorded, Function.update_eq_self]
    apply view_congr
    · rw [settled.objects, Function.update_apply]
      split
      · next same =>
        rw [same, found, Option.bind_some, Option.bind_some]
        rcases subject with ⟨name, transform, facing, body⟩
        cases body with
        | user user => simp [Subject.placedAt, Subject.stance, ← home]
        | monster monster => rfl
        | item item => rfl
      · rfl
    · rw [settled.sessions]
      split
      · rw [sameSessions]
      · rfl
    · rw [settled.objectZones, if_pos home]
    · exact settled.queues
    · rw [settled.timers]
  · rw [updatePosition_outside valid inZone]

theorem view_scheduleAfter {zone delay : Nat} {subjectId targetId : ObjID}
    {event : TimerEventType} (kind : event ≠ .evUserRespawn) :
    (world.scheduleAfter zone subjectId delay event targetId).view session =
      world.view session :=
  ((Aside.refl world).scheduleAfter kind).view session

/-! ## Operations that change one view -/

/-- The view of one session becomes `new`, all others stay. -/
def ViewsTo (session : Nat) (new : View) (before after : World) : Prop :=
  ∀ other, after.view other = if other = session then new else before.view other

namespace ViewsTo

variable {middle : World} {first new : View}

theorem self (views : ViewsTo session new before after) : after.view session = new := by
  rw [views session, if_pos rfl]

theorem trans (early : ViewsTo session first before middle)
    (late : ViewsTo session new middle after) : ViewsTo session new before after := by
  intro other
  rw [late other]
  split
  · rfl
  · next different => rw [early other, if_neg different]

theorem precededBy (views : ViewsTo session new middle after)
    (same : ∀ other, middle.view other = before.view other) : ViewsTo session new before after := by
  intro other
  rw [views other, same other]

theorem followedBy (views : ViewsTo session new before middle)
    (same : ∀ other, after.view other = middle.view other) : ViewsTo session new before after := by
  intro other
  rw [same other, views other]

end ViewsTo

theorem viewsTo_modify {change : Subject → Subject} {effect : Stance → Stance}
    (acts : ∀ subject, (change subject).stance = subject.stance.map effect) :
    ViewsTo session { world.view session with stance := (world.view session).stance.map effect }
      world (world.modify (ObjID.user session) change) := by
  intro other
  split
  · next same =>
    subst same
    apply View.ext
    case stance =>
      simp only [view, modify, Function.update_self]
      cases world.objects (ObjID.user other) with
      | none => rfl
      | some subject => exact acts subject
    all_goals rfl
  · next different =>
    refine view_congr ?_ rfl rfl rfl rfl
    have apart : ObjID.user other ≠ ObjID.user session := fun same =>
      different (ObjID.user_inj.mp same)
    simp only [modify, Function.update_of_ne apart]

theorem viewsTo_modifyTransform {change : Transform → Transform} {effect : Stance → Stance}
    (acts : ∀ transform dead, ⟨(change transform).zoneId, (change transform).transferring, dead⟩ =
      effect ⟨transform.zoneId, transform.transferring, dead⟩) :
    ViewsTo session { world.view session with stance := (world.view session).stance.map effect }
      world (world.modifyTransform (ObjID.user session) change) := by
  apply viewsTo_modify
  rintro ⟨name, transform, facing, body⟩
  cases body with
  | user user => exact congrArg some (acts transform user.stat.dead)
  | monster monster => rfl
  | item item => rfl

theorem viewsTo_setStat {change : Stat → Stat} {dead : Bool} {subject : Subject} {user : User}
    (found : world.getUser (ObjID.user session) = some (subject, user))
    (becomes : (change user.stat).dead = dead) :
    ViewsTo session
      { world.view session with
        stance := some ⟨subject.transform.zoneId, subject.transform.transferring, dead⟩ } world
      (world.setStat (ObjID.user session) change) := by
  rw [getUser_eq_some] at found
  intro other
  split
  · next same =>
    subst same
    apply View.ext
    case stance =>
      simp only [view, setStat, modifyUser, modify, Function.update_self, found.1, Option.map_some,
        Option.bind_some, found.2, Subject.stance]
      rw [← becomes]
      rfl
    all_goals rfl
  · next different =>
    refine view_congr ?_ rfl rfl rfl rfl
    have apart : ObjID.user other ≠ ObjID.user session := fun same =>
      different (ObjID.user_inj.mp same)
    simp only [setStat, modifyUser, modify, Function.update_of_ne apart]

theorem viewsTo_updateObjectZone {zoneId : Nat} (valid : isValidZoneId zoneId = true) :
    ViewsTo session { world.view session with zone := some zoneId } world
      (world.updateObjectZone (ObjID.user session) zoneId) := by
  intro other
  rw [updateObjectZone, if_pos valid]
  split
  · next same =>
    subst same
    apply View.ext
    case zone => exact Function.update_self _ _ _
    all_goals rfl
  · next different =>
    refine view_congr rfl rfl ?_ rfl rfl
    exact Function.update_of_ne (fun same => different (ObjID.user_inj.mp same)) _ _

theorem viewsTo_setRoutingZoneId (zoneId : Nat) {record : Session}
    (recorded : world.sessions session = some record) :
    ViewsTo session { world.view session with session := some ⟨record.state, zoneId⟩ } world
      (world.setRoutingZoneId session zoneId) := by
  intro other
  split
  · next same =>
    subst same
    apply View.ext
    case session => simp [view, setRoutingZoneId, modifySession, recorded]
    all_goals rfl
  · next different =>
    refine view_congr rfl ?_ rfl rfl rfl
    simp [setRoutingZoneId, modifySession, different]

/-- Queueing a task that is about this session only. -/
theorem viewsTo_enqueueByZone (zoneId : Nat) (task : Task) (about : task.isAbout session = true)
    (only : ∀ other, task.isAbout other = true → other = session) :
    ViewsTo session
      { world.view session with
        waiting := Function.update (world.view session).waiting (threadOf zoneId)
          ((world.view session).waiting (threadOf zoneId) ++ [task]) } world
      (world.enqueueByZone zoneId task) := by
  intro other
  split
  · next same =>
    subst same
    apply View.ext
    case waiting =>
      funext thread
      simp only [view, enqueueByZone, Function.update_apply]
      split
      · rw [List.filter_append, List.filter_singleton, about]
        rfl
      · rfl
    all_goals rfl
  · next different =>
    apply View.ext
    case waiting =>
      funext thread
      simp only [view, enqueueByZone, Function.update_apply]
      split
      · next same =>
        have notAbout : task.isAbout other = false := by
          rw [← Bool.not_eq_true]
          exact fun isAbout => different (only other isAbout)
        rw [List.filter_append, List.filter_singleton, notAbout, same]
        exact List.append_nil _
      · rfl
    all_goals rfl

theorem viewsTo_scheduleAfter (zone delay : Nat) (targetId : ObjID) :
    ViewsTo session { world.view session with respawns := (world.view session).respawns + 1 }
      world (world.scheduleAfter zone (ObjID.user session) delay .evUserRespawn targetId) := by
  intro other
  split
  · next same =>
    subst same
    apply View.ext
    case respawns =>
      simp [view, scheduleAfter, List.countP_append, TimerEvent.respawns]
    all_goals rfl
  · next different =>
    refine view_congr rfl rfl rfl rfl ?_
    have apart : ¬session = other := fun same => different same.symm
    simp [scheduleAfter, List.countP_append, TimerEvent.respawns, apart]

theorem viewsTo_publishUser (subject : Subject) {record : Session}
    (recorded : world.sessions session = some record) :
    ViewsTo session
      { world.view session with
        stance := subject.stance
        session := some ⟨.stIngame, record.routingZoneId⟩ } world
      (world.publishUser session subject) := by
  intro other
  split
  · next same =>
    subst same
    apply View.ext
    case stance => simp [view, publishUser, modifySession, insertObject]
    case session => simp [view, publishUser, modifySession, insertObject, recorded]
    all_goals rfl
  · next different =>
    have apart : ObjID.user other ≠ ObjID.user session := fun same =>
      different (ObjID.user_inj.mp same)
    refine view_congr ?_ ?_ rfl rfl rfl
    · simp [publishUser, modifySession, insertObject, different]
    · simp [publishUser, modifySession, insertObject, different]

theorem viewsTo_leave (session : Nat) (world : World) :
    ViewsTo session { world.view session with stance := none, zone := none } world
      ((world.deleteObject (ObjID.user session)).removeObjectZone (ObjID.user session)) := by
  intro other
  split
  · next same =>
    subst same
    apply View.ext
    case stance => simp [view, deleteObject, removeObjectZone]
    case zone => simp [view, deleteObject, removeObjectZone]
    all_goals rfl
  · next different =>
    refine view_congr ?_ rfl ?_ rfl rfl
    · simp [deleteObject, removeObjectZone, different]
    · simp [deleteObject, removeObjectZone, different]

end World

end Mmorpg
