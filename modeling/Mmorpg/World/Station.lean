import Mmorpg.World.Handover

/-!
# Where a session is

A session is outside the game, has its user in one zone or on the way into one,
or has lost its user.  One task changes this in four ways at most.
-/

namespace Mmorpg

open ZoneLayout

variable {grid : CollisionGrid}

/-- Where a session's player is: not in the world yet, in a zone, or gone. -/
inductive Station
  | outside
  | inside (zoneId : Nat) (transferring : Bool)
  | gone
  deriving DecidableEq

/-- The station a view shows. -/
def View.station (view : View) : Station :=
  match view.stance with
  | some stance => .inside stance.zoneId stance.transferring
  | none =>
      match view.session with
      | some ⟨.stIngame, _⟩ => .gone
      | _ => .outside

/-- Sessions that are not in the game differ in their users only. -/
theorem View.station_of_outside {view other : View} (stance : other.stance = view.stance)
    (outside : ¬view.ingame) (stillOutside : ¬other.ingame) : other.station = view.station := by
  have alike : ∀ current : View, ¬current.ingame →
      current.station = match current.stance with
        | some stance => .inside stance.zoneId stance.transferring
        | none => .outside := by
    intro current away
    unfold station
    split
    · rfl
    · split
      · next zoneId found => exact absurd ⟨_, found, rfl⟩ away
      · rfl
  rw [alike other stillOutside, alike view outside, stance]

/-- The session whose user the task brings into a zone. -/
def World.brought (task : Task) (world : World) : Option Nat :=
  match task with
  | .getUserInfo session _ _ | .addUserInfo session _ =>
      if world.sessionState session = .stAlloc ∧ (world.objects (ObjID.user session)).isNone then
        some session
      else none
  | .enterZone playerId _ _ => some playerId.databaseId
  | _ => none

/-- A login puts its user into the zone of the thread. -/
def Task.landsOn (thread : Nat) (choice : Choice grid) : Task → Bool
  | getUserInfo _ userInfo _ =>
      getZoneIdByWorld (World.loadedTile choice userInfo).1 (World.loadedTile choice userInfo).2 =
        thread
  | _ => true

/-- What running a task on a thread does to the station of a session. -/
inductive Station.Step (world : World) (thread : Nat) (choice : Choice grid) (task : Task)
    (session : Nat) : Station → Station → Prop
  | stays (station : Station) : Step world thread choice task session station station
  | departs (packet : ClientPacket) (old new : Nat) : task = .dispatch session packet →
      isValidZoneId new = true → new ≠ old →
      Step world thread choice task session (.inside old false) (.inside new true)
  | arrives : world.brought task = some session → isValidZoneId thread = true →
      Step world thread choice task session (.inside thread true) (.inside thread false)
  | appears (zoneId : Nat) : world.brought task = some session → isValidZoneId thread = true →
      (task.landsOn thread choice = true → zoneId = thread) →
      Step world thread choice task session .outside (.inside zoneId false)
  | leaves (station : Station) : Step world thread choice task session station .gone

namespace World

variable {thread session : Nat} {choice : Choice grid} {task : Task} {rest : List Task}
  {world after : World}

theorem station_of_getUser {client : Subject} {user : User}
    (found : world.getUser (ObjID.user session) = some (client, user)) :
    (world.view session).station =
      .inside client.transform.zoneId client.transform.transferring := by
  have stands : (world.view session).stance = some _ :=
    stance_eq_some.mpr ⟨client, user, found, rfl⟩
  rw [View.station, stands]

/-- A session inside a zone has a user there. -/
theorem station_eq_inside {zoneId : Nat} {transferring : Bool}
    (inside : (world.view session).station = .inside zoneId transferring) :
    ∃ client user, world.getUser (ObjID.user session) = some (client, user) ∧
      client.transform.zoneId = zoneId ∧ client.transform.transferring = transferring := by
  unfold View.station at inside
  split at inside
  · next stance stands =>
    rcases stance_eq_some.mp stands with ⟨client, user, found, rfl⟩
    rw [Station.inside.injEq] at inside
    exact ⟨client, user, found, inside⟩
  · split at inside
    · contradiction
    · contradiction

theorem station_congr {before : World} (stance : (after.view session).stance =
      (before.view session).stance)
    (record : (after.view session).session = (before.view session).session) :
    (after.view session).station = (before.view session).station := by
  rw [View.station, View.station, stance, record]

/-- The view of one session changed; all others stay where they are. -/
theorem step_of_viewsTo {source : World} {changed other : Nat} {new : View}
    (views : ViewsTo changed new world after)
    (own : Station.Step source thread choice task changed (world.view changed).station new.station) :
    Station.Step source thread choice task other (world.view other).station (after.view other).station := by
  rw [views other]
  split
  · next same => exact same ▸ own
  · exact .stays _

theorem handlePlayerMove_station (source : World) {x y : Int} {client : Subject} {user : User}
    {packet : ClientPacket} (mapped : Mapped world) (valid : isValidZoneId thread = true)
    (found : world.getUser (ObjID.user session) = some (client, user))
    (still : client.transform.transferring = false) (other : Nat) :
    Station.Step source thread choice (.dispatch session packet) other (world.view other).station
      ((world.handlePlayerMove thread choice (ObjID.user session) x y).view other).station := by
  have recorded := (mapped.stands found).2
  unfold handlePlayerMove
  rw [found]
  dsimp only
  split
  · next crossing =>
    apply step_of_viewsTo (viewsTo_handleZoneTransfer found recorded crossing.2)
    rw [station_of_getUser found, still]
    exact .departs packet _ _ rfl crossing.2 crossing.1
  · next staying =>
    rw [view_walk ?_ other]
    · exact .stays _
    · intro other
      by_cases inZone : getZoneIdByWorld x y = thread
      · have home : client.transform.zoneId = thread := by
          by_contra elsewhere
          exact staying ⟨fun same => elsewhere (same.symm.trans inZone), inZone ▸ valid⟩
        exact view_updatePosition (getUser_eq_some.mp found).1 home recorded home valid
      · rw [updatePosition_outside valid inZone]

/-- A session that has not logged in is outside. -/
theorem station_of_alloc (alloc : world.sessionState session = .stAlloc)
    (free : world.objects (ObjID.user session) = none) :
    (world.view session).station = .outside := by
  have stance : (world.view session).stance = none := by
    rw [view, free]
    rfl
  rcases outside_of_alloc alloc with ⟨outside, record, recorded⟩
  unfold View.station
  rw [stance]
  dsimp only
  split
  · next zoneId found =>
    exact absurd ⟨_, found, rfl⟩ outside
  · rfl

theorem station_of_entered {view new : View} (entered : view.Entered new) :
    ∃ zoneId, new.station = .inside zoneId false := by
  rcases entered with ⟨zoneId, routed, stance, _⟩
  exact ⟨zoneId, by rw [View.station, stance]⟩

theorem exec_station (handed : Handed world) (queued : world.queues thread = task :: rest)
    (ran : ({ world with queues := Function.update world.queues thread rest } : World).exec thread
      choice task = some after) (other : Nat) :
    Station.Step world thread choice task other (world.view other).station (after.view other).station := by
  have popped : Mapped { world with queues := Function.update world.queues thread rest } :=
    handed.mapped.congr rfl rfl rfl rfl
  have same : ∀ session, (({ world with queues := Function.update world.queues thread rest } :
      World).view session).station = (world.view session).station := fun _ => rfl
  rw [← same]
  cases exec_effect popped.filed ran with
  | aside aside =>
    rw [aside.view]
    exact .stays _
  | move x y isMove playing valid quiet =>
    next session packet client user stamped =>
    obtain ⟨_, found, _, still⟩ := playing_eq_some.mp playing
    have stands := (popped.stands found).1
    rw [still, ← quiet.view session] at stands
    rcases stance_eq_some.mp stands with ⟨mover, moverUser, moverFound, stance⟩
    rw [Stance.mk.injEq] at stance
    rw [← quiet.view other]
    exact handlePlayerMove_station world (quiet.sameSites.mapped popped) valid moverFound
      stance.2.1.symm other
  | leave found here valid =>
    next clientId client user =>
    obtain ⟨session, rfl⟩ : ∃ session, clientId = ObjID.user session := ⟨_, popped.user found⟩
    have recorded := (popped.stands found).2
    apply step_of_viewsTo viewsTo_leaveWorld
    have gone : View.station { World.view session { world with
        queues := Function.update world.queues thread rest } with
          stance := none, zone := none } = .gone := by
      unfold View.station
      dsimp only
      rw [show (World.view session { world with
        queues := Function.update world.queues thread rest }).session = _ from recorded]
    rw [gone]
    exact .leaves _
  | retry found away valid =>
    exact .stays _
  | enter x y found valid =>
    next playerId player user =>
    obtain ⟨session, rfl⟩ : ∃ session, playerId = ObjID.user session := ⟨_, popped.user found⟩
    have member : Task.enterZone (ObjID.user session) x y ∈ world.queues thread :=
      queued ▸ List.mem_cons_self
    rcases handed.entry member with ⟨arriving, arrivingUser, arrivingFound, away, home⟩
    obtain ⟨rfl, rfl⟩ := Prod.mk.inj (Option.some.inj (arrivingFound.symm.trans found))
    apply step_of_viewsTo (viewsTo_handleEnterZone valid found home (popped.stands found).2 home)
    rw [station_of_getUser found, away, home]
    exact .arrives rfl valid
  | getUserInfo alloc free valid =>
    rcases outside_of_alloc alloc with ⟨_, record, recorded⟩
    rcases viewsTo_getUserInfo valid recorded with ⟨view, entered, lands, views⟩
    rcases station_of_entered entered with ⟨zoneId, inside⟩
    apply step_of_viewsTo views
    rw [station_of_alloc alloc free, inside]
    refine .appears zoneId (if_pos ⟨alloc, Option.isNone_iff_eq_none.mpr free⟩) valid fun here => ?_
    rw [View.station, lands (of_decide_eq_true here)] at inside
    exact (Station.inside.inj inside).1.symm
  | addUserInfo alloc free valid =>
    rcases outside_of_alloc alloc with ⟨_, record, recorded⟩
    rcases viewsTo_addUserInfo valid recorded with ⟨view, entered, lands, views⟩
    apply step_of_viewsTo views
    rw [station_of_alloc alloc free, View.station, lands]
    exact .appears thread (if_pos ⟨alloc, Option.isNone_iff_eq_none.mpr free⟩) valid fun _ => rfl
  | kill isMonster found hits fatal valid =>
    next monsterId playerId subject victim monster user =>
    obtain ⟨session, rfl⟩ : ∃ session, playerId = ObjID.user session := ⟨_, popped.user found⟩
    apply step_of_viewsTo (viewsTo_killPlayer found fatal)
    rw [station_of_getUser found]
    exact .stays _
  | respawn found valid =>
    next playerId targetId player user =>
    obtain ⟨session, rfl⟩ : ∃ session, playerId = ObjID.user session := ⟨_, popped.user found⟩
    obtain ⟨dead, onHome⟩ := handed.respawn queued found
    have home : player.transform.zoneId = thread := by
      rw [threadOf] at onHome
      split at onHome
      · exact onHome.symm
      · rw [onHome] at valid
        contradiction
    apply step_of_viewsTo (viewsTo_handleUserRespawn valid found home (popped.stands found).2 home)
    rw [station_of_getUser found]
    exact .stays _

end World

namespace Server

variable {collate : String → String}

/-- Users move in tasks only. -/
theorem station_of_noTask {label : Label grid} {before after : Server collate}
    (taken : step label before = some after) (noTask : ∀ thread choice, label ≠ .run thread choice)
    (handed : World.Handed before.world) (session : Nat) :
    (after.world.view session).station = (before.world.view session).station := by
  have stance : (after.world.view session).stance = (before.world.view session).stance := by
    rw [World.view, World.view, (step_objects taken noTask).1]
  cases label with
  | accept =>
    simp only [step, accept] at taken
    split at taken
    · obtain rfl := Option.some.inj taken
      by_cases new : session = before.world.nextObjectId
      · have unknown : (before.world.view session).session = none :=
          handed.mapped.fresh session (Nat.le_of_eq new.symm)
        have known : Function.update before.world.sessions before.world.nextObjectId
            (some { state := .stAlloc }) session = some { state := .stAlloc } := by
          rw [new, Function.update_self]
        apply View.station_of_outside stance
        · rintro ⟨record, found, ingame⟩
          cases unknown.symm.trans found
        · rintro ⟨record, found, ingame⟩
          cases known.symm.trans found
          contradiction
      · apply World.station_congr stance
        exact Function.update_of_ne new _ _
    · contradiction
  | receive sender packet =>
    simp only [step, receive] at taken
    split at taken
    · obtain rfl := Option.some.inj taken
      rfl
    · contradiction
  | hangUp sender =>
    simp only [step, hangUp] at taken
    split at taken
    · split at taken
      · obtain rfl := Option.some.inj taken
        rfl
      · obtain rfl := Option.some.inj taken
        rfl
    · contradiction
  | fire index =>
    simp only [step, fire] at taken
    split at taken
    · contradiction
    · obtain rfl := Option.some.inj taken
      apply World.station_congr stance
      rw [dispatchTimer_eq]
      rfl
  | database index calls written =>
    simp only [step, database] at taken
    split at taken
    · contradiction
    · split at taken
      · obtain rfl := Option.some.inj taken
        apply World.station_congr stance
        unfold handOver
        split <;> rfl
      · obtain rfl := Option.some.inj taken
        apply World.station_congr stance
        split <;> rfl
  | run thread choice => exact absurd rfl (noTask thread choice)

theorem station_of_run {thread : Nat} {choice : Choice grid} {before after : Server collate}
    (taken : step (.run thread choice) before = some after) (handed : World.Handed before.world) :
    ∃ task rest, before.world.queues thread = task :: rest ∧ ∀ session,
      Station.Step before.world thread choice task session (before.world.view session).station
        (after.world.view session).station := by
  simp only [step, runThread] at taken
  split at taken
  · contradiction
  · next task rest queued =>
    rcases Option.map_eq_some_iff.mp taken with ⟨world, ran, rfl⟩
    exact ⟨task, rest, queued, World.exec_station handed queued ran⟩

end Server

end Mmorpg
