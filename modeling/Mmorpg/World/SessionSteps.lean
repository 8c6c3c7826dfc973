import Mmorpg.World.SessionView
import Mmorpg.World.ScriptTasks

/-!
# What the tasks of a user do to its view

Transfers, entries, deaths, respawns, logins and disconnects, each as one
change of the view of one session.
-/

namespace Mmorpg

open ZoneLayout

variable {grid : CollisionGrid}

/-- The view of a user that has just logged in. -/
def View.Entered (view new : View) : Prop :=
  ∃ zoneId routed,
    new.stance = some ⟨zoneId, false, false⟩ ∧ new.session = some ⟨.stIngame, routed⟩ ∧
      new.waiting = view.waiting ∧ new.respawns = view.respawns

namespace World

variable {zone session : Nat} {choice : Choice grid} {world : World} {player : Subject} {user : User}

/-- An entry is about the player that enters. -/
theorem isAbout_enterZone {other : Nat} {x y : Int} :
    (Task.enterZone (ObjID.user session) x y).isAbout other = true ↔ session = other := by
  simp [Task.isAbout, Task.concerns, Task.enters, Task.respawns]

/-! ## Moving -/

theorem view_notifyPlayerEnteredWorld {playerId : ObjID} {isRespawn : Bool} (other : Nat) :
    (world.notifyPlayerEnteredWorld zone choice playerId isRespawn).view other =
      world.view other := by
  have quiet : Quiet Any zone playerId world
      (world.notifyPlayerEnteredWorld zone choice playerId isRespawn) :=
    notifyPlayerEnteredWorld_quiet (Quiet.refl world)
  exact quiet.view other

/-- A walk that leaves the position's view alone leaves all views alone. -/
theorem view_walk {playerId : ObjID} {x y : Int}
    (placed : ∀ other, (world.updatePosition zone playerId x y).view other = world.view other)
    (other : Nat) : (world.walk zone choice playerId player x y).view other = world.view other := by
  unfold walk
  dsimp only
  split
  · exact placed other
  · split
    · exact placed other
    · refine Eq.trans ((show Quiet Any zone playerId _ _ from ?_).view other) (placed other)
      apply wakeUpMonsters_quiet _
        (Quiet.post (fun _ _ => trivial) (Quiet.send trivial (Quiet.refl _)))
      exact fun id member => mem_collectSubjects_cells member

/-- Sending a user to another zone. -/
theorem viewsTo_handleZoneTransfer {client : Subject} {record : Session} {x y : Int}
    {newZoneId : Nat} (found : world.getUser (ObjID.user session) = some (client, user))
    (recorded : world.sessions session = some record) (valid : isValidZoneId newZoneId = true) :
    ViewsTo session
      { stance := some ⟨newZoneId, true, user.stat.dead⟩
        session := some ⟨record.state, newZoneId⟩
        zone := some newZoneId
        waiting := Function.update (world.view session).waiting newZoneId
          ((world.view session).waiting newZoneId ++ [.enterZone (ObjID.user session) x y])
        respawns := (world.view session).respawns } world
      (world.handleZoneTransfer zone choice (ObjID.user session) player x y newZoneId) := by
  have stands : (world.view session).stance = some
      ⟨client.transform.zoneId, client.transform.transferring, user.stat.dead⟩ :=
    stance_eq_some.mpr ⟨client, user, found, rfl⟩
  unfold handleZoneTransfer
  dsimp only
  generalize ((ObjID.user session).databaseId, ServerPacket.subjectMoveNfy _ x y) :: _ = packets
  generalize movedOff : (((world.modifyTransform (ObjID.user session) fun current =>
    { current with transferring := true }).removeObject zone (ObjID.user session)
      player.transform).modifyTransform (ObjID.user session) fun current =>
        { current with x := x, y := y }).post packets = moved
  have marked : ViewsTo session
      { world.view session with
        stance := (world.view session).stance.map (fun stance : Stance =>
          { stance with transferring := true }) } world moved := by
    have flagged : ViewsTo session
        { world.view session with
          stance := (world.view session).stance.map (fun stance : Stance =>
            { stance with transferring := true }) } world
        (world.modifyTransform (ObjID.user session) fun current =>
          { current with transferring := true }) := viewsTo_modifyTransform fun _ _ => rfl
    rw [← movedOff]
    apply ViewsTo.followedBy flagged
    intro other
    have posted : ∀ current : World, (current.post packets).view other = current.view other :=
      fun _ => rfl
    rw [posted]
    refine (view_modifyTransform ?_ ?_).trans view_removeObject
    · exact fun _ => rfl
    · exact fun _ => rfl
  clear movedOff
  have homed : ViewsTo session
      { (world.view session) with stance := some ⟨newZoneId, true, user.stat.dead⟩ } world
      (moved.modifyTransform (ObjID.user session) fun current =>
        { current with zoneId := newZoneId }) := by
    have changed : ViewsTo session
        { moved.view session with
          stance := (moved.view session).stance.map (fun stance : Stance =>
            { stance with zoneId := newZoneId }) } moved
        (moved.modifyTransform (ObjID.user session) fun current =>
          { current with zoneId := newZoneId }) := viewsTo_modifyTransform fun _ _ => rfl
    rw [marked.self, stands] at changed
    exact marked.trans changed
  have zoned := homed.trans (viewsTo_updateObjectZone valid)
  rw [homed.self] at zoned
  dsimp only at zoned
  have stillRecorded := congrArg View.session zoned.self
  have routed := zoned.trans
    (viewsTo_setRoutingZoneId newZoneId (stillRecorded.trans recorded))
  rw [zoned.self] at routed
  have queued := routed.trans (viewsTo_enqueueByZone newZoneId
    (.enterZone (ObjID.user session) x y) (isAbout_enterZone.mpr rfl)
    fun other about => (isAbout_enterZone.mp about).symm)
  rw [routed.self, threadOf, if_pos valid] at queued
  exact queued

/-- The end of an entry: the neighbourhood is told, and the user counts as
arrived. -/
theorem viewsTo_arrive {placed : World}
    (found : world.getUser (ObjID.user session) = some (player, user))
    (same : ∀ other, placed.view other = world.view other) :
    ViewsTo session
      { world.view session with
        stance := some ⟨player.transform.zoneId, false, user.stat.dead⟩ } world
      ((placed.notifyPlayerEnteredWorld zone choice (ObjID.user session) false).modifyTransform
        (ObjID.user session) fun current => { current with transferring := false }) := by
  have stands : (world.view session).stance = some
      ⟨player.transform.zoneId, player.transform.transferring, user.stat.dead⟩ :=
    stance_eq_some.mpr ⟨player, user, found, rfl⟩
  have entered : ∀ other, (placed.notifyPlayerEnteredWorld zone choice (ObjID.user session)
      false).view other = world.view other :=
    fun other => (view_notifyPlayerEnteredWorld other).trans (same other)
  have arrived : ViewsTo session
      { (placed.notifyPlayerEnteredWorld zone choice (ObjID.user session) false).view session with
        stance := ((placed.notifyPlayerEnteredWorld zone choice (ObjID.user session) false).view
          session).stance.map (fun stance : Stance => { stance with transferring := false }) }
      (placed.notifyPlayerEnteredWorld zone choice (ObjID.user session) false)
      ((placed.notifyPlayerEnteredWorld zone choice (ObjID.user session) false).modifyTransform
        (ObjID.user session) fun current => { current with transferring := false }) :=
    viewsTo_modifyTransform fun _ _ => rfl
  rw [entered session, stands] at arrived
  exact arrived.precededBy entered

/-- Arriving on the thread of the zone. -/
theorem viewsTo_handleEnterZone {record : Session} {x y : Int} (valid : isValidZoneId zone = true)
    (found : world.getUser (ObjID.user session) = some (player, user))
    (home : player.transform.zoneId = zone)
    (recorded : world.sessions session = some record) (routed : record.routingZoneId = zone) :
    ViewsTo session
      { world.view session with
        stance := some ⟨player.transform.zoneId, false, user.stat.dead⟩ } world
      (world.handleEnterZone zone choice (ObjID.user session) x y) := by
  unfold handleEnterZone
  rw [found]
  dsimp only
  split
  · next placed moved =>
    exact viewsTo_arrive found fun other => view_updateObjectSectorAndPosition moved
  · apply viewsTo_arrive found
    exact fun other =>
      view_updatePosition (getUser_eq_some.mp found).1 home recorded routed valid

/-! ## Death and respawn -/

theorem getUser_modifyMonster {id : ObjID} (monsterId : ObjID) (change : Monster → Monster)
    (found : world.getUser id = some (player, user)) :
    (world.modifyMonster monsterId change).getUser id = some (player, user) := by
  rw [getUser_eq_some] at found ⊢
  refine ⟨?_, found.2⟩
  simp only [modifyMonster, modify, Function.update_apply]
  split
  · next same =>
    rw [← same, found.1, Option.map_some, found.2]
  · exact found.1

theorem view_modifyMonster {monsterId : ObjID} {change : Monster → Monster} (other : Nat) :
    (world.modifyMonster monsterId change).view other = world.view other :=
  (Aside.modifyMonster (Aside.refl world)).view other

/-- A player's death. -/
theorem viewsTo_killPlayer {monsterId : ObjID} {victim : Subject} {hp : Nat}
    (found : world.getUser (ObjID.user session) = some (player, user))
    (fatal : (user.stat.takeDamage monsterOffensive).dead = true) :
    ViewsTo session
      { world.view session with
        stance := some ⟨player.transform.zoneId, player.transform.transferring, true⟩
        respawns := (world.view session).respawns + 1 } world
      ((world.struck monsterId (ObjID.user session)).killPlayer zone choice monsterId
        (ObjID.user session) victim hp) := by
  have struck : ViewsTo session
      { world.view session with
        stance := some ⟨player.transform.zoneId, player.transform.transferring, true⟩ } world
      (world.struck monsterId (ObjID.user session)) := by
    have wounded := viewsTo_setStat (getUser_modifyMonster monsterId
      (fun current => { current with attack := true }) found) fatal
    rw [view_modifyMonster session] at wounded
    exact wounded.precededBy fun other => view_modifyMonster other
  unfold killPlayer
  dsimp only
  have removed : ∀ other, (((((world.struck monsterId (ObjID.user session)).sendAll
      ((world.struck monsterId (ObjID.user session)).viewers choice.hash zone victim)
        (.subjectDieNfy (ObjID.user session) hp)).modifyMonster monsterId fun current =>
          { current.clearPath with attack := false, active := false }).removeObject zone
            (ObjID.user session) victim.transform).view other) =
      (world.struck monsterId (ObjID.user session)).view other :=
    fun other => view_removeObject.trans (view_modifyMonster other)
  have scheduled := (struck.followedBy removed).trans
    (viewsTo_scheduleAfter zone 30000 ObjID.npos)
  rw [(struck.followedBy removed).self] at scheduled
  exact scheduled

/-- A respawn on the thread of the zone. -/
theorem viewsTo_handleUserRespawn {record : Session} (valid : isValidZoneId zone = true)
    (found : world.getUser (ObjID.user session) = some (player, user))
    (home : player.transform.zoneId = zone)
    (recorded : world.sessions session = some record) (routed : record.routingZoneId = zone) :
    ViewsTo session
      { world.view session with
        stance := some ⟨player.transform.zoneId, player.transform.transferring, false⟩ } world
      (world.handleUserRespawn zone choice (ObjID.user session)) := by
  have placed : ∀ other, (world.getRandomPosition zone choice (ObjID.user session)).view other =
      world.view other := fun other =>
    view_updatePosition (getUser_eq_some.mp found).1 home recorded routed valid
  have stands : ((world.getRandomPosition zone choice (ObjID.user session)).view session).stance =
      some ⟨player.transform.zoneId, player.transform.transferring, user.stat.dead⟩ := by
    rw [placed session]
    exact stance_eq_some.mpr ⟨player, user, found, rfl⟩
  rcases stance_eq_some.mp stands with ⟨moved, movedUser, movedFound, stance⟩
  have revived : ViewsTo session
      { world.view session with
        stance := some ⟨player.transform.zoneId, player.transform.transferring, false⟩ } world
      ((world.getRandomPosition zone choice (ObjID.user session)).setStat (ObjID.user session)
        fun current => { current with dead := false, hp := playerMaxHp }) := by
    have changed : ViewsTo session
        { (world.getRandomPosition zone choice (ObjID.user session)).view session with
          stance := some ⟨moved.transform.zoneId, moved.transform.transferring, false⟩ } _
        ((world.getRandomPosition zone choice (ObjID.user session)).setStat (ObjID.user session)
          fun current => { current with dead := false, hp := playerMaxHp }) :=
      viewsTo_setStat movedFound rfl
    rw [Stance.mk.injEq] at stance
    rw [placed session, ← stance.1, ← stance.2.1] at changed
    exact changed.precededBy placed
  unfold handleUserRespawn
  rw [found]
  dsimp only
  split
  · exact revived
  · apply revived.followedBy
    intro other
    exact (view_scheduleAfter (by decide)).trans (view_notifyPlayerEnteredWorld other)

/-! ## Logins and disconnects -/

/-- The first position of a user whose transform names no zone yet. -/
theorem viewsTo_firstPosition {record : Session} (x y : Int) (valid : isValidZoneId zone = true)
    (found : world.getUser (ObjID.user session) = some (player, user))
    (recorded : world.sessions session = some record) :
    ∃ zoneId routed mapped, (getZoneIdByWorld x y = zone → zoneId = zone) ∧ ViewsTo session
      { stance := some ⟨zoneId, player.transform.transferring, user.stat.dead⟩
        session := some ⟨record.state, routed⟩
        zone := mapped
        waiting := (world.view session).waiting
        respawns := (world.view session).respawns } world
      (world.updatePosition zone (ObjID.user session) x y) := by
  by_cases inZone : getZoneIdByWorld x y = zone
  · have settled := updatePosition_settled valid (getUser_eq_some.mp found).1 inZone
    refine ⟨zone, zone, (world.updatePosition zone (ObjID.user session) x y).objectZones
      (ObjID.user session), fun _ => rfl, ?_⟩
    intro other
    split
    · next same =>
      subst same
      apply View.ext
      case stance =>
        refine stance_eq_some.mpr ⟨player.placedAt zone x y, user, getUser_eq_some.mpr ?_, rfl⟩
        exact ⟨by rw [settled.objects, Function.update_self], (getUser_eq_some.mp found).2⟩
      case session =>
        change (world.updatePosition zone (ObjID.user other) x y).sessions other = _
        rw [settled.sessions, if_pos (ObjID.user_category _)]
        simp [setRoutingZoneId, modifySession, recorded]
      case zone => rfl
      case waiting =>
        change (fun thread => ((world.updatePosition zone (ObjID.user other) x y).queues
          thread).filter _) = _
        rw [settled.queues]
        rfl
      case respawns =>
        change (world.updatePosition zone (ObjID.user other) x y).timers.countP _ = _
        rw [settled.timers]
        rfl
    · next different =>
      have apart : ObjID.user other ≠ ObjID.user session := fun same =>
        different (ObjID.user_inj.mp same)
      apply view_congr
      · rw [settled.objects, Function.update_of_ne apart]
      · rw [settled.sessions, if_pos (ObjID.user_category _)]
        simp [setRoutingZoneId, modifySession, different]
      · rw [settled.objectZones]
        split
        · rfl
        · rw [Function.update_of_ne apart]
      · exact settled.queues
      · rw [settled.timers]
  · rw [updatePosition_outside valid inZone]
    refine ⟨player.transform.zoneId, record.routingZoneId, world.objectZones (ObjID.user session),
      fun here => absurd here inZone, ?_⟩
    intro other
    split
    · next same =>
      subst same
      apply View.ext
      case stance => exact stance_eq_some.mpr ⟨player, user, found, rfl⟩
      case session => exact recorded
      all_goals rfl
    · rfl

/-- The last part of a login changes no view. -/
theorem view_finishLogin {withItems : Bool} (other : Nat) :
    (world.finishLogin zone choice session withItems).view other = world.view other := by
  unfold finishLogin
  dsimp only
  split
  · rfl
  · rw [view_notifyPlayerEnteredWorld, view_scheduleAfter (by decide)]
    split <;> rfl

/-- Publishing and placing a new user. -/
theorem viewsTo_published {record : Session} {subject : Subject} (x y : Int)
    (valid : isValidZoneId zone = true) (new : IsNewUser subject)
    (recorded : world.sessions session = some record) :
    ∃ view, (world.view session).Entered view ∧
      (getZoneIdByWorld x y = zone → view.stance = some ⟨zone, false, false⟩) ∧
        ViewsTo session view world
          ((world.publishUser session subject).updatePosition zone (ObjID.user session) x y) := by
  have published := viewsTo_publishUser subject recorded
  rcases new.user with ⟨user, bodyOf, _, alive⟩
  have found : (world.publishUser session subject).getUser (ObjID.user session) =
      some (subject, user) := by
    refine getUser_eq_some.mpr ⟨?_, bodyOf⟩
    simp [publishUser, modifySession, insertObject]
  have stillRecorded : (world.publishUser session subject).sessions session =
      some ⟨.stIngame, record.routingZoneId⟩ := congrArg View.session published.self
  rcases viewsTo_firstPosition x y valid found stillRecorded with
    ⟨zoneId, routed, mapped, lands, placed⟩
  have both := published.trans placed
  refine ⟨_, ⟨zoneId, routed, ?_, rfl, ?_, ?_⟩, ?_, both⟩
  · rw [new.transform, alive]
  · have waiting := congrArg View.waiting published.self
    exact waiting
  · have respawns := congrArg View.respawns published.self
    exact respawns
  · intro here
    rw [new.transform, alive, lands here]

/-- The tile on which `HandleGetUserInfo` puts its user. -/
def loadedTile (choice : Choice grid) (userInfo : DbUserInfo) : Int × Int :=
  if isStandable grid userInfo.x userInfo.y then (userInfo.x, userInfo.y) else choice.worldDraw

/-- A login changes the view of its own session. -/
theorem viewsTo_getUserInfo {record : Session} {userInfo : DbUserInfo} {items : List DbItemInfo}
    (valid : isValidZoneId zone = true) (recorded : world.sessions session = some record) :
    ∃ view, (world.view session).Entered view ∧
      (getZoneIdByWorld (loadedTile choice userInfo).1 (loadedTile choice userInfo).2 = zone →
        view.stance = some ⟨zone, false, false⟩) ∧ ViewsTo session view world
      (((world.publishUser session (loadedUser choice.slots (ObjID.user session) userInfo
        items)).placeLoadedUser zone choice session userInfo).finishLogin zone choice session
          true) := by
  have new := isNewUser_loadedUser choice.slots (ObjID.user session) userInfo items
  have placed : ∃ view, (world.view session).Entered view ∧
      (getZoneIdByWorld (loadedTile choice userInfo).1 (loadedTile choice userInfo).2 = zone →
        view.stance = some ⟨zone, false, false⟩) ∧ ViewsTo session view world
      ((world.publishUser session (loadedUser choice.slots (ObjID.user session) userInfo
        items)).placeLoadedUser zone choice session userInfo) := by
    unfold placeLoadedUser loadedTile
    dsimp only
    split
    · exact viewsTo_published _ _ valid new recorded
    · rcases viewsTo_published choice.worldDraw.1 choice.worldDraw.2 valid new recorded with
        ⟨view, entered, lands, views⟩
      split
      · exact ⟨view, entered, lands, views⟩
      · exact ⟨view, entered, lands, views.followedBy fun _ => rfl⟩
  rcases placed with ⟨view, entered, lands, views⟩
  exact ⟨view, entered, lands, views.followedBy fun other => view_finishLogin other⟩

theorem viewsTo_addUserInfo {record : Session} {userInfo : DbUserInfo}
    (valid : isValidZoneId zone = true) (recorded : world.sessions session = some record) :
    ∃ view, (world.view session).Entered view ∧ view.stance = some ⟨zone, false, false⟩ ∧
      ViewsTo session view world
      (((world.publishUser session (newUser (ObjID.user session) userInfo)).getRandomPosition zone
        choice (ObjID.user session)).finishLogin zone choice session false) := by
  have new := isNewUser_newUser (ObjID.user session) userInfo
  rcases viewsTo_published _ _ valid new recorded with ⟨view, entered, lands, views⟩
  refine ⟨view, entered, lands (choice.zoneDraw_zone zone valid), ?_⟩
  exact views.followedBy fun other => view_finishLogin other

/-- A disconnect past the transfer check. -/
theorem viewsTo_leaveWorld {client : Subject} :
    ViewsTo session { world.view session with stance := none, zone := none } world
      (world.leaveWorld zone choice (ObjID.user session) client) := by
  unfold leaveWorld
  dsimp only
  have saved : ∀ other, (((world.sendAll ((world.viewers choice.hash zone client).filter
      fun id => id ≠ ObjID.user session) (.subjectRemoveNfy (ObjID.user session))).removeObject zone
        (ObjID.user session) client.transform).saveUserInfo choice (ObjID.user session)).view
          other = world.view other := by
    intro other
    have quiet : ∀ current : World, Quiet Any zone (ObjID.user session) current
        (current.saveUserInfo choice (ObjID.user session)) :=
      fun current => saveUserInfo_quiet (Quiet.refl current)
    exact ((quiet _).view other).trans view_removeObject
  have gone := viewsTo_leave session (((world.sendAll
    ((world.viewers choice.hash zone client).filter fun id => id ≠ ObjID.user session)
      (.subjectRemoveNfy (ObjID.user session))).removeObject zone (ObjID.user session)
        client.transform).saveUserInfo choice (ObjID.user session))
  rw [saved session] at gone
  exact gone.precededBy saved

end World

end Mmorpg
