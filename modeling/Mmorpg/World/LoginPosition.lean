import Mmorpg.World.AccountRuns
import Mmorpg.World.FollowUp
import Mmorpg.World.FootingRuns
import Mmorpg.World.Placement

/-!
# Where a login puts its user

The database thread chooses the thread of a login from the stored position, and
the login handler places the user there.  Nobody stands in a cell before its
session is in the game, so the new user is in the one cell it was put into, if
it was put into one at all.
-/

namespace Mmorpg

open ZoneLayout Transition

variable {grid : CollisionGrid}

namespace World

variable {zone thread session : Nat} {choice : Choice grid} {own id other : ObjID}
  {world before after : World}

/-- The object is not registered and stands nowhere. -/
structure Absent (id : ObjID) (world : World) : Prop where
  unregistered : world.objects id = none
  outside : ∀ zone sector, id ∉ world.cells zone sector

theorem coreOf_eq_none_iff : world.coreOf id = none ↔ world.objects id = none :=
  Option.map_eq_none_iff

/-- A change that keeps cores and cells keeps the object absent. -/
theorem Absent.of_core (absent : Absent id before) (core : after.coreOf id = before.coreOf id)
    (cells : ∀ zone sector, id ∈ after.cells zone sector ↔ id ∈ before.cells zone sector) :
    Absent id after where
  unregistered := by
    rw [← coreOf_eq_none_iff, core, coreOf_eq_none_iff]
    exact absent.unregistered
  outside zone sector member := absent.outside zone sector ((cells zone sector).mp member)

/-- Changes of another object keep it absent. -/
theorem Apart.absent (apart : Apart other before after) (different : id ≠ other)
    (absent : Absent id before) : Absent id after :=
  absent.of_core (apart.core id different) (apart.cells id different)

theorem Absent.modify {change : Subject → Subject} (absent : Absent id before) :
    Absent id (before.modify other change) where
  unregistered := by
    simp only [World.modify, Function.update_apply]
    split
    · next same => rw [← same, absent.unregistered, Option.map_none]
    · exact absent.unregistered
  outside := absent.outside

theorem Absent.removeObject {transform : Transform} (absent : Absent id before) :
    Absent id (before.removeObject zone other transform) where
  unregistered := by
    rw [(removeObject_removed zone other transform before).objects, absent.unregistered]
    split <;> rfl
  outside otherZone sector member := by
    unfold World.removeObject at member
    split at member
    · have held : id ∈ (before.modifyCell zone transform.sector (Cell.erase other)).cells otherZone
          sector := member
      rw [mem_modifyCell_iff] at held
      split at held
      · exact absent.outside _ _ (Cell.mem_erase_iff.mp held).2
      · exact absent.outside _ _ held
    · exact absent.outside _ _ member

theorem Absent.ne_of_getUser {subject : Subject} {user : User} (absent : Absent id before)
    (found : before.getUser other = some (subject, user)) : id ≠ other := by
  rintro rfl
  rw [getUser_eq_some, absent.unregistered] at found
  exact Option.some_ne_none _ found.1.symm

theorem publishUser_ingame {subject : Subject} (alloc : world.sessionState session = .stAlloc) :
    (world.publishUser session subject).sessionState session = .stIngame := by
  simp only [sessionState, publishUser, modifySession, insertObject, Function.update_self]
  cases recorded : world.sessions session with
  | none => simp [sessionState, recorded] at alloc
  | some record => rfl

/-- Once its session is in the game, an operation leaves it there. -/
theorem Op.ingame (op : Op zone choice own before after) (filed : Filed before)
    (ingame : before.sessionState session = .stIngame) :
    after.sessionState session = .stIngame := by
  have same : after.sessions = before.sessions → after.sessionState session = .stIngame :=
    fun sessions => (sessionState_of_sessions sessions session).trans ingame
  have kept : SameAccounts before after → after.sessionState session = .stIngame :=
    fun accounts => (accounts.states session).trans ingame
  cases op with
  | plain plain => exact same plain.sessions
  | heal found alive => exact ingame
  | store found serves => exact ingame
  | wake valid member =>
    next monsterId wakerId forceWake sector =>
    have quiet : Quiet Any zone own before
        (before.wakeUpMonster zone monsterId wakerId forceWake) :=
      wakeUpMonster_quiet ⟨sector, member⟩ (Quiet.refl before)
    exact same quiet.sessions
  | place valid found => exact kept (SameAccounts.refl before).updatePosition
  | settle valid found placed =>
    exact kept ((SameAccounts.refl before).updateObjectSectorAndPosition placed)
  | arrive category => exact ingame
  | transfer found valid => exact kept (SameAccounts.refl before).handleZoneTransfer
  | leave found => exact (leaveWorld_expels.states session).trans ingame
  | publish alloc free new =>
    next published subject =>
    by_cases here : session = published
    · subst here
      exact publishUser_ingame alloc
    · simp only [sessionState, publishUser, modifySession, insertObject,
        Function.update_of_ne here]
      exact ingame
  | requeue => exact ingame
  | wound valid found alive member category survives => exact ingame
  | slay valid found alive member category attacker fatal slays =>
    next monsterId subject player monster attackerUser damage sector =>
    rcases Option.map_eq_some_iff.mp slays with ⟨dropped, drops, rfl⟩
    have hit : Aside before (before.modifyMonster monsterId fun current =>
        { current with stat := monster.stat.takeDamage damage }) :=
      Aside.modifyMonster (Aside.refl before)
    have nobody := (hit.persons monsterId).trans (personOf_of_monster found)
    exact same ((handleItemDrop_aside drops).sessions.trans
      (killMonster_aside nobody attackerUser).sessions)
  | spawn valid spawned => exact same (spawnFieldItem_aside spawned).sessions
  | pick found =>
    have category := filed.item found
    exact same (removeFieldItem_aside (personOf_of_item found) (by simp [category]) _).sessions
  | hurt => exact ingame
  | hide category => exact kept (SameAccounts.refl before).removeObject
  | mourn category => exact ingame
  | revive => exact ingame
  | tend category keeps => exact ingame
  | raise category healed type => exact ingame
  | step valid found alive => exact kept (SameAccounts.refl before).updatePosition
  | schedule category kind => exact ingame

/-- An operation registers and seats nobody but the user of a session that
enters the game. -/
theorem Op.absent (op : Op zone choice own before after) (filed : Filed before)
    (absent : Absent (ObjID.user session) before) :
    Absent (ObjID.user session) after ∨ after.sessionState session = .stIngame := by
  have notMonster : ∀ {monsterId : ObjID}, monsterId.category = .eMonster →
      ObjID.user session ≠ monsterId := by
    rintro monsterId isMonster rfl
    contradiction
  have notItem : ∀ {itemId : ObjID}, itemId.category = .eItem → ObjID.user session ≠ itemId := by
    rintro itemId isItem rfl
    contradiction
  cases op with
  | plain plain =>
    exact .inl (absent.of_core (plain.core _) fun zone sector => by rw [plain.cells])
  | heal found alive => exact .inl absent.modify
  | store found serves => exact .inl ((setInventory_apart _ _).absent (absent.ne_of_getUser found) absent)
  | wake valid member =>
    refine .inl (wakeUpMonster_apart.absent ?_ absent)
    rintro rfl
    exact absent.outside _ _ member
  | place valid found =>
    exact .inl ((Apart.refl _ before).updatePosition.absent (absent.ne_of_getUser found) absent)
  | settle valid found placed =>
    exact .inl (((Apart.refl _ before).updateObjectSectorAndPosition placed).absent
      (absent.ne_of_getUser found) absent)
  | arrive category => exact .inl absent.modify
  | transfer found valid =>
    exact .inl (handleZoneTransfer_apart.absent (absent.ne_of_getUser found) absent)
  | leave found => exact .inl (leaveWorld_apart.absent (absent.ne_of_getUser found) absent)
  | publish alloc free new =>
    next published subject =>
    by_cases here : session = published
    · subst here
      exact .inr (publishUser_ingame alloc)
    · have different : ObjID.user session ≠ ObjID.user published :=
        fun same => here (ObjID.user_inj.mp same)
      exact .inl ((publishUser_apart published subject).absent different absent)
  | requeue => exact .inl ⟨absent.unregistered, absent.outside⟩
  | wound valid found alive member category survives => exact .inl absent.modify
  | slay valid found alive member category attacker fatal slays =>
    rcases slain_apart slays with ⟨itemId, middle, isItem, first, dropped, second, third⟩
    have different := notMonster (filed.monster found)
    exact .inl (third.absent different (second.absent (notItem isItem)
      (first.absent different absent)))
  | spawn valid spawned => exact .inl ((spawnFieldItem_apart spawned).2.absent (notItem rfl) absent)
  | pick found =>
    exact .inl (removeFieldItem_apart.absent (notItem (filed.item found)) absent)
  | hurt => exact .inl absent.modify
  | hide category => exact .inl absent.removeObject
  | mourn category => exact .inl ⟨absent.unregistered, absent.outside⟩
  | revive => exact .inl absent.modify
  | tend category keeps => exact .inl absent.modify
  | raise category healed type => exact .inl absent.modify
  | step valid found alive =>
    exact .inl ((Apart.refl _ before).updatePosition.absent (notMonster (filed.monster found)) absent)
  | schedule category kind => exact .inl ⟨absent.unregistered, absent.outside⟩

/-- Whose session is not in the game is absent. -/
def Vacant (world : World) : Prop :=
  ∀ session, world.sessionState session ≠ .stIngame → Absent (ObjID.user session) world

/-- No operation lets a user stand in the grid before its session is in the
game. -/
theorem Op.vacant (op : Op zone choice own before after) (filed : Filed before)
    (vacant : Vacant before) : Vacant after := by
  intro session outside
  have away : before.sessionState session ≠ .stIngame :=
    fun ingame => outside (op.ingame filed ingame)
  rcases op.absent filed (vacant session away) with absent | ingame
  · exact absent
  · exact absurd ingame outside

theorem exec_vacant {task : Task} (mapped : Mapped world) (vacant : Vacant world)
    (ran : world.exec thread choice task = some after) : Vacant after :=
  (Script.keeps (fun current => Mapped current ∧ Vacant current)
    (fun _ _ op both => ⟨op.mapped both.1, op.vacant both.1.filed both.2⟩)
    (exec_script mapped.filed ran) ⟨mapped, vacant⟩).2

theorem boot_vacant (count : Nat) (draw : Nat → Int × Int) : Vacant (boot count draw) := by
  intro session _
  apply boot_invariant fun _ world => Absent (ObjID.user session) world
  · exact ⟨rfl, fun _ _ => List.not_mem_nil⟩
  · intro done index world _ _ absent
    exact (initMonster_apart draw index).absent (by simp [ObjID.user, ObjID.monster]) absent

/-! ## One login -/

/-- The session's user stands on a free tile of the zone of the thread, in one
cell of its grid, and was told so. -/
structure Restored (grid : CollisionGrid) (thread session : Nat) (subject : Subject)
    (before after : World) : Prop where
  zoneThread : isValidZoneId thread = true
  registered : after.objects (ObjID.user session) = some subject
  standable : isStandable grid subject.x subject.y = true
  cell : ∀ zone sector, ObjID.user session ∈ after.cells zone sector ↔
    zone = thread ∧ sector = Sector.getSectorCoord subject.x subject.y
  zoneId : subject.transform.zoneId = thread
  mapped : after.objectZones (ObjID.user session) = some thread
  routed : ∃ record, after.sessions session = some record ∧ record.routingZoneId = thread
  answered : ∃ stat rest, after.outbox = before.outbox ++
    (session, loginAckPacket (ObjID.user session) subject stat) :: rest

/-- The first packet of a login is its answer. -/
theorem finishLogin_answers (zone : Nat) (choice : Choice grid) {subject : Subject} {user : User}
    (withItems : Bool) (found : world.getUser (ObjID.user session) = some (subject, user)) :
    Quiet Any zone (ObjID.user session) world
        (world.finishLogin zone choice session withItems) ∧
      ∃ rest, (world.finishLogin zone choice session withItems).outbox = world.outbox ++
        (session, loginAckPacket (ObjID.user session) subject user.stat) :: rest := by
  have answered : Quiet Any zone (ObjID.user session) world
      (world.send (ObjID.user session) (loginAckPacket (ObjID.user session) subject user.stat)) :=
    (Quiet.refl world).send trivial
  have finished : Quiet Any zone (ObjID.user session)
      (world.send (ObjID.user session) (loginAckPacket (ObjID.user session) subject user.stat))
      (world.finishLogin zone choice session withItems) := by
    unfold finishLogin
    dsimp only
    rw [found]
    apply notifyPlayerEnteredWorld_quiet
    apply Quiet.scheduleAfter rfl (.inl rfl)
    split
    · exact Quiet.send trivial (Quiet.refl _)
    · exact Quiet.refl _
  constructor
  · exact answered.trans finished
  · rcases finished.outbox with ⟨rest, outbox, _⟩
    exact ⟨rest, outbox.trans (List.append_assoc _ _ _)⟩

/-- A user is placed on the tile that was stored, or on a random one. -/
theorem placeLoadedUser_eq (zone session : Nat) (choice : Choice grid) (userInfo : DbUserInfo)
    (world : World) :
    ∃ requests, world.placeLoadedUser zone choice session userInfo =
      { world.updatePosition zone (ObjID.user session) (loadedTile choice userInfo).1
          (loadedTile choice userInfo).2 with dbRequests := requests } := by
  unfold placeLoadedUser loadedTile
  dsimp only
  split
  · exact ⟨_, rfl⟩
  · split
    · exact ⟨_, rfl⟩
    · exact ⟨_, rfl⟩

/-- A stored position that nobody can stand on is replaced by one that is free. -/
theorem loadedTile_standable (choice : Choice grid) (userInfo : DbUserInfo) :
    isStandable grid (loadedTile choice userInfo).1 (loadedTile choice userInfo).2 = true := by
  unfold loadedTile
  split
  · next stored => exact stored
  · exact isStandable_iff.mpr choice.worldDraw_free

theorem handleGetUserInfo_eq {userInfo : DbUserInfo} {items : List DbItemInfo}
    (alloc : world.sessionState session = .stAlloc)
    (free : world.objects (ObjID.user session) = none) :
    world.handleGetUserInfo zone choice session userInfo items =
      ((world.publishUser session (loadedUser choice.slots (ObjID.user session) userInfo
        items)).placeLoadedUser zone choice session userInfo).finishLogin zone choice session
          true := by
  rw [handleGetUserInfo, if_neg (not_not.mpr alloc), if_neg (by simp [free])]

theorem exists_record_of_alloc (alloc : world.sessionState session = .stAlloc) :
    ∃ record, world.sessions session = some record := by
  cases recorded : world.sessions session with
  | none => simp [sessionState, recorded] at alloc
  | some record => exact ⟨record, rfl⟩

/-- What `finishLogin` leaves alone is left as the placing made it. -/
theorem Restored.finished {placed : World} {subject : Subject} {user : User}
    (valid : isValidZoneId thread = true) (outbox : placed.outbox = before.outbox)
    (found : placed.getUser (ObjID.user session) = some (subject, user))
    (standable : isStandable grid subject.x subject.y = true)
    (cell : ∀ zone sector, ObjID.user session ∈ placed.cells zone sector ↔
      zone = thread ∧ sector = Sector.getSectorCoord subject.x subject.y)
    (zoneId : subject.transform.zoneId = thread)
    (mapped : placed.objectZones (ObjID.user session) = some thread)
    (routed : ∃ record, placed.sessions session = some record ∧ record.routingZoneId = thread) :
    ∃ seated, Restored grid thread session seated before
      (placed.finishLogin thread choice session true) := by
  rcases finishLogin_answers thread choice true found with ⟨quiet, rest, answered⟩
  have registered := (getUser_eq_some.mp found).1
  rcases standingOf_eq_some.mp ((quiet.standing _).trans (standingOf_of_objects registered)) with
    ⟨seated, stays, same⟩
  have transform : seated.transform = subject.transform := congrArg Standing.transform same
  have x : seated.x = subject.x := congrArg Transform.x transform
  have y : seated.y = subject.y := congrArg Transform.y transform
  refine ⟨seated, valid, stays, ?_, ?_, ?_, ?_, ?_, ?_⟩
  · rw [x, y]
    exact standable
  · rw [quiet.cells, x, y]
    exact cell
  · rw [transform]
    exact zoneId
  · rw [quiet.objectZones]
    exact mapped
  · rw [quiet.sessions]
    exact routed
  · refine ⟨user.stat, rest, ?_⟩
    rw [answered, outbox, loginAckPacket, loginAckPacket, x, y]

/-- A tile in the zone of the thread is taken. -/
theorem handleGetUserInfo_restores {userInfo : DbUserInfo} (items : List DbItemInfo)
    (alloc : world.sessionState session = .stAlloc)
    (absent : Absent (ObjID.user session) world) (valid : isValidZoneId thread = true)
    (lands : getZoneIdByWorld (loadedTile choice userInfo).1 (loadedTile choice userInfo).2 =
      thread) :
    ∃ seated, Restored grid thread session seated world
      (world.handleGetUserInfo thread choice session userInfo items) := by
  rw [handleGetUserInfo_eq alloc absent.unregistered]
  rcases exists_record_of_alloc alloc with ⟨record, recorded⟩
  have new := isNewUser_loadedUser choice.slots (ObjID.user session) userInfo items
  rcases new.user with ⟨user, body, _⟩
  generalize loadedUser choice.slots (ObjID.user session) userInfo items = subject at new body ⊢
  have registered : (world.publishUser session subject).objects (ObjID.user session) =
      some subject := by
    simp [publishUser, modifySession, insertObject]
  have tracked : Tracked thread (ObjID.user session) subject.transform
      (world.publishUser session subject) := by
    intro zone sector
    constructor
    · exact fun member => absurd member (absent.outside zone sector)
    · rintro ⟨_, rfl, inside⟩
      rw [new.transform, isValidSector_unassigned valid] at inside
      contradiction
  have settled := updatePosition_settled valid registered lands
  rcases placeLoadedUser_eq thread session choice userInfo (world.publishUser session subject) with
    ⟨requests, placed⟩
  rw [placed]
  have found : getUser (ObjID.user session) { (world.publishUser session subject).updatePosition
      thread (ObjID.user session) (loadedTile choice userInfo).1 (loadedTile choice userInfo).2 with
        dbRequests := requests } = some (subject.placedAt thread (loadedTile choice userInfo).1
          (loadedTile choice userInfo).2, user) := by
    apply getUser_eq_some.mpr
    refine ⟨?_, body⟩
    rw [settled.objects, Function.update_self]
  refine Restored.finished valid ?_ found ?_ ?_ ?_ ?_ ?_
  · exact settled.outbox
  · exact loadedTile_standable choice userInfo
  · exact settled.own tracked
  · rfl
  · rw [settled.objectZones, new.transform, if_neg, Function.update_self]
    rintro rfl
    simp at valid
  · refine ⟨{ record with state := .stIngame, routingZoneId := thread }, ?_, rfl⟩
    rw [settled.sessions, if_pos (ObjID.user_category session)]
    simp [setRoutingZoneId, modifySession, publishUser, insertObject, recorded]

/-- A tile of another zone is refused, and the user stands nowhere. -/
theorem handleGetUserInfo_unseated {userInfo : DbUserInfo} (items : List DbItemInfo)
    (alloc : world.sessionState session = .stAlloc)
    (absent : Absent (ObjID.user session) world) (valid : isValidZoneId thread = true)
    (misses : getZoneIdByWorld (loadedTile choice userInfo).1 (loadedTile choice userInfo).2 ≠
      thread) (zone : Nat) (sector : SectorCoord) :
    ObjID.user session ∉
      (world.handleGetUserInfo thread choice session userInfo items).cells zone sector := by
  rw [handleGetUserInfo_eq alloc absent.unregistered]
  have new := isNewUser_loadedUser choice.slots (ObjID.user session) userInfo items
  generalize loadedUser choice.slots (ObjID.user session) userInfo items = subject at new ⊢
  rcases getUser_publishUser session new world with ⟨user, published⟩
  rcases placeLoadedUser_eq thread session choice userInfo (world.publishUser session subject) with
    ⟨requests, placed⟩
  rw [updatePosition_outside valid misses] at placed
  have found : ((world.publishUser session subject).placeLoadedUser thread choice session
      userInfo).getUser (ObjID.user session) = some (subject, user) := by
    rw [placed]
    exact published
  rw [(finishLogin_answers thread choice true found).1.cells, placed]
  exact absent.outside zone sector

/-- The user stands where it was saved exactly if the tile belongs to the
thread. -/
theorem handleGetUserInfo_restores_iff {userInfo : DbUserInfo} (items : List DbItemInfo)
    (alloc : world.sessionState session = .stAlloc)
    (absent : Absent (ObjID.user session) world) (valid : isValidZoneId thread = true) :
    (∃ seated, Restored grid thread session seated world
        (world.handleGetUserInfo thread choice session userInfo items)) ↔
      getZoneIdByWorld (loadedTile choice userInfo).1 (loadedTile choice userInfo).2 = thread := by
  constructor
  · rintro ⟨seated, restored⟩
    have member := (restored.cell thread _).mpr ⟨rfl, rfl⟩
    by_contra misses
    exact handleGetUserInfo_unseated items alloc absent valid misses thread _ member
  · exact handleGetUserInfo_restores items alloc absent valid

end World

namespace Server


open World

variable {collate : String → String} {label : Label grid} {before after server : Server collate}

/-- Every step keeps the grid free of users that are not in the game. -/
theorem step_vacant (mapped : Mapped before.world) (enrolled : before.Enrolled)
    (vacant : Vacant before.world) (taken : step label before = some after) :
    Vacant after.world := by
  cases label with
  | run thread choice =>
    simp only [step, runThread] at taken
    split at taken
    · contradiction
    · next task rest queued =>
      rcases Option.map_eq_some_iff.mp taken with ⟨world, ran, rfl⟩
      have poppedMapped : Mapped (before.world.popped thread rest) :=
        mapped.congr rfl rfl rfl rfl
      have poppedVacant : Vacant (before.world.popped thread rest) := fun session outside =>
        ⟨(vacant session outside).unregistered, (vacant session outside).outside⟩
      exact exec_vacant poppedMapped poppedVacant ran
  | _ =>
    intro session outside
    rcases step_objects taken fun _ _ => by simp with ⟨objects, cells⟩
    have away : before.world.sessionState session ≠ .stIngame :=
      fun ingame => outside ((step_enrolled enrolled taken).2.ingame session ingame)
    have absent := vacant session away
    exact ⟨objects ▸ absent.unregistered, cells ▸ absent.outside⟩

/-- A login waits for the thread of the stored position. -/
def LoginsRouted (server : Server collate) : Prop :=
  ∀ thread session userInfo items,
    Task.getUserInfo session userInfo items ∈ server.world.queues thread →
      thread = threadOf (getZoneIdByWorld userInfo.x userInfo.y)

theorem followUp_ne_getUserInfo {choice : Choice grid} {task : Task} {world : World}
    {zoneId session : Nat} {userInfo : DbUserInfo} {items : List DbItemInfo} :
    world.followUp choice task ≠ some (zoneId, .getUserInfo session userInfo items) := by
  intro follows
  unfold followUp at follows
  split at follows
  · split at follows
    · contradiction
    · split at follows
      · simp at follows
      · contradiction
  · split at follows
    · contradiction
    · split at follows
      · simp at follows
      · contradiction
  · contradiction

/-- The answer of a login goes to the zone of the stored position. -/
theorem zone_of_puts {zoneId session : Nat} {userInfo : DbUserInfo} {items : List DbItemInfo}
    (put : before.puts label = some (zoneId, .getUserInfo session userInfo items)) :
    zoneId = getZoneIdByWorld userInfo.x userInfo.y := by
  unfold puts at put
  split at put
  · contradiction
  · simp at put
  · split at put
    · simp at put
    · simp at put
  · simp at put
  · unfold handsOver at put
    split at put
    · split at put
      · obtain ⟨rfl, same⟩ := Prod.mk.inj (Option.some.inj put)
        obtain ⟨_, rfl, _⟩ := Task.getUserInfo.inj same
        rfl
      · simp at put
      · contradiction
    · contradiction
  · split at put
    · contradiction
    · exact absurd put followUp_ne_getUserInfo

/-- Every step routes logins by their positions. -/
theorem step_loginsRouted (filed : Filed before.world) (routed : before.LoginsRouted)
    (taken : step label before = some after) : after.LoginsRouted := by
  intro thread session userInfo items member
  rcases mem_queues_of_step filed taken member with old | ⟨zoneId, put, rfl⟩
  · exact routed thread session userInfo items old
  · rw [zone_of_puts put]

/-- What every reachable state knows about logins. -/
structure AwaitsLogins (server : Server collate) : Prop where
  mapped : Mapped server.world
  enrolled : server.Enrolled
  vacant : Vacant server.world
  routed : server.LoginsRouted

/-- Every step keeps the logins that wait in order. -/
theorem step_awaitsLogins (awaits : before.AwaitsLogins) (taken : step label before = some after) :
    after.AwaitsLogins where
  mapped := step_mapped taken awaits.mapped
  enrolled := (step_enrolled awaits.enrolled taken).1
  vacant := step_vacant awaits.mapped awaits.enrolled awaits.vacant taken
  routed := step_loginsRouted awaits.enrolled.filed awaits.routed taken

/-- The logins that wait are in order in every state. -/
theorem run_awaitsLogins {count : Nat} {draw : Nat → Int × Int} {store : Store collate}
    {labels : List (Label grid)} (ran : run step labels (boot count draw store) = some server) :
    server.AwaitsLogins := by
  apply invariant_of_run (fun _ _ _ taken awaits => step_awaitsLogins awaits taken) ran
  constructor
  case mapped => exact boot_mapped count draw
  case enrolled => exact boot_enrolled count draw store
  case vacant => exact boot_vacant count draw
  case routed =>
    intro thread session userInfo items member
    rw [show (boot count draw store).world.queues = _ from (boot_aside count draw).queues] at member
    exact absurd member List.not_mem_nil

/-- The login task of a session that is not in the game, on the thread of the
stored position. -/
theorem exec_getUserInfo_restores_iff {world : World} {thread session : Nat}
    {userInfo : DbUserInfo} (items : List DbItemInfo) (choice : Choice grid)
    (alloc : world.sessionState session = .stAlloc) (absent : Absent (ObjID.user session) world)
    (routed : thread = threadOf (getZoneIdByWorld userInfo.x userInfo.y)) :
    (∃ after seated, world.exec thread choice (.getUserInfo session userInfo items) = some after ∧
        Restored grid thread session seated world after) ↔
      isStandable grid userInfo.x userInfo.y = true ∨
        getZoneIdByWorld choice.worldDraw.1 choice.worldDraw.2 =
          getZoneIdByWorld userInfo.x userInfo.y := by
  have handled : isValidZoneId thread = true →
      world.exec thread choice (.getUserInfo session userInfo items) =
        some (world.handleGetUserInfo thread choice session userInfo items) := by
    intro valid
    rw [exec, if_neg (not_not.mpr alloc), onSector, if_pos valid]
  constructor
  · rintro ⟨after, seated, ran, restored⟩
    have valid := restored.zoneThread
    rw [handled valid] at ran
    obtain rfl := Option.some.inj ran
    have lands := (handleGetUserInfo_restores_iff items alloc absent valid).mp ⟨seated, restored⟩
    have home : getZoneIdByWorld userInfo.x userInfo.y = thread := by
      rw [routed, threadOf] at valid ⊢
      split at valid
      · next known => rw [if_pos known]
      · simp at valid
    unfold loadedTile at lands
    split at lands
    · next stored => exact .inl stored
    · exact .inr (lands.trans home.symm)
  · intro playable
    have home : isValidZoneId (getZoneIdByWorld userInfo.x userInfo.y) = true := by
      rcases playable with stored | drawn
      · have known := isValidZoneId_of_clear (isStandable_iff.mp stored)
        exact known
      · have known : isValidZoneId (getZoneIdByWorld choice.worldDraw.1 choice.worldDraw.2) = true :=
          isValidZoneId_of_clear choice.worldDraw_free
        exact drawn ▸ known
    rw [threadOf_valid home] at routed
    subst routed
    have lands : getZoneIdByWorld (loadedTile choice userInfo).1 (loadedTile choice userInfo).2 =
        getZoneIdByWorld userInfo.x userInfo.y := by
      unfold loadedTile
      split
      · rfl
      · next blocked => exact playable.resolve_left blocked
    rcases (handleGetUserInfo_restores_iff items alloc absent home).mpr lands with
      ⟨seated, restored⟩
    exact ⟨_, seated, handled home, restored⟩

/-- A waiting login restores its user exactly when the stored position can be
stood on, or the tile drawn in its place lies in the zone of the stored
position. -/
theorem login_restores_iff {count : Nat} {draw : Nat → Int × Int} {store : Store collate}
    {labels : List (Label grid)} (ran : run step labels (boot count draw store) = some server)
    {thread session : Nat} {userInfo : DbUserInfo} {items : List DbItemInfo} {rest : List Task}
    (queued : server.world.queues thread = .getUserInfo session userInfo items :: rest)
    (alloc : server.world.sessionState session = .stAlloc) (choice : Choice grid) :
    (∃ next seated, step (.run thread choice) server = some next ∧
        Restored grid thread session seated server.world next.world) ↔
      isStandable grid userInfo.x userInfo.y = true ∨
        getZoneIdByWorld choice.worldDraw.1 choice.worldDraw.2 =
          getZoneIdByWorld userInfo.x userInfo.y := by
  have awaits := run_awaitsLogins ran
  have routed := awaits.routed thread session userInfo items (queued ▸ List.mem_cons_self)
  have vacant := awaits.vacant session (by simp [alloc])
  have absent : Absent (ObjID.user session) (server.world.popped thread rest) :=
    ⟨vacant.unregistered, vacant.outside⟩
  have free : (server.world.popped thread rest).sessionState session = .stAlloc := alloc
  rw [← exec_getUserInfo_restores_iff items choice free absent routed]
  have taken : step (.run thread choice) server =
      ((server.world.popped thread rest).exec thread choice (.getUserInfo session userInfo
        items)).map fun world => { server with world := world } := by
    simp only [step, runThread, queued]
  rw [taken]
  constructor
  · rintro ⟨next, seated, ran, restored⟩
    rcases Option.map_eq_some_iff.mp ran with ⟨after, handled, rfl⟩
    exact ⟨after, seated, handled, { restored with }⟩
  · rintro ⟨after, seated, ran, restored⟩
    exact ⟨_, seated, Option.map_eq_some_iff.mpr ⟨after, ran, rfl⟩, { restored with }⟩

/-- A stored player asks to log in. -/
def knock : List (Label initCollisionTile) :=
  [.accept, .receive 1 (.userLoginReq "kim" ""), .run invalidZoneId .steady, .database 0 {} true]

/-- A stored player logs in and stands where it was saved. -/
theorem login_restores_iff_sample : ∃ server next seated,
    run step knock (boot 0 World.steadyDraw World.savedStore) = some server ∧
      step (.run 0 .steady) server = some next ∧
        Restored initCollisionTile 0 1 seated server.world next.world := by
  have completes : (run step knock (boot 0 World.steadyDraw World.savedStore)).isSome := by rfl
  rcases Option.isSome_iff_exists.mp completes with ⟨server, ran⟩
  obtain ⟨items, queued⟩ : ∃ items, server.world.queues 0 =
      [.getUserInfo 1 ⟨1, "kim", "", 9, 9, 3, 12⟩ items] := by
    obtain rfl := Option.some.inj ran
    exact ⟨_, rfl⟩
  have alloc : server.world.sessionState 1 = .stAlloc := by
    obtain rfl := Option.some.inj ran
    rfl
  rcases (login_restores_iff ran queued alloc .steady).mpr (.inl (by decide)) with
    ⟨next, seated, taken, restored⟩
  exact ⟨server, next, seated, ran, taken, restored⟩

/-- A player who was saved outside the world. -/
def strayedStore : Store id where
  players :=
    { rows := [⟨1, "kim", "", 2000, 7, 3, 12⟩]
      nextId := 5
      primaryKey := by decide
      uniqueNames := by decide
      identity := by simp
      one_le_nextId := by decide }
  inventory := savedStore.inventory

/-- A login in reach of its thread that leaves nobody restored. -/
def Strands (thread : Nat) (store : Store id) : Prop :=
  ∃ server, run step knock (boot 0 World.steadyDraw store) = some server ∧
    (∃ userInfo items, server.world.queues thread = [.getUserInfo 1 userInfo items]) ∧
      server.world.sessionState 1 = .stAlloc ∧
        ¬∃ next seated, step (.run thread .steady) server = some next ∧
          Restored initCollisionTile thread 1 seated server.world next.world

/-- The tile drawn for a blocked position may lie in another zone, and a
position outside the world sends the login to the thread without a grid. -/
theorem not_login_restores : Strands 1 obstructedStore ∧ Strands invalidZoneId strayedStore := by
  constructor
  · refine ⟨_, rfl, ⟨_, _, rfl⟩, rfl, ?_⟩
    rintro ⟨next, seated, taken, restored⟩
    obtain rfl := Option.some.inj taken
    have misplaced := restored.zoneId
    rw [← Option.some.inj restored.registered] at misplaced
    exact absurd misplaced (by decide)
  · refine ⟨_, rfl, ⟨_, _, rfl⟩, rfl, ?_⟩
    rintro ⟨next, seated, taken, restored⟩
    have valid := restored.zoneThread
    simp at valid

end Server

end Mmorpg
