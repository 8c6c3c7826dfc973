import Mmorpg.World.SessionSteps
import Mmorpg.World.ZoneMap
import Mmorpg.Transition.Pending

/-!
# Zone transfers over whole runs

A user is between two zones exactly as long as one entry task is pending for
it, in the queue of the zone its transform names; and it is dead exactly as
long as one respawn of it is pending.
-/

namespace Mmorpg

open ZoneLayout Transition

variable {grid : CollisionGrid}

namespace View

/-- The pending tasks of a registered user. -/
structure Moored (session : Nat) (view : View) (stance : Stance) : Prop where
  away : stance.transferring = true → isValidZoneId stance.zoneId = true
  entering : ∀ thread, (view.waiting thread).countP (Task.enters session) =
    if stance.transferring = true ∧ thread = stance.zoneId then 1 else 0
  elsewhere : ∀ thread, thread ≠ World.threadOf stance.zoneId →
    (view.waiting thread).countP (Task.respawns session) = 0
  respawning : view.respawns +
    (view.waiting (World.threadOf stance.zoneId)).countP (Task.respawns session) =
      if stance.dead = true then 1 else 0

/-- The pending tasks of a session without a user. -/
structure Vacant (session : Nat) (view : View) : Prop where
  entering : ∀ thread, (view.waiting thread).countP (Task.enters session) = 0
  respawning : ¬view.ingame → view.respawns = 0 ∧
    ∀ thread, (view.waiting thread).countP (Task.respawns session) = 0

/-- A session with a player is moored, and one without is vacant. -/
def Accounted (session : Nat) (view : View) : Prop :=
  match view.stance with
  | some stance => view.Moored session stance
  | none => view.Vacant session

variable {session : Nat} {view other : View} {stance : Stance}

theorem Accounted.moored (accounted : view.Accounted session)
    (stands : view.stance = some stance) : view.Moored session stance := by
  unfold Accounted at accounted
  rw [stands] at accounted
  exact accounted

theorem Accounted.vacant (accounted : view.Accounted session) (absent : view.stance = none) :
    view.Vacant session := by
  unfold Accounted at accounted
  rw [absent] at accounted
  exact accounted

theorem Moored.accounted (moored : view.Moored session stance)
    (stands : view.stance = some stance) : view.Accounted session := by
  unfold Accounted
  rw [stands]
  exact moored

theorem Vacant.accounted (vacant : view.Vacant session) (absent : view.stance = none) :
    view.Accounted session := by
  unfold Accounted
  rw [absent]
  exact vacant

/-- Only the numbers of pending entries and respawns count. -/
theorem Accounted.congr (accounted : view.Accounted session) (stance : other.stance = view.stance)
    (ingame : view.ingame → other.ingame)
    (entering : ∀ thread, (other.waiting thread).countP (Task.enters session) =
      (view.waiting thread).countP (Task.enters session))
    (respawning : ∀ thread, (other.waiting thread).countP (Task.respawns session) =
      (view.waiting thread).countP (Task.respawns session))
    (respawns : other.respawns = view.respawns) : other.Accounted session := by
  cases stands : view.stance with
  | some here =>
    have moored := accounted.moored stands
    refine Moored.accounted ?_ (stance.trans stands)
    constructor
    · exact moored.away
    · exact fun thread => (entering thread).trans (moored.entering thread)
    · exact fun thread away => (respawning thread).trans (moored.elsewhere thread away)
    · rw [respawns, respawning]
      exact moored.respawning
  | none =>
    have vacant := accounted.vacant stands
    refine Vacant.accounted ?_ (stance.trans stands)
    constructor
    · exact fun thread => (entering thread).trans (vacant.entering thread)
    · intro outside
      have idle := vacant.respawning fun inside => outside (ingame inside)
      exact ⟨respawns.trans idle.1, fun thread => (respawning thread).trans (idle.2 thread)⟩

/-- A living user between no zones has nothing pending. -/
theorem Moored.idle (moored : view.Moored session stance) (still : stance.transferring = false)
    (alive : stance.dead = false) :
    (∀ thread, (view.waiting thread).countP (Task.enters session) = 0) ∧ view.respawns = 0 ∧
      ∀ thread, (view.waiting thread).countP (Task.respawns session) = 0 := by
  have total := moored.respawning
  rw [alive, if_neg (by decide)] at total
  refine ⟨?_, by omega, ?_⟩
  · intro thread
    rw [moored.entering, still]
    simp
  · intro thread
    by_cases home : thread = World.threadOf stance.zoneId
    · subst home
      omega
    · exact moored.elsewhere thread home

end View

namespace World

variable {thread session : Nat} {choice : Choice grid} {task : Task} {rest : List Task}
  {world after : World}

theorem isAbout_of_enters (enters : task.enters session = true) :
    task.isAbout session = true := by
  simp [Task.isAbout, enters]

theorem isAbout_of_respawns (respawns : task.respawns session = true) :
    task.isAbout session = true := by
  simp [Task.isAbout, respawns]

/-- Tasks about the session are counted in the whole queue. -/
theorem countP_waiting {counted : Task → Bool} (world : World)
    (about : ∀ other, counted other = true → other.isAbout session = true) (place : Nat) :
    ((world.view session).waiting place).countP counted =
      (world.queues place).countP counted := by
  rw [view, List.countP_filter]
  apply List.countP_congr
  intro other _
  constructor
  · intro both
    exact (Bool.and_eq_true_iff.mp both).1
  · intro counts
    exact Bool.and_eq_true_iff.mpr ⟨counts, about other counts⟩

/-- Taking the head of a queue takes it from the counts. -/
theorem countP_waiting_pop {counted : Task → Bool} (queued : world.queues thread = task :: rest)
    (about : ∀ other, counted other = true → other.isAbout session = true) (place : Nat) :
    ((world.view session).waiting place).countP counted =
      ((({ world with queues := Function.update world.queues thread rest } : World).view
        session).waiting place).countP counted +
          if place = thread ∧ counted task = true then 1 else 0 := by
  rw [countP_waiting _ about, countP_waiting _ about]
  exact countP_pop counted queued place

/-- The entries that wait, before and after a task is taken. -/
theorem countP_enters_pop (session : Nat) (queued : world.queues thread = task :: rest)
    (place : Nat) :
    ((world.view session).waiting place).countP (Task.enters session) =
      ((({ world with queues := Function.update world.queues thread rest } : World).view
        session).waiting place).countP (Task.enters session) +
          if place = thread ∧ task.enters session = true then 1 else 0 :=
  countP_waiting_pop queued (fun _ => isAbout_of_enters) place

/-- The respawns that wait, before and after a task is taken. -/
theorem countP_respawns_pop (session : Nat) (queued : world.queues thread = task :: rest)
    (place : Nat) :
    ((world.view session).waiting place).countP (Task.respawns session) =
      ((({ world with queues := Function.update world.queues thread rest } : World).view
        session).waiting place).countP (Task.respawns session) +
          if place = thread ∧ task.respawns session = true then 1 else 0 :=
  countP_waiting_pop queued (fun _ => isAbout_of_respawns) place

/-- A task that is neither entry nor respawn leaves the accounts when it is
taken from its queue. -/
theorem accounted_pop (queued : world.queues thread = task :: rest)
    (noEntry : task.enters session = false) (noRespawn : task.respawns session = false)
    (accounted : (world.view session).Accounted session) :
    (({ world with queues := Function.update world.queues thread rest } : World).view
      session).Accounted session := by
  refine accounted.congr rfl id ?_ ?_ rfl
  · intro place
    rw [countP_enters_pop _ queued place, noEntry]
    simp
  · intro place
    rw [countP_respawns_pop _ queued place, noRespawn]
    simp

/-! ## Tasks -/

/-- What the accounts rest on: the copies of every zone agree. -/
structure Handed (world : World) : Prop where
  mapped : Mapped world
  accounted : ∀ session, (world.view session).Accounted session

/-- The stance of a registered user and its session. -/
theorem Mapped.stands {client : Subject} {user : User} (mapped : Mapped world)
    (found : world.getUser (ObjID.user session) = some (client, user)) :
    (world.view session).stance =
        some ⟨client.transform.zoneId, client.transform.transferring, user.stat.dead⟩ ∧
      world.sessions session = some ⟨.stIngame, client.transform.zoneId⟩ := by
  refine ⟨stance_eq_some.mpr ⟨client, user, found, rfl⟩, ?_⟩
  exact mapped.routing session _ _ (siteOf_of_objects (getUser_eq_some.mp found).1)

/-- Users are registered under their sessions. -/
theorem Mapped.user {id : ObjID} {client : Subject} {user : User} (mapped : Mapped world)
    (found : world.getUser id = some (client, user)) : id = ObjID.user id.databaseId :=
  user_eq_of_category (mapped.filed.user found) rfl

/-- The view of one session changed; the accounts of all others stand. -/
theorem accounted_of_viewsTo {new : View} (views : ViewsTo session new world after)
    (own : new.Accounted session)
    (accounted : ∀ other, other ≠ session → (world.view other).Accounted other) (other : Nat) :
    (after.view other).Accounted other := by
  rw [views other]
  split
  · next same => exact same ▸ own
  · next different => exact accounted other different

/-- A transfer of a living user that is between no zones. -/
theorem moored_of_transfer {newZoneId : Nat} {x y : Int} {view new : View} {stance : Stance}
    (valid : isValidZoneId newZoneId = true) (moored : view.Moored session stance)
    (still : stance.transferring = false) (alive : stance.dead = false)
    (waiting : new.waiting = Function.update view.waiting newZoneId
      (view.waiting newZoneId ++ [.enterZone (ObjID.user session) x y]))
    (respawns : new.respawns = view.respawns) :
    new.Moored session ⟨newZoneId, true, false⟩ := by
  have idle := moored.idle still alive
  have isEntry : (Task.enterZone (ObjID.user session) x y).enters session = true := by
    simp [Task.enters]
  have noRespawn : (Task.enterZone (ObjID.user session) x y).respawns session = false := rfl
  constructor
  case away => exact fun _ => valid
  case entering =>
    intro thread
    rw [waiting, countP_push, idle.1 thread, isEntry]
    simp
  case elsewhere =>
    intro thread _
    rw [waiting, countP_push, idle.2.2 thread, noRespawn]
    simp
  case respawning =>
    rw [respawns, waiting, countP_push, idle.2.2, idle.2.1, noRespawn]
    simp

theorem handlePlayerMove_accounted {x y : Int} {client : Subject} {user : User}
    (handed : Handed world) (valid : isValidZoneId thread = true)
    (found : world.getUser (ObjID.user session) = some (client, user))
    (still : client.transform.transferring = false) (alive : user.stat.dead = false)
    (other : Nat) :
    ((world.handlePlayerMove thread choice (ObjID.user session) x y).view other).Accounted
      other := by
  obtain ⟨stands, recorded⟩ := handed.mapped.stands found
  have moored := (handed.accounted session).moored stands
  unfold handlePlayerMove
  rw [found]
  dsimp only
  split
  · next crossing =>
    refine accounted_of_viewsTo (viewsTo_handleZoneTransfer found recorded crossing.2) ?_
      (fun other _ => handed.accounted other) other
    refine View.Moored.accounted ?_ rfl
    rw [alive]
    exact moored_of_transfer crossing.2 moored still alive rfl rfl
  · next staying =>
    rw [view_walk ?_ other]
    · exact handed.accounted other
    · intro other
      by_cases inZone : getZoneIdByWorld x y = thread
      · have home : client.transform.zoneId = thread := by
          by_contra elsewhere
          exact staying ⟨fun same => elsewhere (same.symm.trans inZone), inZone ▸ valid⟩
        exact view_updatePosition (getUser_eq_some.mp found).1 home recorded home valid
      · rw [updatePosition_outside valid inZone]

theorem Quiet.sameSites {allowed : ServerPacket → Prop} {zone : Nat} {actor : ObjID}
    (quiet : Quiet allowed zone actor world after) : SameSites world after where
  sites id := by
    have same := quiet.standing id
    simp only [standingOf] at same
    rw [siteOf_eq, siteOf_eq]
    cases found : world.objects id with
    | none =>
      rw [found, Option.map_none, Option.map_eq_none_iff] at same
      rw [same]
    | some subject =>
      rw [found, Option.map_some, Option.map_eq_some_iff] at same
      rcases same with ⟨current, currentFound, standing⟩
      have category := congrArg Standing.category standing
      have transform := congrArg Standing.transform standing
      dsimp only [Subject.standing] at category transform
      rw [currentFound, Option.map_some, Option.map_some, category, transform]
  objectZones := quiet.objectZones
  sessions := quiet.sessions
  nextObjectId := quiet.nextObjectId

/-- Quiet changes keep the accounts. -/
theorem Quiet.handed {allowed : ServerPacket → Prop} {zone : Nat} {actor : ObjID}
    (quiet : Quiet allowed zone actor world after) (handed : Handed world) : Handed after where
  mapped := quiet.sameSites.mapped handed.mapped
  accounted session := by
    rw [quiet.view]
    exact handed.accounted session

/-- A death schedules the one respawn. -/
theorem moored_of_death {view new : View} {stance : Stance} (moored : view.Moored session stance)
    (alive : stance.dead = false) (waiting : new.waiting = view.waiting)
    (respawns : new.respawns = view.respawns + 1) :
    new.Moored session { stance with dead := true } where
  away := moored.away
  entering thread := by
    rw [waiting]
    exact moored.entering thread
  elsewhere thread away := by
    rw [waiting]
    exact moored.elsewhere thread away
  respawning := by
    have total := moored.respawning
    rw [alive, if_neg (by decide)] at total
    rw [waiting, respawns, if_pos rfl]
    dsimp only
    omega

/-- A login finds nothing pending. -/
theorem accounted_of_entered {view new : View} (entered : view.Entered new)
    (vacant : view.Vacant session) (outside : ¬view.ingame) : new.Accounted session := by
  rcases entered with ⟨zoneId, routed, stance, _, waiting, respawns⟩
  have idle := vacant.respawning outside
  refine View.Moored.accounted ?_ stance
  constructor
  case away => exact fun impossible => absurd impossible Bool.false_ne_true
  case entering =>
    intro thread
    rw [waiting, vacant.entering, if_neg]
    exact fun both => absurd both.1 Bool.false_ne_true
  case elsewhere =>
    intro thread _
    rw [waiting, idle.2]
  case respawning =>
    rw [waiting, respawns, idle.1, idle.2]
    rfl

/-- A session that has not logged in is not in the game. -/
theorem outside_of_alloc (alloc : world.sessionState session = .stAlloc) :
    ¬(world.view session).ingame ∧ ∃ record, world.sessions session = some record := by
  unfold sessionState at alloc
  split at alloc
  · next record found =>
    refine ⟨?_, record, found⟩
    rintro ⟨other, same, ingame⟩
    obtain rfl := Option.some.inj (found.symm.trans same)
    rw [alloc] at ingame
    contradiction
  · contradiction

/-- Without a player nothing waits for the session. -/
theorem vacant_of_free (handed : Handed world)
    (free : world.objects (ObjID.user session) = none) :
    (world.view session).Vacant session := by
  apply (handed.accounted session).vacant
  rw [view, free]
  rfl

/-- Every task but entries and respawns keeps the accounts. -/
theorem effect_accounted (handed : Handed world)
    (noEntry : ∀ session, task.enters session = false)
    (noRespawn : ∀ session, task.respawns session = false)
    (effect : Effect thread choice world task after) (other : Nat) :
    (after.view other).Accounted other := by
  cases effect with
  | aside aside =>
    rw [aside.view]
    exact handed.accounted other
  | move x y isMove playing valid quiet =>
    next session packet client user stamped =>
    obtain ⟨_, found, awake, still⟩ := playing_eq_some.mp playing
    have alive : user.stat.dead = false := by
      rw [← Bool.not_eq_true]
      exact fun dead => awake ⟨rfl, dead⟩
    have stands := (handed.mapped.stands found).1
    rw [still, alive, ← quiet.view session] at stands
    rcases stance_eq_some.mp stands with ⟨mover, moverUser, moverFound, same⟩
    rw [Stance.mk.injEq] at same
    exact handlePlayerMove_accounted (quiet.handed handed) valid moverFound same.2.1.symm
      same.2.2.symm other
  | leave found here valid =>
    next clientId client user =>
    obtain ⟨session, rfl⟩ : ∃ session, clientId = ObjID.user session :=
      ⟨_, handed.mapped.user found⟩
    obtain ⟨stands, recorded⟩ := handed.mapped.stands found
    have moored := (handed.accounted session).moored stands
    refine accounted_of_viewsTo viewsTo_leaveWorld ?_ (fun other _ => handed.accounted other) other
    refine View.Vacant.accounted ?_ rfl
    constructor
    · intro place
      have none := moored.entering place
      rwa [if_neg (fun both => here ⟨both.1, moored.away both.1⟩)] at none
    · exact fun outside => absurd ⟨_, recorded, rfl⟩ outside
  | retry found away valid =>
    next clientId client user =>
    obtain ⟨session, rfl⟩ : ∃ session, clientId = ObjID.user session :=
      ⟨_, handed.mapped.user found⟩
    have about : ∀ other, (Task.disconnect (ObjID.user session)).isAbout other = true ↔
        session = other := by simp [Task.isAbout, Task.concerns, Task.enters, Task.respawns]
    refine accounted_of_viewsTo (viewsTo_enqueueByZone _ _ ((about session).mpr rfl)
      fun other isAbout => ((about other).mp isAbout).symm) ?_
      (fun other _ => handed.accounted other) other
    refine (handed.accounted session).congr rfl id ?_ ?_ rfl
    · intro place
      dsimp only
      rw [countP_push]
      simp [Task.enters]
    · intro place
      dsimp only
      rw [countP_push]
      simp [Task.respawns]
  | enter nextX nextY found valid =>
    next playerId player user =>
    have entry := noEntry playerId.databaseId
    rw [handed.mapped.user found] at entry
    simp [Task.enters] at entry
  | getUserInfo alloc free valid =>
    obtain ⟨outside, record, recorded⟩ := outside_of_alloc alloc
    rcases viewsTo_getUserInfo valid recorded with ⟨view, entered, _, views⟩
    refine accounted_of_viewsTo views ?_ (fun other _ => handed.accounted other) other
    exact accounted_of_entered entered (vacant_of_free handed free) outside
  | addUserInfo alloc free valid =>
    obtain ⟨outside, record, recorded⟩ := outside_of_alloc alloc
    rcases viewsTo_addUserInfo valid recorded with ⟨view, entered, _, views⟩
    refine accounted_of_viewsTo views ?_ (fun other _ => handed.accounted other) other
    exact accounted_of_entered entered (vacant_of_free handed free) outside
  | kill isMonster found hits fatal valid =>
    next monsterId playerId subject victim monster user =>
    obtain ⟨session, rfl⟩ : ∃ session, playerId = ObjID.user session :=
      ⟨_, handed.mapped.user found⟩
    have stands := (handed.mapped.stands found).1
    have alive : user.stat.dead = false := by
      simp only [attackMisses, Subject.isDead, (getUser_eq_some.mp found).2,
        decide_eq_false_iff_not, not_or, Bool.not_eq_true] at hits
      exact hits.2.1
    refine accounted_of_viewsTo (viewsTo_killPlayer found fatal) ?_
      (fun other _ => handed.accounted other) other
    refine View.Moored.accounted ?_ rfl
    exact moored_of_death ((handed.accounted session).moored stands) alive rfl rfl
  | respawn found valid =>
    next playerId targetId player user =>
    have respawn := noRespawn playerId.databaseId
    rw [handed.mapped.user found] at respawn
    simp [Task.respawns] at respawn

/-! ## Entries and respawns -/

variable {id : ObjID}

/-- A pending entry is about a registered user that is on its way to the thread
of the queue. -/
theorem Handed.entry {x y : Int} (handed : Handed world)
    (member : Task.enterZone (ObjID.user session) x y ∈ world.queues thread) :
    ∃ client user, world.getUser (ObjID.user session) = some (client, user) ∧
      client.transform.transferring = true ∧ client.transform.zoneId = thread := by
  have waits : Task.enterZone (ObjID.user session) x y ∈ (world.view session).waiting thread :=
    mem_waiting member (isAbout_enterZone.mpr rfl)
  have counted : 0 < ((world.view session).waiting thread).countP (Task.enters session) :=
    List.countP_pos_iff.mpr ⟨_, waits, by simp [Task.enters]⟩
  cases stands : (world.view session).stance with
  | none =>
    have none := ((handed.accounted session).vacant stands).entering thread
    omega
  | some stance =>
    have entering := ((handed.accounted session).moored stands).entering thread
    rcases stance_eq_some.mp stands with ⟨client, user, found, rfl⟩
    refine ⟨client, user, found, ?_⟩
    by_contra elsewhere
    rw [if_neg (fun both => elsewhere ⟨both.1, both.2.symm⟩)] at entering
    omega

theorem exec_enterZone_accounted {x y : Int} (handed : Handed world)
    (queued : world.queues thread = .enterZone id x y :: rest)
    (ran : ({ world with queues := Function.update world.queues thread rest } : World).exec thread
      choice (.enterZone id x y) = some after) (other : Nat) :
    (after.view other).Accounted other := by
  have member : Task.enterZone id x y ∈ world.queues thread := queued ▸ List.mem_cons_self
  have apart : ∀ session, id ≠ ObjID.user session →
      (({ world with queues := Function.update world.queues thread rest } : World).view
        session).Accounted session := by
    intro session different
    apply accounted_pop queued _ rfl (handed.accounted session)
    simp [Task.enters, different]
  rcases ifRegistered_eq_some.mp ran with ⟨missing, rfl⟩ | ⟨⟨⟨client, user⟩, found⟩, valid, rfl⟩
  · apply apart
    rintro rfl
    rcases handed.entry member with ⟨client, user, found, _⟩
    exact absurd (missing.symm.trans found) (Option.some_ne_none _).symm
  · have mapped : Mapped { world with queues := Function.update world.queues thread rest } :=
      handed.mapped.congr rfl rfl rfl rfl
    obtain ⟨session, rfl⟩ : ∃ session, id = ObjID.user session := ⟨_, mapped.user found⟩
    have recorded := (mapped.stands found).2
    rcases handed.entry member with ⟨same, sameUser, sameFound, away, home⟩
    obtain ⟨rfl, rfl⟩ := Prod.mk.inj (Option.some.inj (sameFound.symm.trans found))
    have moored := (handed.accounted session).moored (handed.mapped.stands sameFound).1
    have isEntry : (Task.enterZone (ObjID.user session) x y).enters session = true := by
      simp [Task.enters]
    refine accounted_of_viewsTo (viewsTo_handleEnterZone valid found home recorded home) ?_
      (fun other different => apart other fun same => different (ObjID.user_inj.mp same).symm)
      other
    refine View.Moored.accounted ?_ rfl
    constructor
    case away => exact fun impossible => absurd impossible Bool.false_ne_true
    case entering =>
      intro place
      have before := moored.entering place
      rw [countP_enters_pop _ queued place, isEntry] at before
      rw [if_neg (fun both => Bool.false_ne_true both.1)]
      dsimp only at before ⊢
      rw [away, home] at before
      by_cases here : place = thread
      · simp only [here, and_self, if_true] at before
        subst here
        omega
      · simp only [here, false_and, and_false, if_false] at before
        omega
    case elsewhere =>
      intro place different
      have before := moored.elsewhere place different
      rw [countP_respawns_pop _ queued place] at before
      dsimp only
      omega
    case respawning =>
      have before := moored.respawning
      rw [countP_respawns_pop _ queued, if_neg (fun both => Bool.false_ne_true both.2),
        Nat.add_zero] at before
      exact before

/-- A pending respawn of a registered user is the only one, waits on the thread
of its zone and finds it dead. -/
theorem Handed.respawn {targetId : ObjID} {client : Subject} {user : User} (handed : Handed world)
    (queued : world.queues thread = .timer .evUserRespawn (ObjID.user session) targetId :: rest)
    (found : world.getUser (ObjID.user session) = some (client, user)) :
    user.stat.dead = true ∧ thread = threadOf client.transform.zoneId := by
  have moored := (handed.accounted session).moored (handed.mapped.stands found).1
  have isRespawn : (Task.timer .evUserRespawn (ObjID.user session) targetId).respawns session =
      true := by simp [Task.respawns]
  have popped := countP_respawns_pop session queued thread
  rw [isRespawn] at popped
  simp only [and_self, if_true] at popped
  have home : thread = threadOf client.transform.zoneId := by
    by_contra away
    have none := moored.elsewhere thread away
    omega
  refine ⟨?_, home⟩
  have total := moored.respawning
  dsimp only at total
  rw [← home] at total
  by_contra alive
  rw [if_neg alive] at total
  omega

theorem exec_respawn_accounted {targetId : ObjID} (handed : Handed world)
    (queued : world.queues thread = .timer .evUserRespawn id targetId :: rest)
    (ran : ({ world with queues := Function.update world.queues thread rest } : World).exec thread
      choice (.timer .evUserRespawn id targetId) = some after) (other : Nat) :
    (after.view other).Accounted other := by
  have apart : ∀ session, id ≠ ObjID.user session →
      (({ world with queues := Function.update world.queues thread rest } : World).view
        session).Accounted session := by
    intro session different
    apply accounted_pop queued rfl _ (handed.accounted session)
    simp [Task.respawns, different]
  rcases ifRegistered_eq_some.mp ran with ⟨missing, rfl⟩ | ⟨⟨⟨client, user⟩, found⟩, valid, rfl⟩
  · by_cases own : id = ObjID.user other
    · subst own
      have absent : (world.view other).stance = none := by
        rw [← Option.not_isSome_iff_eq_none]
        intro isSome
        rcases Option.isSome_iff_exists.mp isSome with ⟨stance, stands⟩
        rcases stance_eq_some.mp stands with ⟨client, user, found, _⟩
        exact absurd (missing.symm.trans found) (Option.some_ne_none _).symm
      have vacant := (handed.accounted other).vacant absent
      refine View.Vacant.accounted ?_ absent
      constructor
      · intro place
        have before := vacant.entering place
        rw [countP_enters_pop _ queued place] at before
        omega
      · intro outside
        have idle := vacant.respawning outside
        refine ⟨idle.1, fun place => ?_⟩
        have before := idle.2 place
        rw [countP_respawns_pop _ queued place] at before
        omega
    · exact apart other own
  · have mapped : Mapped { world with queues := Function.update world.queues thread rest } :=
      handed.mapped.congr rfl rfl rfl rfl
    obtain ⟨session, rfl⟩ : ∃ session, id = ObjID.user session := ⟨_, mapped.user found⟩
    have recorded := (mapped.stands found).2
    obtain ⟨dead, onHome⟩ := handed.respawn queued found
    have home : client.transform.zoneId = thread := by
      rw [threadOf] at onHome
      split at onHome
      · exact onHome.symm
      · rw [onHome] at valid
        contradiction
    have moored := (handed.accounted session).moored (handed.mapped.stands found).1
    have isRespawn : (Task.timer .evUserRespawn (ObjID.user session) targetId).respawns session =
        true := by simp [Task.respawns]
    refine accounted_of_viewsTo (viewsTo_handleUserRespawn valid found home recorded home) ?_
      (fun other different => apart other fun same => different (ObjID.user_inj.mp same).symm)
      other
    refine View.Moored.accounted ?_ rfl
    constructor
    case away => exact moored.away
    case entering =>
      intro place
      have before := moored.entering place
      rw [countP_enters_pop _ queued place, if_neg (fun both => Bool.false_ne_true both.2),
        Nat.add_zero] at before
      exact before
    case elsewhere =>
      intro place different
      have before := moored.elsewhere place different
      rw [countP_respawns_pop _ queued place] at before
      dsimp only
      omega
    case respawning =>
      have before := moored.respawning
      rw [countP_respawns_pop _ queued, isRespawn, dead] at before
      dsimp only at before ⊢
      rw [if_pos ⟨onHome.symm, rfl⟩] at before
      have timers : (({ world with queues := Function.update world.queues thread rest } :
          World).view session).respawns = (world.view session).respawns := rfl
      rw [timers, if_neg (by decide)]
      simp only [if_true] at before
      omega

/-! ## Every task -/

/-- Every task keeps every session accounted. -/
theorem exec_accounted (handed : Handed world) (queued : world.queues thread = task :: rest)
    (ran : ({ world with queues := Function.update world.queues thread rest } : World).exec thread
      choice task = some after) (other : Nat) : (after.view other).Accounted other := by
  have mapped : Mapped { world with queues := Function.update world.queues thread rest } :=
    handed.mapped.congr rfl rfl rfl rfl
  have plain : (∀ session, task.enters session = false) →
      (∀ session, task.respawns session = false) → (after.view other).Accounted other := by
    intro noEntry noRespawn
    have popped : Handed { world with queues := Function.update world.queues thread rest } :=
      ⟨mapped, fun session => accounted_pop queued (noEntry session) (noRespawn session)
        (handed.accounted session)⟩
    exact effect_accounted popped noEntry noRespawn (exec_effect mapped.filed ran) other
  cases task with
  | enterZone playerId x y => exact exec_enterZone_accounted handed queued ran other
  | timer event subjectId targetId =>
    cases event with
    | evUserRespawn => exact exec_respawn_accounted handed queued ran other
    | _ => exact plain (fun _ => rfl) fun _ => rfl
  | _ => exact plain (fun _ => rfl) fun _ => rfl

/-- Every task hands its player over properly. -/
theorem exec_handed (handed : Handed world) (queued : world.queues thread = task :: rest)
    (ran : ({ world with queues := Function.update world.queues thread rest } : World).exec thread
      choice task = some after) : Handed after where
  mapped := exec_mapped ran (handed.mapped.congr rfl rfl rfl rfl)
  accounted := exec_accounted handed queued ran

/-! ## What tasks queue -/

theorem updatePosition_queues {zone : Nat} {id : ObjID} {x y : Int}
    (valid : isValidZoneId zone = true) :
    (world.updatePosition zone id x y).queues = world.queues := by
  cases found : world.objects id with
  | none => rw [updatePosition_missing found]
  | some object =>
    by_cases inZone : getZoneIdByWorld x y = zone
    · exact (updatePosition_settled valid found inZone).queues
    · rw [updatePosition_outside valid inZone]

theorem wakeUpMonster_queues {zone : Nat} {monsterId wakerId : ObjID} {forceWake : Bool} :
    (world.wakeUpMonster zone monsterId wakerId forceWake).queues = world.queues := by
  unfold wakeUpMonster
  split
  · split
    · rfl
    · split
      · rfl
      · split
        · rfl
        · dsimp only
          split <;> rfl
  · rfl

theorem removeObject_queues {zone : Nat} {id : ObjID} {transform : Transform} :
    (world.removeObject zone id transform).queues = world.queues :=
  (removeObject_removed zone id transform world).queues

theorem spawnFieldItem_queues {zone : Nat} {item : Item} {x y : Int} {owner : ObjID}
    (valid : isValidZoneId zone = true)
    (spawned : world.spawnFieldItem zone choice item x y owner = some after) :
    after.queues = world.queues := by
  unfold spawnFieldItem at spawned
  dsimp only at spawned
  split at spawned
  · split at spawned
    · contradiction
    · rw [← Option.some.inj spawned]
      have scheduled : ∀ (current : World) itemId,
          (current.scheduleItemTimers zone itemId owner).queues = current.queues := by
        intro current itemId
        unfold scheduleItemTimers
        dsimp only
        split <;> rfl
      rw [scheduled]
      exact updatePosition_queues valid
  · contradiction

theorem handleItemDrop_queues {zone : Nat} {monsterId attackerId : ObjID} {x y : Int}
    (valid : isValidZoneId zone = true)
    (dropped : world.handleItemDrop zone choice monsterId attackerId x y = some after) :
    after.queues = world.queues := by
  unfold handleItemDrop at dropped
  split at dropped
  · rw [← Option.some.inj dropped]
  · split at dropped
    · contradiction
    · exact spawnFieldItem_queues valid dropped

theorem killMonster_queues {zone : Nat} {monsterId playerId : ObjID} {subject : Subject}
    {monster : Monster} {attacker : User} :
    (world.killMonster zone choice monsterId playerId subject monster attacker).queues =
      world.queues := by
  unfold killMonster
  exact removeObject_queues

/-- Tasks only queue disconnects and the entries of users. -/
theorem Op.queued {zone : Nat} {own : ObjID} (op : Op zone choice own world after)
    (filed : Filed world) (member : task ∈ after.queues thread) :
    task ∈ world.queues thread ∨ (∃ id, task = .disconnect id) ∨
      ∃ id x y, task = .enterZone id x y ∧ id.category = .eUser := by
  have same : after.queues = world.queues → task ∈ world.queues thread := fun queues =>
    queues ▸ member
  have pushed : ∀ {zoneId : Nat} {last : Task},
      task ∈ (world.enqueueByZone zoneId last).queues thread →
        task ∈ world.queues thread ∨ task = last := by
    intro zoneId last queued
    simp only [enqueueByZone, Function.update_apply] at queued
    split at queued
    · next here =>
      rw [List.mem_append, List.mem_singleton] at queued
      exact here ▸ queued
    · exact .inl queued
  cases op with
  | plain plain => exact .inl (same plain.queues)
  | heal found alive => exact .inl member
  | store found serves => exact .inl member
  | wake valid inCell => exact .inl (same wakeUpMonster_queues)
  | place valid found => exact .inl (same (updatePosition_queues valid))
  | settle valid found placed =>
    refine .inl (same ?_)
    simp only [updateObjectSectorAndPosition] at placed
    split at placed
    · rw [← Option.some.inj placed]
      simp only [modifyTransform, World.modify, modifyCell, apply_ite World.queues, ite_self]
    · contradiction
  | arrive category => exact .inl member
  | transfer found valid =>
    next id player user x y newZoneId =>
    unfold handleZoneTransfer at member
    dsimp only at member
    rw [updateObjectZone, if_pos valid] at member
    simp only [enqueueByZone, Function.update_apply, setRoutingZoneId, modifySession,
      modifyTransform, World.modify, World.post, removeObject_queues] at member
    split at member
    · next here =>
      rw [List.mem_append, List.mem_singleton] at member
      rcases member with old | new
      · exact .inl (here ▸ old)
      · exact .inr (.inr ⟨id, x, y, new, filed.user found⟩)
    · exact .inl member
  | leave found =>
    next id client user =>
    refine .inl (same ?_)
    unfold leaveWorld
    exact (saveUserInfo_plain id).queues.trans removeObject_queues
  | publish alloc free new => exact .inl member
  | requeue =>
    rcases pushed member with old | new
    · exact .inl old
    · exact .inr (.inl ⟨_, new⟩)
  | wound valid found alive inCell category survives => exact .inl member
  | slay valid found alive inCell category attacker fatal slays =>
    rcases Option.map_eq_some_iff.mp slays with ⟨dropped, drops, rfl⟩
    exact .inl (same ((handleItemDrop_queues valid drops).trans killMonster_queues))
  | spawn valid spawned => exact .inl (same (spawnFieldItem_queues valid spawned))
  | pick found => exact .inl (same removeObject_queues)
  | hurt => exact .inl member
  | hide category => exact .inl (same removeObject_queues)
  | mourn category => exact .inl member
  | revive => exact .inl member
  | tend category keeps => exact .inl member
  | raise category healed type => exact .inl member
  | step valid found alive => exact .inl (same (updatePosition_queues valid))
  | schedule category kind => exact .inl member

/-- Every pending entry is about a user. -/
def EntriesOfUsers (world : World) : Prop :=
  ∀ thread id x y, Task.enterZone id x y ∈ world.queues thread → id.category = .eUser

theorem exec_entriesOfUsers (mapped : Mapped world) (entries : EntriesOfUsers world)
    (ran : world.exec thread choice task = some after) : EntriesOfUsers after := by
  refine (Script.keeps (fun current => Mapped current ∧ EntriesOfUsers current) ?_
    (exec_script mapped.filed ran) ⟨mapped, entries⟩).2
  rintro before current op ⟨kept, ofUsers⟩
  refine ⟨op.mapped kept, ?_⟩
  intro place id x y member
  rcases op.queued kept.filed member with old | ⟨_, impossible⟩ | ⟨_, _, _, same, isUser⟩
  · exact ofUsers place id x y old
  · contradiction
  · rw [Task.enterZone.injEq] at same
    exact same.1 ▸ isUser

/-! ## Steps of the server -/

theorem countP_waiting_enqueue {counted : Task → Bool} (zoneId : Nat) (task : Task)
    (about : ∀ other, counted other = true → other.isAbout session = true) (place : Nat) :
    (((world.enqueueByZone zoneId task).view session).waiting place).countP counted =
      ((world.view session).waiting place).countP counted +
        if place = threadOf zoneId ∧ counted task = true then 1 else 0 := by
  rw [countP_waiting _ about, countP_waiting _ about]
  exact countP_push counted place

/-- Queueing a task that is neither entry nor respawn. -/
theorem enqueueByZone_handed (zoneId : Nat) (noEntry : ∀ session, task.enters session = false)
    (noRespawn : ∀ session, task.respawns session = false) (handed : Handed world) :
    Handed (world.enqueueByZone zoneId task) where
  mapped := handed.mapped.congr rfl rfl rfl rfl
  accounted session := by
    refine (handed.accounted session).congr rfl id ?_ ?_ rfl
    · intro place
      rw [countP_waiting_enqueue zoneId task (fun _ => isAbout_of_enters), noEntry]
      simp
    · intro place
      rw [countP_waiting_enqueue zoneId task (fun _ => isAbout_of_respawns), noRespawn]
      simp

theorem respawns_timer (event : TimerEvent) (session : Nat) :
    (Task.timer event.event event.subjectId event.targetId).respawns session =
      event.respawns session := by
  cases kind : event.event <;> simp [Task.respawns, TimerEvent.respawns, kind]

/-- A fired event moves from the timer to the queue of its zone. -/
theorem dispatchTimer_handed {index : Nat} {event : TimerEvent} (handed : Handed world)
    (pending : world.timers[index]? = some event) :
    Handed (Server.dispatchTimer event
      { world with timers := world.timers.eraseIdx index }) := by
  rw [Server.dispatchTimer_eq]
  constructor
  case mapped => exact handed.mapped.congr rfl rfl rfl rfl
  case accounted =>
    intro session
    let fired : World := { world with timers := world.timers.eraseIdx index }
    let dispatched := fired.enqueueByZone (Server.timerZone event fired)
      (.timer event.event event.subjectId event.targetId)
    have entering : ∀ place, ((dispatched.view session).waiting place).countP
        (Task.enters session) =
          ((world.view session).waiting place).countP (Task.enters session) := by
      intro place
      rw [countP_waiting_enqueue _ _ (fun _ => isAbout_of_enters),
        if_neg (fun both => Bool.false_ne_true both.2), Nat.add_zero]
      rfl
    have respawning : ∀ place, ((dispatched.view session).waiting place).countP
        (Task.respawns session) =
          ((world.view session).waiting place).countP (Task.respawns session) +
            if place = threadOf (Server.timerZone event world) ∧ event.respawns session = true
            then 1 else 0 := by
      intro place
      rw [countP_waiting_enqueue _ _ (fun _ => isAbout_of_respawns), respawns_timer]
      rfl
    have timers : (world.view session).respawns = (dispatched.view session).respawns +
        if event.respawns session = true then 1 else 0 :=
      countP_eraseIdx (TimerEvent.respawns session) pending
    change (dispatched.view session).Accounted session
    by_cases own : event.respawns session = true
    · have isUser : event.subjectId = ObjID.user session := (of_decide_eq_true own).2
      have target : Server.timerZone event world = world.getObjectZone (ObjID.user session) := by
        rw [Server.timerZone, isUser]
        simp
      cases stands : (world.view session).stance with
      | some stance =>
        have moored := (handed.accounted session).moored stands
        have home : world.getObjectZone (ObjID.user session) = stance.zoneId := by
          rcases stance_eq_some.mp stands with ⟨client, user, found, rfl⟩
          exact (handed.mapped.zonesAgree.zones _ _ (getUser_eq_some.mp found).1).symm
        refine View.Moored.accounted ?_ stands
        constructor
        case away => exact moored.away
        case entering => exact fun place => (entering place).trans (moored.entering place)
        case elsewhere =>
          intro place away
          rw [respawning, target, home, if_neg (fun both => away both.1)]
          exact moored.elsewhere place away
        case respawning =>
          have total := moored.respawning
          rw [respawning, target, home, own]
          rw [timers, own] at total
          simp only [and_self, if_true] at total ⊢
          omega
      | none =>
        have vacant := (handed.accounted session).vacant stands
        refine View.Vacant.accounted ?_ stands
        constructor
        · exact fun place => (entering place).trans (vacant.entering place)
        · intro outside
          have idle := (vacant.respawning outside).1
          rw [timers, if_pos own] at idle
          omega
    · refine (handed.accounted session).congr rfl id entering ?_ ?_
      · intro place
        rw [respawning, if_neg (fun both => own both.2), Nat.add_zero]
      · rw [timers, if_neg own, Nat.add_zero]

end World

namespace Server

open World

variable {collate : String → String}

/-- Every step hands its players over properly. -/
theorem step_handed {label : Label grid} {before after : Server collate}
    (taken : step label before = some after) (handed : Handed before.world) :
    Handed after.world := by
  have mapped := step_mapped taken handed.mapped
  cases label with
  | accept =>
    simp only [step, accept] at taken
    split at taken
    · rw [← Option.some.inj taken] at mapped ⊢
      refine ⟨mapped, fun session => ?_⟩
      refine (handed.accounted session).congr rfl ?_ (fun _ => rfl) (fun _ => rfl) rfl
      rintro ⟨record, found, ingame⟩
      have recorded : before.world.sessions session = some record := found
      have different : session ≠ before.world.nextObjectId := by
        rintro rfl
        rw [handed.mapped.fresh _ (Nat.le_refl _)] at recorded
        contradiction
      exact ⟨record, (Function.update_of_ne different _ _).trans recorded, ingame⟩
    · contradiction
  | receive session packet =>
    simp only [step, receive] at taken
    split at taken
    · rw [← Option.some.inj taken]
      exact enqueueByZone_handed _ (fun _ => rfl) (fun _ => rfl) handed
    · contradiction
  | hangUp session =>
    simp only [step, hangUp] at taken
    split at taken
    · split at taken
      · rw [← Option.some.inj taken]
        exact enqueueByZone_handed _ (fun _ => rfl) (fun _ => rfl) handed
      · rw [← Option.some.inj taken]
        exact enqueueByZone_handed _ (fun _ => rfl) (fun _ => rfl) handed
    · contradiction
  | fire index =>
    simp only [step, fire] at taken
    split at taken
    · contradiction
    · next event pending =>
      rw [← Option.some.inj taken]
      exact dispatchTimer_handed handed pending
  | database index calls written =>
    have asked : ∀ requests, Handed { before.world with dbRequests := requests } :=
      fun requests => ⟨handed.mapped.congr rfl rfl rfl rfl, handed.accounted⟩
    simp only [step, database] at taken
    split at taken
    · contradiction
    · split at taken
      · rw [← Option.some.inj taken]
        unfold handOver
        split
        · exact asked _
        · exact ⟨handed.mapped.congr rfl rfl rfl rfl, handed.accounted⟩
        · exact enqueueByZone_handed _ (fun _ => rfl) (fun _ => rfl) (asked _)
        · exact enqueueByZone_handed _ (fun _ => rfl) (fun _ => rfl) (asked _)
      · rw [← Option.some.inj taken]
        split
        · exact asked _
        · exact asked _
  | run thread choice =>
    simp only [step, runThread] at taken
    split at taken
    · contradiction
    · next task rest queued =>
      rcases Option.map_eq_some_iff.mp taken with ⟨world, ran, rfl⟩
      exact exec_handed handed queued ran

theorem boot_handed (count : Nat) (draw : Nat → Int × Int) : Handed (World.boot count draw) := by
  have mapped := boot_mapped count draw
  have aside := boot_aside count draw
  refine ⟨mapped, fun session => ?_⟩
  rw [aside.view]
  apply View.Vacant.accounted _ rfl
  exact ⟨fun _ => rfl, fun _ => ⟨rfl, fun _ => rfl⟩⟩

/-- Every player is handed over properly in every state. -/
theorem run_handed {count : Nat} {draw : Nat → Int × Int} {store : Store collate}
    {labels : List (Label grid)} {server : Server collate}
    (ran : run step labels (boot count draw store) = some server) : Handed server.world :=
  invariant_of_run (fun _ _ _ taken handed => step_handed taken handed) ran
    (boot_handed count draw)

/-! ## Transfers are exact -/

/-- No transfer is lost or doubled in this world, and a disconnect that is run
meanwhile only queues itself again. -/
structure TransferExact (grid : CollisionGrid) (world : World) : Prop where
  pending : ∀ session client user, world.getUser (ObjID.user session) = some (client, user) →
    ∀ thread, (world.queues thread).countP (Task.enters session) =
      if client.transform.transferring = true ∧ thread = client.transform.zoneId then 1 else 0
  registered : ∀ thread id x y, Task.enterZone id x y ∈ world.queues thread →
    ∃ client user, world.getUser id = some (client, user) ∧
      client.transform.transferring = true ∧ client.transform.zoneId = thread
  postponed : ∀ thread (choice : Choice grid) id rest client user, world.queues thread = .disconnect id :: rest →
    world.getUser id = some (client, user) → client.transform.transferring = true →
      ({ world with queues := Function.update world.queues thread rest } : World).exec thread choice
          (.disconnect id) =
        some (({ world with queues := Function.update world.queues thread rest } :
          World).enqueueByZone client.transform.zoneId (.disconnect id))

/-- Handed over properly, a player is in exactly one zone or on its way to one. -/
theorem transferExact_of_handed {world : World} (handed : Handed world)
    (entries : EntriesOfUsers world) : TransferExact grid world where
  pending session client user found thread := by
    have moored := (handed.accounted session).moored (handed.mapped.stands found).1
    rw [← countP_waiting world (fun _ => isAbout_of_enters)]
    exact moored.entering thread
  registered thread id x y member := by
    obtain ⟨session, rfl⟩ : ∃ session, id = ObjID.user session :=
      ⟨_, user_eq_of_category (entries thread id x y member) rfl⟩
    exact handed.entry member
  postponed thread choice id rest client user _ found away := by
    obtain ⟨session, rfl⟩ : ∃ session, id = ObjID.user session := ⟨_, handed.mapped.user found⟩
    have moored := (handed.accounted session).moored (handed.mapped.stands found).1
    have stillFound : ({ world with queues := Function.update world.queues thread rest } :
        World).getUser (ObjID.user session) = some (client, user) := found
    rw [exec, disconnect, stillFound]
    dsimp only
    rw [if_pos ⟨away, moored.away away⟩]

theorem mem_enqueueByZone {world : World} {zoneId thread : Nat} {task last : Task}
    (member : task ∈ (world.enqueueByZone zoneId last).queues thread) :
    task ∈ world.queues thread ∨ task = last := by
  simp only [enqueueByZone, Function.update_apply] at member
  split at member
  · next here =>
    rw [List.mem_append, List.mem_singleton] at member
    exact here ▸ member
  · exact .inl member

theorem enqueueByZone_entriesOfUsers {world : World} {zoneId : Nat} {task : Task}
    (noEntry : ∀ id x y, task ≠ .enterZone id x y) (entries : EntriesOfUsers world) :
    EntriesOfUsers (world.enqueueByZone zoneId task) := by
  intro thread id x y member
  rcases mem_enqueueByZone member with old | new
  · exact entries thread id x y old
  · exact absurd new.symm (noEntry id x y)

theorem step_entriesOfUsers {label : Label grid} {before after : Server collate}
    (taken : step label before = some after) (mapped : Mapped before.world)
    (entries : EntriesOfUsers before.world) : EntriesOfUsers after.world := by
  cases label with
  | accept =>
    simp only [step, accept] at taken
    split at taken
    · exact Option.some.inj taken ▸ entries
    · contradiction
  | receive session packet =>
    simp only [step, receive] at taken
    split at taken
    · exact Option.some.inj taken ▸
        enqueueByZone_entriesOfUsers (fun _ _ _ => Task.noConfusion) entries
    · contradiction
  | hangUp session =>
    simp only [step, hangUp] at taken
    split at taken
    · split at taken
      · exact Option.some.inj taken ▸
          enqueueByZone_entriesOfUsers (fun _ _ _ => Task.noConfusion) entries
      · exact Option.some.inj taken ▸
          enqueueByZone_entriesOfUsers (fun _ _ _ => Task.noConfusion) entries
    · contradiction
  | fire index =>
    simp only [step, fire] at taken
    split at taken
    · contradiction
    · rw [← Option.some.inj taken]
      dsimp only
      rw [dispatchTimer_eq]
      exact enqueueByZone_entriesOfUsers (fun _ _ _ => Task.noConfusion) entries
  | database index calls written =>
    simp only [step, database] at taken
    split at taken
    · contradiction
    · split at taken
      · rw [← Option.some.inj taken]
        unfold handOver
        split
        · exact entries
        · exact entries
        · exact enqueueByZone_entriesOfUsers (fun _ _ _ => Task.noConfusion) entries
        · exact enqueueByZone_entriesOfUsers (fun _ _ _ => Task.noConfusion) entries
      · rw [← Option.some.inj taken]
        split <;> exact entries
  | run thread choice =>
    simp only [step, runThread] at taken
    split at taken
    · contradiction
    · next task rest queued =>
      rcases Option.map_eq_some_iff.mp taken with ⟨world, ran, rfl⟩
      have popped : Mapped { before.world with
          queues := Function.update before.world.queues thread rest } :=
        mapped.congr rfl rfl rfl rfl
      refine exec_entriesOfUsers popped ?_ ran
      intro place id x y member
      dsimp only at member
      rw [Function.update_apply] at member
      split at member
      · next here =>
        subst here
        exact entries place id x y (queued ▸ List.mem_cons_of_mem _ member)
      · exact entries place id x y member

/-- The handed-over sessions, and that only users are handed over. -/
structure Delivers (server : Server collate) : Prop where
  handed : Handed server.world
  entries : EntriesOfUsers server.world

theorem boot_delivers (count : Nat) (draw : Nat → Int × Int) (store : Store collate) :
    (boot count draw store).Delivers where
  handed := boot_handed count draw
  entries thread id x y member := by
    rw [boot, (boot_aside count draw).queues] at member
    exact absurd member List.not_mem_nil

theorem step_delivers {label : Label grid} {before after : Server collate}
    (taken : step label before = some after) (delivers : before.Delivers) : after.Delivers where
  handed := step_handed taken delivers.handed
  entries := step_entriesOfUsers taken delivers.handed.mapped delivers.entries

/-- A user is between two zones exactly while one entry is pending for it, in
the queue of its zone, and is not removed meanwhile. -/
theorem transfer_exact {count : Nat} {draw : Nat → Int × Int} {store : Store collate}
    {labels : List (Label grid)} {server : Server collate}
    (ran : run step labels (boot count draw store) = some server) :
    TransferExact grid server.world := by
  have delivers := invariant_of_run (fun _ _ _ => step_delivers) ran (boot_delivers count draw store)
  exact transferExact_of_handed delivers.handed delivers.entries

/-- A player on its way to zone 1. -/
theorem transfer_exact_sample :
    ∃ server, run step (journey.take 7) (boot 0 (fun _ => (9, 9)) World.savedStore) =
        some server ∧ (server.world.queues 1).countP (Task.enters 1) = 1 ∧
          TransferExact initCollisionTile server.world := by
  have completes :
      (run step (journey.take 7) (boot 0 (fun _ => (9, 9)) World.savedStore)).isSome := by rfl
  rcases Option.isSome_iff_exists.mp completes with ⟨server, ran⟩
  refine ⟨server, ran, ?_, transfer_exact ran⟩
  obtain rfl := Option.some.inj ran
  rfl

end Server

end Mmorpg
