import Mmorpg.World.Accounts
import Mmorpg.World.LoginFailure

/-!
# Accounts over whole runs

Every account in the world was read from the tables, and a session that has
entered the game never enters it again.  Nothing keeps two sessions from
playing one account.
-/

namespace Mmorpg

open ZoneLayout Transition

variable {grid : CollisionGrid}

/-! ## Accounts and the players table -/

namespace Store

variable {collate : String → String} {store : Store collate}

/-- The account of a row, or the default one of a failed read. -/
def Genuine (store : Store collate) (account : Account) : Prop :=
  account = (0, "") ∨ ∃ row ∈ store.players.rows, row.playerId = account.1 ∧
    collate row.name = collate account.2

/-- Both names are, up to the collation, that of the row with an identifier. -/
def Owns (store : Store collate) (playerId : Int) (first second : String) : Prop :=
  ∃ row ∈ store.players.rows, row.playerId = playerId ∧ collate row.name = collate first ∧
    collate row.name = collate second

/-- No account leaves the table. -/
def Extends (before after : Store collate) : Prop :=
  ∀ row ∈ before.players.rows, ∃ kept ∈ after.players.rows,
    kept.playerId = row.playerId ∧ kept.name = row.name

theorem Extends.refl (store : Store collate) : Extends store store :=
  fun row member => ⟨row, member, rfl, rfl⟩

/-- An account stays one when rows are added. -/
theorem Genuine.mono {after : Store collate} {account : Account} (genuine : store.Genuine account)
    (grows : store.Extends after) : after.Genuine account := by
  rcases genuine with default | ⟨row, member, playerId, name⟩
  · exact .inl default
  · rcases grows row member with ⟨kept, keptMember, samePlayer, sameName⟩
    exact .inr ⟨kept, keptMember, samePlayer.trans playerId, by rw [sameName, name]⟩

/-- Apart from the default one an account is a row of the table. -/
theorem Genuine.exists_row {account : Account} (genuine : store.Genuine account)
    (read : account.1 ≠ 0) :
    ∃ row ∈ store.players.rows, row.playerId = account.1 ∧
      collate row.name = collate account.2 := by
  rcases genuine with rfl | found
  · exact absurd rfl read
  · exact found

/-- The player identifier decides the row. -/
theorem row_unique {first second : PlayerRow} (firstMember : first ∈ store.players.rows)
    (secondMember : second ∈ store.players.rows) (same : first.playerId = second.playerId) :
    first = second :=
  List.inj_on_of_nodup_map store.players.primaryKey firstMember secondMember same

theorem insertNew_extends (name password : String) (x y : Int) (level exp : Nat) :
    store.Extends
      { store with players := store.players.insertNew name password x y level exp } := by
  intro row member
  refine ⟨row, ?_, rfl, rfl⟩
  unfold PlayersTable.insertNew
  split
  · exact List.mem_append_left _ member
  · exact member

theorem apply_extends (request : DBThread.DbRequest) : store.Extends (request.apply store) := by
  cases request with
  | login session name password => exact insertNew_extends name password 0 0 1 0
  | saveUser subjectId name x y level exp =>
    intro row member
    refine ⟨_, List.mem_map_of_mem member, ?_⟩
    split
    · exact ⟨rfl, rfl⟩
    · exact ⟨rfl, rfl⟩
  | item request => exact Extends.refl store

/-- What a login reads is an account, or nothing was read. -/
theorem extractUserInfo_genuine (calls : LoginCalls) (name : String) :
    store.Genuine ((store.extractUserInfo calls name).playerId,
      (store.extractUserInfo calls name).name) := by
  unfold extractUserInfo
  split
  · unfold PlayersTable.extractUserInfo PlayersTable.extractPlayerInfo
    split
    · exact .inl rfl
    · next row found =>
      rw [PlayersTable.find_eq_some_iff] at found
      exact .inr ⟨row, found.1, rfl, found.2⟩
  · exact .inl rfl

theorem addUserInfo_spec (calls : LoginCalls) (name password : String)
    (store : Store collate) :
    store.Extends (store.addUserInfo calls name password).1 ∧
      ∀ playerId, (store.addUserInfo calls name password).2 = some playerId →
        (store.addUserInfo calls name password).1.Genuine (playerId, name) := by
  unfold addUserInfo
  dsimp only
  split
  · exact ⟨Extends.refl store, fun _ impossible => absurd impossible.symm (Option.some_ne_none _)⟩
  · exact ⟨insertNew_extends name password 0 0 1 0,
      fun _ impossible => absurd impossible.symm (Option.some_ne_none _)⟩
  · refine ⟨insertNew_extends name password 0 0 1 0, ?_⟩
    intro playerId added
    rcases Option.map_eq_some_iff.mp added with ⟨row, found, rfl⟩
    rw [PlayersTable.find_eq_some_iff] at found
    exact .inr ⟨row, found.1, rfl, found.2⟩

/-- A login ends with an account or without a user. -/
theorem processLogin_spec (calls : LoginCalls) (name password : String) (session : Nat) :
    store.Extends (store.processLogin calls name password).1 ∧
      ∀ task userInfo, (store.processLogin calls name password).2.task session = some task →
        task.userInfo = some userInfo →
        (store.processLogin calls name password).1.Genuine (userInfo.playerId, userInfo.name) := by
  unfold processLogin
  split
  · exact ⟨Extends.refl store, fun _ _ impossible => absurd impossible.symm (Option.some_ne_none _)⟩
  · split
    · refine ⟨Extends.refl store, ?_⟩
      rintro _ _ ⟨⟩ ⟨⟩
      exact extractUserInfo_genuine calls name
    · have added := store.addUserInfo_spec calls name password
      split
      · next grown result =>
        rw [result] at added
        exact ⟨added.1, fun _ _ impossible => absurd impossible.symm (Option.some_ne_none _)⟩
      · next grown playerId result =>
        rw [result] at added
        refine ⟨added.1, ?_⟩
        rintro _ _ ⟨⟩ ⟨⟩
        exact added.2 playerId rfl

end Store

/-! ## The invariant -/

namespace Server

variable {collate : String → String} {server next : Server collate}

/-- Every user in the world has a session in the game and an account from the
tables, and so has every login that is queued. -/
structure Enrolled (server : Server collate) : Prop where
  filed : server.world.Filed
  fresh : ∀ session, server.world.nextObjectId ≤ session →
    server.world.sessionState session = .stFree
  ingame : ∀ id account, server.world.accountOf id = some account →
    server.world.sessionState id.databaseId = .stIngame
  genuine : ∀ id account, server.world.accountOf id = some account → server.store.Genuine account
  queued : ∀ thread task userInfo, task ∈ server.world.queues thread →
    task.userInfo = some userInfo → server.store.Genuine (userInfo.playerId, userInfo.name)

/-- What a run does to the sessions that are in the game and to their users. -/
structure Outlives (before after : Server collate) : Prop where
  ingame : ∀ session, before.world.sessionState session = .stIngame →
    after.world.sessionState session = .stIngame
  account : ∀ id, before.world.sessionState id.databaseId = .stIngame →
    after.world.accountOf id = none ∨ after.world.accountOf id = before.world.accountOf id

theorem Outlives.trans {first second third : Server collate} (early : first.Outlives second)
    (late : second.Outlives third) : first.Outlives third where
  ingame session ingame := late.ingame session (early.ingame session ingame)
  account id ingame := by
    rcases late.account id (early.ingame _ ingame) with gone | same
    · exact .inl gone
    · rw [same]
      exact early.account id ingame

/-- A step that registers nobody keeps everyone's account. -/
theorem sameAccounts_step {world : World} {store : Store collate} (counter : Nat)
    (enrolled : server.Enrolled) (same : World.SameAccounts server.world world)
    (grows : server.store.Extends store) :
    Enrolled ⟨world, store, counter⟩ ∧ server.Outlives ⟨world, store, counter⟩ := by
  constructor
  · constructor
    case filed => exact same.filed enrolled.filed
    case fresh =>
      intro session bound
      rw [same.states]
      exact enrolled.fresh session (same.nextObjectId ▸ bound)
    case ingame =>
      intro id account found
      rw [same.states]
      exact enrolled.ingame id account ((same.accounts id) ▸ found)
    case genuine =>
      intro id account found
      exact (enrolled.genuine id account ((same.accounts id) ▸ found)).mono grows
    case queued =>
      intro thread task userInfo member isLogin
      rcases same.queues thread task member with old | harmless
      · exact (enrolled.queued thread task userInfo old isLogin).mono grows
      · rw [harmless] at isLogin
        contradiction
  · constructor
    case ingame => exact fun session ingame => (same.states session).trans ingame
    case account => exact fun id _ => .inr (same.accounts id)

theorem accept_enrolled (enrolled : server.Enrolled) (taken : server.accept = some next) :
    next.Enrolled ∧ server.Outlives next := by
  unfold accept at taken
  dsimp only at taken
  split at taken
  · rw [← Option.some.inj taken]
    have unused := enrolled.fresh server.world.nextObjectId (Nat.le_refl _)
    have states : ∀ session, session ≠ server.world.nextObjectId →
        World.sessionState session
          { server.world with
            sessions := Function.update server.world.sessions server.world.nextObjectId
              (some { state := .stAlloc })
            nextObjectId := server.world.nextObjectId + 1 } =
          server.world.sessionState session := by
      intro session different
      simp [World.sessionState, different]
    have known : ∀ session, server.world.sessionState session = .stIngame →
        session ≠ server.world.nextObjectId := by
      rintro session ingame rfl
      rw [unused] at ingame
      contradiction
    constructor
    · constructor
      case filed => exact enrolled.filed
      case fresh =>
        intro session bound
        have above : server.world.nextObjectId + 1 ≤ session := bound
        rw [states session (by omega)]
        exact enrolled.fresh session (by omega)
      case ingame =>
        intro id account found
        have ingame := enrolled.ingame id account found
        rw [states _ (known _ ingame)]
        exact ingame
      case genuine => exact enrolled.genuine
      case queued => exact enrolled.queued
    · constructor
      case ingame => exact fun session ingame => (states session (known session ingame)).trans ingame
      case account => exact fun id _ => .inr rfl
  · contradiction

/-- Workers and the timer only queue tasks that are no logins. -/
theorem queue_step {world : World} (enrolled : server.Enrolled)
    (same : World.SameAccounts server.world world) :
    Enrolled { server with world := world } ∧ server.Outlives { server with world := world } :=
  sameAccounts_step _ enrolled same (Store.Extends.refl server.store)

theorem receive_enrolled {session : Nat} {packet : ClientPacket} (enrolled : server.Enrolled)
    (taken : server.receive session packet = some next) :
    next.Enrolled ∧ server.Outlives next := by
  unfold receive at taken
  split at taken
  · rw [← Option.some.inj taken]
    apply queue_step enrolled
    apply World.SameAccounts.enqueueByZone _ (World.SameAccounts.refl server.world)
    rfl
  · contradiction

theorem hangUp_enrolled {session : Nat} (enrolled : server.Enrolled)
    (taken : server.hangUp session = some next) : next.Enrolled ∧ server.Outlives next := by
  unfold hangUp at taken
  split at taken
  · split at taken
    · rw [← Option.some.inj taken]
      exact queue_step enrolled ((World.SameAccounts.refl server.world).enqueueByZone rfl)
    · rw [← Option.some.inj taken]
      exact queue_step enrolled ((World.SameAccounts.refl server.world).enqueueByZone rfl)
  · contradiction

theorem fire_enrolled {index : Nat} (enrolled : server.Enrolled)
    (taken : server.fire index = some next) : next.Enrolled ∧ server.Outlives next := by
  unfold fire at taken
  split at taken
  · contradiction
  · rw [← Option.some.inj taken]
    apply queue_step enrolled
    have unscheduled : World.SameAccounts server.world
        { server.world with timers := server.world.timers.eraseIdx index } :=
      (World.SameAccounts.refl server.world).congr rfl rfl rfl rfl
    rw [dispatchTimer_eq]
    apply World.SameAccounts.enqueueByZone _ unscheduled
    rfl

/-- Queueing a login for an account from the tables. -/
theorem enqueueLogin_enrolled {zoneId counter : Nat} {task : Task} {userInfo : DbUserInfo}
    (enrolled : server.Enrolled) (isLogin : task.userInfo = some userInfo)
    (genuine : server.store.Genuine (userInfo.playerId, userInfo.name)) :
    Enrolled ⟨server.world.enqueueByZone zoneId task, server.store, counter⟩ ∧
      server.Outlives ⟨server.world.enqueueByZone zoneId task, server.store, counter⟩ := by
  constructor
  · constructor
    case filed => exact enrolled.filed
    case fresh => exact enrolled.fresh
    case ingame => exact enrolled.ingame
    case genuine => exact enrolled.genuine
    case queued =>
      intro thread other info member otherLogin
      simp only [World.enqueueByZone, Function.update_apply] at member
      split at member
      · rcases List.mem_append.mp member with old | new
        · exact enrolled.queued _ other info old otherLogin
        · rw [List.mem_singleton.mp new, isLogin, Option.some.injEq] at otherLogin
          exact otherLogin ▸ genuine
      · exact enrolled.queued thread other info member otherLogin
  · constructor
    case ingame => exact fun _ ingame => ingame
    case account => exact fun _ _ => .inr rfl

theorem handOver_enrolled {session : Nat} {outcome : LoginOutcome} (enrolled : server.Enrolled)
    (genuine : ∀ task userInfo, outcome.task session = some task → task.userInfo = some userInfo →
      server.store.Genuine (userInfo.playerId, userInfo.name)) :
    (server.handOver session outcome).Enrolled ∧
      server.Outlives (server.handOver session outcome) := by
  cases outcome with
  | dropped => exact queue_step enrolled (World.SameAccounts.refl server.world)
  | loginFail => exact queue_step enrolled (World.SameAccounts.refl server.world).post
  | getUserInfo userInfo items =>
    exact enqueueLogin_enrolled enrolled rfl (genuine _ userInfo rfl rfl)
  | addUserInfo userInfo => exact enqueueLogin_enrolled enrolled rfl (genuine _ userInfo rfl rfl)

/-- Serving a request keeps everyone's account. -/
theorem database_enrolled {index : Nat} {calls : LoginCalls} {written : Bool}
    (enrolled : server.Enrolled) (taken : server.database index calls written = some next) :
    next.Enrolled ∧ server.Outlives next := by
  unfold database at taken
  split at taken
  · contradiction
  · have same : World.SameAccounts server.world
        { server.world with dbRequests := server.world.dbRequests.eraseIdx index } :=
      (World.SameAccounts.refl server.world).congr rfl rfl rfl rfl
    dsimp only at taken
    split at taken
    · next session name password _ =>
      rw [← Option.some.inj taken]
      have spec := server.store.processLogin_spec calls name password session
      have processed := sameAccounts_step server.newUserCounter enrolled same spec.1
      have handed := handOver_enrolled processed.1 spec.2
      exact ⟨handed.1, processed.2.trans handed.2⟩
    · rw [← Option.some.inj taken]
      split
      · exact sameAccounts_step _ enrolled same (Store.apply_extends _)
      · exact sameAccounts_step _ enrolled same (Store.Extends.refl _)

/-- A completed login adds one account from the tables, to a session that was
not in the game. -/
theorem enrolls_step {world : World} {session : Nat} {account : Account}
    (enrolled : server.Enrolled) (enrolls : World.Enrolls session account server.world world)
    (genuine : server.store.Genuine account) :
    Enrolled { server with world := world } ∧ server.Outlives { server with world := world } := by
  have outside : ∀ other, server.world.sessionState other = .stIngame → other ≠ session := by
    rintro other ingame rfl
    rw [enrolls.alloc] at ingame
    contradiction
  constructor
  · constructor
    case filed => exact enrolls.filed enrolled.filed
    case fresh =>
      intro other bound
      have free := enrolled.fresh other (enrolls.nextObjectId ▸ bound)
      rw [enrolls.states, if_neg]
      · exact free
      · rintro rfl
        rw [enrolls.alloc] at free
        contradiction
    case ingame =>
      intro id found accountFound
      rw [enrolls.accounts] at accountFound
      rw [enrolls.states]
      split at accountFound
      · next here => rw [here, ObjID.user_databaseId, if_pos rfl]
      · have ingame := enrolled.ingame id found accountFound
        rw [if_neg (outside _ ingame)]
        exact ingame
    case genuine =>
      intro id found accountFound
      rw [enrolls.accounts] at accountFound
      split at accountFound
      · rw [← Option.some.inj accountFound]
        exact genuine
      · exact enrolled.genuine id found accountFound
    case queued =>
      intro thread task userInfo member isLogin
      rcases enrolls.queues thread task member with old | harmless
      · exact enrolled.queued thread task userInfo old isLogin
      · rw [harmless] at isLogin
        contradiction
  · constructor
    case ingame =>
      intro other ingame
      rw [enrolls.states, if_neg (outside other ingame)]
      exact ingame
    case account =>
      intro id ingame
      right
      rw [enrolls.accounts, if_neg]
      rintro rfl
      exact outside _ ingame rfl

theorem expels_step {world : World} {gone : ObjID} (enrolled : server.Enrolled)
    (expels : World.Expels gone server.world world) :
    Enrolled { server with world := world } ∧ server.Outlives { server with world := world } := by
  have kept : ∀ id account, world.accountOf id = some account →
      server.world.accountOf id = some account := by
    intro id account found
    rw [expels.accounts] at found
    split at found
    · contradiction
    · exact found
  constructor
  · constructor
    case filed => exact expels.filed enrolled.filed
    case fresh =>
      intro session bound
      rw [expels.states]
      exact enrolled.fresh session (expels.nextObjectId ▸ bound)
    case ingame =>
      intro id account found
      rw [expels.states]
      exact enrolled.ingame id account (kept id account found)
    case genuine => exact fun id account found => enrolled.genuine id account (kept id account found)
    case queued =>
      intro thread task userInfo member isLogin
      rcases expels.queues thread task member with old | harmless
      · exact enrolled.queued thread task userInfo old isLogin
      · rw [harmless] at isLogin
        contradiction
  · constructor
    case ingame => exact fun session ingame => (expels.states session).trans ingame
    case account =>
      intro id _
      rw [expels.accounts]
      split
      · exact .inl rfl
      · exact .inr rfl

/-- A task registers at most the user whose answer it brings. -/
theorem runThread_enrolled {thread : Nat} {choice : Choice grid} (enrolled : server.Enrolled)
    (taken : server.runThread thread choice = some next) :
    next.Enrolled ∧ server.Outlives next := by
  unfold runThread at taken
  split at taken
  · contradiction
  · next task rest waiting =>
    rcases Option.map_eq_some_iff.mp taken with ⟨world, ran, rfl⟩
    have dequeued : World.SameAccounts server.world
        { server.world with queues := Function.update server.world.queues thread rest } := by
      constructor
      case queues =>
        intro other entry member
        simp only [Function.update_apply] at member
        split at member
        · next here =>
          rw [here, waiting]
          exact .inl (List.mem_cons_of_mem task member)
        · exact .inl member
      case accounts => exact fun _ => rfl
      case filed => exact id
      case states => exact fun _ => rfl
      case nextObjectId => rfl
    have popped := queue_step enrolled dequeued
    have reached : Enrolled { server with world := world } ∧
        Outlives { server with world :=
          { server.world with queues := Function.update server.world.queues thread rest } }
          { server with world := world } := by
      cases (World.exec_effect popped.1.filed ran).accounts with
      | same same => exact queue_step popped.1 same
      | enrolls session userInfo isLogin enrolls =>
        apply enrolls_step popped.1 enrolls
        exact enrolled.queued thread task userInfo (waiting ▸ List.mem_cons_self) isLogin
      | expels gone expels => exact expels_step popped.1 expels
    exact ⟨reached.1, popped.2.trans reached.2⟩

theorem step_enrolled {label : Label grid} (enrolled : server.Enrolled)
    (taken : step label server = some next) : next.Enrolled ∧ server.Outlives next := by
  cases label with
  | accept => exact accept_enrolled enrolled taken
  | receive session packet => exact receive_enrolled enrolled taken
  | hangUp session => exact hangUp_enrolled enrolled taken
  | fire index => exact fire_enrolled enrolled taken
  | database index calls written => exact database_enrolled enrolled taken
  | run thread choice => exact runThread_enrolled enrolled taken

theorem boot_enrolled (count : Nat) (draw : Nat → Int × Int) (store : Store collate) :
    (boot count draw store).Enrolled := by
  have aside := World.boot_aside count draw
  have noPerson : ∀ id, (World.boot count draw).accountOf id = none := by
    intro id
    rw [World.accountOf, aside.persons]
    rfl
  have noState : ∀ session, (World.boot count draw).sessionState session = .stFree :=
    fun session => World.sessionState_of_sessions aside.sessions session
  constructor
  case filed => exact aside.filed World.filed_empty
  case fresh => exact fun session _ => noState session
  case ingame =>
    intro id account found
    rw [show (boot count draw store).world.accountOf id = none from noPerson id] at found
    contradiction
  case genuine =>
    intro id account found
    rw [show (boot count draw store).world.accountOf id = none from noPerson id] at found
    contradiction
  case queued =>
    intro thread task userInfo member
    rw [show (boot count draw store).world.queues = fun _ => [] from aside.queues] at member
    exact absurd member List.not_mem_nil

/-- From an enrolled state every run leads to one that outlives it. -/
def Continues (before after : Server collate) : Prop :=
  before.Enrolled → after.Enrolled ∧ before.Outlives after

/-- What a session plays at one time it plays as long as it plays. -/
theorem run_continues {labels : List (Label grid)} (ran : run step labels server = some next) :
    server.Continues next := by
  apply relates_of_run _ _ _ ran
  · exact fun _ initially => ⟨initially, fun _ ingame => ingame, fun _ _ => .inr rfl⟩
  · intro first second third early late initially
    have reached := early initially
    have last := late reached.1
    exact ⟨last.1, reached.2.trans last.2⟩
  · exact fun _ _ _ taken initially => step_enrolled initially taken

theorem accountOf_eq_some_iff {world : World} {id : ObjID} {account : Account} :
    world.accountOf id = some account ↔ ∃ subject user, world.getUser id = some (subject, user) ∧
      account = (user.inventory.playerId, subject.name) := by
  simp only [World.accountOf, Option.map_eq_some_iff, World.personOf_eq_some_iff]
  constructor
  · rintro ⟨_, ⟨subject, user, found, rfl⟩, rfl⟩
    exact ⟨subject, user, found, rfl⟩
  · rintro ⟨subject, user, found, rfl⟩
    exact ⟨_, ⟨subject, user, found, rfl⟩, rfl⟩

theorem accountOf_eq_none_iff {world : World} {id : ObjID} :
    world.accountOf id = none ↔ world.getUser id = none := by
  rw [Option.eq_none_iff_forall_ne_some, Option.eq_none_iff_forall_ne_some]
  constructor
  · rintro none ⟨subject, user⟩ found
    exact none _ (accountOf_eq_some_iff.mpr ⟨subject, user, found, rfl⟩)
  · rintro none account found
    rcases accountOf_eq_some_iff.mp found with ⟨subject, user, isUser, _⟩
    exact none _ isUser

theorem Enrolled.user_category (enrolled : server.Enrolled) {id : ObjID} {subject : Subject}
    {user : User} (found : server.world.getUser id = some (subject, user)) :
    id.category = .eUser := by
  rw [World.getUser_eq_some] at found
  rw [← enrolled.filed id subject found.1, Subject.category, found.2]

/-- Two users of one player. -/
theorem Enrolled.same_player (enrolled : server.Enrolled) {first second : ObjID}
    {subjectA subjectB : Subject} {userA userB : User} (different : first ≠ second)
    (foundA : server.world.getUser first = some (subjectA, userA))
    (foundB : server.world.getUser second = some (subjectB, userB))
    (same : userA.inventory.playerId = userB.inventory.playerId) :
    first.databaseId ≠ second.databaseId ∧
      (userA.inventory.playerId ≠ 0 → server.store.Owns userA.inventory.playerId subjectA.name
        subjectB.name) := by
  constructor
  · intro sameSession
    apply different
    rcases first with ⟨categoryA, sessionA⟩
    rcases second with ⟨categoryB, sessionB⟩
    obtain rfl : categoryA = .eUser := enrolled.user_category foundA
    obtain rfl : categoryB = .eUser := enrolled.user_category foundB
    exact congrArg ObjID.user sameSession
  · intro read
    have genuineA := enrolled.genuine first _ (accountOf_eq_some_iff.mpr ⟨_, _, foundA, rfl⟩)
    have genuineB := enrolled.genuine second _ (accountOf_eq_some_iff.mpr ⟨_, _, foundB, rfl⟩)
    rcases genuineA.exists_row read with ⟨row, member, playerId, nameA⟩
    rcases genuineB.exists_row (same ▸ read) with ⟨other, otherMember, otherId, nameB⟩
    obtain rfl := Store.row_unique member otherMember (playerId.trans (same.trans otherId.symm))
    exact ⟨row, member, playerId, nameA, nameB⟩

/-! ## Results -/

/-- The users of one player have different sessions.  Unless the player
identifier is zero, the default of a failed read, both have the name of the one
row with that identifier, up to the collation. -/
def DistinctSessions (server : Server collate) : Prop :=
  ∀ first second subjectA userA subjectB userB, first ≠ second →
    server.world.getUser first = some (subjectA, userA) →
    server.world.getUser second = some (subjectB, userB) →
    userA.inventory.playerId = userB.inventory.playerId →
      first.databaseId ≠ second.databaseId ∧
        (userA.inventory.playerId ≠ 0 → server.store.Owns userA.inventory.playerId subjectA.name
          subjectB.name)

/-- A user of the first state plays the same account as long as it is in the
world, and does not come back once it is gone. -/
def OneUserPerSession (middle last final : Server collate) : Prop :=
  ∀ id subject user, middle.world.getUser id = some (subject, user) →
    (∀ lastSubject lastUser, last.world.getUser id = some (lastSubject, lastUser) →
      lastUser.inventory.playerId = user.inventory.playerId ∧ lastSubject.name = subject.name) ∧
    (last.world.getUser id = none → final.world.getUser id = none)

/-- Two users of one player belong to different sessions of its account, and a
session never has a second user. -/
theorem users_of_one_player (count : Nat) (draw : Nat → Int × Int) (store : Store collate)
    {early late later : List (Label grid)} {middle last final : Server collate}
    (reached : run step early (boot count draw store) = some middle)
    (ran : run step late middle = some last) (continued : run step later last = some final) :
    DistinctSessions middle ∧ OneUserPerSession middle last final := by
  have enrolled := (run_continues reached (boot_enrolled count draw store)).1
  have lasting := run_continues ran enrolled
  have afterwards := run_continues continued lasting.1
  constructor
  · exact fun _ _ _ _ _ _ different foundA foundB same =>
      enrolled.same_player different foundA foundB same
  · intro id subject user found
    have account := accountOf_eq_some_iff.mpr ⟨subject, user, found, rfl⟩
    have ingame := enrolled.ingame id _ account
    constructor
    · intro lastSubject lastUser lastFound
      have lastAccount := accountOf_eq_some_iff.mpr ⟨lastSubject, lastUser, lastFound, rfl⟩
      rcases lasting.2.account id ingame with gone | same
      · rw [gone] at lastAccount
        contradiction
      · rw [same, account, Option.some.injEq, Prod.mk.injEq] at lastAccount
        exact ⟨lastAccount.1.symm, lastAccount.2.symm⟩
    · intro gone
      rw [← accountOf_eq_none_iff] at gone ⊢
      rcases afterwards.2.account id (lasting.2.ingame _ ingame) with still | same
      · exact still
      · exact same.trans gone

/-- No player has two users in the world. -/
def NoPlayerTwice (initial : Server collate) : Prop :=
  ∀ (labels : List (Label initCollisionTile)) server, run step labels initial = some server →
    ∀ first second subjectA userA subjectB userB,
      server.world.getUser first = some (subjectA, userA) →
      server.world.getUser second = some (subjectB, userB) →
      userA.inventory.playerId = userB.inventory.playerId → first = second

/-- Two sessions log in under one name. -/
def doubleLogin : List (Label initCollisionTile) :=
  [.accept, .accept, .receive 1 (.userLoginReq "kim" ""), .receive 2 (.userLoginReq "kim" ""),
    .run invalidZoneId .steady, .run invalidZoneId .steady, .database 0 {} true,
    .database 0 {} true, .run 0 .steady, .run 0 .steady]

/-- Two sessions log in under one name and both play it. -/
theorem doubleLogin_reaches : ∃ server : Server id,
    run step doubleLogin (boot 0 (fun _ => (9, 9)) World.savedStore) = some server ∧
      server.world.accountOf (ObjID.user 1) = some (1, "kim") ∧
      server.world.accountOf (ObjID.user 2) = some (1, "kim") := by
  have completes :
      (run step doubleLogin (boot 0 (fun _ => (9, 9)) World.savedStore)).isSome := by rfl
  rcases Option.isSome_iff_exists.mp completes with ⟨server, ran⟩
  refine ⟨server, ran, ?_⟩
  obtain rfl := Option.some.inj ran
  exact ⟨rfl, rfl⟩

/-- The second login of the same account. -/
theorem users_of_one_player_sample : ∃ server : Server id,
    run step doubleLogin (boot 0 (fun _ => (9, 9)) World.savedStore) = some server ∧
      server.world.accountOf (ObjID.user 1) = some (1, "kim") ∧
      server.world.accountOf (ObjID.user 2) = some (1, "kim") ∧
      DistinctSessions server ∧ OneUserPerSession server server server := by
  rcases doubleLogin_reaches with ⟨server, ran, first, second⟩
  exact ⟨server, ran, first, second,
    users_of_one_player 0 _ _ ran (run_nil server) (run_nil server)⟩

/-- Both sessions of the double login play the same account. -/
theorem not_noPlayerTwice : ¬NoPlayerTwice (boot 0 (fun _ => (9, 9)) World.savedStore) := by
  intro once
  rcases doubleLogin_reaches with ⟨server, ran, first, second⟩
  rcases accountOf_eq_some_iff.mp first with ⟨subjectA, userA, foundA, accountA⟩
  rcases accountOf_eq_some_iff.mp second with ⟨subjectB, userB, foundB, accountB⟩
  have same := once doubleLogin server ran _ _ _ _ _ _ foundA foundB
    ((Prod.mk.inj accountA).1.symm.trans (Prod.mk.inj accountB).1)
  exact absurd same (by decide)

end Server

end Mmorpg
