import Mmorpg.World.Admission
import Mmorpg.World.LoginPosition

/-!
# Deposits over whole runs

The books balance in every state of a run in which the database meets no error,
the writes of one shard are made in their order, and an account is read when
nothing of it is under way.
-/

namespace Mmorpg

open ZoneLayout DBThread Transition World

variable {grid : CollisionGrid}

theorem World.accountOf_eq_belongings (id : ObjID) (world : World) :
    world.accountOf id = (world.belongings id).map fun belongings =>
      (belongings.playerId, belongings.name) := by
  cases held : world.belongings id with
  | none =>
      rw [Option.map_none, Server.accountOf_eq_none_iff, Option.eq_none_iff_forall_ne_some]
      rintro ⟨subject, user⟩ found
      rw [belongings_eq_some.mpr ⟨subject, user, found, rfl⟩] at held
      contradiction
  | some belongings =>
      obtain ⟨subject, user, found, rfl⟩ := belongings_eq_some.mp held
      exact Server.accountOf_eq_some_iff.mpr ⟨subject, user, found, rfl⟩

namespace Server

variable {collate : String → String} {hash : String → Nat}

/-! ## Orderly steps -/

/-- Nothing of an account is under way: no session plays it, no login of it is
queued, and no write of it waits. -/
structure Unclaimed (name : String) (server : Server collate) : Prop where
  offline : ∀ session < server.world.nextObjectId,
    ∀ account ∈ server.world.accountOf (ObjID.user session), collate account.2 ≠ collate name
  unqueued : ∀ thread ∈ gameThreads, ∀ task ∈ server.world.queues thread,
    ∀ userInfo ∈ task.userInfo, collate userInfo.name ≠ collate name
  written : ∀ request ∈ server.world.dbRequests, request.account collate ≠ some (collate name) ∧
    ∀ row ∈ server.store.players.find name, request.player ≠ some row.playerId

instance (name : String) (server : Server collate) : Decidable (server.Unclaimed name) :=
  decidable_of_iff
    ((∀ session < server.world.nextObjectId, ∀ account ∈ server.world.accountOf
        (ObjID.user session), collate account.2 ≠ collate name) ∧
      (∀ thread ∈ gameThreads, ∀ task ∈ server.world.queues thread,
        ∀ userInfo ∈ task.userInfo, collate userInfo.name ≠ collate name) ∧
      ∀ request ∈ server.world.dbRequests, request.account collate ≠ some (collate name) ∧
        ∀ row ∈ server.store.players.find name, request.player ≠ some row.playerId)
    ⟨fun ⟨offline, unqueued, written⟩ => ⟨offline, unqueued, written⟩,
      fun unclaimed => ⟨unclaimed.offline, unclaimed.unqueued, unclaimed.written⟩⟩

instance (index : Nat) (request : DbRequest) (savings : Savings) :
    Decidable (savings.FirstOfShard hash index request) :=
  inferInstanceAs (Decidable (∀ earlier ∈ savings.requests.take index,
    earlier.fixedShard hash = none ∨ earlier.fixedShard hash ≠ request.fixedShard hash))

/-- The database makes its calls without an error, a write when it is the first
of its shard, and reads an account that nobody claims. -/
def Orderly (hash : String → Nat) (label : Label grid) (server : Server collate) : Prop :=
  match label with
  | .database index calls written =>
      match server.world.dbRequests[index]? with
      | some (.login _ name _) => calls = {} ∧ server.Unclaimed name
      | some write => written = true ∧ server.world.savings.FirstOfShard hash index write
      | none => True
  | _ => True

instance (label : Label grid) (server : Server collate) : Decidable (server.Orderly hash label) :=
  match label with
  | .database index calls written =>
      match found : server.world.dbRequests[index]? with
      | some (.login _ name _) => decidable_of_iff (calls = {} ∧ server.Unclaimed name) (by
          simp only [Orderly, found])
      | some (.saveUser id name x y level exp) => decidable_of_iff
          (written = true ∧ server.world.savings.FirstOfShard hash index
            (.saveUser id name x y level exp)) (by simp only [Orderly, found])
      | some (.item request) => decidable_of_iff
          (written = true ∧ server.world.savings.FirstOfShard hash index (.item request)) (by
            simp only [Orderly, found])
      | none => isTrue (by simp only [Orderly, found])
  | .accept | .receive .. | .hangUp _ | .fire _ | .run .. => isTrue trivial

/-! ## The invariant -/

/-- The player a queued login belongs to. -/
def loginKey (task : Task) : Option Int :=
  task.userInfo.map DbUserInfo.playerId

/-- What holds in every reachable state: what players own, on the way from the
tables or in the world, is what the tables and the pending writes say. -/
structure Deposited (server : Server collate) : Prop where
  enrolled : server.Enrolled
  confined : server.world.Confined
  books : server.world.savings.Balanced server.store
  arriving : ∀ thread, ∀ task ∈ server.world.queues thread, ∀ userInfo,
    task.userInfo = some userInfo → Savings.Arriving server.world.savings server.store task userInfo
  distinct : Distinct loginKey server.world.queues

theorem mem_loginKeys {tasks : List Task} {playerId : Int} :
    playerId ∈ tasks.filterMap loginKey ↔ ∃ task ∈ tasks, ∃ userInfo,
      task.userInfo = some userInfo ∧ userInfo.playerId = playerId := by
  simp [List.mem_filterMap, loginKey]

variable {label : Label grid} {before after server : Server collate}

theorem takes_sublist (label : Label grid) (queues : Nat → List Task) (thread : Nat) :
    (label.takes queues thread).Sublist (queues thread) := by
  unfold Label.takes
  split
  · rw [Function.update_apply]
    split
    · next here => exact here ▸ List.tail_sublist _
    · exact List.Sublist.refl _
  · exact List.Sublist.refl _

/-- A queue holds what it held and the task that was pushed. -/
theorem mem_queuesWith {world : World} {next : Option (Nat × Task)} {place : Nat} {task : Task}
    (member : task ∈ world.queuesWith next place) :
    task ∈ world.queues place ∨ ∃ zoneId, next = some (zoneId, task) := by
  unfold queuesWith at member
  split at member
  · exact .inl member
  · next zoneId queued =>
    simp only [enqueueByZone, Function.update_apply] at member
    split at member
    · next here =>
      rcases List.mem_append.mp member with old | new
      · exact .inl (here ▸ old)
      · exact .inr ⟨zoneId, by rw [List.mem_singleton.mp new]⟩
    · exact .inl member

/-- What a step has to show: its books, that the queued logins still arrive,
and that a login it queues is the only one of its player. -/
theorem Deposited.of_step (deposited : before.Deposited) (taken : step label before = some after)
    (books : after.world.savings.Balanced after.store)
    (old : ∀ thread, ∀ task ∈ label.takes before.world.queues thread, ∀ userInfo,
      task.userInfo = some userInfo →
        Savings.Arriving after.world.savings after.store task userInfo)
    (new : ∀ zoneId task userInfo, before.puts label = some (zoneId, task) →
      task.userInfo = some userInfo →
        Savings.Arriving after.world.savings after.store task userInfo ∧
          ∀ thread, userInfo.playerId ∉ (before.world.queues thread).filterMap loginKey) :
    after.Deposited := by
  have queues := step_queues deposited.enrolled.filed taken
  have kept := deposited.distinct.sublist (takes_sublist label before.world.queues)
  refine ⟨(step_enrolled deposited.enrolled taken).1,
    step_confined deposited.enrolled.filed taken deposited.confined, books, ?_, ?_⟩
  · intro thread task member userInfo isLogin
    rw [queues] at member
    rcases mem_queuesWith member with stayed | ⟨zoneId, put⟩
    · exact old thread task stayed userInfo isLogin
    · exact (new zoneId task userInfo put isLogin).1
  · rw [queues]
    cases put : before.puts label with
    | none => exact kept
    | some queued =>
        rcases queued with ⟨zoneId, task⟩
        cases isLogin : task.userInfo with
        | none => exact kept.push_none (by rw [loginKey, isLogin]; rfl)
        | some userInfo =>
            have alone := (new zoneId task userInfo put isLogin).2
            refine kept.push_new (show loginKey task = some userInfo.playerId by
              rw [loginKey, isLogin]; rfl) ?_
            intro thread member
            exact alone thread (((takes_sublist label _ thread).filterMap loginKey).subset member)

/-- Only a processed login queues a login. -/
theorem login_of_puts {zoneId : Nat} {task : Task} {userInfo : DbUserInfo}
    (put : before.puts label = some (zoneId, task)) (isLogin : task.userInfo = some userInfo) :
    ∃ index calls written, label = .database index calls written := by
  cases label with
  | database index calls written => exact ⟨index, calls, written, rfl⟩
  | accept => contradiction
  | receive session packet =>
      obtain ⟨_, _, same⟩ := Option.map_eq_some_iff.mp put
      rw [← (Prod.mk.inj same).2] at isLogin
      contradiction
  | hangUp session =>
      unfold puts at put
      dsimp only at put
      split at put
      · rw [← (Prod.mk.inj (Option.some.inj put)).2] at isLogin
        contradiction
      · rw [← (Prod.mk.inj (Option.some.inj put)).2] at isLogin
        contradiction
  | fire index =>
      obtain ⟨_, _, same⟩ := Option.map_eq_some_iff.mp put
      rw [← (Prod.mk.inj same).2] at isLogin
      contradiction
  | run thread choice =>
      unfold puts at put
      dsimp only at put
      split at put
      · contradiction
      · unfold followUp at put
        split at put
        · split at put
          · contradiction
          · split at put
            · rw [← (Prod.mk.inj (Option.some.inj put)).2] at isLogin
              contradiction
            · contradiction
        · split at put
          · contradiction
          · split at put
            · rw [← (Prod.mk.inj (Option.some.inj put)).2] at isLogin
              contradiction
            · contradiction
        · contradiction

/-- A step that touches neither savings nor tables. -/
theorem Deposited.idle (deposited : before.Deposited) (taken : step label before = some after)
    (savings : after.world.savings = before.world.savings) (store : after.store = before.store)
    (noLogin : ∀ zoneId task, before.puts label = some (zoneId, task) → task.userInfo = none) :
    after.Deposited := by
  apply deposited.of_step taken
  · rw [savings, store]
    exact deposited.books
  · intro thread task member userInfo isLogin
    rw [savings, store]
    exact deposited.arriving thread task ((takes_sublist label _ thread).subset member) userInfo
      isLogin
  · intro zoneId task userInfo put isLogin
    rw [noLogin zoneId task put] at isLogin
    contradiction

/-! ## The database -/

/-- What a database step leaves. -/
theorem database_left {index : Nat} {calls : LoginCalls} {written : Bool}
    (taken : before.database index calls written = some after) :
    ∃ request, before.world.dbRequests[index]? = some request ∧
      after.world.savings = before.world.savings.taken index ∧
      after.store = match request with
        | .login _ name password => (before.store.processLogin calls name password).1
        | write => if written then write.apply before.store else before.store := by
  unfold database at taken
  split at taken
  · contradiction
  · next request found =>
    refine ⟨request, found, ?_⟩
    cases request with
    | login session name password =>
        rw [← Option.some.inj taken]
        dsimp only
        generalize (before.store.processLogin calls name password).2 = outcome
        cases outcome <;> exact ⟨rfl, rfl⟩
    | saveUser id name x y level exp =>
        rw [← Option.some.inj taken]
        cases written <;> exact ⟨rfl, rfl⟩
    | item request =>
        rw [← Option.some.inj taken]
        cases written <;> exact ⟨rfl, rfl⟩

/-- Nobody plays an unclaimed account. -/
theorem Unclaimed.absent {name : String} (unclaimed : before.Unclaimed name)
    (deposited : before.Deposited) (id : ObjID) (belongings : Belongings)
    (held : before.world.savings.belongings id = some belongings) :
    collate belongings.name ≠ collate name := by
  have account : before.world.accountOf id = some (belongings.playerId, belongings.name) := by
    rw [accountOf_eq_belongings]
    exact congrArg (Option.map _) held
  obtain ⟨subject, user, found, _⟩ := belongings_eq_some.mp held
  have category := deposited.enrolled.user_category found
  have known : id.databaseId < before.world.nextObjectId := by
    by_contra fresh
    have free := deposited.enrolled.fresh id.databaseId (Nat.not_lt.mp fresh)
    rw [deposited.enrolled.ingame id _ account] at free
    contradiction
  rcases id with ⟨kind, session⟩
  obtain rfl : kind = .eUser := category
  exact unclaimed.offline session known _ account

/-- A login of an unclaimed account is under way. -/
theorem Unclaimed.arriving {name : String} {task : Task} {userInfo : DbUserInfo}
    {store : Store collate} {index : Nat} (unclaimed : before.Unclaimed name)
    (deposited : before.Deposited) (reads : before.store.Reads name task userInfo store) :
    Savings.Arriving (before.world.savings.taken index) store task userInfo := by
  obtain ⟨row, found, player, origin, tile, carries⟩ := reads.row
  have fresh : ∀ playerId, before.store.Registers playerId →
      playerId ≠ before.store.players.nextId := by
    rintro _ ⟨other, member, rfl⟩ same
    have below := (before.store.players.identity other member).2
    omega
  constructor
  case absent =>
    intro id belongings held same
    obtain ⟨other, otherFound, otherPlayer⟩ := deposited.books.registered id belongings held
    rcases origin with ⟨old, _⟩ | next
    · have alike := (Store.row_of_player otherFound old
        (otherPlayer.trans (same.trans player.symm))).2
      exact unclaimed.absent deposited id belongings held alike
    · have known := Store.registers_of_find otherFound
      exact fresh _ known (otherPlayer.trans (same.trans (player.symm.trans next)))
  case settled =>
    intro request member
    have waits : request ∈ before.world.dbRequests := Savings.mem_taken member
    obtain ⟨account, items⟩ := unclaimed.written request waits
    rw [reads.named]
    refine ⟨?_, account⟩
    rw [← player]
    rcases origin with ⟨old, _⟩ | next
    · exact items row old
    · intro mine
      exact fresh _ (deposited.books.owned request waits _ mine) next
  case row =>
    rw [reads.named]
    exact ⟨row, found, player, tile, carries⟩

/-- The player of an unclaimed account has no login in the queues. -/
theorem Unclaimed.unqueued_player {name : String} {task : Task} {userInfo : DbUserInfo}
    {store : Store collate} (unclaimed : before.Unclaimed name)
    (deposited : before.Deposited) (reads : before.store.Reads name task userInfo store)
    (thread : Nat) : userInfo.playerId ∉ (before.world.queues thread).filterMap loginKey := by
  rw [mem_loginKeys]
  rintro ⟨other, member, otherInfo, isLogin, same⟩
  have distinct := unclaimed.unqueued thread (deposited.confined thread other member) other member
    otherInfo isLogin
  obtain ⟨row, found, player, origin, _⟩ := reads.row
  obtain ⟨otherRow, otherFound, otherPlayer, _⟩ :=
    (deposited.arriving thread other member otherInfo isLogin).row
  rcases origin with ⟨old, _⟩ | next
  · exact distinct (Store.row_of_player otherFound old
      (otherPlayer.trans (same.trans player.symm))).2
  · obtain ⟨known, knownMember, knownPlayer⟩ := Store.registers_of_find otherFound
    have below := (before.store.players.identity known knownMember).2
    omega

/-- A login that an orderly step queues has read an unclaimed account. -/
theorem reads_of_puts {zoneId : Nat} {task : Task} {userInfo : DbUserInfo}
    (deposited : before.Deposited) (orderly : before.Orderly hash label)
    (taken : step label before = some after) (put : before.puts label = some (zoneId, task))
    (isLogin : task.userInfo = some userInfo) :
    ∃ name, before.Unclaimed name ∧ before.store.Reads name task userInfo after.store := by
  obtain ⟨index, calls, written, rfl⟩ := login_of_puts put isLogin
  obtain ⟨request, found, _, store⟩ := database_left taken
  unfold Orderly at orderly
  dsimp only at orderly
  rw [found] at orderly
  simp only [puts, handsOver, found] at put
  cases request with
  | login session name password =>
      dsimp only at put
      obtain ⟨rfl, unclaimed⟩ := orderly
      have hands : (before.store.processLogin {} name password).2.task session = some task := by
        generalize (before.store.processLogin {} name password).2 = outcome at put ⊢
        cases outcome with
        | dropped => contradiction
        | loginFail => contradiction
        | getUserInfo info items =>
            rw [← (Prod.mk.inj (Option.some.inj put)).2]
            rfl
        | addUserInfo info =>
            rw [← (Prod.mk.inj (Option.some.inj put)).2]
            rfl
      rw [store]
      exact ⟨name, unclaimed, Store.processLogin_reads deposited.books.referenced hands isLogin⟩
  | saveUser id name x y level exp => contradiction
  | item request => contradiction

/-- Serving the first request of a shard keeps the books. -/
theorem database_deposited {index : Nat} {calls : LoginCalls} {written : Bool}
    (deposited : before.Deposited)
    (orderly : before.Orderly hash (.database index calls written : Label grid))
    (taken : before.database index calls written = some after) : after.Deposited := by
  obtain ⟨request, found, savings, store⟩ := database_left taken
  have pending : before.world.savings.requests[index]? = some request := found
  have step_ : step (.database index calls written : Label grid) before = some after := taken
  have ordered := orderly
  unfold Orderly at orderly
  dsimp only at orderly
  rw [found] at orderly
  by_cases isWrite : request.isWrite = true
  · -- A write, in its turn.
    obtain ⟨made, first⟩ : written = true ∧
        before.world.savings.FirstOfShard hash index request := by
      cases request with
      | login session name password => contradiction
      | saveUser id name x y level exp => exact orderly
      | item request => exact orderly
    have wrote : after.store = request.write before.store := by
      rw [store, made]
      cases request with
      | login session name password => contradiction
      | saveUser id name x y level exp => rfl
      | item request => rfl
    apply deposited.of_step step_
    · rw [savings, wrote]
      exact deposited.books.write pending first
    · intro thread task member userInfo isLogin
      rw [savings, wrote]
      exact (deposited.arriving thread task member userInfo isLogin).write pending
    · intro zoneId task userInfo put isLogin
      simp only [puts, handsOver, found] at put
      cases request with
      | login session name password => contradiction
      | saveUser id name x y level exp => contradiction
      | item request => contradiction
  · cases request with
    | login session name password =>
        obtain ⟨rfl, unclaimed⟩ := orderly
        have inventory : after.store.inventory = before.store.inventory := by
          rw [store]
          exact Store.processLogin_inventory {} name password before.store
        have kept : ∀ other row, before.store.players.find other = some row →
            after.store.players.find other = some row := by
          rw [store]
          exact fun other row => Store.find_processLogin
        apply deposited.of_step step_
        · rw [savings]
          exact deposited.books.register pending rfl inventory kept
        · intro thread task member userInfo isLogin
          rw [savings]
          exact (deposited.arriving thread task member userInfo isLogin).register inventory kept
        · intro zoneId task userInfo put isLogin
          obtain ⟨_, claims, reads⟩ := reads_of_puts deposited ordered step_ put isLogin
          rw [savings]
          exact ⟨claims.arriving deposited reads, claims.unqueued_player deposited reads⟩
    | saveUser id name x y level exp => exact absurd rfl isWrite
    | item request => exact absurd rfl isWrite

/-! ## The tasks -/

/-- What a task does to the books, and to a login that waits behind it. -/
theorem turnover_balanced {world result : World} {store : Store collate} {task : Task}
    {choice : Choice grid} (turnover : Turnover choice world task result)
    (balanced : world.savings.Balanced store)
    (arriving : ∀ userInfo, task.userInfo = some userInfo →
      Savings.Arriving world.savings store task userInfo) :
    result.savings.Balanced store ∧ ∀ other userInfo,
      Savings.Arriving world.savings store other userInfo →
      (∀ info, task.userInfo = some info → info.playerId ≠ userInfo.playerId) →
        Savings.Arriving result.savings store other userInfo := by
  cases turnover with
  | idle same =>
      rw [same]
      exact ⟨balanced, fun _ _ waiting _ => waiting⟩
  | asks same =>
      rw [same]
      constructor
      · refine balanced.ask _ rfl ?_
        exact fun _ impossible => absurd impossible.symm (Option.some_ne_none _)
      · intro other userInfo waiting _
        apply waiting.askAll
        intro request member
        rw [List.mem_singleton.mp member]
        exact ⟨(Option.some_ne_none _).symm, (Option.some_ne_none _).symm⟩
  | stores found outcome same =>
      have held := belongings_eq_some.mpr ⟨_, _, found, rfl⟩
      rw [same, setInventory_savings]
      refine ⟨balanced.stored held outcome, ?_⟩
      exact fun other userInfo waiting _ => waiting.stored balanced held outcome
  | leaves x y found _ same =>
      have held := belongings_eq_some.mpr ⟨_, _, found, rfl⟩
      rw [same]
      constructor
      · refine Savings.Balanced.without (balanced.ask (.saveUser _ _ x y _ _) rfl ?_) _
        intro name saved
        exact .inr ⟨_, _, held, Option.some.inj saved⟩
      · intro other userInfo waiting _
        refine Savings.Arriving.without (waiting.askAll ?_) _
        intro request member
        rw [List.mem_singleton.mp member]
        refine ⟨(Option.some_ne_none _).symm, fun alike => ?_⟩
        exact waiting.other_name balanced held (Option.some.inj alike)
  | @enters _ session subject user saves _ new bodyOf named _ same =>
      obtain ⟨userInfo, isLogin⟩ := Task.userInfo_of_newcomer new
      have fresh := Savings.fresh_newcomer isLogin new bodyOf
      have entered := balanced.enter isLogin new bodyOf (arriving userInfo isLogin)
      have brings : subject.belongings =
          some ⟨subject.name, user.inventory.playerId, user.inventory.slots,
            user.inventory.issued⟩ := by
        rw [Subject.belongings, bodyOf]
      have held : Function.update world.savings.belongings (ObjID.user session) subject.belongings
          (ObjID.user session) = some ⟨subject.name, user.inventory.playerId, user.inventory.slots,
            user.inventory.issued⟩ := by
        rw [Function.update_self, brings]
      have noItem : ∀ request ∈ saves, request.player = none := by
        intro request member
        obtain ⟨id, x, y, rfl⟩ := named request member
        rfl
      rw [same]
      constructor
      · refine entered.askAll noItem ?_
        intro request member name saved
        obtain ⟨id, x, y, rfl⟩ := named request member
        exact .inr ⟨_, _, held, Option.some.inj saved⟩
      · intro other otherInfo waiting apart
        have stranger : ∀ belongings, subject.belongings = some belongings →
            belongings.playerId ≠ otherInfo.playerId := by
          intro belongings mine
          rw [brings] at mine
          rw [← Option.some.inj mine]
          exact fresh.playerId ▸ apart userInfo isLogin
        have waits := waiting.enter (ObjID.user session) stranger
        refine waits.askAll ?_
        intro request member
        refine ⟨?_, ?_⟩
        · rw [noItem request member]
          exact (Option.some_ne_none _).symm
        · obtain ⟨id, x, y, rfl⟩ := named request member
          exact fun alike => waits.other_name entered held (Option.some.inj alike)

theorem runThread_deposited {thread : Nat} {choice : Choice grid} (deposited : before.Deposited)
    (taken : before.runThread thread choice = some after) : after.Deposited := by
  have step_ : step (.run thread choice) before = some after := taken
  unfold runThread at taken
  split at taken
  · contradiction
  · next task rest queued =>
    obtain ⟨world, ran, rfl⟩ := Option.map_eq_some_iff.mp taken
    have first : task ∈ before.world.queues thread := queued ▸ List.mem_cons_self
    obtain ⟨books, waiting⟩ := turnover_balanced (exec_turnover ran) deposited.books
      (deposited.arriving thread task first)
    apply deposited.of_step step_ books
    · intro place other member userInfo isLogin
      have waited : other ∈ Function.update before.world.queues thread rest place := by
        rw [Label.takes, queued] at member
        exact member
      have old := (takes_sublist (.run thread choice : Label grid) _ place).subset member
      refine waiting other userInfo (deposited.arriving place other old userInfo isLogin) ?_
      intro info headLogin same
      have key : loginKey task = some userInfo.playerId := by
        rw [loginKey, headLogin, ← same]
        rfl
      have gone := deposited.distinct.gone queued key place
      exact gone (mem_loginKeys.mpr ⟨other, waited, userInfo, isLogin, rfl⟩)
    · intro zoneId other userInfo put isLogin
      obtain ⟨index, calls, written, impossible⟩ := login_of_puts put isLogin
      contradiction

/-- Savings and tables change in tasks and in the database only. -/
theorem step_savings (taken : step label before = some after)
    (noTask : ∀ thread choice, label ≠ .run thread choice)
    (noDatabase : ∀ index calls written, label ≠ .database index calls written) :
    after.world.savings = before.world.savings ∧ after.store = before.store := by
  have objects := (step_objects taken noTask).1
  have left : after.world.dbRequests = before.world.dbRequests ∧ after.store = before.store := by
    cases label with
    | accept =>
        simp only [step, accept] at taken
        split at taken
        · exact Option.some.inj taken ▸ ⟨rfl, rfl⟩
        · contradiction
    | receive session packet =>
        simp only [step, receive] at taken
        split at taken
        · exact Option.some.inj taken ▸ ⟨rfl, rfl⟩
        · contradiction
    | hangUp session =>
        simp only [step, hangUp] at taken
        split at taken
        · split at taken
          · exact Option.some.inj taken ▸ ⟨rfl, rfl⟩
          · exact Option.some.inj taken ▸ ⟨rfl, rfl⟩
        · contradiction
    | fire index =>
        simp only [step, fire] at taken
        split at taken
        · contradiction
        · rw [← Option.some.inj taken]
          dsimp only
          rw [dispatchTimer_eq]
          exact ⟨rfl, rfl⟩
    | database index calls written => exact absurd rfl (noDatabase index calls written)
    | run thread choice => exact absurd rfl (noTask thread choice)
  exact ⟨savings_congr objects left.1, left.2⟩

theorem step_deposited (deposited : before.Deposited) (orderly : before.Orderly hash label)
    (taken : step label before = some after) : after.Deposited := by
  by_cases database : ∃ index calls written, label = .database index calls written
  · obtain ⟨index, calls, written, rfl⟩ := database
    exact database_deposited deposited orderly taken
  · have noDatabase : ∀ index calls written, label ≠ .database index calls written :=
      fun index calls written same => database ⟨index, calls, written, same⟩
    by_cases task : ∃ thread choice, label = .run thread choice
    · obtain ⟨thread, choice, rfl⟩ := task
      exact runThread_deposited deposited taken
    · obtain ⟨savings, store⟩ := step_savings taken
        (fun thread choice same => task ⟨thread, choice, same⟩) noDatabase
      refine deposited.idle taken savings store fun zoneId queued put => ?_
      rw [Option.eq_none_iff_forall_ne_some]
      intro userInfo isLogin
      obtain ⟨index, calls, written, same⟩ := login_of_puts put isLogin
      exact noDatabase index calls written same

theorem boot_deposited (count : Nat) (draw : Nat → Int × Int) {store : Store collate}
    (referenced : store.Referenced) : (boot count draw store).Deposited := by
  have queues : (boot count draw store).world.queues = fun _ => [] := (boot_aside count draw).queues
  have nobody : ∀ id, (boot count draw store).world.savings.belongings id = none :=
    fun id => congrFun (congrArg Savings.belongings (boot_savings count draw)) id
  have nothing : (boot count draw store).world.savings.requests = [] :=
    congrArg Savings.requests (boot_savings count draw)
  refine ⟨boot_enrolled count draw store, ?_, ?_, ?_, ?_⟩
  · intro thread task member
    rw [queues] at member
    exact absurd member List.not_mem_nil
  · constructor
    case referenced => exact referenced
    case owned =>
      intro request member
      rw [nothing] at member
      exact absurd member List.not_mem_nil
    case spelling =>
      have silent : ∀ name, ¬(boot count draw store).world.savings.Spells name := by
        rintro name (⟨request, member, _⟩ | ⟨id, belongings, held, _⟩)
        · rw [nothing] at member
          exact absurd member List.not_mem_nil
        · rw [nobody] at held
          contradiction
      exact fun first _ spells => absurd spells (silent first)
    all_goals
      intro id
      simp [nobody id]
  · intro thread task member
    rw [queues] at member
    exact absurd member List.not_mem_nil
  · rw [queues]
    exact ⟨fun _ => List.nodup_nil, fun _ _ _ impossible => absurd impossible List.not_mem_nil⟩

/-- The books are right in every state of an orderly run. -/
theorem run_deposited {count : Nat} {draw : Nat → Int × Int} {store : Store collate}
    {labels : List (Label grid)} (referenced : store.Referenced)
    (orderly : Along step (fun label server => server.Orderly hash label) labels
      (boot count draw store))
    (ran : run step labels (boot count draw store) = some server) : server.Deposited :=
  invariant_of_along (fun _ _ _ guard taken deposited => step_deposited deposited guard taken)
    orderly ran (boot_deposited count draw referenced)

end Server

end Mmorpg
