import Mmorpg.World.DepositRuns

/-!
# Coming back

A user who leaves the world comes back as it left, whatever the others do in
the meantime and in whatever order the database catches up.
-/

namespace Mmorpg

open ZoneLayout DBThread Transition World

variable {grid : CollisionGrid} {collate : String → String} {hash : String → Nat}

namespace Savings

variable {savings : Savings} {store : Store collate} {name : String} {playerId : Int}

/-- More requests about others do not show once everything is settled. -/
theorem settled_others {more : List DbRequest} (held : ObjID → Option Belongings)
    (requests : List DbRequest)
    (others : ∀ request ∈ more, request.player ≠ some playerId ∧
      request.account collate ≠ some (collate name)) (store : Store collate) :
    (settled ⟨held, requests ++ more⟩ store).players.rowOf (collate name) =
        (settled ⟨held, requests⟩ store).players.rowOf (collate name) ∧
      (settled ⟨held, requests ++ more⟩ store).inventory.rowsOf playerId =
        (settled ⟨held, requests⟩ store).inventory.rowsOf playerId := by
  rw [settled_append]
  constructor
  · exact DbRequest.keyed_rowOf.replay_other (fun request member => (others request member).2) _
  · exact DbRequest.keyed_rowsOf.replay_other (fun request member => (others request member).1) _

end Savings

namespace World

/-- A login on the thread of a tile that can be stood on seats its user there. -/
theorem handleGetUserInfo_seats {thread session : Nat} {choice : Choice grid}
    {userInfo : DbUserInfo} {world : World} {client : Subject} {user : User}
    (items : List DbItemInfo) (alloc : world.sessionState session = .stAlloc)
    (absent : Absent (ObjID.user session) world)
    (standable : isStandable grid userInfo.x userInfo.y = true)
    (home : thread = getZoneIdByWorld userInfo.x userInfo.y)
    (found : (world.handleGetUserInfo thread choice session userInfo items).getUser
      (ObjID.user session) = some (client, user)) :
    client.x = userInfo.x ∧ client.y = userInfo.y := by
  have valid : isValidZoneId thread = true := by
    have known := isValidZoneId_of_clear (isStandable_iff.mp standable)
    rw [home]
    exact known
  have tile : loadedTile choice userInfo = (userInfo.x, userInfo.y) := by
    rw [loadedTile, if_pos standable]
  rw [handleGetUserInfo_eq alloc absent.unregistered] at found
  have new := isNewUser_loadedUser choice.slots (ObjID.user session) userInfo items
  rcases new.user with ⟨newUser, body, _⟩
  generalize loadedUser choice.slots (ObjID.user session) userInfo items = subject at new body found
  have registered : (world.publishUser session subject).objects (ObjID.user session) =
      some subject := by
    simp [publishUser, modifySession, insertObject]
  have settled := updatePosition_settled valid registered home.symm
  rcases placeLoadedUser_eq thread session choice userInfo (world.publishUser session subject) with
    ⟨requests, placed⟩
  rw [tile] at placed
  have seated : ((world.publishUser session subject).placeLoadedUser thread choice session
      userInfo).getUser (ObjID.user session) =
        some (subject.placedAt thread userInfo.x userInfo.y, newUser) := by
    rw [placed, getUser_eq_some]
    refine ⟨?_, body⟩
    rw [settled.objects, Function.update_self]
  rcases finishLogin_answers thread choice true seated with ⟨quiet, _⟩
  have standing := quiet.standing (ObjID.user session)
  rw [standingOf_of_objects (getUser_eq_some.mp seated).1,
    standingOf_of_objects (getUser_eq_some.mp found).1, Option.some.injEq] at standing
  have transform : client.transform = (subject.placedAt thread userInfo.x userInfo.y).transform :=
    congrArg Standing.transform standing
  exact ⟨congrArg Transform.x transform, congrArg Transform.y transform⟩

end World

namespace Server

variable {label : Label grid} {before after server seen gone back : Server collate}
  {name : String} {playerId : Int} {client : Subject} {user : User} {id : ObjID}

/-- The tables once every waiting request is made. -/
def settled (server : Server collate) : Store collate :=
  server.world.savings.settled server.store

/-- A user of the player is in the world. -/
def Plays (playerId : Int) (server : Server collate) : Prop :=
  ∃ id belongings, server.world.savings.belongings id = some belongings ∧
    belongings.playerId = playerId

theorem plays_of_getUser (found : server.world.getUser id = some (client, user)) :
    server.Plays user.inventory.playerId :=
  ⟨id, _, belongings_eq_some.mpr ⟨client, user, found, rfl⟩, rfl⟩

/-! ## While the player is away -/

/-- The account of the player shows the same when everything is settled. -/
structure Keeps (name : String) (playerId : Int) (before after : Server collate) : Prop where
  row : after.settled.players.rowOf (collate name) = before.settled.players.rowOf (collate name)
  items : after.settled.inventory.rowsOf playerId = before.settled.inventory.rowsOf playerId

/-- A step that leaves the savings and the tables. -/
theorem keeps_of_savings (savings : after.world.savings = before.world.savings)
    (store : after.store = before.store) : Keeps name playerId before after := by
  constructor
  · rw [settled, settled, savings, store]
  · rw [settled, settled, savings, store]

/-- Users of other players have other accounts. -/
theorem Deposited.other_account (deposited : server.Deposited)
    (owner : (server.store.players.rowOf (collate name)).map PlayerRow.playerId = some playerId)
    {belongings : Belongings} (held : server.world.savings.belongings id = some belongings)
    (other : belongings.playerId ≠ playerId) : collate belongings.name ≠ collate name := by
  intro same
  obtain ⟨row, found, player⟩ := deposited.books.registered id belongings held
  rw [PlayersTable.find_eq_rowOf, same] at found
  rw [found, Option.map_some, player] at owner
  exact other (Option.some.inj owner)

/-- Requests of others do not change what the player left. -/
theorem database_keeps {index : Nat} {calls : LoginCalls} {written : Bool}
    (deposited : before.Deposited)
    (orderly : before.Orderly hash (.database index calls written : Label grid))
    (owner : (before.store.players.rowOf (collate name)).map PlayerRow.playerId = some playerId)
    (taken : before.database index calls written = some after) :
    Keeps name playerId before after := by
  obtain ⟨request, found, savings, store⟩ := database_left taken
  have pending : before.world.savings.requests[index]? = some request := found
  obtain ⟨first, rows, row⟩ : before.world.savings.FirstOfShard hash index request ∧
      after.store.inventory.rowsOf playerId =
        (request.write before.store).inventory.rowsOf playerId ∧
      after.store.players.rowOf (collate name) =
        (request.write before.store).players.rowOf (collate name) := by
    unfold Orderly at orderly
    dsimp only at orderly
    rw [found] at orderly
    cases request with
    | login session account password =>
        refine ⟨fun _ _ => ?_, ?_, ?_⟩
        · exact or_iff_not_imp_left.mpr id
        · rw [store, Store.processLogin_inventory]
          rfl
        · obtain ⟨row, stored, _⟩ := Option.map_eq_some_iff.mp owner
          rw [store, DbRequest.write, stored]
          exact Store.find_processLogin stored
    | saveUser id account x y level exp =>
        rw [store, orderly.1]
        exact ⟨orderly.2, rfl, rfl⟩
    | item request =>
        rw [store, orderly.1]
        exact ⟨orderly.2, rfl, rfl⟩
  constructor
  · rw [settled, settled, savings,
      ← Savings.settled_rowOf deposited.books pending first (collate name)]
    exact DbRequest.keyed_rowOf.replay_congr row _
  · rw [settled, settled, savings, ← Savings.settled_rowsOf pending first before.store playerId]
    exact DbRequest.keyed_rowsOf.replay_congr rows _

/-- The task a game logic thread runs. -/
theorem exec_of_run {thread : Nat} {choice : Choice grid}
    (taken : step (.run thread choice) before = some after) :
    ∃ task rest world, before.world.queues thread = task :: rest ∧
      (before.world.popped thread rest).exec thread choice task = some world ∧
      after = { before with world := world } := by
  simp only [step, runThread] at taken
  split at taken
  · contradiction
  · next task rest queued =>
    obtain ⟨world, ran, rfl⟩ := Option.map_eq_some_iff.mp taken
    exact ⟨task, rest, world, queued, ran, rfl⟩

/-- Tasks of others do not change what the player left. -/
theorem runThread_keeps {thread : Nat} {choice : Choice grid} (deposited : before.Deposited)
    (later : after.Deposited) (taken : step (.run thread choice) before = some after)
    (owner : (before.store.players.rowOf (collate name)).map PlayerRow.playerId = some playerId)
    (absent : ¬before.Plays playerId) (still : ¬after.Plays playerId) :
    Keeps name playerId before after := by
  obtain ⟨task, rest, world, queued, ran, rfl⟩ := exec_of_run taken
  have others : ∀ more : List DbRequest, world.dbRequests = before.world.dbRequests ++ more →
      (∀ request ∈ more, request.player ≠ some playerId ∧
        request.account collate ≠ some (collate name)) →
      Keeps name playerId before { before with world := world } := by
    intro more appended foreign
    have same := Savings.settled_others before.world.savings.belongings before.world.dbRequests
      foreign before.store
    rw [← appended] at same
    exact ⟨same.1, same.2⟩
  cases exec_turnover ran with
  | idle same => exact keeps_of_savings same rfl
  | asks same =>
      refine others [_] (congrArg Savings.requests same) ?_
      intro request member
      rw [List.mem_singleton.mp member]
      exact ⟨(Option.some_ne_none _).symm, (Option.some_ne_none _).symm⟩
  | stores found outcome same =>
      have held := belongings_eq_some.mpr ⟨_, _, found, rfl⟩
      rw [setInventory_savings] at same
      refine others _ (congrArg Savings.requests same) ?_
      intro request member
      obtain ⟨item, among, rfl⟩ := List.mem_map.mp member
      refine ⟨fun mine => absent ⟨_, _, held, ?_⟩, (Option.some_ne_none _).symm⟩
      have clean := deposited.books.clean _ _ held
      exact (outcome.foreign clean item among).symm.trans (Option.some.inj mine)
  | leaves x y found _ same =>
      have held := belongings_eq_some.mpr ⟨_, _, found, rfl⟩
      refine others [_] (congrArg Savings.requests same) ?_
      intro request member
      rw [List.mem_singleton.mp member]
      refine ⟨(Option.some_ne_none _).symm, fun alike => ?_⟩
      exact deposited.other_account owner held (fun mine => absent ⟨_, _, held, mine⟩)
        (Option.some.inj alike)
  | @enters _ session subject user saves _ new bodyOf named _ same =>
      have held : world.savings.belongings (ObjID.user session) =
          some ⟨subject.name, user.inventory.playerId, user.inventory.slots,
            user.inventory.issued⟩ := by
        refine (congrFun (congrArg Savings.belongings same) _).trans ?_
        exact (Function.update_self _ _ _).trans (by rw [Subject.belongings, bodyOf])
      refine others saves (congrArg Savings.requests same) ?_
      intro request member
      obtain ⟨id, x, y, rfl⟩ := named request member
      refine ⟨(Option.some_ne_none _).symm, fun alike => ?_⟩
      exact later.other_account owner held (fun mine => still ⟨_, _, held, mine⟩)
        (Option.some.inj alike)

/-- Nothing happens to the account of a player who is away. -/
theorem step_keeps (deposited : before.Deposited) (orderly : before.Orderly hash label)
    (owner : (before.store.players.rowOf (collate name)).map PlayerRow.playerId = some playerId)
    (absent : ¬before.Plays playerId) (still : ¬after.Plays playerId)
    (taken : step label before = some after) : Keeps name playerId before after := by
  cases label with
  | database index calls written => exact database_keeps deposited orderly owner taken
  | run thread choice =>
      have later := step_deposited deposited orderly taken
      exact runThread_keeps deposited later taken owner absent still
  | _ =>
      obtain ⟨savings, store⟩ := step_savings taken (fun _ _ => by simp) fun _ _ _ => by simp
      exact keeps_of_savings savings store

/-! ## Leaving -/

/-- The account holds what the user has, and the tile it stands on. -/
structure Holds (server : Server collate) (grid : CollisionGrid) (client : Subject) (user : User) :
    Prop where
  row : ∃ row, server.settled.players.rowOf (collate client.name) = some row ∧
    row.playerId = user.inventory.playerId ∧ row.level = user.stat.level ∧
    row.exp = user.stat.exp ∧
    (isStandable grid client.x client.y = true → row.x = client.x ∧ row.y = client.y)
  items : ∀ index, Inventory.loadDecode index
      (server.settled.inventory.storedAt user.inventory.playerId index) =
    (user.inventory.slots index).map Item.view

theorem Holds.keeps (holds : before.Holds grid client user)
    (keeps : Keeps client.name user.inventory.playerId before after) :
    after.Holds grid client user where
  row := by
    rw [keeps.row]
    exact holds.row
  items index := by
    rw [InventoryTable.storedAt_congr keeps.items]
    exact holds.items index

/-- The account still belongs to the player before the writes are made. -/
theorem Holds.owner (holds : server.Holds grid client user) :
    (server.store.players.rowOf (collate client.name)).map PlayerRow.playerId =
      some user.inventory.playerId := by
  obtain ⟨row, found, player, _⟩ := holds.row
  rw [← Store.replay_rowOf server.world.savings.requests server.store]
  exact Option.map_eq_some_iff.mpr ⟨row, found, player⟩

/-- A user that is there may leave by its own departure only. -/
theorem leaves_of_absent {thread : Nat} {choice : Choice grid} {task : Task} {rest : List Task}
    {world : World} (deposited : seen.Deposited)
    (taken : step (.run thread choice) seen = some { seen with world := world })
    (turnover : Turnover choice (seen.world.popped thread rest) task world)
    (found : seen.world.getUser id = some (client, user))
    (absent : ¬Plays user.inventory.playerId { seen with world := world }) :
    ∃ x y, (isStandable grid client.x client.y = true → x = client.x ∧ y = client.y) ∧
      world.dbRequests = seen.world.dbRequests ++
        [.saveUser id client.name x y user.stat.level user.stat.exp] := by
  have held : seen.world.savings.belongings id = _ :=
    belongings_eq_some.mpr ⟨client, user, found, rfl⟩
  have stays : ∀ other, world.savings.belongings id = some other →
      other.playerId ≠ user.inventory.playerId :=
    fun other kept mine => absent ⟨id, other, kept, mine⟩
  have moved : world.savings.belongings id ≠ seen.world.savings.belongings id :=
    fun same => stays _ (same.trans held) rfl
  cases turnover with
  | idle same => exact (moved (congrFun (congrArg Savings.belongings same) id)).elim
  | asks same => exact (moved (congrFun (congrArg Savings.belongings same) id)).elim
  | @stores session packet owner ownerUser inventory _ isUser outcome same =>
      rw [setInventory_savings] at same
      by_cases mine : id = ObjID.user session
      · subst mine
        obtain ⟨rfl, rfl⟩ := Prod.mk.inj (Option.some.inj (found.symm.trans isUser))
        have left : world.savings.belongings (ObjID.user session) =
            some ⟨client.name, inventory.playerId, inventory.slots, []⟩ := by
          refine (congrFun (congrArg Savings.belongings same) _).trans ?_
          exact (Function.update_self _ _ _).trans (congrArg (Option.map _) held)
        exact absurd outcome.playerId (stays _ left)
      · refine (moved ?_).elim
        exact (congrFun (congrArg Savings.belongings same) _).trans (Function.update_of_ne mine _ _)
  | @leaves clientId owner ownerUser x y _ isUser onTile same =>
      by_cases mine : id = clientId
      · subst mine
        obtain ⟨rfl, rfl⟩ := Prod.mk.inj (Option.some.inj (found.symm.trans isUser))
        exact ⟨x, y, onTile, congrArg Savings.requests same⟩
      · refine (moved ?_).elim
        exact (congrFun (congrArg Savings.belongings same) _).trans (Function.update_of_ne mine _ _)
  | @enters _ session subject newUser saves _ new bodyOf named entered same =>
      by_cases mine : id = ObjID.user session
      · -- A session that is in the game does not enter it again.
        subst mine
        have account : seen.world.accountOf (ObjID.user session) =
            some (user.inventory.playerId, client.name) :=
          accountOf_eq_some_iff.mpr ⟨client, user, found, rfl⟩
        have ingame := deposited.enrolled.ingame _ _ account
        have outlives := (step_enrolled deposited.enrolled taken).2.account _ ingame
        rw [account, accountOf_eq_belongings] at outlives
        rcases outlives with none_ | kept
        · have left : world.belongings (ObjID.user session) = some _ :=
            (congrFun (congrArg Savings.belongings same) _).trans
              ((Function.update_self _ _ _).trans (by rw [Subject.belongings, bodyOf]))
          rw [Option.map_eq_none_iff, left] at none_
          contradiction
        · obtain ⟨other, left, alike⟩ := Option.map_eq_some_iff.mp kept
          exact absurd (congrArg Prod.fst alike) (stays other left)
      · refine (moved ?_).elim
        exact (congrFun (congrArg Savings.belongings same) _).trans (Function.update_of_ne mine _ _)

/-- The last step of a user in the world puts everything down. -/
theorem step_holds (deposited : seen.Deposited)
    (found : seen.world.getUser id = some (client, user)) (taken : step label seen = some gone)
    (absent : ¬gone.Plays user.inventory.playerId) : gone.Holds grid client user := by
  have held : seen.world.savings.belongings id =
      some ⟨client.name, user.inventory.playerId, user.inventory.slots, user.inventory.issued⟩ :=
    belongings_eq_some.mpr ⟨client, user, found, rfl⟩
  have isTask : ∃ thread choice, label = .run thread choice := by
    by_contra other
    have objects := (step_objects taken fun thread choice same => other ⟨thread, choice, same⟩).1
    have stays := (congrArg (fun objects => (objects id).bind Subject.belongings) objects).trans held
    exact absent ⟨id, _, stays, rfl⟩
  obtain ⟨thread, choice, rfl⟩ := isTask
  obtain ⟨task, rest, world, _, ran, rfl⟩ := exec_of_run taken
  obtain ⟨x, y, onTile, requests⟩ := leaves_of_absent deposited taken (exec_turnover ran) found absent
  have settles : settled { seen with world := world } =
      (DbRequest.saveUser id client.name x y user.stat.level user.stat.exp).write seen.settled := by
    rw [settled, World.savings, requests]
    exact Savings.settled_append _ _
  obtain ⟨row, stored, player⟩ := deposited.books.registered id _ held
  have kept := Store.replay_rowOf seen.world.savings.requests seen.store (collate client.name)
  rw [← PlayersTable.find_eq_rowOf client.name seen.store.players, stored] at kept
  obtain ⟨last, lastFound, same⟩ := Option.map_eq_some_iff.mp kept
  constructor
  case row =>
    refine ⟨PlayersTable.saveRow x y user.stat.level user.stat.exp last, ?_, same.trans player, rfl,
      rfl, ?_⟩
    · rw [settles]
      refine (DbRequest.keyed_rowOf.own _ _ _ rfl).trans ?_
      exact congrArg (Option.map _) lastFound
    · intro standable
      obtain ⟨rfl, rfl⟩ := onTile standable
      have bounds := (isValidWorldPosition_iff _ _).mp (isStandable_iff.mp standable).isValidWorldPosition
      exact ⟨if_pos (by omega), if_pos (by omega)⟩
  case items =>
    intro index
    rw [settles]
    exact deposited.books.agrees id _ held index

/-! ## Coming back -/

/-- A user that was not there entered by a login that was under way. -/
theorem enters_of_absent {thread : Nat} {choice : Choice grid} {task : Task} {rest : List Task}
    {world : World} (turnover : Turnover choice (before.world.popped thread rest) task world)
    (absent : ¬before.Plays user.inventory.playerId)
    (found : world.getUser id = some (client, user)) :
    ∃ session subject userInfo, id = ObjID.user session ∧ task.userInfo = some userInfo ∧
      task.newcomer choice.slots = some (session, subject) ∧ subject.body = .user user ∧
      userInfo.playerId = user.inventory.playerId := by
  have held : world.savings.belongings id =
      some ⟨client.name, user.inventory.playerId, user.inventory.slots, user.inventory.issued⟩ :=
    belongings_eq_some.mpr ⟨client, user, found, rfl⟩
  have new : ∀ other, before.world.savings.belongings id = some other →
      other.playerId ≠ user.inventory.playerId :=
    fun other was mine => absent ⟨id, other, was, mine⟩
  have moved : world.savings.belongings id ≠ before.world.savings.belongings id :=
    fun same => new _ (same.symm.trans held) rfl
  cases turnover with
  | idle same => exact (moved (congrFun (congrArg Savings.belongings same) id)).elim
  | asks same => exact (moved (congrFun (congrArg Savings.belongings same) id)).elim
  | @stores session packet owner ownerUser inventory _ isUser outcome same =>
      rw [setInventory_savings] at same
      have was := belongings_eq_some.mpr ⟨owner, ownerUser, isUser, rfl⟩
      rw [same] at held
      rcases Savings.stored_cases was held with ⟨rfl, alike⟩ | ⟨_, old⟩
      · have player := congrArg Belongings.playerId alike
        exact absurd (outcome.playerId.symm.trans player.symm) (new _ was)
      · exact absurd rfl (new _ old)
  | @leaves clientId owner ownerUser x y _ isUser onTile same =>
      by_cases mine : id = clientId
      · subst mine
        have left := (congrFun (congrArg Savings.belongings same) id).symm.trans held
        exact absurd ((Function.update_self _ _ _).symm.trans left) (Option.some_ne_none _).symm
      · refine (moved ?_).elim
        exact (congrFun (congrArg Savings.belongings same) _).trans (Function.update_of_ne mine _ _)
  | @enters _ session subject newUser saves _ newcomer bodyOf named entered same =>
      by_cases mine : id = ObjID.user session
      · subst mine
        rw [userOf_of_getUser found, Option.some.injEq] at entered
        subst entered
        obtain ⟨userInfo, isLogin⟩ := Task.userInfo_of_newcomer newcomer
        have fresh := Savings.fresh_newcomer isLogin newcomer bodyOf
        exact ⟨session, subject, userInfo, rfl, isLogin, newcomer, bodyOf, fresh.playerId.symm⟩
      · refine (moved ?_).elim
        exact (congrFun (congrArg Savings.belongings same) _).trans (Function.update_of_ne mine _ _)

/-- The player is away, and only its stored account can bring it back. -/
structure Away (grid : CollisionGrid) (client : Subject) (user : User) (server : Server collate) :
    Prop where
  awaits : server.AwaitsLogins
  deposited : server.Deposited
  holds : server.Holds grid client user
  known : ∀ thread, ∀ task ∈ server.world.queues thread,
    loginKey task = some user.inventory.playerId →
      ∃ session userInfo items, task = .getUserInfo session userInfo items

/-- A player that is away stays so until its next login. -/
theorem Away.step (away : before.Away grid client user) (orderly : before.Orderly hash label)
    (absent : ¬before.Plays user.inventory.playerId) (still : ¬after.Plays user.inventory.playerId)
    (taken : Server.step label before = some after) : after.Away grid client user where
  awaits := step_awaitsLogins away.awaits taken
  deposited := step_deposited away.deposited orderly taken
  holds := away.holds.keeps
    (step_keeps away.deposited orderly away.holds.owner absent still taken)
  known thread task member key := by
    rcases mem_queues_of_step away.deposited.enrolled.filed taken member with old | ⟨_, put, _⟩
    · exact away.known thread task old key
    · obtain ⟨userInfo, isLogin, player⟩ := Option.map_eq_some_iff.mp key
      obtain ⟨name, _, reads⟩ := reads_of_puts away.deposited orderly taken put isLogin
      obtain ⟨row, _, rowPlayer, ⟨_, session, items, rfl⟩ | next, _⟩ := reads.row
      · exact ⟨session, userInfo, items, rfl⟩
      · -- The player is registered, so no new account has its identifier.
        obtain ⟨stored, found, owned⟩ := Option.map_eq_some_iff.mp away.holds.owner
        have below := (before.store.players.identity stored (List.mem_of_find?_eq_some found)).2
        omega

/-- The step that takes a player out of the world. -/
theorem away_of_step (awaits : seen.AwaitsLogins) (deposited : seen.Deposited)
    (orderly : seen.Orderly hash label) (found : seen.world.getUser id = some (client, user))
    (taken : step label seen = some gone) (absent : ¬gone.Plays user.inventory.playerId) :
    gone.Away grid client user where
  awaits := step_awaitsLogins awaits taken
  deposited := step_deposited deposited orderly taken
  holds := step_holds deposited found taken absent
  known thread task member key := by
    exfalso
    obtain ⟨userInfo, isLogin, player⟩ := Option.map_eq_some_iff.mp key
    have held : seen.world.savings.belongings id = some _ :=
      belongings_eq_some.mpr ⟨client, user, found, rfl⟩
    rcases mem_queues_of_step deposited.enrolled.filed taken member with old | ⟨_, put, _⟩
    · -- No login of a player is queued while it plays.
      exact (deposited.arriving thread task old userInfo isLogin).absent id _ held player.symm
    · obtain ⟨index, calls, written, rfl⟩ := login_of_puts put isLogin
      have objects := (step_objects taken fun _ _ => by simp).1
      have stays :=
        (congrArg (fun objects => (objects id).bind Subject.belongings) objects).trans held
      exact absent ⟨id, _, stays, rfl⟩

/-- A user is where another one was, and has what it had. -/
structure Resumes (grid : CollisionGrid) (client : Subject) (user : User) (newClient : Subject)
    (newUser : User) : Prop where
  level : newUser.stat.level = user.stat.level
  exp : newUser.stat.exp = user.stat.exp
  slots : ∀ index, (newUser.inventory.slots index).map Item.view =
    (user.inventory.slots index).map Item.view
  tile : isStandable grid client.x client.y = true →
    newClient.x = client.x ∧ newClient.y = client.y

/-- A queued login seats its user on the tile it has read. -/
theorem seats_of_login {thread session : Nat} {choice : Choice grid} {userInfo : DbUserInfo}
    {items : List DbItemInfo} {rest : List Task} {world : World} (awaits : before.AwaitsLogins)
    (queued : .getUserInfo session userInfo items ∈ before.world.queues thread)
    (ran : (before.world.popped thread rest).exec thread choice
      (.getUserInfo session userInfo items) = some world)
    (standable : isStandable grid userInfo.x userInfo.y = true)
    (absent : ¬before.Plays user.inventory.playerId)
    (found : world.getUser (ObjID.user session) = some (client, user)) :
    client.x = userInfo.x ∧ client.y = userInfo.y := by
  rw [exec] at ran
  split at ran
  · obtain rfl := Option.some.inj ran
    have was : before.world.getUser (ObjID.user session) = some (client, user) := found
    exact absurd (plays_of_getUser was) absent
  · next alloc =>
    rw [onSector_eq_some] at ran
    obtain ⟨valid, ran⟩ := ran
    obtain rfl := Option.some.inj ran
    have home := awaits.routed thread session userInfo items queued
    rw [threadOf] at home
    split at home
    · have state : (before.world.popped thread rest).sessionState session = .stAlloc :=
        not_not.mp alloc
      have outside : before.world.sessionState session ≠ .stIngame := by
        intro ingame
        exact absurd (state.symm.trans ingame) (by decide)
      have vacant := awaits.vacant session outside
      have empty : Absent (ObjID.user session) (before.world.popped thread rest) :=
        ⟨vacant.unregistered, vacant.outside⟩
      exact handleGetUserInfo_seats items state empty standable home found
    · rw [home] at valid
      simp at valid

/-- Whoever logs in under the name resumes where the player left. -/
theorem Away.resumes {newId : ObjID} {newClient : Subject} {newUser : User}
    (away : before.Away grid client user) (absent : ¬before.Plays user.inventory.playerId)
    (taken : Server.step label before = some back)
    (found : back.world.getUser newId = some (newClient, newUser))
    (same : newUser.inventory.playerId = user.inventory.playerId) :
    Resumes grid client user newClient newUser := by
  have isTask : ∃ thread choice, label = .run thread choice := by
    by_contra other
    have objects := (step_objects taken fun thread choice same => other ⟨thread, choice, same⟩).1
    have held : back.world.savings.belongings newId = some _ :=
      belongings_eq_some.mpr ⟨newClient, newUser, found, rfl⟩
    have was := (congrArg (fun objects => (objects newId).bind Subject.belongings) objects).symm.trans
      held
    exact absent ⟨newId, _, was, same⟩
  obtain ⟨thread, choice, rfl⟩ := isTask
  obtain ⟨task, rest, world, queued, ran, rfl⟩ := exec_of_run taken
  have first : task ∈ before.world.queues thread := queued ▸ List.mem_cons_self
  rw [← same] at absent
  obtain ⟨session, subject, userInfo, rfl, isLogin, newcomer, bodyOf, player⟩ :=
    enters_of_absent (exec_turnover ran) absent found
  have arriving := away.deposited.arriving thread task first userInfo isLogin
  obtain ⟨row, stored, rowPlayer, tile, carries⟩ := arriving.row
  have carried := carries _ session subject newUser newcomer bodyOf
  -- Nothing of the account waits, so it is settled.
  have settledRow : before.settled.players.find userInfo.name = some row :=
    (DbRequest.keyed_rowOf.replay_other (fun request member => (arriving.settled request member).2)
      before.store).trans stored
  have settledItems := Savings.storedAt_of_unwritten
    (fun request member => (arriving.settled request member).1) before.store
  obtain ⟨left, leftFound, leftPlayer, level, exp, onTile⟩ := away.holds.row
  obtain rfl : row = left := by
    refine (Store.row_of_player settledRow leftFound ?_).1
    rw [rowPlayer, player, same, leftPlayer]
  constructor
  case level => exact carried.level.trans level
  case exp => exact carried.exp.trans exp
  case slots =>
    intro index
    rw [carried.slots index, ← away.holds.items index, rowPlayer, ← same, ← player]
    exact congrArg (Inventory.loadDecode index) (congrFun settledItems index).symm
  case tile =>
    intro standable
    have key : loginKey task = some user.inventory.playerId := by
      rw [loginKey, isLogin, ← same, ← player]
      rfl
    obtain ⟨_, _, items, rfl⟩ := away.known thread task first key
    obtain rfl := Option.some.inj isLogin
    obtain ⟨rfl, _⟩ := Prod.mk.inj (Option.some.inj newcomer)
    obtain ⟨x, y⟩ := tile _ _ rfl
    obtain ⟨rowX, rowY⟩ := onTile standable
    rw [rowX] at x
    rw [rowY] at y
    have seats := seats_of_login away.awaits first ran (by rw [x, y]; exact standable) absent found
    exact ⟨seats.1.trans x, seats.2.trans y⟩

/-- A run in which the player is away until the end. -/
theorem run_resumes {labels : List (Label grid)} {newId : ObjID} {newClient : Subject}
    {newUser : User} (start : gone.Away grid client user)
    (left : ¬gone.Plays user.inventory.playerId)
    (away : Along step (fun label server => server.Orderly hash label ∧
      ¬server.Plays user.inventory.playerId) labels gone)
    (ran : run step labels gone = some back)
    (found : back.world.getUser newId = some (newClient, newUser))
    (same : newUser.inventory.playerId = user.inventory.playerId) :
    Resumes grid client user newClient newUser := by
  have plays : back.Plays user.inventory.playerId := same ▸ plays_of_getUser found
  induction labels generalizing gone with
  | nil => exact absurd (Option.some.inj ran ▸ plays) left
  | cons label rest ih =>
      obtain ⟨next, taken, later⟩ := run_cons_eq_some.mp ran
      by_cases returns : next.Plays user.inventory.playerId
      · -- The guard ends the run with the return.
        cases rest with
        | nil =>
            obtain rfl := Option.some.inj later
            exact start.resumes left taken found same
        | cons other rest => exact absurd returns ((away.2 next taken).1.2)
      · exact ih (start.step away.1.1 left returns taken) returns (away.2 next taken) later

/-- Once every waiting request is made the tables hold what each user in the
world has, and no player is there twice. -/
structure Banked (server : Server collate) : Prop where
  items : ∀ id client user, server.world.getUser id = some (client, user) → ∀ index,
    Inventory.loadDecode index
        (server.settled.inventory.storedAt user.inventory.playerId index) =
      (user.inventory.slots index).map Item.view
  alone : ∀ first second firstClient secondClient firstUser secondUser,
    server.world.getUser first = some (firstClient, firstUser) →
    server.world.getUser second = some (secondClient, secondUser) →
    firstUser.inventory.playerId = secondUser.inventory.playerId → first = second

/-- Books that are right are banked when nothing waits. -/
theorem Deposited.banked (deposited : server.Deposited) : server.Banked where
  items id client user found index :=
    deposited.books.agrees id _ (belongings_eq_some.mpr ⟨client, user, found, rfl⟩) index
  alone first second _ _ _ _ firstFound secondFound same :=
    deposited.books.alone first second _ _ (belongings_eq_some.mpr ⟨_, _, firstFound, rfl⟩)
      (belongings_eq_some.mpr ⟨_, _, secondFound, rfl⟩) same

/-- If the database meets no error, makes the writes of a shard in their order,
and reads an account when nothing of it is under way, then the tables never lose
what the users have, and whoever leaves the world comes back where it was and
with what it had. -/
theorem comes_back {count : Nat} {draw : Nat → Int × Int} {store : Store collate}
    (referenced : store.Referenced) :
    (∀ (labels : List (Label grid)) (server : Server collate),
      Along step (fun label server => server.Orderly hash label) labels (boot count draw store) →
      run step labels (boot count draw store) = some server → server.Banked) ∧
    ∀ (labels returning : List (Label grid)) (label : Label grid) (seen gone back : Server collate)
      (id : ObjID) (client : Subject) (user : User) (newId : ObjID) (newClient : Subject)
      (newUser : User),
      Along step (fun label server => server.Orderly hash label) (labels ++ [label])
        (boot count draw store) →
      run step labels (boot count draw store) = some seen →
      seen.world.getUser id = some (client, user) → step label seen = some gone →
      ¬gone.Plays user.inventory.playerId →
      Along step (fun label server => server.Orderly hash label ∧
        ¬server.Plays user.inventory.playerId) returning gone →
      run step returning gone = some back →
      back.world.getUser newId = some (newClient, newUser) →
      newUser.inventory.playerId = user.inventory.playerId →
      Resumes grid client user newClient newUser := by
  constructor
  · exact fun labels server orderly ran => (run_deposited referenced orderly ran).banked
  · intro labels returning label seen gone back id client user newId newClient newUser orderly ran
      found taken left away returned newFound same
    obtain ⟨earlier, last⟩ := orderly.append
    have start := away_of_step (run_awaitsLogins ran) (run_deposited referenced earlier ran)
      (last seen ran).1 found taken left
    exact run_resumes start left away returned newFound same

/-- Whether a session plays the player. -/
def playsIn (playerId : Int) (server : Server collate) : Bool :=
  (List.range server.world.nextObjectId).any fun session =>
    (server.world.accountOf (ObjID.user session)).any fun account => account.1 = playerId

theorem Enrolled.playsIn_of_plays (enrolled : server.Enrolled) (plays : server.Plays playerId) :
    server.playsIn playerId = true := by
  obtain ⟨id, belongings, held, same⟩ := plays
  obtain ⟨client, user, found, _⟩ := belongings_eq_some.mp held
  have account : server.world.accountOf id = some (belongings.playerId, belongings.name) := by
    rw [accountOf_eq_belongings]
    exact congrArg (Option.map _) held
  have known : id.databaseId < server.world.nextObjectId := by
    by_contra unknown
    have free := enrolled.fresh id.databaseId (Nat.not_lt.mp unknown)
    rw [enrolled.ingame id _ account] at free
    contradiction
  have category := enrolled.user_category found
  rcases id with ⟨kind, session⟩
  obtain rfl : kind = .eUser := category
  rw [playsIn, List.any_eq_true]
  refine ⟨session, List.mem_range.mpr known, ?_⟩
  rw [show server.world.accountOf (ObjID.user session) = _ from account]
  exact decide_eq_true same

theorem Enrolled.not_plays (enrolled : server.Enrolled) (silent : server.playsIn playerId = false) :
    ¬server.Plays playerId := by
  intro plays
  rw [enrolled.playsIn_of_plays plays] at silent
  contradiction

/-- A stored player logs in, moves a potion to another slot and hangs up. -/
def outing : List (Label initCollisionTile) :=
  [.accept, .receive 1 (.userLoginReq "kim" ""), .run invalidZoneId .steady, .database 0 {} true,
    .run 0 .steady, .receive 1 (.itemSwapReq 0 7), .run 0 .steady, .hangUp 1]

/-- The writes are made, and the player logs in again. -/
def errand : List (Label initCollisionTile) :=
  [.database 0 {} true, .database 0 {} true, .accept, .receive 2 (.userLoginReq "kim" ""),
    .run invalidZoneId .steady, .database 0 {} true, .run 0 .steady]

/-- A user walks, picks something up, leaves and comes back. -/
theorem comes_back_sample :
    ∃ seen gone back client user newClient newUser,
      run step outing (boot 0 (fun _ => (9, 9)) savedStore) = some seen ∧
      seen.world.getUser (ObjID.user 1) = some (client, user) ∧
      step (.run 0 .steady) seen = some gone ∧ run step errand gone = some back ∧
      back.world.getUser (ObjID.user 2) = some (newClient, newUser) ∧
      gone.Banked ∧ Resumes initCollisionTile client user newClient newUser := by
  have completes : (run step (outing ++ .run 0 .steady :: errand)
      (boot 0 (fun _ => (9, 9)) savedStore)).isSome := by rfl
  obtain ⟨back, whole⟩ := Option.isSome_iff_exists.mp completes
  obtain ⟨seen, ran, later⟩ := run_append_eq_some.mp whole
  obtain ⟨gone, taken, returned⟩ := run_cons_eq_some.mp later
  have ranOut : run step (outing ++ [.run 0 .steady]) (boot 0 (fun _ => (9, 9)) savedStore) =
      some gone :=
    run_append_eq_some.mpr ⟨seen, ran, run_cons_eq_some.mpr ⟨gone, taken, rfl⟩⟩
  have plays : (seen.world.getUser (ObjID.user 1)).isSome := by
    obtain rfl := Option.some.inj ran
    rfl
  obtain ⟨⟨client, user⟩, found⟩ := Option.isSome_iff_exists.mp plays
  have playsAgain : (back.world.getUser (ObjID.user 2)).isSome := by
    obtain rfl := Option.some.inj whole
    rfl
  obtain ⟨⟨newClient, newUser⟩, newFound⟩ := Option.isSome_iff_exists.mp playsAgain
  have player : user.inventory.playerId = 1 := by
    obtain rfl := Option.some.inj ran
    obtain ⟨rfl, rfl⟩ := Prod.mk.inj (Option.some.inj found)
    rfl
  have newPlayer : newUser.inventory.playerId = 1 := by
    obtain rfl := Option.some.inj whole
    obtain ⟨rfl, rfl⟩ := Prod.mk.inj (Option.some.inj newFound)
    rfl
  have enrolled : gone.Enrolled :=
    (step_enrolled ((run_continues ran) (boot_enrolled 0 _ savedStore)).1 taken).1
  have absent : ∀ server : Server id, server.Enrolled → server.playsIn 1 = false →
      ¬server.Plays user.inventory.playerId := by
    intro server enrolled silent
    rw [player]
    exact enrolled.not_plays silent
  have checked : Along step (fun label (server : Server id) =>
      decide (server.Orderly (fun _ => 0) label) = true) (outing ++ [.run 0 .steady])
      (boot 0 (fun _ => (9, 9)) savedStore) := along_of_check (by rfl)
  have orderly : Along step (fun label (server : Server id) => server.Orderly (fun _ => 0) label)
      (outing ++ [.run 0 .steady]) (boot 0 (fun _ => (9, 9)) savedStore) :=
    checked.mono fun _ _ => of_decide_eq_true
  have checkedAway : Along step (fun label (server : Server id) =>
      (decide (server.Orderly (fun _ => 0) label) && !server.playsIn 1) = true) errand gone := by
    obtain rfl := Option.some.inj ranOut
    exact along_of_check (by rfl)
  have away : Along step (fun label (server : Server id) => server.Orderly (fun _ => 0) label ∧
      ¬server.Plays user.inventory.playerId) errand gone := by
    refine checkedAway.mono_of_invariant
      (fun _ _ _ taken enrolled => (step_enrolled enrolled taken).1) ?_ enrolled
    intro label server enrolled guard
    obtain ⟨ordered, silent⟩ := Bool.and_eq_true_iff.mp guard
    exact ⟨of_decide_eq_true ordered, absent server enrolled (by simpa using silent)⟩
  have left : gone.playsIn 1 = false := by
    obtain rfl := Option.some.inj ranOut
    rfl
  have referenced : savedStore.Referenced := by
    intro row member
    obtain rfl := List.mem_singleton.mp member
    exact ⟨savedRow, List.mem_singleton_self _, rfl⟩
  exact ⟨seen, gone, back, client, user, newClient, newUser, ran, found, taken, returned, newFound,
    (comes_back referenced).1 _ gone orderly ranOut,
    (comes_back referenced).2 outing errand _ seen gone back _ client user _ newClient newUser orderly
      ran found taken (absent gone enrolled left) away returned newFound
      (newPlayer.trans player.symm)⟩

end Server

end Mmorpg
