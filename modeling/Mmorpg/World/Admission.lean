import Mmorpg.World.Deposit

/-!
# Logins under way

A login reads an account now, and the user enters the world later.  Nothing
that happens in between concerns the account, provided that nobody else uses
it.
-/

namespace Mmorpg

open DBThread Transition

variable {collate : String → String}

theorem Subject.asUser_of_body {subject : Subject} {user : User}
    (bodyOf : subject.body = .user user) : subject.asUser = some user := by
  rw [Subject.asUser, bodyOf]

/-- What a user carries is what its rows say. -/
theorem User.Carries.congr {user : User} {row : PlayerRow} {first second : InventoryTable}
    (carries : user.Carries row first)
    (same : second.storedAt row.playerId = first.storedAt row.playerId) :
    user.Carries row second where
  playerId := carries.playerId
  level := carries.level
  exp := carries.exp
  slots index := by
    rw [carries.slots index, same]

/-! ## Logins in the tables -/

namespace Store

variable {store : Store collate} {name password : String} {calls : LoginCalls} {row : PlayerRow}

/-- Registering a name keeps the rows that are there. -/
theorem find_insertNew {other : String} {x y : Int} {level exp : Nat}
    (found : store.players.find other = some row) :
    (store.players.insertNew name password x y level exp).find other = some row := by
  rw [PlayersTable.find_eq_some_iff] at found ⊢
  refine ⟨?_, found.2⟩
  unfold PlayersTable.insertNew
  split
  · exact List.mem_append_left _ found.1
  · exact found.1

/-- The row of a new name. -/
theorem find_insertNew_self (missing : store.players.find name = none) (x y : Int)
    (level exp : Nat) :
    (store.players.insertNew name password x y level exp).find name =
      some ⟨store.players.nextId, name, password, x, y, level, exp⟩ := by
  rw [PlayersTable.find_eq_some_iff, PlayersTable.insertNew, dif_pos missing]
  exact ⟨List.mem_append_right _ (List.mem_singleton_self _), rfl⟩

/-- Logins write no inventory row and change no row of a player. -/
theorem processLogin_inventory (calls : LoginCalls) (name password : String)
    (store : Store collate) :
    (store.processLogin calls name password).1.inventory = store.inventory := by
  have added : (store.addUserInfo calls name password).1.inventory = store.inventory := by
    unfold addUserInfo
    dsimp only
    split <;> rfl
  unfold processLogin
  split
  · rfl
  · split
    · rfl
    · split
      · next result => rw [result] at added; exact added
      · next result => rw [result] at added; exact added

theorem find_processLogin {other : String} (found : store.players.find other = some row) :
    (store.processLogin calls name password).1.players.find other = some row := by
  have added : (store.addUserInfo calls name password).1.players.find other = some row := by
    unfold addUserInfo
    dsimp only
    split
    · exact found
    · exact find_insertNew found
    · exact find_insertNew found
  unfold processLogin
  split
  · exact found
  · split
    · exact found
    · split
      · next result => rw [result] at added; exact added
      · next result => rw [result] at added; exact added

/-- The next player owns nothing yet. -/
theorem Referenced.unclaimed (referenced : store.Referenced) :
    store.inventory.extractInventory store.players.nextId = [] := by
  rw [InventoryTable.extractInventory, InventoryTable.getInventory, List.map_eq_nil_iff,
    List.filter_eq_nil_iff]
  intro row member mine
  obtain ⟨owner, ownerMember, same⟩ := referenced row member
  have below := (store.players.identity owner ownerMember).2
  rw [same, of_decide_eq_true mine] at below
  exact absurd below (Int.lt_irrefl _)

/-- What a login that meets no error reads, or the account it opens. -/
structure Reads (before : Store collate) (name : String) (task : Task) (userInfo : DbUserInfo)
    (after : Store collate) : Prop where
  named : userInfo.name = name
  row : ∃ row, after.players.find name = some row ∧ row.playerId = userInfo.playerId ∧
    (before.players.find name = some row ∧
        (∃ session items, task = .getUserInfo session userInfo items) ∨
      row.playerId = before.players.nextId) ∧
    (∀ session items, task = .getUserInfo session userInfo items →
      userInfo.x = row.x ∧ userInfo.y = row.y) ∧
    ∀ order session subject user, task.newcomer order = some (session, subject) →
      subject.body = .user user → user.Carries row after.inventory

/-- A login that meets no error hands over what it has read. -/
theorem processLogin_reads (referenced : store.Referenced) {session : Nat} {task : Task}
    {userInfo : DbUserInfo}
    (hands : (store.processLogin {} name password).2.task session = some task)
    (isLogin : task.userInfo = some userInfo) :
    store.Reads name task userInfo (store.processLogin {} name password).1 := by
  have connected : (!({} : LoginCalls).connected) ≠ true := by decide
  rw [processLogin, if_neg connected] at hands ⊢
  cases found : store.players.find name with
  | some row =>
      have registered : store.isUserRegistered {} name = true :=
        World.isUserRegistered_of_find found
      have info : store.extractUserInfo {} name =
          { playerId := row.playerId, name := name, x := row.x, y := row.y, level := row.level
            exp := row.exp } := by
        rw [extractUserInfo, if_pos rfl, PlayersTable.extractUserInfo,
          PlayersTable.extractPlayerInfo, found]
      rw [if_pos registered] at hands ⊢
      rw [info] at hands
      obtain rfl := Option.some.inj hands
      obtain rfl := Option.some.inj isLogin
      refine ⟨rfl, row, found, rfl, .inl ⟨found, _, _, rfl⟩, ?_, ?_⟩
      · intro _ _ _
        exact ⟨rfl, rfl⟩
      · intro order _ subject user new bodyOf
        obtain ⟨rfl, rfl⟩ := Prod.mk.inj (Option.some.inj new)
        have built : (World.loadedUser order (ObjID.user session)
            ⟨row.playerId, name, "", row.x, row.y, row.level, row.exp⟩
            (store.inventory.extractInventory row.playerId)).asUser = some user :=
          Subject.asUser_of_body bodyOf
        refine (World.carries_loadedUser_iff rfl rfl rfl (List.append_nil _).symm built).mpr ?_
        exact fun _ impossible => absurd impossible List.not_mem_nil
  | none =>
      have unregistered : store.isUserRegistered {} name ≠ true := by
        rw [isUserRegistered, PlayersTable.isPlayerRegistered, found]
        decide
      rw [if_neg unregistered] at hands ⊢
      have opened : store.addUserInfo {} name password =
          ({ store with players := store.players.insertNew name password 0 0 1 0 },
            some store.players.nextId) := by
        rw [addUserInfo, PlayersTable.addNewPlayer, find_insertNew_self found]
        rfl
      rw [opened] at hands ⊢
      obtain rfl := Option.some.inj hands
      obtain rfl := Option.some.inj isLogin
      refine ⟨rfl, _, find_insertNew_self found 0 0 1 0, rfl, .inr rfl, ?_, ?_⟩
      · intro _ _ impossible
        contradiction
      · intro order _ subject user new bodyOf
        obtain ⟨rfl, rfl⟩ := Prod.mk.inj (Option.some.inj new)
        have built : (World.newUser (ObjID.user session)
            { playerId := store.players.nextId, name := name, password := password }).asUser =
              some user := Subject.asUser_of_body bodyOf
        refine (World.carries_newUser_iff rfl built).mpr ⟨rfl, rfl, ?_⟩
        rw [referenced.unclaimed]
        exact fun _ impossible => absurd impossible List.not_mem_nil

end Store

/-! ## Meanwhile -/

namespace Savings

variable {savings : Savings} {store : Store collate} {task : Task} {userInfo : DbUserInfo}
  {id : ObjID}

/-- Whoever plays another account has another name. -/
theorem Arriving.other_name (arriving : Arriving savings store task userInfo)
    (balanced : Balanced savings store) {belongings : Belongings}
    (held : savings.belongings id = some belongings) :
    collate belongings.name ≠ collate userInfo.name := by
  intro same
  obtain ⟨row, found, player, _⟩ := arriving.row
  obtain ⟨other, otherFound, otherPlayer⟩ := balanced.registered id belongings held
  rw [PlayersTable.find_eq_rowOf, same, ← PlayersTable.find_eq_rowOf, found,
    Option.some.injEq] at otherFound
  exact arriving.absent id belongings held (otherPlayer.symm.trans (otherFound ▸ player))

/-- Requests about other accounts may join. -/
theorem Arriving.askAll (arriving : Arriving savings store task userInfo)
    {requests : List DbRequest}
    (others : ∀ request ∈ requests, request.player ≠ some userInfo.playerId ∧
      request.account collate ≠ some (collate userInfo.name)) :
    Arriving { savings with requests := savings.requests ++ requests } store task userInfo where
  absent := arriving.absent
  settled request member := by
    rcases List.mem_append.mp member with old | new
    · exact arriving.settled request old
    · exact others request new
  row := arriving.row

/-- A player on its way stays so when others store items. -/
theorem Arriving.stored (arriving : Arriving savings store task userInfo)
    (balanced : Balanced savings store) {before after : Inventory} {name : String}
    (held : savings.belongings id = some ⟨name, before.playerId, before.slots, before.issued⟩)
    (outcome : before.Outcome after) : Arriving (savings.stored id after) store task userInfo := by
  have apart : before.playerId ≠ userInfo.playerId := arriving.absent id _ held
  have clean : before.issued = [] := balanced.clean id _ held
  refine ⟨?_, ?_, arriving.row⟩
  · intro other belongings found
    rcases stored_cases held found with ⟨_, rfl⟩ | ⟨_, old⟩
    · exact outcome.playerId ▸ apart
    · exact arriving.absent other belongings old
  · intro request member
    rcases List.mem_append.mp member with old | new
    · exact arriving.settled request old
    · obtain ⟨item, among, rfl⟩ := List.mem_map.mp new
      refine ⟨fun same => apart ?_, (Option.some_ne_none _).symm⟩
      exact (outcome.foreign clean item among).symm.trans (Option.some.inj same)

/-- A player on its way stays so when others leave. -/
theorem Arriving.without (arriving : Arriving savings store task userInfo) (id : ObjID) :
    Arriving { savings with belongings := Function.update savings.belongings id none } store task
      userInfo where
  absent other belongings found := by
    simp only [Function.update_apply] at found
    split at found
    · contradiction
    · exact arriving.absent other belongings found
  settled := arriving.settled
  row := arriving.row

/-- Others may enter. -/
theorem Arriving.enter (arriving : Arriving savings store task userInfo) (id : ObjID)
    {newcomer : Option Belongings}
    (other : ∀ belongings, newcomer = some belongings →
      belongings.playerId ≠ userInfo.playerId) :
    Arriving { savings with belongings := Function.update savings.belongings id newcomer } store
      task userInfo where
  absent id belongings found := by
    simp only [Function.update_apply] at found
    split at found
    · exact other belongings found
    · exact arriving.absent id belongings found
  settled := arriving.settled
  row := arriving.row

/-- The requests that wait are about other accounts. -/
theorem Arriving.write (arriving : Arriving savings store task userInfo) {request : DbRequest}
    {index : Nat} (found : savings.requests[index]? = some request) :
    Arriving (savings.taken index) (request.write store) task userInfo where
  absent := arriving.absent
  settled other member := arriving.settled other (mem_taken member)
  row := by
    obtain ⟨items, rows⟩ := arriving.settled request (List.mem_of_getElem? found)
    obtain ⟨row, stored, player, tile, carries⟩ := arriving.row
    refine ⟨row, ?_, player, tile, ?_⟩
    · rw [PlayersTable.find_eq_rowOf] at stored ⊢
      rw [← stored]
      exact DbRequest.keyed_rowOf.other request store _ rows
    · intro order session subject user new bodyOf
      apply (carries order session subject user new bodyOf).congr
      apply InventoryTable.storedAt_congr
      rw [← player] at items
      exact DbRequest.keyed_rowsOf.other request store _ items

/-- Logins of others may be read. -/
theorem Arriving.register (arriving : Arriving savings store task userInfo) {index : Nat}
    {after : Store collate} (inventory : after.inventory = store.inventory)
    (kept : ∀ name row, store.players.find name = some row → after.players.find name = some row) :
    Arriving (savings.taken index) after task userInfo where
  absent := arriving.absent
  settled other member := arriving.settled other (mem_taken member)
  row := by
    obtain ⟨row, stored, player, tile, carries⟩ := arriving.row
    exact ⟨row, kept _ row stored, player, tile, inventory ▸ carries⟩

end Savings

end Mmorpg
