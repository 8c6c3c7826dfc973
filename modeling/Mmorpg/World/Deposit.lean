import Mmorpg.World.AccountRuns
import Mmorpg.World.MirrorRuns
import Mmorpg.World.SavingsTasks

/-!
# Inventories and accounts against the tables

The books of the server: what the tables will hold once every waiting request
is made is what the users have.  They balance as long as no player is in the
world twice and the writes of one shard are made in their order.
-/

namespace Mmorpg

open DBThread Transition

variable {collate : String → String}

namespace Store

/-- The player has a row. -/
def Registers (store : Store collate) (playerId : Int) : Prop :=
  ∃ row ∈ store.players.rows, row.playerId = playerId

/-- The foreign key of table `Inventory`. -/
def Referenced (store : Store collate) : Prop :=
  ∀ row ∈ store.inventory.rows, store.Registers row.playerId

variable {store : Store collate} {playerId : Int} {name : String} {row : PlayerRow}

/-- A row that is found registers its player. -/
theorem registers_of_find (found : store.players.find name = some row) :
    store.Registers row.playerId :=
  ⟨row, ((store.players.find_eq_some_iff name row).mp found).1, rfl⟩

/-- Writes keep the identifier of an account. -/
theorem write_rowOf (request : DbRequest) (store : Store collate) (account : String) :
    ((request.write store).players.rowOf account).map PlayerRow.playerId =
      (store.players.rowOf account).map PlayerRow.playerId := by
  by_cases mine : request.account collate = some account
  · rw [DbRequest.keyed_rowOf.own request store account mine]
    cases request with
    | saveUser id name x y level exp =>
        rw [DbRequest.rowEffect, Option.map_map]
        rfl
    | _ => rfl
  · rw [DbRequest.keyed_rowOf.other request store account mine]

theorem replay_rowOf (requests : List DbRequest) (store : Store collate) (account : String) :
    ((replay DbRequest.write requests store).players.rowOf account).map PlayerRow.playerId =
      (store.players.rowOf account).map PlayerRow.playerId := by
  induction requests generalizing store with
  | nil => rfl
  | cons request rest ih => rw [replay_cons, ih, write_rowOf]

/-- Writes register and forget nobody. -/
theorem write_registers (request : DbRequest) (store : Store collate) :
    (request.write store).Registers playerId ↔ store.Registers playerId := by
  cases request with
  | saveUser id name x y level exp =>
      simp only [Registers, DbRequest.write, DbRequest.apply, PlayersTable.savePlayerInfo,
        List.mem_map]
      constructor
      · rintro ⟨_, ⟨row, member, rfl⟩, rfl⟩
        refine ⟨row, member, ?_⟩
        split <;> rfl
      · rintro ⟨row, member, rfl⟩
        refine ⟨_, ⟨row, member, rfl⟩, ?_⟩
        split <;> rfl
  | _ => rfl

/-- Two rows of one player are one row. -/
theorem row_of_player {other : PlayerRow} {otherName : String}
    (found : store.players.find name = some row)
    (otherFound : store.players.find otherName = some other)
    (same : row.playerId = other.playerId) : row = other ∧ collate name = collate otherName := by
  rw [PlayersTable.find_eq_some_iff] at found otherFound
  obtain rfl := List.inj_on_of_nodup_map store.players.primaryKey found.1 otherFound.1 same
  exact ⟨rfl, found.2.symm.trans otherFound.2⟩

end Store

/-- Reading a slot only needs the rows of the player. -/
theorem InventoryTable.storedAt_congr {first second : InventoryTable} {playerId : Int}
    (same : first.rowsOf playerId = second.rowsOf playerId) :
    first.storedAt playerId = second.storedAt playerId := by
  funext index
  have found : first.find (playerId, index.toInt16) = second.find (playerId, index.toInt16) :=
    congrFun same index.toInt16
  rw [storedAt, storedAt, found]

namespace Inventory

variable {before after : Inventory}

theorem SaveBatch.request_playerId (batch : SaveBatch) (inventory : Inventory) :
    (batch.request inventory).playerId = inventory.playerId := by
  cases batch with
  | one index =>
      simp only [SaveBatch.request, slotRequest]
      split <;> rfl
  | two first second => rfl

theorem Outcome.playerId (outcome : before.Outcome after) : after.playerId = before.playerId := by
  rcases outcome with rfl | ⟨batches, succeeded⟩
  · rfl
  · exact succeeded.2.playerId

/-- An operation asks for rows of its own player only. -/
theorem Outcome.foreign (outcome : before.Outcome after) (clean : before.issued = [])
    (request : ItemRequest) (member : request ∈ after.issued) :
    request.playerId = before.playerId := by
  have player := outcome.playerId
  rcases outcome with rfl | ⟨batches, succeeded⟩
  · rw [clean] at member
    exact absurd member List.not_mem_nil
  · rw [succeeded.2.issued, clean, List.nil_append] at member
    obtain ⟨batch, _, rfl⟩ := List.mem_map.mp member
    rw [SaveBatch.request_playerId, player]

end Inventory

/-- A newcomer comes with what the database read. -/
theorem Task.userInfo_of_newcomer {task : Task} {order : SlotOrder} {new : Nat × Subject}
    (newcomer : task.newcomer order = some new) : ∃ userInfo, task.userInfo = some userInfo := by
  cases task with
  | getUserInfo session userInfo items => exact ⟨userInfo, rfl⟩
  | addUserInfo session userInfo => exact ⟨userInfo, rfl⟩
  | _ => contradiction

namespace Savings

variable {savings : Savings} {store : Store collate} {id : ObjID}

/-- The tables once every waiting request is made. -/
def settled (savings : Savings) (store : Store collate) : Store collate :=
  replay DbRequest.write savings.requests store

/-- A name under which a user plays or is about to be saved. -/
def Spells (savings : Savings) (name : String) : Prop :=
  (∃ request ∈ savings.requests, request.savedName = some name) ∨
    ∃ id belongings, savings.belongings id = some belongings ∧ belongings.name = name

/-- Every user has what the tables will hold, and no player is there twice. -/
structure Balanced (savings : Savings) (store : Store collate) : Prop where
  clean : ∀ id belongings, savings.belongings id = some belongings → belongings.issued = []
  keys : ∀ id belongings, savings.belongings id = some belongings → belongings.slots.KeysValid
  typed : ∀ id belongings, savings.belongings id = some belongings →
    belongings.slots.All Item.Typed
  agrees : ∀ id belongings, savings.belongings id = some belongings → ∀ index,
    Inventory.loadDecode index
        ((savings.settled store).inventory.storedAt belongings.playerId index) =
      (belongings.slots index).map Item.view
  registered : ∀ id belongings, savings.belongings id = some belongings →
    ∃ row, store.players.find belongings.name = some row ∧ row.playerId = belongings.playerId
  alone : ∀ first second belongings others, savings.belongings first = some belongings →
    savings.belongings second = some others → belongings.playerId = others.playerId →
    first = second
  spelling : ∀ first second, savings.Spells first → savings.Spells second →
    collate first = collate second → first = second
  owned : ∀ request ∈ savings.requests, ∀ playerId, request.player = some playerId →
    store.Registers playerId
  referenced : store.Referenced

/-- A queued login builds a user with the account's progress, and nothing else
concerns the account meanwhile. -/
structure Arriving (savings : Savings) (store : Store collate) (task : Task)
    (userInfo : DbUserInfo) : Prop where
  absent : ∀ id belongings, savings.belongings id = some belongings →
    belongings.playerId ≠ userInfo.playerId
  settled : ∀ request ∈ savings.requests, request.player ≠ some userInfo.playerId ∧
    request.account collate ≠ some (collate userInfo.name)
  row : ∃ row, store.players.find userInfo.name = some row ∧ row.playerId = userInfo.playerId ∧
    (∀ session items, task = .getUserInfo session userInfo items →
      userInfo.x = row.x ∧ userInfo.y = row.y) ∧
    ∀ order session subject user, task.newcomer order = some (session, subject) →
      subject.body = .user user → user.Carries row store.inventory

/-! ## Requests -/

section Requests

variable {requests : List DbRequest} {belongings : Belongings} {playerId : Int}

theorem settled_append (held : ObjID → Option Belongings) (more : List DbRequest) :
    settled ⟨held, requests ++ more⟩ store =
      replay DbRequest.write more (settled ⟨held, requests⟩ store) :=
  replay_append _ _ _ _

/-- Requests of an inventory change its table only. -/
theorem replay_items (items : List ItemRequest) (store : Store collate) :
    replay DbRequest.write (items.map .item) store =
      { store with inventory := replay InventoryTable.processItem items store.inventory } := by
  induction items generalizing store with
  | nil => rfl
  | cons item rest ih => rw [List.map_cons, replay_cons, ih, replay_cons]; rfl

theorem storedAt_of_unwritten (others : ∀ request ∈ requests, request.player ≠ some playerId)
    (store : Store collate) :
    (replay DbRequest.write requests store).inventory.storedAt playerId =
      store.inventory.storedAt playerId :=
  InventoryTable.storedAt_congr (DbRequest.keyed_rowsOf.replay_other others store)

end Requests

/-! ## Storing an inventory -/

section Storing

variable {before after : Inventory} {name : String}

/-- What a player owns after somebody's inventory was stored. -/
theorem stored_cases
    (held : savings.belongings id = some ⟨name, before.playerId, before.slots, before.issued⟩)
    {other : ObjID} {belongings : Belongings}
    (found : (savings.stored id after).belongings other = some belongings) :
    (other = id ∧ belongings = ⟨name, after.playerId, after.slots, []⟩) ∨
      (other ≠ id ∧ savings.belongings other = some belongings) := by
  simp only [stored, Function.update_apply, held, Option.map_some] at found
  split at found
  · next here => exact .inl ⟨here, (Option.some.inj found).symm⟩
  · next apart => exact .inr ⟨apart, found⟩

theorem Balanced.stored (balanced : Balanced savings store)
    (held : savings.belongings id = some ⟨name, before.playerId, before.slots, before.issued⟩)
    (outcome : before.Outcome after) : Balanced (savings.stored id after) store := by
  have clean : before.issued = [] := balanced.clean id _ held
  have player := outcome.playerId
  have foreign := outcome.foreign clean
  rcases outcome with rfl | ⟨batches, succeeded⟩
  · have same : savings.stored id after = savings := by
      refine Savings.ext ?_ ?_
      · rw [Savings.stored, held, Option.map_some, Function.update_eq_self_iff, held, clean]
      · rw [Savings.stored, clean, List.map_nil, List.append_nil]
    rwa [same]
  have issued : after.issued = batches.map (Inventory.SaveBatch.request after) := by
    rw [succeeded.2.issued, clean, List.nil_append]
  have mirrors : Inventory.Mirrors Inventory.loading before.ownerId before.playerId before
      (savings.settled store).inventory :=
    ⟨rfl, rfl, balanced.keys id _ held, balanced.typed id _ held, balanced.agrees id _ held⟩
  have mirrored := mirrors.succeeded succeeded
  have settles : ((savings.stored id after).settled store).inventory =
      replay InventoryTable.processItem (batches.map (Inventory.SaveBatch.request after))
        (savings.settled store).inventory := by
    rw [Savings.stored, settled_append, replay_items, issued]
    rfl
  constructor
  case clean =>
    intro other belongings found
    rcases stored_cases held found with ⟨_, rfl⟩ | ⟨_, old⟩
    · rfl
    · exact balanced.clean other belongings old
  case keys =>
    intro other belongings found
    rcases stored_cases held found with ⟨_, rfl⟩ | ⟨_, old⟩
    · exact mirrored.keys
    · exact balanced.keys other belongings old
  case typed =>
    intro other belongings found
    rcases stored_cases held found with ⟨_, rfl⟩ | ⟨_, old⟩
    · exact mirrored.typed
    · exact balanced.typed other belongings old
  case agrees =>
    intro other belongings found
    rcases stored_cases held found with ⟨_, rfl⟩ | ⟨apart, old⟩
    · rw [settles, player]
      exact mirrored.agrees
    · have different : belongings.playerId ≠ before.playerId :=
        fun same => apart (balanced.alone other id belongings _ old held same)
      have unwritten : ((savings.stored id after).settled store).inventory.storedAt
          belongings.playerId = (savings.settled store).inventory.storedAt belongings.playerId := by
        rw [Savings.stored, settled_append]
        apply storedAt_of_unwritten
        intro request member
        obtain ⟨item, among, rfl⟩ := List.mem_map.mp member
        rw [DbRequest.player, foreign item among]
        exact fun same => different (Option.some.inj same).symm
      rw [unwritten]
      exact balanced.agrees other belongings old
  case registered =>
    intro other belongings found
    rcases stored_cases held found with ⟨_, rfl⟩ | ⟨_, old⟩
    · obtain ⟨row, found, samePlayer⟩ := balanced.registered id _ held
      exact ⟨row, found, samePlayer.trans player.symm⟩
    · exact balanced.registered other belongings old
  case alone =>
    have known : ∀ other belongings, (savings.stored id after).belongings other = some belongings →
        ∃ old, savings.belongings other = some old ∧ old.playerId = belongings.playerId := by
      intro other belongings found
      rcases stored_cases held found with ⟨rfl, rfl⟩ | ⟨_, old⟩
      · exact ⟨_, held, player.symm⟩
      · exact ⟨belongings, old, rfl⟩
    intro first second belongings others foundFirst foundSecond same
    obtain ⟨old, oldFound, oldPlayer⟩ := known first belongings foundFirst
    obtain ⟨older, olderFound, olderPlayer⟩ := known second others foundSecond
    exact balanced.alone first second old older oldFound olderFound
      (oldPlayer.trans (same.trans olderPlayer.symm))
  case spelling =>
    have spelled : ∀ spelling, (savings.stored id after).Spells spelling →
        savings.Spells spelling := by
      rintro spelling (⟨request, member, saved⟩ | ⟨other, belongings, found, spelled⟩)
      · rcases List.mem_append.mp member with old | new
        · exact .inl ⟨request, old, saved⟩
        · obtain ⟨item, _, rfl⟩ := List.mem_map.mp new
          contradiction
      · rcases stored_cases held found with ⟨rfl, rfl⟩ | ⟨_, old⟩
        · exact .inr ⟨other, _, held, spelled⟩
        · exact .inr ⟨other, belongings, old, spelled⟩
    exact fun first second one two same =>
      balanced.spelling first second (spelled first one) (spelled second two) same
  case owned =>
    intro request member playerId mine
    rcases List.mem_append.mp member with old | new
    · exact balanced.owned request old playerId mine
    · obtain ⟨item, among, rfl⟩ := List.mem_map.mp new
      obtain ⟨row, found, samePlayer⟩ := balanced.registered id _ held
      have known := Store.registers_of_find found
      rw [samePlayer] at known
      obtain rfl := Option.some.inj mine
      rw [foreign item among]
      exact known
  case referenced => exact balanced.referenced

end Storing

/-! ## Coming and going -/

/-- A request about no inventory row, under a name that is in use. -/
theorem Balanced.ask (balanced : Balanced savings store) (request : DbRequest)
    (noItem : request.player = none)
    (known : ∀ name, request.savedName = some name → savings.Spells name) :
    Balanced { savings with requests := savings.requests ++ [request] } store where
  clean := balanced.clean
  keys := balanced.keys
  typed := balanced.typed
  agrees id belongings found := by
    rw [settled_append, storedAt_of_unwritten]
    · exact balanced.agrees id belongings found
    · intro other member
      rw [List.mem_singleton.mp member, noItem]
      exact (Option.some_ne_none _).symm
  registered := balanced.registered
  alone := balanced.alone
  spelling := by
    have spelled : ∀ spelling, Spells { savings with requests := savings.requests ++ [request] }
        spelling → savings.Spells spelling := by
      rintro spelling (⟨other, member, saved⟩ | plays)
      · rcases List.mem_append.mp member with old | new
        · exact .inl ⟨other, old, saved⟩
        · exact known spelling (List.mem_singleton.mp new ▸ saved)
      · exact .inr plays
    exact fun first second one two same =>
      balanced.spelling first second (spelled first one) (spelled second two) same
  owned other member playerId mine := by
    rcases List.mem_append.mp member with old | new
    · exact balanced.owned other old playerId mine
    · rw [List.mem_singleton.mp new, noItem] at mine
      contradiction
  referenced := balanced.referenced

theorem Balanced.askAll (balanced : Balanced savings store) {requests : List DbRequest}
    (noItem : ∀ request ∈ requests, request.player = none)
    (known : ∀ request ∈ requests, ∀ name, request.savedName = some name → savings.Spells name) :
    Balanced { savings with requests := savings.requests ++ requests } store := by
  induction requests generalizing savings with
  | nil => simpa using balanced
  | cons request rest ih =>
      have first := balanced.ask request (noItem request List.mem_cons_self)
        (known request List.mem_cons_self)
      have others := ih first (fun other member => noItem other (List.mem_cons_of_mem _ member))
        fun other member name saved => by
          rcases known other (List.mem_cons_of_mem _ member) name saved with
            ⟨request, old, mine⟩ | plays
          · exact .inl ⟨request, List.mem_append_left _ old, mine⟩
          · exact .inr plays
      rwa [List.append_assoc] at others

/-- Without one of the users. -/
theorem Balanced.without (balanced : Balanced savings store) (id : ObjID) :
    Balanced { savings with belongings := Function.update savings.belongings id none } store := by
  have older : ∀ {other belongings}, Function.update savings.belongings id none other =
      some belongings → savings.belongings other = some belongings := by
    intro other belongings found
    rw [Function.update_apply] at found
    split at found
    · contradiction
    · exact found
  constructor
  case clean => exact fun other _ found => balanced.clean other _ (older found)
  case keys => exact fun other _ found => balanced.keys other _ (older found)
  case typed => exact fun other _ found => balanced.typed other _ (older found)
  case agrees => exact fun other _ found => balanced.agrees other _ (older found)
  case registered => exact fun other _ found => balanced.registered other _ (older found)
  case alone =>
    exact fun first second _ _ one two same =>
      balanced.alone first second _ _ (older one) (older two) same
  case spelling =>
    have spelled : ∀ spelling, Spells
        { savings with belongings := Function.update savings.belongings id none } spelling →
          savings.Spells spelling := by
      rintro spelling (saved | ⟨other, belongings, found, same⟩)
      · exact .inl saved
      · exact .inr ⟨other, belongings, older found, same⟩
    exact fun first second one two same =>
      balanced.spelling first second (spelled first one) (spelled second two) same
  case owned => exact balanced.owned
  case referenced => exact balanced.referenced

/-- What a login task builds, whatever it has read. -/
structure Fresh (userInfo : DbUserInfo) (subject : Subject) (user : User) : Prop where
  name : subject.name = userInfo.name
  playerId : user.inventory.playerId = userInfo.playerId
  issued : user.inventory.issued = []
  keys : user.inventory.slots.KeysValid
  typed : user.inventory.slots.All Item.Typed

theorem fresh_newcomer {task : Task} {order : SlotOrder} {session : Nat} {subject : Subject}
    {user : User} {userInfo : DbUserInfo} (isLogin : task.userInfo = some userInfo)
    (new : task.newcomer order = some (session, subject)) (bodyOf : subject.body = .user user) :
    Fresh userInfo subject user := by
  cases task with
  | getUserInfo session userInfo items =>
      obtain rfl := Option.some.inj isLogin
      obtain ⟨rfl, rfl⟩ := Prod.mk.inj (Option.some.inj new)
      obtain rfl := Body.user.inj bodyOf
      have frame := Inventory.foldl_loadRow_frame items
        (User.initInstance (ObjID.user session) userInfo.playerId userInfo.level
          userInfo.exp).inventory
      refine ⟨rfl, frame.2.1, frame.2.2, ?_, ?_⟩
      · exact Inventory.foldl_loadRow_keysValid items _ fun _ impossible => by cases impossible
      · exact Inventory.foldl_loadRow_typed items _ fun _ _ impossible => by cases impossible
  | addUserInfo session userInfo =>
      obtain rfl := Option.some.inj isLogin
      obtain ⟨rfl, rfl⟩ := Prod.mk.inj (Option.some.inj new)
      obtain rfl := Body.user.inj bodyOf
      refine ⟨rfl, rfl, rfl, ?_, ?_⟩
      · exact fun _ impossible => by cases impossible
      · exact fun _ _ impossible => by cases impossible
  | _ => contradiction

/-- A login lets its user in. -/
theorem Balanced.enter (balanced : Balanced savings store) {task : Task} {order : SlotOrder}
    {session : Nat} {subject : Subject} {user : User} {userInfo : DbUserInfo}
    (isLogin : task.userInfo = some userInfo)
    (new : task.newcomer order = some (session, subject)) (bodyOf : subject.body = .user user)
    (arriving : Arriving savings store task userInfo) :
    Balanced
      { savings with
        belongings := Function.update savings.belongings (ObjID.user session) subject.belongings }
      store := by
  have fresh := fresh_newcomer isLogin new bodyOf
  obtain ⟨row, found, player, _, carries⟩ := arriving.row
  have carried := carries order session subject user new bodyOf
  have brings : subject.belongings =
      some ⟨userInfo.name, userInfo.playerId, user.inventory.slots, []⟩ := by
    simp only [Subject.belongings, bodyOf, fresh.name, fresh.playerId, fresh.issued]
  rw [brings]
  have cases_ : ∀ {other belongings}, Function.update savings.belongings (ObjID.user session)
      (some ⟨userInfo.name, userInfo.playerId, user.inventory.slots, []⟩) other =
        some belongings →
      (other = ObjID.user session ∧
        belongings = ⟨userInfo.name, userInfo.playerId, user.inventory.slots, []⟩) ∨
      savings.belongings other = some belongings := by
    intro other belongings found
    rw [Function.update_apply] at found
    split at found
    · next here => exact .inl ⟨here, (Option.some.inj found).symm⟩
    · exact .inr found
  constructor
  case clean =>
    intro other belongings found
    rcases cases_ found with ⟨_, rfl⟩ | old
    · rfl
    · exact balanced.clean other belongings old
  case keys =>
    intro other belongings found
    rcases cases_ found with ⟨_, rfl⟩ | old
    · exact fresh.keys
    · exact balanced.keys other belongings old
  case typed =>
    intro other belongings found
    rcases cases_ found with ⟨_, rfl⟩ | old
    · exact fresh.typed
    · exact balanced.typed other belongings old
  case agrees =>
    intro other belongings found
    rcases cases_ found with ⟨_, rfl⟩ | old
    · intro index
      rw [carried.slots index, player]
      have unwritten := storedAt_of_unwritten (fun request member =>
        (arriving.settled request member).1) store
      exact congrArg (Inventory.loadDecode index) (congrFun unwritten index)
    · exact balanced.agrees other belongings old
  case registered =>
    intro other belongings found
    rcases cases_ found with ⟨_, rfl⟩ | old
    · exact ⟨row, by assumption, player⟩
    · exact balanced.registered other belongings old
  case alone =>
    intro first second one two foundOne foundTwo same
    rcases cases_ foundOne with ⟨rfl, rfl⟩ | oldOne
    · rcases cases_ foundTwo with ⟨rfl, rfl⟩ | oldTwo
      · rfl
      · exact absurd same.symm (arriving.absent second two oldTwo)
    · rcases cases_ foundTwo with ⟨rfl, rfl⟩ | oldTwo
      · exact absurd same (arriving.absent first one oldOne)
      · exact balanced.alone first second one two oldOne oldTwo same
  case spelling =>
    -- Nobody else uses a spelling of the newcomer's name.
    have alone : ∀ spelling, savings.Spells spelling →
        collate spelling ≠ collate userInfo.name := by
      rintro spelling (⟨request, member, saved⟩ | ⟨other, belongings, plays, rfl⟩) same
      · apply (arriving.settled request member).2
        rw [DbRequest.account, saved, Option.map_some, same]
      · obtain ⟨otherRow, otherFound, otherPlayer⟩ := balanced.registered other belongings plays
        rw [PlayersTable.find_eq_rowOf, same] at otherFound
        rw [PlayersTable.find_eq_rowOf, otherFound, Option.some.injEq] at found
        apply arriving.absent other belongings plays
        rw [← otherPlayer, found, player]
    have spelled : ∀ spelling, Spells
        { savings with
          belongings := Function.update savings.belongings (ObjID.user session)
            (some ⟨userInfo.name, userInfo.playerId, user.inventory.slots, []⟩) } spelling →
          spelling = userInfo.name ∨ savings.Spells spelling := by
      rintro spelling (saved | ⟨other, belongings, plays, rfl⟩)
      · exact .inr (.inl saved)
      · rcases cases_ plays with ⟨_, rfl⟩ | old
        · exact .inl rfl
        · exact .inr (.inr ⟨other, belongings, old, rfl⟩)
    intro first second one two same
    rcases spelled first one with rfl | oldOne
    · rcases spelled second two with rfl | oldTwo
      · rfl
      · exact absurd same.symm (alone second oldTwo)
    · rcases spelled second two with rfl | oldTwo
      · exact absurd same (alone first oldOne)
      · exact balanced.spelling first second oldOne oldTwo same
  case owned => exact balanced.owned
  case referenced => exact balanced.referenced

/-! ## The database at work -/

section Database

variable {request : DbRequest} {index : Nat} {hash : String → Nat}

/-- The savings once a request has been taken. -/
def taken (index : Nat) (savings : Savings) : Savings :=
  { savings with requests := savings.requests.eraseIdx index }

theorem mem_taken {other : DbRequest} (member : other ∈ (savings.taken index).requests) :
    other ∈ savings.requests :=
  List.mem_of_mem_eraseIdx member

/-- No earlier request waits for the same shard. -/
def FirstOfShard (hash : String → Nat) (index : Nat) (request : DbRequest) (savings : Savings) :
    Prop :=
  ∀ earlier ∈ savings.requests.take index,
    earlier.fixedShard hash = none ∨ earlier.fixedShard hash ≠ request.fixedShard hash

theorem settled_rowsOf (found : savings.requests[index]? = some request)
    (first : savings.FirstOfShard hash index request) (store : Store collate) (playerId : Int) :
    ((savings.taken index).settled (request.write store)).inventory.rowsOf playerId =
      (savings.settled store).inventory.rowsOf playerId := by
  refine DbRequest.keyed_rowsOf.replay_eraseIdx found ?_ store playerId
  intro earlier member
  rw [or_iff_not_imp_left]
  intro writes same
  cases earlier with
  | item early =>
      cases request with
      | item late =>
          obtain same := Option.some.inj same
          rcases first _ member with none_ | apart
          · contradiction
          · exact apart (by rw [DbRequest.fixedShard, DbRequest.fixedShard, same])
      | _ => contradiction
  | _ => exact writes rfl

/-- Saves of one account bear one spelling of its name and so share a shard. -/
theorem settled_rowOf (balanced : Balanced savings store)
    (found : savings.requests[index]? = some request)
    (first : savings.FirstOfShard hash index request) (account : String) :
    ((savings.taken index).settled (request.write store)).players.rowOf account =
      (savings.settled store).players.rowOf account := by
  refine DbRequest.keyed_rowOf.replay_eraseIdx found ?_ store account
  intro earlier member
  rw [or_iff_not_imp_left]
  intro writes same
  cases earlier with
  | saveUser id name x y level exp =>
      cases request with
      | saveUser otherId otherName =>
          have spelled : name = otherName := by
            apply balanced.spelling name otherName _ _ (Option.some.inj same)
            · exact .inl ⟨_, List.mem_of_mem_take member, rfl⟩
            · exact .inl ⟨_, List.mem_of_getElem? found, rfl⟩
          rcases first _ member with none_ | apart
          · contradiction
          · exact apart (by rw [DbRequest.fixedShard, DbRequest.fixedShard, spelled])
      | _ => contradiction
  | _ => exact writes rfl

/-- A written table still refers to registered players only. -/
theorem write_referenced (referenced : store.Referenced)
    (owned : ∀ playerId, request.player = some playerId → store.Registers playerId) :
    (request.write store).Referenced := by
  intro row member
  rw [Store.write_registers]
  have found : (request.write store).inventory.rowsOf row.playerId row.slotIndex = some row :=
    ((request.write store).inventory.find_eq_some_iff _ row).mpr ⟨member, rfl⟩
  by_cases mine : request.player = some row.playerId
  · exact owned _ mine
  · have old := DbRequest.keyed_rowsOf.other request store row.playerId mine
    rw [old] at found
    exact referenced row ((store.inventory.find_eq_some_iff _ row).mp found).1

/-- A request that is made moves from the waiting ones into the tables. -/
theorem Balanced.write (balanced : Balanced savings store)
    (found : savings.requests[index]? = some request)
    (first : savings.FirstOfShard hash index request) :
    Balanced (savings.taken index) (request.write store) where
  clean := balanced.clean
  keys := balanced.keys
  typed := balanced.typed
  agrees id belongings plays := by
    rw [InventoryTable.storedAt_congr (settled_rowsOf found first store belongings.playerId)]
    exact balanced.agrees id belongings plays
  registered id belongings plays := by
    obtain ⟨row, rowFound, player⟩ := balanced.registered id belongings plays
    have kept := Store.write_rowOf request store (collate belongings.name)
    rw [← PlayersTable.find_eq_rowOf, ← PlayersTable.find_eq_rowOf, rowFound] at kept
    obtain ⟨new, newFound, same⟩ := Option.map_eq_some_iff.mp kept
    exact ⟨new, newFound, same.trans player⟩
  alone := balanced.alone
  spelling := by
    have spelled : ∀ spelling, (savings.taken index).Spells spelling →
        savings.Spells spelling := by
      rintro spelling (⟨other, member, saved⟩ | plays)
      · exact .inl ⟨other, mem_taken member, saved⟩
      · exact .inr plays
    exact fun first second one two same =>
      balanced.spelling first second (spelled first one) (spelled second two) same
  owned other member playerId mine := by
    rw [Store.write_registers]
    exact balanced.owned other (mem_taken member) playerId mine
  referenced := write_referenced balanced.referenced
    (balanced.owned request (List.mem_of_getElem? found))

/-- Taking a request without writing anything: a login, or a new account. -/
theorem Balanced.register (balanced : Balanced savings store) {after : Store collate}
    (found : savings.requests[index]? = some request) (reads : request.isWrite = false)
    (inventory : after.inventory = store.inventory)
    (kept : ∀ name row, store.players.find name = some row → after.players.find name = some row) :
    Balanced (savings.taken index) after := by
  have same : request.write store = store := by
    cases request with
    | login session name password => rfl
    | _ => contradiction
  have first : savings.FirstOfShard (fun _ => 0) index request := by
    intro earlier member
    rw [or_iff_not_imp_left]
    cases request with
    | login session name password => exact id
    | _ => contradiction
  have taken_ := balanced.write found first
  rw [same] at taken_
  have registers : ∀ playerId, store.Registers playerId → after.Registers playerId := by
    rintro playerId ⟨row, member, rfl⟩
    have stored : store.players.find row.name = some row :=
      (store.players.find_eq_some_iff _ row).mpr ⟨member, rfl⟩
    exact Store.registers_of_find (kept row.name row stored)
  constructor
  case clean => exact taken_.clean
  case keys => exact taken_.keys
  case typed => exact taken_.typed
  case agrees =>
    intro id belongings plays slot
    have rows : after.inventory.rowsOf belongings.playerId =
        store.inventory.rowsOf belongings.playerId := by rw [inventory]
    have settles := InventoryTable.storedAt_congr
      (DbRequest.keyed_rowsOf.replay_congr rows (savings.taken index).requests)
    exact (congrArg (Inventory.loadDecode slot) (congrFun settles slot)).trans
      (taken_.agrees id belongings plays slot)
  case registered =>
    intro id belongings plays
    obtain ⟨row, rowFound, player⟩ := taken_.registered id belongings plays
    exact ⟨row, kept _ row rowFound, player⟩
  case alone => exact taken_.alone
  case spelling => exact taken_.spelling
  case owned =>
    intro other member playerId mine
    exact registers playerId (taken_.owned other member playerId mine)
  case referenced =>
    intro row member
    rw [inventory] at member
    exact registers _ (balanced.referenced row member)

end Database

end Savings

end Mmorpg
