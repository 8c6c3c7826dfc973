import Mmorpg.World.Server
import Mmorpg.Item.Persistence

/-!
# Logins with failing database calls

What becomes of a stored account when database calls fail during its login.
A failed lookup is read as "not registered", a failed extraction as a default
user and a failed fetch as the end of the rows, so the user that enters the
world can differ from the stored account.
-/

namespace Mmorpg

open ZoneLayout

variable {grid : CollisionGrid}

/-- The task a processed login is handed over as. -/
def LoginOutcome.task (session : Nat) : LoginOutcome → Option Task
  | .dropped => none
  | .loginFail => none
  | .getUserInfo userInfo items => some (.getUserInfo session userInfo items)
  | .addUserInfo userInfo => some (.addUserInfo session userInfo)

/-- The subject as a user. -/
def Subject.asUser (subject : Subject) : Option User :=
  match subject.body with
  | .user user => some user
  | _ => none

namespace World

/-- The registered user. -/
def userOf (id : ObjID) (world : World) : Option User :=
  (world.objects id).bind Subject.asUser

/-! ## Users through the end of a login -/

/-- No user differs between the two worlds. -/
def SameUsers (before after : World) : Prop :=
  ∀ id, after.userOf id = before.userOf id

namespace SameUsers

variable {before after : World}

theorem refl (world : World) : SameUsers world world :=
  fun _ => rfl

theorem modify {id : ObjID} {change : Subject → Subject}
    (keeps : ∀ subject, (change subject).asUser = subject.asUser)
    (same : SameUsers before after) : SameUsers before (after.modify id change) := by
  intro other
  rw [← same other]
  simp only [userOf, World.modify, Function.update_apply]
  split
  · next here =>
    subst here
    cases after.objects other with
    | none => rfl
    | some subject => exact keeps subject
  · rfl

theorem modifyTransform {id : ObjID} {change : Transform → Transform}
    (same : SameUsers before after) : SameUsers before (after.modifyTransform id change) :=
  same.modify fun _ => rfl

theorem modifyMonster {id : ObjID} {change : Monster → Monster}
    (same : SameUsers before after) : SameUsers before (after.modifyMonster id change) := by
  apply same.modify
  rintro ⟨name, transform, facing, body⟩
  cases body <;> rfl

end SameUsers

theorem updateObjectSectorAndPosition_users {zone : Nat} {id : ObjID} {transform : Transform}
    {x y : Int} {world placed : World}
    (moved : world.updateObjectSectorAndPosition zone id transform x y = some placed) :
    SameUsers world placed := by
  simp only [updateObjectSectorAndPosition] at moved
  split at moved
  · rw [← Option.some.inj moved]
    apply SameUsers.modifyTransform
    intro other
    simp only [userOf]
    split
    · split <;> rfl
    · rfl
  · contradiction

theorem updatePosition_users {zone : Nat} {id : ObjID} {x y : Int} (world : World) :
    SameUsers world (world.updatePosition zone id x y) := by
  unfold updatePosition
  split
  · exact SameUsers.refl world
  · split
    · exact SameUsers.refl world
    · next placed moved =>
      have placedSame := updateObjectSectorAndPosition_users moved
      have marked : SameUsers world (placed.modifyTransform id fun current =>
          { current with zoneId := getZoneIdByWorld x y }) := placedSame.modifyTransform
      have mapped : SameUsers world ((placed.modifyTransform id fun current =>
          { current with zoneId := getZoneIdByWorld x y }).updateObjectZone id
            (getZoneIdByWorld x y)) := by
        unfold updateObjectZone
        split
        · exact marked
        · exact marked
      dsimp only
      split
      · split
        · exact mapped
        · exact placedSame
      · split
        · exact mapped
        · exact placedSame

theorem wakeUpMonster_users {zone : Nat} {monsterId wakerId : ObjID} {forceWake : Bool}
    {before after : World} (same : SameUsers before after) :
    SameUsers before (after.wakeUpMonster zone monsterId wakerId forceWake) := by
  unfold wakeUpMonster
  split
  · split
    · exact same
    · split
      · exact same
      · split
        · exact same
        · dsimp only
          split
          · exact same.modifyMonster
          · exact same.modifyMonster
  · exact same

theorem notifyPlayerEnteredWorld_users {zone : Nat} {choice : Choice grid} {playerId : ObjID}
    {isRespawn : Bool} (world : World) :
    SameUsers world (world.notifyPlayerEnteredWorld zone choice playerId isRespawn) := by
  unfold notifyPlayerEnteredWorld
  split
  · exact SameUsers.refl world
  · dsimp only [wakeUpMonsters]
    generalize (world.collectSubjects zone choice playerId).filter
      (fun id => id.category = .eMonster) = monsters
    generalize (world.collectSubjects zone choice playerId).flatMap _ = packets
    have posted : SameUsers world (world.post packets) := SameUsers.refl world
    generalize world.post packets = current at posted
    induction monsters generalizing current with
    | nil => exact posted
    | cons id rest ih => exact ih _ (wakeUpMonster_users posted)

/-- The last part of a login changes no user. -/
theorem finishLogin_users {zone : Nat} {choice : Choice grid} {session : Nat} {withItems : Bool}
    (world : World) : SameUsers world (world.finishLogin zone choice session withItems) := by
  unfold finishLogin
  dsimp only
  split
  · exact SameUsers.refl world
  · intro other
    rw [notifyPlayerEnteredWorld_users]
    cases withItems <;> rfl

theorem placeLoadedUser_users {zone : Nat} {choice : Choice grid} {session : Nat}
    {userInfo : DbUserInfo} (world : World) :
    SameUsers world (world.placeLoadedUser zone choice session userInfo) := by
  unfold placeLoadedUser
  dsimp only
  split
  · exact updatePosition_users world
  · split
    · exact updatePosition_users world
    · exact updatePosition_users world

theorem publishUser_userOf (session : Nat) (subject : Subject) (world : World) :
    (world.publishUser session subject).userOf (ObjID.user session) = subject.asUser := by
  simp [userOf, publishUser, modifySession, insertObject]

/-- A session whose user can still enter the world on this thread. -/
structure CanEnter (thread session : Nat) (world : World) : Prop where
  zone : isValidZoneId thread = true
  alloc : world.sessionState session = .stAlloc
  free : world.objects (ObjID.user session) = none

/-- The user that enters the world when the task of a processed login runs. -/
def Enters (thread : Nat) (choice : Choice grid) (session : Nat) (outcome : LoginOutcome)
    (world : World) (user : User) : Prop :=
  world.objects (ObjID.user session) = none ∧ ∃ task after, outcome.task session = some task ∧
    world.exec thread choice task = some after ∧ after.userOf (ObjID.user session) = some user

variable {thread session : Nat} {choice : Choice grid} {world : World} {user : User}

/-- An account that exists enters as it was loaded. -/
theorem handleGetUserInfo_userOf {zone : Nat} {userInfo : DbUserInfo} {items : List DbItemInfo}
    (alloc : world.sessionState session = .stAlloc)
    (free : world.objects (ObjID.user session) = none) :
    (world.handleGetUserInfo zone choice session userInfo items).userOf (ObjID.user session) =
      (loadedUser choice.slots (ObjID.user session) userInfo items).asUser := by
  unfold handleGetUserInfo
  dsimp only
  rw [if_neg (not_not.mpr alloc), if_neg (by simp [free])]
  rw [finishLogin_users, placeLoadedUser_users, publishUser_userOf]

/-- A new account enters with its first values. -/
theorem handleAddUserInfo_userOf {zone : Nat} {userInfo : DbUserInfo}
    (alloc : world.sessionState session = .stAlloc)
    (free : world.objects (ObjID.user session) = none) :
    (world.handleAddUserInfo zone choice session userInfo).userOf (ObjID.user session) =
      (newUser (ObjID.user session) userInfo).asUser := by
  unfold handleAddUserInfo
  dsimp only
  rw [if_neg (not_not.mpr alloc), if_neg (by simp [free])]
  rw [finishLogin_users, getRandomPosition, updatePosition_users, publishUser_userOf]

/-- Both login tasks let their user in exactly when it can enter. -/
theorem enters_iff {outcome : LoginOutcome} {task : Task} {handler : Nat → World}
    {subject : Subject} (queued : outcome.task session = some task)
    (runs : world.exec thread choice task =
      if world.sessionState session ≠ .stAlloc then some world
      else onSector thread fun zone => some (handler zone))
    (builds : world.sessionState session = .stAlloc →
      world.objects (ObjID.user session) = none →
        (handler thread).userOf (ObjID.user session) = subject.asUser) :
    Enters thread choice session outcome world user ↔
      CanEnter thread session world ∧ subject.asUser = some user := by
  constructor
  · rintro ⟨free, other, after, sameTask, ran, entered⟩
    obtain rfl := Option.some.inj (queued.symm.trans sameTask)
    rw [runs, onSector] at ran
    split at ran
    · obtain rfl := Option.some.inj ran
      simp [userOf, free] at entered
    · next alloc =>
      rw [not_not] at alloc
      split at ran
      · next zone =>
        obtain rfl := Option.some.inj ran
        rw [builds alloc free] at entered
        exact ⟨⟨zone, alloc, free⟩, entered⟩
      · contradiction
  · rintro ⟨enters, same⟩
    refine ⟨enters.free, task, handler thread, queued, ?_, ?_⟩
    · rw [runs, if_neg (not_not.mpr enters.alloc), onSector, if_pos enters.zone]
    · rw [builds enters.alloc enters.free, same]

/-- When an account that exists enters, and as what. -/
theorem enters_getUserInfo_iff {userInfo : DbUserInfo} {items : List DbItemInfo} :
    Enters thread choice session (.getUserInfo userInfo items) world user ↔
      CanEnter thread session world ∧
        (loadedUser choice.slots (ObjID.user session) userInfo items).asUser = some user :=
  enters_iff rfl rfl fun alloc free => handleGetUserInfo_userOf alloc free

theorem enters_addUserInfo_iff {userInfo : DbUserInfo} :
    Enters thread choice session (.addUserInfo userInfo) world user ↔
      CanEnter thread session world ∧
        (newUser (ObjID.user session) userInfo).asUser = some user :=
  enters_iff rfl rfl fun alloc free => handleAddUserInfo_userOf alloc free

end World

/-! ## The stored account -/

/-- A user with the progress and the inventory of a stored account. -/
structure User.Carries (row : PlayerRow) (table : InventoryTable) (user : User) : Prop where
  playerId : user.inventory.playerId = row.playerId
  level : user.stat.level = row.level
  exp : user.stat.exp = row.exp
  slots : ∀ index, (user.inventory.slots index).map Item.view =
    Inventory.loadDecode index (table.storedAt row.playerId index)

/-- A row that `LoadFromDB` puts into a slot. -/
def DbItemInfo.Loadable (info : DbItemInfo) : Prop :=
  isValidSlotIndex info.slotIndex = true ∧ (ItemTable.find info.itemId).isSome = true

instance (info : DbItemInfo) : Decidable info.Loadable :=
  inferInstanceAs (Decidable (_ ∧ _))

namespace Inventory

theorem loadedItem_isSome_iff {ownerId : ObjID} {info : DbItemInfo} :
    (loadedItem ownerId info).isSome = true ↔ (ItemTable.find info.itemId).isSome = true := by
  have views := congrArg Option.isSome (loadedItem_view ownerId info)
  rw [Option.isSome_map, Option.isSome_map] at views
  rw [views]

/-- A slot is filled by a row that can be loaded. -/
theorem loadedAt_isSome_iff {ownerId : ObjID} {items : List DbItemInfo} {index : SlotIndex}
    (distinct : (items.map DbItemInfo.slotIndex).Nodup) :
    (loadedAt ownerId items index).isSome = true ↔
      ∃ info ∈ items, info.slotIndex = index ∧ info.Loadable := by
  unfold loadedAt
  split
  · next valid =>
    rw [Option.isSome_iff_exists]
    simp only [Option.bind_eq_some_iff, find?_key_eq_some_iff DbItemInfo.slotIndex distinct]
    constructor
    · rintro ⟨item, info, ⟨member, rfl⟩, made⟩
      exact ⟨info, member, rfl, valid, loadedItem_isSome_iff.mp (by rw [made]; rfl)⟩
    · rintro ⟨info, member, rfl, _, known⟩
      rcases Option.isSome_iff_exists.mp (loadedItem_isSome_iff.mpr known) with ⟨item, made⟩
      exact ⟨item, info, ⟨member, rfl⟩, made⟩
  · next invalid =>
    constructor
    · exact fun impossible => absurd impossible Bool.false_ne_true
    · rintro ⟨info, _, rfl, loadable⟩
      exact absurd loadable.1 invalid

/-- Rows that were not fetched are missed exactly when one is loadable. -/
theorem loadedAt_append_iff {ownerId : ObjID} {fetched missing : List DbItemInfo}
    (distinct : ((fetched ++ missing).map DbItemInfo.slotIndex).Nodup) :
    (∀ index, (loadedAt ownerId fetched index).map Item.view =
        (loadedAt ownerId (fetched ++ missing) index).map Item.view) ↔
      ∀ info ∈ missing, ¬info.Loadable := by
  have split := distinct
  rw [List.map_append, List.nodup_append] at split
  constructor
  · intro same info member loadable
    have whole : (loadedAt ownerId (fetched ++ missing) info.slotIndex).isSome = true :=
      (loadedAt_isSome_iff distinct).mpr
        ⟨info, List.mem_append_right fetched member, rfl, loadable⟩
    have part : (loadedAt ownerId fetched info.slotIndex).isSome = true := by
      have views := congrArg Option.isSome (same info.slotIndex)
      rwa [Option.isSome_map, Option.isSome_map, whole] at views
    rcases (loadedAt_isSome_iff split.1).mp part with ⟨other, otherMember, sameSlot, _⟩
    exact split.2.2 _ (List.mem_map_of_mem otherMember) _ (List.mem_map_of_mem member) sameSlot
  · intro useless index
    congr 1
    unfold loadedAt
    split
    · next valid =>
      rw [List.find?_append]
      cases found : fetched.find? fun info => info.slotIndex == index with
      | some info => rfl
      | none =>
        rw [Option.none_or, Option.bind_none, eq_comm, Option.bind_eq_none_iff]
        intro info late
        rcases (find?_key_eq_some_iff DbItemInfo.slotIndex split.2.1).mp late with ⟨member, rfl⟩
        rw [← Option.not_isSome_iff_eq_none, loadedItem_isSome_iff]
        exact fun known => useless info member ⟨valid, known⟩
    · rfl

end Inventory

/-- The calls of a login get it to a game logic thread. -/
def LoginCalls.Reach (calls : LoginCalls) : Prop :=
  calls.connected = true ∧ (calls.isUserRegistered = true ∨ calls.addUserInfo = .succeeds)

/-- The rows that `ExtractInventory` leaves out when it fails. -/
def Store.missedRows {collate : String → String} (calls : LoginCalls) (playerId : Int)
    (store : Store collate) : List DbItemInfo :=
  match calls.extractInventory with
  | none => []
  | some fetched => (store.inventory.extractInventory playerId).drop fetched

theorem Store.extractInventory_append {collate : String → String} (calls : LoginCalls)
    (playerId : Int) (store : Store collate) :
    store.inventory.extractInventory playerId =
      store.extractInventory calls playerId ++ store.missedRows calls playerId := by
  unfold Store.extractInventory Store.missedRows
  cases calls.extractInventory with
  | none => exact (List.append_nil _).symm
  | some fetched => exact (List.take_append_drop fetched _).symm

/-- The calls read everything there is to the account. -/
def LoginCalls.ReadAccount {collate : String → String} (row : PlayerRow) (store : Store collate)
    (calls : LoginCalls) : Prop :=
  if calls.isUserRegistered = true then
    calls.extractUserInfo = true ∧ ∀ info ∈ store.missedRows calls row.playerId, ¬info.Loadable
  else
    row.level = 1 ∧ row.exp = 0 ∧
      ∀ info ∈ store.inventory.extractInventory row.playerId, ¬info.Loadable

namespace World

variable {collate : String → String} {store : Store collate} {row : PlayerRow} {calls : LoginCalls}
  {name password : String} {thread session : Nat} {choice : Choice grid} {world : World}

/-- A user loaded from some of the rows carries the account exactly when the
other rows are useless. -/
theorem carries_loadedUser_iff {slots : SlotOrder} {id : ObjID} {fetched missing : List DbItemInfo}
    {table : InventoryTable} {user : User} {userInfo : DbUserInfo}
    (playerId : userInfo.playerId = row.playerId) (level : userInfo.level = row.level)
    (exp : userInfo.exp = row.exp)
    (rows : table.extractInventory row.playerId = fetched ++ missing)
    (loaded : (loadedUser slots id userInfo fetched).asUser = some user) :
    user.Carries row table ↔ ∀ info ∈ missing, ¬info.Loadable := by
  obtain rfl := Option.some.inj loaded
  have extracted : table.Extracts row.playerId (fetched ++ missing) := by
    rw [InventoryTable.Extracts, rows]
  have distinct := extracted.distinct
  have fetchedDistinct : (fetched.map DbItemInfo.slotIndex).Nodup := by
    rw [List.map_append] at distinct
    exact distinct.of_append_left
  have slotsOf : ∀ index,
      (((User.initInstance id userInfo.playerId userInfo.level userInfo.exp).inventory.loadFromDB
        slots fetched).slots index).map Item.view =
        (Inventory.loadedAt id fetched index).map Item.view :=
    fun index => congrArg (Option.map Item.view)
      (Inventory.loadFromDB_fresh_slots fetchedDistinct index)
  have stored : ∀ index, Inventory.loadDecode index (table.storedAt row.playerId index) =
      (Inventory.loadedAt id (fetched ++ missing) index).map Item.view := by
    intro index
    rw [← Inventory.loaded_view extracted slots {} index,
      Inventory.loadFromDB_fresh_slots distinct]
  rw [← Inventory.loadedAt_append_iff distinct]
  constructor
  · intro carries index
    rw [← slotsOf, ← stored]
    exact carries.slots index
  · intro same
    constructor
    case playerId => exact (Inventory.foldl_loadRow_frame _ _).2.1.trans playerId
    case level => exact (congrArg Stat.level (Inventory.foldl_loadRow_stat _ _)).trans level
    case exp => exact (congrArg Stat.exp (Inventory.foldl_loadRow_stat _ _)).trans exp
    case slots =>
      intro index
      rw [stored, ← same]
      exact slotsOf index

/-- A user built for a new account carries a stored one that is no more than a
new account. -/
theorem carries_newUser_iff {id : ObjID} {table : InventoryTable} {user : User}
    {userInfo : DbUserInfo} (playerId : userInfo.playerId = row.playerId)
    (built : (newUser id userInfo).asUser = some user) :
    user.Carries row table ↔ row.level = 1 ∧ row.exp = 0 ∧
      ∀ info ∈ table.extractInventory row.playerId, ¬info.Loadable := by
  obtain rfl := Option.some.inj built
  have extracted : table.Extracts row.playerId (table.extractInventory row.playerId) :=
    List.Perm.refl _
  have stored : ∀ index, Inventory.loadDecode index (table.storedAt row.playerId index) =
      (Inventory.loadedAt id ([] ++ table.extractInventory row.playerId) index).map Item.view := by
    intro index
    rw [← Inventory.loaded_view extracted .ascending {} index,
      Inventory.loadFromDB_fresh_slots extracted.distinct]
    rfl
  have criterion : (∀ index, (Inventory.loadedAt id [] index).map Item.view =
      (Inventory.loadedAt id ([] ++ table.extractInventory row.playerId) index).map Item.view) ↔
        ∀ info ∈ table.extractInventory row.playerId, ¬info.Loadable :=
    Inventory.loadedAt_append_iff extracted.distinct
  rw [← criterion]
  have empty : ∀ index, Inventory.loadedAt id [] index = none := by
    intro index
    unfold Inventory.loadedAt
    split <;> rfl
  constructor
  · intro carries
    refine ⟨carries.level.symm, carries.exp.symm, ?_⟩
    intro index
    rw [← stored, empty]
    exact carries.slots index
  · rintro ⟨level, exp, same⟩
    refine ⟨playerId, level.symm, exp.symm, ?_⟩
    intro index
    rw [stored, ← same, empty]
    rfl

/-- The lookup of a stored name fails or finds it. -/
theorem isUserRegistered_of_find (stored : store.players.find name = some row) :
    store.isUserRegistered calls name = calls.isUserRegistered := by
  rw [Store.isUserRegistered, PlayersTable.isPlayerRegistered, stored, Option.isSome_some,
    Bool.and_true]

/-- A login that found its name lets in an account it has read completely. -/
theorem registered_keeps_account_iff (stored : store.players.find name = some row)
    (enters : CanEnter thread session world) :
    (∀ user, Enters thread choice session (.getUserInfo (store.extractUserInfo calls name)
        (store.extractInventory calls (store.extractUserInfo calls name).playerId)) world user →
      user.Carries row store.inventory) ↔
      calls.extractUserInfo = true ∧
        ∀ info ∈ store.missedRows calls row.playerId, ¬info.Loadable := by
  simp only [enters_getUserInfo_iff, enters, true_and]
  by_cases extracted : calls.extractUserInfo = true
  · have info : store.extractUserInfo calls name =
        { playerId := row.playerId, name := name, x := row.x, y := row.y, level := row.level
          exp := row.exp } := by
      rw [Store.extractUserInfo, if_pos extracted, PlayersTable.extractUserInfo,
        PlayersTable.extractPlayerInfo, stored]
    rw [info]
    simp only [extracted, true_and]
    constructor
    · intro keeps
      exact (carries_loadedUser_iff rfl rfl rfl (store.extractInventory_append calls _) rfl).mp
        (keeps _ rfl)
    · intro complete user loaded
      exact (carries_loadedUser_iff rfl rfl rfl (store.extractInventory_append calls _) loaded).mpr
        complete
  · have info : store.extractUserInfo calls name = {} := if_neg extracted
    rw [info]
    constructor
    · intro keeps
      have zero : (0 : Int) = row.playerId :=
        (Inventory.foldl_loadRow_frame _ _).2.1.symm.trans (keeps _ rfl).playerId
      have positive := (store.players.identity row
        ((store.players.find_eq_some_iff name row).mp stored).1).1
      omega
    · exact fun complete => absurd complete.1 extracted

/-- A login that takes its name for a new one lets in an account without
progress. -/
theorem added_keeps_account_iff (enters : CanEnter thread session world) {userInfo : DbUserInfo}
    (playerId : userInfo.playerId = row.playerId) :
    (∀ user, Enters thread choice session (.addUserInfo userInfo) world user →
      user.Carries row store.inventory) ↔
      row.level = 1 ∧ row.exp = 0 ∧
        ∀ info ∈ store.inventory.extractInventory row.playerId, ¬info.Loadable := by
  simp only [enters_addUserInfo_iff, enters, true_and]
  constructor
  · exact fun keeps => (carries_newUser_iff playerId rfl).mp (keeps _ rfl)
  · exact fun bare user built => (carries_newUser_iff playerId built).mpr bare

/-- Nobody enters through an outcome that queues no task. -/
theorem not_enters (outcome : LoginOutcome) (nothing : outcome.task session = none) (user : User) :
    ¬Enters thread choice session outcome world user := by
  rintro ⟨_, task, _, queued, _⟩
  rw [nothing] at queued
  contradiction

theorem Enters.canEnter {outcome : LoginOutcome} {user : User}
    (entered : Enters thread choice session outcome world user) :
    CanEnter thread session world := by
  cases outcome with
  | dropped => exact absurd entered (not_enters .dropped rfl user)
  | loginFail => exact absurd entered (not_enters .loginFail rfl user)
  | getUserInfo userInfo items => exact (enters_getUserInfo_iff.mp entered).1
  | addUserInfo userInfo => exact (enters_addUserInfo_iff.mp entered).1

/-- For a stored account, the user a login lets in carries the account exactly
when the calls that get the login that far have read all of it. -/
theorem login_keeps_account_iff (stored : store.players.find name = some row) :
    (∀ user, Enters thread choice session (store.processLogin calls name password).2 world user →
      user.Carries row store.inventory) ↔
      (CanEnter thread session world → calls.Reach → calls.ReadAccount row store) := by
  by_cases enters : CanEnter thread session world
  · simp only [enters, forall_const]
    unfold Store.processLogin LoginCalls.Reach LoginCalls.ReadAccount
    rw [isUserRegistered_of_find stored]
    by_cases connected : calls.connected = true
    · simp only [connected, Bool.not_true, Bool.false_eq_true, if_false, true_and]
      by_cases registered : calls.isUserRegistered = true
      · simp only [registered, if_true, true_or, forall_const]
        exact registered_keeps_account_iff stored enters
      · simp only [registered, Bool.false_eq_true, if_false, false_or, Store.addUserInfo,
          PlayersTable.addNewPlayer_of_find stored]
        cases added : calls.addUserInfo with
        | succeeds =>
          simp only [forall_const]
          exact added_keeps_account_iff enters rfl
        | notExecuted => simp [not_enters .loginFail rfl]
        | notFetched => simp [not_enters .loginFail rfl]
    · simp [connected, not_enters .dropped rfl]
  · simp only [enters, false_implies, iff_true]
    exact fun user entered => absurd entered.canEnter enters

/-! ### An account that is lost -/

/-- An account of level 3. -/
def savedRow : PlayerRow :=
  ⟨1, "kim", "", 9, 9, 3, 12⟩

/-- The tables with that account and five potions. -/
def savedStore : Store id where
  players :=
    { rows := [savedRow]
      nextId := 9
      primaryKey := by decide
      uniqueNames := by decide
      identity := by simp [savedRow]
      one_le_nextId := by decide }
  inventory := ⟨[⟨1, 0, 1, 5, false⟩], by decide⟩

/-- One connected session and nothing else. -/
def connectedWorld : World :=
  { World.empty with sessions := Function.update (fun _ => none) 1 (some { state := .stAlloc }) }

/-- A login in which the inventory cannot be read. -/
theorem login_keeps_account_iff_sample :
    (∀ user, Enters 0 .steady 1 (savedStore.processLogin { extractInventory := some 0 } "kim" "").2
        connectedWorld user → user.Carries savedRow savedStore.inventory) ↔
      (CanEnter 0 1 connectedWorld → LoginCalls.Reach { extractInventory := some 0 } →
        LoginCalls.ReadAccount savedRow savedStore { extractInventory := some 0 }) :=
  login_keeps_account_iff rfl

/-- When only the lookup of the name fails, level three is replaced by level
one. -/
theorem not_login_keeps_account :
    ¬∀ user, Enters 0 .steady 1 (savedStore.processLogin { isUserRegistered := false } "kim" "").2
      connectedWorld user → user.Carries savedRow savedStore.inventory := by
  intro keeps
  have carries := keeps _ (enters_addUserInfo_iff.mpr ⟨⟨by decide, rfl, rfl⟩, rfl⟩)
  exact absurd carries.level (by decide)

end World

end Mmorpg
