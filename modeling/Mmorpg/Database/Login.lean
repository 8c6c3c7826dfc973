import Mmorpg.Database.DBThread

/-!
# Processing one login event

`DBThread::ProcessEvent` for a `DB_LOGIN_EVENT`, with every database call free
to fail.  `DBConnection.cpp` folds failures into ordinary values: an
unregistered name, a default user, a shorter item list.
-/

namespace Mmorpg

/-- How `AddUserInfoInDataBase` goes: it can fail before the procedure runs, or
after it when the result is not fetched. -/
inductive AddOutcome
  | succeeds | notExecuted | notFetched
  deriving DecidableEq, Repr

/-- Success or failure of the calls made for one event. -/
structure LoginCalls where
  connected : Bool := true
  isUserRegistered : Bool := true
  extractUserInfo : Bool := true
  /-- `some n`: the call fails after `n` fetched rows. -/
  extractInventory : Option Nat := none
  addUserInfo : AddOutcome := .succeeds
  deriving DecidableEq, Repr

/-- What the event leads to. -/
inductive LoginOutcome
  | dropped
  | loginFail
  | getUserInfo (userInfo : DbUserInfo) (items : List DbItemInfo)
  | addUserInfo (userInfo : DbUserInfo)
  deriving DecidableEq, Repr

namespace Store

variable {collate : String → String}

/-- `IsUserRegistered`. -/
def isUserRegistered (calls : LoginCalls) (name : String) (store : Store collate) : Bool :=
  calls.isUserRegistered && store.players.isPlayerRegistered name

/-- `ExtractUserInfo`: a failure leaves the default-constructed result. -/
def extractUserInfo (calls : LoginCalls) (name : String) (store : Store collate) : DbUserInfo :=
  if calls.extractUserInfo then store.players.extractUserInfo name else {}

/-- `ExtractInventory`: a failure leaves the rows fetched so far. -/
def extractInventory (calls : LoginCalls) (playerId : Int) (store : Store collate) :
    List DbItemInfo :=
  match calls.extractInventory with
  | none => store.inventory.extractInventory playerId
  | some fetched => (store.inventory.extractInventory playerId).take fetched

/-- `AddUserInfoInDataBase` with level one and no experience. -/
def addUserInfo (calls : LoginCalls) (name password : String) (store : Store collate) :
    Store collate × Option Int :=
  let added := store.players.addNewPlayer name password 0 0 1 0
  match calls.addUserInfo with
  | .notExecuted => (store, none)
  | .notFetched => ({ store with players := added.1 }, none)
  | .succeeds => ({ store with players := added.1 }, added.2)

/-- `ProcessEvent` for a login, from the check of the name to the answer. -/
def processLogin (calls : LoginCalls) (name password : String) (store : Store collate) :
    Store collate × LoginOutcome :=
  if !calls.connected then (store, .dropped)
  else if store.isUserRegistered calls name then
    let userInfo := store.extractUserInfo calls name
    (store, .getUserInfo userInfo (store.extractInventory calls userInfo.playerId))
  else
    match store.addUserInfo calls name password with
    | (added, none) => (added, .loginFail)
    | (added, some playerId) =>
        (added, .addUserInfo { playerId := playerId, name := name, password := password })

end Store

end Mmorpg
