import Mmorpg.World.Effect
import Mmorpg.Item.InventoryInvariant

/-!
# Which account a user plays

The account of a user is fixed when the user enters the world.  One session
brings at most one user into the world, and two users share a player
identifier only if their names are one name to the database.
-/

namespace Mmorpg

open ZoneLayout Transition

variable {grid : CollisionGrid}

/-- The player identifier and the name a user was built with. -/
abbrev Account := Int × String

/-- The account a person plays. -/
def Person.account (person : Person) : Account :=
  (person.playerId, person.name)

/-- The account a login task is about to bring into the world. -/
def Task.userInfo : Task → Option DbUserInfo
  | getUserInfo _ userInfo _ => some userInfo
  | addUserInfo _ userInfo => some userInfo
  | _ => none

namespace World

/-- The account under which an object is registered, for users. -/
def accountOf (id : ObjID) (world : World) : Option Account :=
  (world.personOf id).map Person.account

/-- All users keep their accounts, and no login is queued or completed. -/
structure SameAccounts (before after : World) : Prop where
  accounts : ∀ id, after.accountOf id = before.accountOf id
  filed : Filed before → Filed after
  states : ∀ session, after.sessionState session = before.sessionState session
  queues : ∀ thread task, task ∈ after.queues thread →
    task ∈ before.queues thread ∨ task.userInfo = none
  nextObjectId : after.nextObjectId = before.nextObjectId

theorem Aside.sameAccounts {before after : World} (aside : Aside before after) :
    SameAccounts before after where
  accounts id := by rw [accountOf, accountOf, aside.persons]
  filed := aside.filed
  states session := by rw [sessionState, sessionState, aside.sessions]
  queues thread task member := .inl (aside.queues ▸ member)
  nextObjectId := aside.nextObjectId

namespace SameAccounts

variable {before middle after : World}

theorem refl (world : World) : SameAccounts world world :=
  (Aside.refl world).sameAccounts

theorem trans (first : SameAccounts before middle) (second : SameAccounts middle after) :
    SameAccounts before after where
  accounts id := (second.accounts id).trans (first.accounts id)
  filed filed := second.filed (first.filed filed)
  states session := (second.states session).trans (first.states session)
  queues thread task member := by
    rcases second.queues thread task member with old | harmless
    · exact first.queues thread task old
    · exact .inr harmless
  nextObjectId := second.nextObjectId.trans first.nextObjectId

theorem thenQuiet {allowed : ServerPacket → Prop} {zone : Nat} {actor : ObjID}
    (same : SameAccounts before middle) (quiet : Quiet allowed zone actor middle after) :
    SameAccounts before after :=
  same.trans quiet.aside.sameAccounts

/-- A change that keeps player and category keeps the accounts. -/
theorem modify {id : ObjID} {change : Subject → Subject}
    (account : ∀ subject, (change subject).standing.person.map Person.account =
      subject.standing.person.map Person.account)
    (category : ∀ subject, (change subject).category = subject.category)
    (same : SameAccounts before after) : SameAccounts before (after.modify id change) := by
  apply same.trans
  constructor
  case accounts =>
    intro other
    simp only [accountOf, personOf, standingOf, World.modify, Function.update_apply]
    split
    · next here =>
      subst here
      cases after.objects other with
      | none => rfl
      | some subject => exact account subject
    · rfl
  case filed =>
    apply filed_congr
    intro other subject found
    simp only [World.modify, Function.update_apply] at found
    split at found
    · next here =>
      subst here
      rcases Option.map_eq_some_iff.mp found with ⟨old, oldFound, rfl⟩
      exact ⟨old, oldFound, category old⟩
    · exact ⟨subject, found, rfl⟩
  case states => exact fun _ => rfl
  case queues => exact fun _ _ member => .inl member
  case nextObjectId => rfl

theorem modifyTransform {id : ObjID} {change : Transform → Transform}
    (same : SameAccounts before after) : SameAccounts before (after.modifyTransform id change) := by
  apply same.modify
  · rintro ⟨name, transform, facing, body⟩
    cases body <;> rfl
  · exact fun _ => rfl

theorem setStat {id : ObjID} {change : Stat → Stat} (same : SameAccounts before after) :
    SameAccounts before (after.setStat id change) := by
  apply same.modify
  · rintro ⟨name, transform, facing, body⟩
    cases body <;> rfl
  · rintro ⟨name, transform, facing, body⟩
    cases body <;> rfl

/-- Changes of cells, zone map, timers and logs. -/
theorem congr {changed : World} (same : SameAccounts before after)
    (objects : changed.objects = after.objects) (sessions : changed.sessions = after.sessions)
    (queues : changed.queues = after.queues)
    (nextObjectId : changed.nextObjectId = after.nextObjectId) : SameAccounts before changed where
  accounts id := by
    rw [← same.accounts]
    simp only [accountOf, personOf, standingOf, objects]
  filed filed id subject found := same.filed filed id subject (objects ▸ found)
  states session := by
    rw [← same.states]
    simp only [sessionState, sessions]
  queues thread task member := same.queues thread task (queues ▸ member)
  nextObjectId := nextObjectId.trans same.nextObjectId

theorem removeObject {zone : Nat} {id : ObjID} {transform : Transform}
    (same : SameAccounts before after) :
    SameAccounts before (after.removeObject zone id transform) := by
  unfold World.removeObject
  split
  · exact modifyTransform (same.congr rfl rfl rfl rfl)
  · exact same

theorem updateObjectSectorAndPosition {zone : Nat} {id : ObjID} {transform : Transform}
    {x y : Int} {placed : World} (same : SameAccounts before after)
    (moved : after.updateObjectSectorAndPosition zone id transform x y = some placed) :
    SameAccounts before placed := by
  simp only [World.updateObjectSectorAndPosition] at moved
  split at moved
  · rw [← Option.some.inj moved]
    apply modifyTransform
    split
    · split
      · exact same.congr rfl rfl rfl rfl
      · exact same.congr rfl rfl rfl rfl
    · exact same
  · contradiction

theorem setRoutingZoneId {session zoneId : Nat} (same : SameAccounts before after) :
    SameAccounts before (after.setRoutingZoneId session zoneId) where
  accounts := same.accounts
  filed := same.filed
  states other := (sessionState_setRoutingZoneId session zoneId other after).trans (same.states other)
  queues := same.queues
  nextObjectId := same.nextObjectId

theorem updateObjectZone {id : ObjID} {zoneId : Nat} (same : SameAccounts before after) :
    SameAccounts before (after.updateObjectZone id zoneId) := by
  unfold World.updateObjectZone
  split
  · exact same.congr rfl rfl rfl rfl
  · exact same

theorem updatePosition {zone : Nat} {id : ObjID} {x y : Int} (same : SameAccounts before after) :
    SameAccounts before (after.updatePosition zone id x y) := by
  unfold World.updatePosition
  split
  · exact same
  · split
    · exact same
    · next placed moved =>
      have settled := same.updateObjectSectorAndPosition moved
      have mapped : SameAccounts before
          ((placed.modifyTransform id fun current =>
            { current with zoneId := getZoneIdByWorld x y }).updateObjectZone id
              (getZoneIdByWorld x y)) := settled.modifyTransform.updateObjectZone
      dsimp only
      split
      · apply setRoutingZoneId
        split
        · exact mapped
        · exact settled
      · split
        · exact mapped
        · exact settled

theorem post {packets : List (Nat × ServerPacket)} (same : SameAccounts before after) :
    SameAccounts before (after.post packets) :=
  same.congr rfl rfl rfl rfl

theorem scheduleAfter {zone delay : Nat} {subjectId targetId : ObjID} {event : TimerEventType}
    (same : SameAccounts before after) :
    SameAccounts before (after.scheduleAfter zone subjectId delay event targetId) :=
  same.congr rfl rfl rfl rfl

theorem enqueueByZone {zoneId : Nat} {task : Task} (harmless : task.userInfo = none)
    (same : SameAccounts before after) :
    SameAccounts before (after.enqueueByZone zoneId task) where
  accounts := same.accounts
  filed := same.filed
  states := same.states
  queues thread other member := by
    simp only [World.enqueueByZone, Function.update_apply] at member
    split at member
    · next here =>
      rcases List.mem_append.mp member with old | new
      · exact same.queues thread other (here ▸ old)
      · rw [List.mem_singleton.mp new]
        exact .inr harmless
    · exact same.queues thread other member
  nextObjectId := same.nextObjectId

theorem notifyPlayerEnteredWorld {zone : Nat} {choice : Choice grid} {playerId : ObjID}
    {isRespawn : Bool} (same : SameAccounts before after) :
    SameAccounts before (after.notifyPlayerEnteredWorld zone choice playerId isRespawn) := by
  apply same.thenQuiet
  show Quiet Any zone playerId _ _
  exact notifyPlayerEnteredWorld_quiet (Quiet.refl after)

theorem handleZoneTransfer {zone : Nat} {choice : Choice grid} {playerId : ObjID}
    {player : Subject} {x y : Int} {newZoneId : Nat} (same : SameAccounts before after) :
    SameAccounts before (after.handleZoneTransfer zone choice playerId player x y newZoneId) := by
  unfold World.handleZoneTransfer
  apply enqueueByZone rfl
  apply setRoutingZoneId
  apply updateObjectZone
  apply modifyTransform
  apply post
  apply modifyTransform
  apply removeObject
  exact same.modifyTransform

end SameAccounts

/-! ## Tasks -/

variable {zone : Nat} {choice : Choice grid} {world : World}

theorem handlePlayerMove_accounts {before : World} {playerId : ObjID} {x y : Int}
    (same : SameAccounts before world) :
    SameAccounts before (world.handlePlayerMove zone choice playerId x y) := by
  unfold handlePlayerMove
  split
  · exact same
  · dsimp only
    split
    · exact same.handleZoneTransfer
    · unfold walk
      dsimp only
      have updated : SameAccounts before (world.updatePosition zone playerId x y) :=
        same.updatePosition
      split
      · exact updated
      · split
        · exact updated.post
        · apply SameAccounts.thenQuiet (SameAccounts.post updated.post)
          show Quiet Any zone playerId _ _
          apply wakeUpMonsters_quiet _ (Quiet.refl _)
          exact fun id member => mem_collectSubjects_cells member

/-- The end of a transfer keeps the accounts. -/
theorem handleEnterZone_accounts {playerId : ObjID} {x y : Int} :
    SameAccounts world (world.handleEnterZone zone choice playerId x y) := by
  unfold handleEnterZone
  split
  · exact SameAccounts.refl world
  · apply SameAccounts.modifyTransform
    apply SameAccounts.notifyPlayerEnteredWorld
    split
    · next placed moved => exact (SameAccounts.refl world).updateObjectSectorAndPosition moved
    · exact (SameAccounts.refl world).updatePosition

theorem handleUserRespawn_accounts {playerId : ObjID} :
    SameAccounts world (world.handleUserRespawn zone choice playerId) := by
  unfold handleUserRespawn
  split
  · exact SameAccounts.refl world
  · have revived : SameAccounts world
        ((world.getRandomPosition zone choice playerId).setStat playerId fun current =>
          { current with dead := false, hp := playerMaxHp }) :=
      (SameAccounts.refl world).updatePosition.setStat
    dsimp only
    split
    · exact revived
    · exact revived.post.notifyPlayerEnteredWorld.scheduleAfter

theorem killPlayer_accounts {monsterId playerId : ObjID} {victim : Subject} {hp : Nat} :
    SameAccounts world
      ((world.struck monsterId playerId).killPlayer zone choice monsterId playerId victim hp) := by
  have attacking : SameAccounts world (world.modifyMonster monsterId fun current =>
      { current with attack := true }) :=
    (Aside.modifyMonster (Aside.refl world)).sameAccounts
  unfold killPlayer
  apply SameAccounts.scheduleAfter
  apply SameAccounts.removeObject
  exact attacking.setStat.post.trans (Aside.modifyMonster (Aside.refl _)).sameAccounts

/-- Completing a login keeps every account once the user is published. -/
theorem finishLogin_accounts {session : Nat} {withItems : Bool} :
    SameAccounts world (world.finishLogin zone choice session withItems) := by
  unfold finishLogin
  dsimp only
  split
  · exact SameAccounts.refl world
  · apply SameAccounts.notifyPlayerEnteredWorld
    apply SameAccounts.scheduleAfter
    split
    · exact (SameAccounts.refl world).post.post
    · exact (SameAccounts.refl world).post

theorem placeLoadedUser_accounts {session : Nat} {userInfo : DbUserInfo} :
    SameAccounts world (world.placeLoadedUser zone choice session userInfo) := by
  unfold placeLoadedUser
  dsimp only
  split
  · exact (SameAccounts.refl world).updatePosition
  · split
    · exact (SameAccounts.refl world).updatePosition
    · exact (SameAccounts.refl world).updatePosition.congr rfl rfl rfl rfl

/-- One session gets its user; all others keep theirs. -/
structure Enrolls (session : Nat) (account : Account) (before after : World) : Prop where
  alloc : before.sessionState session = .stAlloc
  accounts : ∀ id, after.accountOf id =
    if id = ObjID.user session then some account else before.accountOf id
  filed : Filed before → Filed after
  states : ∀ other, after.sessionState other =
    if other = session then .stIngame else before.sessionState other
  queues : ∀ thread task, task ∈ after.queues thread →
    task ∈ before.queues thread ∨ task.userInfo = none
  nextObjectId : after.nextObjectId = before.nextObjectId

/-- A user that was registered stays so through what follows. -/
theorem Enrolls.trans {session : Nat} {account : Account} {before middle after : World}
    (enrolls : Enrolls session account before middle) (same : SameAccounts middle after) :
    Enrolls session account before after where
  alloc := enrolls.alloc
  accounts id := (same.accounts id).trans (enrolls.accounts id)
  filed filed := same.filed (enrolls.filed filed)
  states other := (same.states other).trans (enrolls.states other)
  queues thread task member := by
    rcases same.queues thread task member with old | harmless
    · exact enrolls.queues thread task old
    · exact .inr harmless
  nextObjectId := same.nextObjectId.trans enrolls.nextObjectId

theorem publishUser_enrolls {session : Nat} {subject : Subject} {account : Account}
    (alloc : world.sessionState session = .stAlloc)
    (person : subject.standing.person.map Person.account = some account)
    (category : subject.category = .eUser) :
    Enrolls session account world (world.publishUser session subject) where
  alloc := alloc
  accounts id := by
    simp only [accountOf, personOf, standingOf, publishUser, modifySession, insertObject,
      Function.update_apply]
    split
    · exact person
    · rfl
  filed filed id found same := by
    simp only [publishUser, modifySession, insertObject, Function.update_apply] at same
    split at same
    · next here =>
      rw [← Option.some.inj same, here, category]
      rfl
    · exact filed id found same
  states other := by
    simp only [sessionState, publishUser, modifySession, insertObject]
    by_cases here : other = session
    · subst here
      cases stored : world.sessions other with
      | none => simp [sessionState, stored] at alloc
      | some record => simp
    · simp [here]
  queues _ _ member := .inl member
  nextObjectId := rfl

/-- One user leaves; all others keep their accounts. -/
structure Expels (gone : ObjID) (before after : World) : Prop where
  accounts : ∀ id, after.accountOf id = if id = gone then none else before.accountOf id
  filed : Filed before → Filed after
  states : ∀ session, after.sessionState session = before.sessionState session
  queues : ∀ thread task, task ∈ after.queues thread →
    task ∈ before.queues thread ∨ task.userInfo = none
  nextObjectId : after.nextObjectId = before.nextObjectId

theorem leaveWorld_expels {clientId : ObjID} {client : Subject} :
    Expels clientId world (world.leaveWorld zone choice clientId client) := by
  have saved : SameAccounts world (((world.sendAll ((world.viewers choice.hash zone client).filter
      fun id => id ≠ clientId) (.subjectRemoveNfy clientId)).removeObject zone clientId
        client.transform).saveUserInfo choice clientId) := by
    apply SameAccounts.thenQuiet (SameAccounts.removeObject (SameAccounts.refl world).post)
    show Quiet Any zone clientId _ _
    exact saveUserInfo_quiet (Quiet.refl _)
  unfold leaveWorld
  dsimp only
  constructor
  case accounts =>
    intro id
    simp only [accountOf, personOf, standingOf, removeObjectZone, deleteObject,
      Function.update_apply]
    split
    · rfl
    · exact saved.accounts id
  case filed =>
    intro filed id subject found
    simp only [removeObjectZone, deleteObject, Function.update_apply] at found
    split at found
    · contradiction
    · exact saved.filed filed id subject found
  case states => exact saved.states
  case queues => exact saved.queues
  case nextObjectId => exact saved.nextObjectId

/-- What a task does to the accounts in the world. -/
inductive AccountEffect (before : World) (task : Task) (after : World) : Prop
  | same : SameAccounts before after → AccountEffect before task after
  | enrolls (session : Nat) (userInfo : DbUserInfo) :
      task.userInfo = some userInfo →
      Enrolls session (userInfo.playerId, userInfo.name) before after →
      AccountEffect before task after
  | expels (gone : ObjID) : Expels gone before after → AccountEffect before task after

/-- What a task does to the accounts, from what it does at all. -/
theorem Effect.accounts {thread : Nat} {task : Task} {after : World}
    (effect : Effect thread choice world task after) : AccountEffect world task after := by
  cases effect with
  | aside aside => exact .same aside.sameAccounts
  | move x y _ _ _ stamped =>
    exact .same (handlePlayerMove_accounts ((SameAccounts.refl world).thenQuiet stamped))
  | leave _ _ _ => exact .expels _ leaveWorld_expels
  | retry _ _ _ => exact .same ((SameAccounts.refl world).enqueueByZone rfl)
  | enter _ _ _ _ => exact .same handleEnterZone_accounts
  | getUserInfo alloc _ _ =>
    refine .enrolls _ _ rfl (Enrolls.trans (publishUser_enrolls alloc ?_ rfl)
      (placeLoadedUser_accounts.trans finishLogin_accounts))
    exact congrArg (fun playerId => some (playerId, _))
      (Inventory.foldl_loadRow_frame _ _).2.1
  | addUserInfo alloc _ _ =>
    exact .enrolls _ _ rfl (Enrolls.trans (publishUser_enrolls alloc rfl rfl)
      ((SameAccounts.refl _).updatePosition.trans finishLogin_accounts))
  | kill _ _ _ _ _ => exact .same killPlayer_accounts
  | respawn _ _ => exact .same handleUserRespawn_accounts

end World

end Mmorpg
