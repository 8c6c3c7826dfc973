import Mmorpg.World.Effect
import Mmorpg.World.LastTimes

/-!
# Cooldowns

`Route::Dispatch` lets a move, an attack, a skill or a potion through when
`GetNowTime()` exceeds the last time plus the cooldown.  Times and sum are
32-bit numbers, real time is not.
-/

namespace Mmorpg

open ZoneLayout

variable {grid : CollisionGrid}

/-- The requests with a cooldown. -/
inductive Cooldown
  | move
  | attack
  | skill
  | potion
  deriving DecidableEq

namespace Cooldown

/-- The constants of `Route::Dispatch`, in milliseconds. -/
def duration : Cooldown → Nat
  | move | attack => 500
  | skill | potion => 5000

/-- The field with the last time of the request. -/
def last (times : LastTimes) : Cooldown → UInt32
  | move => times.move
  | attack => times.attack
  | skill => times.skill
  | potion => times.potion

/-- Accepting a request sets one time to the clock. -/
def stamp (now : UInt32) (times : LastTimes) : Cooldown → LastTimes
  | move => { times with move := now }
  | attack => { times with attack := now }
  | skill => { times with skill := now }
  | potion => { times with potion := now }

/-- The times once the request that was let through, if any, has started its
cooldown. -/
def started (now : UInt32) (passed : Option Cooldown) (times : LastTimes) : LastTimes :=
  match passed with
  | some cooldown => cooldown.stamp now times
  | none => times

/-- The comparison in front of a request. -/
def elapsed (now : UInt32) (times : LastTimes) (cooldown : Cooldown) : Bool :=
  now > cooldown.last times + UInt32.ofNat cooldown.duration

@[simp]
theorem last_stamp (now : UInt32) (times : LastTimes) (cooldown other : Cooldown) :
    other.last (cooldown.stamp now times) = if other = cooldown then now else other.last times := by
  cases cooldown <;> cases other <;> rfl

end Cooldown

/-- The cooldown a request is under. -/
def ClientPacket.cooldown : ClientPacket → Option Cooldown
  | userMoveReq _ => some .move
  | userAttackReq _ => some .attack
  | userSkillReq => some .skill
  | itemUseReq _ => some .potion
  | _ => none

namespace World

variable {thread session : Nat} {choice : Choice grid} {packet : ClientPacket} {id : ObjID}
  {world after : World}

/-- A request with a cooldown that passes all other guards. -/
def asks (session : Nat) (packet : ClientPacket) (world : World) : Option (Cooldown × LastTimes) :=
  match packet.cooldown, world.playing session true with
  | some cooldown, some (_, user) =>
      match packet with
      | .userMoveReq direction => if direction > 7 then none else some (cooldown, user.lastTimes)
      | _ => some (cooldown, user.lastTimes)
  | _, _ => none

/-- The cooldown of a request that is let through. -/
def letThrough (now : UInt32) (session : Nat) (packet : ClientPacket) (world : World) :
    Option Cooldown :=
  match world.asks session packet with
  | some (cooldown, times) => if cooldown.elapsed now times then some cooldown else none
  | none => none

/-- A request under a cooldown is compared with the user's own time. -/
theorem asks_lastTimes {cooldown : Cooldown} {times : LastTimes}
    (asked : world.asks session packet = some (cooldown, times)) :
    world.lastTimes (ObjID.user session) = some times := by
  unfold asks at asked
  split at asked
  · next client user kind plays =>
    have found := (playing_eq_some.mp plays).2.1
    rw [lastTimes_of_getUser found]
    split at asked
    · split at asked
      · contradiction
      · exact congrArg some (Prod.mk.inj (Option.some.inj asked)).2
    · exact congrArg some (Prod.mk.inj (Option.some.inj asked)).2
  · contradiction

/-- The last times once a request has been dispatched. -/
structure Lets (now : UInt32) (session : Nat) (passed : Option Cooldown) (before after : World) :
    Prop where
  own : after.lastTimes (ObjID.user session) =
    (before.lastTimes (ObjID.user session)).map (Cooldown.started now passed)
  others : ∀ id, id ≠ ObjID.user session → after.lastTimes id = before.lastTimes id

/-- Nothing is recorded when no request gets through. -/
theorem Lets.same {now : UInt32} {before : World}
    (same : ∀ id, after.lastTimes id = before.lastTimes id) :
    Lets now session none before after where
  own := by
    rw [same]
    exact Option.map_id'.symm
  others id _ := same id

/-- Writing the new time before the request is carried out. -/
theorem Lets.stamped {now : UInt32} {before : World} {cooldown : Cooldown} (change : User → User)
    (writes : ∀ user, (change user).lastTimes = cooldown.stamp now user.lastTimes)
    (same : ∀ id, after.lastTimes id =
      (before.modifyUser (ObjID.user session) change).lastTimes id) :
    Lets now session (some cooldown) before after where
  own := by
    rw [same, lastTimes, lastTimes, modifyUser, modify]
    simp only [Function.update_self]
    cases before.objects (ObjID.user session) with
    | none => rfl
    | some subject =>
        obtain ⟨name, transform, facing, body⟩ := subject
        cases body with
        | user user => exact congrArg some (writes user)
        | monster monster => rfl
        | item item => rfl
  others id other := by
    rw [same, lastTimes, lastTimes, modifyUser, modify]
    simp only [Function.update_of_ne other]

/-! ## The four requests -/

section Requests

variable {cooldown : Cooldown} {client : Subject} {user : User}

theorem letThrough_of_not_playing {now : UInt32} (away : world.playing session true = none) :
    world.letThrough now session packet = none := by
  unfold letThrough asks
  rw [away]
  cases packet.cooldown <;> rfl

/-- A playing user's request is under its cooldown. -/
theorem asks_of_playing (kind : packet.cooldown = some cooldown)
    (plays : world.playing session true = some (client, user))
    (tame : ∀ direction, packet = .userMoveReq direction → ¬direction > 7) :
    world.asks session packet = some (cooldown, user.lastTimes) := by
  unfold asks
  rw [kind, plays]
  cases packet with
  | userMoveReq direction => exact if_neg (tame direction rfl)
  | _ => rfl

/-- A request after the cooldown gets through. -/
theorem letThrough_of_elapsed {now : UInt32} {times : LastTimes}
    (asked : world.asks session packet = some (cooldown, times))
    (elapsed : now > cooldown.last times + UInt32.ofNat cooldown.duration) :
    world.letThrough now session packet = some cooldown := by
  rw [letThrough, asked]
  exact if_pos (decide_eq_true elapsed)

theorem letThrough_of_early {now : UInt32} {times : LastTimes}
    (asked : world.asks session packet = some (cooldown, times))
    (early : ¬now > cooldown.last times + UInt32.ofNat cooldown.duration) :
    world.letThrough now session packet = none := by
  rw [letThrough, asked]
  exact if_neg (by simpa [Cooldown.elapsed] using early)

theorem faceDirection_lastTimes (direction : Int) (subject : Subject) :
    (faceDirection direction subject).lastTimes = subject.lastTimes := by
  unfold faceDirection
  split
  · rfl
  · split <;> rfl

/-- A move is recorded exactly when it gets through. -/
theorem moveRequest_lets {direction : Int}
    (ran : world.moveRequest thread choice session direction = some after) :
    Lets choice.now session (world.letThrough choice.now session (.userMoveReq direction)) world
      after := by
  unfold moveRequest at ran
  split at ran
  · next away =>
    obtain rfl := Option.some.inj ran
    rw [letThrough_of_not_playing away]
    exact .same fun _ => rfl
  · next client user plays =>
    split at ran
    · next wild =>
      obtain rfl := Option.some.inj ran
      have silent : world.asks session (.userMoveReq direction) = none := by
        unfold asks
        rw [plays]
        exact if_pos wild
      have refused : world.letThrough choice.now session (.userMoveReq direction) = none := by
        rw [letThrough, silent]
      rw [refused]
      exact .same fun _ => rfl
    · next tame =>
      have asked : world.asks session (.userMoveReq direction) = some (.move, user.lastTimes) := by
        apply asks_of_playing rfl plays
        intro other same
        obtain rfl := ClientPacket.userMoveReq.inj same
        exact tame
      split at ran
      · next elapsed =>
        rw [letThrough_of_elapsed asked elapsed]
        rw [onSector_eq_some] at ran
        apply Lets.stamped fun current => { current with lastMoveTime := choice.now }
        · exact fun _ => rfl
        · intro id
          rw [← Option.some.inj ran.2, lastTimes_handlePlayerMove]
          exact lastTimes_modify (faceDirection_lastTimes direction)
      · next early =>
        obtain rfl := Option.some.inj ran
        rw [letThrough_of_early asked early]
        exact .same fun _ => rfl

theorem attackRequest_lets {facing : UInt8}
    (ran : world.attackRequest thread choice session facing = some after) :
    Lets choice.now session (world.letThrough choice.now session (.userAttackReq facing)) world
      after := by
  unfold attackRequest at ran
  split at ran
  · next away =>
    obtain rfl := Option.some.inj ran
    rw [letThrough_of_not_playing away]
    exact .same fun _ => rfl
  · next client user plays =>
    have asked : world.asks session (.userAttackReq facing) = some (.attack, user.lastTimes) :=
      asks_of_playing rfl plays (by simp)
    split at ran
    · next elapsed =>
      rw [letThrough_of_elapsed asked elapsed]
      rw [onSector_eq_some] at ran
      apply Lets.stamped fun current => { current with lastAttackTime := choice.now }
      · exact fun _ => rfl
      · intro id
        rw [lastTimes_handleAttack ran.2]
        exact lastTimes_modify fun _ => rfl
    · next early =>
      obtain rfl := Option.some.inj ran
      rw [letThrough_of_early asked early]
      exact .same fun _ => rfl

theorem skillRequest_lets (ran : world.skillRequest thread choice session = some after) :
    Lets choice.now session (world.letThrough choice.now session .userSkillReq) world after := by
  unfold skillRequest at ran
  split at ran
  · next away =>
    obtain rfl := Option.some.inj ran
    rw [letThrough_of_not_playing away]
    exact .same fun _ => rfl
  · next client user plays =>
    have asked : world.asks session .userSkillReq = some (.skill, user.lastTimes) :=
      asks_of_playing rfl plays (by simp)
    split at ran
    · next elapsed =>
      rw [letThrough_of_elapsed asked elapsed]
      rw [onSector_eq_some] at ran
      apply Lets.stamped fun current => { current with lastSkillTime := choice.now }
      · exact fun _ => rfl
      · exact fun id => lastTimes_skillAttack ran.2
    · next early =>
      obtain rfl := Option.some.inj ran
      rw [letThrough_of_early asked early]
      exact .same fun _ => rfl

theorem useRequest_lets {index : SlotIndex}
    (ran : world.useRequest choice session index = some after) :
    Lets choice.now session (world.letThrough choice.now session (.itemUseReq index)) world
      after := by
  unfold useRequest at ran
  split at ran
  · next away =>
    obtain rfl := Option.some.inj ran
    rw [letThrough_of_not_playing away]
    exact .same fun _ => rfl
  · next client user plays =>
    have asked : world.asks session (.itemUseReq index) = some (.potion, user.lastTimes) :=
      asks_of_playing rfl plays (by simp)
    split at ran
    · next elapsed =>
      rw [letThrough_of_elapsed asked elapsed]
      obtain ⟨result, used, rfl⟩ := Option.map_eq_some_iff.mp ran
      apply Lets.stamped fun current => { current with lastPotionUseTime := choice.now }
      · exact fun _ => rfl
      · intro id
        dsimp only
        rw [lastTimes_send]
        split
        · rw [lastTimes_send, lastTimes_setInventory]
        · exact lastTimes_setInventory
    · next early =>
      obtain rfl := Option.some.inj ran
      rw [letThrough_of_early asked early]
      exact .same fun _ => rfl

end Requests

/-! ## All other requests -/

theorem letThrough_of_free {now : UInt32} (free : packet.cooldown = none) :
    world.letThrough now session packet = none := by
  unfold letThrough asks
  rw [free]

theorem teleportRequest_lastTimes {x y : Int}
    (ran : world.teleportRequest thread choice session x y = some after) :
    after.lastTimes id = world.lastTimes id := by
  unfold teleportRequest at ran
  split at ran
  · rw [Option.some.inj ran]
  · split at ran
    · rw [Option.some.inj ran]
    · rw [onSector_eq_some] at ran
      rw [← Option.some.inj ran.2, lastTimes_handlePlayerMove]

theorem lastTimes_broadcastEquipChange {zone : Nat} {playerId : ObjID} :
    (world.broadcastEquipChange zone choice playerId).lastTimes id = world.lastTimes id := by
  unfold broadcastEquipChange
  split <;> rfl

theorem equipRequest_lastTimes {index : SlotIndex}
    (ran : world.equipRequest thread choice session index = some after) :
    after.lastTimes id = world.lastTimes id := by
  unfold equipRequest at ran
  split at ran
  · rw [Option.some.inj ran]
  · obtain ⟨slot, _, ran⟩ := Option.bind_eq_some_iff.mp ran
    dsimp only at ran
    split at ran
    · rw [onSector_eq_some] at ran
      obtain ⟨packets, _, rfl⟩ := Option.map_eq_some_iff.mp ran.2
      rw [lastTimes_post, lastTimes_broadcastEquipChange, lastTimes_send, lastTimes_setInventory]
    · rw [← Option.some.inj ran, lastTimes_send, lastTimes_setInventory]

theorem unequipRequest_lastTimes {index : SlotIndex}
    (ran : world.unequipRequest thread choice session index = some after) :
    after.lastTimes id = world.lastTimes id := by
  unfold unequipRequest at ran
  split at ran
  · rw [Option.some.inj ran]
  · obtain ⟨slot, _, ran⟩ := Option.bind_eq_some_iff.mp ran
    dsimp only at ran
    split at ran
    · rw [onSector_eq_some] at ran
      rw [← Option.some.inj ran.2, lastTimes_broadcastEquipChange, lastTimes_send,
        lastTimes_setInventory]
    · rw [← Option.some.inj ran, lastTimes_send, lastTimes_setInventory]

theorem swapRequest_lastTimes {indexA indexB : SlotIndex}
    (ran : world.swapRequest session indexA indexB = some after) :
    after.lastTimes id = world.lastTimes id := by
  unfold swapRequest at ran
  split at ran
  · rw [Option.some.inj ran]
  · rw [← Option.some.inj ran, lastTimes_send, lastTimes_setInventory]

theorem discardRequest_lastTimes {index : SlotIndex} {count : UInt16}
    (ran : world.discardRequest thread choice session index count = some after) :
    after.lastTimes id = world.lastTimes id := by
  unfold discardRequest at ran
  split at ran
  · rw [Option.some.inj ran]
  · obtain ⟨result, _, ran⟩ := Option.bind_eq_some_iff.mp ran
    dsimp only at ran
    split at ran
    · rw [← Option.some.inj ran, lastTimes_send, lastTimes_setInventory]
    · rw [onSector_eq_some] at ran
      obtain ⟨spawned, spawns, rfl⟩ := Option.map_eq_some_iff.mp ran.2
      rw [lastTimes_send, lastTimes_broadcastEquipChange, lastTimes_spawnFieldItem spawns,
        lastTimes_setInventory]

theorem pickupRequest_lastTimes (ran : world.pickupRequest thread choice session = some after) :
    after.lastTimes id = world.lastTimes id := by
  unfold pickupRequest at ran
  split at ran
  · rw [Option.some.inj ran]
  · rw [onSector_eq_some] at ran
    unfold tryPickupAt at ran
    obtain ⟨_, ran⟩ := ran
    split at ran
    · rw [← Option.some.inj ran, lastTimes_send]
    · next target =>
      split at ran
      · contradiction
      · rw [← Option.some.inj ran, lastTimes_send, lastTimes_send]
      · split at ran
        · contradiction
        · have absent := lastTimes_of_getItem (pickupTarget_item target).1
          rw [← Option.some.inj ran, lastTimes_post, lastTimes_send, lastTimes_removeFieldItem,
            lastTimes_setInventory]
          rw [lastTimes_setInventory, absent]

theorem chatRequest_lastTimes {mess : String}
    (ran : world.chatRequest thread choice session mess = some after) :
    after.lastTimes id = world.lastTimes id := by
  unfold chatRequest at ran
  split at ran
  · rw [Option.some.inj ran]
  · split at ran
    · rw [Option.some.inj ran]
    · rw [onSector_eq_some] at ran
      rw [← Option.some.inj ran.2]
      unfold broadcastChat
      split <;> rfl

theorem loginRequest_lastTimes {name password : String}
    (ran : world.loginRequest session name password = some after) :
    after.lastTimes id = world.lastTimes id := by
  unfold loginRequest at ran
  split at ran
  · rw [Option.some.inj ran]
  · rw [← Option.some.inj ran]
    rfl

/-- `Route::Dispatch` and the last times. -/
theorem dispatch_lets (ran : world.dispatch thread choice session packet = some after) :
    Lets choice.now session (world.letThrough choice.now session packet) world after := by
  cases packet with
  | userMoveReq direction => exact moveRequest_lets ran
  | userAttackReq facing => exact attackRequest_lets ran
  | userSkillReq => exact skillRequest_lets ran
  | itemUseReq index => exact useRequest_lets ran
  | userLoginReq name password =>
    rw [letThrough_of_free rfl]
    exact .same fun id => loginRequest_lastTimes ran
  | userTeleportReq x y =>
    rw [letThrough_of_free rfl]
    exact .same fun id => teleportRequest_lastTimes ran
  | itemEquipReq index =>
    rw [letThrough_of_free rfl]
    exact .same fun id => equipRequest_lastTimes ran
  | itemUnequipReq index =>
    rw [letThrough_of_free rfl]
    exact .same fun id => unequipRequest_lastTimes ran
  | itemSwapReq indexA indexB =>
    rw [letThrough_of_free rfl]
    exact .same fun id => swapRequest_lastTimes ran
  | itemDiscardReq index count =>
    rw [letThrough_of_free rfl]
    exact .same fun id => discardRequest_lastTimes ran
  | itemPickupReq =>
    rw [letThrough_of_free rfl]
    exact .same fun id => pickupRequest_lastTimes ran
  | csChat mess =>
    rw [letThrough_of_free rfl]
    exact .same fun id => chatRequest_lastTimes ran

/-! ## Tasks -/

/-- The cooldown of a session that a task starts. -/
def starts (choice : Choice grid) (task : Task) (session : Nat) (world : World) :
    Option Cooldown :=
  match task with
  | .dispatch sender packet =>
      if sender = session then world.letThrough choice.now sender packet else none
  | _ => none

theorem lastTimes_leaveWorld {zone : Nat} {clientId : ObjID} {client : Subject} :
    (world.leaveWorld zone choice clientId client).lastTimes id =
      if id = clientId then none else world.lastTimes id := by
  have saved : ((((world.sendAll ((world.viewers choice.hash zone client).filter fun id =>
      id ≠ clientId) (.subjectRemoveNfy clientId)).removeObject zone clientId
        client.transform).saveUserInfo choice clientId).lastTimes id) = world.lastTimes id := by
    unfold saveUserInfo
    split
    · rw [lastTimes_removeObject, lastTimes_sendAll]
    · split
      · exact lastTimes_removeObject
      · exact lastTimes_removeObject
  rw [← saved]
  unfold leaveWorld deleteObject lastTimes
  simp only [removeObjectZone, Function.update_apply]
  split <;> rfl

theorem lastTimes_finishLogin {zone session : Nat} {withItems : Bool} :
    (world.finishLogin zone choice session withItems).lastTimes id = world.lastTimes id := by
  unfold finishLogin
  dsimp only
  split
  · rfl
  · rw [lastTimes_notifyPlayerEnteredWorld, lastTimes_scheduleAfter]
    split <;> rfl

theorem lastTimes_placeLoadedUser {zone session : Nat} {userInfo : DbUserInfo} :
    (world.placeLoadedUser zone choice session userInfo).lastTimes id = world.lastTimes id := by
  unfold placeLoadedUser
  dsimp only
  split
  · exact lastTimes_updatePosition
  · split
    · exact lastTimes_updatePosition
    · exact lastTimes_updatePosition

/-- A new user has no last times yet. -/
theorem lastTimes_publishUser {subject : Subject} (new : subject.lastTimes = some {}) :
    (world.publishUser session subject).lastTimes id =
      if id = ObjID.user session then some {} else world.lastTimes id := by
  unfold lastTimes publishUser insertObject
  simp only [modifySession, Function.update_apply]
  split
  · exact new
  · rfl

/-- What a task does to the last times of one user: it removes or creates the
user, or starts at most one cooldown. -/
inductive Clocks (now : UInt32) (passed : Option Cooldown) :
    Option LastTimes → Option LastTimes → Prop
  | gone {times : Option LastTimes} : Clocks now passed times none
  | new : Clocks now passed none (some {})
  | kept {times : Option LastTimes} :
      Clocks now passed times (times.map (Cooldown.started now passed))

theorem Clocks.same {now : UInt32} {times : Option LastTimes} : Clocks now none times times := by
  have kept : Clocks now none times (times.map (Cooldown.started now none)) := .kept
  rwa [show Cooldown.started now none = id from rfl, Option.map_id_fun, id] at kept

/-- A user that is there afterwards is new or was there before. -/
theorem Clocks.of_some {now : UInt32} {passed : Option Cooldown} {old new : Option LastTimes}
    {times : LastTimes} (clocks : Clocks now passed old new) (present : new = some times) :
    old = none ∨ ∃ before, old = some before ∧ times = Cooldown.started now passed before := by
  cases clocks with
  | gone => contradiction
  | new => exact .inl rfl
  | kept =>
    obtain ⟨before, was, rfl⟩ := Option.map_eq_some_iff.mp present
    exact .inr ⟨before, was, rfl⟩

/-- A task sets at most the time of the request it lets through. -/
theorem exec_clocks {task : Task} (session : Nat) (ran : world.exec thread choice task = some after) :
    Clocks choice.now (world.starts choice task session)
      (world.lastTimes (ObjID.user session)) (after.lastTimes (ObjID.user session)) := by
  cases task with
  | dispatch sender packet =>
    have lets := dispatch_lets ran
    rw [starts]
    split
    · next here =>
      subst here
      rw [lets.own]
      exact .kept
    · next other =>
      rw [lets.others _ fun same => other (by simpa using same.symm)]
      exact .same
  | closeSession closed =>
    rw [← Option.some.inj ran]
    exact .same
  | disconnect clientId =>
    simp only [exec, disconnect] at ran
    split at ran
    · rw [← Option.some.inj ran]
      exact .same
    · split at ran
      · rw [← Option.some.inj ran]
        exact .same
      · rw [onSector_eq_some] at ran
        rw [← Option.some.inj ran.2, lastTimes_leaveWorld]
        split
        · exact .gone
        · exact .same
  | enterZone playerId nextX nextY =>
    rw [lastTimes_ifRegistered (fun _ => lastTimes_handleEnterZone) ran]
    exact .same
  | getUserInfo owner userInfo items =>
    rw [exec] at ran
    split at ran
    · rw [← Option.some.inj ran]
      exact .same
    · rw [onSector_eq_some] at ran
      rw [← Option.some.inj ran.2, handleGetUserInfo]
      split
      · exact .same
      · split
        · exact .same
        · next free =>
          rw [lastTimes_finishLogin, lastTimes_placeLoadedUser, lastTimes_publishUser rfl]
          split
          · next here =>
            have absent : world.lastTimes (ObjID.user session) = none := by
              rw [lastTimes, here, Option.not_isSome_iff_eq_none.mp free, Option.bind_none]
            rw [absent]
            exact .new
          · exact .same
  | addUserInfo owner userInfo =>
    rw [exec] at ran
    split at ran
    · rw [← Option.some.inj ran]
      exact .same
    · rw [onSector_eq_some] at ran
      rw [← Option.some.inj ran.2, handleAddUserInfo]
      split
      · exact .same
      · split
        · exact .same
        · next free =>
          rw [lastTimes_finishLogin, lastTimes_getRandomPosition, lastTimes_publishUser rfl]
          split
          · next here =>
            have absent : world.lastTimes (ObjID.user session) = none := by
              rw [lastTimes, here, Option.not_isSome_iff_eq_none.mp free, Option.bind_none]
            rw [absent]
            exact .new
          · exact .same
  | timer event subjectId targetId =>
    rw [lastTimes_timerTask ran]
    exact .same

end World

end Mmorpg
