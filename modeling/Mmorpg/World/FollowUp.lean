import Mmorpg.World.Accounts
import Mmorpg.World.Course
import Mmorpg.World.Handover

/-!
# What a task queues

A task queues one other task at most: a request that crosses a zone border the
entry into the new zone, and a disconnect in the middle of a transfer its own
second try.
-/

namespace Mmorpg

open ZoneLayout Transition

variable {grid : CollisionGrid}

/-- The tasks of one session and of its user. -/
def Task.isOf (session : Nat) : Task → Bool
  | dispatch sender _ => sender = session
  | closeSession closed => closed = session
  | disconnect clientId => clientId = ObjID.user session
  | enterZone playerId _ _ => playerId = ObjID.user session
  | getUserInfo owner _ _ => owner = session
  | addUserInfo owner _ => owner = session
  | timer _ subjectId _ => subjectId = ObjID.user session

/-- The threads that run tasks: one for each zone, and the default thread. -/
def gameThreads : List Nat :=
  List.range zoneCount.toNat ++ [invalidZoneId]

namespace World

variable {thread zone : Nat} {choice : Choice grid} {world after : World}

/-- Each zone has a thread, and there is one more. -/
theorem mem_gameThreads :
    thread ∈ gameThreads ↔ isValidZoneId thread = true ∨ thread = invalidZoneId := by
  have zones : zoneCount = 16 := by decide
  simp only [gameThreads, List.mem_append, List.mem_range, List.mem_singleton, isValidZoneId, zones,
    decide_eq_true_eq]
  omega

theorem threadOf_mem (zoneId : Nat) : threadOf zoneId ∈ gameThreads := by
  rw [mem_gameThreads, threadOf]
  split
  · next valid => exact .inl valid
  · exact .inr rfl

/-- Tasks wait for threads that run them. -/
def Confined (world : World) : Prop :=
  ∀ thread, ∀ task ∈ world.queues thread, thread ∈ gameThreads

/-- The user of an accepted move or teleport request, and the tile
`HandlePlayerMove` is called with. -/
def moveTarget (choice : Choice grid) (session : Nat) (packet : ClientPacket) (world : World) :
    Option (Subject × Int × Int) :=
  match world.playing session true with
  | none => none
  | some (client, user) =>
      match packet with
      | .userMoveReq direction =>
          if direction > 7 then none
          else if choice.now > user.lastMoveTime + 500 then
            some (client, SubjectHelper.movePositionByDirection grid (client.x, client.y) direction)
          else none
      | .userTeleportReq x y => if isValidWorldPosition x y then some (client, x, y) else none
      | _ => none

/-- The accepted move leaves the zone of the user. -/
def crosses (client : Subject) (x y : Int) : Bool :=
  getZoneIdByWorld x y ≠ client.transform.zoneId ∧ isValidZoneId (getZoneIdByWorld x y)

/-- The move leads into another zone of the world. -/
theorem crosses_iff {client : Subject} {x y : Int} :
    crosses client x y = true ↔ getZoneIdByWorld x y ≠ client.transform.zoneId ∧
      isValidZoneId (getZoneIdByWorld x y) = true :=
  decide_eq_true_iff

/-- The task that running a task queues, with its zone. -/
def followUp (choice : Choice grid) (task : Task) (world : World) : Option (Nat × Task) :=
  match task with
  | .dispatch session packet =>
      match world.moveTarget choice session packet with
      | none => none
      | some (client, x, y) =>
          if crosses client x y then
            some (getZoneIdByWorld x y, .enterZone (ObjID.user session) x y)
          else none
  | .disconnect clientId =>
      match world.getUser clientId with
      | none => none
      | some (client, _) =>
          if client.transform.transferring ∧ isValidZoneId client.transform.zoneId then
            some (client.transform.zoneId, .disconnect clientId)
          else none
  | _ => none

/-- The queues once the follow-up of a task is queued. -/
def queuesWith (next : Option (Nat × Task)) (world : World) : Nat → List Task :=
  match next with
  | none => world.queues
  | some (zoneId, task) => (world.enqueueByZone zoneId task).queues

/-- The kept tasks of a queue once a task may have joined it. -/
theorem filter_queuesWith (kept : Task → Bool) (next : Option (Nat × Task)) (place : Nat) :
    (world.queuesWith next place).filter kept =
      (world.queues place).filter kept ++
        (next.toList.filter fun queued =>
          place = threadOf queued.1 ∧ kept queued.2 = true).map Prod.snd := by
  cases next with
  | none => exact (List.append_nil _).symm
  | some queued =>
    refine (Transition.filter_push kept place).trans ?_
    by_cases joins : place = threadOf queued.1 ∧ kept queued.2 = true
    · simp [joins]
    · simp [joins]

/-! ## Moves -/

theorem wakeUpMonsters_queues {ids : List ObjID} {wakerId : ObjID} {forceWake : Bool} :
    (world.wakeUpMonsters zone ids wakerId forceWake).queues = world.queues := by
  unfold wakeUpMonsters
  generalize ids.filter (fun id => id.category = .eMonster) = monsters
  induction monsters generalizing world with
  | nil => rfl
  | cons id rest ih => exact ih.trans wakeUpMonster_queues

theorem notifyPlayerEnteredWorld_queues {playerId : ObjID} {isRespawn : Bool} :
    (world.notifyPlayerEnteredWorld zone choice playerId isRespawn).queues = world.queues := by
  unfold notifyPlayerEnteredWorld
  split
  · rfl
  · exact wakeUpMonsters_queues

theorem walk_queues {playerId : ObjID} {player : Subject} {x y : Int}
    (valid : isValidZoneId zone = true) :
    (world.walk zone choice playerId player x y).queues = world.queues := by
  unfold walk
  dsimp only
  split
  · exact updatePosition_queues valid
  · split
    · exact updatePosition_queues valid
    · exact wakeUpMonsters_queues.trans (updatePosition_queues valid)

/-- A transfer queues the entry into the new zone. -/
theorem handleZoneTransfer_queues {playerId : ObjID} {player : Subject} {x y : Int}
    {newZoneId : Nat} (valid : isValidZoneId newZoneId = true) :
    (world.handleZoneTransfer zone choice playerId player x y newZoneId).queues =
      (world.enqueueByZone newZoneId (.enterZone playerId x y)).queues := by
  unfold handleZoneTransfer
  dsimp only
  rw [updateObjectZone, if_pos valid]
  simp only [enqueueByZone, setRoutingZoneId, modifySession, modifyTransform, World.modify,
    World.post, removeObject_queues]

/-- A move queues the entry if it leads into another zone. -/
theorem handlePlayerMove_queues {playerId : ObjID} {player : Subject} {user : User} {x y : Int}
    (valid : isValidZoneId zone = true) (found : world.getUser playerId = some (player, user)) :
    (world.handlePlayerMove zone choice playerId x y).queues =
      world.queuesWith (if crosses player x y then
        some (getZoneIdByWorld x y, .enterZone playerId x y) else none) := by
  unfold handlePlayerMove
  rw [found]
  dsimp only
  split
  · next crossing =>
    rw [if_pos (crosses_iff.mpr crossing)]
    exact handleZoneTransfer_queues crossing.2
  · next inside =>
    rw [if_neg (mt crosses_iff.mp inside)]
    exact walk_queues valid

theorem getUser_modifyFacing {id : ObjID} {change : Subject → Subject} {client : Subject}
    {user : User} (body : ∀ subject, (change subject).body = subject.body)
    (found : world.getUser id = some (client, user)) :
    (world.modify id change).getUser id = some (change client, user) := by
  rw [getUser_eq_some] at found ⊢
  constructor
  · simp only [World.modify, Function.update_self, found.1, Option.map_some]
  · rw [body, found.2]

theorem getUser_modifyUser {id : ObjID} {client : Subject} {user : User} (change : User → User)
    (found : world.getUser id = some (client, user)) :
    (world.modifyUser id change).getUser id =
      some ({ client with body := .user (change user) }, change user) := by
  rw [getUser_eq_some] at found ⊢
  constructor
  · simp only [modifyUser, World.modify, Function.update_self, found.1, Option.map_some, found.2]
  · rfl

theorem faceDirection_body (direction : Int) (client : Subject) :
    (faceDirection direction client).body = client.body := by
  unfold faceDirection
  split
  · rfl
  · split <;> rfl

theorem faceDirection_transform (direction : Int) (client : Subject) :
    (faceDirection direction client).transform = client.transform := by
  unfold faceDirection
  split
  · rfl
  · split <;> rfl

theorem crosses_congr {first second : Subject} (same : first.transform = second.transform)
    (x y : Int) : crosses first x y = crosses second x y := by
  rw [crosses, crosses, same]

/-! ## Requests -/

/-- A move request queues what its move queues. -/
theorem moveRequest_queues {session : Nat} {direction : Int}
    (ran : world.moveRequest thread choice session direction = some after) :
    after.queues =
      world.queuesWith (world.followUp choice (.dispatch session (.userMoveReq direction))) := by
  unfold moveRequest at ran
  split at ran
  · next refused =>
    unfold followUp moveTarget
    dsimp only
    rw [refused]
    exact Option.some.inj ran ▸ rfl
  · next client user allowed =>
    unfold followUp moveTarget
    dsimp only
    rw [allowed]
    dsimp only
    split at ran
    · next beyond =>
      rw [if_pos beyond]
      exact Option.some.inj ran ▸ rfl
    · next known =>
      rw [if_neg known]
      split at ran
      · next later =>
        rw [if_pos later]
        dsimp only at ran
        rw [onSector_eq_some] at ran
        rw [← Option.some.inj ran.2]
        have found := (playing_eq_some.mp allowed).2.1
        have stamped := getUser_modifyFacing (faceDirection_body direction)
          (getUser_modifyUser (fun current => { current with lastMoveTime := choice.now }) found)
        rw [handlePlayerMove_queues ran.1 stamped,
          crosses_congr (faceDirection_transform direction _)]
        rfl
      · next early =>
        rw [if_neg early]
        exact Option.some.inj ran ▸ rfl

theorem teleportRequest_queues {session : Nat} {x y : Int}
    (ran : world.teleportRequest thread choice session x y = some after) :
    after.queues =
      world.queuesWith (world.followUp choice (.dispatch session (.userTeleportReq x y))) := by
  unfold teleportRequest at ran
  split at ran
  · next refused =>
    unfold followUp moveTarget
    dsimp only
    rw [refused]
    exact Option.some.inj ran ▸ rfl
  · next client user allowed =>
    unfold followUp moveTarget
    dsimp only
    rw [allowed]
    dsimp only
    split at ran
    · next outside =>
      rw [if_neg (by simpa using outside)]
      exact Option.some.inj ran ▸ rfl
    · next inside =>
      rw [if_pos (by simpa using inside)]
      rw [onSector_eq_some] at ran
      rw [← Option.some.inj ran.2]
      exact handlePlayerMove_queues ran.1 (playing_eq_some.mp allowed).2.1

theorem moveTarget_of_other {session : Nat} {packet : ClientPacket} (other : packet.isMove = false) :
    world.moveTarget choice session packet = none := by
  unfold moveTarget
  split
  · rfl
  · cases packet with
    | userMoveReq direction => contradiction
    | userTeleportReq x y => contradiction
    | _ => rfl

/-- A request queues its follow-up and nothing else. -/
theorem dispatch_queues {session : Nat} {packet : ClientPacket}
    (ran : world.dispatch thread choice session packet = some after) :
    after.queues = world.queuesWith (world.followUp choice (.dispatch session packet)) := by
  cases isMove : packet.isMove with
  | false =>
    have nothing : world.followUp choice (.dispatch session packet) = none := by
      rw [followUp, moveTarget_of_other isMove]
    rw [nothing]
    cases dispatch_effect ran with
    | aside aside => exact aside.queues
    | move x y moves => exact absurd (isMove.symm.trans moves) Bool.false_ne_true
  | true =>
    cases packet with
    | userMoveReq direction => exact moveRequest_queues ran
    | userTeleportReq x y => exact teleportRequest_queues ran
    | _ => contradiction

/-! ## Tasks -/

/-- A disconnect is passed on to the new zone during a transfer. -/
theorem disconnect_queues {clientId : ObjID}
    (ran : world.disconnect thread choice clientId = some after) :
    after.queues = world.queuesWith (world.followUp choice (.disconnect clientId)) := by
  unfold disconnect at ran
  split at ran
  · next missing =>
    unfold followUp
    dsimp only
    rw [missing]
    exact Option.some.inj ran ▸ rfl
  · next client user found =>
    unfold followUp
    dsimp only
    rw [found]
    dsimp only
    split at ran
    · next away =>
      rw [if_pos away]
      exact Option.some.inj ran ▸ rfl
    · next here =>
      rw [if_neg here]
      rw [onSector_eq_some] at ran
      rw [← Option.some.inj ran.2]
      exact (saveUserInfo_plain clientId).queues.trans removeObject_queues

theorem finishLogin_queues {session : Nat} {withItems : Bool} :
    (world.finishLogin zone choice session withItems).queues = world.queues := by
  unfold finishLogin
  dsimp only
  split
  · rfl
  · rw [notifyPlayerEnteredWorld_queues]
    split <;> rfl

theorem placeLoadedUser_queues {session : Nat} {userInfo : DbUserInfo}
    (valid : isValidZoneId zone = true) :
    (world.placeLoadedUser zone choice session userInfo).queues = world.queues := by
  unfold placeLoadedUser
  dsimp only
  split
  · exact updatePosition_queues valid
  · split
    · exact updatePosition_queues valid
    · exact updatePosition_queues valid

theorem handleEnterZone_queues {playerId : ObjID} {x y : Int} (valid : isValidZoneId zone = true) :
    (world.handleEnterZone zone choice playerId x y).queues = world.queues := by
  unfold handleEnterZone
  split
  · rfl
  · dsimp only
    refine notifyPlayerEnteredWorld_queues.trans ?_
    split
    · next placed =>
      simp only [updateObjectSectorAndPosition] at placed
      split at placed
      · rw [← Option.some.inj placed]
        simp only [modifyTransform, World.modify, modifyCell, apply_ite World.queues, ite_self]
      · contradiction
    · exact updatePosition_queues valid

theorem handleUserRespawn_queues {playerId : ObjID} (valid : isValidZoneId zone = true) :
    (world.handleUserRespawn zone choice playerId).queues = world.queues := by
  unfold handleUserRespawn
  split
  · rfl
  · dsimp only
    split
    · exact updatePosition_queues valid
    · exact notifyPlayerEnteredWorld_queues.trans (updatePosition_queues valid)

theorem killPlayer_queues {monsterId playerId : ObjID} {victim : Subject} {hp : Nat} :
    (world.killPlayer zone choice monsterId playerId victim hp).queues = world.queues := by
  unfold killPlayer
  exact removeObject_queues

/-- A task queues its follow-up and nothing else. -/
theorem exec_queues {task : Task} (filed : Filed world)
    (ran : world.exec thread choice task = some after) :
    after.queues = world.queuesWith (world.followUp choice task) := by
  cases task with
  | dispatch session packet => exact dispatch_queues ran
  | disconnect clientId => exact disconnect_queues ran
  | closeSession session => exact Option.some.inj ran ▸ rfl
  | enterZone playerId x y =>
    cases exec_effect filed ran with
    | aside aside => exact aside.queues
    | enter _ _ _ valid => exact handleEnterZone_queues valid
  | getUserInfo session userInfo items =>
    cases exec_effect filed ran with
    | aside aside => exact aside.queues
    | getUserInfo _ _ valid => exact finishLogin_queues.trans (placeLoadedUser_queues valid)
  | addUserInfo session userInfo =>
    cases exec_effect filed ran with
    | aside aside => exact aside.queues
    | addUserInfo _ _ valid => exact finishLogin_queues.trans (updatePosition_queues valid)
  | timer event subjectId targetId =>
    cases exec_effect filed ran with
    | aside aside => exact aside.queues
    | kill => exact killPlayer_queues
    | respawn _ valid => exact handleUserRespawn_queues valid

theorem exec_filed {task : Task} (filed : Filed world)
    (ran : world.exec thread choice task = some after) : Filed after := by
  cases (exec_effect filed ran).accounts with
  | same same => exact same.filed filed
  | enrolls session userInfo _ enrolls => exact enrolls.filed filed
  | expels gone expels => exact expels.filed filed

end World

namespace Server

variable {collate : String → String}

/-- The task the database thread queues for a processed login, with its zone. -/
def handsOver (index : Nat) (calls : LoginCalls) (server : Server collate) :
    Option (Nat × Task) :=
  match server.world.dbRequests[index]? with
  | some (.login session name password) =>
      match (server.store.processLogin calls name password).2 with
      | .getUserInfo userInfo items =>
          some (getZoneIdByWorld userInfo.x userInfo.y, .getUserInfo session userInfo items)
      | .addUserInfo userInfo =>
          some (server.newUserCounter % zoneCount.toNat, .addUserInfo session userInfo)
      | _ => none
  | _ => none

/-- The database queues the answer of a login. -/
theorem database_queues {index : Nat} {calls : LoginCalls} {written : Bool}
    {before after : Server collate} (taken : before.database index calls written = some after) :
    after.world.queues = before.world.queuesWith (before.handsOver index calls) := by
  unfold database at taken
  unfold handsOver
  split at taken
  · contradiction
  · next request pending =>
    rw [pending]
    cases request with
    | login session name password =>
      rw [← Option.some.inj taken]
      dsimp only
      generalize (before.store.processLogin calls name password).2 = outcome
      cases outcome <;> rfl
    | saveUser id name x y level exp =>
      rw [← Option.some.inj taken]
      cases written <;> rfl
    | item request =>
      rw [← Option.some.inj taken]
      cases written <;> rfl

/-- The task a step puts into a queue, with its zone. -/
def puts (label : Label grid) (server : Server collate) : Option (Nat × Task) :=
  match label with
  | .accept => none
  | .receive session packet =>
      (server.world.sessions session).map fun record =>
        (record.routingZoneId, .dispatch session packet)
  | .hangUp session =>
      if (server.world.getOwner session).isSome then
        some (server.world.getObjectZone (ObjID.user session), .disconnect (ObjID.user session))
      else some (invalidZoneId, .closeSession session)
  | .fire index =>
      (server.world.timers[index]?).map fun event =>
        (timerZone event server.world, .timer event.event event.subjectId event.targetId)
  | .database index calls _ => server.handsOver index calls
  | .run thread choice =>
      match server.world.queues thread with
      | [] => none
      | task :: rest => (server.world.popped thread rest).followUp choice task

/-- A game logic thread takes the head of its queue. -/
def Label.takes {α : Type} (label : Label grid) (queues : Nat → List α) : Nat → List α :=
  match label with
  | .run thread _ => Function.update queues thread (queues thread).tail
  | _ => queues

/-- A step takes the head of a queue at most, and puts one task at most. -/
theorem step_queues {label : Label grid} {before after : Server collate}
    (filed : World.Filed before.world) (taken : step label before = some after) :
    after.world.queues =
      ({ before.world with queues := label.takes before.world.queues } : World).queuesWith
        (before.puts label) := by
  cases label with
  | accept =>
    simp only [step, accept] at taken
    split at taken
    · exact Option.some.inj taken ▸ rfl
    · contradiction
  | receive session packet =>
    simp only [step, receive] at taken
    split at taken
    · next known =>
      rcases Option.isSome_iff_exists.mp known with ⟨record, found⟩
      rw [← Option.some.inj taken]
      simp only [puts, found, Option.map_some, World.enqueueBySession]
      rfl
    · contradiction
  | hangUp session =>
    simp only [step, hangUp] at taken
    unfold puts
    dsimp only
    split at taken
    · split at taken
      · next owned =>
        rw [if_pos owned]
        exact Option.some.inj taken ▸ rfl
      · next unowned =>
        rw [if_neg unowned]
        exact Option.some.inj taken ▸ rfl
    · contradiction
  | fire index =>
    simp only [step, fire] at taken
    split at taken
    · contradiction
    · next event pending =>
      rw [← Option.some.inj taken]
      dsimp only
      rw [dispatchTimer_eq]
      simp only [puts, pending, Option.map_some]
      rfl
  | database index calls written => exact database_queues taken
  | run thread choice =>
    simp only [step, runThread] at taken
    unfold puts
    dsimp only
    split at taken
    · contradiction
    · next task rest queued =>
      rcases Option.map_eq_some_iff.mp taken with ⟨world, ran, rfl⟩
      have popped : World.Filed (before.world.popped thread rest) := filed
      rw [World.exec_queues popped ran, Label.takes, queued, List.tail_cons]

/-- What is queued was queued before, or is what the step puts. -/
theorem mem_queues_of_step {label : Label grid} {before after : Server collate}
    (filed : World.Filed before.world) (taken : step label before = some after) {thread : Nat}
    {task : Task} (member : task ∈ after.world.queues thread) :
    task ∈ before.world.queues thread ∨
      ∃ zoneId, before.puts label = some (zoneId, task) ∧ thread = World.threadOf zoneId := by
  have stayed : task ∈ label.takes before.world.queues thread →
      task ∈ before.world.queues thread := by
    intro taken
    unfold Label.takes at taken
    split at taken
    · rw [Function.update_apply] at taken
      split at taken
      · next here => exact here ▸ List.mem_of_mem_tail taken
      · exact taken
    · exact taken
  rw [step_queues filed taken] at member
  cases put : before.puts label with
  | none =>
    rw [put] at member
    exact .inl (stayed member)
  | some queued =>
    rcases queued with ⟨zoneId, new⟩
    rw [put] at member
    simp only [World.queuesWith, World.enqueueByZone, Function.update_apply] at member
    split at member
    · next here =>
      rcases List.mem_append.mp member with old | added
      · exact .inl (stayed (here ▸ old))
      · exact .inr ⟨zoneId, by rw [List.mem_singleton.mp added], here⟩
    · exact .inl (stayed member)

theorem step_confined {label : Label grid} {before after : Server collate}
    (filed : World.Filed before.world) (taken : step label before = some after)
    (confined : before.world.Confined) : after.world.Confined := by
  intro thread task member
  rcases mem_queues_of_step filed taken member with old | ⟨zoneId, _, rfl⟩
  · exact confined thread task old
  · exact World.threadOf_mem zoneId

end Server

end Mmorpg
