import Mmorpg.World.Course
import Mmorpg.World.FollowUp

/-!
# Entering the new zone first

`HandleZoneTransfer` one step at a time, with the steps of the workers, the
timer, the database thread and the other game logic threads in between.  A
worker or the timer looks the zone of a task up before it queues the task, and
the zone is published before `HandleEnterZone` is queued.
-/

namespace Mmorpg

open ZoneLayout Transition

variable {grid : CollisionGrid}

/-- A zone transfer on `thread`: the session of the user and the tile it moves
to. -/
structure Transfer (grid : CollisionGrid) where
  thread : Nat
  choice : Choice grid
  session : Nat
  x : Int
  y : Int

namespace Transfer

/-- The player that changes zones. -/
abbrev playerId (transfer : Transfer grid) : ObjID :=
  ObjID.user transfer.session

/-- The zone the transfer leads to. -/
abbrev newZoneId (transfer : Transfer grid) : Nat :=
  getZoneIdByWorld transfer.x transfer.y

/-- The task that enters the user into the new zone. -/
def entry (transfer : Transfer grid) : Task :=
  .enterZone transfer.playerId transfer.x transfer.y

/-- A queued task is one of the user in the new zone. -/
def receives (transfer : Transfer grid) (queued : Nat × Task) : Bool :=
  transfer.newZoneId = World.threadOf queued.1 ∧ queued.2.isOf transfer.session = true

/-- What `HandleZoneTransfer` does next once the transfer flag is set, with the
objects the user has seen in the old zone. -/
inductive Stage
  | collectSubjects
  | removeObject (oldVisible : List ObjID)
  | setPosition (oldVisible : List ObjID)
  | notify (oldVisible : List ObjID)
  | setZoneId
  | updateObjectZone
  | setRoutingZoneId
  | enqueueEnterZone
  | done
  deriving DecidableEq

/-- One step of `HandleZoneTransfer`.  A disconnect leaves a user in transfer
alone, so the user is registered all the time. -/
def perform (transfer : Transfer grid) (stage : Stage) (world : World) : Option (Stage × World) :=
  match stage with
  | .collectSubjects =>
      some (.removeObject
        (world.collectSubjects transfer.thread transfer.choice transfer.playerId), world)
  | .removeObject oldVisible =>
      some (.setPosition oldVisible,
        match world.objects transfer.playerId with
        | none => world
        | some player => world.removeObject transfer.thread transfer.playerId player.transform)
  | .setPosition oldVisible =>
      some (.notify oldVisible, world.modifyTransform transfer.playerId fun current =>
        { current with x := transfer.x, y := transfer.y })
  | .notify oldVisible =>
      some (.setZoneId, world.post
        ((transfer.session, .subjectMoveNfy transfer.playerId transfer.x transfer.y) ::
          oldVisible.flatMap (world.leftPackets transfer.playerId)))
  | .setZoneId =>
      some (.updateObjectZone, world.modifyTransform transfer.playerId fun current =>
        { current with zoneId := transfer.newZoneId })
  | .updateObjectZone =>
      some (.setRoutingZoneId, world.updateObjectZone transfer.playerId transfer.newZoneId)
  | .setRoutingZoneId =>
      some (.enqueueEnterZone, world.setRoutingZoneId transfer.session transfer.newZoneId)
  | .enqueueEnterZone =>
      some (.done, world.enqueueByZone transfer.newZoneId transfer.entry)
  | .done => none

/-- Only the last step queues a task. -/
theorem perform_queues {transfer : Transfer grid} {stage next : Stage} {world after : World}
    (performed : transfer.perform stage world = some (next, after)) :
    after.queues = world.queuesWith
        (if stage = .enqueueEnterZone then some (transfer.newZoneId, transfer.entry) else none) ∧
      (next = .done ↔ stage = .enqueueEnterZone) := by
  cases stage with
  | removeObject oldVisible =>
    obtain ⟨rfl, rfl⟩ := Prod.mk.inj (Option.some.inj performed)
    refine ⟨?_, by simp⟩
    split
    · rfl
    · exact World.removeObject_queues
  | updateObjectZone =>
    obtain ⟨rfl, rfl⟩ := Prod.mk.inj (Option.some.inj performed)
    refine ⟨?_, by simp⟩
    unfold World.updateObjectZone
    split <;> rfl
  | done => contradiction
  | _ =>
    obtain ⟨rfl, rfl⟩ := Prod.mk.inj (Option.some.inj performed)
    exact ⟨rfl, by simp⟩

/-- Every statement keeps users filed as users. -/
theorem perform_filed {transfer : Transfer grid} {stage next : Stage} {world after : World}
    (performed : transfer.perform stage world = some (next, after)) (filed : World.Filed world) :
    World.Filed after := by
  have same := World.SameAccounts.refl world
  cases stage with
  | removeObject oldVisible =>
    obtain ⟨rfl, rfl⟩ := Prod.mk.inj (Option.some.inj performed)
    split
    · exact filed
    · exact same.removeObject.filed filed
  | setPosition oldVisible =>
    obtain ⟨rfl, rfl⟩ := Prod.mk.inj (Option.some.inj performed)
    exact same.modifyTransform.filed filed
  | setZoneId =>
    obtain ⟨rfl, rfl⟩ := Prod.mk.inj (Option.some.inj performed)
    exact same.modifyTransform.filed filed
  | updateObjectZone =>
    obtain ⟨rfl, rfl⟩ := Prod.mk.inj (Option.some.inj performed)
    exact same.updateObjectZone.filed filed
  | done => contradiction
  | _ =>
    obtain ⟨rfl, rfl⟩ := Prod.mk.inj (Option.some.inj performed)
    exact filed

/-- The zone map is still to be written. -/
def Stage.unmapped : Stage → Bool
  | setRoutingZoneId | enqueueEnterZone | done => false
  | _ => true

/-- The routing of the session is still to be written. -/
def Stage.unrouted : Stage → Bool
  | enqueueEnterZone | done => false
  | _ => true

/-- What a step does to the zone map and the routing. -/
structure Publishes (stage next : Stage) (world after : World) : Prop where
  objectZones : next.unmapped = true →
    stage.unmapped = true ∧ after.objectZones = world.objectZones
  sessions : next.unrouted = true → stage.unrouted = true ∧ after.sessions = world.sessions
  nextObjectId : after.nextObjectId = world.nextObjectId

/-- The zone map is written first, then the routing, and nothing else writes
them. -/
theorem perform_publishes {transfer : Transfer grid} {stage next : Stage} {world after : World}
    (performed : transfer.perform stage world = some (next, after)) :
    Publishes stage next world after := by
  cases stage with
  | removeObject oldVisible =>
    obtain ⟨rfl, rfl⟩ := Prod.mk.inj (Option.some.inj performed)
    split
    · exact ⟨fun _ => ⟨rfl, rfl⟩, fun _ => ⟨rfl, rfl⟩, rfl⟩
    · next player _ =>
      have same := World.removeObject_sameSites transfer.thread transfer.playerId player.transform
        world
      exact ⟨fun _ => ⟨rfl, same.objectZones⟩, fun _ => ⟨rfl, same.sessions⟩, same.nextObjectId⟩
  | updateObjectZone =>
    obtain ⟨rfl, rfl⟩ := Prod.mk.inj (Option.some.inj performed)
    unfold World.updateObjectZone
    split <;> exact ⟨fun early => absurd early Bool.false_ne_true, fun _ => ⟨rfl, rfl⟩, rfl⟩
  | setRoutingZoneId =>
    obtain ⟨rfl, rfl⟩ := Prod.mk.inj (Option.some.inj performed)
    exact ⟨fun early => absurd early Bool.false_ne_true,
      fun early => absurd early Bool.false_ne_true, rfl⟩
  | enqueueEnterZone =>
    obtain ⟨rfl, rfl⟩ := Prod.mk.inj (Option.some.inj performed)
    exact ⟨fun early => absurd early Bool.false_ne_true,
      fun early => absurd early Bool.false_ne_true, rfl⟩
  | done => contradiction
  | _ =>
    obtain ⟨rfl, rfl⟩ := Prod.mk.inj (Option.some.inj performed)
    exact ⟨fun _ => ⟨rfl, rfl⟩, fun _ => ⟨rfl, rfl⟩, rfl⟩

/-- The steps in a row are `HandleZoneTransfer`. -/
theorem perform_handleZoneTransfer (transfer : Transfer grid) {world : World} {player : Subject}
    (registered : world.objects transfer.playerId = some player) :
    run (fun (_ : Unit) (current : Stage × World) => transfer.perform current.1 current.2)
        (List.replicate 8 ())
        (.collectSubjects, world.modifyTransform transfer.playerId fun current =>
          { current with transferring := true }) =
      some (.done, world.handleZoneTransfer transfer.thread transfer.choice transfer.playerId player
        transfer.x transfer.y transfer.newZoneId) := by
  have marked : (world.modifyTransform transfer.playerId fun current =>
      { current with transferring := true }).objects transfer.playerId =
        some { player with transform := { player.transform with transferring := true } } := by
    simp only [World.modifyTransform, World.modify, Function.update_self, registered,
      Option.map_some]
  simp only [List.replicate, run, perform, Option.bind_some, marked]
  rfl

end Transfer

/-! ## Starting a transfer -/

/-- What a request changes before it moves its user. -/
def World.stamped (choice : Choice grid) (session : Nat) (packet : ClientPacket) (world : World) :
    World :=
  match packet with
  | .userMoveReq direction =>
      (world.modifyUser (ObjID.user session) fun current =>
        { current with lastMoveTime := choice.now }).modify (ObjID.user session)
          (faceDirection direction)
  | _ => world

namespace World

variable {thread session : Nat} {choice : Choice grid} {packet : ClientPacket} {world : World}
  {client : Subject} {x y : Int}

/-- A request with a target stamps its user and moves it. -/
theorem dispatch_moves (valid : isValidZoneId thread = true)
    (target : world.moveTarget choice session packet = some (client, x, y)) :
    ∃ player user, (world.stamped choice session packet).getUser (ObjID.user session) =
        some (player, user) ∧ player.transform = client.transform ∧
      world.dispatch thread choice session packet =
        some ((world.stamped choice session packet).handlePlayerMove thread choice
          (ObjID.user session) x y) := by
  unfold moveTarget at target
  split at target
  · contradiction
  · next found user allowed =>
    have registered := (playing_eq_some.mp allowed).2.1
    split at target
    · next direction =>
      split at target
      · contradiction
      · next known =>
        split at target
        · next later =>
          obtain ⟨rfl, moved⟩ := Prod.mk.inj (Option.some.inj target)
          refine ⟨_, _, getUser_modifyFacing (faceDirection_body direction)
            (getUser_modifyUser _ registered), faceDirection_transform direction _, ?_⟩
          rw [dispatch, moveRequest, allowed]
          dsimp only
          rw [if_neg known, if_pos later, onSector, if_pos valid, moved]
          rfl
        · contradiction
    · next toX toY =>
      split at target
      · next inside =>
        obtain ⟨rfl, rfl, rfl⟩ : found = client ∧ toX = x ∧ toY = y := by
          simpa using Option.some.inj target
        refine ⟨_, _, registered, rfl, ?_⟩
        rw [dispatch, teleportRequest, allowed]
        dsimp only
        rw [if_neg (by simpa using inside), onSector, if_pos valid]
        rfl
      · contradiction
    · contradiction

/-- A move into another zone runs `HandleZoneTransfer`. -/
theorem dispatch_transfers (valid : isValidZoneId thread = true)
    (target : world.moveTarget choice session packet = some (client, x, y))
    (crossing : crosses client x y = true) :
    ∃ player, (world.stamped choice session packet).objects (ObjID.user session) = some player ∧
      world.dispatch thread choice session packet =
        some ((world.stamped choice session packet).handleZoneTransfer thread choice
          (ObjID.user session) player x y (getZoneIdByWorld x y)) := by
  rcases dispatch_moves valid target with ⟨player, user, found, same, ran⟩
  refine ⟨player, (getUser_eq_some.mp found).1, ?_⟩
  rw [ran, handlePlayerMove, found]
  dsimp only
  rw [if_pos]
  rw [same]
  exact crosses_iff.mp crossing

end World

/-- Only a registered user has a target. -/
theorem World.moveTarget_registered {session : Nat} {choice : Choice grid} {packet : ClientPacket}
    {world : World} {client : Subject} {x y : Int}
    (target : world.moveTarget choice session packet = some (client, x, y)) :
    world.objects (ObjID.user session) = some client := by
  unfold moveTarget at target
  split at target
  · contradiction
  · next found user allowed =>
    have registered := (getUser_eq_some.mp (playing_eq_some.mp allowed).2.1).1
    split at target
    · split at target
      · contradiction
      · split at target
        · obtain ⟨rfl, _⟩ := Prod.mk.inj (Option.some.inj target)
          exact registered
        · contradiction
    · split at target
      · obtain ⟨rfl, _⟩ := Prod.mk.inj (Option.some.inj target)
        exact registered
      · contradiction
    · contradiction

/-- A thread takes a request that crosses a zone border and runs it up to
`SetTransferring`. -/
def Server.departs {collate : String → String} (thread : Nat) (choice : Choice grid)
    (server : Server collate) : Option (Transfer grid × Server collate) :=
  match server.world.queues thread with
  | .dispatch session packet :: rest =>
      let popped := server.world.popped thread rest
      match popped.moveTarget choice session packet with
      | none => none
      | some (client, x, y) =>
          if isValidZoneId thread ∧ World.crosses client x y then
            some (⟨thread, choice, session, x, y⟩,
              { server with
                world := (popped.stamped choice session packet).modifyTransform
                  (ObjID.user session) fun current => { current with transferring := true } })
          else none
  | _ => none

/-! ## Tasks in the hands of other threads -/

/-- A task that a worker or the timer is about to queue, by the way its zone is
looked up. -/
inductive Handing
  | bySession (session : Nat) (task : Task)
  | byObject (id : ObjID) (task : Task)
  | byZone (zoneId : Nat) (task : Task)

namespace Handing

/-- `GetRoutingZoneId` and `GetObjectZone`. -/
def lookUp (world : World) : Handing → Handing
  | bySession session task =>
      byZone (match world.sessions session with
        | some record => record.routingZoneId
        | none => invalidZoneId) task
  | byObject id task => byZone (world.getObjectZone id) task
  | byZone zoneId task => byZone zoneId task

/-- The task of a worker in `EnqueueDisconnect`. -/
def hangUp (session : Nat) (world : World) : Handing :=
  if (world.getOwner session).isSome then
    byObject (ObjID.user session) (.disconnect (ObjID.user session))
  else byZone invalidZoneId (.closeSession session)

/-- The task of the timer in `TimerThread::Dispatch`. -/
def fire (event : TimerEvent) : Handing :=
  let task := Task.timer event.event event.subjectId event.targetId
  let hintedZone := if event.subjectId.category = .eUser then invalidZoneId else event.zoneId
  if isValidZoneId hintedZone then byZone hintedZone task else byObject event.subjectId task

end Handing

/-! ## The interleaving -/

/-- The server during a transfer: what the transferring thread does next, the
tasks other threads are about to queue, and the tasks of the user the new zone
has run so far. -/
structure Crossing (collate : String → String) where
  server : Server collate
  stage : Transfer.Stage
  handed : List Handing
  executed : List Task

namespace Crossing

variable {collate : String → String}

/-- A statement of `HandleZoneTransfer`, or a step of the other threads, of
which workers may be stopped between choosing a queue and pushing to it. -/
inductive Label (grid : CollisionGrid)
  | proceed
  | accept
  | receive (session : Nat) (packet : ClientPacket)
  | hangUp (session : Nat)
  | fire (index : Nat)
  | carry (index : Nat)
  | database (index : Nat) (calls : LoginCalls) (written : Bool)
  | run (thread : Nat) (choice : Choice grid)

/-- The transferring thread performs its next step. -/
def proceed (transfer : Transfer grid) (crossing : Crossing collate) : Option (Crossing collate) :=
  (transfer.perform crossing.stage crossing.server.world).map fun performed =>
    { crossing with
      stage := performed.1
      server := { crossing.server with world := performed.2 } }

/-- A worker or the timer thread is about to look up a queue. -/
def hand (handing : Handing) (crossing : Crossing collate) : Crossing collate :=
  { crossing with handed := crossing.handed ++ [handing] }

/-- A worker or the timer looks the zone of its task up, or queues the task
when that is done. -/
def carry (index : Nat) (crossing : Crossing collate) : Option (Crossing collate) :=
  match crossing.handed[index]? with
  | none => none
  | some (.byZone zoneId task) =>
      some { crossing with
        handed := crossing.handed.eraseIdx index
        server := { crossing.server with
          world := crossing.server.world.enqueueByZone zoneId task } }
  | some handing =>
      some { crossing with
        handed := crossing.handed.set index (handing.lookUp crossing.server.world) }

/-- A thread runs its next task; the transferring thread does so only after
the transfer. -/
def runThread (transfer : Transfer grid) (thread : Nat) (choice : Choice grid)
    (crossing : Crossing collate) : Option (Crossing collate) :=
  if thread = transfer.thread ∧ crossing.stage ≠ .done then none
  else
    (crossing.server.runThread thread choice).map fun server =>
      { crossing with
        server := server
        executed := crossing.executed ++
          if thread = transfer.newZoneId then
            ((crossing.server.world.queues thread).take 1).filter (Task.isOf transfer.session)
          else [] }

/-- One step of the crossing. -/
def step (transfer : Transfer grid) (label : Label grid) (crossing : Crossing collate) :
    Option (Crossing collate) :=
  match label with
  | .proceed => crossing.proceed transfer
  | .accept => crossing.server.accept.map fun server => { crossing with server := server }
  | .receive session packet =>
      if (crossing.server.world.sessions session).isSome then
        some (crossing.hand (.bySession session (.dispatch session packet)))
      else none
  | .hangUp session =>
      if (crossing.server.world.sessions session).isSome then
        some (crossing.hand (.hangUp session crossing.server.world))
      else none
  | .fire index =>
      match crossing.server.world.timers[index]? with
      | none => none
      | some event =>
          some (({ crossing with
            server := { crossing.server with
              world := { crossing.server.world with
                timers := crossing.server.world.timers.eraseIdx index } } }).hand
              (.fire event))
  | .carry index => crossing.carry index
  | .database index calls written =>
      (crossing.server.database index calls written).map fun server =>
        { crossing with server := server }
  | .run thread choice => crossing.runThread transfer thread choice

/-- A transfer that has just started, while other threads have tasks in
hand. -/
def start (server : Server collate) (handed : List Handing) : Crossing collate where
  server := server
  stage := .collectSubjects
  handed := handed
  executed := []

/-- Uninterrupted statements are the statements alone. -/
theorem run_proceed (transfer : Transfer grid) (count : Nat) (crossing : Crossing collate) :
    run (step transfer) (List.replicate count .proceed) crossing =
      (run (fun (_ : Unit) (current : Transfer.Stage × World) =>
        transfer.perform current.1 current.2) (List.replicate count ())
          (crossing.stage, crossing.server.world)).map fun performed =>
        { crossing with
          stage := performed.1
          server := { crossing.server with world := performed.2 } } := by
  induction count generalizing crossing with
  | zero => rfl
  | succ count ih =>
    rw [List.replicate_succ, List.replicate_succ, run_cons, run_cons, step, proceed]
    cases transfer.perform crossing.stage crossing.server.world with
    | none => rfl
    | some performed => exact ih _

/-- Without other steps in between, the request is one step of the server. -/
theorem proceed_uninterrupted {thread : Nat} {choice : Choice grid} {server started : Server collate}
    {transfer : Transfer grid} (departs : server.departs thread choice = some (transfer, started))
    (handed : List Handing) :
    ∃ after, server.runThread thread choice = some after ∧
      run (step transfer) (List.replicate 8 .proceed) (start started handed) =
        some ⟨after, .done, handed, []⟩ := by
  unfold Server.departs at departs
  split at departs
  · next session packet rest queued =>
    dsimp only at departs
    split at departs
    · contradiction
    · next client x y target =>
      split at departs
      · next crossing =>
        obtain ⟨rfl, rfl⟩ := Prod.mk.inj (Option.some.inj departs)
        rcases World.dispatch_transfers crossing.1 target crossing.2 with ⟨player, found, ran⟩
        have performed :=
          Transfer.perform_handleZoneTransfer ⟨thread, choice, session, x, y⟩ found
        have stepped := congrArg (Option.map fun world => { server with world := world }) ran
        rw [Option.map_some] at stepped
        refine ⟨_, Eq.trans ?_ stepped, ?_⟩
        · rw [Server.runThread, queued]
          rfl
        · rw [run_proceed, start]
          exact congrArg (Option.map _) performed
      · contradiction
  · contradiction

/-! ## The order in the new zone -/

/-- The task a step puts into a queue, with the zone of the queue. -/
def puts (transfer : Transfer grid) (label : Label grid) (crossing : Crossing collate) :
    Option (Nat × Task) :=
  match label with
  | .proceed =>
      if crossing.stage = .enqueueEnterZone then some (transfer.newZoneId, transfer.entry) else none
  | .carry index =>
      match crossing.handed[index]? with
      | some (.byZone zoneId task) => some (zoneId, task)
      | _ => none
  | .database index calls _ => crossing.server.handsOver index calls
  | .run thread choice =>
      match crossing.server.world.queues thread with
      | [] => none
      | task :: rest => (crossing.server.world.popped thread rest).followUp choice task
  | _ => none

/-- The tasks of the user that the new zone has run or is going to run, in
order. -/
def line (transfer : Transfer grid) (crossing : Crossing collate) : List Task :=
  crossing.executed ++
    (crossing.server.world.queues transfer.newZoneId).filter (Task.isOf transfer.session)

/-- A push to the new zone goes behind what waits there. -/
theorem line_of_queuesWith {transfer : Transfer grid} {before after : Crossing collate}
    {next : Option (Nat × Task)} (executed : after.executed = before.executed)
    (queues : after.server.world.queues = before.server.world.queuesWith next) :
    after.line transfer = before.line transfer ++
      (next.toList.filter transfer.receives).map Prod.snd := by
  rw [line, line, executed, queues, World.filter_queuesWith, List.append_assoc]
  rfl

/-- The line grows at its end only. -/
theorem step_line {transfer : Transfer grid} {label : Label grid} {before after : Crossing collate}
    (filed : World.Filed before.server.world) (taken : step transfer label before = some after) :
    after.line transfer = before.line transfer ++
      ((before.puts transfer label).toList.filter transfer.receives).map Prod.snd := by
  cases label with
  | proceed =>
    rcases Option.map_eq_some_iff.mp taken with ⟨⟨next, world⟩, performed, rfl⟩
    exact line_of_queuesWith rfl (Transfer.perform_queues performed).1
  | accept =>
    rcases Option.map_eq_some_iff.mp taken with ⟨server, accepted, rfl⟩
    simp only [Server.accept] at accepted
    split at accepted
    · exact Option.some.inj accepted ▸ line_of_queuesWith rfl rfl
    · contradiction
  | receive session packet =>
    simp only [step] at taken
    split at taken
    · exact Option.some.inj taken ▸ line_of_queuesWith rfl rfl
    · contradiction
  | hangUp session =>
    simp only [step] at taken
    split at taken
    · exact Option.some.inj taken ▸ line_of_queuesWith rfl rfl
    · contradiction
  | fire index =>
    simp only [step] at taken
    split at taken
    · contradiction
    · exact Option.some.inj taken ▸ line_of_queuesWith rfl rfl
  | carry index =>
    simp only [step, carry] at taken
    unfold puts
    dsimp only
    split at taken
    · contradiction
    · next zoneId task found =>
      rw [found]
      exact Option.some.inj taken ▸ line_of_queuesWith rfl rfl
    · next handing unresolved found =>
      rw [found]
      cases handing with
      | byZone zoneId task => exact absurd rfl (unresolved zoneId task)
      | bySession session task => exact Option.some.inj taken ▸ line_of_queuesWith rfl rfl
      | byObject id task => exact Option.some.inj taken ▸ line_of_queuesWith rfl rfl
  | database index calls written =>
    rcases Option.map_eq_some_iff.mp taken with ⟨server, processed, rfl⟩
    exact line_of_queuesWith rfl (Server.database_queues processed)
  | run thread choice =>
    simp only [step, runThread] at taken
    split at taken
    · contradiction
    · rcases Option.map_eq_some_iff.mp taken with ⟨server, stepped, rfl⟩
      simp only [Server.runThread] at stepped
      unfold puts
      dsimp only
      split at stepped
      · contradiction
      · next task rest queued =>
        rcases Option.map_eq_some_iff.mp stepped with ⟨world, ran, rfl⟩
        have popped : World.Filed (before.server.world.popped thread rest) := filed
        have moved : (if thread = transfer.newZoneId then
            ([task] : List Task).filter (Task.isOf transfer.session) else []) =
              if transfer.newZoneId = thread ∧ task.isOf transfer.session = true then [task]
              else [] := by
          by_cases here : thread = transfer.newZoneId
          · rw [if_pos here, List.filter_singleton]
            simp [here, Bool.cond_eq_ite]
          · rw [if_neg here, if_neg fun both => here both.1.symm]
        rw [line, line, queued, World.exec_queues popped ran, World.filter_queuesWith,
          filter_pop (Task.isOf transfer.session) queued transfer.newZoneId, ← moved]
        simp only [List.append_assoc, List.take_succ_cons, List.take_zero]
        rfl

theorem step_filed {transfer : Transfer grid} {label : Label grid} {before after : Crossing collate}
    (taken : step transfer label before = some after) (filed : World.Filed before.server.world) :
    World.Filed after.server.world := by
  cases label with
  | proceed =>
    rcases Option.map_eq_some_iff.mp taken with ⟨⟨next, world⟩, performed, rfl⟩
    exact Transfer.perform_filed performed filed
  | accept =>
    rcases Option.map_eq_some_iff.mp taken with ⟨server, accepted, rfl⟩
    have same := @Server.step_objects grid _ .accept _ _ accepted
      fun _ _ => nofun
    exact fun id subject found => filed id subject (same.1 ▸ found)
  | receive session packet =>
    simp only [step] at taken
    split at taken
    · exact Option.some.inj taken ▸ filed
    · contradiction
  | hangUp session =>
    simp only [step] at taken
    split at taken
    · exact Option.some.inj taken ▸ filed
    · contradiction
  | fire index =>
    simp only [step] at taken
    split at taken
    · contradiction
    · exact Option.some.inj taken ▸ filed
  | carry index =>
    simp only [step, carry] at taken
    split at taken
    · contradiction
    · exact Option.some.inj taken ▸ filed
    · exact Option.some.inj taken ▸ filed
  | database index calls written =>
    rcases Option.map_eq_some_iff.mp taken with ⟨server, processed, rfl⟩
    have same := @Server.step_objects grid _ (.database index calls written) _ _ processed
      fun _ _ => nofun
    exact fun id subject found => filed id subject (same.1 ▸ found)
  | run thread choice =>
    simp only [step, runThread] at taken
    split at taken
    · contradiction
    · rcases Option.map_eq_some_iff.mp taken with ⟨server, stepped, rfl⟩
      simp only [Server.runThread] at stepped
      split at stepped
      · contradiction
      · next task rest queued =>
        rcases Option.map_eq_some_iff.mp stepped with ⟨world, ran, rfl⟩
        have popped : World.Filed (before.server.world.popped thread rest) := filed
        exact World.exec_filed popped ran

/-- Only the transferring thread gets on with the transfer. -/
theorem step_stage {transfer : Transfer grid} {label : Label grid} {before after : Crossing collate}
    (taken : step transfer label before = some after) (others : label ≠ .proceed) :
    after.stage = before.stage := by
  cases label with
  | proceed => contradiction
  | accept =>
    rcases Option.map_eq_some_iff.mp taken with ⟨_, _, rfl⟩
    rfl
  | receive session packet =>
    simp only [step] at taken
    split at taken
    · exact Option.some.inj taken ▸ rfl
    · contradiction
  | hangUp session =>
    simp only [step] at taken
    split at taken
    · exact Option.some.inj taken ▸ rfl
    · contradiction
  | fire index =>
    simp only [step] at taken
    split at taken
    · contradiction
    · exact Option.some.inj taken ▸ rfl
  | carry index =>
    simp only [step, carry] at taken
    split at taken
    · contradiction
    · exact Option.some.inj taken ▸ rfl
    · exact Option.some.inj taken ▸ rfl
  | database index calls written =>
    rcases Option.map_eq_some_iff.mp taken with ⟨_, _, rfl⟩
    rfl
  | run thread choice =>
    simp only [step, runThread] at taken
    split at taken
    · contradiction
    · rcases Option.map_eq_some_iff.mp taken with ⟨_, _, rfl⟩
      rfl

/-- No other thread puts a task of the user into the queue of the new zone
before `HandleEnterZone` is there. -/
def patient (transfer : Transfer grid) (label : Label grid) (crossing : Crossing collate) : Bool :=
  match label with
  | .proceed => true
  | _ => crossing.stage = .done ∨ (crossing.puts transfer label).any transfer.receives = false

/-- The line is empty up to `HandleEnterZone`, which opens it. -/
structure Entering (transfer : Transfer grid) (crossing : Crossing collate) : Prop where
  filed : World.Filed crossing.server.world
  before : crossing.stage ≠ .done → crossing.line transfer = []
  since : crossing.stage = .done → (crossing.line transfer).head? = some transfer.entry

/-- The entry goes to the thread of the new zone. -/
theorem receives_entry {transfer : Transfer grid} (valid : isValidZoneId transfer.newZoneId = true) :
    transfer.receives (transfer.newZoneId, transfer.entry) = true := by
  simp [Transfer.receives, World.threadOf, valid, Transfer.entry, Task.isOf]

/-- A statement leaves no packet before the entry. -/
theorem proceed_entering {transfer : Transfer grid} {before after : Crossing collate}
    (valid : isValidZoneId transfer.newZoneId = true)
    (taken : step transfer .proceed before = some after) (entering : before.Entering transfer) :
    after.Entering transfer := by
  have grown := step_line entering.filed taken
  have filed := step_filed taken entering.filed
  rcases Option.map_eq_some_iff.mp taken with ⟨⟨next, world⟩, performed, rfl⟩
  have last := (Transfer.perform_queues performed).2
  have empty : before.line transfer = [] := by
    apply entering.before
    rintro finished
    rw [finished] at performed
    contradiction
  rw [empty, List.nil_append, puts] at grown
  refine ⟨filed, fun underway => ?_, fun finished => ?_⟩
  · rw [grown, if_neg fun here => underway (last.mpr here)]
    rfl
  · rw [grown, if_pos (last.mp finished), Option.toList_some, List.filter_singleton,
      receives_entry valid]
    rfl

/-- A patient step leaves no packet before the entry. -/
theorem step_entering {transfer : Transfer grid} {label : Label grid} {before after : Crossing collate}
    (valid : isValidZoneId transfer.newZoneId = true)
    (taken : step transfer label before = some after)
    (patience : before.patient transfer label = true) (entering : before.Entering transfer) :
    after.Entering transfer := by
  by_cases own : label = .proceed
  · subst own
    exact proceed_entering valid taken entering
  · have grown := step_line entering.filed taken
    have stage := step_stage taken own
    have waits : before.stage = .done ∨
        (before.puts transfer label).any transfer.receives = false := by
      cases label with
      | proceed => contradiction
      | _ => exact of_decide_eq_true patience
    refine ⟨step_filed taken entering.filed, fun underway => ?_, fun finished => ?_⟩
    · rw [stage] at underway
      rw [grown, entering.before underway]
      rcases waits with finished | nothing
      · exact absurd finished underway
      · cases put : before.puts transfer label with
        | none => rfl
        | some queued =>
          rw [put] at nothing
          rw [Option.toList_some, List.filter_singleton, show transfer.receives queued = false from nothing]
          rfl
    · rw [stage] at finished
      rw [grown, List.head?_append, entering.since finished]
      rfl

/-- Noting the time of a move keeps the accounts. -/
theorem stamped_accounts {world : World} {choice : Choice grid} {session : Nat}
    {packet : ClientPacket} : World.SameAccounts world (world.stamped choice session packet) := by
  unfold World.stamped
  split
  · next direction =>
    apply World.SameAccounts.modify
    · rintro ⟨name, transform, facing, body⟩
      unfold World.faceDirection
      split
      · rfl
      · split <;> rfl
    · intro subject
      rw [Subject.category, World.faceDirection_body]
      rfl
    · apply World.SameAccounts.modify _ _ (World.SameAccounts.refl world)
      · rintro ⟨name, transform, facing, body⟩
        cases body <;> rfl
      · rintro ⟨name, transform, facing, body⟩
        cases body <;> rfl
  · exact World.SameAccounts.refl world

/-- A transfer starts towards a zone of the server. -/
theorem departs_starts {thread : Nat} {choice : Choice grid} {server started : Server collate}
    {transfer : Transfer grid} (filed : World.Filed server.world)
    (departs : server.departs thread choice = some (transfer, started)) :
    isValidZoneId transfer.newZoneId = true ∧ World.Filed started.world := by
  unfold Server.departs at departs
  split at departs
  · next session packet rest queued =>
    dsimp only at departs
    split at departs
    · contradiction
    · split at departs
      · next crossing =>
        obtain ⟨rfl, rfl⟩ := Prod.mk.inj (Option.some.inj departs)
        have popped : World.Filed (server.world.popped thread rest) := filed
        have stamps : World.SameAccounts (server.world.popped thread rest)
            ((server.world.popped thread rest).stamped choice session packet) := stamped_accounts
        refine ⟨(World.crosses_iff.mp crossing.2).2, ?_⟩
        dsimp only
        exact stamps.modifyTransform.filed popped
      · contradiction
  · contradiction

/-! ## The order of publication -/

/-- Looking a task of the user up yields the new zone only after the zone map,
or the routing of the session, was written. -/
structure Unpublished (transfer : Transfer grid) (crossing : Crossing collate) : Prop where
  unmapped : crossing.stage.unmapped = true → ∀ task,
    (Handing.byObject transfer.playerId task).lookUp crossing.server.world ≠
      .byZone transfer.newZoneId task
  unrouted : crossing.stage.unrouted = true → ∀ task,
    (Handing.bySession transfer.session task).lookUp crossing.server.world ≠
      .byZone transfer.newZoneId task

/-- The old zone is what the lookups find, and the session is known. -/
structure Hidden (transfer : Transfer grid) (crossing : Crossing collate) : Prop where
  known : transfer.session < crossing.server.world.nextObjectId
  mapped : crossing.stage.unmapped = true →
    crossing.server.world.getObjectZone transfer.playerId ≠ transfer.newZoneId
  routed : crossing.stage.unrouted = true → ∃ record,
    crossing.server.world.sessions transfer.session = some record ∧
      record.routingZoneId ≠ transfer.newZoneId

/-- What hides the new zone hides it from lookups. -/
theorem Hidden.unpublished {transfer : Transfer grid} {crossing : Crossing collate}
    (hidden : crossing.Hidden transfer) : crossing.Unpublished transfer where
  unmapped early task same := hidden.mapped early (Handing.byZone.inj same).1
  unrouted early task same := by
    obtain ⟨record, recorded, elsewhere⟩ := hidden.routed early
    have zone := (Handing.byZone.inj same).1
    rw [recorded] at zone
    exact elsewhere zone

/-- A statement publishes the zone at its own time only. -/
theorem proceed_hidden {transfer : Transfer grid} {before after : Crossing collate}
    (taken : step transfer .proceed before = some after) (hidden : before.Hidden transfer) :
    after.Hidden transfer := by
  rcases Option.map_eq_some_iff.mp taken with ⟨⟨next, world⟩, performed, rfl⟩
  have publishes := Transfer.perform_publishes performed
  constructor
  · rw [publishes.nextObjectId]
    exact hidden.known
  · intro early
    obtain ⟨earlier, same⟩ := publishes.objectZones early
    dsimp only
    rw [World.getObjectZone, same]
    exact hidden.mapped earlier
  · intro early
    obtain ⟨earlier, same⟩ := publishes.sessions early
    dsimp only
    rw [same]
    exact hidden.routed earlier

/-- Workers, the timer and the database thread write no zone. -/
theorem step_sameZones {transfer : Transfer grid} {label : Label grid}
    {before after : Crossing collate} (taken : step transfer label before = some after)
    (others : label ≠ .proceed) (noTask : ∀ thread choice, label ≠ .run thread choice)
    (known : transfer.session < before.server.world.nextObjectId) :
    after.server.world.objectZones = before.server.world.objectZones ∧
      after.server.world.sessions transfer.session =
        before.server.world.sessions transfer.session ∧
      before.server.world.nextObjectId ≤ after.server.world.nextObjectId := by
  cases label with
  | proceed => contradiction
  | run thread choice => exact absurd rfl (noTask thread choice)
  | accept =>
    rcases Option.map_eq_some_iff.mp taken with ⟨server, accepted, rfl⟩
    simp only [Server.accept] at accepted
    split at accepted
    · obtain rfl := Option.some.inj accepted
      exact ⟨rfl, Function.update_of_ne known.ne _ _, Nat.le_succ _⟩
    · contradiction
  | receive session packet =>
    simp only [step] at taken
    split at taken
    · exact Option.some.inj taken ▸ ⟨rfl, rfl, Nat.le_refl _⟩
    · contradiction
  | hangUp session =>
    simp only [step] at taken
    split at taken
    · exact Option.some.inj taken ▸ ⟨rfl, rfl, Nat.le_refl _⟩
    · contradiction
  | fire index =>
    simp only [step] at taken
    split at taken
    · contradiction
    · exact Option.some.inj taken ▸ ⟨rfl, rfl, Nat.le_refl _⟩
  | carry index =>
    simp only [step, carry] at taken
    split at taken
    · contradiction
    · exact Option.some.inj taken ▸ ⟨rfl, rfl, Nat.le_refl _⟩
    · exact Option.some.inj taken ▸ ⟨rfl, rfl, Nat.le_refl _⟩
  | database index calls written =>
    rcases Option.map_eq_some_iff.mp taken with ⟨server, processed, rfl⟩
    simp only [Server.database] at processed
    split at processed
    · contradiction
    · split at processed
      · obtain rfl := Option.some.inj processed
        unfold Server.handOver
        split <;> exact ⟨rfl, rfl, Nat.le_refl _⟩
      · obtain rfl := Option.some.inj processed
        split <;> exact ⟨rfl, rfl, Nat.le_refl _⟩

theorem step_hidden {transfer : Transfer grid} {label : Label grid} {before after : Crossing collate}
    (taken : step transfer label before = some after)
    (noTask : ∀ thread choice, label ≠ .run thread choice) (hidden : before.Hidden transfer) :
    after.Hidden transfer := by
  by_cases own : label = .proceed
  · subst own
    exact proceed_hidden taken hidden
  · obtain ⟨zones, session, grows⟩ := step_sameZones taken own noTask hidden.known
    have stage := step_stage taken own
    refine ⟨hidden.known.trans_le grows, fun early => ?_, fun early => ?_⟩
    · rw [World.getObjectZone, zones]
      exact hidden.mapped (stage ▸ early)
    · rw [session]
      exact hidden.routed (stage ▸ early)

/-- When a transfer starts the zone map and the routing have the old zone. -/
theorem start_hidden {thread : Nat} {choice : Choice grid} {server started : Server collate}
    {transfer : Transfer grid} (mapped : World.Mapped server.world)
    (departs : server.departs thread choice = some (transfer, started)) (handed : List Handing) :
    (start started handed).Hidden transfer := by
  unfold Server.departs at departs
  split at departs
  · next session packet rest queued =>
    dsimp only at departs
    split at departs
    · contradiction
    · next client x y target =>
      split at departs
      · next crossing =>
        obtain ⟨rfl, rfl⟩ := Prod.mk.inj (Option.some.inj departs)
        have registered : server.world.objects (ObjID.user session) = some client :=
          World.moveTarget_registered target
        have away := (World.crosses_iff.mp crossing.2).1
        have agree := mapped.zonesAgree
        obtain ⟨record, recorded, routed⟩ := agree.routing session client registered
        have stamps : ∀ world : World, (world.stamped choice session packet).objectZones =
            world.objectZones ∧ (world.stamped choice session packet).sessions = world.sessions ∧
              (world.stamped choice session packet).nextObjectId = world.nextObjectId := by
          intro world
          unfold World.stamped
          split <;> exact ⟨rfl, rfl, rfl⟩
        obtain ⟨zones, sessions, numbers⟩ := stamps (server.world.popped thread rest)
        constructor
        · have known : session < server.world.nextObjectId := by
            by_contra unknown
            rw [mapped.fresh session (Nat.not_lt.mp unknown)] at recorded
            contradiction
          exact known.trans_eq numbers.symm
        · intro _ same
          have old : (World.stamped choice session packet (server.world.popped thread
              rest)).getObjectZone (ObjID.user session) = client.transform.zoneId := by
            rw [World.getObjectZone, zones]
            exact (agree.zones _ client registered).symm
          exact away (same.symm.trans old)
        · exact fun _ => ⟨record, (congrFun sessions session).trans recorded,
            fun same => away (same.symm.trans routed)⟩
      · contradiction
  · contradiction

/-- Without other tasks no lookup yields the new zone before it is published. -/
theorem run_unpublished {thread : Nat} {choice : Choice grid} {server started : Server collate}
    {transfer : Transfer grid} {handed : List Handing} {labels : List (Label grid)}
    {crossing : Crossing collate} (mapped : World.Mapped server.world)
    (departs : server.departs thread choice = some (transfer, started))
    (noTask : ∀ other choice, Label.run other choice ∉ labels)
    (ran : run (step transfer) labels (start started handed) = some crossing) :
    crossing.Unpublished transfer := by
  have hidden := start_hidden mapped departs handed
  generalize start started handed = first at ran hidden
  induction labels generalizing first with
  | nil => exact Option.some.inj ran ▸ hidden.unpublished
  | cons label rest ih =>
    obtain ⟨next, taken, later⟩ := run_cons_eq_some.mp ran
    refine ih (fun other choice member => noTask other choice (List.mem_cons_of_mem _ member)) next
      later (step_hidden taken ?_ hidden)
    rintro other choice rfl
    exact noTask other choice List.mem_cons_self

/-- While every other thread waits for `HandleEnterZone` before it queues a
task of the user in the new zone, the new zone runs `HandleEnterZone` before
all other tasks of the user.  The zone is published by the writes of the zone
map and of the routing, and the steps in a row are one step of the server. -/
theorem enterZone_first {count : Nat} {draw : Nat → Int × Int} {store : Store collate}
    {earlier : List (Server.Label grid)} {server started : Server collate} {thread : Nat}
    {choice : Choice grid} {transfer : Transfer grid} {handed : List Handing} {labels : List (Label grid)}
    {crossing : Crossing collate}
    (reached : Transition.run Server.step earlier (Server.boot count draw store) = some server)
    (departs : server.departs thread choice = some (transfer, started))
    (clear : ∀ task ∈ started.world.queues transfer.newZoneId,
      task.isOf transfer.session = false)
    (ran : Transition.run (step transfer) labels (start started handed) = some crossing)
    (patience : Along (step transfer)
      (fun label current => current.patient transfer label = true) labels (start started handed)) :
    (∀ task, crossing.executed.head? = some task → task = transfer.entry) ∧
      ((∀ other choice, Label.run other choice ∉ labels) → crossing.Unpublished transfer) ∧
      ∃ after, server.runThread thread choice = some after ∧
        run (step transfer) (List.replicate 8 .proceed) (start started handed) =
          some ⟨after, .done, handed, []⟩ := by
  refine ⟨?_, fun noTask => run_unpublished (Server.run_mapped reached) departs noTask ran,
    proceed_uninterrupted departs handed⟩
  have starts := departs_starts (Server.run_mapped reached).filed departs
  have initially : (start started handed).Entering transfer := by
    refine ⟨starts.2, fun _ => ?_, fun finished => ?_⟩
    · rw [line, List.filter_eq_nil_iff.mpr]
      · rfl
      · intro task member
        rw [start] at member
        simp [clear task member]
    · exact absurd finished Transfer.Stage.noConfusion
  have entering := invariant_of_along
    (fun _ _ _ patience taken => step_entering starts.1 taken patience) patience ran initially
  intro task first
  have opens : (crossing.line transfer).head? = some task := by
    rw [line, List.head?_append, first]
    rfl
  by_cases finished : crossing.stage = .done
  · rw [entering.since finished] at opens
    exact (Option.some.inj opens).symm
  · rw [entering.before finished] at opens
    contradiction

/-- A player that teleports into the zone on the right has its request in the
queue. -/
def departure : List (Server.Label initCollisionTile) :=
  Server.journey.take 6

/-- A worker reads the new routing zone after `HandleZoneTransfer` has queued
the entry. -/
def patientRun : List (Label initCollisionTile) :=
  List.replicate 8 .proceed ++
    [.receive 1 (.userMoveReq 0), .carry 0, .carry 0, .run 1 .steady, .run 1 .steady]

/-- After six steps the zone map has the new zone and the routing has not. -/
theorem enterZone_first_sample :
    ∃ server transfer started halfway crossing,
      Transition.run Server.step departure (Server.boot 0 (fun _ => (9, 9)) World.savedStore) =
          some server ∧
        server.departs 0 .steady = some (transfer, started) ∧
        Transition.run (step transfer) (List.replicate 6 .proceed) (start started []) =
          some halfway ∧
        halfway.stage = .setRoutingZoneId ∧ halfway.Unpublished transfer ∧
        Transition.run (step transfer) patientRun (start started []) = some crossing ∧
        crossing.executed = [transfer.entry, .dispatch 1 (.userMoveReq 0)] ∧
        ∀ task, crossing.executed.head? = some task → task = transfer.entry := by
  have reached : (Transition.run Server.step departure
      (Server.boot 0 (fun _ => (9, 9)) World.savedStore)).isSome := by rfl
  rcases Option.isSome_iff_exists.mp reached with ⟨server, reached⟩
  have departs : (server.departs 0 .steady).isSome := by
    obtain rfl := Option.some.inj reached
    rfl
  rcases Option.isSome_iff_exists.mp departs with ⟨⟨transfer, started⟩, departs⟩
  have completes : (Transition.run (step transfer) patientRun (start started [])).isSome ∧
      (Transition.run (step transfer) (List.replicate 6 .proceed) (start started [])).isSome := by
    obtain rfl := Option.some.inj reached
    obtain ⟨rfl, rfl⟩ := Prod.mk.inj (Option.some.inj departs)
    exact ⟨rfl, rfl⟩
  rcases Option.isSome_iff_exists.mp completes.1 with ⟨crossing, ran⟩
  rcases Option.isSome_iff_exists.mp completes.2 with ⟨halfway, half⟩
  have clear : ∀ task ∈ started.world.queues transfer.newZoneId,
      task.isOf transfer.session = false := by
    obtain rfl := Option.some.inj reached
    obtain ⟨rfl, rfl⟩ := Prod.mk.inj (Option.some.inj departs)
    exact fun task member => absurd member List.not_mem_nil
  refine ⟨server, transfer, started, halfway, crossing, reached, departs, half, ?_,
    (enterZone_first reached departs clear half (along_of_check ?_)).2.1 ?_, ran, ?_,
    (enterZone_first reached departs clear ran (along_of_check ?_)).1⟩
  · obtain rfl := Option.some.inj reached
    obtain ⟨rfl, rfl⟩ := Prod.mk.inj (Option.some.inj departs)
    obtain rfl := Option.some.inj half
    rfl
  · rfl
  · intro other choice member
    cases List.eq_of_mem_replicate member
  · obtain rfl := Option.some.inj reached
    obtain ⟨rfl, rfl⟩ := Prod.mk.inj (Option.some.inj departs)
    obtain rfl := Option.some.inj ran
    rfl
  · obtain rfl := Option.some.inj reached
    obtain ⟨rfl, rfl⟩ := Prod.mk.inj (Option.some.inj departs)
    rfl

/-- A worker reads the new routing zone before `HandleZoneTransfer` has queued
the entry. -/
def hastyRun : List (Label initCollisionTile) :=
  List.replicate 7 .proceed ++
    [.receive 1 (.userMoveReq 0), .carry 0, .carry 0, .proceed, .run 1 .steady, .run 1 .steady]

/-- The new zone runs a packet before the entry, although no task of the user
was in its queue or in a worker's hands when the transfer started. -/
theorem packet_overtakes_entry :
    ∃ server transfer started crossing,
      Transition.run Server.step departure (Server.boot 0 (fun _ => (9, 9)) World.savedStore) =
          some server ∧
        server.departs 0 .steady = some (transfer, started) ∧
        started.world.queues transfer.newZoneId = [] ∧
        Transition.run (step transfer) hastyRun (start started []) = some crossing ∧
        crossing.executed = [.dispatch 1 (.userMoveReq 0), transfer.entry] := by
  have reached : (Transition.run Server.step departure
      (Server.boot 0 (fun _ => (9, 9)) World.savedStore)).isSome := by rfl
  rcases Option.isSome_iff_exists.mp reached with ⟨server, reached⟩
  have departs : (server.departs 0 .steady).isSome := by
    obtain rfl := Option.some.inj reached
    rfl
  rcases Option.isSome_iff_exists.mp departs with ⟨⟨transfer, started⟩, departs⟩
  have completes : (Transition.run (step transfer) hastyRun (start started [])).isSome := by
    obtain rfl := Option.some.inj reached
    obtain ⟨rfl, rfl⟩ := Prod.mk.inj (Option.some.inj departs)
    rfl
  rcases Option.isSome_iff_exists.mp completes with ⟨crossing, ran⟩
  refine ⟨server, transfer, started, crossing, reached, departs, ?_, ran, ?_⟩
  · obtain rfl := Option.some.inj reached
    obtain ⟨rfl, rfl⟩ := Prod.mk.inj (Option.some.inj departs)
    rfl
  · obtain rfl := Option.some.inj reached
    obtain ⟨rfl, rfl⟩ := Prod.mk.inj (Option.some.inj departs)
    obtain rfl := Option.some.inj ran
    rfl

end Crossing

end Mmorpg
