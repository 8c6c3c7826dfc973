import Mmorpg.Network.ClientFrame
import Mmorpg.Network.Malformed
import Mmorpg.Transition.Pool

/-!
# The way of the requests

From the clients through the receive buffers, the job pool and the queues of the
game logic threads to `Route::Dispatch`.  Sessions stay open; each frame may be
routed to any thread.  `EnqueuePacketDispatch` owns its job between `Acquire`
and the queue, and so does the task until `Release`, so both are one step.
-/

namespace Mmorpg

open Transition

namespace Network

/-! ## Jobs -/

/-- A `PacketDispatchJob` with its session. -/
structure DispatchJob where
  session : Option Nat := none
  packet : PacketDispatchJob := Buffer.zero maxClientPacketSize

/-- The request in an array that a session has sent. -/
def requestIn (session : Nat) (packet : List UInt8) : Option (Nat × ClientPacket) :=
  (requestType (byteAt 2 packet)).map fun type => (session, readRequest type packet)

namespace DispatchJob

/-- The session and the packet are written over an earlier job. -/
def assign (session : Nat) (frame : List UInt8) (job : DispatchJob) : DispatchJob where
  session := some session
  packet := job.packet.copyAt 0 frame

/-- `Release`. -/
def release (job : DispatchJob) : DispatchJob :=
  { job with session := none }

/-- The request that `Route::Dispatch` serves; `none` for an unknown type. -/
def request (job : DispatchJob) : Option (Nat × ClientPacket) :=
  job.session.bind fun session => requestIn session job.packet.bytes

end DispatchJob

/-! ## The machine -/

/-- A frame that was given to the queue of a thread. -/
structure Handover where
  thread : Nat
  session : Nat
  frame : List UInt8

/-- The requests sent, with the times written into them, the bytes on the way,
the receive side of the sessions, the jobs, and what was queued and served. -/
structure Intake where
  sent : Nat → List (Nat × ClientPacket)
  incoming : Nat → List UInt8
  sessions : Nat → RecvState
  pool : Pool Nat DispatchJob
  handed : List Handover
  served : Nat → List (Option (Nat × ClientPacket))

/-- A client sends a request, bytes arrive at a session, or a game thread takes
a job. -/
inductive IntakeLabel
  | send (session moveTime : Nat) (request : ClientPacket)
  | receive (session bytes : Nat) (route : Nat → Nat)
  | dispatch (thread : Nat)

namespace Intake

/-- No bytes have been sent; the buffers hold whatever they hold. -/
def start (buffers : Nat → Buffer bufSize) : Intake where
  sent := fun _ => []
  incoming := fun _ => []
  sessions := fun session => RecvState.start (buffers session)
  pool := Pool.start {}
  handed := []
  served := fun _ => []

/-- `EnqueuePacketDispatch`. -/
def enqueue (thread session : Nat) (frame : List UInt8) (intake : Intake) : Intake :=
  { intake with
    pool := intake.pool.put (DispatchJob.assign session frame) thread
    handed := intake.handed ++ [⟨thread, session, frame⟩] }

/-- The frames of one completion; `route` is what `EnqueueBySession` finds. -/
def enqueueAll (session : Nat) : List (List UInt8) → (Nat → Nat) → Intake → Intake
  | [], _, intake => intake
  | frame :: later, route, intake =>
      enqueueAll session later (fun index => route (index + 1))
        (intake.enqueue (route 0) session frame)

/-- The frames that a completion has handed on and that have a legal size. -/
def accepted (before after : RecvState) : List (List UInt8) :=
  (after.enqueued.drop before.enqueued.length).filter fun frame =>
    enqueuePacketDispatch frame.length

/-- A client sends a request. -/
def send (session moveTime : Nat) (request : ClientPacket) (intake : Intake) : Intake :=
  { intake with
    sent := Function.update intake.sent session (intake.sent session ++ [(moveTime, request)])
    incoming := Function.update intake.incoming session
      (intake.incoming session ++ request.frame moveTime) }

/-- The receive side of a session takes bytes off the way. -/
def store (session bytes : Nat) (state : RecvState) (intake : Intake) : Intake :=
  { intake with
    incoming := Function.update intake.incoming session ((intake.incoming session).drop bytes)
    sessions := Function.update intake.sessions session state }

/-- One step of the intake. -/
def step (label : IntakeLabel) (intake : Intake) : Option Intake :=
  match label with
  | .send session moveTime request => some (intake.send session moveTime request)
  | .receive session bytes route =>
      (receive ((intake.incoming session).take bytes) (intake.sessions session)).map fun state =>
        enqueueAll session (accepted (intake.sessions session) state) route
          (intake.store session bytes state)
  | .dispatch thread =>
      (intake.pool.take DispatchJob.release thread).map fun (job, pool) =>
        { intake with
          pool := pool
          served := Function.update intake.served thread
            (intake.served thread ++ [job.request]) }

/-- The frames a session has sent. -/
def frames (session : Nat) (intake : Intake) : List (List UInt8) :=
  (intake.sent session).map fun entry => entry.2.frame entry.1

/-- The frames of a session that have been queued, in order. -/
def queuedOf (session : Nat) (intake : Intake) : List (List UInt8) :=
  (intake.handed.filter fun handover => handover.session = session).map Handover.frame

/-- The requests that have been queued for a thread, in order. -/
def givenTo (thread : Nat) (intake : Intake) : List (Option (Nat × ClientPacket)) :=
  (intake.handed.filter fun handover => handover.thread = thread).map fun handover =>
    requestIn handover.session handover.frame

/-! ## Invariant -/

/-- Each queue holds what its thread has not served yet. -/
structure Booked (intake : Intake) : Prop where
  exclusive : intake.pool.Exclusive
  pending : ∀ thread, intake.served thread ++
    (intake.pool.contents thread).map DispatchJob.request = intake.givenTo thread

/-- Each receive buffer is in step with what its client has sent, and every
complete frame has been queued once. -/
structure Sound (intake : Intake) : Prop where
  received : ∀ session, ∃ delivered,
    Reassembled (intake.frames session) delivered (intake.sessions session) ∧
      delivered ++ intake.incoming session = (intake.frames session).flatten
  queued : ∀ session, intake.queuedOf session = (intake.sessions session).enqueued
  booked : Booked intake

variable {intake next : Intake} {session thread : Nat}

theorem areFrames (session : Nat) (intake : Intake) :
    ∀ frame ∈ intake.frames session, IsFrame frame := by
  intro frame member
  obtain ⟨entry, _, rfl⟩ := List.mem_map.mp member
  exact entry.2.isFrame_frame entry.1

/-- A request is read from its frame, whatever the job held before. -/
theorem requestIn_frame (session moveTime : Nat) (request : ClientPacket) (rest : List UInt8) :
    requestIn session (request.frame moveTime ++ rest) = some (session, request.kept) := by
  have type : byteAt 2 (request.frame moveTime ++ rest) = request.type.packetType.toByte := rfl
  rw [requestIn, type, requestType_toByte, Option.map_some, readRequest_frame]

/-- A job names the request whose frame was copied into it. -/
theorem request_assign (session moveTime : Nat) (request : ClientPacket) (job : DispatchJob) :
    (job.assign session (request.frame moveTime)).request =
      requestIn session (request.frame moveTime) := by
  have fits := (request.isFrame_frame moveTime).bounded
  have bare := requestIn_frame session moveTime request []
  rw [List.append_nil] at bare
  rw [bare, DispatchJob.request, DispatchJob.assign, Option.bind_some,
    Buffer.bytes_copyAt_zero _ fits, requestIn_frame]

theorem start_sound (buffers : Nat → Buffer bufSize) : Sound (start buffers) where
  received session := by
    refine ⟨[], start_reassembled ?_ (buffers session), rfl⟩
    exact fun _ member => absurd member List.not_mem_nil
  queued session := rfl
  booked := ⟨Pool.start_exclusive _, fun _ => rfl⟩

/-! ## Queueing -/

theorem Booked.enqueue (booked : Booked intake) (moveTime : Nat) (request : ClientPacket)
    (thread session : Nat) :
    Booked (intake.enqueue thread session (request.frame moveTime)) := by
  obtain ⟨held, contents⟩ :=
    booked.exclusive.contents_put (DispatchJob.assign session (request.frame moveTime)) thread
  refine ⟨booked.exclusive.put _ thread, fun other => ?_⟩
  have pending := booked.pending other
  simp only [Intake.enqueue, givenTo, contents, List.filter_append, List.map_append] at pending ⊢
  rw [← List.append_assoc, pending]
  congr 1
  by_cases same : other = thread
  · subst same
    simp [request_assign]
  · have different : thread ≠ other := fun equal => same equal.symm
    simp [same, different]

/-- What queueing frames leaves alone. -/
theorem enqueueAll_keeps (session : Nat) (frames : List (List UInt8)) (route : Nat → Nat)
    (intake : Intake) :
    (enqueueAll session frames route intake).sent = intake.sent ∧
      (enqueueAll session frames route intake).incoming = intake.incoming ∧
      (enqueueAll session frames route intake).sessions = intake.sessions := by
  induction frames generalizing route intake with
  | nil => exact ⟨rfl, rfl, rfl⟩
  | cons frame later ih => exact ih _ (intake.enqueue (route 0) session frame)

/-- Frames are queued for their session only. -/
theorem queuedOf_enqueueAll (session other : Nat) (frames : List (List UInt8)) (route : Nat → Nat)
    (intake : Intake) : (enqueueAll session frames route intake).queuedOf other =
      intake.queuedOf other ++ if other = session then frames else [] := by
  induction frames generalizing route intake with
  | nil => simp [enqueueAll]
  | cons frame later ih =>
      rw [enqueueAll, ih]
      by_cases same : other = session
      · subst same
        simp [queuedOf, Intake.enqueue]
      · have different : session ≠ other := fun equal => same equal.symm
        simp [queuedOf, Intake.enqueue, same, different]

theorem Booked.enqueueAll (booked : Booked intake) (session : Nat) {frames : List (List UInt8)}
    (requests : ∀ frame ∈ frames, ∃ moveTime request, frame = ClientPacket.frame moveTime request)
    (route : Nat → Nat) : Booked (Intake.enqueueAll session frames route intake) := by
  induction frames generalizing route intake with
  | nil => exact booked
  | cons frame later ih =>
      obtain ⟨moveTime, request, rfl⟩ := requests frame List.mem_cons_self
      exact ih (booked.enqueue moveTime request (route 0) session)
        (fun other member => requests other (List.mem_cons_of_mem _ member)) _

/-! ## Receiving -/

/-- What has been handed on stays in front. -/
theorem enqueued_prefix {chunk : List UInt8} {before after : RecvState}
    (taken : receive chunk before = some after) : before.enqueued <+: after.enqueued := by
  rw [receive] at taken
  split at taken
  · obtain rfl := Option.some.inj taken
    have kept := prefix_recvLoop (before.buffer.copyAt before.wsaOffset chunk).bytes 0
      (chunk.length + before.pendingRecvBytes) before.enqueued
    rw [RecvState.complete]
    split <;> exact kept
  · contradiction

/-- A completion queues exactly the frames it has completed. -/
theorem enqueued_accepted {frames : List (List UInt8)} {delivered chunk : List UInt8}
    {before after : RecvState} (areFrames : ∀ frame ∈ frames, IsFrame frame)
    (reassembled : Reassembled frames delivered after)
    (taken : receive chunk before = some after) :
    before.enqueued ++ accepted before after = after.enqueued ∧
      ∀ frame ∈ accepted before after, frame ∈ frames := by
  obtain ⟨rest, cut⟩ := reassembled.cut
  have handed : ∀ frame ∈ after.enqueued, frame ∈ frames := by
    intro frame member
    rw [cut.blocks_eq]
    exact List.mem_append_left _ member
  obtain ⟨fresh, whole⟩ := enqueued_prefix taken
  have new : after.enqueued.drop before.enqueued.length = fresh := by
    rw [← whole, List.drop_left]
  have all : accepted before after = fresh := by
    rw [accepted, new, List.filter_eq_self]
    intro frame member
    exact (areFrames frame (handed frame (whole ▸ List.mem_append_right _ member))).enqueued
  rw [all]
  exact ⟨whole, fun frame member => handed frame (whole ▸ List.mem_append_right _ member)⟩

theorem Reassembled.extend {frames further : List (List UInt8)} {delivered : List UInt8}
    {state : RecvState} (reassembled : Reassembled frames delivered state)
    (areFrames : ∀ frame ∈ further, IsFrame frame) :
    Reassembled (frames ++ further) delivered state := by
  obtain ⟨rest, cut⟩ := reassembled.cut
  exact { reassembled with
    cut := ⟨_, cut.extend fun frame member => (areFrames frame member).ne_nil⟩ }

/-! ## Steps -/

theorem frames_send (session moveTime : Nat) (request : ClientPacket) (other : Nat) :
    (intake.send session moveTime request).frames other =
      intake.frames other ++ if other = session then [request.frame moveTime] else [] := by
  simp only [frames, send, Function.update_apply]
  split
  · next same => rw [same, List.map_append, List.map_singleton]
  · rw [List.append_nil]

theorem incoming_send (session moveTime : Nat) (request : ClientPacket) (other : Nat) :
    (intake.send session moveTime request).incoming other =
      intake.incoming other ++ if other = session then request.frame moveTime else [] := by
  simp only [send, Function.update_apply]
  split
  · next same => rw [same]
  · rw [List.append_nil]

theorem Sound.send (sound : Sound intake) (session moveTime : Nat) (request : ClientPacket) :
    Sound (intake.send session moveTime request) where
  received other := by
    obtain ⟨delivered, reassembled, whole⟩ := sound.received other
    refine ⟨delivered, ?_, ?_⟩
    · rw [frames_send]
      apply Reassembled.extend reassembled
      split
      · intro frame member
        rw [List.mem_singleton.mp member]
        exact request.isFrame_frame moveTime
      · exact fun _ member => absurd member List.not_mem_nil
    · rw [frames_send, incoming_send, List.flatten_append, ← whole, List.append_assoc]
      split
      · rw [List.flatten_singleton]
      · rw [List.flatten_nil]
  queued := sound.queued
  booked := ⟨sound.booked.exclusive, sound.booked.pending⟩

/-- Whatever arrives, the complete frames are queued and the rest is kept. -/
theorem Sound.receive {bytes : Nat} {state : RecvState} (sound : Sound intake)
    (taken : Network.receive ((intake.incoming session).take bytes) (intake.sessions session) =
      some state) (route : Nat → Nat) :
    Sound (enqueueAll session (accepted (intake.sessions session) state) route
      (intake.store session bytes state)) := by
  obtain ⟨delivered, reassembled, whole⟩ := sound.received session
  have ahead : delivered ++ (intake.incoming session).take bytes <+:
      (intake.frames session).flatten := by
    rw [← whole]
    exact (List.prefix_append_right_inj _).mpr (List.take_prefix _ _)
  have after := reassembled.receive (intake.areFrames session) taken ahead
  obtain ⟨split, fresh⟩ := enqueued_accepted (intake.areFrames session) after taken
  obtain ⟨sent, incoming, sessions⟩ := enqueueAll_keeps session
    (accepted (intake.sessions session) state) route (intake.store session bytes state)
  constructor
  case received =>
    intro other
    rw [frames, sent, incoming, sessions]
    by_cases same : other = session
    · subst same
      refine ⟨delivered ++ (intake.incoming other).take bytes, ?_, ?_⟩
      · simp only [store, Function.update_self]
        exact after
      · simp only [store, Function.update_self]
        rw [List.append_assoc, List.take_append_drop]
        exact whole
    · simp only [store, Function.update_of_ne same]
      exact sound.received other
  case queued =>
    intro other
    rw [queuedOf_enqueueAll, sessions]
    have before := sound.queued other
    simp only [store, Function.update_apply]
    split
    · next same =>
      subst same
      rw [← split]
      exact congrArg (· ++ _) before
    · rw [List.append_nil]
      exact before
  case booked =>
    have stored : Booked (intake.store session bytes state) :=
      ⟨sound.booked.exclusive, sound.booked.pending⟩
    refine stored.enqueueAll session ?_ route
    intro frame member
    obtain ⟨entry, _, rfl⟩ := List.mem_map.mp (fresh frame member)
    exact ⟨entry.1, entry.2, rfl⟩

/-- The job that is taken is still the one that was queued. -/
theorem Booked.dispatch {job : DispatchJob} {pool : Pool Nat DispatchJob} (booked : Booked intake)
    (taken : intake.pool.take DispatchJob.release thread = some (job, pool)) :
    Booked { intake with
      pool := pool
      served := Function.update intake.served thread
        (intake.served thread ++ [job.request]) } := by
  obtain ⟨exclusive, first, others⟩ := booked.exclusive.take taken
  refine ⟨exclusive, fun other => ?_⟩
  have pending := booked.pending other
  by_cases same : other = thread
  · subst same
    rw [first, List.map_cons] at pending
    simp only [Function.update_self, List.append_assoc, List.singleton_append]
    exact pending
  · simp only [Function.update_of_ne same, others other same]
    exact pending

theorem Sound.step {label : IntakeLabel} (sound : Sound intake)
    (taken : Intake.step label intake = some next) : Sound next := by
  cases label with
  | send session moveTime request =>
      obtain rfl := Option.some.inj taken
      exact sound.send session moveTime request
  | receive session bytes route =>
      rcases Option.map_eq_some_iff.mp taken with ⟨state, received, rfl⟩
      exact sound.receive received route
  | dispatch thread =>
      rcases Option.map_eq_some_iff.mp taken with ⟨⟨job, pool⟩, first, rfl⟩
      exact ⟨sound.received, sound.queued, sound.booked.dispatch first⟩

/-! ## What is served -/

/-- The requests of a session that have been queued, in order. -/
def requestsOf (session : Nat) (intake : Intake) : List (Option (Nat × ClientPacket)) :=
  (intake.handed.filter fun handover => handover.session = session).map fun handover =>
    requestIn handover.session handover.frame

/-- The requests that a session has sent, as their structs keep them. -/
def sentBy (session : Nat) (intake : Intake) : List (Option (Nat × ClientPacket)) :=
  (intake.sent session).map fun entry => some (session, entry.2.kept)

/-- The queued jobs name the requests of the queued frames. -/
theorem requestsOf_eq (session : Nat) (intake : Intake) :
    intake.requestsOf session = (intake.queuedOf session).map (requestIn session) := by
  rw [requestsOf, queuedOf, List.map_map]
  apply List.map_congr_left
  intro handover member
  have own : handover.session = session := by simpa using List.of_mem_filter member
  rw [own]
  rfl

/-- A frame names the request it was made of. -/
theorem map_requestIn (session : Nat) (entries : List (Nat × ClientPacket)) :
    (entries.map fun entry => entry.2.frame entry.1).map (requestIn session) =
      entries.map fun entry => some (session, entry.2.kept) := by
  rw [List.map_map]
  apply List.map_congr_left
  intro entry _
  have bare := requestIn_frame session entry.1 entry.2 []
  rwa [List.append_nil] at bare

/-- The requests queued for a session are the first ones it has sent, and all of
them when nothing is on the way. -/
theorem Sound.requestsOf (sound : Sound intake) (session : Nat) :
    intake.requestsOf session <+: intake.sentBy session ∧
      (intake.incoming session = [] → intake.requestsOf session = intake.sentBy session) := by
  obtain ⟨delivered, reassembled, whole⟩ := sound.received session
  obtain ⟨rest, cut⟩ := reassembled.cut
  have all := map_requestIn session (intake.sent session)
  have parts := congrArg (List.map (requestIn session)) cut.blocks_eq
  rw [List.map_append, frames, all, ← sound.queued, ← requestsOf_eq] at parts
  refine ⟨⟨_, parts.symm⟩, fun nothing => ?_⟩
  rw [nothing, List.append_nil] at whole
  rw [cut.rest_eq_nil whole, List.map_nil, List.append_nil] at parts
  exact parts.symm

/-- How many requests of a session have arrived whole. -/
def arrivedOf (session : Nat) (intake : Intake) : Nat :=
  (wholeBlocks (intake.frames session)
    ((intake.frames session).flatten.length - (intake.incoming session).length)).length

/-- The requests queued for a session are those whose last byte has arrived. -/
theorem Sound.requestsOf_eq_take (sound : Sound intake) (session : Nat) :
    intake.requestsOf session = (intake.sentBy session).take (intake.arrivedOf session) := by
  obtain ⟨delivered, reassembled, whole⟩ := sound.received session
  obtain ⟨rest, cut⟩ := reassembled.cut
  have length : (intake.frames session).flatten.length - (intake.incoming session).length =
      delivered.length := by
    rw [← whole, List.length_append, Nat.add_sub_cancel]
  have queued : intake.queuedOf session =
      (intake.frames session).take (intake.arrivedOf session) := by
    rw [arrivedOf, length, ← cut.done_eq, sound.queued session]
    exact List.prefix_iff_eq_take.mp ⟨rest, cut.blocks_eq.symm⟩
  rw [requestsOf_eq, queued, List.map_take, frames, map_requestIn]
  rfl

/-- Everything queued is a request. -/
theorem Sound.request_isSome (sound : Sound intake) {handover : Handover}
    (member : handover ∈ intake.handed) :
    ∃ request, requestIn handover.session handover.frame = some (handover.session, request) := by
  have queued : requestIn handover.session handover.frame ∈ intake.requestsOf handover.session :=
    List.mem_map.mpr ⟨handover, List.mem_filter.mpr ⟨member, by simp⟩, rfl⟩
  have sent := (sound.requestsOf handover.session).1.subset queued
  obtain ⟨entry, _, same⟩ := List.mem_map.mp sent
  exact ⟨entry.2.kept, same.symm⟩

/-- The requests of one session among those a thread was given. -/
theorem Sound.filter_givenTo (sound : Sound intake)
    (routed : ∀ handover ∈ intake.handed, handover.session = session → handover.thread = thread) :
    (intake.givenTo thread).filter (fun request => request.map Prod.fst = some session) =
      intake.requestsOf session := by
  rw [givenTo, Intake.requestsOf, List.filter_map, List.filter_filter]
  congr 1
  apply List.filter_congr
  intro handover member
  obtain ⟨request, found⟩ := sound.request_isSome member
  have whose : (requestIn handover.session handover.frame).map Prod.fst = some handover.session := by
    rw [found, Option.map_some]
  simp only [Function.comp_apply, whose, Option.some.injEq]
  by_cases own : handover.session = session
  · simp [own, routed handover member own]
  · simp [own]

/-! ## Progress -/

/-- The next byte on the way can be received. -/
theorem Sound.receives (sound : Sound intake) (waiting : intake.incoming session ≠ [])
    (route : Nat → Nat) : ∃ state, Intake.step (.receive session 1 route) intake =
      some (enqueueAll session (accepted (intake.sessions session) state) route
        (intake.store session 1 state)) := by
  obtain ⟨_, reassembled, _⟩ := sound.received session
  have long := List.length_pos_iff.mpr waiting
  have positive := reassembled.positive
  have one : ((intake.incoming session).take 1).length = 1 := by
    rw [List.length_take]
    omega
  have stores : Network.receive ((intake.incoming session).take 1) (intake.sessions session) =
      some ((intake.sessions session).complete ((intake.incoming session).take 1)) :=
    if_pos ⟨reassembled.open_, by omega, by omega⟩
  exact ⟨_, Option.map_eq_some_iff.mpr ⟨_, stores, rfl⟩⟩

/-- Only the session's own frames are handed over. -/
theorem handed_enqueueAll {frames : List (List UInt8)} {route : Nat → Nat} {handover : Handover}
    (member : handover ∈ (intake.enqueueAll session frames route).handed) :
    handover ∈ intake.handed ∨ handover.session = session ∧
      ∃ index, handover.thread = route index := by
  induction frames generalizing route intake with
  | nil => exact .inl member
  | cons frame later ih =>
      rcases ih member with early | ⟨own, index, routed⟩
      · rcases List.mem_append.mp early with old | new
        · exact .inl old
        · rw [List.mem_singleton.mp new]
          exact .inr ⟨rfl, 0, rfl⟩
      · exact .inr ⟨own, index + 1, routed⟩

/-- Everything a session has on the way can be received and routed to a
thread. -/
theorem Sound.receivesAll (sound : Sound intake) (session thread : Nat) :
    ∃ labels next, (∀ other moveTime request, IntakeLabel.send other moveTime request ∉ labels) ∧
      run Intake.step labels intake = some next ∧ next.sent = intake.sent ∧
      next.incoming session = [] ∧ ∀ handover ∈ next.handed,
        handover ∈ intake.handed ∨ handover.session = session ∧ handover.thread = thread := by
  induction remaining : (intake.incoming session).length using Nat.strong_induction_on
    generalizing intake with
  | _ amount ih =>
    by_cases nothing : intake.incoming session = []
    · exact ⟨[], intake, by simp, rfl, rfl, nothing, fun _ member => .inl member⟩
    · obtain ⟨state, taken⟩ := sound.receives nothing fun _ => thread
      have kept := enqueueAll_keeps session (accepted (intake.sessions session) state)
        (fun _ => thread) (intake.store session 1 state)
      have fewer : (enqueueAll session (accepted (intake.sessions session) state) (fun _ => thread)
          (intake.store session 1 state)).incoming session = (intake.incoming session).drop 1 := by
        rw [kept.2.1]
        exact Function.update_self session _ intake.incoming
      have positive := List.length_pos_iff.mpr nothing
      obtain ⟨labels, last, silent, ran, sent, empty, handed⟩ :=
        ih _ (by rw [fewer, List.length_drop]; omega) (sound.step taken) rfl
      refine ⟨_ :: labels, last, ?_, run_cons_eq_some.mpr ⟨_, taken, ran⟩, sent.trans kept.1, empty,
        fun handover member => ?_⟩
      · intro other moveTime request member
        rcases List.mem_cons.mp member with impossible | later
        · contradiction
        · exact silent other moveTime request later
      · rcases handed handover member with early | new
        · rcases handed_enqueueAll early with old | ⟨own, _, routed⟩
          · exact .inl old
          · exact .inr ⟨own, routed⟩
        · exact .inr new

/-- Every queue can be emptied. -/
theorem Sound.dispatchesAll (sound : Sound intake) (thread : Nat) :
    ∃ labels next, (∀ other moveTime request, IntakeLabel.send other moveTime request ∉ labels) ∧
      run Intake.step labels intake = some next ∧ next.sent = intake.sent ∧
      next.incoming = intake.incoming ∧ next.handed = intake.handed ∧
      next.pool.contents thread = [] := by
  induction remaining : (intake.pool.contents thread).length generalizing intake with
  | zero => exact ⟨[], intake, by simp, rfl, rfl, rfl, rfl, List.length_eq_zero_iff.mp remaining⟩
  | succ amount ih =>
      have waiting : intake.pool.contents thread ≠ [] := by
        intro nothing
        rw [nothing] at remaining
        contradiction
      obtain ⟨⟨job, pool⟩, first⟩ := Option.isSome_iff_exists.mp
        (Pool.take_isSome DispatchJob.release waiting)
      have taken : Intake.step (.dispatch thread) intake = some { intake with
          pool := pool
          served := Function.update intake.served thread
            (intake.served thread ++ [job.request]) } :=
        Option.map_eq_some_iff.mpr ⟨(job, pool), first, rfl⟩
      have shorter := (sound.booked.exclusive.take first).2.1
      rw [shorter, List.length_cons] at remaining
      obtain ⟨labels, last, silent, ran, sent, incoming, handed, empty⟩ :=
        ih (sound.step taken) (Nat.succ.inj remaining)
      refine ⟨_ :: labels, last, ?_, run_cons_eq_some.mpr ⟨_, taken, ran⟩, sent, incoming, handed,
        empty⟩
      intro other moveTime request member
      rcases List.mem_cons.mp member with impossible | later
      · contradiction
      · exact silent other moveTime request later

/-- The requests that have arrived whole are queued; every request is served
once, by the thread it was queued for and in the order of the queue; requests that one thread gets are served in the order they
were sent; no session is closed, and what is on the way can be served. -/
structure Served (intake : Intake) : Prop where
  queued : ∀ session, intake.requestsOf session <+: intake.sentBy session ∧
    (intake.incoming session = [] → intake.requestsOf session = intake.sentBy session)
  arrived : ∀ session,
    intake.requestsOf session = (intake.sentBy session).take (intake.arrivedOf session)
  served : ∀ thread, intake.served thread ++
    (intake.pool.contents thread).map DispatchJob.request = intake.givenTo thread
  inOrder : ∀ session thread,
    (∀ handover ∈ intake.handed, handover.session = session → handover.thread = thread) →
    (intake.served thread).filter (fun request => request.map Prod.fst = some session) <+:
        intake.sentBy session ∧
      (intake.incoming session = [] → intake.pool.contents thread = [] →
        (intake.served thread).filter (fun request => request.map Prod.fst = some session) =
          intake.sentBy session)
  open_ : ∀ session, (intake.sessions session).disconnecting = false
  progress : ∀ session thread, ∃ labels next,
    (∀ other moveTime request, IntakeLabel.send other moveTime request ∉ labels) ∧
      run Intake.step labels intake = some next ∧ next.sent = intake.sent ∧
      next.incoming session = [] ∧ next.pool.contents thread = [] ∧
      ∀ handover ∈ next.handed,
        handover ∈ intake.handed ∨ handover.session = session ∧ handover.thread = thread

theorem Sound.served (sound : Sound intake) : Served intake where
  queued := sound.requestsOf
  arrived := sound.requestsOf_eq_take
  served := sound.booked.pending
  inOrder session thread routed := by
    have pending := sound.booked.pending thread
    have given := sound.filter_givenTo routed
    have queued := sound.requestsOf session
    rw [← pending, List.filter_append] at given
    refine ⟨?_, fun arrived idle => ?_⟩
    · exact (List.prefix_append _ _).trans (given ▸ queued.1)
    · rw [idle, List.map_nil, List.filter_nil, List.append_nil] at given
      rw [given, queued.2 arrived]
  open_ session := by
    obtain ⟨_, reassembled, _⟩ := sound.received session
    exact reassembled.open_
  progress session thread := by
    obtain ⟨labels, middle, silent, ran, sent, arrived, handed⟩ := sound.receivesAll session thread
    have kept := invariant_of_run (fun _ _ _ taken held => Sound.step held taken) ran sound
    obtain ⟨later, last, alsoSilent, ranLater, sentLater, incoming, same, empty⟩ :=
      kept.dispatchesAll thread
    refine ⟨labels ++ later, last, ?_, run_append_eq_some.mpr ⟨middle, ran, ranLater⟩,
      sentLater.trans sent, incoming ▸ arrived, empty, same ▸ handed⟩
    intro other moveTime request member
    rcases List.mem_append.mp member with early | late
    · exact silent other moveTime request early
    · exact alsoSilent other moveTime request late

/-- The way of the requests in every interleaving of sends, receives of any
size, routings and dispatches of all sessions and threads. -/
theorem requests_served {buffers : Nat → Buffer bufSize} {labels : List IntakeLabel}
    (ran : run Intake.step labels (start buffers) = some intake) : Served intake :=
  (invariant_of_run (fun _ _ _ taken sound => Sound.step sound taken) ran
    (start_sound buffers)).served

/-- Two requests of one session, served by one thread. -/
theorem requests_served_sample : ∃ labels intake,
    run Intake.step labels (start fun _ => Buffer.zero bufSize) = some intake ∧
      (intake.served 5).filter (fun request => request.map Prod.fst = some 1) =
        [some (1, .itemUseReq 4), some (1, .userMoveReq 2)] := by
  let sends : List IntakeLabel := [.send 1 0 (.itemUseReq 4), .send 1 77 (.userMoveReq 2)]
  obtain ⟨sent, ran⟩ : ∃ sent, run Intake.step sends (start fun _ => Buffer.zero bufSize) =
      some sent := ⟨_, rfl⟩
  obtain ⟨labels, last, _, ranLater, same, arrived, empty, handed⟩ :=
    (requests_served ran).progress 1 5
  have whole := run_append_eq_some.mpr ⟨sent, ran, ranLater⟩
  obtain rfl := Option.some.inj ran
  refine ⟨_, last, whole, ?_⟩
  rw [((requests_served whole).inOrder 1 5 ?_).2 arrived empty, sentBy, same]
  · decide
  · intro handover member _
    rcases handed handover member with old | new
    · exact absurd old List.not_mem_nil
    · exact new.2

end Intake

end Network

end Mmorpg
