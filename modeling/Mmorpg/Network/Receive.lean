import Mmorpg.Network.Buffer
import Mmorpg.Object.Core
import Mmorpg.Transition.Blocks
import Mmorpg.Transition.Run

/-!
# Reassembling packets from the receive stream

The `IO_RECV` branch of `WorkerThread::DoWork` with `GameSession::PostRecv` and
`RecvContext::Prepare`, on bytes.  The tail of an incomplete packet is moved to
the start of the buffer; where the source copies overlapping memory the move is
meant.
-/

namespace Mmorpg

open Transition

namespace Network

/-! ## Sizes -/

/-- `BUFSIZE`, the room for one `WSARecv`. -/
def bufSize : Nat := 1024

/-- `NAME_SIZE`. -/
def nameSize : Nat := 20

/-- `PASSWORD_SIZE`. -/
def passwordSize : Nat := 20

/-- Size and type byte in front of every packet. -/
def headerSize : Nat := 3

/-- The sizes of the packed client packets, in the order of the source. -/
def clientPacketSizes : List Nat :=
  [headerSize + nameSize + passwordSize, headerSize + 1 + 4, headerSize + 1, headerSize,
    headerSize + 2 + 2, headerSize, headerSize + chatSize, headerSize + 2, headerSize + 2,
    headerSize + 2 + 2, headerSize + 2 + 2, headerSize, headerSize + 2]

/-- `MAX_CLIENT_PACKET_SIZE`. -/
def maxClientPacketSize : Nat :=
  clientPacketSizes.foldl max 0

/-! ## The receive side of a session -/

/-- `RecvContext` and the receive fields of its session.  `enqueued` lists the
packets given to `EnqueuePacketDispatch` so far. -/
structure RecvState where
  buffer : Buffer bufSize
  wsaOffset : Nat
  wsaLen : Nat
  pendingRecvBytes : Nat
  enqueued : List (List UInt8)
  disconnecting : Bool

/-- `RecvContext::Prepare`, called by `PostRecv` with the pending bytes; the
length is a 32-bit difference. -/
def RecvState.postRecv (state : RecvState) : RecvState :=
  { state with
    wsaOffset := state.pendingRecvBytes
    wsaLen := (bufSize + 4294967296 - state.pendingRecvBytes) % 4294967296 }

/-- A new session that waits for its first bytes. -/
def RecvState.start (buffer : Buffer bufSize) : RecvState :=
  RecvState.postRecv
    { buffer := buffer
      wsaOffset := 0
      wsaLen := 0
      pendingRecvBytes := 0
      enqueued := []
      disconnecting := false }

/-- What `EnqueuePacketDispatch` returns for a packet of an open session. -/
def enqueuePacketDispatch (packetSize : Nat) : Bool :=
  !(packetSize = 0 ∨ packetSize > maxClientPacketSize)

/-- Where the packet loop stops. -/
structure RecvPass where
  p : Nat
  remainData : Nat
  enqueued : List (List UInt8)
  shouldDisconnect : Bool

/-- The packet loop of the branch. -/
def recvLoop (buffer : List UInt8) (p remainData : Nat) (enqueued : List (List UInt8)) :
    RecvPass :=
  if remainData > 0 then
    if remainData < 2 then
      ⟨p, remainData, enqueued, false⟩
    else
      let packetSize := Buffer.readUInt16 p buffer
      if packetSize = 0 then
        ⟨p, remainData, enqueued, false⟩
      else if packetSize > remainData then
        ⟨p, remainData, enqueued, false⟩
      else
        let handed := enqueued ++ [(buffer.drop p).take packetSize]
        if enqueuePacketDispatch packetSize = false then
          ⟨p, remainData, handed, true⟩
        else
          recvLoop buffer (p + packetSize) (remainData - packetSize) handed
  else
    ⟨p, remainData, enqueued, false⟩
termination_by remainData
decreasing_by exact Nat.sub_lt ‹_› (Nat.pos_of_ne_zero ‹_›)

/-- The completion of a receive that stored `chunk` in the posted part of the
buffer. -/
def RecvState.complete (chunk : List UInt8) (state : RecvState) : RecvState :=
  let stored := state.buffer.copyAt state.wsaOffset chunk
  let pass := recvLoop stored.bytes 0 (chunk.length + state.pendingRecvBytes) state.enqueued
  if pass.shouldDisconnect then
    { state with buffer := stored, enqueued := pass.enqueued, disconnecting := true }
  else
    RecvState.postRecv
      { state with
        buffer :=
          if pass.remainData > 0 then
            stored.copyAt 0 ((stored.bytes.drop pass.p).take pass.remainData)
          else stored
        pendingRecvBytes := pass.remainData
        enqueued := pass.enqueued }

/-- The socket reports one completion: at least one byte and at most as many
as were asked for, while the session is open. -/
def receive (chunk : List UInt8) (state : RecvState) : Option RecvState :=
  if state.disconnecting = false ∧ 1 ≤ chunk.length ∧ chunk.length ≤ state.wsaLen then
    some (state.complete chunk)
  else none

/-- The bytes kept for the next completion. -/
def RecvState.retained (state : RecvState) : List UInt8 :=
  state.buffer.bytes.take state.pendingRecvBytes

/-! ## The loop on a stream of frames -/

/-- A client frame: its first two bytes are its length. -/
structure IsFrame (frame : List UInt8) : Prop where
  header : headerSize ≤ frame.length
  bounded : frame.length ≤ maxClientPacketSize
  size : Buffer.readUInt16 0 frame = frame.length

theorem maxClientPacketSize_eq : maxClientPacketSize = 131 := by
  decide

theorem IsFrame.ne_nil {frame : List UInt8} (isFrame : IsFrame frame) : frame ≠ [] := by
  have long : 3 ≤ frame.length := isFrame.header
  rintro rfl
  simp at long

/-- Legal frames pass the check of `EnqueuePacketDispatch`. -/
theorem IsFrame.enqueued {frame : List UInt8} (isFrame : IsFrame frame) :
    enqueuePacketDispatch frame.length = true := by
  have long : 3 ≤ frame.length := isFrame.header
  have bounded := isFrame.bounded
  simp only [enqueuePacketDispatch, Bool.not_eq_true', decide_eq_false_iff_not]
  omega

/-- Before a frame is complete the loop stops. -/
theorem recvLoop_of_incomplete {buffer frame data : List UInt8} {p : Nat}
    (enqueued : List (List UInt8)) (isFrame : IsFrame frame) (within : data <+: buffer.drop p)
    (start : data <+: frame) (short : data.length < frame.length) :
    recvLoop buffer p data.length enqueued = ⟨p, data.length, enqueued, false⟩ := by
  rw [recvLoop]
  by_cases some : data.length > 0
  · rw [if_pos some]
    by_cases one : data.length < 2
    · rw [if_pos one]
    · have size : Buffer.readUInt16 p buffer = frame.length := by
        rw [← Buffer.readUInt16_drop, ← Buffer.readUInt16_of_prefix within (by omega),
          Buffer.readUInt16_of_prefix start (by omega), isFrame.size]
      rw [if_neg one]
      simp only [size]
      rw [if_neg (by omega), if_pos (by omega)]
  · rw [if_neg some]

/-- A complete frame is handed on, and the loop goes on behind it. -/
theorem recvLoop_of_complete {buffer frame data : List UInt8} {p : Nat}
    (enqueued : List (List UInt8)) (isFrame : IsFrame frame)
    (within : frame ++ data <+: buffer.drop p) :
    recvLoop buffer p (frame ++ data).length enqueued =
      recvLoop buffer (p + frame.length) data.length (enqueued ++ [frame]) := by
  have header : 3 ≤ frame.length := isFrame.header
  have here : frame <+: buffer.drop p := (List.prefix_append frame data).trans within
  have size : Buffer.readUInt16 p buffer = frame.length := by
    rw [← Buffer.readUInt16_drop, ← Buffer.readUInt16_of_prefix here (by omega), isFrame.size]
  have bytes : (buffer.drop p).take frame.length = frame :=
    (List.prefix_iff_eq_take.mp here).symm
  rw [List.length_append, recvLoop, if_pos (by omega), if_neg (by omega)]
  simp only [size, bytes]
  rw [if_neg (by omega), if_neg (by omega), if_neg (by simp [isFrame.enqueued]),
    Nat.add_sub_cancel_left]

/-- The loop hands on exactly the frames that are complete in the buffer. -/
theorem recvLoop_cut {frames : List (List UInt8)} (areFrames : ∀ frame ∈ frames, IsFrame frame)
    {buffer data : List UInt8} {p : Nat} (enqueued : List (List UInt8))
    (within : data <+: buffer.drop p) (stream : data <+: frames.flatten) :
    ∃ done rest tail, Cut frames done rest data tail ∧
      recvLoop buffer p data.length enqueued =
        ⟨p + done.flatten.length, tail.length, enqueued ++ done, false⟩ := by
  induction frames generalizing data p enqueued with
  | nil =>
      obtain rfl : data = [] := by simpa using stream
      refine ⟨[], [], [], Cut.start (by simp), ?_⟩
      rw [List.length_nil, recvLoop]
      simp
  | cons frame later ih =>
      have isFrame := areFrames frame List.mem_cons_self
      rw [List.flatten_cons] at stream
      by_cases complete : frame.length ≤ data.length
      · obtain ⟨beyond, rfl⟩ := List.prefix_of_prefix_length_le (List.prefix_append frame _) stream
          complete
        have beyondWithin : beyond <+: buffer.drop (p + frame.length) := by
          obtain ⟨unread, same⟩ := within
          rw [← List.drop_drop, ← same, List.append_assoc, List.drop_left]
          exact List.prefix_append beyond unread
        obtain ⟨done, rest, tail, cut, stops⟩ :=
          ih (fun other member => areFrames other (List.mem_cons_of_mem _ member))
            (enqueued ++ [frame]) beyondWithin ((List.prefix_append_right_inj frame).mp stream)
        refine ⟨frame :: done, rest, tail, cut.cons, ?_⟩
        rw [recvLoop_of_complete enqueued isFrame within, stops, List.flatten_cons,
          List.length_append, List.append_assoc, List.singleton_append, Nat.add_assoc]
      · have short := Nat.not_le.mp complete
        have start : data <+: frame :=
          List.prefix_of_prefix_length_le stream (List.prefix_append frame _) short.le
        refine ⟨[], frame :: later, data, ?_, ?_⟩
        · exact {
            blocks_eq := rfl
            stream_eq := rfl
            tail_prefix := by
              rw [List.flatten_cons]
              exact stream
            incomplete := by
              rintro block ⟨⟩
              exact short }
        · rw [recvLoop_of_incomplete enqueued isFrame within start short]
          simp

/-! ## The buffer of one completion -/

/-- The retained bytes and the chunk stand at the start of the buffer. -/
theorem RecvState.prefix_stored {state : RecvState} {chunk : List UInt8}
    (posted : state.wsaOffset = state.pendingRecvBytes)
    (room : state.pendingRecvBytes + chunk.length ≤ bufSize) :
    state.retained ++ chunk <+: (state.buffer.copyAt state.wsaOffset chunk).bytes := by
  rw [posted, RecvState.retained, ← state.buffer.take_copyAt room]
  exact List.take_prefix _ _

/-- A completion whose loop stops at `tail` keeps `tail` and posts the next
receive behind it. -/
theorem RecvState.complete_eq {state : RecvState} {chunk front tail : List UInt8}
    {handed : List (List UInt8)} (pending : state.retained.length = state.pendingRecvBytes)
    (posted : state.wsaOffset = state.pendingRecvBytes)
    (room : state.pendingRecvBytes + chunk.length ≤ bufSize)
    (split : state.retained ++ chunk = front ++ tail)
    (stops : recvLoop (state.buffer.copyAt state.wsaOffset chunk).bytes 0
      (state.retained ++ chunk).length state.enqueued =
        ⟨front.length, tail.length, handed, false⟩) :
    ∃ kept : RecvState, state.complete chunk = kept.postRecv ∧ kept.retained = tail ∧
      kept.pendingRecvBytes = tail.length ∧ kept.enqueued = handed ∧
      kept.disconnecting = state.disconnecting := by
  let stored := state.buffer.copyAt state.wsaOffset chunk
  have remaining : chunk.length + state.pendingRecvBytes = (state.retained ++ chunk).length := by
    rw [List.length_append, pending, Nat.add_comm]
  have short : tail.length ≤ bufSize := by
    have longer := congrArg List.length split
    rw [List.length_append, List.length_append, pending] at longer
    omega
  have unread : (stored.bytes.drop front.length).take tail.length = tail := by
    obtain ⟨beyond, same⟩ := state.prefix_stored posted room
    rw [← same, split, List.append_assoc, List.drop_left, List.take_left]
  have retained : (if tail.length > 0 then stored.copyAt 0 tail else stored).bytes.take
      tail.length = tail := by
    split
    · exact Buffer.take_copyAt_zero _ short
    · next none_ =>
      obtain rfl : tail = [] := List.length_eq_zero_iff.mp (Nat.le_zero.mp (Nat.not_lt.mp none_))
      rfl
  simp only [stored] at unread retained
  simp only [RecvState.complete, remaining, stops, unread]
  exact ⟨_, rfl, retained, rfl, rfl, rfl⟩

/-! ## One completion -/

/-- After the bytes `delivered` the complete frames have been handed on, the
buffer starts with the bytes of the next one, and the receive is posted behind
them. -/
structure Reassembled (frames : List (List UInt8)) (delivered : List UInt8) (state : RecvState) :
    Prop where
  cut : ∃ rest, Cut frames state.enqueued rest delivered state.retained
  pending : state.retained.length = state.pendingRecvBytes
  open_ : state.disconnecting = false
  posted : state.wsaOffset = state.pendingRecvBytes
  length : state.wsaLen = bufSize - state.pendingRecvBytes
  positive : 0 < state.wsaLen

variable {frames : List (List UInt8)} {state : RecvState}

/-- A proper beginning of a frame leaves room in the buffer. -/
theorem tail_lt_bufSize (areFrames : ∀ frame ∈ frames, IsFrame frame)
    {done rest : List (List UInt8)} {stream tail : List UInt8}
    (cut : Cut frames done rest stream tail) : tail.length < bufSize := by
  have limit : maxClientPacketSize < bufSize := by decide
  cases restOf : rest with
  | nil =>
      obtain rfl : tail = [] := by simpa [restOf] using cut.tail_prefix
      exact Nat.lt_of_le_of_lt (Nat.zero_le _) limit
  | cons frame later =>
      have member : frame ∈ frames := by
        rw [cut.blocks_eq, restOf]
        exact List.mem_append_right _ List.mem_cons_self
      have short := cut.incomplete frame (by rw [restOf, List.head?_cons])
      have bounded := (areFrames frame member).bounded
      omega

/-- Posting the next receive behind a proper beginning of a frame. -/
theorem Reassembled.of_cut (areFrames : ∀ frame ∈ frames, IsFrame frame)
    {rest : List (List UInt8)} {delivered : List UInt8} (openState : state.disconnecting = false)
    (pending : state.retained.length = state.pendingRecvBytes)
    (cut : Cut frames state.enqueued rest delivered state.retained) :
    Reassembled frames delivered state.postRecv := by
  have room := tail_lt_bufSize areFrames cut
  have length : state.postRecv.wsaLen = bufSize - state.pendingRecvBytes := by
    simp only [RecvState.postRecv, bufSize] at room ⊢
    omega
  have positive : 0 < state.postRecv.wsaLen := by
    rw [length]
    omega
  exact ⟨⟨rest, cut⟩, pending, openState, rfl, length, positive⟩

theorem start_reassembled (areFrames : ∀ frame ∈ frames, IsFrame frame)
    (buffer : Buffer bufSize) : Reassembled frames [] (RecvState.start buffer) :=
  .of_cut areFrames rfl rfl (Cut.start fun frame member => (areFrames frame member).ne_nil)

/-- The packet loop, and with it a whole completion, keeps the cut. -/
theorem Reassembled.complete (areFrames : ∀ frame ∈ frames, IsFrame frame)
    {delivered chunk : List UInt8} (inv : Reassembled frames delivered state)
    (fits : chunk.length ≤ state.wsaLen) (stream : delivered ++ chunk <+: frames.flatten) :
    Reassembled frames (delivered ++ chunk) (state.complete chunk) := by
  obtain ⟨rest, cut⟩ := inv.cut
  have room : state.pendingRecvBytes + chunk.length ≤ bufSize := by
    have positive := inv.positive
    rw [inv.length] at fits positive
    omega
  have within : state.retained ++ chunk <+:
      (state.buffer.copyAt state.wsaOffset chunk).bytes.drop 0 :=
    state.prefix_stored inv.posted room
  have ahead : state.retained ++ chunk <+: rest.flatten := by
    rw [cut.stream_eq, cut.blocks_eq, List.flatten_append, List.append_assoc] at stream
    exact (List.prefix_append_right_inj _).mp stream
  have restFrames : ∀ frame ∈ rest, IsFrame frame := by
    intro frame member
    apply areFrames
    rw [cut.blocks_eq]
    exact List.mem_append_right _ member
  obtain ⟨more, later, tail, again, stops⟩ :=
    recvLoop_cut restFrames state.enqueued within ahead
  rw [Nat.zero_add] at stops
  obtain ⟨kept, completed, retained, pending, handed, stillOpen⟩ :=
    RecvState.complete_eq inv.pending inv.posted room again.stream_eq stops
  rw [completed]
  apply Reassembled.of_cut areFrames
  · rw [stillOpen, inv.open_]
  · rw [retained, pending]
  · rw [handed, retained]
    exact cut.append again

/-- One receive takes the complete frames and keeps the rest. -/
theorem Reassembled.receive (areFrames : ∀ frame ∈ frames, IsFrame frame)
    {delivered chunk : List UInt8} {next : RecvState} (inv : Reassembled frames delivered state)
    (taken : receive chunk state = some next) (stream : delivered ++ chunk <+: frames.flatten) :
    Reassembled frames (delivered ++ chunk) next := by
  rw [Network.receive] at taken
  split at taken
  · next allowed =>
    obtain rfl := Option.some.inj taken
    exact inv.complete areFrames allowed.2.2 stream
  · contradiction

/-! ## All completions -/

theorem Reassembled.run (areFrames : ∀ frame ∈ frames, IsFrame frame)
    {chunks : List (List UInt8)} {delivered : List UInt8} {final : RecvState}
    (inv : Reassembled frames delivered state)
    (ran : Transition.run Network.receive chunks state = some final)
    (stream : delivered ++ chunks.flatten <+: frames.flatten) :
    Reassembled frames (delivered ++ chunks.flatten) final := by
  induction chunks generalizing state delivered with
  | nil =>
      obtain rfl := Option.some.inj ran
      simpa using inv
  | cons chunk later ih =>
      obtain ⟨next, taken, ranLater⟩ := run_cons_eq_some.mp ran
      rw [List.flatten_cons, ← List.append_assoc] at stream ⊢
      have step := inv.receive areFrames taken ((List.prefix_append _ _).trans stream)
      exact ih step ranLater stream

/-- Whatever way a stream of frames is cut into completions, each frame is
handed on once, in order, when its last byte has arrived, and the buffer starts
with the bytes of the frame still to come. -/
theorem reassembly_exact (areFrames : ∀ frame ∈ frames, IsFrame frame) (buffer : Buffer bufSize)
    (chunks : List (List UInt8)) (ran : run receive chunks (RecvState.start buffer) = some state)
    (stream : chunks.flatten <+: frames.flatten) :
    Reassembled frames chunks.flatten state ∧
      (chunks.flatten = frames.flatten → state.enqueued = frames ∧ state.pendingRecvBytes = 0) := by
  have inv := (start_reassembled areFrames buffer).run areFrames ran stream
  rw [List.nil_append] at inv
  refine ⟨inv, fun all => ?_⟩
  obtain ⟨rest, cut⟩ := inv.cut
  have nothing := cut.rest_eq_nil all
  subst nothing
  have retained : state.retained = [] := by simpa using cut.tail_prefix
  have handed := cut.blocks_eq
  rw [List.append_nil] at handed
  exact ⟨handed.symm, by rw [← inv.pending, retained, List.length_nil]⟩

/-- A completion that leaves room for the longest frame is always possible. -/
theorem reassembly_completes (areFrames : ∀ frame ∈ frames, IsFrame frame)
    {chunks : List (List UInt8)} {delivered : List UInt8}
    (inv : Reassembled frames delivered state)
    (sized : ∀ chunk ∈ chunks, 1 ≤ chunk.length ∧ chunk.length ≤ bufSize - maxClientPacketSize)
    (stream : delivered ++ chunks.flatten <+: frames.flatten) :
    ∃ final, run receive chunks state = some final := by
  induction chunks generalizing state delivered with
  | nil => exact ⟨state, rfl⟩
  | cons chunk later ih =>
      obtain ⟨rest, cut⟩ := inv.cut
      have size := sized chunk List.mem_cons_self
      have enough : chunk.length ≤ state.wsaLen := by
        have kept : state.retained.length ≤ maxClientPacketSize := by
          cases restOf : rest with
          | nil => simp [show state.retained = [] by simpa [restOf] using cut.tail_prefix]
          | cons frame others =>
              have short := cut.incomplete frame (by rw [restOf, List.head?_cons])
              have member : frame ∈ frames := by
                rw [cut.blocks_eq, restOf]
                exact List.mem_append_right _ List.mem_cons_self
              exact short.le.trans (areFrames frame member).bounded
        rw [inv.pending] at kept
        rw [inv.length]
        omega
      have taken : receive chunk state = some (state.complete chunk) :=
        if_pos ⟨inv.open_, size.1, enough⟩
      rw [List.flatten_cons, ← List.append_assoc] at stream
      have step := inv.receive areFrames taken ((List.prefix_append _ _).trans stream)
      obtain ⟨final, ran⟩ := ih step (fun other member => sized other (List.mem_cons_of_mem _ member))
        stream
      exact ⟨final, run_cons_eq_some.mpr ⟨_, taken, ran⟩⟩

/-- A pickup and an attack, cut inside both headers. -/
theorem reassembly_exact_two_frames :
    ∃ state, run receive [[3], [0, 9, 4], [0, 2, 1]] (RecvState.start (Buffer.zero bufSize)) =
        some state ∧
      state.enqueued = [[3, 0, 9], [4, 0, 2, 1]] ∧ state.pendingRecvBytes = 0 := by
  have areFrames : ∀ frame ∈ [[3, 0, 9], [4, 0, 2, 1]], IsFrame frame := by
    simp only [List.mem_cons, List.not_mem_nil, or_false]
    rintro frame (rfl | rfl) <;> exact ⟨by decide, by decide, by decide⟩
  obtain ⟨state, ran⟩ : ∃ state, run receive [[3], [0, 9, 4], [0, 2, 1]]
      (RecvState.start (Buffer.zero bufSize)) = some state :=
    reassembly_completes areFrames (start_reassembled areFrames (Buffer.zero bufSize)) (by decide)
      (by decide)
  exact ⟨state, ran, (reassembly_exact areFrames _ _ ran (by decide)).2 rfl⟩

end Network

end Mmorpg
