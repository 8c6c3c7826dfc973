import Mmorpg.Network.Receive
import Mmorpg.Object.Core

/-!
# The batched send path

`PostSend`, `SubmitSendBatchImpl` and `HandleSendCompletion` of a session with
an open socket that accepts every submission.  Each of them holds the session
lock, so an interleaving is a sequence of whole calls.
-/

namespace Mmorpg

open Transition

namespace Network

/-! ## Sizes -/

/-- `sizeof(ObjID)`. -/
def objIdSize : Nat := 16

/-- `sizeof(ITEM_SLOT_DATA)`. -/
def itemSlotDataSize : Nat := 7

/-- `SEND_BATCH_BUFFER_SIZE`, the room for one `WSASend`. -/
def sendBatchBufferSize : Nat := 4096

/-- The sizes of the packed server packets, in the order of
`ServerPacketSizeDetail`. -/
def serverPacketSizes : List Nat :=
  [ headerSize + objIdSize + 13,
    headerSize,
    headerSize + 1 + objIdSize + 4 + nameSize + 2,
    headerSize + objIdSize,
    headerSize + objIdSize + 8,
    headerSize + objIdSize + 2,
    headerSize + 1 + objIdSize + 6 + nameSize,
    headerSize + objIdSize + 8,
    headerSize + objIdSize + objIdSize + 4,
    headerSize + 4,
    headerSize + 9,
    headerSize + objIdSize + 1,
    headerSize + objIdSize + chatSize,
    headerSize + 1 + maxInventorySlots * itemSlotDataSize,
    headerSize + 1 + itemSlotDataSize,
    headerSize + 1 + itemSlotDataSize,
    headerSize + 1 + itemSlotDataSize + itemSlotDataSize,
    headerSize + itemSlotDataSize,
    headerSize + 10,
    headerSize + 1 + itemSlotDataSize,
    headerSize + 1,
    headerSize + objIdSize + 2,
    headerSize + 1 + itemSlotDataSize ]

/-- `MAX_SERVER_PACKET_SIZE`. -/
def maxServerPacketSize : Nat :=
  serverPacketSizes.foldl max 0

/-! ## Queued packets -/

/-- `PendingSendPacket`.  The bounds keep the 16-bit fields exact. -/
structure PendingSendPacket where
  size : Nat
  offset : Nat
  buffer : Buffer maxServerPacketSize
  size_le : size ≤ maxServerPacketSize
  offset_le : offset ≤ size

namespace PendingSendPacket

/-- `Assign`; `none` is a failed assertion. -/
def assign (packet : List UInt8) : Option PendingSendPacket :=
  if fits : packet.length ≤ maxServerPacketSize then
    some
      { size := packet.length
        offset := 0
        buffer := (Buffer.zero maxServerPacketSize).copyAt 0 packet
        size_le := fits
        offset_le := Nat.zero_le _ }
  else none

/-- The bytes of a packet that are not yet sent. -/
def remainingSize (packet : PendingSendPacket) : Nat :=
  packet.size - packet.offset

/-- The `RemainingSize()` bytes from `Data()` on. -/
def data (packet : PendingSendPacket) : List UInt8 :=
  (packet.buffer.bytes.drop packet.offset).take packet.remainingSize

/-- `Consume`; `none` is a failed assertion. -/
def consume (bytes : Nat) (packet : PendingSendPacket) : Option PendingSendPacket :=
  if within : bytes ≤ packet.remainingSize then
    some
      { packet with
        offset := packet.offset + bytes
        offset_le := by
          have bounded := packet.offset_le
          simp only [remainingSize] at within
          omega }
  else none

end PendingSendPacket

/-! ## The send context -/

/-- `SendContext`; the length of the `WSABUF` is `bytes`. -/
structure SendContext where
  buffer : Buffer sendBatchBufferSize
  bytes : Nat
  packetCount : Nat

namespace SendContext

/-- An empty batch. -/
def resetPayload (context : SendContext) : SendContext :=
  { context with bytes := 0, packetCount := 0 }

/-- `AppendPacket`; `none` is the result `false`. -/
def appendPacket (packet : List UInt8) (context : SendContext) : Option SendContext :=
  if packet.length = 0 ∨ context.bytes + packet.length > sendBatchBufferSize then
    none
  else
    some
      { buffer := context.buffer.copyAt context.bytes packet
        bytes := context.bytes + packet.length
        packetCount := context.packetCount + 1 }

/-- The loop over the queue, up to the first packet that does not fit. -/
def appendPackets : List PendingSendPacket → SendContext → SendContext
  | [], context => context
  | pending :: rest, context =>
      match context.appendPacket pending.data with
      | none => context
      | some appended => appendPackets rest appended

/-- What the `WSABUF` describes. -/
def batch (context : SendContext) : List UInt8 :=
  context.buffer.bytes.take context.bytes

end SendContext

/-! ## The session -/

/-- The send fields of an open session, with the batches the socket has not
completed, the packets posted so far and the bytes completed so far. -/
structure SendState where
  queue : List PendingSendPacket
  context : SendContext
  sendInFlight : Bool
  outstanding : List (List UInt8)
  posted : List (List UInt8)
  completed : List UInt8

namespace SendState

/-- Nothing posted and nothing under way. -/
def start (buffer : Buffer sendBatchBufferSize) : SendState where
  queue := []
  context := { buffer := buffer, bytes := 0, packetCount := 0 }
  sendInFlight := false
  outstanding := []
  posted := []
  completed := []

/-- `SubmitSendBatchImpl`, with its result; `WSASend` accepts the batch. -/
def submitSendBatchImpl (state : SendState) : Bool × SendState :=
  if state.sendInFlight then
    (true, state)
  else if state.queue = [] then
    (true, state)
  else
    let filled := state.context.resetPayload.appendPackets state.queue
    if filled.packetCount = 0 then
      (false, { state with context := filled })
    else
      (true,
        { state with
          context := filled
          sendInFlight := true
          outstanding := state.outstanding ++ [filled.batch] })

/-- Submitting neither posts nor completes. -/
theorem submitSendBatchImpl_logs (state : SendState) :
    state.submitSendBatchImpl.2.posted = state.posted ∧
      state.submitSendBatchImpl.2.completed = state.completed := by
  rw [submitSendBatchImpl]
  split
  · exact ⟨rfl, rfl⟩
  · split
    · exact ⟨rfl, rfl⟩
    · dsimp only
      split <;> exact ⟨rfl, rfl⟩

/-- `PostSend`; an outer `none` is a failed assertion. -/
def postSend (packet : List UInt8) (state : SendState) : Option (Bool × SendState) :=
  match PendingSendPacket.assign packet with
  | none => none
  | some pending =>
      let queued :=
        { state with queue := state.queue ++ [pending], posted := state.posted ++ [packet] }
      if queued.sendInFlight then some (true, queued) else some queued.submitSendBatchImpl

/-- The loop of `HandleSendCompletion`: the queue it leaves and whether it got
through.  An outer `none` is a failed assertion. -/
def consumeQueue (remainingToConsume : Nat) :
    List PendingSendPacket → Option (Bool × List PendingSendPacket)
  | [] => some (remainingToConsume = 0, [])
  | pending :: rest =>
      if remainingToConsume > 0 then
        if remainingToConsume < pending.remainingSize then
          (pending.consume remainingToConsume).map fun consumed => (true, consumed :: rest)
        else
          consumeQueue (remainingToConsume - pending.remainingSize) rest
      else
        some (true, pending :: rest)

/-- `HandleSendCompletion`, with its result; an outer `none` is a failed
assertion. -/
def handleSendCompletion (bytesTransferred : Nat) (state : SendState) :
    Option (Bool × SendState) :=
  if bytesTransferred > state.context.bytes then
    some (false, state)
  else
    match consumeQueue bytesTransferred state.queue with
    | none => none
    | some (false, rest) => some (false, { state with queue := rest })
    | some (true, rest) =>
        let freed :=
          { state with
            queue := rest
            context := state.context.resetPayload
            sendInFlight := false }
        if freed.queue = [] then some (true, freed) else some freed.submitSendBatchImpl

end SendState

/-- A `PostSend`, or the completion of a batch with the given number of
bytes. -/
inductive SendLabel
  | post (packet : List UInt8)
  | complete (bytesTransferred : Nat)
  deriving DecidableEq, Repr

/-- One call.  The socket completes the oldest batch, with between one byte
and all of it. -/
def sendStep (label : SendLabel) (state : SendState) : Option SendState :=
  match label with
  | .post packet =>
      if 1 ≤ packet.length ∧ packet.length ≤ maxServerPacketSize then
        (state.postSend packet).map Prod.snd
      else none
  | .complete bytesTransferred =>
      match state.outstanding with
      | [] => none
      | batch :: later =>
          if 1 ≤ bytesTransferred ∧ bytesTransferred ≤ batch.length then
            ({ state with
                outstanding := later
                completed := state.completed ++ batch.take bytesTransferred }
              |>.handleSendCompletion bytesTransferred).map Prod.snd
          else none

/-! ## What was posted -/

/-- The packet of a `PostSend`. -/
def SendLabel.packet : SendLabel → Option (List UInt8)
  | post packet => some packet
  | complete _ => none

/-- A post adds a packet and completes nothing. -/
theorem post_logs {packet : List UInt8} {sender next : SendState}
    (taken : sendStep (.post packet) sender = some next) :
    next.posted = sender.posted ++ [packet] ∧ next.completed = sender.completed := by
  rw [sendStep] at taken
  split at taken
  · rcases Option.map_eq_some_iff.mp taken with ⟨⟨result, _⟩, ran, rfl⟩
    rw [SendState.postSend] at ran
    split at ran
    · contradiction
    · dsimp only at ran
      split at ran
      · cases ran
        exact ⟨rfl, rfl⟩
      · have logs := SendState.submitSendBatchImpl_logs
        next pending _ _ =>
        have same := logs
          { sender with queue := sender.queue ++ [pending], posted := sender.posted ++ [packet] }
        rw [Option.some.inj ran] at same
        exact same
  · contradiction

/-- A completion posts nothing and changes no completed byte itself. -/
theorem handleSendCompletion_logs {bytesTransferred : Nat} {sender next : SendState} {done : Bool}
    (handled : sender.handleSendCompletion bytesTransferred = some (done, next)) :
    next.posted = sender.posted ∧ next.completed = sender.completed := by
  rw [SendState.handleSendCompletion] at handled
  split at handled
  · cases handled
    exact ⟨rfl, rfl⟩
  · split at handled
    · contradiction
    · cases handled
      exact ⟨rfl, rfl⟩
    · next rest _ =>
      dsimp only at handled
      split at handled
      · cases handled
        exact ⟨rfl, rfl⟩
      · have same := SendState.submitSendBatchImpl_logs
          { sender with
            queue := rest, context := sender.context.resetPayload, sendInFlight := false }
        rw [Option.some.inj handled] at same
        exact same

/-- A completion posts nothing and completes more bytes. -/
theorem complete_logs {bytesTransferred : Nat} {sender next : SendState}
    (taken : sendStep (.complete bytesTransferred) sender = some next) :
    next.posted = sender.posted ∧ sender.completed <+: next.completed := by
  rw [sendStep] at taken
  split at taken
  · contradiction
  · split at taken
    · rcases Option.map_eq_some_iff.mp taken with ⟨⟨done, _⟩, handled, rfl⟩
      have logs := handleSendCompletion_logs handled
      exact ⟨logs.1, logs.2 ▸ List.prefix_append _ _⟩
    · contradiction

/-- The posted packets are those of the `PostSend` calls, in their order. -/
theorem run_posted {labels : List SendLabel} {state final : SendState}
    (ran : run sendStep labels state = some final) :
    final.posted = state.posted ++ labels.filterMap SendLabel.packet := by
  induction labels generalizing state with
  | nil =>
      obtain rfl := Option.some.inj ran
      exact (List.append_nil _).symm
  | cons label rest ih =>
      obtain ⟨middle, taken, later⟩ := run_cons_eq_some.mp ran
      rw [ih later]
      cases label with
      | post packet =>
          rw [(post_logs taken).1, List.append_assoc]
          rfl
      | complete bytesTransferred => rw [(complete_logs taken).1, List.filterMap_cons_none rfl]

/-! ## Bytes still to send -/

/-- The bytes of the queue that no completion has covered. -/
def unsent (queue : List PendingSendPacket) : List UInt8 :=
  (queue.map PendingSendPacket.data).flatten

theorem unsent_cons (pending : PendingSendPacket) (rest : List PendingSendPacket) :
    unsent (pending :: rest) = pending.data ++ unsent rest :=
  rfl

theorem unsent_append (first second : List PendingSendPacket) :
    unsent (first ++ second) = unsent first ++ unsent second := by
  rw [unsent, List.map_append, List.flatten_append, unsent, unsent]

/-- Every queued packet still has bytes to send. -/
def Ready (queue : List PendingSendPacket) : Prop :=
  ∀ pending ∈ queue, 0 < pending.remainingSize

theorem Ready.tail {pending : PendingSendPacket} {rest : List PendingSendPacket}
    (ready : Ready (pending :: rest)) : Ready rest :=
  fun other member => ready other (List.mem_cons_of_mem _ member)

theorem PendingSendPacket.length_data (pending : PendingSendPacket) :
    pending.data.length = pending.remainingSize := by
  have bounded := pending.size_le
  rw [data, List.length_take, List.length_drop, pending.buffer.length_bytes, remainingSize]
  omega

theorem PendingSendPacket.remainingSize_le (pending : PendingSendPacket) :
    pending.remainingSize ≤ maxServerPacketSize := by
  have bounded := pending.size_le
  rw [remainingSize]
  omega

theorem unsent_ne_nil {queue : List PendingSendPacket} (ready : Ready queue)
    (nonempty : queue ≠ []) : unsent queue ≠ [] := by
  obtain ⟨pending, rest, rfl⟩ := List.exists_cons_of_ne_nil nonempty
  have positive := ready pending List.mem_cons_self
  rw [← pending.length_data] at positive
  rw [unsent_cons]
  exact List.append_ne_nil_of_left_ne_nil (List.length_pos_iff.mp positive) _

/-- A posted packet is queued with all its bytes. -/
theorem PendingSendPacket.assign_eq_some {packet : List UInt8}
    (fits : packet.length ≤ maxServerPacketSize) :
    ∃ pending, assign packet = some pending ∧ pending.data = packet := by
  refine ⟨_, dif_pos fits, ?_⟩
  rw [data, remainingSize, List.drop_zero, Nat.sub_zero]
  exact Buffer.take_copyAt_zero _ fits

theorem PendingSendPacket.consume_eq_some {bytes : Nat} {pending : PendingSendPacket}
    (within : bytes ≤ pending.remainingSize) :
    ∃ consumed, pending.consume bytes = some consumed ∧
      consumed.data = pending.data.drop bytes := by
  refine ⟨_, dif_pos within, ?_⟩
  rw [data, data, remainingSize, remainingSize, List.drop_take, List.drop_drop, Nat.sub_sub]

/-! ## The three loops -/

/-- The completion loop takes the reported bytes off the front. -/
theorem consumeQueue_eq_some {queue : List PendingSendPacket} (ready : Ready queue) {bytes : Nat}
    (enough : bytes ≤ (unsent queue).length) :
    ∃ rest, SendState.consumeQueue bytes queue = some (true, rest) ∧ Ready rest ∧
      unsent rest = (unsent queue).drop bytes := by
  induction queue generalizing bytes with
  | nil =>
      obtain rfl : bytes = 0 := Nat.le_zero.mp enough
      exact ⟨[], rfl, ready, rfl⟩
  | cons pending rest ih =>
      have size := pending.length_data
      rw [unsent_cons, List.length_append, size] at enough
      rw [SendState.consumeQueue, unsent_cons]
      by_cases more : bytes > 0
      · rw [if_pos more]
        by_cases part : bytes < pending.remainingSize
        · obtain ⟨consumed, took, left⟩ := PendingSendPacket.consume_eq_some part.le
          have positive : 0 < consumed.remainingSize := by
            rw [← consumed.length_data, left, List.length_drop, size]
            omega
          rw [if_pos part, took]
          refine ⟨consumed :: rest, rfl, ?_, ?_⟩
          · rintro other member
            rcases List.mem_cons.mp member with rfl | later
            · exact positive
            · exact ready.tail other later
          · rw [unsent_cons, left, List.drop_append_of_le_length (by omega)]
        · have restEnough : bytes - pending.remainingSize ≤ (unsent rest).length := by omega
          have gone : pending.data.drop bytes = [] := List.drop_of_length_le (by omega)
          obtain ⟨left, ran, stillReady, bytesLeft⟩ := ih ready.tail restEnough
          rw [if_neg part]
          refine ⟨left, ran, stillReady, ?_⟩
          rw [bytesLeft, List.drop_append, gone, List.nil_append, size]
      · obtain rfl : bytes = 0 := Nat.le_zero.mp (Nat.not_lt.mp more)
        exact ⟨pending :: rest, rfl, ready, rfl⟩

/-- A packet goes behind what the batch holds. -/
theorem SendContext.batch_appendPacket {context appended : SendContext} {packet : List UInt8}
    (done : context.appendPacket packet = some appended) :
    appended.batch = context.batch ++ packet ∧ appended.bytes ≤ sendBatchBufferSize ∧
      appended.packetCount = context.packetCount + 1 := by
  rw [appendPacket] at done
  split at done
  · contradiction
  · next fits =>
    obtain rfl := Option.some.inj done
    exact ⟨context.buffer.take_copyAt (by omega), by dsimp only; omega, rfl⟩

/-- The batch is filled with whole packets from the front of the queue. -/
theorem SendContext.appendPackets_spec (queue : List PendingSendPacket) (context : SendContext)
    (bounded : context.bytes ≤ sendBatchBufferSize) :
    ∃ taken later, queue = taken ++ later ∧
      (context.appendPackets queue).batch = context.batch ++ unsent taken ∧
      (context.appendPackets queue).bytes ≤ sendBatchBufferSize ∧
      (context.appendPackets queue).packetCount = context.packetCount + taken.length := by
  induction queue generalizing context with
  | nil => exact ⟨[], [], rfl, (List.append_nil _).symm, bounded, rfl⟩
  | cons pending rest ih =>
      rw [appendPackets]
      cases done : context.appendPacket pending.data with
      | none => exact ⟨[], pending :: rest, rfl, (List.append_nil _).symm, bounded, rfl⟩
      | some appended =>
          obtain ⟨batch, stillBounded, count⟩ := batch_appendPacket done
          obtain ⟨taken, later, split, batches, bound, counts⟩ := ih appended stillBounded
          refine ⟨pending :: taken, later, by rw [split, List.cons_append], ?_, bound, ?_⟩
          · rw [batches, batch, unsent_cons, List.append_assoc]
          · rw [counts, count, List.length_cons]
            omega

/-- An empty batch takes at least the first packet. -/
theorem SendContext.packetCount_appendPackets {queue : List PendingSendPacket} (ready : Ready queue)
    (nonempty : queue ≠ []) {context : SendContext} (empty : context.bytes = 0) :
    0 < (context.appendPackets queue).packetCount := by
  obtain ⟨pending, rest, rfl⟩ := List.exists_cons_of_ne_nil nonempty
  have limit : maxServerPacketSize ≤ sendBatchBufferSize := by decide
  have size := pending.length_data
  have positive := ready pending List.mem_cons_self
  have bounded := pending.remainingSize_le
  have appends : ¬(pending.data.length = 0 ∨
      context.bytes + pending.data.length > sendBatchBufferSize) := by omega
  rw [appendPackets, appendPacket, if_neg appends]
  obtain ⟨taken, _, _, _, _, count⟩ := appendPackets_spec rest
    { buffer := context.buffer.copyAt context.bytes pending.data
      bytes := context.bytes + pending.data.length
      packetCount := context.packetCount + 1 } (by dsimp only; omega)
  rw [count]
  dsimp only
  omega

/-! ## The invariant -/

/-- No batch is out and nothing is queued, or one batch is out and it is the
beginning of the queue. -/
inductive InFlight (state : SendState) : Prop
  | idle : state.sendInFlight = false → state.queue = [] → state.outstanding = [] →
      InFlight state
  | sending (taken later : List PendingSendPacket) : state.sendInFlight = true →
      state.queue = taken ++ later → taken ≠ [] → state.outstanding = [state.context.batch] →
      state.context.batch = unsent taken → InFlight state

/-- What holds of a sender: the posted bytes are those completed and those
still queued, no queued packet is spent, the batch fits the buffer, and what is
in flight is the front of the queue. -/
structure Orderly (state : SendState) : Prop where
  stream : state.posted.flatten = state.completed ++ unsent state.queue
  ready : Ready state.queue
  bounded : state.context.bytes ≤ sendBatchBufferSize
  flight : InFlight state

theorem SendContext.length_batch {context : SendContext}
    (bounded : context.bytes ≤ sendBatchBufferSize) : context.batch.length = context.bytes := by
  rw [batch, List.length_take, context.buffer.length_bytes]
  omega

/-- Submitting with nothing in flight restores the invariant. -/
theorem submitSendBatchImpl_orderly {state : SendState} (idle : state.sendInFlight = false)
    (none_ : state.outstanding = []) (ready : Ready state.queue)
    (bounded : state.context.bytes ≤ sendBatchBufferSize)
    (stream : state.posted.flatten = state.completed ++ unsent state.queue) :
    ∃ next, state.submitSendBatchImpl = (true, next) ∧ Orderly next := by
  rw [SendState.submitSendBatchImpl, if_neg (by simp [idle])]
  by_cases nothing : state.queue = []
  · rw [if_pos nothing]
    exact ⟨state, rfl, stream, ready, bounded, .idle idle nothing none_⟩
  · have positive := SendContext.packetCount_appendPackets ready nothing
      (rfl : state.context.resetPayload.bytes = 0)
    obtain ⟨taken, later, split, batch, bound, count⟩ :=
      SendContext.appendPackets_spec state.queue state.context.resetPayload (Nat.zero_le _)
    have empty : state.context.resetPayload.batch = [] := rfl
    have counted : state.context.resetPayload.packetCount = 0 := rfl
    rw [empty, List.nil_append] at batch
    rw [counted, Nat.zero_add] at count
    have some_ : taken ≠ [] := by
      rintro rfl
      rw [count] at positive
      exact absurd positive (Nat.lt_irrefl 0)
    rw [if_neg nothing]
    simp only [Nat.pos_iff_ne_zero.mp positive, if_false, none_, List.nil_append]
    exact ⟨_, rfl, stream, ready, bound, .sending taken later rfl split some_ rfl batch⟩

theorem Orderly.postSend {state : SendState} (orderly : Orderly state) {packet : List UInt8}
    (nonempty : 1 ≤ packet.length) (fits : packet.length ≤ maxServerPacketSize) :
    ∃ next, state.postSend packet = some (true, next) ∧ Orderly next := by
  obtain ⟨pending, assigned, data⟩ := PendingSendPacket.assign_eq_some fits
  have stream : (state.posted ++ [packet]).flatten =
      state.completed ++ unsent (state.queue ++ [pending]) := by
    rw [List.flatten_append, orderly.stream, unsent_append, List.append_assoc, unsent_cons, data]
    rfl
  have ready : Ready (state.queue ++ [pending]) := by
    intro other member
    rcases List.mem_append.mp member with old | new
    · exact orderly.ready other old
    · rw [List.mem_singleton.mp new, ← pending.length_data, data]
      exact nonempty
  rw [SendState.postSend, assigned]
  rcases orderly.flight with ⟨idle, _, none_⟩ | ⟨taken, later, sending, split, some_, out, batch⟩
  · simp only [idle, Bool.false_eq_true, if_false, Option.some.injEq]
    exact submitSendBatchImpl_orderly rfl none_ ready orderly.bounded stream
  · simp only [sending, if_true]
    refine ⟨_, rfl, stream, ready, orderly.bounded, ?_⟩
    exact .sending taken (later ++ [pending]) rfl (by rw [split, List.append_assoc]) some_ out batch

/-- Taking a completion of `bytes` of the batch off the queue. -/
theorem Orderly.complete {state : SendState} (orderly : Orderly state) {batch : List UInt8}
    (out : batch ∈ state.outstanding) {bytes : Nat} (within : bytes ≤ batch.length) :
    ∃ next, { state with
        outstanding := []
        completed := state.completed ++ batch.take bytes }.handleSendCompletion bytes =
      some (true, next) ∧ Orderly next := by
  rcases orderly.flight with ⟨_, _, none_⟩ | ⟨taken, later, sending, split, some_, one, batchOf⟩
  · rw [none_] at out
    contradiction
  · rw [one, List.mem_singleton] at out
    subst out
    rw [SendContext.length_batch orderly.bounded] at within
    have front : unsent state.queue = state.context.batch ++ unsent later := by
      rw [split, unsent_append, batchOf]
    have size := SendContext.length_batch orderly.bounded
    have enough : bytes ≤ (unsent state.queue).length := by
      rw [front, List.length_append]
      omega
    obtain ⟨rest, ran, ready, left⟩ := consumeQueue_eq_some orderly.ready enough
    have stream : state.posted.flatten =
        (state.completed ++ state.context.batch.take bytes) ++ unsent rest := by
      have taken_ : state.context.batch.take bytes = (unsent state.queue).take bytes := by
        rw [front, List.take_append_of_le_length (by omega)]
      rw [orderly.stream, left, taken_, List.append_assoc, List.take_append_drop]
    rw [SendState.handleSendCompletion, if_neg (Nat.not_lt.mpr within)]
    simp only [ran]
    by_cases nothing : rest = []
    · simp only [nothing, if_true]
      subst nothing
      exact ⟨_, rfl, stream, ready, Nat.zero_le _, .idle rfl rfl rfl⟩
    · simp only [nothing, if_false, Option.some.injEq]
      exact submitSendBatchImpl_orderly rfl rfl ready (Nat.zero_le _) stream

theorem start_orderly (buffer : Buffer sendBatchBufferSize) : Orderly (SendState.start buffer) :=
  ⟨rfl, fun _ member => absurd member List.not_mem_nil, Nat.zero_le _, .idle rfl rfl rfl⟩

theorem Orderly.step {label : SendLabel} {state next : SendState} (orderly : Orderly state)
    (taken : sendStep label state = some next) : Orderly next := by
  cases label with
  | post packet =>
      rw [sendStep] at taken
      split at taken
      · next sized =>
        obtain ⟨after, ran, still⟩ := orderly.postSend sized.1 sized.2
        rw [ran] at taken
        obtain rfl := Option.some.inj taken
        exact still
      · contradiction
  | complete bytes =>
      simp only [sendStep] at taken
      cases out : state.outstanding with
      | nil => simp [out] at taken
      | cons batch later =>
          have single : later = [] := by
            rcases orderly.flight with ⟨_, _, none_⟩ | ⟨_, _, _, _, _, one, _⟩
            · rw [none_] at out
              contradiction
            · rw [one] at out
              exact (List.cons.inj out).2.symm
          simp only [out, single] at taken
          split at taken
          · next sized =>
            obtain ⟨after, ran, still⟩ :=
              orderly.complete (by rw [out]; exact List.mem_cons_self) sized.2
            rw [ran] at taken
            obtain rfl := Option.some.inj taken
            exact still
          · contradiction

theorem Orderly.run {labels : List SendLabel} {state final : SendState} (orderly : Orderly state)
    (ran : Transition.run sendStep labels state = some final) : Orderly final := by
  induction labels generalizing state with
  | nil =>
      obtain rfl := Option.some.inj ran
      exact orderly
  | cons label rest ih =>
      obtain ⟨middle, taken, later⟩ := run_cons_eq_some.mp ran
      exact ih (orderly.step taken) later

/-! ## All interleavings -/

/-- Nothing is lost, repeated or reordered, no call fails, and the socket is
never left idle with bytes to send. -/
structure Batched (state : SendState) : Prop where
  completed_prefix : state.completed <+: state.posted.flatten
  oneBatch : state.outstanding.length ≤ 1
  follows : ∀ batch ∈ state.outstanding, batch ≠ [] ∧ batch = state.context.batch ∧
    state.completed ++ batch <+: state.posted.flatten
  ready : ∀ pending ∈ state.queue, 0 < pending.remainingSize
  submitted : state.completed ≠ state.posted.flatten → state.outstanding ≠ []
  posts : ∀ packet : List UInt8, 1 ≤ packet.length → packet.length ≤ maxServerPacketSize →
    ∃ next, state.postSend packet = some (true, next)
  completes : ∀ batch ∈ state.outstanding, ∀ bytes, 1 ≤ bytes → bytes ≤ batch.length →
    ∃ next, { state with
        outstanding := []
        completed := state.completed ++ batch.take bytes }.handleSendCompletion bytes =
      some (true, next)

/-- What an orderly sender has posted is sent or queued. -/
theorem Orderly.batched {state : SendState} (orderly : Orderly state) : Batched state where
  completed_prefix := by
    rw [orderly.stream]
    exact List.prefix_append _ _
  oneBatch := by
    rcases orderly.flight with ⟨_, _, none_⟩ | ⟨_, _, _, _, _, one, _⟩
    · simp [none_]
    · simp [one]
  follows batch out := by
    rcases orderly.flight with ⟨_, _, none_⟩ | ⟨taken, later, _, split, some_, one, batchOf⟩
    · rw [none_] at out
      contradiction
    · rw [one, List.mem_singleton] at out
      subst out
      have ready : Ready taken := fun pending member =>
        orderly.ready pending (by rw [split]; exact List.mem_append_left _ member)
      refine ⟨by rw [batchOf]; exact unsent_ne_nil ready some_, rfl, ?_⟩
      rw [orderly.stream, split, unsent_append, batchOf, ← List.append_assoc]
      exact List.prefix_append _ _
  ready := orderly.ready
  submitted remain := by
    rcases orderly.flight with ⟨_, nothing, _⟩ | ⟨_, _, _, _, _, one, _⟩
    · rw [orderly.stream, nothing] at remain
      exact absurd (List.append_nil _).symm remain
    · simp [one]
  posts packet nonempty fits := by
    obtain ⟨next, ran, _⟩ := orderly.postSend nonempty fits
    exact ⟨next, ran⟩
  completes batch out bytes _ within := by
    obtain ⟨next, ran, _⟩ := orderly.complete out within
    exact ⟨next, ran⟩

/-- The batched send path delivers the bytes of the `PostSend` calls in order,
whatever the calls and the sizes of the completions. -/
theorem send_batched (buffer : Buffer sendBatchBufferSize) (labels : List SendLabel)
    {state : SendState} (ran : run sendStep labels (SendState.start buffer) = some state) :
    state.posted = labels.filterMap SendLabel.packet ∧ Batched state :=
  ⟨run_posted ran, ((start_orderly buffer).run ran).batched⟩

/-! ## Short queues -/

/-- A batch takes all packets if they fit. -/
theorem SendContext.appendPackets_all {queue : List PendingSendPacket} (ready : Ready queue)
    {context : SendContext} (fits : context.bytes + (unsent queue).length ≤ sendBatchBufferSize) :
    (context.appendPackets queue).batch = context.batch ++ unsent queue := by
  induction queue generalizing context with
  | nil => exact (List.append_nil _).symm
  | cons pending rest ih =>
      have size := pending.length_data
      have positive := ready pending List.mem_cons_self
      rw [unsent_cons, List.length_append] at fits
      have appends : ¬(pending.data.length = 0 ∨
          context.bytes + pending.data.length > sendBatchBufferSize) := by omega
      have done : context.appendPacket pending.data = some
          { buffer := context.buffer.copyAt context.bytes pending.data
            bytes := context.bytes + pending.data.length
            packetCount := context.packetCount + 1 } := if_neg appends
      rw [appendPackets, done]
      dsimp only
      rw [ih ready.tail (by dsimp only; omega), (batch_appendPacket done).1, unsent_cons,
        List.append_assoc]

/-- One batch is out and the queue holds the given bytes, few enough for one
batch. -/
structure Sends (completed batch remaining : List UInt8) (state : SendState) : Prop where
  orderly : Orderly state
  done : state.completed = completed
  out : state.outstanding = [batch]
  queued : unsent state.queue = remaining
  short : remaining.length ≤ sendBatchBufferSize

/-- Submitting a short queue sends all of it. -/
theorem submitSendBatchImpl_sends {state : SendState} (idle : state.sendInFlight = false)
    (none_ : state.outstanding = []) (ready : Ready state.queue)
    (bounded : state.context.bytes ≤ sendBatchBufferSize)
    (stream : state.posted.flatten = state.completed ++ unsent state.queue)
    (some_ : state.queue ≠ []) (short : (unsent state.queue).length ≤ sendBatchBufferSize) :
    Sends state.completed (unsent state.queue) (unsent state.queue) state.submitSendBatchImpl.2 := by
  obtain ⟨next, submitted, orderly⟩ := submitSendBatchImpl_orderly idle none_ ready bounded stream
  have positive := SendContext.packetCount_appendPackets ready some_
    (rfl : state.context.resetPayload.bytes = 0)
  have all : (state.context.resetPayload.appendPackets state.queue).batch = unsent state.queue := by
    refine SendContext.appendPackets_all ready ?_
    exact (Nat.zero_add _).le.trans short
  have result : state.submitSendBatchImpl.2 =
      { state with
        context := state.context.resetPayload.appendPackets state.queue
        sendInFlight := true
        outstanding := [unsent state.queue] } := by
    rw [SendState.submitSendBatchImpl, if_neg (by simp [idle]), if_neg some_]
    simp only [Nat.pos_iff_ne_zero.mp positive, if_false, none_, List.nil_append, all]
  rw [submitted] at result ⊢
  exact ⟨orderly, by rw [result], by rw [result], by rw [result], short⟩

variable {completed batch remaining packet : List UInt8} {state : SendState} {bytes : Nat}

/-- The first packet goes out at once. -/
theorem start_sends (buffer : Buffer sendBatchBufferSize) (nonempty : 1 ≤ packet.length)
    (fits : packet.length ≤ maxServerPacketSize) :
    ∃ next, sendStep (.post packet) (SendState.start buffer) = some next ∧
      Sends [] packet packet next := by
  have limit : maxServerPacketSize ≤ sendBatchBufferSize := by decide
  obtain ⟨pending, assigned, data⟩ := PendingSendPacket.assign_eq_some fits
  have all : unsent [pending] = packet := (List.append_nil _).trans data
  have ready : Ready [pending] := by
    intro other member
    rw [List.mem_singleton.mp member, ← pending.length_data, data]
    exact nonempty
  let queued : SendState :=
    { SendState.start buffer with queue := [pending], posted := [packet] }
  have stream : queued.posted.flatten = queued.completed ++ unsent queued.queue := by
    rw [show unsent queued.queue = packet from all]
    exact List.append_nil _
  have sends := submitSendBatchImpl_sends (rfl : queued.sendInFlight = false) rfl ready
    (Nat.zero_le _) stream (List.cons_ne_nil _ _) (all ▸ fits.trans limit)
  rw [show unsent queued.queue = packet from all] at sends
  refine ⟨_, ?_, sends⟩
  rw [sendStep, if_pos ⟨nonempty, fits⟩, SendState.postSend, assigned]
  rfl

/-- A later packet waits. -/
theorem Sends.post (sends : Sends completed batch remaining state) (nonempty : 1 ≤ packet.length)
    (fits : packet.length ≤ maxServerPacketSize)
    (short : (remaining ++ packet).length ≤ sendBatchBufferSize) :
    ∃ next, sendStep (.post packet) state = some next ∧
      Sends completed batch (remaining ++ packet) next := by
  obtain ⟨pending, assigned, data⟩ := PendingSendPacket.assign_eq_some fits
  have busy : state.sendInFlight = true := by
    rcases sends.orderly.flight with ⟨_, _, none_⟩ | ⟨_, _, sending, _⟩
    · rw [sends.out] at none_
      contradiction
    · exact sending
  have taken : sendStep (.post packet) state = some
      { state with queue := state.queue ++ [pending], posted := state.posted ++ [packet] } := by
    rw [sendStep, if_pos ⟨nonempty, fits⟩, SendState.postSend, assigned]
    simp [busy]
  refine ⟨_, taken, sends.orderly.step taken, sends.done, sends.out, ?_, short⟩
  rw [unsent_append, sends.queued, unsent_cons, data]
  exact congrArg (remaining ++ ·) (List.append_nil _)

/-- What a completion leaves goes out as the next batch. -/
theorem Sends.complete (sends : Sends completed batch remaining state) (some_ : 1 ≤ bytes)
    (within : bytes ≤ batch.length) (more : remaining.drop bytes ≠ []) :
    ∃ next, sendStep (.complete bytes) state = some next ∧
      Sends (completed ++ batch.take bytes) (remaining.drop bytes) (remaining.drop bytes) next := by
  obtain ⟨_, context, ahead⟩ := sends.orderly.batched.follows batch (by rw [sends.out]; simp)
  have reported : ¬bytes > state.context.bytes := by
    rw [context, SendContext.length_batch sends.orderly.bounded] at within
    omega
  have enough : bytes ≤ (unsent state.queue).length := by
    rw [sends.queued]
    by_contra beyond
    exact more (List.drop_of_length_le (Nat.le_of_not_le beyond))
  obtain ⟨rest, ran, ready, dropped⟩ := consumeQueue_eq_some sends.orderly.ready enough
  rw [sends.queued] at dropped
  let freed : SendState :=
    { state with
      outstanding := []
      completed := state.completed ++ batch.take bytes
      queue := rest
      context := state.context.resetPayload
      sendInFlight := false }
  have left : freed.queue ≠ [] := by
    rintro empty
    refine more (dropped.symm.trans ?_)
    rw [show rest = [] from empty]
    rfl
  have short : (unsent freed.queue).length ≤ sendBatchBufferSize := by
    rw [show unsent freed.queue = remaining.drop bytes from dropped, List.length_drop]
    have bounded := sends.short
    omega
  have stream : freed.posted.flatten = freed.completed ++ unsent freed.queue := by
    have whole := sends.orderly.stream
    rw [whole, List.prefix_append_right_inj, sends.queued] at ahead
    obtain ⟨later, rfl⟩ := ahead
    change state.posted.flatten = (state.completed ++ batch.take bytes) ++ unsent rest
    rw [whole, sends.queued, dropped, List.append_assoc, ← List.take_append_of_le_length within,
      List.take_append_drop]
  have taken : sendStep (.complete bytes) state = some freed.submitSendBatchImpl.2 := by
    simp only [sendStep, sends.out, some_, within, and_self, if_true]
    rw [SendState.handleSendCompletion, if_neg reported]
    simp only [ran]
    rw [if_neg left]
    rfl
  have next := submitSendBatchImpl_sends (rfl : freed.sendInFlight = false) rfl ready
    (Nat.zero_le _) stream left short
  rw [show unsent freed.queue = remaining.drop bytes from dropped,
    show freed.completed = completed ++ batch.take bytes from
      congrArg (· ++ batch.take bytes) sends.done] at next
  exact ⟨_, taken, next⟩

/-- Three packets: the first completion ends inside the first packet, the second
one inside the second. -/
theorem send_batched_sample :
    ∃ state, run sendStep
        [.post [1, 2, 3], .post [4, 5], .post [6, 7, 8], .complete 1, .complete 3]
        (SendState.start (Buffer.zero sendBatchBufferSize)) = some state ∧
      state.completed = [1, 2, 3, 4] ∧ state.outstanding = [[5, 6, 7, 8]] ∧
      state.posted = [[1, 2, 3], [4, 5], [6, 7, 8]] ∧ Batched state := by
  obtain ⟨first, firstPosted, one⟩ := start_sends (Buffer.zero sendBatchBufferSize)
    (by decide : 1 ≤ ([1, 2, 3] : List UInt8).length) (by decide)
  obtain ⟨second, secondPosted, two⟩ :=
    one.post (by decide : 1 ≤ ([4, 5] : List UInt8).length) (by decide) (by decide)
  obtain ⟨third, thirdPosted, three⟩ :=
    two.post (by decide : 1 ≤ ([6, 7, 8] : List UInt8).length) (by decide) (by decide)
  obtain ⟨fourth, firstCompleted, four⟩ :=
    three.complete (Nat.le_refl 1) (by decide) (by decide)
  obtain ⟨last, secondCompleted, five⟩ :=
    four.complete (by decide : 1 ≤ 3) (by decide) (by decide)
  have ran : run sendStep
      [.post [1, 2, 3], .post [4, 5], .post [6, 7, 8], .complete 1, .complete 3]
      (SendState.start (Buffer.zero sendBatchBufferSize)) = some last := by
    simp [run, firstPosted, secondPosted, thirdPosted, firstCompleted, secondCompleted]
  obtain ⟨posted, batched⟩ := send_batched _ _ ran
  exact ⟨last, ran, five.done, five.out, posted, batched⟩

end Network

end Mmorpg
