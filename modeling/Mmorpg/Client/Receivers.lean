import Mmorpg.Network.Receive
import Mmorpg.Transition.Assembly

/-!
# The receivers of the two clients

`process_data` of the game client and `ConsumeReceivedBytes` of the stress
client, on bytes.  One keeps a one-byte size and a count between calls, the other
puts a two-byte header together; both hand `ProcessPacket` the frames of the
server, however the stream is cut.
-/

namespace Mmorpg

open Transition Network

namespace Client

/-- A frame of the server: its first two bytes are its length. -/
structure IsServerFrame (frame : List UInt8) : Prop where
  header : headerSize ≤ frame.length
  bounded : frame.length ≤ 255
  size : Buffer.readUInt16 0 frame = frame.length

/-- The bytes of the packet that starts an array, as many as its header says. -/
def packetBytes (packet : List UInt8) : List UInt8 :=
  packet.take (Buffer.readUInt16 0 packet)

/-! ## The game client -/

/-- The static variables of `process_data`.  `processed` lists the arrays that
`ProcessPacket` was called with so far. -/
structure ProcessData where
  inPacketSize : Nat := 0
  savedPacketSize : Nat := 0
  packetBuffer : Buffer bufSize := Buffer.zero bufSize
  processed : List (List UInt8) := []

/-- The loop of `process_data`; `none` when it does not end within `fuel` tests
of its condition. -/
def processLoop : Nat → List UInt8 → ProcessData → Option ProcessData
  | 0, _, _ => none
  | _ + 1, [], state => some state
  | fuel + 1, first :: later, state =>
      let data := first :: later
      let inPacketSize := if state.inPacketSize = 0 then first.toNat else state.inPacketSize
      if data.length + state.savedPacketSize ≥ inPacketSize then
        let missing := inPacketSize - state.savedPacketSize
        let packetBuffer := state.packetBuffer.copyAt state.savedPacketSize (data.take missing)
        processLoop fuel (data.drop missing)
          { inPacketSize := 0
            savedPacketSize := 0
            packetBuffer := packetBuffer
            processed := state.processed ++ [packetBuffer.bytes] }
      else
        processLoop fuel []
          { state with
            inPacketSize := inPacketSize
            savedPacketSize := state.savedPacketSize + data.length
            packetBuffer := state.packetBuffer.copyAt state.savedPacketSize data }

/-- `process_data`.  A call that ends consumes a byte with every packet. -/
def processData (netBuf : List UInt8) (state : ProcessData) : Option ProcessData :=
  processLoop (netBuf.length + 1) netBuf state

/-! ## The stress client -/

/-- `MAX_PACKET_SIZE`. -/
def maxPacketSize : Nat := 255

/-- The receive side of a `CLIENT`. -/
structure StressClient where
  packetBuf : Buffer maxPacketSize := Buffer.zero maxPacketSize
  bufferedBytes : Nat := 0
  processed : List (List UInt8) := []

/-- Move bytes from the cursor behind the buffered ones. -/
def StressClient.copyBytes (bytesToCopy : Nat) (data : List UInt8) (client : StressClient) :
    List UInt8 × StressClient :=
  (data.drop bytesToCopy,
    { client with
      packetBuf := client.packetBuf.copyAt client.bufferedBytes (data.take bytesToCopy)
      bufferedBytes := client.bufferedBytes + bytesToCopy })

/-- The first branch of the loop: complete the header as far as possible. -/
def StressClient.copyHeader (data : List UInt8) (client : StressClient) :
    List UInt8 × StressClient :=
  if client.bufferedBytes < 2 then
    client.copyBytes (min (2 - client.bufferedBytes) data.length) data
  else (data, client)

/-- The loop of `ConsumeReceivedBytes`; `none` when it does not end within
`fuel` tests of its condition, or copies a negative number of bytes. -/
def consumeLoop : Nat → List UInt8 → StressClient → Option (Bool × StressClient)
  | 0, _, _ => none
  | _ + 1, [], client => some (true, client)
  | fuel + 1, first :: later, client =>
      let (data, client) := client.copyHeader (first :: later)
      if client.bufferedBytes < 2 then consumeLoop fuel data client
      else
        let packetSize := Buffer.readUInt16 0 client.packetBuf.bytes
        if packetSize = 0 ∨ packetSize > maxPacketSize then some (false, client)
        else if packetSize < client.bufferedBytes then none
        else
          let (data, client) :=
            client.copyBytes (min (packetSize - client.bufferedBytes) data.length) data
          if client.bufferedBytes = packetSize then
            let packet := client.packetBuf.bytes.take packetSize ++
              List.replicate (maxPacketSize - packetSize) 0
            consumeLoop fuel data
              { client with
                bufferedBytes := 0
                processed := client.processed ++ [packet] }
          else consumeLoop fuel data client

/-- `ConsumeReceivedBytes` of a client that stays connected. -/
def consumeReceivedBytes (iocpBuf : List UInt8) (client : StressClient) : Option StressClient :=
  match consumeLoop (iocpBuf.length + 1) iocpBuf client with
  | some (true, next) => some next
  | _ => none

/-! ## Frames -/

variable {frame kept needed data : List UInt8}

theorem IsServerFrame.ne_nil (isFrame : IsServerFrame frame) : frame ≠ [] := by
  have long : 3 ≤ frame.length := isFrame.header
  rintro rfl
  simp at long

/-- The length of a frame fits into its first byte. -/
theorem IsServerFrame.head (isFrame : IsServerFrame frame) :
    (frame.headD 0).toNat = frame.length := by
  have size := isFrame.size
  have bounded := isFrame.bounded
  cases frame with
  | nil => rfl
  | cons first later =>
      simp only [Buffer.readUInt16, List.getD_cons_zero] at size
      simp only [List.headD_cons]
      omega

/-- An array that starts with a frame holds that packet. -/
theorem IsServerFrame.packetBytes_of_prefix (isFrame : IsServerFrame frame) {packet : List UInt8}
    (start : frame <+: packet) : packetBytes packet = frame := by
  have long : 0 + 2 ≤ frame.length := Nat.le_of_succ_le isFrame.header
  rw [packetBytes, ← Buffer.readUInt16_of_prefix start long, isFrame.size]
  exact (List.prefix_iff_eq_take.mp start).symm

/-! ## Rounds of the game client -/

/-- The saved bytes are `kept`; their first one is the size. -/
structure ProcessData.Carries (kept : List UInt8) (state : ProcessData) : Prop where
  saved : state.savedPacketSize = kept.length
  bytes : state.packetBuffer.bytes.take kept.length = kept
  size : state.inPacketSize = (kept.headD 0).toNat

/-- The size the loop works with is the length of the frame it is in. -/
theorem ProcessData.Carries.inPacketSize {state : ProcessData} {first : UInt8}
    (carries : state.Carries kept) (isFrame : IsServerFrame frame)
    (start : kept ++ first :: data <+: frame) :
    (if state.inPacketSize = 0 then first.toNat else state.inPacketSize) = frame.length := by
  have long : 3 ≤ frame.length := isFrame.header
  obtain ⟨beyond, rfl⟩ := start
  have head := isFrame.head
  cases kept with
  | nil =>
      have none_ : state.inPacketSize = 0 := carries.size
      rw [if_pos none_]
      simpa using head
  | cons byte later =>
      have size : state.inPacketSize = (byte :: later ++ first :: data ++ beyond).length := by
        rw [carries.size, ← head]
        rfl
      rw [if_neg (by omega), size]

/-- Bytes copied behind the ones a buffer starts with. -/
theorem take_copyAt_append {capacity : Nat} {buffer : Buffer capacity}
    (starts : buffer.bytes.take kept.length = kept) (fits : (kept ++ data).length ≤ capacity) :
    (buffer.copyAt kept.length data).bytes.take (kept ++ data).length = kept ++ data := by
  rw [List.length_append] at fits ⊢
  rw [buffer.take_copyAt fits, starts]

/-- `process_data` puts frames together, whatever the buffers hold besides. -/
theorem processLoop_assembles :
    Assembles IsServerFrame processLoop id ProcessData.Carries
      (fun state => state.processed.map packetBytes) where
  nonempty isFrame := isFrame.ne_nil
  stops _ _ := rfl
  completes := by
    intro kept needed state fuel data isFrame needs carries
    obtain ⟨first, later, rfl⟩ := List.exists_cons_of_ne_nil needs
    have size := carries.inPacketSize isFrame List.prefix_rfl
    have room : (kept ++ first :: later).length ≤ bufSize := isFrame.bounded.trans (by decide)
    have stored := take_copyAt_append carries.bytes room
    have handed := isFrame.packetBytes_of_prefix (stored ▸ List.take_prefix _ _)
    have missing : (kept ++ first :: later).length - state.savedPacketSize =
        (first :: later).length := by
      simp [carries.saved]
    rw [List.cons_append, processLoop]
    simp only [size]
    rw [if_pos (by simp [carries.saved]; omega), missing, ← List.cons_append, List.take_left,
      List.drop_left]
    refine ⟨_, rfl, ⟨rfl, rfl, rfl⟩, ?_⟩
    simp [carries.saved, handed]
  keeps := by
    intro frame kept data state fuel isFrame start short some carries
    obtain ⟨first, later, rfl⟩ := List.exists_cons_of_ne_nil some
    have size := carries.inPacketSize isFrame start
    have room : (kept ++ first :: later).length ≤ bufSize :=
      short.le.trans (isFrame.bounded.trans (by decide))
    rw [processLoop]
    simp only [size]
    rw [if_neg (by rw [List.length_append] at short; rw [carries.saved]; omega)]
    refine ⟨_, rfl, ⟨?_, ?_, ?_⟩, rfl⟩
    · simp [carries.saved]
    · simp only [carries.saved]
      exact take_copyAt_append carries.bytes room
    · obtain ⟨beyond, rfl⟩ := start
      simp only [← isFrame.head]
      cases kept <;> rfl

/-! ## Rounds of the stress client -/

/-- The buffered bytes are `kept`. -/
structure StressClient.Carries (kept : List UInt8) (client : StressClient) : Prop where
  buffered : client.bufferedBytes = kept.length
  bytes : client.packetBuf.bytes.take kept.length = kept

section Copying

variable {client : StressClient}

/-- Copying bytes moves them behind those already kept. -/
theorem StressClient.Carries.copyBytes {moved : List UInt8} {bytesToCopy : Nat}
    (carries : client.Carries kept) (rest : List UInt8) (count : bytesToCopy = moved.length)
    (room : (kept ++ moved).length ≤ maxPacketSize) :
    ∃ next, client.copyBytes bytesToCopy (moved ++ rest) = (rest, next) ∧
      next.Carries (kept ++ moved) ∧ next.processed = client.processed := by
  subst count
  rw [StressClient.copyBytes, List.drop_left, List.take_left]
  refine ⟨_, rfl, ⟨?_, ?_⟩, rfl⟩
  · simp [carries.buffered]
  · simp only [carries.buffered]
    exact take_copyAt_append carries.bytes room

/-- The header branch copies at most the header, and leaves a header incomplete
only when the data are used up. -/
theorem StressClient.Carries.copyHeader (carries : client.Carries kept) (data : List UInt8) :
    ∃ moved rest next, data = moved ++ rest ∧ client.copyHeader data = (rest, next) ∧
      next.Carries (kept ++ moved) ∧ next.processed = client.processed ∧
      ((kept ++ moved).length < 2 → rest = []) ∧ (moved ≠ [] → (kept ++ moved).length ≤ 2) := by
  have buffered := carries.buffered
  rw [StressClient.copyHeader]
  by_cases begun : client.bufferedBytes < 2
  · let count := min (2 - client.bufferedBytes) data.length
    have taken : (data.take count).length = count := by simp [count]
    have small : (kept ++ data.take count).length ≤ 2 := by
      rw [List.length_append, taken]
      omega
    obtain ⟨next, copied, carriesAll, same⟩ :=
      carries.copyBytes (data.drop count) taken.symm (small.trans (by decide))
    rw [List.take_append_drop] at copied
    refine ⟨data.take count, data.drop count, next, (List.take_append_drop _ _).symm, ?_,
      carriesAll, same, ?_, fun _ => small⟩
    · rw [if_pos begun, copied]
    · intro incomplete
      rw [List.length_append, taken] at incomplete
      rw [List.drop_eq_nil_iff]
      omega
  · refine ⟨[], data, client, rfl, if_neg begun, ?_, rfl, ?_, by simp⟩
    · simpa using carries
    · rw [List.append_nil]
      omega

/-- A complete header in the buffer is the length of its frame. -/
theorem StressClient.Carries.packetSize (carries : client.Carries kept)
    (isFrame : IsServerFrame frame) (start : kept <+: frame) (header : 2 ≤ kept.length) :
    Buffer.readUInt16 0 client.packetBuf.bytes = frame.length := by
  have within : kept <+: client.packetBuf.bytes := by
    rw [← carries.bytes]
    exact List.take_prefix _ _
  rw [← Buffer.readUInt16_of_prefix within header, Buffer.readUInt16_of_prefix start header,
    isFrame.size]

end Copying

/-- `ConsumeReceivedBytes` puts frames together. -/
theorem consumeLoop_assembles :
    Assembles IsServerFrame consumeLoop (fun client => (true, client)) StressClient.Carries
      (fun client => client.processed.map packetBytes) where
  nonempty isFrame := isFrame.ne_nil
  stops _ _ := rfl
  completes := by
    intro kept needed client fuel data isFrame needs carries
    have long : 3 ≤ (kept ++ needed).length := isFrame.header
    obtain ⟨first, later, rfl⟩ := List.exists_cons_of_ne_nil needs
    obtain ⟨moved, rest, next, split, copied, carriesMoved, same, complete, small⟩ :=
      carries.copyHeader (first :: later ++ data)
    -- the header lies within the bytes the frame still needs
    obtain ⟨body, whole⟩ : moved <+: first :: later := by
      apply List.prefix_of_prefix_length_le ⟨rest, split.symm⟩ (List.prefix_append _ data)
      by_cases none_ : moved = []
      · simp [none_]
      · have fits := small none_
        simp only [List.length_append] at fits long
        omega
    obtain rfl : rest = body ++ data := by
      rw [← whole, List.append_assoc] at split
      exact (List.append_cancel_left split).symm
    rw [← whole, ← List.append_assoc] at isFrame long ⊢
    have header : 2 ≤ (kept ++ moved).length := by
      by_contra incomplete
      have nothing : body = [] := by
        have empty := complete (Nat.not_le.mp incomplete)
        simp only [List.append_eq_nil_iff] at empty
        exact empty.1
      rw [nothing, List.append_nil] at long
      omega
    have size := carriesMoved.packetSize isFrame (List.prefix_append _ body) header
    have count : min ((kept ++ moved ++ body).length - next.bufferedBytes) (body ++ data).length =
        body.length := by
      rw [carriesMoved.buffered, List.length_append, List.length_append, Nat.add_sub_cancel_left]
      exact Nat.min_eq_left (List.prefix_append body data).length_le
    obtain ⟨final, copiedBody, carriesAll, sameAfter⟩ :=
      carriesMoved.copyBytes data count isFrame.bounded
    have packet := isFrame.packetBytes_of_prefix (List.prefix_append (kept ++ moved ++ body)
      (List.replicate (maxPacketSize - (kept ++ moved ++ body).length) 0))
    have bounded : (kept ++ moved ++ body).length ≤ maxPacketSize := isFrame.bounded
    rw [List.cons_append] at copied
    have enough : (kept ++ moved).length ≤ (kept ++ moved ++ body).length :=
      (List.prefix_append _ body).length_le
    rw [whole, List.cons_append, consumeLoop, copied]
    simp only [size, copiedBody]
    rw [if_neg (by rw [carriesMoved.buffered]; omega), if_neg (by omega),
      if_neg (by rw [carriesMoved.buffered]; omega), if_pos carriesAll.buffered]
    refine ⟨_, rfl, ⟨rfl, rfl⟩, ?_⟩
    simp only [carriesAll.bytes, List.map_append, List.map_singleton, packet, sameAfter, same]
  keeps := by
    intro frame kept data client fuel isFrame start short some carries
    have long : 3 ≤ frame.length := isFrame.header
    have bounded : frame.length ≤ maxPacketSize := isFrame.bounded
    obtain ⟨first, later, rfl⟩ := List.exists_cons_of_ne_nil some
    obtain ⟨moved, rest, next, split, copied, carriesMoved, same, complete, _⟩ :=
      carries.copyHeader (first :: later)
    rw [split, ← List.append_assoc] at start short ⊢
    rw [← split, consumeLoop, copied]
    by_cases incomplete : (kept ++ moved).length < 2
    · simp only
      rw [if_pos (by rw [carriesMoved.buffered]; exact incomplete)]
      obtain rfl := complete incomplete
      exact ⟨next, rfl, by simpa using carriesMoved, by rw [same]⟩
    · have size := carriesMoved.packetSize isFrame ((List.prefix_append _ rest).trans start)
        (Nat.not_lt.mp incomplete)
      have count : min (frame.length - next.bufferedBytes) rest.length = rest.length := by
        rw [List.length_append] at short
        rw [carriesMoved.buffered]
        omega
      obtain ⟨final, copiedRest, carriesAll, sameAfter⟩ :=
        carriesMoved.copyBytes [] count (short.le.trans bounded)
      rw [List.append_nil] at copiedRest
      simp only [size, copiedRest]
      rw [if_neg (by rw [carriesMoved.buffered]; exact incomplete), if_neg (by omega),
        if_neg (by rw [carriesMoved.buffered]; rw [List.length_append] at short; omega),
        if_neg (by rw [carriesAll.buffered]; omega)]
      exact ⟨final, rfl, carriesAll, by rw [sameAfter, same]⟩

/-! ## Both receivers -/

/-- The loop ends with enough fuel for the bytes of the chunk. -/
theorem processData_eq {chunk : List UInt8} {state next : ProcessData}
    (ends : processLoop (chunk.length + 1) chunk state = some (id next)) :
    processData chunk state = some next :=
  ends

/-- The loop ends with enough fuel for the bytes of the chunk. -/
theorem consumeReceivedBytes_eq {chunk : List UInt8} {client next : StressClient}
    (ends : consumeLoop (chunk.length + 1) chunk client = some (true, next)) :
    consumeReceivedBytes chunk client = some next := by
  rw [consumeReceivedBytes, ends]

/-- Two chunkings of the same part of a stream of frames.  Every call ends, and
both receivers have handed on exactly the frames that are complete, in order and
with their bytes; at the end of the stream these are the frames sent. -/
theorem receivers_exact {frames : List (List UInt8)}
    (areFrames : ∀ frame ∈ frames, IsServerFrame frame)
    (gameChunks stressChunks : List (List UInt8)) {stream : List UInt8}
    (ahead : stream <+: frames.flatten) (game : gameChunks.flatten = stream)
    (stress : stressChunks.flatten = stream) :
    ∃ state client, run processData gameChunks {} = some state ∧
      run consumeReceivedBytes stressChunks {} = some client ∧
      state.processed.map packetBytes = wholeBlocks frames stream.length ∧
      client.processed.map packetBytes = wholeBlocks frames stream.length ∧
      (stream = frames.flatten → wholeBlocks frames stream.length = frames) := by
  obtain ⟨state, ranGame, gamePackets⟩ :=
    processLoop_assembles.run_handed processData_eq areFrames gameChunks {} rfl ⟨rfl, rfl, rfl⟩ (game ▸ ahead)
  obtain ⟨client, ranStress, stressPackets⟩ :=
    consumeLoop_assembles.run_handed consumeReceivedBytes_eq areFrames stressChunks {} rfl
      ⟨rfl, rfl⟩ (stress ▸ ahead)
  rw [game] at gamePackets
  rw [stress] at stressPackets
  refine ⟨state, client, ranGame, ranStress, gamePackets, stressPackets, ?_⟩
  rintro rfl
  exact wholeBlocks_all frames

/-- Two frames, the one cut inside the first header, the other into bytes. -/
theorem receivers_exact_two_frames :
    ∃ state client, run processData [[4], [0, 7, 9, 3, 0], [1]] {} = some state ∧
      run consumeReceivedBytes [[4], [0], [7], [9], [3], [0], [1]] {} = some client ∧
      state.processed.map packetBytes = [[4, 0, 7, 9], [3, 0, 1]] ∧
      client.processed.map packetBytes = [[4, 0, 7, 9], [3, 0, 1]] := by
  have areFrames : ∀ frame ∈ [[4, 0, 7, 9], [3, 0, 1]], IsServerFrame frame := by
    simp only [List.mem_cons, List.not_mem_nil, or_false]
    rintro frame (rfl | rfl) <;> exact ⟨by decide, by decide, by decide⟩
  obtain ⟨state, client, ranGame, ranStress, gamePackets, stressPackets, all⟩ :=
    receivers_exact areFrames [[4], [0, 7, 9, 3, 0], [1]] [[4], [0], [7], [9], [3], [0], [1]]
      List.prefix_rfl rfl rfl
  rw [all rfl] at gamePackets stressPackets
  exact ⟨state, client, ranGame, ranStress, gamePackets, stressPackets⟩

end Client

end Mmorpg
