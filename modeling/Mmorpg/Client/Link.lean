import Mmorpg.Network.ServerFrame

/-!
# The link from the server to a client

The send path of a session, the socket and the receiver of a client in one
machine.  The server posts packets, the socket completes a part of a batch, the
client receives some of the completed bytes; the three interleave in any way.
-/

namespace Mmorpg

open Transition Network

universe u

namespace Client

/-! ## Receivers -/

/-- What a client does with a received chunk, and the arrays it has handed to
`ProcessPacket`. -/
structure Receiver (σ : Type u) where
  initial : σ
  feed : List UInt8 → σ → Option σ
  processed : σ → List (List UInt8)

/-- The receive loop of the game client. -/
def gameReceiver : Receiver ProcessData where
  initial := {}
  feed := processData
  processed := ProcessData.processed

/-- The receive loop of the stress test's client. -/
def stressReceiver : Receiver StressClient where
  initial := {}
  feed := consumeReceivedBytes
  processed := StressClient.processed

/-- However a stream of frames is cut, the receiver hands on those that are
complete. -/
def Receiver.Exact {σ : Type u} (receiver : Receiver σ) : Prop :=
  ∀ frames : List (List UInt8), (∀ frame ∈ frames, IsServerFrame frame) →
    ∀ chunks : List (List UInt8), chunks.flatten <+: frames.flatten →
      ∃ final, run receiver.feed chunks receiver.initial = some final ∧
        (receiver.processed final).map packetBytes = wholeBlocks frames chunks.flatten.length

/-- However its bytes are cut, the game client handles each frame once. -/
theorem gameReceiver_exact : gameReceiver.Exact := fun _ areFrames chunks ahead =>
  processLoop_assembles.run_handed processData_eq areFrames chunks {} rfl ⟨rfl, rfl, rfl⟩ ahead

theorem stressReceiver_exact : stressReceiver.Exact := fun _ areFrames chunks ahead =>
  consumeLoop_assembles.run_handed consumeReceivedBytes_eq areFrames chunks {} rfl ⟨rfl, rfl⟩ ahead

/-! ## The link -/

/-- The packets posted so far, the send path, how many of the completed bytes
have reached the client, and its receiver. -/
structure Link (σ : Type u) where
  packets : List ServerPacket
  sender : SendState
  delivered : Nat
  state : σ

/-- What can happen on a link: the server posts a packet, a batch of it is
sent, or some of the bytes sent arrive. -/
inductive LinkLabel
  | post (packet : ServerPacket)
  | complete (bytesTransferred : Nat)
  | deliver (bytes : Nat)

namespace Link

variable {σ : Type u} {receiver : Receiver σ}

/-- A new connection, with nothing posted and nothing delivered. -/
def start (receiver : Receiver σ) (buffer : Buffer sendBatchBufferSize) : Link σ where
  packets := []
  sender := SendState.start buffer
  delivered := 0
  state := receiver.initial

/-- The bytes the client has received. -/
def stream (link : Link σ) : List UInt8 :=
  link.sender.completed.take link.delivered

/-- One event of the link: the sender runs `SendState`, and the receiver is fed
the bytes that arrive. -/
def step (receiver : Receiver σ) (label : LinkLabel) (link : Link σ) : Option (Link σ) :=
  match label with
  | .post packet =>
      (sendStep (.post packet.frame) link.sender).map fun sender =>
        { link with packets := link.packets ++ [packet], sender := sender }
  | .complete bytesTransferred =>
      (sendStep (.complete bytesTransferred) link.sender).map fun sender =>
        { link with sender := sender }
  | .deliver bytes =>
      if 1 ≤ bytes ∧ link.delivered + bytes ≤ link.sender.completed.length then
        (receiver.feed ((link.sender.completed.drop link.delivered).take bytes) link.state).map
          fun state => { link with delivered := link.delivered + bytes, state := state }
      else none

/-- Nothing waits in the send path or on the way. -/
def Drained (link : Link σ) : Prop :=
  link.sender.outstanding = [] ∧ link.delivered = link.sender.completed.length

/-! ## Invariant -/

/-- The send path is in order and carries the frames of the packets, and the
receiver has got the stream in some chunks. -/
structure Faithful (receiver : Receiver σ) (link : Link σ) : Prop where
  orderly : Orderly link.sender
  posted : link.sender.posted = link.packets.map ServerPacket.frame
  behind : link.delivered ≤ link.sender.completed.length
  received : ∃ chunks, run receiver.feed chunks receiver.initial = some link.state ∧
    chunks.flatten = link.stream

theorem start_faithful (receiver : Receiver σ) (buffer : Buffer sendBatchBufferSize) :
    Faithful receiver (start receiver buffer) where
  orderly := start_orderly buffer
  posted := rfl
  behind := Nat.le_refl 0
  received := ⟨[], rfl, rfl⟩

variable {link next : Link σ}

/-- More completed bytes leave the ones received. -/
theorem stream_of_prefix {sender : SendState} (behind : link.delivered ≤ link.sender.completed.length)
    (more : link.sender.completed <+: sender.completed) :
    stream { link with sender := sender } = link.stream := by
  obtain ⟨later, whole⟩ := more
  rw [stream, stream]
  dsimp only
  rw [← whole, List.take_append_of_le_length behind]

theorem Faithful.step {label : LinkLabel} (faithful : Faithful receiver link)
    (taken : Link.step receiver label link = some next) : Faithful receiver next := by
  obtain ⟨orderly, posted, behind, chunks, ran, flat⟩ := faithful
  cases label with
  | post packet =>
      rcases Option.map_eq_some_iff.mp taken with ⟨sender, sent, rfl⟩
      have logs := post_logs sent
      refine ⟨orderly.step sent, ?_, ?_, chunks, ran, ?_⟩
      · rw [logs.1, posted, List.map_append]
        rfl
      · rw [logs.2]
        exact behind
      · rw [flat, stream, stream]
        dsimp only
        rw [logs.2]
  | complete bytesTransferred =>
      rcases Option.map_eq_some_iff.mp taken with ⟨sender, sent, rfl⟩
      have logs := complete_logs sent
      refine ⟨orderly.step sent, logs.1.trans posted, behind.trans logs.2.length_le, chunks, ran,
        ?_⟩
      rw [flat, stream_of_prefix behind logs.2]
  | deliver bytes =>
      rw [Link.step] at taken
      split at taken
      · next within =>
        rcases Option.map_eq_some_iff.mp taken with ⟨state, fed, rfl⟩
        refine ⟨orderly, posted, within.2,
          chunks ++ [(link.sender.completed.drop link.delivered).take bytes], ?_, ?_⟩
        · rw [run_append, ran]
          exact run_cons_eq_some.mpr ⟨state, fed, rfl⟩
        · rw [List.flatten_append, flat, List.flatten_singleton, stream, stream, List.take_add]
      · contradiction

/-! ## What arrives -/

/-- The frames that lie completely in the stream, read as packets. -/
theorem Faithful.processed (exact_ : receiver.Exact) (faithful : Faithful receiver link) :
    (receiver.processed link.state).map packetBytes =
      wholeBlocks (link.packets.map ServerPacket.frame) link.stream.length := by
  obtain ⟨orderly, posted, behind, chunks, ran, flat⟩ := faithful
  have areFrames : ∀ frame ∈ link.packets.map ServerPacket.frame, IsServerFrame frame := by
    intro frame member
    obtain ⟨packet, _, rfl⟩ := List.mem_map.mp member
    exact packet.isServerFrame_frame
  have ahead : chunks.flatten <+: (link.packets.map ServerPacket.frame).flatten := by
    rw [flat, ← posted]
    exact (List.take_prefix _ _).trans orderly.batched.completed_prefix
  obtain ⟨final, ends, handed⟩ := exact_ _ areFrames chunks ahead
  rw [ran] at ends
  rw [Option.some.inj ends, handed, flat]

/-- Arrays that start with the frames are read as the packets. -/
theorem map_read {arrays : List (List UInt8)} {packets : List ServerPacket}
    (frames : arrays.map packetBytes = packets.map ServerPacket.frame) :
    arrays.map ServerPacket.read = packets.map fun packet => some packet.kept := by
  induction arrays generalizing packets with
  | nil =>
      cases packets with
      | nil => rfl
      | cons packet later => contradiction
  | cons array rest ih =>
      cases packets with
      | nil => contradiction
      | cons packet later =>
          rw [List.map_cons, List.map_cons, List.cons.injEq] at frames
          rw [List.map_cons, List.map_cons, ServerPacket.read_of_packetBytes frames.1, ih frames.2]

/-- The packets handled are the first ones posted, and all of them once the
link is drained. -/
theorem Faithful.arrived (exact_ : receiver.Exact) (faithful : Faithful receiver link) :
    ∃ arrived later, link.packets = arrived ++ later ∧
      (receiver.processed link.state).map ServerPacket.read =
        arrived.map (fun packet => some packet.kept) ∧
      (link.Drained → later = []) := by
  have whole := faithful.processed exact_
  obtain ⟨orderly, posted, behind, _⟩ := faithful
  let frames := link.packets.map ServerPacket.frame
  let count := (wholeBlocks frames link.stream.length).length
  have front : wholeBlocks frames link.stream.length =
      (link.packets.take count).map ServerPacket.frame := by
    rw [List.map_take]
    exact List.prefix_iff_eq_take.mp (prefix_wholeBlocks _ _)
  refine ⟨link.packets.take count, link.packets.drop count, (List.take_append_drop _ _).symm,
    map_read (whole.trans front), ?_⟩
  rintro ⟨idle, reached⟩
  have sent : link.sender.completed = link.sender.posted.flatten := by
    by_contra remain
    exact orderly.batched.submitted remain idle
  rw [posted] at sent
  have all : link.stream = frames.flatten := by rw [stream, reached, List.take_length, sent]
  have everything : count = frames.length := by
    change (wholeBlocks frames link.stream.length).length = frames.length
    rw [all, wholeBlocks_all]
  rw [List.drop_eq_nil_iff, everything, List.length_map]

/-! ## Progress -/

theorem Faithful.posts (faithful : Faithful receiver link) (packet : ServerPacket) :
    ∃ next, Link.step receiver (.post packet) link = some next := by
  have bounded := packet.frame_bounded
  have long : 1 ≤ packet.frame.length := (by decide : 1 ≤ headerSize).trans bounded.1
  obtain ⟨sender, sent⟩ := faithful.orderly.batched.posts packet.frame long bounded.2.1
  refine ⟨_, Option.map_eq_some_iff.mpr ⟨sender, ?_, rfl⟩⟩
  rw [sendStep, if_pos ⟨long, bounded.2.1⟩, sent]
  rfl

/-- The receiver takes whatever part of the completed bytes comes next. -/
theorem Faithful.delivers (exact_ : receiver.Exact) (faithful : Faithful receiver link) {bytes : Nat}
    (some_ : 1 ≤ bytes) (within : link.delivered + bytes ≤ link.sender.completed.length) :
    ∃ state, Link.step receiver (.deliver bytes) link =
      some { link with delivered := link.delivered + bytes, state := state } := by
  obtain ⟨orderly, posted, behind, chunks, ran, flat⟩ := faithful
  have areFrames : ∀ frame ∈ link.packets.map ServerPacket.frame, IsServerFrame frame := by
    intro frame member
    obtain ⟨packet, _, rfl⟩ := List.mem_map.mp member
    exact packet.isServerFrame_frame
  have ahead : (chunks ++ [(link.sender.completed.drop link.delivered).take bytes]).flatten <+:
      (link.packets.map ServerPacket.frame).flatten := by
    rw [List.flatten_append, flat, List.flatten_singleton, stream, ← List.take_add, ← posted]
    exact (List.take_prefix _ _).trans orderly.batched.completed_prefix
  obtain ⟨final, ends, _⟩ := exact_ _ areFrames _ ahead
  rw [run_append, ran] at ends
  rcases run_cons_eq_some.mp ends with ⟨state, fed, _⟩
  exact ⟨state, by rw [Link.step, if_pos ⟨some_, within⟩, fed]; rfl⟩

/-- The socket can complete the whole batch in flight. -/
theorem Faithful.completes (faithful : Faithful receiver link)
    (busy : link.sender.outstanding ≠ []) : ∃ bytes sender,
      Link.step receiver (.complete bytes) link = some { link with sender := sender } ∧
        link.sender.completed.length < sender.completed.length := by
  have batched := faithful.orderly.batched
  obtain ⟨batch, later, out⟩ := List.exists_cons_of_ne_nil busy
  have member : batch ∈ link.sender.outstanding := out ▸ List.mem_cons_self
  have single : later = [] := by
    have one := batched.oneBatch
    rw [out, List.length_cons] at one
    exact List.length_eq_zero_iff.mp (by omega)
  have long := List.length_pos_iff.mpr (batched.follows batch member).1
  obtain ⟨sender, handled⟩ := batched.completes batch member batch.length long (Nat.le_refl _)
  have sent : sendStep (.complete batch.length) link.sender = some sender := by
    simp only [sendStep, out, single]
    rw [if_pos ⟨long, Nat.le_refl _⟩, handled]
    rfl
  refine ⟨batch.length, sender, Option.map_eq_some_iff.mpr ⟨sender, sent, rfl⟩, ?_⟩
  have logs := handleSendCompletion_logs handled
  rw [logs.2, List.length_append, List.take_length]
  omega

/-- Without further posts, completions and deliveries empty the link. -/
theorem Faithful.drains (exact_ : receiver.Exact) (faithful : Faithful receiver link) :
    ∃ labels next, (∀ packet, LinkLabel.post packet ∉ labels) ∧
      run (Link.step receiver) labels link = some next ∧ next.Drained ∧
      next.packets = link.packets := by
  induction remaining : link.sender.posted.flatten.length - link.sender.completed.length
    using Nat.strong_induction_on generalizing link with
  | _ amount ih =>
    by_cases idle : link.sender.outstanding = []
    · by_cases reached : link.delivered = link.sender.completed.length
      · exact ⟨[], link, fun _ member => absurd member List.not_mem_nil, rfl, ⟨idle, reached⟩, rfl⟩
      · have behind := faithful.behind
        obtain ⟨state, taken⟩ := faithful.delivers exact_
          (by omega : 1 ≤ link.sender.completed.length - link.delivered) (by omega)
        refine ⟨[.deliver _], _, by simp, run_cons_eq_some.mpr ⟨_, taken, rfl⟩, ⟨idle, ?_⟩, rfl⟩
        dsimp only
        omega
    · obtain ⟨bytes, sender, taken, more⟩ := faithful.completes idle
      have kept := faithful.step taken
      have bounded := kept.orderly.batched.completed_prefix.length_le
      have posted : sender.posted = link.sender.posted := kept.posted.trans faithful.posted.symm
      have fewer : sender.posted.flatten.length - sender.completed.length < amount := by
        dsimp only at bounded
        rw [posted] at bounded ⊢
        omega
      obtain ⟨labels, last, silent, ran, drained, same⟩ := ih _ fewer kept rfl
      refine ⟨.complete bytes :: labels, last, ?_, run_cons_eq_some.mpr ⟨_, taken, ran⟩, drained, same⟩
      intro packet member
      rcases List.mem_cons.mp member with impossible | later
      · contradiction
      · exact silent packet later

/-! ## Runs -/

/-- Every link that was used from the start is faithful. -/
theorem run_faithful {buffer : Buffer sendBatchBufferSize} {labels : List LinkLabel}
    (ran : run (Link.step receiver) labels (start receiver buffer) = some link) :
    Faithful receiver link :=
  invariant_of_run (fun _ _ _ taken faithful => Faithful.step faithful taken) ran
    (start_faithful receiver buffer)

/-- What holds of the link in every state. -/
structure Sound (receiver : Receiver σ) (link : Link σ) : Prop where
  arrived : ∃ arrived later, link.packets = arrived ++ later ∧
    (receiver.processed link.state).map ServerPacket.read =
      arrived.map (fun packet => some packet.kept) ∧ (link.Drained → later = [])
  posts : ∀ packet, ∃ next, Link.step receiver (.post packet) link = some next
  delivers : ∀ bytes, 1 ≤ bytes → link.delivered + bytes ≤ link.sender.completed.length →
    ∃ next, Link.step receiver (.deliver bytes) link = some next
  drains : ∃ labels next, (∀ packet, LinkLabel.post packet ∉ labels) ∧
    run (Link.step receiver) labels link = some next ∧ next.Drained ∧ next.packets = link.packets

theorem Faithful.sound (exact_ : receiver.Exact) (faithful : Faithful receiver link) :
    Sound receiver link where
  arrived := faithful.arrived exact_
  posts := faithful.posts
  delivers bytes some_ within := by
    obtain ⟨state, taken⟩ := faithful.delivers exact_ some_ within
    exact ⟨_, taken⟩
  drains := faithful.drains exact_

/-- Any packets can be posted and then delivered. -/
theorem exists_drained (exact_ : receiver.Exact) (buffer : Buffer sendBatchBufferSize)
    (packets : List ServerPacket) : ∃ labels link,
      run (Link.step receiver) labels (start receiver buffer) = some link ∧ link.Drained ∧
        link.packets = packets := by
  obtain ⟨labels, link, ran, posted⟩ : ∃ labels link,
      run (Link.step receiver) labels (start receiver buffer) = some link ∧
        link.packets = packets := by
    induction packets using List.reverseRecOn with
    | nil => exact ⟨[], _, rfl, rfl⟩
    | append_singleton earlier packet ih =>
        obtain ⟨labels, link, ran, same⟩ := ih
        obtain ⟨next, taken⟩ := (run_faithful ran).posts packet
        refine ⟨labels ++ [.post packet], next, ?_, ?_⟩
        · exact run_append_eq_some.mpr ⟨link, ran, run_cons_eq_some.mpr ⟨next, taken, rfl⟩⟩
        · rcases Option.map_eq_some_iff.mp taken with ⟨sender, _, rfl⟩
          exact congrArg (· ++ [packet]) same
  obtain ⟨later, next, _, ranLater, drained, same⟩ := (run_faithful ran).drains exact_
  exact ⟨labels ++ later, next, run_append_eq_some.mpr ⟨link, ran, ranLater⟩, drained,
    same.trans posted⟩

end Link

/-- From the server to either client, in every interleaving of posts, partial
completions and receives: what the client has read is what was posted first, as
the structs keep it, and all of it once the link is drained; nothing is refused
and nothing gets stuck. -/
theorem packets_delivered {buffer : Buffer sendBatchBufferSize} {gameLabels stressLabels : List LinkLabel}
    {game : Link ProcessData} {stress : Link StressClient}
    (gameRan : run (Link.step gameReceiver) gameLabels (Link.start gameReceiver buffer) = some game)
    (stressRan : run (Link.step stressReceiver) stressLabels (Link.start stressReceiver buffer) =
      some stress) : game.Sound gameReceiver ∧ stress.Sound stressReceiver :=
  ⟨(Link.run_faithful gameRan).sound gameReceiver_exact,
    (Link.run_faithful stressRan).sound stressReceiver_exact⟩

/-- Two packets, sent in two batches that are cut in other places. -/
theorem packets_delivered_sample : ∃ (game : Link ProcessData) (stress : Link StressClient),
    (gameReceiver.processed game.state).map ServerPacket.read = [some (.userHealInf 30)] ∧
      (stressReceiver.processed stress.state).map ServerPacket.read =
        [some (.itemPickupAck true), some .userLoginFailAck] := by
  obtain ⟨_, game, gameRan, gameDrained, gamePosted⟩ := Link.exists_drained gameReceiver_exact
    (Buffer.zero sendBatchBufferSize) [.userHealInf 30]
  obtain ⟨_, stress, stressRan, stressDrained, stressPosted⟩ :=
    Link.exists_drained stressReceiver_exact (Buffer.zero sendBatchBufferSize)
      [.itemPickupAck true, .userLoginFailAck]
  have sound := packets_delivered gameRan stressRan
  obtain ⟨first, later, split, read, all⟩ := sound.1.arrived
  rw [gamePosted, all gameDrained, List.append_nil] at split
  obtain ⟨others, rest, splitOthers, readOthers, allOthers⟩ := sound.2.arrived
  rw [stressPosted, allOthers stressDrained, List.append_nil] at splitOthers
  refine ⟨game, stress, ?_, ?_⟩
  · rw [read, ← split]
    decide
  · rw [readOthers, ← splitOthers]
    decide

end Client

end Mmorpg
