import Mmorpg.Network.Receive

/-!
# Malformed receive streams

What the `IO_RECV` branch does when a size field is out of range.  Every stream
is a list of legal frames and a rest that is no legal frame; the rest decides
whether the session waits for it, hands it on or is disconnected.
-/

namespace Mmorpg

open Transition

namespace Network

/-! ## Legal sizes -/

/-- A size between the header and the longest client packet. -/
def LegalSize (size : Nat) : Prop :=
  headerSize ≤ size ∧ size ≤ maxClientPacketSize

instance (size : Nat) : Decidable (LegalSize size) :=
  inferInstanceAs (Decidable (_ ∧ _))

/-- A proper prefix of a legal frame, as far as its bytes tell. -/
def Begun (tail : List UInt8) : Prop :=
  tail.length < 2 ∨
    (LegalSize (Buffer.readUInt16 0 tail) ∧ tail.length < Buffer.readUInt16 0 tail)

/-- A complete size field that is out of range. -/
def Malformed (tail : List UInt8) : Prop :=
  2 ≤ tail.length ∧ ¬LegalSize (Buffer.readUInt16 0 tail)

instance (tail : List UInt8) : Decidable (Begun tail) :=
  inferInstanceAs (Decidable (_ ∨ _))

instance (tail : List UInt8) : Decidable (Malformed tail) :=
  inferInstanceAs (Decidable (_ ∧ _))

/-- No legal frame is complete at the front. -/
def Stuck (tail : List UInt8) : Prop :=
  Begun tail ∨ Malformed tail

variable {frames first second : List (List UInt8)} {frame tail data : List UInt8}

theorem IsFrame.legalSize (isFrame : IsFrame frame) : LegalSize frame.length :=
  ⟨isFrame.header, isFrame.bounded⟩

/-- A frame stands at the front of what begins with it. -/
theorem IsFrame.size_append (isFrame : IsFrame frame) (data : List UInt8) :
    Buffer.readUInt16 0 (frame ++ data) = frame.length := by
  have long : 0 + 2 ≤ frame.length := Nat.le_of_succ_le isFrame.header
  rw [← Buffer.readUInt16_of_prefix (List.prefix_append frame data) long, isFrame.size]

/-- A stuck tail does not begin with a frame. -/
theorem Stuck.ne_append (stuck : Stuck tail) (isFrame : IsFrame frame) : tail ≠ frame ++ data := by
  have header : 3 ≤ frame.length := isFrame.header
  rintro rfl
  rcases stuck with short | malformed
  · rw [Begun, isFrame.size_append, List.length_append] at short
    omega
  · exact malformed.2 (isFrame.size_append data ▸ isFrame.legalSize)

theorem Malformed.append (malformed : Malformed tail) (data : List UInt8) :
    Malformed (tail ++ data) := by
  obtain ⟨long, illegal⟩ := malformed
  refine ⟨by simp; omega, ?_⟩
  rwa [← Buffer.readUInt16_of_prefix (List.prefix_append tail data) (by omega)]

/-- A malformed tail is not the beginning of a frame. -/
theorem Malformed.not_begun (malformed : Malformed tail) : ¬Begun tail := by
  rintro (short | legal)
  · exact absurd malformed.1 (Nat.not_le.mpr short)
  · exact malformed.2 legal.1

/-- Legal frames are taken off the front until none is complete. -/
theorem exists_split (data : List UInt8) :
    ∃ (frames : List (List UInt8)) (tail : List UInt8), (∀ frame ∈ frames, IsFrame frame) ∧
      data = frames.flatten ++ tail ∧ Stuck tail := by
  induction length : data.length using Nat.strong_induction_on generalizing data with
  | _ length ih =>
    subst length
    by_cases header : 2 ≤ data.length
    · by_cases legal : LegalSize (Buffer.readUInt16 0 data)
      · by_cases complete : Buffer.readUInt16 0 data ≤ data.length
        · let size := Buffer.readUInt16 0 data
          have positive : 3 ≤ size := legal.1
          have taken : (data.take size).length = size := List.length_take_of_le complete
          have isFrame : IsFrame (data.take size) := by
            refine ⟨?_, ?_, ?_⟩
            · rw [taken]
              exact legal.1
            · rw [taken]
              exact legal.2
            · rw [Buffer.readUInt16_of_prefix (List.take_prefix size data) (by omega), taken]
          obtain ⟨frames, tail, areFrames, split, stuck⟩ :=
            ih (data.drop size).length (by rw [List.length_drop]; omega) (data.drop size) rfl
          refine ⟨data.take size :: frames, tail, ?_, ?_, stuck⟩
          · exact List.forall_mem_cons.mpr ⟨isFrame, areFrames⟩
          · rw [List.flatten_cons, List.append_assoc, ← split, List.take_append_drop]
        · exact ⟨[], data, by simp, rfl, .inl (.inr ⟨legal, Nat.not_le.mp complete⟩)⟩
      · exact ⟨[], data, by simp, rfl, .inr ⟨header, legal⟩⟩
    · exact ⟨[], data, by simp, rfl, .inl (.inl (Nat.not_le.mp header))⟩

/-- There is only one way to take the legal frames off a stream. -/
theorem split_unique (areFirst : ∀ frame ∈ first, IsFrame frame)
    (areSecond : ∀ frame ∈ second, IsFrame frame) {firstTail secondTail : List UInt8}
    (same : first.flatten ++ firstTail = second.flatten ++ secondTail)
    (firstStuck : Stuck firstTail) (secondStuck : Stuck secondTail) :
    first = second ∧ firstTail = secondTail := by
  induction first generalizing second with
  | nil =>
      cases second with
      | nil => exact ⟨rfl, same⟩
      | cons frame later =>
          rw [List.flatten_cons, List.append_assoc] at same
          exact absurd same (firstStuck.ne_append (areSecond frame List.mem_cons_self))
  | cons frame rest ih =>
      rw [List.flatten_cons, List.append_assoc] at same
      have isFrame := areFirst frame List.mem_cons_self
      cases second with
      | nil => exact absurd same.symm (secondStuck.ne_append isFrame)
      | cons other later =>
          rw [List.flatten_cons, List.append_assoc] at same
          have isOther := areSecond other List.mem_cons_self
          have sameLength : frame.length = other.length := by
            rw [← isFrame.size_append, same, isOther.size_append]
          obtain ⟨rfl, sameRest⟩ := List.append_inj same sameLength
          obtain ⟨rfl, sameTail⟩ :=
            ih (fun block member => areFirst block (List.mem_cons_of_mem _ member))
              (fun block member => areSecond block (List.mem_cons_of_mem _ member)) sameRest
          exact ⟨rfl, sameTail⟩

/-! ## The packet loop -/

section Loop

variable {buffer : List UInt8} {p : Nat} {enqueued : List (List UInt8)}

/-- All legal frames at the front are handed on. -/
theorem recvLoop_frames (areFrames : ∀ frame ∈ frames, IsFrame frame)
    (within : frames.flatten ++ tail <+: buffer.drop p) :
    recvLoop buffer p (frames.flatten ++ tail).length enqueued =
      recvLoop buffer (p + frames.flatten.length) tail.length (enqueued ++ frames) := by
  induction frames generalizing p enqueued with
  | nil => simp
  | cons frame later ih =>
      rw [List.flatten_cons, List.append_assoc] at within ⊢
      have beyond : later.flatten ++ tail <+: buffer.drop (p + frame.length) := by
        obtain ⟨unread, same⟩ := within
        rw [← List.drop_drop, ← same, List.append_assoc, List.drop_left]
        exact List.prefix_append _ unread
      rw [recvLoop_of_complete enqueued (areFrames frame List.mem_cons_self) within,
        ih (fun other member => areFrames other (List.mem_cons_of_mem _ member)) beyond]
      simp [Nat.add_assoc]

theorem readUInt16_within (within : tail <+: buffer.drop p) (header : 2 ≤ tail.length) :
    Buffer.readUInt16 p buffer = Buffer.readUInt16 0 tail := by
  rw [← Buffer.readUInt16_drop, ← Buffer.readUInt16_of_prefix within (by omega)]

/-- Its three exits without a packet. -/
theorem recvLoop_waits (within : tail <+: buffer.drop p)
    (waits : tail.length < 2 ∨ Buffer.readUInt16 0 tail = 0 ∨
      tail.length < Buffer.readUInt16 0 tail) :
    recvLoop buffer p tail.length enqueued = ⟨p, tail.length, enqueued, false⟩ := by
  rw [recvLoop]
  by_cases header : tail.length < 2
  · by_cases some : tail.length > 0
    · rw [if_pos some, if_pos header]
    · rw [if_neg some]
  · rw [if_pos (by omega), if_neg header]
    simp only [readUInt16_within within (Nat.not_lt.mp header)]
    by_cases zero : Buffer.readUInt16 0 tail = 0
    · rw [if_pos zero]
    · rw [if_neg zero, if_pos (by omega)]

/-- A complete frame beyond the longest packet is refused. -/
theorem recvLoop_refuses (within : tail <+: buffer.drop p)
    (long : maxClientPacketSize < Buffer.readUInt16 0 tail)
    (complete : Buffer.readUInt16 0 tail ≤ tail.length) :
    recvLoop buffer p tail.length enqueued =
      ⟨p, tail.length, enqueued ++ [tail.take (Buffer.readUInt16 0 tail)], true⟩ := by
  rw [maxClientPacketSize_eq] at long
  have bytes : (buffer.drop p).take (Buffer.readUInt16 0 tail) =
      tail.take (Buffer.readUInt16 0 tail) := by
    obtain ⟨beyond, same⟩ := within
    rw [← same, List.take_append_of_le_length complete]
  rw [recvLoop, if_pos (by omega), if_neg (by omega)]
  simp only [readUInt16_within within (by omega), bytes]
  rw [if_neg (by omega), if_neg (by omega), if_pos]
  simp [enqueuePacketDispatch, maxClientPacketSize_eq, long]

/-- What was handed on stays handed on. -/
theorem prefix_recvLoop (buffer : List UInt8) (p remainData : Nat)
    (enqueued : List (List UInt8)) :
    enqueued <+: (recvLoop buffer p remainData enqueued).enqueued := by
  induction remainData using Nat.strong_induction_on generalizing p enqueued with
  | _ remainData ih =>
    rw [recvLoop]
    split
    · next some =>
      split
      · exact List.prefix_rfl
      · simp only
        split
        · exact List.prefix_rfl
        · next nonzero =>
          split
          · exact List.prefix_rfl
          · split
            · exact List.prefix_append _ _
            · exact (List.prefix_append _ _).trans
                (ih _ (Nat.sub_lt some (Nat.pos_of_ne_zero nonzero)) _ _)
    · exact List.prefix_rfl

/-- A size that leaves no room for the type byte. -/
theorem recvLoop_short (enqueued : List (List UInt8)) (within : tail <+: buffer.drop p)
    (header : 2 ≤ tail.length) (positive : 0 < Buffer.readUInt16 0 tail)
    (short : Buffer.readUInt16 0 tail < headerSize) :
    enqueued ++ [tail.take (Buffer.readUInt16 0 tail)] <+:
      (recvLoop buffer p tail.length enqueued).enqueued := by
  have small : Buffer.readUInt16 0 tail ≤ 2 := Nat.le_of_lt_succ short
  have bytes : (buffer.drop p).take (Buffer.readUInt16 0 tail) =
      tail.take (Buffer.readUInt16 0 tail) := by
    obtain ⟨beyond, same⟩ := within
    rw [← same, List.take_append_of_le_length (by omega)]
  rw [recvLoop, if_pos (by omega), if_neg (by omega)]
  simp only [readUInt16_within within header, bytes]
  rw [if_neg (by omega), if_neg (by omega), if_neg]
  · exact prefix_recvLoop _ _ _ _
  · have accepted : enqueuePacketDispatch (Buffer.readUInt16 0 tail) = true := by
      simp only [enqueuePacketDispatch, maxClientPacketSize_eq, Bool.not_eq_true',
        decide_eq_false_iff_not]
      omega
    simp [accepted]

end Loop

/-! ## One completion -/

/-- The session is closed or waits for the rest of a legal frame, and every
packet that was accepted has a type byte. -/
structure RejectsMalformed (state : RecvState) : Prop where
  waits : state.disconnecting = true ∨ Begun state.retained
  typed : ∀ packet ∈ state.enqueued, enqueuePacketDispatch packet.length = true →
    headerSize ≤ packet.length

/-- Only legal frames were handed on, and the receive is posted behind the
beginning of the next one. -/
structure Tidy (state : RecvState) : Prop where
  areFrames : ∀ frame ∈ state.enqueued, IsFrame frame
  begun : Begun state.retained
  pending : state.retained.length = state.pendingRecvBytes
  posted : state.wsaOffset = state.pendingRecvBytes
  length : state.wsaLen = bufSize - state.pendingRecvBytes

/-- A session whose buffer is in order rejects what is malformed. -/
theorem Tidy.rejects {state : RecvState} (tidy : Tidy state) : RejectsMalformed state :=
  ⟨.inr tidy.begun, fun packet member _ => (tidy.areFrames packet member).header⟩

/-- A frame beyond the longest packet, all of whose bytes are there. -/
def Oversized (tail : List UInt8) : Prop :=
  maxClientPacketSize < Buffer.readUInt16 0 tail ∧ Buffer.readUInt16 0 tail ≤ tail.length

instance (tail : List UInt8) : Decidable (Oversized tail) :=
  inferInstanceAs (Decidable (_ ∧ _))

theorem Oversized.malformed (oversized : Oversized tail) : Malformed tail := by
  obtain ⟨long, complete⟩ := oversized
  refine ⟨?_, fun legal => Nat.not_le.mpr long legal.2⟩
  rw [maxClientPacketSize_eq] at long
  omega

section Completion

variable {state : RecvState} {chunk : List UInt8}

/-- There is room for what `WSARecv` was asked for. -/
theorem Tidy.room (tidy : Tidy state) (fits : 1 ≤ chunk.length ∧ chunk.length ≤ state.wsaLen) :
    state.pendingRecvBytes + chunk.length ≤ bufSize := by
  have length := tidy.length
  omega

/-- The loop comes to what follows the legal frames. -/
theorem Tidy.recvLoop_eq (tidy : Tidy state)
    (fits : 1 ≤ chunk.length ∧ chunk.length ≤ state.wsaLen)
    (areFrames : ∀ frame ∈ frames, IsFrame frame)
    (split : state.retained ++ chunk = frames.flatten ++ tail) :
    let stored := state.buffer.copyAt state.wsaOffset chunk
    tail <+: stored.bytes.drop frames.flatten.length ∧
      recvLoop stored.bytes 0 (state.retained ++ chunk).length state.enqueued =
        recvLoop stored.bytes frames.flatten.length tail.length (state.enqueued ++ frames) := by
  have within := state.prefix_stored tidy.posted (tidy.room fits)
  rw [split] at within ⊢
  constructor
  · obtain ⟨beyond, same⟩ := within
    rw [← same, List.append_assoc, List.drop_left]
    exact List.prefix_append tail beyond
  · rw [recvLoop_frames areFrames within, Nat.zero_add]

/-- A tail at which the loop waits is kept. -/
theorem Tidy.complete_waits (tidy : Tidy state)
    (fits : 1 ≤ chunk.length ∧ chunk.length ≤ state.wsaLen)
    (areFrames : ∀ frame ∈ frames, IsFrame frame)
    (split : state.retained ++ chunk = frames.flatten ++ tail)
    (waits : tail.length < 2 ∨ Buffer.readUInt16 0 tail = 0 ∨
      tail.length < Buffer.readUInt16 0 tail) :
    (state.complete chunk).retained = tail ∧
      (state.complete chunk).disconnecting = state.disconnecting ∧
      (Begun tail → Tidy (state.complete chunk)) := by
  obtain ⟨within, comes⟩ := tidy.recvLoop_eq fits areFrames split
  have stops := comes.trans (recvLoop_waits within waits)
  obtain ⟨kept, completed, retained, pending, handed, closed⟩ :=
    RecvState.complete_eq tidy.pending tidy.posted (tidy.room fits) split stops
  rw [completed]
  refine ⟨retained, closed, fun begun => ?_⟩
  have short : tail.length ≤ bufSize := by
    have longer := congrArg List.length split
    have room := tidy.room fits
    rw [List.length_append, List.length_append, tidy.pending] at longer
    omega
  have size : bufSize = 1024 := rfl
  exact {
    areFrames := by
      intro frame member
      rcases List.mem_append.mp (handed ▸ member : frame ∈ state.enqueued ++ frames) with
        before | now
      · exact tidy.areFrames frame before
      · exact areFrames frame now
    begun := retained.symm ▸ begun
    pending := (congrArg List.length retained).trans pending.symm
    posted := rfl
    length := by
      simp only [RecvState.postRecv, pending]
      omega }

/-- A whole frame beyond the longest packet closes the session. -/
theorem Tidy.complete_oversized (tidy : Tidy state)
    (fits : 1 ≤ chunk.length ∧ chunk.length ≤ state.wsaLen)
    (areFrames : ∀ frame ∈ frames, IsFrame frame)
    (split : state.retained ++ chunk = frames.flatten ++ tail) (oversized : Oversized tail) :
    (state.complete chunk).disconnecting = true ∧ RejectsMalformed (state.complete chunk) := by
  obtain ⟨within, comes⟩ := tidy.recvLoop_eq fits areFrames split
  have stops := comes.trans (recvLoop_refuses within oversized.1 oversized.2)
  have remaining : chunk.length + state.pendingRecvBytes = (state.retained ++ chunk).length := by
    rw [List.length_append, tidy.pending, Nat.add_comm]
  simp only [RecvState.complete, remaining, stops, if_true]
  refine ⟨trivial, .inl rfl, ?_⟩
  intro packet member accepted
  simp only [List.mem_append, List.mem_singleton] at member
  rcases member with (before | now) | rfl
  · exact (tidy.areFrames packet before).header
  · exact (areFrames packet now).header
  · have long := oversized.1
    rw [List.length_take_of_le oversized.2] at accepted
    simp [enqueuePacketDispatch, long] at accepted

/-- Any other size field out of range is waited for or handed on without a
type byte. -/
theorem Tidy.complete_malformed (tidy : Tidy state)
    (fits : 1 ≤ chunk.length ∧ chunk.length ≤ state.wsaLen)
    (areFrames : ∀ frame ∈ frames, IsFrame frame)
    (split : state.retained ++ chunk = frames.flatten ++ tail) (malformed : Malformed tail)
    (fitting : ¬Oversized tail) (opened : state.disconnecting = false) :
    ¬RejectsMalformed (state.complete chunk) := by
  intro rejects
  by_cases waits : tail.length < 2 ∨ Buffer.readUInt16 0 tail = 0 ∨
      tail.length < Buffer.readUInt16 0 tail
  · obtain ⟨retained, closed, _⟩ := tidy.complete_waits fits areFrames split waits
    rcases rejects.waits with disconnecting | begun
    · rw [closed, opened] at disconnecting
      contradiction
    · exact malformed.not_begun (retained ▸ begun)
  · simp only [not_or, Nat.not_lt] at waits
    obtain ⟨header, nonzero, complete⟩ := waits
    have short : Buffer.readUInt16 0 tail < headerSize := by
      by_contra typed
      have bounded : ¬maxClientPacketSize < Buffer.readUInt16 0 tail :=
        fun long => fitting ⟨long, complete⟩
      exact malformed.2 ⟨Nat.not_lt.mp typed, Nat.not_lt.mp bounded⟩
    obtain ⟨within, comes⟩ := tidy.recvLoop_eq fits areFrames split
    have remaining : chunk.length + state.pendingRecvBytes = (state.retained ++ chunk).length := by
      rw [List.length_append, tidy.pending, Nat.add_comm]
    have handed : tail.take (Buffer.readUInt16 0 tail) ∈ (state.complete chunk).enqueued := by
      have begins := recvLoop_short (state.enqueued ++ frames) within header
        (Nat.pos_of_ne_zero nonzero) short
      rw [← comes] at begins
      have member := begins.subset (List.mem_append_right _ List.mem_cons_self)
      simp only [RecvState.complete, remaining]
      split
      · exact member
      · exact member
    have small : Buffer.readUInt16 0 tail ≤ 2 := Nat.le_of_lt_succ short
    have typed := rejects.typed _ handed
    rw [List.length_take_of_le complete] at typed
    have accepted : enqueuePacketDispatch (Buffer.readUInt16 0 tail) = true := by
      simp only [enqueuePacketDispatch, maxClientPacketSize_eq, Bool.not_eq_true',
        decide_eq_false_iff_not]
      omega
    exact absurd (typed accepted) (Nat.not_le.mpr short)

end Completion

/-! ## All completions -/

/-- Malformed bytes are rejected after every completion of a run. -/
def AlwaysRejects (chunks : List (List UInt8)) (state : RecvState) : Prop :=
  ∀ earlier reached, earlier <+: chunks → run receive earlier state = some reached →
    RejectsMalformed reached

/-- The last of the chunks brings the whole oversized frame behind the frames,
and with it the last byte of its size field.  `retained` came before. -/
structure RefusedOnArrival (retained : List UInt8) (chunks frames : List (List UInt8))
    (tail : List UInt8) : Prop where
  oversized : Oversized tail
  arrives : ∃ earlier last, chunks = earlier ++ [last] ∧
    (retained ++ earlier.flatten).length < frames.flatten.length + 2

/-- The bytes are legal frames and the beginning of one, or an oversized frame
follows that arrives as a whole. -/
def WellBehaved (retained : List UInt8) (chunks : List (List UInt8)) : Prop :=
  ∃ (frames : List (List UInt8)) (tail : List UInt8), (∀ frame ∈ frames, IsFrame frame) ∧
    retained ++ chunks.flatten = frames.flatten ++ tail ∧
    (Begun tail ∨ RefusedOnArrival retained chunks frames tail)

theorem alwaysRejects_cons {chunk : List UInt8} {later : List (List UInt8)}
    {state next : RecvState} (taken : receive chunk state = some next) :
    AlwaysRejects (chunk :: later) state ↔ RejectsMalformed state ∧ AlwaysRejects later next := by
  constructor
  · intro always
    refine ⟨always [] state List.nil_prefix rfl, fun earlier reached before ran => ?_⟩
    exact always (chunk :: earlier) reached (List.cons_prefix_cons.mpr ⟨rfl, before⟩)
      (run_cons_eq_some.mpr ⟨next, taken, ran⟩)
  · rintro ⟨now, always⟩ earlier reached before ran
    cases earlier with
    | nil =>
        obtain rfl := Option.some.inj ran
        exact now
    | cons first rest =>
        obtain ⟨rfl, shorter⟩ := List.cons_prefix_cons.mp before
        obtain ⟨middle, took, goes⟩ := run_cons_eq_some.mp ran
        obtain rfl := Option.some.inj (taken.symm.trans took)
        exact always rest reached shorter goes

theorem Stuck.of_wellBehaved {retained : List UInt8} {chunks : List (List UInt8)}
    (behaves : Begun tail ∨ RefusedOnArrival retained chunks frames tail) : Stuck tail :=
  behaves.imp_right fun refused => refused.oversized.malformed

section Splitting

variable {retained chunk : List UInt8} {later : List (List UInt8)}

/-- Behind a chunk that ends in the beginning of a frame, the rest of the
stream decides. -/
theorem wellBehaved_cons (areFrames : ∀ frame ∈ frames, IsFrame frame)
    (split : retained ++ chunk = frames.flatten ++ tail) (begun : Begun tail) :
    WellBehaved retained (chunk :: later) ↔ WellBehaved tail later := by
  have longer : ∀ more : List UInt8, retained ++ (chunk ++ more) =
      frames.flatten ++ (tail ++ more) := by
    intro more
    rw [← List.append_assoc, split, List.append_assoc]
  constructor
  · rintro ⟨all, last, areAll, whole, behaves⟩
    obtain ⟨more, rest, areMore, splitLater, stuck⟩ := exists_split (tail ++ later.flatten)
    have both : ∀ frame ∈ frames ++ more, IsFrame frame :=
      List.forall_mem_append.mpr ⟨areFrames, areMore⟩
    rw [List.flatten_cons, longer, splitLater, ← List.append_assoc, ← List.flatten_append] at whole
    obtain ⟨rfl, rfl⟩ := split_unique both areAll whole stuck (.of_wellBehaved behaves)
    refine ⟨more, rest, areMore, splitLater, behaves.imp_right fun refused => ?_⟩
    refine ⟨refused.oversized, ?_⟩
    obtain ⟨earlier, final, chunks, arrives⟩ := refused.arrives
    cases earlier with
    | nil =>
        -- nothing came after the chunk, which ends in a legal beginning
        obtain ⟨rfl, rfl⟩ := List.cons.inj chunks
        obtain ⟨_, rfl⟩ := split_unique (by simp : ∀ frame ∈ [], IsFrame frame) areMore
          (by simpa using splitLater) (.inl begun) stuck
        exact absurd begun refused.oversized.malformed.not_begun
    | cons first rest' =>
        obtain ⟨rfl, rfl⟩ := List.cons.inj chunks
        refine ⟨rest', final, rfl, ?_⟩
        rw [List.flatten_cons, longer, List.flatten_append] at arrives
        simp only [List.length_append] at arrives ⊢
        omega
  · rintro ⟨more, rest, areMore, splitLater, behaves⟩
    refine ⟨frames ++ more, rest, List.forall_mem_append.mpr ⟨areFrames, areMore⟩, ?_,
      behaves.imp_right fun refused => ⟨refused.oversized, ?_⟩⟩
    · rw [List.flatten_cons, longer, splitLater, List.flatten_append, List.append_assoc]
    · obtain ⟨earlier, final, rfl, arrives⟩ := refused.arrives
      refine ⟨chunk :: earlier, final, rfl, ?_⟩
      rw [List.flatten_cons, longer, List.flatten_append]
      simp only [List.length_append] at arrives ⊢
      omega

/-- An oversized frame that the chunk brings as a whole. -/
theorem wellBehaved_of_oversized (begun : Begun retained)
    (areFrames : ∀ frame ∈ frames, IsFrame frame)
    (split : retained ++ chunk = frames.flatten ++ tail) (oversized : Oversized tail) :
    WellBehaved retained [chunk] := by
  refine ⟨frames, tail, areFrames, by simpa using split, .inr ⟨oversized, [], chunk, rfl, ?_⟩⟩
  by_contra before
  simp only [List.flatten_nil, List.append_nil, Nat.not_lt] at before
  -- else the size field stood in the retained bytes
  obtain ⟨start, rfl⟩ : frames.flatten <+: retained :=
    List.prefix_of_prefix_length_le (List.prefix_append _ tail)
      (split ▸ List.prefix_append retained chunk) (by omega)
  rw [List.append_assoc, List.append_cancel_left_eq] at split
  have header : 2 ≤ start.length := by
    rw [List.length_append] at before
    omega
  have malformed : Malformed start := by
    have illegal := oversized.malformed.2
    rw [← split, ← Buffer.readUInt16_of_prefix (List.prefix_append start chunk) header] at illegal
    exact ⟨header, illegal⟩
  have same := (split_unique (by simp : ∀ frame ∈ [], IsFrame frame) areFrames
    (List.nil_append _) (.inl begun) (.inr malformed)).2
  exact malformed.not_begun (same ▸ begun)

/-- A malformed size that is not too large goes unnoticed for a while. -/
theorem not_wellBehaved (areFrames : ∀ frame ∈ frames, IsFrame frame)
    (split : retained ++ chunk = frames.flatten ++ tail) (malformed : Malformed tail)
    (fitting : ¬Oversized tail) : ¬WellBehaved retained (chunk :: later) := by
  rintro ⟨all, last, areAll, whole, behaves⟩
  have stuck := malformed.append later.flatten
  rw [List.flatten_cons, ← List.append_assoc, split, List.append_assoc] at whole
  obtain ⟨rfl, rfl⟩ := split_unique areFrames areAll whole (.inr stuck) (.of_wellBehaved behaves)
  rcases behaves with begun | refused
  · exact stuck.not_begun begun
  · obtain ⟨earlier, final, chunks, arrives⟩ := refused.arrives
    cases earlier with
    | nil =>
        obtain ⟨rfl, rfl⟩ := List.cons.inj chunks
        exact fitting (by simpa using refused.oversized)
    | cons first rest =>
        obtain ⟨rfl, rfl⟩ := List.cons.inj chunks
        have header := malformed.1
        rw [List.flatten_cons, ← List.append_assoc, split] at arrives
        simp only [List.length_append] at arrives
        omega

end Splitting

/-- Chunk after chunk, from a state that waits for the rest of a frame. -/
theorem Tidy.rejects_iff_wellBehaved {chunks : List (List UInt8)} {state final : RecvState}
    (tidy : Tidy state) (opened : state.disconnecting = false)
    (ran : run receive chunks state = some final) :
    AlwaysRejects chunks state ↔ WellBehaved state.retained chunks := by
  induction chunks generalizing state with
  | nil =>
      constructor
      · exact fun _ => ⟨[], state.retained, by simp, by simp, .inl tidy.begun⟩
      · intro _ earlier reached before stays
        obtain rfl := List.prefix_nil.mp before
        obtain rfl := Option.some.inj stays
        exact tidy.rejects
  | cons chunk later ih =>
      obtain ⟨next, taken, ranLater⟩ := run_cons_eq_some.mp ran
      obtain ⟨frames, tail, areFrames, split, stuck⟩ := exists_split (state.retained ++ chunk)
      have completed := taken
      rw [receive] at completed
      split at completed
      · next allowed =>
        obtain rfl := Option.some.inj completed
        rw [alwaysRejects_cons taken, and_iff_right tidy.rejects]
        rcases stuck with begun | malformed
        · have waits : tail.length < 2 ∨ Buffer.readUInt16 0 tail = 0 ∨
              tail.length < Buffer.readUInt16 0 tail :=
            begun.imp_right fun legal => .inr legal.2
          obtain ⟨retained, closed, tidyNext⟩ :=
            tidy.complete_waits allowed.2 areFrames split waits
          rw [ih (tidyNext begun) (closed.trans opened) ranLater, retained,
            wellBehaved_cons areFrames split begun]
        · by_cases oversized : Oversized tail
          · obtain ⟨closed, rejects⟩ :=
              tidy.complete_oversized allowed.2 areFrames split oversized
            -- a closed session receives nothing more
            obtain rfl : later = [] := by
              cases later with
              | nil => rfl
              | cons other rest => simp [run_cons, receive, closed] at ranLater
            constructor
            · exact fun _ => wellBehaved_of_oversized tidy.begun areFrames split oversized
            · intro _ earlier reached before stays
              obtain rfl := List.prefix_nil.mp before
              obtain rfl := Option.some.inj stays
              exact rejects
          · have accepts :=
              tidy.complete_malformed allowed.2 areFrames split malformed oversized opened
            constructor
            · exact fun always => absurd (always [] _ List.nil_prefix rfl) accepts
            · exact fun behaves =>
                absurd behaves (not_wellBehaved areFrames split malformed oversized)
      · contradiction

theorem start_tidy (buffer : Buffer bufSize) : Tidy (RecvState.start buffer) where
  areFrames := by simp [RecvState.start, RecvState.postRecv]
  begun := by simp [Begun, RecvState.retained, RecvState.start, RecvState.postRecv]
  pending := rfl
  posted := rfl
  length := by simp [RecvState.start, RecvState.postRecv, bufSize]

/-- A new session that can receive the chunks. -/
theorem alwaysRejects_iff (buffer : Buffer bufSize) {chunks : List (List UInt8)}
    {final : RecvState} (ran : run receive chunks (RecvState.start buffer) = some final) :
    AlwaysRejects chunks (RecvState.start buffer) ↔ WellBehaved [] chunks :=
  (start_tidy buffer).rejects_iff_wellBehaved rfl ran

/-- A pickup, and an attack whose last bytes are still to come. -/
theorem alwaysRejects_iff_begun :
    AlwaysRejects [[3], [0, 9, 4], [0]] (RecvState.start (Buffer.zero bufSize)) := by
  have areFrames : ∀ frame ∈ [[3, 0, 9], [4, 0, 2, 1]], IsFrame frame := by
    simp only [List.mem_cons, List.not_mem_nil, or_false]
    rintro frame (rfl | rfl) <;> exact ⟨by decide, by decide, by decide⟩
  obtain ⟨final, ran⟩ : ∃ final, run receive [[3], [0, 9, 4], [0]]
      (RecvState.start (Buffer.zero bufSize)) = some final :=
    reassembly_completes areFrames (start_reassembled areFrames (Buffer.zero bufSize)) (by decide)
      (by decide)
  refine (alwaysRejects_iff _ ran).mpr ⟨[[3, 0, 9]], [4, 0], ?_, rfl, .inl (by decide)⟩
  intro frame member
  obtain rfl := List.mem_singleton.mp member
  exact areFrames _ List.mem_cons_self

/-- One chunk with an illegal size field whose frame has not arrived. -/
theorem not_rejects_of_malformed {chunk : List UInt8}
    (short : 1 ≤ chunk.length ∧ chunk.length ≤ bufSize) (malformed : Malformed chunk)
    (fitting : ¬Oversized chunk) (buffer : Buffer bufSize) :
    (∃ final, run receive [chunk] (RecvState.start buffer) = some final) ∧
      ¬AlwaysRejects [chunk] (RecvState.start buffer) := by
  have posted : (RecvState.start buffer).wsaLen = bufSize := by
    simp [RecvState.start, RecvState.postRecv, bufSize]
  have taken : receive chunk (RecvState.start buffer) = some _ := if_pos ⟨rfl, posted ▸ short⟩
  have ran := run_cons_eq_some.mpr ⟨_, taken, run_nil _⟩
  constructor
  · exact ⟨_, ran⟩
  · intro always
    have behaves := ((start_tidy buffer).rejects_iff_wellBehaved rfl ran).mp always
    exact not_wellBehaved (by simp : ∀ frame ∈ [], IsFrame frame) rfl malformed fitting behaves

/-- Size zero, a size without a type byte, and a size beyond the longest packet
whose frame has not arrived. -/
theorem not_alwaysRejects :
    ((∃ final, run receive [[0, 0]] (RecvState.start (Buffer.zero bufSize)) = some final) ∧
        ¬AlwaysRejects [[0, 0]] (RecvState.start (Buffer.zero bufSize))) ∧
      ((∃ final, run receive [[1, 0]] (RecvState.start (Buffer.zero bufSize)) = some final) ∧
        ¬AlwaysRejects [[1, 0]] (RecvState.start (Buffer.zero bufSize))) ∧
      (∃ final, run receive [[200, 0]] (RecvState.start (Buffer.zero bufSize)) = some final) ∧
        ¬AlwaysRejects [[200, 0]] (RecvState.start (Buffer.zero bufSize)) := by
  constructor
  · exact not_rejects_of_malformed (by decide) (by decide) (by decide) _
  constructor
  · exact not_rejects_of_malformed (by decide) (by decide) (by decide) _
  · exact not_rejects_of_malformed (by decide) (by decide) (by decide) _

end Network

end Mmorpg
