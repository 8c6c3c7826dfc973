import Mmorpg.World.Cooldown
import Mmorpg.World.LoginFailure

/-!
# Cooldowns in real time

The server with a clock in milliseconds that never wraps.  `GetNowTime()` is
its value modulo `2 ^ 32`; for every user and cooldown the clock remembers when
a request was last let through.
-/

namespace Mmorpg

open ZoneLayout Transition

variable {grid : CollisionGrid} {collate : String → String}

/-! ## Reading a wrapping clock -/

/-- Milliseconds until `GetNowTime()` starts again. -/
def clockRound : Nat := 4294967296

/-- The clock has not wrapped since the deadline came to be, or its reading is
beyond that of the deadline again. -/
def ReadsTrue (deadline time : Nat) : Prop :=
  deadline / clockRound = time / clockRound ∨
    (deadline / clockRound < time / clockRound ∧ deadline % clockRound < time % clockRound)

instance (deadline time : Nat) : Decidable (ReadsTrue deadline time) :=
  inferInstanceAs (Decidable (_ ∨ _))

/-- Comparing readings instead of times. -/
theorem reads_iff {last duration time : Nat} (short : duration < clockRound)
    (later : last ≤ time) :
    ((last + duration) % clockRound < time % clockRound ↔ last + duration < time) ↔
      ReadsTrue (last + duration) time := by
  have deadline := Nat.div_add_mod (last + duration) clockRound
  have now := Nat.div_add_mod time clockRound
  have deadlineBound := Nat.mod_lt (last + duration) (show 0 < clockRound by decide)
  have nowBound := Nat.mod_lt time (show 0 < clockRound by decide)
  unfold ReadsTrue
  simp only [clockRound] at *
  omega

theorem elapsed_iff {last time : Nat} {times : LastTimes} {cooldown : Cooldown}
    (recorded : cooldown.last times = UInt32.ofNat last) :
    cooldown.elapsed (UInt32.ofNat time) times = true ↔
      (last + cooldown.duration) % clockRound < time % clockRound := by
  rw [Cooldown.elapsed, recorded, decide_eq_true_iff, gt_iff_lt, UInt32.lt_iff_toNat_lt,
    ← UInt32.ofNat_add, UInt32.toNat_ofNat', UInt32.toNat_ofNat']
  rfl

/-! ## The clocked server -/

/-- The server with the true time, and when each cooldown last accepted a
request of each session. -/
structure Clocked (collate : String → String) where
  server : Server collate
  time : Nat
  accepted : Nat → Cooldown → Option Nat

namespace Clocked

/-- A step of the server at a time. -/
structure Label (grid : CollisionGrid) where
  time : Nat
  label : Server.Label grid

/-- A task reads the clock when it runs. -/
def Label.reads (label : Label grid) : Bool :=
  match label.label with
  | .run _ choice => choice.now = UInt32.ofNat label.time
  | _ => true

/-- The request a step dispatches. -/
def request (label : Label grid) (server : Server collate) : Option (Nat × ClientPacket) :=
  match label.label with
  | .run thread _ =>
      match server.world.queues thread with
      | .dispatch session packet :: _ => some (session, packet)
      | _ => none
  | _ => none

/-- The session and the cooldown of a request that passes all other guards. -/
def asks (label : Label grid) (server : Server collate) : Option (Nat × Cooldown) :=
  (request label server).bind fun sent =>
    (server.world.asks sent.1 sent.2).map fun asked => (sent.1, asked.1)

/-- The session and the cooldown of a request that is let through. -/
def accepts (label : Label grid) (server : Server collate) : Option (Nat × Cooldown) :=
  (request label server).bind fun sent =>
    (server.world.letThrough (UInt32.ofNat label.time) sent.1 sent.2).map fun cooldown =>
      (sent.1, cooldown)

/-- The record of a user starts anew with the user. -/
def record (label : Label grid) (state : Clocked collate) (after : Server collate)
    (session : Nat) (cooldown : Cooldown) : Option Nat :=
  if (after.world.lastTimes (ObjID.user session)).isNone then none
  else if accepts label state.server = some (session, cooldown) then some label.time
  else state.accepted session cooldown

/-- The server's step at a time that does not run backwards; handlers read the
clock's low 32 bits. -/
def step (label : Label grid) (state : Clocked collate) : Option (Clocked collate) :=
  if state.time ≤ label.time ∧ label.reads then
    (Server.step label.label state.server).map fun after =>
      { server := after
        time := label.time
        accepted := state.record label after }
  else none

/-- The server at the start, at time zero. -/
def boot (count : Nat) (draw : Nat → Int × Int) (store : Store collate) : Clocked collate where
  server := Server.boot count draw store
  time := 0
  accepted := fun _ _ => none

/-- A request that passes all other guards is let through exactly if it comes
later than the cooldown after the last one that was. -/
def Exact (label : Label grid) (state : Clocked collate) : Prop :=
  ∀ session cooldown last, asks label state.server = some (session, cooldown) →
    state.accepted session cooldown = some last →
      (accepts label state.server = some (session, cooldown) ↔
        last + cooldown.duration < label.time)

/-- The clock reads true for a request after an earlier one. -/
def inStep (label : Label grid) (state : Clocked collate) : Bool :=
  (asks label state.server).all fun asked =>
    (state.accepted asked.1 asked.2).all fun last =>
      ReadsTrue (last + asked.2.duration) label.time

/-- A user's last times are the readings of the recorded ones. -/
structure Recorded (state : Clocked collate) : Prop where
  absent : ∀ session, state.server.world.lastTimes (ObjID.user session) = none →
    ∀ cooldown, state.accepted session cooldown = none
  read : ∀ session times, state.server.world.lastTimes (ObjID.user session) = some times →
    ∀ cooldown last, state.accepted session cooldown = some last →
      last ≤ state.time ∧ cooldown.last times = UInt32.ofNat last

variable {label : Label grid} {state next : Clocked collate} {session : Nat} {cooldown : Cooldown}

/-- For a request that passes all other guards the comparison decides. -/
theorem accepts_iff (asked : asks label state.server = some (session, cooldown)) :
    ∃ times, state.server.world.lastTimes (ObjID.user session) = some times ∧
      (accepts label state.server = some (session, cooldown) ↔
        cooldown.elapsed (UInt32.ofNat label.time) times = true) := by
  obtain ⟨⟨sender, packet⟩, sent, found⟩ := Option.bind_eq_some_iff.mp asked
  obtain ⟨⟨kind, times⟩, passes, same⟩ := Option.map_eq_some_iff.mp found
  obtain ⟨rfl, rfl⟩ := Prod.mk.inj same
  refine ⟨times, World.asks_lastTimes passes, ?_⟩
  rw [accepts, sent, Option.bind_some, World.letThrough, passes]
  by_cases elapsed : kind.elapsed (UInt32.ofNat label.time) times = true
  · simp [elapsed]
  · simp [elapsed]

theorem asks_of_accepts (accepted : accepts label state.server = some (session, cooldown)) :
    asks label state.server = some (session, cooldown) := by
  obtain ⟨⟨sender, packet⟩, sent, found⟩ := Option.bind_eq_some_iff.mp accepted
  obtain ⟨kind, passes, same⟩ := Option.map_eq_some_iff.mp found
  obtain ⟨rfl, rfl⟩ := Prod.mk.inj same
  rw [asks, sent, Option.bind_some]
  unfold World.letThrough at passes
  split at passes
  · next asked =>
    split at passes
    · rw [asked, Option.map_some, Option.some.inj passes]
    · contradiction
  · contradiction

/-- One request: right exactly if the clock reads true. -/
theorem exact_iff_inStep (recorded : state.Recorded) (later : state.time ≤ label.time) :
    Exact label state ↔ inStep label state = true := by
  have decides : ∀ session cooldown last, asks label state.server = some (session, cooldown) →
      state.accepted session cooldown = some last →
        ((accepts label state.server = some (session, cooldown) ↔
          last + cooldown.duration < label.time) ↔
            ReadsTrue (last + cooldown.duration) label.time) := by
    intro session cooldown last asked before
    obtain ⟨times, own, accepted⟩ := accepts_iff asked
    obtain ⟨earlier, reading⟩ := recorded.read session times own cooldown last before
    have short : cooldown.duration < clockRound := by cases cooldown <;> decide
    rw [accepted, elapsed_iff reading, reads_iff short (earlier.trans later)]
  constructor
  · intro exact_
    simp only [inStep, Option.all_eq_true, decide_eq_true_eq]
    rintro ⟨session, cooldown⟩ asked last before
    exact (decides _ _ _ asked before).mp (exact_ _ _ _ asked before)
  · intro reads session cooldown last asked before
    simp only [inStep, Option.all_eq_true, decide_eq_true_eq] at reads
    exact (decides _ _ _ asked before).mpr (reads _ asked _ before)

/-- What a step of the server does to the last times of a user. -/
theorem server_clocks {after : Server collate} (reads : label.reads = true)
    (taken : Server.step label.label state.server = some after) (session : Nat) :
    ∃ passed, World.Clocks (UInt32.ofNat label.time) passed
        (state.server.world.lastTimes (ObjID.user session))
        (after.world.lastTimes (ObjID.user session)) ∧
      ∀ cooldown, passed = some cooldown ↔
        accepts label state.server = some (session, cooldown) := by
  obtain ⟨time, serverLabel⟩ := label
  by_cases isRun : ∃ thread choice, serverLabel = .run thread choice
  · obtain ⟨thread, choice, rfl⟩ := isRun
    have now : choice.now = UInt32.ofNat time := of_decide_eq_true reads
    simp only [Server.step, Server.runThread] at taken
    split at taken
    · contradiction
    · next task rest queued =>
      obtain ⟨world, ran, rfl⟩ := Option.map_eq_some_iff.mp taken
      have clocks := World.exec_clocks session ran
      rw [now] at clocks
      refine ⟨_, clocks, fun cooldown => ?_⟩
      cases task with
      | dispatch sender packet =>
        have popped : ∀ queues, ({ state.server.world with queues := queues } : World).letThrough
            (UInt32.ofNat time) sender packet =
              state.server.world.letThrough (UInt32.ofNat time) sender packet := fun _ => rfl
        simp only [accepts, request, queued, Option.bind_some, World.starts, now, popped]
        by_cases here : sender = session
        · simp [here]
        · simp [here]
      | _ => simp [accepts, request, queued, World.starts]
  · obtain ⟨objects, _⟩ := Server.step_objects taken fun thread choice same =>
      isRun ⟨thread, choice, same⟩
    refine ⟨none, ?_, fun cooldown => ?_⟩
    · rw [World.lastTimes_congr objects]
      exact .same
    · have nothing : accepts ⟨time, serverLabel⟩ state.server = none := by
        cases serverLabel with
        | run thread choice => exact absurd ⟨thread, choice, rfl⟩ isRun
        | _ => rfl
      simp [nothing]

/-- What is recorded after a step. -/
theorem record_eq_some {after : Server collate} {last : Nat}
    (before : state.record label after session cooldown = some last) :
    (accepts label state.server = some (session, cooldown) ∧ last = label.time) ∨
      (accepts label state.server ≠ some (session, cooldown) ∧
        state.accepted session cooldown = some last) := by
  unfold record at before
  split at before
  · contradiction
  · split at before
    · next accepted => exact .inl ⟨accepted, (Option.some.inj before).symm⟩
    · next refused => exact .inr ⟨refused, before⟩

/-- Every step keeps the record of accepted requests right. -/
theorem step_recorded (taken : step label state = some next) (recorded : state.Recorded) :
    next.Recorded := by
  unfold step at taken
  split at taken
  · next allowed =>
    obtain ⟨after, stepped, rfl⟩ := Option.map_eq_some_iff.mp taken
    constructor
    · intro session gone cooldown
      simp only at gone
      simp [record, gone]
    · intro session times own cooldown last before
      obtain ⟨passed, clocks, accepted⟩ := server_clocks allowed.2 stepped session
      rcases clocks.of_some own with nobody | ⟨times, present, rfl⟩
      · rcases record_eq_some before with ⟨accepts, _⟩ | ⟨_, old⟩
        · obtain ⟨_, present, _⟩ := accepts_iff (asks_of_accepts accepts)
          rw [nobody] at present
          contradiction
        · rw [recorded.absent session nobody] at old
          contradiction
      · rcases record_eq_some before with ⟨accepts, rfl⟩ | ⟨refused, old⟩
        · obtain rfl := (accepted cooldown).mpr accepts
          exact ⟨Nat.le_refl _, by simp [Cooldown.started]⟩
        · obtain ⟨earlier, reading⟩ := recorded.read session times present cooldown last old
          refine ⟨earlier.trans allowed.1, ?_⟩
          cases passed with
          | none => exact reading
          | some other =>
            have different : cooldown ≠ other := by
              rintro rfl
              exact refused ((accepted cooldown).mp rfl)
            simpa [Cooldown.started, different] using reading
  · contradiction

theorem boot_recorded (count : Nat) (draw : Nat → Int × Int) (store : Store collate) :
    (boot count draw store).Recorded where
  absent _ _ _ := rfl
  read _ _ _ _ _ before := by contradiction

/-- In every run all requests are treated rightly exactly if the clock reads
true for each of them. -/
theorem cooldowns_exact_iff {count : Nat} {draw : Nat → Int × Int} {store : Store collate}
    {labels : List (Label grid)} {final : Clocked collate}
    (ran : run step labels (boot count draw store) = some final) :
    Along step Exact labels (boot count draw store) ↔
      Along step (fun label state => inStep label state = true) labels
        (boot count draw store) := by
  have recorded := boot_recorded count draw store
  revert ran recorded
  generalize boot count draw store = state
  intro ran recorded
  induction labels generalizing state with
  | nil => exact Iff.rfl
  | cons label rest ih =>
    obtain ⟨next, taken, later⟩ := run_cons_eq_some.mp ran
    have time : state.time ≤ label.time := by
      unfold step at taken
      split at taken
      · next allowed => exact allowed.1
      · contradiction
    apply and_congr (exact_iff_inStep recorded time)
    constructor
    · intro exact_ other same
      obtain rfl := Option.some.inj (taken.symm.trans same)
      exact (ih next later (step_recorded taken recorded)).mp (exact_ next taken)
    · intro reads other same
      obtain rfl := Option.some.inj (taken.symm.trans same)
      exact (ih next later (step_recorded taken recorded)).mpr (reads next taken)

/-! ### Around the wrap -/

/-- A step of zone zero or of the default thread at a time. -/
def runAt (time thread : Nat) : Label initCollisionTile :=
  ⟨time, .run thread { Choice.steady with now := UInt32.ofNat time }⟩

/-- A user logs in at a time. -/
def logInAt (time : Nat) : List (Label initCollisionTile) :=
  [⟨time, .accept⟩, ⟨time, .receive 1 (.userLoginReq "kim" "")⟩, runAt time invalidZoneId,
    ⟨time, .database 0 {} true⟩, runAt time 0]

/-- The user asks for a step at a time. -/
def moveAt (time : Nat) : List (Label initCollisionTile) :=
  [⟨time, .receive 1 (.userMoveReq 1)⟩, runAt time 0]

/-- Moves half a second apart, and one too early. -/
theorem cooldowns_exact_iff_sample :
    Along step Exact (logInAt 1000 ++ moveAt 1000 ++ moveAt 1500 ++ moveAt 1501)
      (boot 0 (fun _ => (9, 9)) World.savedStore) := by
  have completes : (run step (logInAt 1000 ++ moveAt 1000 ++ moveAt 1500 ++ moveAt 1501)
      (boot 0 (fun _ => (9, 9)) World.savedStore)).isSome := by rfl
  obtain ⟨final, ran⟩ := Option.isSome_iff_exists.mp completes
  exact (cooldowns_exact_iff ran).mpr (along_of_check (by rfl))

/-- The request that a step dispatches is treated wrongly. -/
def isWrong (label : Label grid) (state : Clocked collate) : Bool :=
  (asks label state.server).any fun asked =>
    (state.accepted asked.1 asked.2).any fun last =>
      (accepts label state.server = some asked) ≠ (last + asked.2.duration < label.time)

theorem not_along_exact {front : List (Label grid)}
    (wrong : (run step front state).any (isWrong label) = true) :
    ¬Along step Exact (front ++ [label]) state := by
  intro along
  obtain ⟨middle, ran, wrong⟩ := (Option.any_eq_true _ _).mp wrong
  obtain ⟨asked, asks, wrong⟩ := (Option.any_eq_true _ _).mp wrong
  obtain ⟨last, before, wrong⟩ := (Option.any_eq_true _ _).mp wrong
  have exact_ := (along.append.2 middle ran).1 asked.1 asked.2 last asks before
  exact of_decide_eq_true wrong (propext exact_)

/-- Shortly before the clock wraps a move is let through fifty milliseconds
after another; once it has wrapped a move is refused ten seconds after
another. -/
theorem not_cooldowns_exact :
    ¬Along step Exact (logInAt 4294967196 ++ moveAt 4294967196 ++ moveAt 4294967246)
        (boot 0 (fun _ => (9, 9)) World.savedStore) ∧
      ¬Along step Exact (logInAt 4294957296 ++ moveAt 4294957296 ++ moveAt 4294967346)
        (boot 0 (fun _ => (9, 9)) World.savedStore) := by
  constructor
  · have early : (run step (logInAt 4294967196 ++ moveAt 4294967196 ++
        [⟨4294967246, .receive 1 (.userMoveReq 1)⟩])
        (boot 0 (fun _ => (9, 9)) World.savedStore)).any (isWrong (runAt 4294967246 0)) = true := by
      rfl
    exact not_along_exact early
  · have late : (run step (logInAt 4294957296 ++ moveAt 4294957296 ++
        [⟨4294967346, .receive 1 (.userMoveReq 1)⟩])
        (boot 0 (fun _ => (9, 9)) World.savedStore)).any (isWrong (runAt 4294967346 0)) = true := by
      rfl
    exact not_along_exact late

end Clocked

end Mmorpg
