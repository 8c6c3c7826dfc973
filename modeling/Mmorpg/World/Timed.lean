import Mmorpg.World.Contact
import Mmorpg.Transition.Pending
import Mmorpg.Transition.Timeline

/-!
# The timer in time

`TimerThread`: every scheduled event gets a wake-up time, its delay after a
reading of the clock on the scheduling thread, and the next sequence number;
the event with the least stamp is dispatched first.  Apart from this order the
server runs as before.
-/

namespace Mmorpg

open ZoneLayout Transition

variable {grid : CollisionGrid}

namespace World

variable {zone : Nat} {choice : Choice grid} {own : ObjID} {world before after : World}

/-! ## Scheduled events stay -/

theorem timers_removeObject {id : ObjID} {transform : Transform} :
    (world.removeObject zone id transform).timers = world.timers := by
  unfold removeObject
  split <;> rfl

theorem timers_updatePosition {id : ObjID} {x y : Int} :
    world.timers <+: (world.updatePosition zone id x y).timers := by
  rcases (Apart.updatePosition (Apart.refl id world)).timers with ⟨added, timers, _⟩
  exact ⟨added, timers.symm⟩

theorem Apart.timers_grow {id : ObjID} (apart : Apart id before after) :
    before.timers <+: after.timers := by
  rcases apart.timers with ⟨added, timers, _⟩
  exact ⟨added, timers.symm⟩

/-- Every operation schedules behind what is pending. -/
theorem Op.timers (op : Op zone choice own before after) : before.timers <+: after.timers := by
  have same : ∀ {world : World}, world.timers = before.timers → before.timers <+: world.timers :=
    fun same => same ▸ List.prefix_refl _
  cases op with
  | plain plain =>
    rcases plain.timers with ⟨added, timers, _⟩
    exact ⟨added, timers.symm⟩
  | heal => exact same rfl
  | store => exact same rfl
  | wake => exact wakeUpMonster_apart.timers_grow
  | place => exact timers_updatePosition
  | settle valid found placed =>
    exact ((Apart.refl _ before).updateObjectSectorAndPosition placed).timers_grow
  | arrive => exact same rfl
  | transfer => exact handleZoneTransfer_apart.timers_grow
  | leave => exact leaveWorld_apart.timers_grow
  | publish => exact same rfl
  | requeue => exact same rfl
  | wound => exact same rfl
  | slay valid found alive member category attacker fatal slays =>
    rcases slain_apart slays with ⟨itemId, middle, isItem, first, dropped, second, third⟩
    exact (first.timers_grow.trans second.timers_grow).trans third.timers_grow
  | spawn valid spawned => exact (spawnFieldItem_apart spawned).2.timers_grow
  | pick => exact removeFieldItem_apart.timers_grow
  | hurt => exact same rfl
  | hide => exact same timers_removeObject
  | mourn => exact List.prefix_append _ _
  | revive => exact same rfl
  | tend => exact same rfl
  | raise => exact same rfl
  | step => exact timers_updatePosition
  | schedule => exact List.prefix_append _ _

theorem exec_timers {thread : Nat} {task : Task} (filed : Filed world)
    (ran : world.exec thread choice task = some after) : world.timers <+: after.timers :=
  Script.keeps (fun current => world.timers <+: current.timers)
    (fun _ _ op sofar => sofar.trans op.timers) (exec_script filed ran) (List.prefix_refl _)

end World

namespace Server

variable {collate : String → String}

/-- Only the timer itself takes events away. -/
theorem step_timers {label : Label grid} {before after : Server collate}
    (taken : step label before = some after) (noFire : ∀ index, label ≠ .fire index)
    (filed : World.Filed before.world) : before.world.timers <+: after.world.timers := by
  cases label with
  | accept =>
    simp only [step, accept] at taken
    split at taken
    · exact Option.some.inj taken ▸ List.prefix_refl _
    · contradiction
  | receive session packet =>
    simp only [step, receive] at taken
    split at taken
    · exact Option.some.inj taken ▸ List.prefix_refl _
    · contradiction
  | hangUp session =>
    simp only [step, hangUp] at taken
    split at taken
    · split at taken
      · exact Option.some.inj taken ▸ List.prefix_refl _
      · exact Option.some.inj taken ▸ List.prefix_refl _
    · contradiction
  | fire index => exact absurd rfl (noFire index)
  | database index calls written =>
    simp only [step, database] at taken
    split at taken
    · contradiction
    · split at taken
      · rw [← Option.some.inj taken]
        unfold handOver
        split <;> exact List.prefix_refl _
      · rw [← Option.some.inj taken]
        split <;> exact List.prefix_refl _
  | run thread choice =>
    simp only [step, runThread] at taken
    split at taken
    · contradiction
    · next task rest _ =>
      rcases Option.map_eq_some_iff.mp taken with ⟨world, ran, rfl⟩
      have here : World.Filed (before.world.popped thread rest) := filed
      have grows : (before.world.popped thread rest).timers <+: world.timers :=
        World.exec_timers here ran
      exact grows

/-- The thread whose clock a step reads. -/
def Label.thread : Label grid → Nat
  | run thread _ => thread
  | _ => invalidZoneId

end Server

/-! ## The timed server -/

/-- The server with the stamps of its timer, in the order of the timer's
events, and the clock of every thread. -/
structure TimedServer (collate : String → String) where
  server : Server collate
  stamps : List Stamp
  clock : Nat → Nat
  nextSequence : Nat

namespace TimedServer

variable {collate : String → String}

/-- A step, with the readings of the clock for the events it schedules. -/
structure Act (grid : CollisionGrid) where
  label : Server.Label grid
  readings : List Nat

/-- The stamps that `Schedule` gives to new events. -/
def stampAll (sequence : Nat) : List TimerEvent → List Nat → List Stamp
  | event :: events, reading :: readings =>
      ⟨reading + event.delay, sequence⟩ :: stampAll (sequence + 1) events readings
  | _, _ => []

/-- The event is the top of the heap. -/
def isNext (index : Nat) (timed : TimedServer collate) : Bool :=
  timed.stamps[index]?.any fun stamp => timed.stamps.all fun other => Stamp.le stamp other

/-- The timer thread dispatches the event that is next. -/
def fire (index : Nat) (timed : TimedServer collate) : Option (TimedServer collate) :=
  if timed.isNext index then
    (timed.server.fire index).map fun server =>
      { timed with server := server, stamps := timed.stamps.eraseIdx index }
  else none

/-- The events a step has scheduled. -/
def scheduled (before after : Server collate) : List TimerEvent :=
  after.world.timers.drop before.world.timers.length

/-- A step of the server on a thread whose clock is read now, with one reading
for each event it schedules. -/
def advance (label : Server.Label grid) (readings : List Nat) (timed : TimedServer collate) :
    Option (TimedServer collate) :=
  (Server.step label timed.server).bind fun server =>
    let added := scheduled timed.server server
    let now := timed.clock label.thread
    if readings.length = added.length ∧ (now :: readings).Pairwise (· ≤ ·) then
      some
        { server := server
          stamps := timed.stamps ++ stampAll timed.nextSequence added readings
          clock := Function.update timed.clock label.thread (readings.getLastD now)
          nextSequence := timed.nextSequence + added.length }
    else none

/-- A timer event, or any other step. -/
def step (act : Act grid) (timed : TimedServer collate) : Option (TimedServer collate) :=
  match act.label with
  | .fire index => timed.fire index
  | label => timed.advance label act.readings

/-- The server at the start, with every clock at zero. -/
def boot (count : Nat) (draw : Nat → Int × Int) (store : Store collate) : TimedServer collate where
  server := Server.boot count draw store
  stamps := []
  clock := fun _ => 0
  nextSequence := 0

theorem fire_eq_some {index : Nat} {before after : TimedServer collate} :
    before.fire index = some after ↔ before.isNext index = true ∧
      ∃ server, before.server.fire index = some server ∧
        after = { before with server := server, stamps := before.stamps.eraseIdx index } := by
  unfold fire
  split
  · next isNext => simp [isNext, eq_comm]
  · next notNext => simp [notNext]

/-- A step reads the clock once for each event it adds. -/
theorem advance_eq_some {label : Server.Label grid} {readings : List Nat}
    {before after : TimedServer collate} :
    before.advance label readings = some after ↔
      ∃ server, Server.step label before.server = some server ∧
        (readings.length = (scheduled before.server server).length ∧
          (before.clock label.thread :: readings).Pairwise (· ≤ ·)) ∧
        after =
          { server := server
            stamps := before.stamps ++
              stampAll before.nextSequence (scheduled before.server server) readings
            clock := Function.update before.clock label.thread
              (readings.getLastD (before.clock label.thread))
            nextSequence := before.nextSequence + (scheduled before.server server).length } := by
  simp only [advance, Option.bind_eq_some_iff, Option.ite_none_right_eq_some, Option.some.injEq]
  constructor
  · rintro ⟨server, taken, accepted, rfl⟩
    exact ⟨server, taken, accepted, rfl⟩
  · rintro ⟨server, taken, accepted, rfl⟩
    exact ⟨server, taken, accepted, rfl⟩

/-- A timed step is a step of the server. -/
theorem step_server {act : Act grid} {before after : TimedServer collate}
    (taken : step act before = some after) :
    Server.step act.label before.server = some after.server := by
  unfold step at taken
  split at taken
  · next index isFire =>
    rcases fire_eq_some.mp taken with ⟨_, server, fired, rfl⟩
    rw [isFire]
    exact fired
  · rcases advance_eq_some.mp taken with ⟨server, stepped, _, rfl⟩
    exact stepped

/-- Without the clocks it is a run of the server. -/
theorem run_server {acts : List (Act grid)} {source target : TimedServer collate}
    (ran : run step acts source = some target) :
    run Server.step (acts.map Act.label) source.server = some target.server := by
  induction acts generalizing source with
  | nil => rw [Option.some.inj ran]; rfl
  | cons act rest ih =>
    rcases run_cons_eq_some.mp ran with ⟨middle, taken, later⟩
    exact run_cons_eq_some.mpr ⟨middle.server, step_server taken, ih later⟩

/-! ## Stamps -/

theorem stampAll_length (sequence : Nat) {events : List TimerEvent} {readings : List Nat}
    (same : readings.length = events.length) : (stampAll sequence events readings).length = events.length := by
  induction events generalizing sequence readings with
  | nil => rfl
  | cons event rest ih =>
    cases readings with
    | nil => simp at same
    | cons reading others =>
      rw [stampAll, List.length_cons, ih (sequence + 1) (Nat.succ.inj same), List.length_cons]

theorem stampAll_sequences (sequence : Nat) {events : List TimerEvent} {readings : List Nat}
    (same : readings.length = events.length) :
    (stampAll sequence events readings).map Stamp.sequence =
      List.range' sequence events.length := by
  induction events generalizing sequence readings with
  | nil => rfl
  | cons event rest ih =>
    cases readings with
    | nil => simp at same
    | cons reading others =>
      rw [stampAll, List.map_cons, ih (sequence + 1) (Nat.succ.inj same)]
      rfl

/-- Every event has a stamp of its own. -/
structure Stamped (timed : TimedServer collate) : Prop where
  length : timed.stamps.length = timed.server.world.timers.length
  below : ∀ stamp ∈ timed.stamps, stamp.sequence < timed.nextSequence
  distinct : (timed.stamps.map Stamp.sequence).Nodup

/-- Every step keeps events and stamps together. -/
theorem step_stamped {act : Act grid} {before after : TimedServer collate}
    (taken : step act before = some after) (filed : World.Filed before.server.world)
    (stamped : before.Stamped) : after.Stamped := by
  unfold step at taken
  split at taken
  · next index isFire =>
    rcases fire_eq_some.mp taken with ⟨_, server, fired, rfl⟩
    constructor
    · dsimp only
      simp only [Server.fire] at fired
      split at fired
      · contradiction
      · rw [← Option.some.inj fired]
        dsimp only
        rw [Server.dispatchTimer_eq]
        change _ = (before.server.world.timers.eraseIdx index).length
        rw [List.length_eraseIdx, List.length_eraseIdx, stamped.length]
    · exact fun stamp member => stamped.below stamp (List.mem_of_mem_eraseIdx member)
    · exact stamped.distinct.sublist ((List.eraseIdx_sublist _ _).map _)
  · next noFire =>
    rcases advance_eq_some.mp taken with ⟨server, stepped, ⟨same, _⟩, rfl⟩
    rcases Server.step_timers stepped noFire filed with ⟨added, timers⟩
    constructor
    · have counted := congrArg List.length timers
      rw [List.length_append] at counted
      dsimp only
      rw [List.length_append, stampAll_length _ same, scheduled, List.length_drop, stamped.length]
      omega
    · intro stamp member
      dsimp only
      rcases List.mem_append.mp member with old | new
      · exact (stamped.below stamp old).trans_le (Nat.le_add_right _ _)
      · have listed : stamp.sequence ∈ (stampAll before.nextSequence
            (scheduled before.server server) act.readings).map Stamp.sequence :=
          List.mem_map_of_mem new
        rw [stampAll_sequences _ same, List.mem_range'_1] at listed
        exact listed.2
    · dsimp only
      rw [List.map_append, stampAll_sequences _ same, List.nodup_append']
      refine ⟨stamped.distinct, List.nodup_range', ?_⟩
      intro sequence old new
      rcases List.mem_map.mp old with ⟨stamp, member, rfl⟩
      have below := stamped.below stamp member
      rw [List.mem_range'_1] at new
      omega

/-! ## The pending events of one subject -/

/-- The timer events of a subject with their stamps. -/
def pairs (id : ObjID) (timed : TimedServer collate) : List (TimerEvent × Stamp) :=
  (timed.server.world.timers.zip timed.stamps).filter fun pair => pair.1.subjectId = id

variable {id : ObjID} {timed before after : TimedServer collate}

/-- The pairs are the pending events, with stamps. -/
theorem pairs_alarms (stamped : timed.Stamped) (id : ObjID) :
    (timed.pairs id).map Prod.fst = timed.server.world.alarms id := by
  have unzipped : (timed.server.world.timers.zip timed.stamps).map Prod.fst =
      timed.server.world.timers := List.map_fst_zip stamped.length.ge
  rw [World.alarms, ← unzipped, List.filter_map]
  rfl

theorem pairs_distinct (stamped : timed.Stamped) (id : ObjID) :
    ((timed.pairs id).map Prod.snd).Nodup := by
  have unzipped : (timed.server.world.timers.zip timed.stamps).map Prod.snd = timed.stamps :=
    List.map_snd_zip stamped.length.le
  have whole : ((timed.server.world.timers.zip timed.stamps).map Prod.snd).Nodup := by
    rw [unzipped]
    exact stamped.distinct.of_map
  exact whole.sublist (List.filter_sublist.map _)

theorem mem_stamps_of_pairs {pair : TimerEvent × Stamp} (member : pair ∈ timed.pairs id) :
    pair.2 ∈ timed.stamps :=
  (List.of_mem_zip (List.mem_filter.mp member).1).2

theorem zip_eraseIdx {β γ : Type} (first : List β) (second : List γ) (index : Nat) :
    (first.eraseIdx index).zip (second.eraseIdx index) = (first.zip second).eraseIdx index := by
  induction first generalizing second index with
  | nil => simp
  | cons head rest ih =>
    cases second with
    | nil => simp
    | cons other others =>
      cases index with
      | zero => rfl
      | succ index => simp [ih]

section Fire

variable {index : Nat} {event : TimerEvent}

/-- The stamp of the event at the top of the heap. -/
theorem stamp_of_isNext (isNext : timed.isNext index = true)
    (found : timed.server.world.timers[index]? = some event) :
    ∃ stamp, (timed.server.world.timers.zip timed.stamps)[index]? = some (event, stamp) ∧
      ∀ pair ∈ timed.pairs id, Stamp.le stamp pair.2 := by
  rw [TimedServer.isNext, Option.any_eq_true] at isNext
  rcases isNext with ⟨stamp, stampFound, least⟩
  refine ⟨stamp, List.getElem?_zip_eq_some.mpr ⟨found, stampFound⟩, ?_⟩
  intro pair member
  exact of_decide_eq_true (List.all_eq_true.mp least pair.2 (mem_stamps_of_pairs member))

theorem pairs_fire {server : Server collate}
    (fired : timed.server.fire index = some server) (id : ObjID) :
    pairs id { timed with server := server, stamps := timed.stamps.eraseIdx index } =
      ((timed.server.world.timers.zip timed.stamps).eraseIdx index).filter fun pair =>
        pair.1.subjectId = id := by
  have timers : server.world.timers = timed.server.world.timers.eraseIdx index := by
    simp only [Server.fire] at fired
    split at fired
    · contradiction
    · rw [← Option.some.inj fired]
      dsimp only
      rw [Server.dispatchTimer_eq]
      rfl
  rw [pairs, timers, zip_eraseIdx]

/-- The event of the subject leaves the timer. -/
theorem pairs_fire_own {server : Server collate} {stamp : Stamp}
    (fired : timed.server.fire index = some server)
    (found : (timed.server.world.timers.zip timed.stamps)[index]? = some (event, stamp))
    (subject : event.subjectId = id) :
    (timed.pairs id).Perm ((event, stamp) ::
      pairs id { timed with server := server, stamps := timed.stamps.eraseIdx index }) := by
  rw [pairs_fire fired, pairs]
  rcases List.getElem?_eq_some_iff.mp found with ⟨bound, same⟩
  have taken := (List.getElem_cons_eraseIdx_perm bound).symm.filter
    fun pair => decide (pair.1.subjectId = id)
  rw [same, List.filter_cons, if_pos (decide_eq_true subject)] at taken
  exact taken

/-- The events of the others do not matter. -/
theorem pairs_fire_other {server : Server collate} {stamp : Stamp}
    (fired : timed.server.fire index = some server)
    (found : (timed.server.world.timers.zip timed.stamps)[index]? = some (event, stamp))
    (other : event.subjectId ≠ id) :
    pairs id { timed with server := server, stamps := timed.stamps.eraseIdx index } =
      timed.pairs id := by
  rw [pairs_fire fired]
  exact filter_eraseIdx _ found (decide_eq_false other)

end Fire

/-! ## New events -/

/-- The events that a step adds, with the clock's readings. -/
theorem grown_stampAll {first clock : Nat} {start grown : List (TimerEvent × Stamp)}
    (sequence : Nat) {events : List TimerEvent} {readings : List Nat}
    (same : readings.length = events.length) (rising : (clock :: readings).Pairwise (· ≤ ·))
    (sofar : Grown TimerEvent.delay first start clock grown) :
    Grown TimerEvent.delay first start (readings.getLastD clock)
      (grown ++ (events.zip (stampAll sequence events readings)).filter fun pair =>
        pair.1.subjectId = id) := by
  induction events generalizing clock sequence readings grown with
  | nil =>
    rw [List.length_eq_zero_iff.mp same]
    simpa using sofar
  | cons event rest ih =>
    cases readings with
    | nil => simp at same
    | cons reading others =>
      rcases List.pairwise_cons.mp rising with ⟨later, risingLater⟩
      have now : clock ≤ reading := later reading List.mem_cons_self
      rw [stampAll, List.zip_cons_cons, List.getLastD_cons]
      by_cases own : event.subjectId = id
      · rw [List.filter_cons, if_pos (decide_eq_true own), List.append_cons]
        exact ih (sequence + 1) (Nat.succ.inj same) risingLater (sofar.add event sequence now)
      · rw [List.filter_cons, if_neg (by simpa using own)]
        exact ih (sequence + 1) (Nat.succ.inj same) risingLater (sofar.wait now)

/-- The timer of a subject grows on the clock of the running thread. -/
theorem advance_grown {label : Server.Label grid} {readings : List Nat}
    (taken : before.advance label readings = some after)
    (noFire : ∀ index, label ≠ .fire index) (filed : World.Filed before.server.world)
    (stamped : before.Stamped) (id : ObjID) :
    Grown TimerEvent.delay (before.clock label.thread) (before.pairs id)
      (after.clock label.thread) (after.pairs id) := by
  rcases advance_eq_some.mp taken with ⟨server, stepped, ⟨same, rising⟩, rfl⟩
  rcases Server.step_timers stepped noFire filed with ⟨added, timers⟩
  have isAdded : scheduled before.server server = added := by
    rw [scheduled, ← timers, List.drop_left]
  rw [isAdded] at same
  dsimp only
  rw [Function.update_self, isAdded]
  have grown : pairs id
      { server := server
        stamps := before.stamps ++ stampAll before.nextSequence added readings
        clock := Function.update before.clock label.thread
          (readings.getLastD (before.clock label.thread))
        nextSequence := before.nextSequence + added.length } =
      before.pairs id ++ (added.zip (stampAll before.nextSequence added readings)).filter
        fun pair => pair.1.subjectId = id := by
    rw [pairs, pairs, ← timers, List.zip_append stamped.length.symm, List.filter_append]
  rw [grown]
  exact grown_stampAll _ same rising .refl

end TimedServer

end Mmorpg
