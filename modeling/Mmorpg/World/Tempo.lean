import Mmorpg.World.Chain
import Mmorpg.World.Timed

/-!
# The line of events of one monster

The timer and the queue of its zone together are the line in which the events
of a monster wait.  Every step of the timed server keeps the line in one of the
shapes of a single chain, unless it resets a flag of a monster whose event the
flag stands for is still waiting.
-/

namespace Mmorpg

open ZoneLayout Transition

/-- The kind of event a task comes from. -/
def Task.event : Task → Option TimerEventType
  | timer kind _ _ => some kind
  | _ => none

/-- The kinds of events that wait as tasks on the home thread. -/
def Course.queued (home : Nat) (course : Course) : List TimerEventType :=
  (course.orders home).filterMap Task.event

/-- Moves and attacks are due within a second. -/
def DueBy (limit : Nat) (pairs : List (TimerEvent × Stamp)) : Prop :=
  ∀ pair ∈ pairs, pair.1.event.isAct = true → pair.2.wakeupTime ≤ limit + 1000

theorem DueBy.wait {early late : Nat} {pairs : List (TimerEvent × Stamp)} (due : DueBy early pairs)
    (later : early ≤ late) : DueBy late pairs := by
  intro pair member act
  have bound := due pair member act
  omega

theorem DueBy.push {limit : Nat} {pairs : List (TimerEvent × Stamp)} {event : TimerEvent}
    {stamp : Stamp} (due : DueBy limit pairs)
    (soon : event.event.isAct = true → stamp.wakeupTime ≤ limit + 1000) :
    DueBy limit (pairs ++ [(event, stamp)]) := by
  intro pair member act
  rcases List.mem_append.mp member with old | new
  · exact due pair old act
  · obtain rfl := List.mem_singleton.mp new
    exact soon act

/-- The events of the monster wait in the shape its flags ask for. -/
structure Chained (home clock : Nat) (pairs : List (TimerEvent × Stamp)) (course : Course) :
    Prop where
  line : ∃ line, Timeline TimerEvent.event (course.queued home) pairs line ∧
    ∀ mood, course.mood = some mood → Shape mood line
  due : DueBy clock pairs

section Growth

variable {clock late : Nat} {pairs grown : List (TimerEvent × Stamp)} {alarms : List TimerEvent}
  {event : TimerEvent}

theorem length_of_alarms (same : pairs.map Prod.fst = alarms) : pairs.length = alarms.length := by
  rw [← same, List.length_map]

/-- Nothing grows where nothing is scheduled. -/
theorem grown_same (grows : Grown TimerEvent.delay clock pairs late grown)
    (old : pairs.map Prod.fst = alarms) (new : grown.map Prod.fst = alarms) : grown = pairs := by
  apply grows.eq_of_length
  rw [length_of_alarms new, length_of_alarms old]

/-- One event was scheduled last. -/
theorem grown_last (grows : Grown TimerEvent.delay clock pairs late grown)
    {earlier : List TimerEvent} (old : pairs.length ≤ earlier.length)
    (new : grown.map Prod.fst = earlier ++ [event]) :
    ∃ before stamp early reading, grown = before ++ [(event, stamp)] ∧
      before.map Prod.fst = earlier ∧ Grown TimerEvent.delay clock pairs early before ∧
        early ≤ reading ∧ reading ≤ late ∧ stamp.wakeupTime = reading + event.delay := by
  rcases List.map_eq_append_iff.mp new with ⟨before, last, rfl, rest, single⟩
  rcases List.map_eq_singleton_iff.mp single with ⟨⟨same, stamp⟩, rfl, rfl⟩
  have longer : pairs.length ≤ before.length := by
    rw [length_of_alarms rest]
    exact old
  rcases grows.last longer with ⟨early, reading, grew, first, second, due⟩
  exact ⟨before, stamp, early, reading, rfl, rest, grew, first, second, due⟩

end Growth

namespace Chained

variable {home zone clock late : Nat} {id : ObjID} {pairs grown : List (TimerEvent × Stamp)}
  {course after : Course}

theorem wait (chained : Chained home clock pairs course) (later : clock ≤ late) :
    Chained home late pairs course :=
  ⟨chained.line, chained.due.wait later⟩

/-! ## Tasks of others -/

theorem touches_alarms (touches : Relation.ReflTransGen (Touch zone id) course after) :
    course.alarms <+: after.alarms := by
  induction touches with
  | refl => exact List.prefix_refl _
  | tail _ last ih =>
    refine ih.trans ?_
    cases last with
    | wake => exact List.prefix_append _ _
    | wound => exact List.prefix_refl _
    | slay => exact List.prefix_append _ _

/-- Waking up starts a chain that is due in time. -/
theorem wake {mood : Mood} {targetId : ObjID} {stamp : Stamp} {reading : Nat}
    (chained : Chained home clock pairs course) (present : course.mood = some mood)
    (alive : mood.dead = false) (resting : mood.active = false) (later : clock ≤ reading)
    (due : stamp.wakeupTime = reading + 500) :
    Chained home reading (pairs ++ [(⟨id, 500, mood.type.moves, targetId, zone⟩, stamp)])
      ((course.setMood { mood with active := true }).alarm
        ⟨id, 500, mood.type.moves, targetId, zone⟩) := by
  rcases chained.line with ⟨line, timeline, shape⟩
  rcases timeline.push ⟨id, 500, mood.type.moves, targetId, zone⟩ stamp with
    ⟨longer, inserted, timeline⟩
  refine ⟨⟨longer, timeline, ?_⟩, (chained.due.wait later).push fun _ => by omega⟩
  rintro now becomes
  rw [← Option.some.inj becomes]
  exact (shape mood present).wake alive resting inserted

/-- Death adds a respawn that is due after the rest. -/
theorem slay {mood : Mood} {stamp : Stamp} {reading : Nat}
    (chained : Chained home clock pairs course) (present : course.mood = some mood)
    (alive : mood.dead = false) (later : clock ≤ reading)
    (due : stamp.wakeupTime = reading + 10000) :
    Chained home reading
      (pairs ++ [(⟨id, 10000, .evMonsterRespawn, ObjID.npos, zone⟩, stamp)])
      ((course.setMood ⟨mood.type, 0, true, false, false⟩).alarm
        ⟨id, 10000, .evMonsterRespawn, ObjID.npos, zone⟩) := by
  rcases chained.line with ⟨line, timeline, shape⟩
  have last : ∀ pair ∈ pairs, Stamp.le pair.2 stamp := by
    intro pair member
    have listed : pair.1.event ∈ line := by
      rw [timeline.perm.mem_iff, List.mem_append]
      exact .inr (List.mem_map_of_mem member)
    have soon := chained.due pair member ((shape mood present).acts alive _ listed)
    refine .inl ?_
    omega
  refine ⟨⟨_, timeline.pushLast last, ?_⟩, (chained.due.wait later).push ?_⟩
  · rintro now becomes
    rw [← Option.some.inj becomes]
    exact (shape mood present).slay alive
  · exact fun act => absurd act Bool.false_ne_true

theorem wound {mood : Mood} (hp : Nat) (chained : Chained home clock pairs course)
    (present : course.mood = some mood) :
    Chained home clock pairs (course.setMood { mood with hp := hp }) := by
  rcases chained.line with ⟨line, timeline, shape⟩
  refine ⟨⟨line, timeline, ?_⟩, chained.due⟩
  rintro now becomes
  rw [← Option.some.inj becomes]
  exact (shape mood present).wound hp

theorem touches (chained : Chained home clock pairs course)
    (touches : Relation.ReflTransGen (Touch zone id) course after)
    (grows : Grown TimerEvent.delay clock pairs late grown)
    (old : pairs.map Prod.fst = course.alarms) (new : grown.map Prod.fst = after.alarms) :
    Chained home late grown after := by
  have count : ∀ {middle : Course}, Relation.ReflTransGen (Touch zone id) course middle →
      pairs.length ≤ middle.alarms.length := by
    intro middle sofar
    rw [length_of_alarms old]
    exact (touches_alarms sofar).length_le
  induction touches generalizing late grown with
  | refl =>
    rw [grown_same grows old new]
    exact chained.wait grows.clock_le
  | tail sofar last ih =>
    cases last with
    | wake mood targetId present alive resting =>
      rcases grown_last grows (count sofar) new with
        ⟨before, stamp, early, reading, rfl, rest, grew, first, second, due⟩
      exact ((ih grew rest).wake present alive resting first due).wait second
    | wound mood hp present => exact (ih grows new).wound hp present
    | slay mood present alive =>
      rcases grown_last grows (count sofar) new with
        ⟨before, stamp, early, reading, rfl, rest, grew, first, second, due⟩
      exact ((ih grew rest).slay present alive first due).wait second

/-! ## The monster's own events -/

section Turn

variable {mood : Mood} {kind : TimerEventType} {rest : List TimerEventType}

/-- What is left of the line while an event of the monster runs. -/
structure Served (home clock : Nat) (pairs : List (TimerEvent × Stamp)) (course : Course)
    (rest : List TimerEventType) : Prop where
  timeline : Timeline TimerEvent.event (course.queued home) pairs rest
  due : DueBy clock pairs
  alarms : pairs.map Prod.fst = course.alarms

variable (served : Served home clock pairs course rest)

include served

/-- The handler schedules nothing. -/
theorem Served.none (grows : Grown TimerEvent.delay clock pairs late grown)
    (orders : after.orders = course.orders) (new : grown.map Prod.fst = course.alarms)
    {flags : Mood} (becomes : after.mood = some flags) (shape : Shape flags rest) :
    Chained home late grown after := by
  obtain rfl := grown_same grows served.alarms new
  refine ⟨⟨rest, ?_, ?_⟩, served.due.wait grows.clock_le⟩
  · rw [Course.queued, orders]
    exact served.timeline
  · rintro now present
    rw [← Option.some.inj (becomes.symm.trans present)]
    exact shape

/-- The handler schedules one event. -/
theorem Served.one {event : TimerEvent} (soon : event.delay ≤ 1000)
    (grows : Grown TimerEvent.delay clock pairs late grown)
    (orders : after.orders = course.orders)
    (new : grown.map Prod.fst = course.alarms ++ [event])
    {flags : Mood} (becomes : after.mood = some flags)
    (shape : ∀ longer, Inserted event.event rest longer → Shape flags longer) :
    Chained home late grown after := by
  rcases grown_last grows (length_of_alarms served.alarms).le new with
    ⟨before, stamp, early, reading, rfl, same, grew, first, second, due⟩
  obtain rfl := grown_same grew served.alarms same
  rcases served.timeline.push event stamp with ⟨longer, inserted, timeline⟩
  refine ⟨⟨longer, ?_, ?_⟩, (served.due.wait grows.clock_le).push fun _ => by omega⟩
  · rw [Course.queued, orders]
    exact timeline
  · rintro now present
    rw [← Option.some.inj (becomes.symm.trans present)]
    exact shape longer inserted

/-- An attack and the next move are scheduled behind nothing. -/
theorem Served.engage {targetId : ObjID} (nothing : rest = [])
    (grows : Grown TimerEvent.delay clock pairs late grown)
    (new : grown.map Prod.fst =
      (course.alarms ++ [⟨id, 0, .evMonsterAttackToUser, targetId, zone⟩]) ++
        [⟨id, 500, .evAggroMove, targetId, zone⟩])
    (present : course.mood = some mood) (alive : mood.dead = false) (aggro : mood.type = .aggro)
    (active : mood.active = true) :
    Chained home late grown
      ((course.alarm ⟨id, 0, .evMonsterAttackToUser, targetId, zone⟩).alarm
        ⟨id, 500, .evAggroMove, targetId, zone⟩) := by
  have size := length_of_alarms served.alarms
  rcases grown_last grows (by rw [List.length_append]; omega) new with
    ⟨middle, moveStamp, early, reading, rfl, same, grew, first, second, moveDue⟩
  rcases grown_last grew size.le same with
    ⟨before, attackStamp, start, soonest, rfl, oldest, grewFirst, _, third, attackDue⟩
  obtain rfl := grown_same grewFirst served.alarms oldest
  have line := served.timeline
  rw [nothing] at line
  have empty : before = [] := by
    have shown := line.perm.length_eq
    rw [List.length_append, List.length_map, List.length_nil] at shown
    apply List.eq_nil_of_length_eq_zero
    omega
  subst empty
  have attacks : Timeline TimerEvent.event (course.queued home)
      ([] ++ [(⟨id, 0, .evMonsterAttackToUser, targetId, zone⟩, attackStamp)])
      ([] ++ [.evMonsterAttackToUser]) :=
    line.pushLast fun pair member => absurd member List.not_mem_nil
  have moves : Timeline TimerEvent.event (course.queued home)
      (([] ++ [(⟨id, 0, .evMonsterAttackToUser, targetId, zone⟩, attackStamp)]) ++
        [(⟨id, 500, .evAggroMove, targetId, zone⟩, moveStamp)])
      (([] ++ [.evMonsterAttackToUser]) ++ [.evAggroMove]) := by
    apply attacks.pushLast
    intro pair member
    obtain rfl := List.mem_singleton.mp member
    refine .inl ?_
    dsimp only at moveDue attackDue ⊢
    omega
  refine ⟨⟨_, moves, ?_⟩, ?_⟩
  · rintro now isMood
    rw [← Option.some.inj (present.symm.trans isMood)]
    exact .engage alive aggro active
  · dsimp only at moveDue attackDue
    refine DueBy.push (DueBy.push ?_ fun _ => by omega) fun _ => by omega
    exact fun pair member => absurd member List.not_mem_nil

omit served in
/-- The flags of an attack that goes on. -/
theorem again_shape {longer : List TimerEventType}
    (shape : Shape mood (.evMonsterAttackToUser :: rest)) (alive : mood.dead = false)
    (inserted : Inserted .evMonsterAttackToUser rest longer) :
    Shape { mood with attack := true } longer := by
  rcases shape.attackToUser alive with ⟨rfl, goesOn⟩ | ⟨rfl, aggro, active⟩
  · rw [inserted_nil inserted]
    cases type : mood.type with
    | passive => exact .strike alive rfl (goesOn type)
    | aggro => exact .attack alive rfl rfl
  · rcases inserted_singleton inserted with first | second
    · rw [first]
      exact .engage alive aggro active
    · rw [second]
      exact .press alive aggro active rfl

omit served in
/-- A missed attack leaves the pending move alone. -/
theorem missed_shape {attack : Bool} (shape : Shape mood (.evMonsterAttackToUser :: rest))
    (alive : mood.dead = false) : Shape { mood with attack := attack } rest := by
  rcases shape.attackToUser alive with ⟨rfl, _⟩ | ⟨rfl, aggro, active⟩
  · exact .idle alive
  · exact .chase alive aggro active

/-- An event keeps the chain if it resets no flag whose event still waits. -/
theorem Served.turn (shape : Shape mood (kind :: rest)) (present : course.mood = some mood)
    (alive : mood.dead = false) (turn : Turn zone id mood course kind after)
    (grows : Grown TimerEvent.delay clock pairs late grown)
    (new : grown.map Prod.fst = after.alarms)
    (spares : kind = .evMonsterAttackToUser → .evAggroMove ∈ rest →
      ∀ now, after.mood = some now → now.active = mood.active)
    (keeps : kind = .evAggroMove → .evMonsterAttackToUser ∈ rest →
      ∀ now, after.mood = some now → now.attack = mood.attack) :
    Chained home late grown after := by
  have unflagged : ∀ active : Bool, Shape.Bare mood rest →
      (.evMonsterAttackToUser ∈ rest → false = mood.attack) →
        Shape.Bare { mood with active := active, attack := false } rest := by
    intro active bare calm
    cases bare with
    | idle => exact .idle
    | attack aggro flag =>
      exact absurd ((calm List.mem_cons_self).trans flag) Bool.false_ne_true
  have half : 500 ≤ 1000 := by decide
  cases turn with
  | strike targetId =>
    rcases shape.randomMove alive with ⟨rfl, passive, active⟩
    refine served.one (Nat.zero_le _) grows rfl new present ?_
    rintro longer inserted
    rw [inserted_nil inserted]
    exact .strike alive passive active
  | stroll =>
    rcases shape.randomMove alive with ⟨rfl, passive, active⟩
    refine served.one half grows rfl new present ?_
    rintro longer inserted
    rw [inserted_nil inserted]
    exact .stroll alive passive active
  | rest =>
    rcases shape.randomMove alive with ⟨rfl, _, _⟩
    exact served.none grows rfl new rfl (.idle alive)
  | lose =>
    rcases shape.aggroMove alive with ⟨bare, aggro, _⟩
    have calm := unflagged false bare fun waits => keeps rfl waits _ rfl
    exact served.none grows rfl new rfl (calm.shape alive rfl fun flag => flag)
  | giveUp =>
    rcases shape.aggroMove alive with ⟨bare, aggro, _⟩
    exact served.none grows rfl new rfl (bare.shape alive rfl fun flag => flag)
  | retreat targetId =>
    rcases shape.aggroMove alive with ⟨bare, aggro, active⟩
    have calm := unflagged mood.active bare fun waits => keeps rfl waits _ rfl
    refine served.one half grows rfl new rfl ?_
    exact fun longer inserted => calm.withMove alive aggro active (fun flag => flag) inserted
  | chase targetId =>
    rcases shape.aggroMove alive with ⟨bare, aggro, _⟩
    refine served.one half grows rfl new rfl ?_
    exact fun longer inserted => bare.withMove alive aggro rfl (fun flag => flag) inserted
  | engage targetId clear =>
    rcases shape.aggroMove alive with ⟨bare, aggro, active⟩
    refine served.engage ?_ grows new present alive aggro active
    cases bare with
    | idle => rfl
    | attack _ flag => exact absurd (clear.symm.trans flag) Bool.false_ne_true
  | press targetId busy =>
    rcases shape.aggroMove alive with ⟨bare, aggro, active⟩
    refine served.one half grows rfl new present ?_
    exact fun longer inserted => bare.withMove alive aggro active (fun flag => flag) inserted
  | slay =>
    rcases shape.attackToUser alive with ⟨rfl, _⟩ | ⟨rfl, _, active⟩
    · exact served.none grows rfl new rfl (.idle alive)
    · have still := spares rfl List.mem_cons_self _ rfl
      exact absurd (still.trans active) Bool.false_ne_true
  | again targetId =>
    refine served.one (Nat.le_refl _) grows rfl new rfl ?_
    exact fun longer inserted => again_shape shape alive inserted
  | leaveOff => exact served.none grows rfl new rfl (missed_shape shape alive)
  | nobody => exact served.none grows rfl new present (missed_shape shape alive)

/-- The events that are left of a fallen monster run out. -/
theorem Served.spent (shape : Shape mood (kind :: rest)) (present : course.mood = some mood)
    (dead : mood.dead = true) (act : kind.isAct = true) (spent : Spent mood course after)
    (grows : Grown TimerEvent.delay clock pairs late grown)
    (new : grown.map Prod.fst = after.alarms) : Chained home late grown after := by
  cases spent with
  | idle => exact served.none grows rfl new present (shape.spent dead act dead)
  | calm => exact served.none grows rfl new rfl (shape.spent dead act dead)

end Turn

end Chained

end Mmorpg
