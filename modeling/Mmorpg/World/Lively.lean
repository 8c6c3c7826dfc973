import Mmorpg.World.LifeCycle
import Mmorpg.World.Outpost

/-!
# Events that keep a monster going

A living active monster goes on only through an event of its own that is still
pending.  An aggressive monster always has its next move pending.  A passive
monster lives from a single event, and an attack that comes to nothing ends
this chain without laying the monster to rest.
-/

namespace Mmorpg

open ZoneLayout Transition

variable {grid : CollisionGrid}

/-- The events that carry a monster of each type on. -/
def MonsterType.keeps : MonsterType → TimerEventType → Bool
  | passive, kind => kind.isAct
  | aggro, kind => kind = .evAggroMove

theorem MonsterType.keeps_moves (type : MonsterType) : type.keeps type.moves = true := by
  cases type <;> rfl

theorem MonsterType.isAct_of_keeps {type : MonsterType} {kind : TimerEventType}
    (keeps : type.keeps kind = true) : kind.isAct = true := by
  cases type with
  | passive => exact keeps
  | aggro =>
    obtain rfl : kind = .evAggroMove := of_decide_eq_true keeps
    rfl

/-! ## Courses -/

/-- The event that a task answers. -/
def Task.timerKind : Task → Option TimerEventType
  | .timer kind _ _ => some kind
  | _ => none

theorem countP_isAct {β : Type} (event : β → Option TimerEventType) (entries : List β) :
    (entries.countP fun entry => (event entry).any TimerEventType.isAct) =
      (entries.countP fun entry => (event entry).any fun kind => kind = .evRandomMove) +
        (entries.countP fun entry => (event entry).any fun kind => kind = .evAggroMove) +
          entries.countP fun entry => (event entry).any fun kind => kind = .evMonsterAttackToUser := by
  induction entries with
  | nil => rfl
  | cons entry rest ih =>
    simp only [List.countP_cons, ih]
    cases event entry with
    | none => simp
    | some kind => cases kind <;> simp [TimerEventType.isAct] <;> omega

namespace Course

variable {home zone : Nat} {id : ObjID} {course after : Course} {mood : Mood}

/-- The events that keep a monster going, kind by kind. -/
theorem outstanding_isAct (home : Nat) (course : Course) :
    course.outstanding TimerEventType.isAct home =
      course.outstanding (fun kind => kind = .evRandomMove) home +
        course.outstanding (fun kind => kind = .evAggroMove) home +
          course.outstanding (fun kind => kind = .evMonsterAttackToUser) home := by
  have alarms := countP_isAct (fun event : TimerEvent => some event.event) course.alarms
  have orders := countP_isAct Task.timerKind (course.orders home)
  have rings : ∀ kinds : TimerEventType → Bool,
      Task.rings kinds = fun task : Task => (Task.timerKind task).any kinds := by
    intro kinds
    funext task
    cases task <;> rfl
  simp only [Option.any_some] at alarms
  simp only [outstanding, rings, alarms, orders]
  omega

/-- A living active monster has an event pending that carries it on. -/
def Lively (home : Nat) (course : Course) : Prop :=
  ∀ mood, course.mood = some mood → mood.dead = false → mood.active = true →
    0 < course.outstanding mood.type.keeps home

theorem Lively.of_mood (becomes : after.mood = some mood)
    (pending : mood.dead = false → mood.active = true →
      0 < after.outstanding mood.type.keeps home) : after.Lively home := by
  intro current present alive active
  obtain rfl := Option.some.inj (becomes.symm.trans present)
  exact pending alive active

/-- A monster at rest needs no event. -/
theorem Lively.of_resting (becomes : after.mood = some mood) (resting : mood.active = false) :
    after.Lively home :=
  .of_mood becomes fun _ active => absurd (resting.symm.trans active) Bool.false_ne_true

/-- An event that counts is pending once it is scheduled. -/
theorem outstanding_alarm_pos {kinds : TimerEventType → Bool} {event : TimerEvent}
    (counts : kinds event.event = true) : 0 < (course.alarm event).outstanding kinds home := by
  rw [outstanding_alarm, if_pos counts]
  exact Nat.succ_pos _

theorem Lively.touch (lively : course.Lively home) (touch : Touch zone id course after) :
    after.Lively home := by
  cases touch with
  | wake mood targetId present alive resting =>
    exact .of_mood rfl fun _ _ => outstanding_alarm_pos mood.type.keeps_moves
  | wound mood hp present alive positive less =>
    refine .of_mood rfl fun _ active => ?_
    rw [outstanding_setMood]
    exact lively mood present alive active
  | slay mood present alive => exact .of_resting rfl rfl

theorem Lively.touches (lively : course.Lively home)
    (touches : Relation.ReflTransGen (Touch zone id) course after) : after.Lively home := by
  induction touches with
  | refl => exact lively
  | tail _ last ih => exact ih.touch last

theorem outstanding_le_alarm (kinds : TimerEventType → Bool) (event : TimerEvent)
    (course : Course) :
    course.outstanding kinds home ≤ (course.alarm event).outstanding kinds home := by
  rw [outstanding_alarm]
  exact Nat.le_add_right _ _

theorem keeps_aggroMove (type : MonsterType) : type.keeps .evAggroMove = true := by
  cases type <;> rfl

/-- An event that is scheduled carries the monster on, or another one does. -/
theorem pending_alarm {event : TimerEvent} (act : event.event.isAct = true)
    (others : mood.type = .aggro → 0 < course.outstanding mood.type.keeps home) :
    0 < (course.alarm event).outstanding mood.type.keeps home := by
  cases type : mood.type with
  | passive => exact outstanding_alarm_pos act
  | aggro =>
    rw [type] at others
    exact (others rfl).trans_le (outstanding_le_alarm _ event course)

/-- A move rests the monster or schedules its next event. -/
theorem lively_of_move {kind : TimerEventType} (isMove : kind ≠ .evMonsterAttackToUser)
    (turn : Turn zone id mood course kind after) (present : course.mood = some mood)
    (others : kind = .evRandomMove → mood.active = true → mood.type = .aggro →
      0 < course.outstanding mood.type.keeps home) : after.Lively home := by
  have pursues : ∀ targetId, ∀ current : Course,
      0 < (current.alarm ⟨id, 500, .evAggroMove, targetId, zone⟩).outstanding mood.type.keeps home :=
    fun _ _ => outstanding_alarm_pos (keeps_aggroMove mood.type)
  cases turn with
  | strike targetId =>
    exact .of_mood present fun _ active => pending_alarm rfl (others rfl active)
  | stroll => exact .of_mood present fun _ active => pending_alarm rfl (others rfl active)
  | rest => exact .of_resting rfl rfl
  | lose => exact .of_resting rfl rfl
  | giveUp => exact .of_resting rfl rfl
  | retreat targetId => exact .of_mood rfl fun _ _ => pursues targetId _
  | chase targetId => exact .of_mood rfl fun _ _ => pursues targetId _
  | engage targetId clear => exact .of_mood present fun _ _ => pursues targetId _
  | press targetId busy => exact .of_mood present fun _ _ => pursues targetId _
  | slay => exact absurd rfl isMove
  | again targetId => exact absurd rfl isMove
  | leaveOff => exact absurd rfl isMove
  | nobody => exact absurd rfl isMove

/-- A dead monster stays dead through the events it had left. -/
theorem lively_of_spent (present : course.mood = some mood) (dead : mood.dead = true)
    (spent : Spent mood course after) : after.Lively home := by
  have lifeless : mood.dead = false → False :=
    fun lives => Bool.false_ne_true (lives.symm.trans dead)
  cases spent with
  | idle => exact .of_mood present fun lives _ => (lifeless lives).elim
  | calm => exact .of_mood rfl fun lives _ => (lifeless lives).elim

end Course

namespace World

variable {home thread : Nat} {choice : Choice grid} {id targetId : ObjID} {world after : World}
  {subject : Subject} {monster : Monster}

/-- An attack that hits, or that is not the monster's last event, leaves it
lively. -/
theorem attack_lively (filed : Filed world)
    (ran : world.timerTask thread choice .evMonsterAttackToUser id targetId = some after)
    (found : world.getMonster id = some (subject, monster))
    (others : monster.active = true → monster.type = .aggro →
      0 < (world.course id).outstanding monster.type.keeps home)
    (spare : world.attackHolds id targetId = false → monster.active = true →
      0 < (world.course id).outstanding monster.type.keeps home) :
    (after.course id).Lively home := by
  rw [timerTask_attack ran found]
  cases holds : world.attackHolds id targetId with
  | true =>
    rcases handleAttackToPlayer_holds thread choice filed found holds with
      ⟨_, killed⟩ | survived
    · rw [killed]
      exact .of_resting rfl rfl
    · rw [survived]
      refine .of_mood rfl fun _ active => ?_
      exact Course.pending_alarm rfl (others active)
  | false =>
    rcases handleAttackToPlayer_fails thread choice found holds with missed | absent
    · rw [missed]
      exact .of_mood rfl fun _ active => spare holds active
    · rw [absent]
      exact .of_mood (moodOf_of_getMonster found) fun _ active => spare holds active

/-- The events of a monster that may act for it. -/
def ownEvents (id : ObjID) (world : World) : Nat :=
  world.outstanding .evRandomMove id + world.outstanding .evAggroMove id +
    world.outstanding .evMonsterAttackToUser id

/-- At home, all events of a monster are counted. -/
theorem ownEvents_homed (valid : isValidZoneId home = true) (homed : Homed home id world) :
    world.ownEvents id = (world.course id).outstanding TimerEventType.isAct home := by
  rw [ownEvents, outstanding_homed _ valid homed, outstanding_homed _ valid homed,
    outstanding_homed _ valid homed, Course.outstanding_isAct]

/-- No living active monster waits for nothing. -/
def NoFrozen (world : World) : Prop :=
  ∀ id subject monster, world.getMonster id = some (subject, monster) →
    monster.stat.dead = false → monster.active = true → 0 < world.ownEvents id

/-- A passive monster that lives from its last event. -/
def onLastEvent (id : ObjID) (world : World) : Bool :=
  match world.getMonster id with
  | some (_, monster) =>
      monster.type = .passive ∧ monster.stat.dead = false ∧ monster.active = true ∧
        world.ownEvents id = 1
  | none => false

end World

namespace Server

open World

variable {collate : String → String} {home : Nat} {id : ObjID}

/-- The last event of a passive monster is no attack that comes to nothing. -/
def lastAttackHolds (label : Label grid) (server : Server collate) : Bool :=
  match label with
  | .run thread _ =>
      match server.world.queues thread with
      | .timer .evMonsterAttackToUser id targetId :: _ =>
          !server.world.onLastEvent id || server.world.attackHolds id targetId
      | _ => true
  | _ => true

/-- A passive monster that misses has another event left. -/
theorem pending_of_miss {before : Server collate} {choice : Choice grid} {targetId : ObjID}
    {rest : List Task} {subject : Subject} {monster : Monster} (valid : isValidZoneId home = true)
    (holds : lastAttackHolds (.run home choice) before = true)
    (queued : before.world.queues home = .timer .evMonsterAttackToUser id targetId :: rest)
    (homed : Homed home id before.world)
    (found : before.world.getMonster id = some (subject, monster)) (passive : monster.type = .passive)
    (alive : monster.stat.dead = false) (active : monster.active = true)
    (fails : before.world.attackHolds id targetId = false)
    (positive : 0 < (before.world.course id).outstanding TimerEventType.isAct home) :
    0 < ((before.world.popped home rest).course id).outstanding TimerEventType.isAct home := by
  have counted := outstanding_popped TimerEventType.isAct queued
  rw [if_pos (show TimerEventType.isAct .evMonsterAttackToUser = true from rfl)] at counted
  rw [lastAttackHolds, queued] at holds
  have several : before.world.onLastEvent id = false := by simpa [fails] using holds
  rw [onLastEvent, found] at several
  have notOne : before.world.ownEvents id ≠ 1 := by simpa [passive, alive, active] using several
  rw [ownEvents_homed valid homed] at notOne
  omega

/-- A step that meets the condition freezes no monster. -/
theorem step_lively {label : Label grid} {before after : Server collate}
    (valid : isValidZoneId home = true) (category : id.category = .eMonster)
    (holds : lastAttackHolds label before = true) (taken : step label before = some after)
    (mapped : Mapped before.world) (homed : Homed home id before.world)
    (lively : (before.world.course id).Lively home) : (after.world.course id).Lively home := by
  cases step_passage valid category taken mapped homed with
  | still same =>
    rw [same]
    exact lively
  | fire _ found subject fired =>
    intro mood present alive active
    rw [outstanding_fire _ found subject fired]
    rw [fired] at present
    exact lively mood present alive active
  | touched _ touches => exact lively.touches touches
  | own isRun queued kinds ran =>
    next choice kind targetId rest =>
    cases found : (before.world.popped home rest).getMonster id with
    | none =>
      rw [timerTask_missing kinds ran found]
      exact fun mood present => absurd ((moodOf_missing found).symm.trans present)
        (Option.some_ne_none mood).symm
    | some entry =>
      obtain ⟨subject, monster⟩ := entry
      have present := moodOf_of_getMonster found
      have counted := outstanding_popped monster.type.keeps queued
      have filed : Filed (before.world.popped home rest) := mapped.filed
      have others : monster.stat.dead = false → monster.type.keeps kind = false →
          monster.active = true →
            0 < ((before.world.popped home rest).course id).outstanding monster.type.keeps home := by
        intro alive spared active
        have pending := lively monster.mood present alive active
        rw [show monster.mood.type = monster.type from rfl, counted, spared] at pending
        exact pending
      rcases timerTask_own kinds ran filed found with
        ⟨rfl, revived⟩ | ⟨act, alive, turn⟩ | ⟨act, dead, spent⟩
      · rw [revived]
        exact .of_resting rfl rfl
      · by_cases isAttack : kind = .evMonsterAttackToUser
        · subst isAttack
          refine attack_lively filed ran found ?_ ?_
          · intro active aggro
            refine others alive ?_ active
            rw [aggro]
            rfl
          · intro fails active
            cases type : monster.type with
            | aggro =>
              rw [← type]
              refine others alive ?_ active
              rw [type]
              rfl
            | passive =>
              rw [isRun] at holds
              have positive := lively monster.mood present alive active
              rw [show monster.mood.type = .passive from type] at positive
              exact pending_of_miss valid holds queued homed found type alive active fails positive
        · refine Course.lively_of_move isAttack turn present ?_
          rintro rfl active aggro
          refine others alive ?_ active
          rw [show monster.type = .aggro from aggro]
          rfl
      · exact Course.lively_of_spent present dead spent

/-- No monster freezes in such a run. -/
theorem run_lively {count : Nat} {draw : Nat → Int × Int} {store : Store collate}
    {labels : List (Label grid)} {server : Server collate} (valid : ValidDraws grid draw)
    (category : id.category = .eMonster)
    (along : Along step (fun label state => lastAttackHolds label state = true) labels
      (boot count draw store))
    (ran : run step labels (boot count draw store) = some server) :
    (server.world.course id).Lively (homeZone id) := by
  have validHome := isValidZoneId_homeZone id
  have stepwise : ∀ (label : Label grid) (before after : Server collate), lastAttackHolds label before = true →
      step label before = some after →
      (Mapped before.world ∧ Homed (homeZone id) id before.world) ∧
          (before.world.course id).Lively (homeZone id) →
        (Mapped after.world ∧ Homed (homeZone id) id after.world) ∧
          (after.world.course id).Lively (homeZone id) := by
    rintro label before after holds taken ⟨⟨mapped, homed⟩, lively⟩
    refine ⟨⟨step_mapped taken mapped, step_homed validHome category taken mapped homed⟩, ?_⟩
    exact step_lively validHome category holds taken mapped homed lively
  refine (invariant_of_along stepwise along ran
    ⟨⟨boot_mapped count draw, boot_homed count valid id⟩, ?_⟩).2
  intro mood present alive active
  rcases boot_course count valid id present with ⟨_, _, _, resting, _⟩
  exact absurd (resting.symm.trans active) Bool.false_ne_true

/-- A monster that is active has an event pending, in every state of such a
run. -/
theorem no_frozen_monster {count : Nat} {draw : Nat → Int × Int} {store : Store collate}
    {labels : List (Label grid)} {server : Server collate} (valid : ValidDraws grid draw)
    (along : Along step (fun label state => lastAttackHolds label state = true) labels
      (boot count draw store))
    (ran : run step labels (boot count draw store) = some server) : NoFrozen server.world := by
  intro id subject monster found alive active
  have category := (run_handed ran).mapped.filed.monster found
  have homed := run_homed valid category ran
  have pending := run_lively valid category along ran monster.mood (moodOf_of_getMonster found)
    alive active
  rw [ownEvents_homed (isValidZoneId_homeZone id) homed]
  refine pending.trans_le ?_
  have subset : ∀ course : Course, course.outstanding monster.type.keeps (homeZone id) ≤
      course.outstanding TimerEventType.isAct (homeZone id) := by
    intro course
    apply Nat.add_le_add
    · exact List.countP_mono_left fun event _ keeps => MonsterType.isAct_of_keeps keeps
    · apply List.countP_mono_left
      intro task _ keeps
      cases task with
      | timer kind subjectId targetId => exact MonsterType.isAct_of_keeps keeps
      | _ => contradiction
  exact subset _

/-- All monsters of the server, with the first passive one in the corner. -/
theorem boot_outpost (store : Store collate) :
    boot maxMonster (outpostDraw 50000) store = ⟨outpost maxMonster 50000, store, 0⟩ := by
  rw [boot, boot_eq_outpost (by decide) rfl]

/-- The monster comes up to the player, and its attack strikes: no other event
of the monster was pending then. -/
def fight : List (Label initCollisionTile) :=
  encounter ++ [.fire 1, .run 0 .steady, .fire 1, .run 0 .steady]

/-- The struck player has lost three hit points, and the monster goes on. -/
theorem no_frozen_monster_sample :
    ∃ server, run step fight (boot maxMonster (outpostDraw 50000) World.savedStore) =
        some server ∧
      (server.world.getUser (ObjID.user 1)).map (fun found => found.2.stat.hp) = some 97 ∧
      (server.world.getMonster (ObjID.monster 1000050000)).map (fun found => found.2.active) =
        some true ∧ NoFrozen server.world := by
  have completes : (run step fight ⟨outpost maxMonster 50000, World.savedStore, 0⟩).isSome := by
    rfl
  have along : Along step (fun label state => lastAttackHolds label state = true) fight
      ⟨outpost maxMonster 50000, World.savedStore, 0⟩ := along_of_check (by rfl)
  rcases Option.isSome_iff_exists.mp completes with ⟨server, ran⟩
  rw [boot_outpost]
  refine ⟨server, ran, ?_, ?_, ?_⟩
  · obtain rfl := Option.some.inj ran
    rfl
  · obtain rfl := Option.some.inj ran
    rfl
  · rw [← boot_outpost] at ran along
    exact no_frozen_monster (outpostDraw_valid 50000) along ran

/-- The player steps away before the attack that the monster has scheduled. -/
def freezing : List (Label initCollisionTile) :=
  encounter ++ [.fire 1, .run 0 .steady, .receive 1 (.userTeleportReq 12 9), .run 0 .steady, .fire 1,
    .run 0 .steady]

/-- A passive monster misses, and stays active with nothing pending. -/
theorem frozen_monster :
    ∃ server, run step freezing (boot maxMonster (outpostDraw 50000) World.savedStore) =
      some server ∧ ¬NoFrozen server.world := by
  have completes : (run step freezing ⟨outpost maxMonster 50000, World.savedStore, 0⟩).isSome := by
    rfl
  rcases Option.isSome_iff_exists.mp completes with ⟨server, ran⟩
  rw [boot_outpost]
  refine ⟨server, ran, ?_⟩
  intro alive
  have present : (server.world.getMonster (ObjID.monster 1000050000)).isSome := by
    obtain rfl := Option.some.inj ran
    rfl
  rcases Option.isSome_iff_exists.mp present with ⟨⟨subject, monster⟩, found⟩
  have flags : (server.world.getMonster (ObjID.monster 1000050000)).map (fun found =>
      (found.2.stat.dead, found.2.active)) = some (false, true) := by
    obtain rfl := Option.some.inj ran
    rfl
  have nothing : server.world.ownEvents (ObjID.monster 1000050000) = 0 := by
    obtain rfl := Option.some.inj ran
    rfl
  rw [found] at flags
  obtain ⟨living, active⟩ := Prod.mk.inj (Option.some.inj flags)
  have pending := alive _ _ _ found living active
  omega

end Server

end Mmorpg
