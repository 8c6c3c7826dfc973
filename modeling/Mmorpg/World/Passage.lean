import Mmorpg.World.Homed
import Mmorpg.Transition.Pending

/-!
# How the server acts on the course of one monster

A step of the server leaves the course of a monster alone, moves one of its
events from the timer to the queue of its zone, runs one of its events, or runs
a task of somebody else that wakes, hurts or kills it.
-/

namespace Mmorpg

open ZoneLayout Transition

variable {grid : CollisionGrid}

/-- What the task of somebody else may do to a monster. -/
inductive Touch (zone : Nat) (id : ObjID) (course : Course) : Course → Prop
  | wake (mood : Mood) (targetId : ObjID) : course.mood = some mood → mood.dead = false →
      mood.active = false →
      Touch zone id course ((course.setMood { mood with active := true }).alarm
        ⟨id, 500, mood.type.moves, targetId, zone⟩)
  | wound (mood : Mood) (hp : Nat) : course.mood = some mood → mood.dead = false → 0 < hp →
      hp ≤ mood.hp → Touch zone id course (course.setMood { mood with hp := hp })
  | slay (mood : Mood) : course.mood = some mood → mood.dead = false →
      Touch zone id course ((course.setMood ⟨mood.type, 0, true, false, false⟩).alarm
        ⟨id, 10000, .evMonsterRespawn, ObjID.npos, zone⟩)

/-- What an event of a dead monster leaves behind. -/
inductive Spent (mood : Mood) (course : Course) : Course → Prop
  | idle : Spent mood course course
  | calm : Spent mood course (course.setMood { mood with attack := false })

namespace World

variable {home zone thread : Nat} {choice : Choice grid} {own id targetId : ObjID}
  {world before after : World} {subject : Subject} {monster : Monster}

/-- A task of the monster touches its course once. -/
theorem Contact.touches (contact : Contact zone choice own id before after) (other : own ≠ id)
    (category : id.category = .eMonster) :
    after.course id = before.course id ∨ Touch zone id (before.course id) (after.course id) := by
  cases contact with
  | wake valid member =>
    next wakerId forceWake sector =>
    rcases wakeUpMonster_cases zone id wakerId forceWake before with
      same | ⟨subject, monster, targetId, found, alive, resting, woken⟩
    · rw [same]
      exact .inl rfl
    · rw [woken, course_alarm, course_setMood _ found]
      exact .inr (.wake monster.mood targetId (moodOf_of_getMonster found) alive resting)
  | wound valid found alive member attacker survives =>
    next subject monster damage sector =>
    rw [course_setMood _ found]
    have less : (monster.stat.takeDamage damage).hp ≤ monster.stat.hp := by
      simp only [Stat.takeDamage]
      split <;> omega
    have stays : (monster.stat.takeDamage damage).dead = monster.stat.dead := by
      rw [Stat.takeDamage_dead, decide_eq_false, Bool.false_or]
      rw [← Stat.takeDamage_hp_eq_zero_iff]
      omega
    have becomes : ({ monster with stat := monster.stat.takeDamage damage } : Monster).mood =
        { monster.mood with hp := (monster.stat.takeDamage damage).hp } := by
      simp [Monster.mood, stays]
    rw [becomes]
    exact .inr (.wound _ _ (moodOf_of_getMonster found) alive survives less)
  | slay valid found alive member attacker fatal slays =>
    next subject monster killer damage sector =>
    have dead : (monster.stat.takeDamage damage).dead = true := by
      rw [Stat.takeDamage_dead, decide_eq_true (by rwa [← Stat.takeDamage_hp_eq_zero_iff]),
        Bool.true_or]
    rw [slain_course found category slays, fatal, dead]
    exact .inr (.slay monster.mood (moodOf_of_getMonster found) alive)
  | tend isOwn => exact absurd isOwn other
  | raise isOwn => exact absurd isOwn other
  | step isOwn => exact absurd isOwn other
  | schedule isOwn => exact absurd isOwn other

/-- The task of somebody else. -/
theorem exec_touches {task : Task} (ran : world.exec thread choice task = some after)
    (category : id.category = .eMonster) (other : task.own ≠ id) (mapped : Mapped world) :
    Relation.ReflTransGen (Touch thread id) (world.course id) (after.course id) := by
  refine (Script.keeps (fun current => Mapped current ∧
    Relation.ReflTransGen (Touch thread id) (world.course id) (current.course id)) ?_
      (exec_script mapped.filed ran) ⟨mapped, .refl⟩).2
  rintro before after op ⟨mapped, sofar⟩
  refine ⟨op.mapped mapped, ?_⟩
  rcases op.aloof_or_contact mapped.filed category with aloof | contact
  · rw [aloof.course]
    exact sofar
  · rcases contact.touches other category with same | touch
    · rw [same]
      exact sofar
    · exact sofar.tail touch

/-! ## The monster's own events -/

/-- A task of an event of the monster is the monster's own. -/
theorem own_of_event {task : Task} (isEvent : task.isEventOf id = true)
    (kinds : task.rings TimerEventType.isMonsters = true) : task.own = id := by
  cases task with
  | timer kind subjectId targetId =>
    have subject : subjectId = id := of_decide_eq_true isEvent
    cases kind with
    | evRandomMove => exact subject
    | evMonsterRespawn => exact subject
    | evMonsterAttackToUser => exact subject
    | evAggroMove => exact subject
    | _ => contradiction
  | _ => contradiction

theorem handleRandomMove_dead (found : world.getMonster id = some (subject, monster))
    (dead : monster.stat.dead = true) : world.handleRandomMove zone choice id = world := by
  unfold handleRandomMove
  rw [found]
  exact if_pos dead

theorem handleAggroMove_dead (found : world.getMonster id = some (subject, monster))
    (dead : monster.stat.dead = true) :
    world.handleAggroMove zone choice id targetId = world := by
  unfold handleAggroMove
  rw [found]
  exact if_pos dead

theorem attackHolds_dead (found : world.getMonster id = some (subject, monster))
    (dead : monster.stat.dead = true) : world.attackHolds id targetId = false := by
  rw [attackHolds, found]
  cases world.getUser targetId with
  | none => rfl
  | some entry => simp [attackMisses, dead]

/-- Events of a monster that is gone do nothing. -/
theorem timerTask_missing {kind : TimerEventType} (kinds : kind.isMonsters = true)
    (ran : world.timerTask thread choice kind id targetId = some after)
    (missing : world.getMonster id = none) : after = world := by
  have nothing : ∀ body, world.ifRegistered (world.getMonster id) thread body = some after →
      after = world := by
    intro body found
    rw [missing] at found
    exact (Option.some.inj found).symm
  cases kind with
  | evRandomMove => exact nothing _ ran
  | evAggroMove => exact nothing _ ran
  | evMonsterAttackToUser => exact nothing _ ran
  | evMonsterRespawn => exact nothing _ ran
  | _ => contradiction

theorem timerTask_attack
    (ran : world.timerTask thread choice .evMonsterAttackToUser id targetId = some after)
    (found : world.getMonster id = some (subject, monster)) :
    after = world.handleAttackToPlayer thread choice id targetId := by
  rcases ifRegistered_eq_some.mp ran with ⟨missing, _⟩ | ⟨_, _, rfl⟩
  · rw [found] at missing
    contradiction
  · rfl

theorem timerTask_aggroMove
    (ran : world.timerTask thread choice .evAggroMove id targetId = some after)
    (found : world.getMonster id = some (subject, monster)) :
    after = world.handleAggroMove thread choice id targetId := by
  rcases ifRegistered_eq_some.mp ran with ⟨missing, _⟩ | ⟨_, _, rfl⟩
  · rw [found] at missing
    contradiction
  · rfl

theorem moodOf_missing (missing : world.getMonster id = none) : world.moodOf id = none := by
  cases found : world.moodOf id with
  | none => rfl
  | some mood =>
    rcases moodOf_eq_some.mp found with ⟨subject, monster, present, _⟩
    rw [missing] at present
    contradiction

/-- What the closures of the timer make of the monster. -/
theorem timerTask_own {kind : TimerEventType} (kinds : kind.isMonsters = true)
    (ran : world.timerTask thread choice kind id targetId = some after) (filed : Filed world)
    (found : world.getMonster id = some (subject, monster)) :
    (kind = .evMonsterRespawn ∧ after.course id =
        (world.course id).setMood ⟨monster.type, monsterMaxHp, false, false, false⟩) ∨
      (kind.isAct = true ∧ monster.stat.dead = false ∧
        Turn thread id monster.mood (world.course id) kind (after.course id)) ∨
      (kind.isAct = true ∧ monster.stat.dead = true ∧
        Spent monster.mood (world.course id) (after.course id)) := by
  cases kind with
  | evRandomMove =>
    rcases ifRegistered_eq_some.mp ran with ⟨missing, _⟩ | ⟨_, _, rfl⟩
    · rw [found] at missing
      contradiction
    · apply Or.inr
      cases life : monster.stat.dead with
      | false => exact .inl ⟨rfl, rfl, handleRandomMove_turn found life⟩
      | true =>
        rw [handleRandomMove_dead found life]
        exact .inr ⟨rfl, rfl, .idle⟩
  | evAggroMove =>
    rcases ifRegistered_eq_some.mp ran with ⟨missing, _⟩ | ⟨_, _, rfl⟩
    · rw [found] at missing
      contradiction
    · apply Or.inr
      cases life : monster.stat.dead with
      | false => exact .inl ⟨rfl, rfl, handleAggroMove_turn filed found life⟩
      | true =>
        rw [handleAggroMove_dead found life]
        exact .inr ⟨rfl, rfl, .idle⟩
  | evMonsterAttackToUser =>
    rcases ifRegistered_eq_some.mp ran with ⟨missing, _⟩ | ⟨_, _, rfl⟩
    · rw [found] at missing
      contradiction
    · apply Or.inr
      cases life : monster.stat.dead with
      | false => exact .inl ⟨rfl, rfl, handleAttackToPlayer_turn filed found⟩
      | true =>
        rcases handleAttackToPlayer_fails thread choice found (attackHolds_dead found life) with
          missed | absent
        · rw [missed]
          exact .inr ⟨rfl, rfl, .calm⟩
        · rw [absent]
          exact .inr ⟨rfl, rfl, .idle⟩
  | evMonsterRespawn =>
    rcases ifRegistered_eq_some.mp ran with ⟨missing, _⟩ | ⟨_, _, rfl⟩
    · rw [found] at missing
      contradiction
    · exact .inl ⟨rfl, handleMonsterRespawn_course found⟩
  | _ => contradiction

end World

/-! ## Steps of the server -/

namespace Server

open World

variable {collate : String → String} {home : Nat} {id : ObjID}

/-- What one step makes of the course of a monster. -/
inductive Passage (home : Nat) (id : ObjID) (label : Label grid) (before after : Server collate) : Prop
  | still : after.world.course id = before.world.course id → Passage home id label before after
  | fire {index : Nat} {event : TimerEvent} : label = .fire index →
      before.world.timers[index]? = some event → event.subjectId = id →
      after.world.course id = { before.world.course id with
        alarms := (before.world.timers.eraseIdx index).filter fun event => event.subjectId = id
        orders := Function.update (before.world.course id).orders home
          ((before.world.course id).orders home ++ [.timer event.event id event.targetId]) } →
      Passage home id label before after
  | touched {thread : Nat} {choice : Choice grid} : label = .run thread choice →
      Relation.ReflTransGen (Touch thread id) (before.world.course id) (after.world.course id) →
      Passage home id label before after
  | own {choice : Choice grid} {kind : TimerEventType} {targetId : ObjID} {rest : List Task} :
      label = .run home choice →
      before.world.queues home = .timer kind id targetId :: rest → kind.isMonsters = true →
      (before.world.popped home rest).timerTask home choice kind id targetId = some after.world →
      Passage home id label before after

/-- Firing an event moves it. -/
theorem outstanding_fire {before after : World} {index : Nat} {event : TimerEvent}
    (kinds : TimerEventType → Bool) (found : before.timers[index]? = some event)
    (subject : event.subjectId = id)
    (fired : after.course id = { before.course id with
      alarms := (before.timers.eraseIdx index).filter fun event => event.subjectId = id
      orders := Function.update (before.course id).orders home
        ((before.course id).orders home ++ [.timer event.event id event.targetId]) }) :
    (after.course id).outstanding kinds home = (before.course id).outstanding kinds home := by
  have whole : ((before.course id).alarms.countP fun event => kinds event.event) =
      ((before.timers.eraseIdx index).filter fun event => event.subjectId = id).countP
        (fun event => kinds event.event) + if kinds event.event = true then 1 else 0 := by
    have counted := countP_eraseIdx
      (fun event : TimerEvent => kinds event.event && decide (event.subjectId = id)) found
    simp only [subject, decide_true, Bool.and_true] at counted
    rw [course, World.alarms, List.countP_filter, List.countP_filter]
    exact counted
  rw [fired, Course.outstanding, Course.outstanding, whole]
  dsimp only
  rw [Function.update_self, List.countP_append, List.countP_singleton, Task.rings]
  omega

/-- Running an event takes it away. -/
theorem outstanding_popped {before : World} {kind : TimerEventType} {targetId : ObjID}
    {rest : List Task} (kinds : TimerEventType → Bool)
    (queued : before.queues home = .timer kind id targetId :: rest) :
    (before.course id).outstanding kinds home =
      ((before.popped home rest).course id).outstanding kinds home +
        if kinds kind = true then 1 else 0 := by
  have isEvent : (Task.timer kind id targetId).isEventOf id = true := decide_eq_true rfl
  have orders := orders_popped_own queued isEvent
  rw [Course.outstanding, Course.outstanding, orders, Function.update_self, List.countP_cons,
    Task.rings]
  exact (Nat.add_assoc _ _ _).symm

/-- The timer dispatches an event that was scheduled on the thread of `home`. -/
theorem fire_stamped {index : Nat} {event : TimerEvent} {before after : Server collate}
    (valid : isValidZoneId home = true) (notUser : id.category ≠ .eUser)
    (taken : before.fire index = some after)
    (found : before.world.timers[index]? = some event) (subject : event.subjectId = id)
    (stamped : event.zoneId = home) :
    after.world.course id = { before.world.course id with
      alarms := (before.world.timers.eraseIdx index).filter fun event => event.subjectId = id
      orders := Function.update (before.world.course id).orders home
        ((before.world.course id).orders home ++ [.timer event.event id event.targetId]) } := by
  simp only [fire, found, Option.some.injEq] at taken
  rw [← taken]
  have isEvent : (Task.timer event.event event.subjectId event.targetId).isEventOf id = true :=
    decide_eq_true subject
  have zoneOf : timerZone event { before.world with
      timers := before.world.timers.eraseIdx index } = home := by
    rw [timerZone, if_pos, stamped]
    rw [subject, stamped]
    exact ⟨notUser, valid⟩
  dsimp only
  rw [dispatchTimer_eq, zoneOf, course_enqueueByZone_own home isEvent, threadOf_valid valid, subject]
  rfl

/-- An event that is pending for the monster. -/
theorem mem_alarms {index : Nat} {event : TimerEvent} {world : World}
    (found : world.timers[index]? = some event) (subject : event.subjectId = id) :
    event ∈ (world.course id).alarms :=
  List.mem_filter.mpr ⟨List.mem_of_getElem? found, decide_eq_true subject⟩

/-- The timer dispatches an event of the monster. -/
theorem fire_own {index : Nat} {event : TimerEvent} {before after : Server collate}
    (valid : isValidZoneId home = true) (category : id.category = .eMonster)
    (taken : before.fire index = some after)
    (found : before.world.timers[index]? = some event) (subject : event.subjectId = id)
    (homed : Homed home id before.world) :
    after.world.course id = { before.world.course id with
      alarms := (before.world.timers.eraseIdx index).filter fun event => event.subjectId = id
      orders := Function.update (before.world.course id).orders home
        ((before.world.course id).orders home ++ [.timer event.event id event.targetId]) } :=
  fire_stamped valid (not_user_of_monster category) taken found subject
    (homed.alarms event (mem_alarms found subject)).1

/-- The timer dispatches an event of somebody else. -/
theorem fire_other {index : Nat} {event : TimerEvent} {before after : Server collate}
    (taken : before.fire index = some after)
    (found : before.world.timers[index]? = some event) (other : event.subjectId ≠ id) :
    after.world.course id = before.world.course id := by
  simp only [fire, found, Option.some.injEq] at taken
  rw [← taken]
  have noEvent : (Task.timer event.event event.subjectId event.targetId).isEventOf id = false :=
    decide_eq_false other
  dsimp only
  rw [dispatchTimer_eq, course_enqueueByZone _ noEvent]
  refine course_congr rfl rfl (filter_eraseIdx _ found ?_)
  exact decide_eq_false other

theorem exists_fired {index : Nat} {before after : Server collate}
    (taken : before.fire index = some after) :
    ∃ event, before.world.timers[index]? = some event := by
  simp only [fire] at taken
  split at taken
  · contradiction
  · next event found => exact ⟨event, found⟩

/-- How one step changes the course of a monster at home. -/
theorem step_passage {label : Label grid} {before after : Server collate}
    (valid : isValidZoneId home = true) (category : id.category = .eMonster)
    (taken : step label before = some after) (mapped : Mapped before.world)
    (homed : Homed home id before.world) : Passage home id label before after := by
  cases label with
  | fire index =>
    rcases exists_fired taken with ⟨event, found⟩
    by_cases subject : event.subjectId = id
    · exact .fire rfl found subject (fire_own valid category taken found subject homed)
    · exact .still (fire_other taken found subject)
  | run thread choice =>
    simp only [step, runThread] at taken
    split at taken
    · contradiction
    · next task rest queued =>
      rcases Option.map_eq_some_iff.mp taken with ⟨world, ran, rfl⟩
      by_cases own : task.own = id
      · obtain rfl := homed.thread_eq category queued own
        rcases event_of_own category own with ⟨kind, targetId, rfl, kinds⟩
        exact .own rfl queued kinds ran
      · refine .touched rfl ?_
        have noEvent : task.isEventOf id = false := by
          by_contra isEvent
          rw [Bool.not_eq_false] at isEvent
          apply own
          apply own_of_event isEvent
          apply (homed.orders thread task _).2
          exact List.mem_filter.mpr ⟨queued ▸ List.mem_cons_self, isEvent⟩
        rw [← course_popped queued noEvent]
        exact exec_touches ran category own (mapped.congr rfl rfl rfl rfl)
  | _ =>
    have aloof : Aloof id before.world after.world :=
      step_aloof taken (fun _ => by simp) fun _ _ => by simp
    exact .still aloof.course

end Server

end Mmorpg
