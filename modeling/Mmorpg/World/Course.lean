import Mmorpg.World.Apart

/-!
# One monster seen from outside

The flags of a monster, the timer events that are pending for it, and those
that wait in the queues.  Steps through the grid and everything that happens to
other objects leave this course of the monster as it is.
-/

namespace Mmorpg

open ZoneLayout

variable {grid : CollisionGrid}

/-- What the handlers of a monster decide by, besides positions. -/
structure Mood where
  type : MonsterType
  hp : Nat
  dead : Bool
  active : Bool
  attack : Bool
  deriving DecidableEq

/-- The mood of a monster. -/
def Monster.mood (monster : Monster) : Mood :=
  ⟨monster.type, monster.stat.hp, monster.stat.dead, monster.active, monster.attack⟩

/-- The mood of a subject, if it is a monster. -/
def Subject.mood (subject : Subject) : Option Mood :=
  match subject.body with
  | .monster monster => some monster.mood
  | _ => none

/-- The mood a core shows. -/
def Core.mood : Core → Option Mood
  | monster _ own => some own.mood
  | _ => none

theorem Subject.core_mood (subject : Subject) : subject.core.mood = subject.mood := by
  rcases subject with ⟨name, transform, facing, body⟩
  cases body <;> rfl

/-- The task is a timer event of one of the given kinds. -/
def Task.rings (kinds : TimerEventType → Bool) : Task → Bool
  | timer kind _ _ => kinds kind
  | _ => false

/-- The events of monsters. -/
def TimerEventType.isMonsters (kind : TimerEventType) : Bool :=
  kind.isAct || kind = .evMonsterRespawn

/-- What decides the next move of a monster: its mood, the events that are
pending for it, and the tasks that events of it have become. -/
@[ext]
structure Course where
  mood : Option Mood
  alarms : List TimerEvent
  orders : Nat → List Task

namespace Course

/-- The mood changes and nothing is scheduled. -/
def setMood (mood : Mood) (course : Course) : Course :=
  { course with mood := some mood }

/-- An event is scheduled. -/
def alarm (event : TimerEvent) (course : Course) : Course :=
  { course with alarms := course.alarms ++ [event] }

/-- Pending events of the given kinds, in the timer or in the queue of the zone
`home`. -/
def outstanding (kinds : TimerEventType → Bool) (home : Nat) (course : Course) : Nat :=
  (course.alarms.countP fun event => kinds event.event) +
    (course.orders home).countP (Task.rings kinds)

/-- A change of mood leaves the events pending. -/
theorem outstanding_setMood (kinds : TimerEventType → Bool) (home : Nat) (mood : Mood)
    (course : Course) :
    (course.setMood mood).outstanding kinds home = course.outstanding kinds home :=
  rfl

theorem outstanding_alarm (kinds : TimerEventType → Bool) (home : Nat) (event : TimerEvent)
    (course : Course) :
    (course.alarm event).outstanding kinds home =
      course.outstanding kinds home + if kinds event.event = true then 1 else 0 := by
  simp only [outstanding, alarm, List.countP_append, List.countP_singleton]
  omega

end Course

namespace World

/-- The mood of a registered monster. -/
def moodOf (id : ObjID) (world : World) : Option Mood :=
  (world.objects id).bind Subject.mood

/-- The pending events of a subject. -/
def alarms (id : ObjID) (world : World) : List TimerEvent :=
  world.timers.filter fun event => event.subjectId = id

/-- The tasks from events of a subject, thread by thread. -/
def orders (id : ObjID) (world : World) (thread : Nat) : List Task :=
  (world.queues thread).filter (Task.isEventOf id)

/-- The course of a subject. -/
def course (id : ObjID) (world : World) : Course :=
  ⟨world.moodOf id, world.alarms id, world.orders id⟩

variable {zone : Nat} {id other : ObjID} {world before after : World}

theorem moodOf_of_getMonster {subject : Subject} {monster : Monster}
    (found : world.getMonster id = some (subject, monster)) :
    world.moodOf id = some monster.mood := by
  rw [getMonster_eq_some] at found
  rw [moodOf, found.1, Option.bind_some, Subject.mood, found.2]

theorem moodOf_eq_some {mood : Mood} :
    world.moodOf id = some mood ↔ ∃ subject monster,
      world.getMonster id = some (subject, monster) ∧ monster.mood = mood := by
  constructor
  · intro found
    rcases Option.bind_eq_some_iff.mp found with ⟨subject, registered, same⟩
    unfold Subject.mood at same
    split at same
    · next monster bodyOf =>
      exact ⟨subject, monster, getMonster_eq_some.mpr ⟨registered, bodyOf⟩, Option.some.inj same⟩
    · contradiction
  · rintro ⟨subject, monster, found, rfl⟩
    exact moodOf_of_getMonster found

theorem moodOf_coreOf (id : ObjID) (world : World) :
    world.moodOf id = (world.coreOf id).bind Core.mood := by
  rw [moodOf, coreOf, Option.bind_map]
  congr 1
  funext subject
  exact (Subject.core_mood subject).symm

/-- The monster, if it is registered, lives. -/
def Living (id : ObjID) (world : World) : Prop :=
  ∀ mood, world.moodOf id = some mood → mood.dead = false

theorem Living.monster {subject : Subject} {monster : Monster} (living : Living id world)
    (found : world.getMonster id = some (subject, monster)) : monster.stat.dead = false :=
  living _ (moodOf_of_getMonster found)

theorem Living.congr (living : Living id before) (same : after.course id = before.course id) :
    Living id after := by
  intro mood found
  exact living mood ((congrArg Course.mood same).symm.trans found)

theorem living_of_monster {subject : Subject} {monster : Monster}
    (found : world.getMonster id = some (subject, monster)) (alive : monster.stat.dead = false) :
    Living id world := by
  intro mood same
  rw [moodOf_of_getMonster found] at same
  exact Option.some.inj same ▸ alive

theorem course_congr (mood : after.moodOf id = before.moodOf id)
    (queues : after.queues = before.queues) (timers : after.alarms id = before.alarms id) :
    after.course id = before.course id := by
  apply Course.ext
  · exact mood
  · exact timers
  · funext thread
    change (after.queues thread).filter _ = (before.queues thread).filter _
    rw [queues]

/-! ## Operations that keep the course -/

theorem course_sendAll {receivers : List ObjID} {packet : ServerPacket} :
    (world.sendAll receivers packet).course id = world.course id :=
  rfl

theorem moodOf_modify {change : Subject → Subject}
    (keeps : ∀ subject, (change subject).mood = subject.mood) :
    (world.modify other change).moodOf id = world.moodOf id := by
  simp only [moodOf, modify, Function.update_apply]
  split
  · next same =>
    rw [← same]
    cases world.objects id with
    | none => rfl
    | some subject => exact keeps subject
  · rfl

/-- A change that keeps the mood keeps the course. -/
theorem course_modify {change : Subject → Subject}
    (keeps : ∀ subject, (change subject).mood = subject.mood) :
    (world.modify other change).course id = world.course id :=
  course_congr (moodOf_modify keeps) rfl rfl

theorem course_modifyBody {change : Subject → Subject}
    (body : ∀ subject, (change subject).body = subject.body) :
    (world.modify other change).course id = world.course id := by
  apply course_modify
  intro subject
  rw [Subject.mood, Subject.mood, body]

theorem course_modifyTransform (change : Transform → Transform) :
    (world.modifyTransform other change).course id = world.course id :=
  course_modifyBody fun _ => rfl

theorem course_modifyUser {change : User → User} :
    (world.modifyUser other change).course id = world.course id := by
  apply course_modify
  rintro ⟨name, transform, facing, body⟩
  cases body <;> rfl

theorem course_setStat {change : Stat → Stat} :
    (world.setStat other change).course id = world.course id :=
  course_modifyUser

theorem course_modifyMonster {change : Monster → Monster}
    (keeps : ∀ monster, (change monster).mood = monster.mood) :
    (world.modifyMonster other change).course id = world.course id := by
  apply course_modify
  rintro ⟨name, transform, facing, body⟩
  cases body with
  | user user => rfl
  | monster monster => exact congrArg some (keeps monster)
  | item item => rfl

theorem course_removeObject {transform : Transform} :
    (world.removeObject zone other transform).course id = world.course id := by
  unfold removeObject
  split
  · exact course_modifyBody fun _ => rfl
  · rfl

theorem course_updateObjectSectorAndPosition {transform : Transform} {x y : Int} {placed : World}
    (moved : world.updateObjectSectorAndPosition zone other transform x y = some placed) :
    placed.course id = world.course id := by
  simp only [updateObjectSectorAndPosition] at moved
  split at moved
  · rw [← Option.some.inj moved]
    refine Eq.trans (course_modifyBody fun _ => rfl) ?_
    split
    · split <;> rfl
    · rfl
  · contradiction

theorem course_updateObjectZone {zoneId : Nat} :
    (world.updateObjectZone other zoneId).course id = world.course id := by
  unfold updateObjectZone
  split <;> rfl

theorem course_updatePosition {x y : Int} :
    (world.updatePosition zone other x y).course id = world.course id := by
  unfold updatePosition
  split
  · rfl
  · split
    · rfl
    · next placed moved =>
      have settled : placed.course id = world.course id :=
        course_updateObjectSectorAndPosition moved
      have mapped : ((placed.modifyTransform other fun current =>
          { current with zoneId := getZoneIdByWorld x y }).updateObjectZone other
            (getZoneIdByWorld x y)).course id = world.course id :=
        course_updateObjectZone.trans ((course_modifyTransform _).trans settled)
      dsimp only
      split
      · split
        · exact mapped
        · exact settled
      · split
        · exact mapped
        · exact settled

theorem course_replace {choice : Choice grid} {oldList newList : List ObjID} :
    (world.replace choice other oldList newList).course id = world.course id := by
  unfold replace
  split <;> rfl

theorem course_aStarMove {choice : Choice grid} {x y : Int} :
    (world.aStarMove zone choice other x y).course id = world.course id := by
  unfold aStarMove
  split
  · rfl
  · refine (course_modifyMonster ?_).trans ?_
    · exact fun _ => rfl
    · exact course_replace.trans course_updatePosition

theorem course_moveMonsterStep {choice : Choice grid} {subject : Subject} {next : Int × Int} :
    (world.moveMonsterStep zone choice other subject next).course id = world.course id :=
  course_aStarMove.trans (course_modifyBody fun _ => rfl)

theorem course_randomMove {choice : Choice grid} :
    (world.randomMove zone choice other).course id = world.course id := by
  unfold randomMove
  split
  · rfl
  · split
    · rfl
    · exact course_moveMonsterStep

theorem course_tryAdvanceTowardGoal {choice : Choice grid} {goal : Int × Int} :
    (world.tryAdvanceTowardGoal zone choice id goal).2.course id = world.course id := by
  unfold tryAdvanceTowardGoal
  split
  · rfl
  · next subject monster found =>
    have planned : (world.modifyMonster id fun _ =>
        (MonsterHelper.stepTowardGoal choice (subject.x, subject.y) goal monster).2).course id =
          world.course id := by
      refine course_congr ?_ rfl rfl
      rw [moodOf_of_getMonster (getMonster_modifyMonster _ found), moodOf_of_getMonster found]
      rcases MonsterHelper.stepTowardGoal_frame choice (subject.x, subject.y) goal monster with
        ⟨path, goalX, goalY, frame⟩
      rw [frame]
      rfl
    dsimp only
    split
    · exact planned
    · exact course_moveMonsterStep.trans planned

/-- What happens to another object does not touch the course of an object that
is no user. -/
theorem Apart.course_of_not_user (apart : Apart other before after) (different : id ≠ other)
    (notUser : id.category ≠ .eUser) : after.course id = before.course id := by
  apply Course.ext
  · change after.moodOf id = before.moodOf id
    rw [moodOf_coreOf, moodOf_coreOf, apart.core id different]
  · rcases apart.timers with ⟨added, timers, own⟩
    change after.timers.filter _ = before.timers.filter _
    rw [timers, List.filter_append]
    have none : added.filter (fun event => event.subjectId = id) = [] := by
      rw [List.filter_eq_nil_iff]
      intro event member
      rw [decide_eq_true_eq]
      rintro rfl
      rcases own event member with same | ⟨_, user⟩
      · exact different same
      · exact notUser user
    rw [none, List.append_nil]
  · funext thread
    exact apart.queues id different thread

theorem not_user_of_monster (category : id.category = .eMonster) : id.category ≠ .eUser := by
  rw [category]
  decide

/-- What happens to another object leaves the course alone. -/
theorem Apart.course (apart : Apart other before after) (different : id ≠ other)
    (category : id.category = .eMonster) : after.course id = before.course id :=
  apart.course_of_not_user different (not_user_of_monster category)

theorem Plain.course_of_not_user (plain : Plain before after) (notUser : id.category ≠ .eUser) :
    after.course id = before.course id := by
  have different : id ≠ ObjID.user 0 := by
    rintro rfl
    exact notUser rfl
  exact (plain.apart (ObjID.user 0)).course_of_not_user different notUser

theorem Plain.course (plain : Plain before after) (category : id.category = .eMonster) :
    after.course id = before.course id :=
  plain.course_of_not_user (not_user_of_monster category)

/-! ## Operations on the monster -/

theorem course_setMood (change : Monster → Monster) {subject : Subject} {monster : Monster}
    (found : world.getMonster id = some (subject, monster)) :
    (world.modifyMonster id change).course id =
      (world.course id).setMood (change monster).mood := by
  apply Course.ext
  · exact moodOf_of_getMonster (getMonster_modifyMonster change found)
  · rfl
  · rfl

theorem course_changeMood (change : Monster → Monster) (effect : Mood → Mood) {mood : Mood}
    (acts : ∀ monster, (change monster).mood = effect monster.mood)
    (present : world.moodOf id = some mood) :
    (world.modifyMonster id change).course id = (world.course id).setMood (effect mood) := by
  rcases moodOf_eq_some.mp present with ⟨subject, monster, found, rfl⟩
  rw [course_setMood change found, acts]

theorem course_alarm {delay : Nat} {event : TimerEventType} {targetId : ObjID} :
    (world.scheduleAfter zone id delay event targetId).course id =
      (world.course id).alarm ⟨id, delay, event, targetId, zone⟩ := by
  apply Course.ext
  · rfl
  · simp [World.course, World.alarms, scheduleAfter, Course.alarm, List.filter_append]
  · rfl

theorem course_scheduleAfter {delay : Nat} {event : TimerEventType} {targetId : ObjID}
    (different : other ≠ id) :
    (world.scheduleAfter zone other delay event targetId).course id = world.course id := by
  refine course_congr rfl rfl ?_
  simp [World.alarms, scheduleAfter, List.filter_append, different]

/-! ## Queues and timers -/

/-- The world once a thread has taken the head of its queue. -/
abbrev popped (thread : Nat) (rest : List Task) (world : World) : World :=
  { world with queues := Function.update world.queues thread rest }

variable {thread : Nat} {task : Task} {rest : List Task}

/-- Taking an event of the monster from its queue. -/
theorem orders_popped_own (queued : world.queues thread = task :: rest)
    (own : task.isEventOf id = true) :
    (world.course id).orders =
      Function.update ((world.popped thread rest).course id).orders thread
        (task :: ((world.popped thread rest).course id).orders thread) := by
  funext place
  by_cases here : place = thread
  · subst here
    simp [World.course, World.orders, queued, own]
  · simp [World.course, World.orders, here]

/-- Taking anything else. -/
theorem course_popped (queued : world.queues thread = task :: rest)
    (other : task.isEventOf id = false) :
    (world.popped thread rest).course id = world.course id := by
  apply Course.ext
  · rfl
  · rfl
  · funext place
    by_cases here : place = thread
    · subst here
      simp [World.course, World.orders, queued, other]
    · simp [World.course, World.orders, here]

theorem course_enqueueByZone_own (zoneId : Nat) (own : task.isEventOf id = true) :
    (world.enqueueByZone zoneId task).course id =
      { world.course id with
        orders := Function.update (world.course id).orders (threadOf zoneId)
          ((world.course id).orders (threadOf zoneId) ++ [task]) } := by
  apply Course.ext
  · rfl
  · rfl
  · funext place
    by_cases here : place = threadOf zoneId
    · subst here
      simp [World.course, World.orders, enqueueByZone, own]
    · simp [World.course, World.orders, enqueueByZone, here]

theorem course_enqueueByZone (zoneId : Nat) (other : task.isEventOf id = false) :
    (world.enqueueByZone zoneId task).course id = world.course id := by
  apply Course.ext
  · rfl
  · rfl
  · funext place
    by_cases here : place = threadOf zoneId
    · subst here
      simp [World.course, World.orders, enqueueByZone, other]
    · simp [World.course, World.orders, enqueueByZone, here]

end World

end Mmorpg
