import Mmorpg.World.Passage
import Mmorpg.World.Handover

/-!
# Life and death

A monster is dead exactly when it has no hit points, and then it rests and one
respawn of it is pending.  Hit points of users are tied to their dead flag in
the same way.
-/

namespace Mmorpg

open ZoneLayout Transition

variable {grid : CollisionGrid}

/-- The event that brings a monster back. -/
def TimerEventType.isRespawn (kind : TimerEventType) : Bool :=
  kind = .evMonsterRespawn

theorem TimerEventType.isRespawn_of_isAct {kind : TimerEventType} (act : kind.isAct = true) :
    kind.isRespawn = false := by
  cases kind <;> first | rfl | contradiction

/-! ## Monsters -/

/-- Dead exactly without hit points, never above the maximum, and not active
when dead. -/
structure Mood.Sound (mood : Mood) : Prop where
  dead_iff : mood.dead = true ↔ mood.hp = 0
  capped : mood.hp ≤ monsterMaxHp
  resting : mood.dead = true → mood.active = false

/-- A dead monster has one respawn pending, a living one none. -/
structure Course.Vital (home : Nat) (course : Course) : Prop where
  sound : ∀ mood, course.mood = some mood → mood.Sound
  respawns : ∀ mood, course.mood = some mood →
    course.outstanding TimerEventType.isRespawn home = if mood.dead = true then 1 else 0

namespace Course.Vital

variable {home : Nat} {id : ObjID} {course after : Course} {mood : Mood}

theorem congr (vital : course.Vital home) (mood : after.mood = course.mood)
    (respawns : after.outstanding TimerEventType.isRespawn home =
      course.outstanding TimerEventType.isRespawn home) : after.Vital home where
  sound current present := vital.sound current (mood ▸ present)
  respawns current present := by
    rw [respawns]
    exact vital.respawns current (mood ▸ present)

/-- The course of a monster whose flags become `mood`. -/
theorem of_mood (becomes : after.mood = some mood) (sound : mood.Sound)
    (respawns : after.outstanding TimerEventType.isRespawn home =
      if mood.dead = true then 1 else 0) : after.Vital home where
  sound _ present := Option.some.inj (becomes.symm.trans present) ▸ sound
  respawns _ present := Option.some.inj (becomes.symm.trans present) ▸ respawns

theorem touch {zone : Nat} (vital : course.Vital home) (touch : Touch zone id course after) :
    after.Vital home := by
  cases touch with
  | wake mood targetId present alive resting =>
    have sound := vital.sound mood present
    refine of_mood rfl ⟨sound.dead_iff, sound.capped, ?_⟩ ?_
    · exact fun dead => absurd (alive.symm.trans dead) Bool.false_ne_true
    · have moves : mood.type.moves.isRespawn = false := by cases mood.type <;> rfl
      rw [outstanding_alarm, outstanding_setMood, vital.respawns mood present, moves]
      simp
  | wound mood hp present alive positive less =>
    have sound := vital.sound mood present
    refine of_mood rfl ⟨?_, less.trans sound.capped, sound.resting⟩ ?_
    · dsimp only
      rw [alive]
      constructor
      · exact fun impossible => absurd impossible Bool.false_ne_true
      · omega
    · rw [outstanding_setMood, vital.respawns mood present]
  | slay mood present alive =>
    refine of_mood rfl ⟨iff_of_true rfl rfl, Nat.zero_le _, fun _ => rfl⟩ ?_
    rw [outstanding_alarm, outstanding_setMood, vital.respawns mood present, alive]
    rfl

theorem touches {zone : Nat} (vital : course.Vital home)
    (touches : Relation.ReflTransGen (Touch zone id) course after) : after.Vital home := by
  induction touches with
  | refl => exact vital
  | tail _ last ih => exact ih.touch last

/-- The own events of a living monster leave life and respawns alone. -/
theorem turn {zone : Nat} {kind : TimerEventType} (vital : course.Vital home)
    (present : course.mood = some mood) (alive : mood.dead = false)
    (turn : Turn zone id mood course kind after) : after.Vital home := by
  have sound := vital.sound mood present
  have respawns := vital.respawns mood present
  have lively : ∀ active attack,
      ({ mood with active := active, attack := attack } : Mood).Sound := by
    intro active attack
    exact ⟨sound.dead_iff, sound.capped, fun dead => absurd (alive.symm.trans dead) Bool.false_ne_true⟩
  have act : ∀ event : TimerEvent, event.event.isAct = true → ∀ current : Course,
      (current.alarm event).outstanding TimerEventType.isRespawn home =
        current.outstanding TimerEventType.isRespawn home := by
    intro event isAct current
    rw [outstanding_alarm, TimerEventType.isRespawn_of_isAct isAct]
    rfl
  cases turn with
  | strike targetId => exact of_mood present sound ((act _ rfl _).trans respawns)
  | stroll => exact of_mood present sound ((act _ rfl _).trans respawns)
  | rest => exact of_mood rfl (lively false mood.attack) respawns
  | lose => exact of_mood rfl (lively false false) respawns
  | giveUp => exact of_mood rfl (lively false mood.attack) respawns
  | retreat targetId => exact of_mood rfl (lively mood.active false) ((act _ rfl _).trans respawns)
  | chase targetId => exact of_mood rfl (lively true mood.attack) ((act _ rfl _).trans respawns)
  | engage targetId clear =>
    exact of_mood present sound ((act _ rfl _).trans ((act _ rfl _).trans respawns))
  | press targetId busy => exact of_mood present sound ((act _ rfl _).trans respawns)
  | slay => exact of_mood rfl (lively false false) respawns
  | again targetId => exact of_mood rfl (lively mood.active true) ((act _ rfl _).trans respawns)
  | leaveOff => exact of_mood rfl (lively mood.active false) respawns
  | nobody => exact vital

theorem spent (vital : course.Vital home) (present : course.mood = some mood)
    (spent : Spent mood course after) : after.Vital home := by
  have sound := vital.sound mood present
  cases spent with
  | idle => exact vital
  | calm =>
    exact of_mood rfl ⟨sound.dead_iff, sound.capped, sound.resting⟩ (vital.respawns mood present)

end Course.Vital

namespace Server

open World

variable {collate : String → String} {home : Nat} {id : ObjID}

theorem Passage.vital {label : Label grid} {before after : Server collate}
    (passage : Passage home id label before after) (filed : Filed before.world)
    (vital : (before.world.course id).Vital home) : (after.world.course id).Vital home := by
  cases passage with
  | still same =>
    rw [same]
    exact vital
  | fire _ found subject fired =>
    refine vital.congr ?_ (outstanding_fire _ found subject fired)
    rw [fired]
  | touched _ touches => exact vital.touches touches
  | own _ queued kinds ran =>
    next choice kind targetId rest _ =>
    have counted := outstanding_popped TimerEventType.isRespawn queued
    have calm : kind.isAct = true →
        ((before.world.popped home rest).course id).Vital home := by
      intro act
      rw [TimerEventType.isRespawn_of_isAct act] at counted
      exact vital.congr rfl counted.symm
    cases found : (before.world.popped home rest).getMonster id with
    | none =>
      rw [timerTask_missing kinds ran found]
      have absent := moodOf_missing found
      constructor
      · exact fun mood present => absurd (absent.symm.trans present) (Option.some_ne_none mood).symm
      · exact fun mood present => absurd (absent.symm.trans present) (Option.some_ne_none mood).symm
    | some entry =>
      obtain ⟨subject, monster⟩ := entry
      have present := moodOf_of_getMonster found
      rcases timerTask_own kinds ran filed found with
        ⟨rfl, revived⟩ | ⟨act, alive, turn⟩ | ⟨act, dead, spent⟩
      · rw [revived]
        have pending := vital.respawns monster.mood present
        refine .of_mood rfl ⟨?_, Nat.le_refl _, fun _ => rfl⟩ ?_
        · simp [monsterMaxHp]
        · rw [Course.outstanding_setMood]
          rw [pending] at counted
          split at counted
          · simpa [TimerEventType.isRespawn] using counted.symm
          · simp [TimerEventType.isRespawn] at counted
      · exact (calm act).turn present alive turn
      · exact (calm act).spent present spent

/-! ## Runs -/

theorem boot_course (count : Nat) {draw : Nat → Int × Int} (valid : ValidDraws grid draw) (id : ObjID)
    {mood : Mood} (present : (World.boot count draw).moodOf id = some mood) :
    (World.boot count draw).course id = ⟨some mood, [], fun _ => []⟩ ∧
      mood.hp = monsterMaxHp ∧ mood.dead = false ∧ mood.active = false ∧ mood.attack = false := by
  have booted := boot_booted count valid
  constructor
  · apply Course.ext
    · exact present
    · rw [World.course, World.alarms, booted.timers]
      rfl
    · funext thread
      have queued : (World.boot count draw).queues thread = [] := by rw [booted.queues]
      change ((World.boot count draw).queues thread).filter _ = []
      rw [queued]
      rfl
  · rcases moodOf_eq_some.mp present with ⟨subject, monster, found, rfl⟩
    rw [getMonster_eq_some] at found
    rcases booted.only id (by rw [found.1]; exact Option.some_ne_none subject) with
      ⟨index, member, rfl⟩
    rw [booted.monsters index member] at found
    obtain ⟨registered, body⟩ := found
    obtain rfl := Option.some.inj registered
    obtain rfl := Body.monster.inj body
    exact ⟨rfl, rfl, rfl, rfl⟩

theorem boot_vital (count : Nat) {draw : Nat → Int × Int} (valid : ValidDraws grid draw)
    (home : Nat) (id : ObjID) : ((World.boot count draw).course id).Vital home := by
  constructor
  · intro mood present
    rcases boot_course count valid id present with ⟨_, full, alive, _⟩
    exact ⟨by rw [alive, full]; simp [monsterMaxHp], by rw [full],
      fun dead => absurd (alive.symm.trans dead) Bool.false_ne_true⟩
  · intro mood present
    rcases boot_course count valid id present with ⟨course, _, alive, _⟩
    rw [course, alive]
    rfl

/-- Monsters are vital in every state. -/
theorem run_vital {count : Nat} {draw : Nat → Int × Int} {store : Store collate}
    {labels : List (Label grid)} {server : Server collate} (valid : ValidDraws grid draw)
    (category : id.category = .eMonster)
    (ran : run step labels (boot count draw store) = some server) :
    (server.world.course id).Vital (homeZone id) := by
  have validHome := isValidZoneId_homeZone id
  have stepwise : ∀ (label : Label grid) (before after : Server collate), step label before = some after →
      (Mapped before.world ∧ Homed (homeZone id) id before.world) ∧
          (before.world.course id).Vital (homeZone id) →
        (Mapped after.world ∧ Homed (homeZone id) id after.world) ∧
          (after.world.course id).Vital (homeZone id) := by
    rintro label before after taken ⟨⟨mapped, homed⟩, vital⟩
    refine ⟨⟨step_mapped taken mapped, step_homed validHome category taken mapped homed⟩, ?_⟩
    exact (step_passage validHome category taken mapped homed).vital mapped.filed vital
  exact (invariant_of_run stepwise ran
    ⟨⟨boot_mapped count draw, boot_homed count valid id⟩, boot_vital count valid _ id⟩).2

end Server

end Mmorpg
