import Mathlib.Algebra.GroupWithZero.Nat
import Mmorpg.World.FollowUp
import Mmorpg.World.Hunt

/-!
# The life cycle of monsters and users

Over whole runs: hit points agree with the dead flag, a subject is dead exactly
while one respawn of it is pending, a dead monster rests outside the grid, and
every monster that falls brings its killer one reward.
-/

namespace Mmorpg

open ZoneLayout Transition

variable {grid : CollisionGrid}

/-- An event of one kind about one subject. -/
def TimerEvent.isOf (kind : TimerEventType) (id : ObjID) (event : TimerEvent) : Bool :=
  event.event = kind ∧ event.subjectId = id

/-- The task such an event becomes. -/
def Task.isTimer (kind : TimerEventType) (id : ObjID) : Task → Bool
  | timer event subjectId _ => event = kind ∧ subjectId = id
  | _ => false

namespace World

variable {zone : Nat} {choice : Choice grid} {own id : ObjID} {world before after : World}

/-- Events of one kind for one subject, in the timer and in all queues. -/
def outstanding (kind : TimerEventType) (id : ObjID) (world : World) : Nat :=
  world.timers.countP (TimerEvent.isOf kind id) +
    (gameThreads.map fun thread => (world.queues thread).countP (Task.isTimer kind id)).sum

/-- Dead exactly without hit points; a dead monster has one respawn event under
way, is not active and stands nowhere. -/
structure MonsterLife (id : ObjID) (monster : Monster) (world : World) : Prop where
  dead_iff : monster.stat.dead = true ↔ monster.stat.hp = 0
  capped : monster.stat.hp ≤ monsterMaxHp
  respawns : world.outstanding .evMonsterRespawn id = if monster.stat.dead = true then 1 else 0
  resting : monster.stat.dead = true → monster.active = false
  buried : monster.stat.dead = true → ∀ zone sector, id ∉ world.cells zone sector

/-- Dead exactly without hit points; a dead user has one respawn event under
way. -/
structure UserLife (id : ObjID) (user : User) (world : World) : Prop where
  dead_iff : user.stat.dead = true ↔ user.stat.hp = 0
  capped : user.stat.hp ≤ playerMaxHp
  respawns : world.outstanding .evUserRespawn id = if user.stat.dead = true then 1 else 0

/-- The life of every monster and every user is in order. -/
structure LifeCycle (world : World) : Prop where
  monsters : ∀ id subject monster, world.getMonster id = some (subject, monster) →
    world.MonsterLife id monster
  users : ∀ id subject user, world.getUser id = some (subject, user) → world.UserLife id user

/-! ## Counting over all threads -/

/-- All pending tasks of a kind wait in one queue. -/
theorem outstanding_eq {kind : TimerEventType} {place : Nat} (member : place ∈ gameThreads)
    (elsewhere : ∀ thread, thread ≠ place →
      (world.queues thread).countP (Task.isTimer kind id) = 0) :
    world.outstanding kind id = world.timers.countP (TimerEvent.isOf kind id) +
      (world.queues place).countP (Task.isTimer kind id) := by
  have nodup : gameThreads.Nodup := by decide
  rw [outstanding, List.sum_map_eq_nsmul_single place _ fun thread different _ =>
    elsewhere thread different, List.count_eq_one_of_mem nodup member, one_nsmul]

/-! ## Respawns -/

/-- All events of a monster are at its home. -/
theorem outstanding_homed {home : Nat} (kind : TimerEventType) (valid : isValidZoneId home = true)
    (homed : Homed home id world) :
    world.outstanding kind id = (world.course id).outstanding (fun other => other = kind) home := by
  have isTimer : ∀ task : Task, task.isTimer kind id = true ↔
      task.isEventOf id = true ∧ task.rings (fun other => other = kind) = true := by
    intro task
    cases task <;> simp [Task.isTimer, Task.isEventOf, Task.rings, and_comm]
  have queued : ∀ thread, (world.queues thread).countP (Task.isTimer kind id) =
      ((world.course id).orders thread).countP (Task.rings fun other => other = kind) := by
    intro thread
    change _ = ((world.queues thread).filter _).countP _
    rw [List.countP_filter]
    apply List.countP_congr
    intro task _
    rw [isTimer, Bool.and_eq_true, and_comm]
  have pending : world.timers.countP (TimerEvent.isOf kind id) =
      (world.course id).alarms.countP fun event => event.event = kind := by
    change _ = (world.timers.filter _).countP _
    rw [List.countP_filter]
    apply List.countP_congr
    intro event _
    simp [TimerEvent.isOf]
  rw [outstanding_eq (mem_gameThreads.mpr (.inl valid)), queued, pending]
  · rfl
  · intro thread different
    rw [queued, List.countP_eq_zero]
    intro task member
    exact absurd (homed.orders thread task member).1 different

/-- A dead user has one respawn pending and a living one has none. -/
theorem user_respawns {session : Nat} {subject : Subject} {user : User} (handed : Handed world)
    (found : world.getUser (ObjID.user session) = some (subject, user)) :
    world.outstanding .evUserRespawn (ObjID.user session) =
      if user.stat.dead = true then 1 else 0 := by
  have moored := (handed.accounted session).moored (handed.mapped.stands found).1
  have isTimer : Task.isTimer .evUserRespawn (ObjID.user session) = Task.respawns session := by
    funext task
    cases task with
    | timer event subjectId targetId =>
      cases event <;> simp [Task.isTimer, Task.respawns]
    | _ => rfl
  have waiting : ∀ thread, (world.queues thread).countP (Task.respawns session) =
      ((world.view session).waiting thread).countP (Task.respawns session) :=
    fun thread => (countP_waiting world (fun _ => isAbout_of_respawns) thread).symm
  rw [outstanding_eq (threadOf_mem subject.transform.zoneId), isTimer, waiting]
  · exact moored.respawning
  · intro thread different
    rw [isTimer, waiting]
    exact moored.elsewhere thread different

/-! ## Who kills -/

/-- Only users kill. -/
theorem Op.spares (op : Op zone choice own before after) (filed : Filed before)
    (category : id.category = .eMonster) (notUser : own.category ≠ .eUser)
    (alive : (before.moodOf id).map Mood.dead = some false) :
    (after.moodOf id).map Mood.dead = some false := by
  rcases op.aloof_or_contact filed category with aloof | contact
  · exact (congrArg (Option.map Mood.dead) (congrArg Course.mood aloof.course)).trans alive
  · cases contact with
    | wake valid member =>
      next wakerId forceWake sector =>
      rcases wakeUpMonster_cases zone id wakerId forceWake before with
        same | ⟨subject, monster, targetId, found, living, _, woken⟩
      · rw [same]
        exact alive
      · rw [woken]
        have woke := moodOf_of_getMonster (getMonster_modifyMonster (fun current =>
          { current with active := true }) found)
        refine (congrArg (Option.map Mood.dead) woke).trans ?_
        exact congrArg some living
    | wound valid found living member isUser survives => exact absurd isUser notUser
    | slay valid found living member isUser fatal slays => exact absurd isUser notUser
    | tend isOwn keeps =>
      next change =>
      rcases Option.map_eq_some_iff.mp alive with ⟨mood, present, living⟩
      rcases moodOf_eq_some.mp present with ⟨subject, monster, found, rfl⟩
      rw [moodOf_of_getMonster (getMonster_modifyMonster change found)]
      refine congrArg some ?_
      rw [← living]
      exact congrArg Stat.dead (keeps subject monster found).stat
    | raise isOwn healed type =>
      next change =>
      rcases Option.map_eq_some_iff.mp alive with ⟨mood, present, _⟩
      rcases moodOf_eq_some.mp present with ⟨subject, monster, found, rfl⟩
      rw [moodOf_of_getMonster (getMonster_modifyMonster change found)]
      exact congrArg some (healed monster).2
    | step isOwn valid found living =>
      exact (congrArg (Option.map Mood.dead) (congrArg Course.mood course_updatePosition)).trans
        alive
    | schedule isOwn kind => exact alive

/-- Tasks that are no attacks kill no monster. -/
theorem exec_spares {thread : Nat} {task : Task} (ran : world.exec thread choice task = some after)
    (mapped : Mapped world) (category : id.category = .eMonster)
    (notUser : task.own.category ≠ .eUser)
    (alive : (world.moodOf id).map Mood.dead = some false) :
    (after.moodOf id).map Mood.dead = some false :=
  (Script.keeps (fun current => Mapped current ∧
      (current.moodOf id).map Mood.dead = some false)
    (fun _ _ op both => ⟨op.mapped both.1, op.spares both.1.filed category notUser both.2⟩)
    (exec_script mapped.filed ran) ⟨mapped, alive⟩).2

/-- The monster dies in this step. -/
def Falls (id : ObjID) (before after : World) : Prop :=
  (before.moodOf id).map Mood.dead = some false ∧ (after.moodOf id).map Mood.dead = some true

/-- The monsters that die are those of the kills. -/
theorem Hunted.falls_iff {kills : List Kill} (hunted : Hunted zone choice own kills before after)
    (category : id.category = .eMonster) : Falls id before after ↔ id ∈ kills.map Kill.id := by
  constructor
  · rintro ⟨alive, dead⟩
    by_contra absent
    rw [hunted.spared id category absent, alive] at dead
    exact absurd (Option.some.inj dead) Bool.false_ne_true
  · intro member
    rcases List.mem_map.mp member with ⟨kill, isKill, rfl⟩
    exact (hunted.felled kill isKill).2

/-- What the queues hold does not matter. -/
theorem Hunted.unpopped {kills : List Kill} {thread : Nat} {rest : List Task}
    (hunted : Hunted zone choice own kills (world.popped thread rest) after) :
    Hunted zone choice own kills world after where
  nodup := hunted.nodup
  monsters := hunted.monsters
  types := hunted.types
  felled := hunted.felled
  spared := hunted.spared
  respawns := hunted.respawns
  experience := hunted.experience
  numbered := hunted.numbered
  dropped := hunted.dropped
  kept := hunted.kept
  listed := hunted.listed

/-- A timer event in the name of a user moves no monster. -/
theorem timerTask_of_user {thread : Nat} {kind : TimerEventType} {subjectId targetId : ObjID}
    (filed : Filed world) (isUser : (Task.timer kind subjectId targetId).own.category = .eUser)
    (ran : world.timerTask thread choice kind subjectId targetId = some after) : after = world := by
  have missing : subjectId.category = .eUser → world.getMonster subjectId = none := by
    intro category
    cases found : world.getMonster subjectId with
    | none => rfl
    | some entry =>
      rw [filed.monster found] at category
      contradiction
  cases kind with
  | evRandomMove => exact timerTask_missing rfl ran (missing isUser)
  | evMonsterRespawn => exact timerTask_missing rfl ran (missing isUser)
  | evMonsterAttackToUser => exact timerTask_missing rfl ran (missing isUser)
  | evAggroMove => exact timerTask_missing rfl ran (missing isUser)
  | _ => contradiction

end World

namespace Server

open World

variable {collate : String → String}

/-! ## Runs -/

/-- Every monster that falls in this step is killed by the attack of one user,
who is rewarded for it. -/
def Rewarded (label : Label grid) (before after : Server collate) : Prop :=
  (∀ id, id.category = .eMonster → ¬Falls id before.world after.world) ∨
    ∃ thread choice session packet rest kills, label = .run thread choice ∧
      before.world.queues thread = .dispatch session packet :: rest ∧
        Hunted thread choice (ObjID.user session) kills before.world after.world ∧
          ∀ id, id.category = .eMonster →
            (Falls id before.world after.world ↔ id ∈ kills.map Kill.id)

theorem step_rewarded {label : Label grid} {before after : Server collate}
    (taken : step label before = some after) (mapped : Mapped before.world) :
    Rewarded label before after := by
  have standing : after.world.objects = before.world.objects → Rewarded label before after := by
    rintro same
    refine .inl ?_
    rintro id _ ⟨alive, dead⟩
    rw [moodOf, same] at dead
    exact absurd (Option.some.inj (alive.symm.trans dead)) Bool.false_ne_true
  cases label with
  | run thread choice =>
    simp only [step, runThread] at taken
    split at taken
    · contradiction
    · next task rest queued =>
      rcases Option.map_eq_some_iff.mp taken with ⟨world, ran, rfl⟩
      have here : Mapped (before.world.popped thread rest) := mapped.congr rfl rfl rfl rfl
      have rewarded : ∀ session packet, task = .dispatch session packet →
          (∃ kills, Hunt thread choice (ObjID.user session) (before.world.popped thread rest)
            kills world) →
              Rewarded (.run thread choice) before { before with world := world } := by
        rintro session packet rfl ⟨kills, hunt⟩
        have hunted := hunt.hunted here
        refine .inr ⟨thread, choice, session, packet, rest, kills, rfl, queued, hunted.unpopped, ?_⟩
        exact fun id category => hunted.unpopped.falls_iff category
      by_cases isUser : task.own.category = .eUser
      · cases task with
        | dispatch session packet =>
          cases packet with
          | userAttackReq facing => exact rewarded _ _ rfl (attackRequest_hunt ran)
          | userSkillReq => exact rewarded _ _ rfl (skillRequest_hunt ran)
          | _ => contradiction
        | timer kind subjectId targetId =>
          apply standing
          rw [timerTask_of_user here.filed isUser ran]
        | _ => contradiction
      · refine .inl ?_
        rintro id category ⟨alive, dead⟩
        rw [exec_spares ran here category isUser alive] at dead
        exact absurd (Option.some.inj dead) Bool.false_ne_true
  | _ => exact standing (step_objects taken fun _ _ => by simp).1

/-- Lives are in order in every state. -/
theorem run_lifeCycle {count : Nat} {draw : Nat → Int × Int} {store : Store collate}
    {labels : List (Label grid)} {server : Server collate} (valid : ValidDraws grid draw)
    (ran : run step labels (boot count draw store) = some server) : LifeCycle server.world := by
  have handed := run_handed ran
  constructor
  · intro id subject monster found
    have category := handed.mapped.filed.monster found
    have present := moodOf_of_getMonster found
    have homed := run_homed valid category ran
    have vital := run_vital valid category ran
    have sound := vital.sound monster.mood present
    constructor
    · exact sound.dead_iff
    · exact sound.capped
    · rw [outstanding_homed _ (isValidZoneId_homeZone id) homed]
      exact vital.respawns monster.mood present
    · exact sound.resting
    · exact homed.buried _ monster (coreOf_of_getMonster found)
  · intro id subject user found
    have fit : user.stat.Fit := by
      have bodies := run_fit ran id subject.body
      rw [World.bodyOf, (getUser_eq_some.mp found).1, (getUser_eq_some.mp found).2] at bodies
      exact bodies (by rw [Option.map_some, (getUser_eq_some.mp found).2])
    obtain ⟨session, rfl⟩ : ∃ session, id = ObjID.user session := ⟨_, handed.mapped.user found⟩
    exact ⟨fit.dead_iff, fit.capped, user_respawns handed found⟩

/-- Every life is in order in every state, and every step from there rewards
its kills. -/
theorem life_cycle {count : Nat} {draw : Nat → Int × Int} {store : Store collate}
    {labels : List (Label grid)} {server : Server collate} (valid : ValidDraws grid draw)
    (ran : run step labels (boot count draw store) = some server) :
    LifeCycle server.world ∧
      ∀ (label : Label grid) next, step label server = some next → Rewarded label server next :=
  ⟨run_lifeCycle valid ran, fun _ _ taken => step_rewarded taken (run_handed ran).mapped⟩

/-- The player steps aside and wounds the monster with a skill; his blow is on
the way. -/
def hunt : List (Label initCollisionTile) :=
  encounter ++ [.receive 1 (.userTeleportReq 10 9), .run 0 .steady, .receive 1 .userSkillReq,
    .run 0 .steady, .receive 1 (.userAttackReq 1)]

/-- The blow that kills the monster. -/
def lastBlow : Label initCollisionTile :=
  .run 0 { Choice.steady with dropPoint := fun _ => 700 }

/-- The aggressive monster brings five points of experience and an item. -/
theorem life_cycle_sample :
    ∃ before after, run step hunt (boot 1 World.steadyDraw World.savedStore) = some before ∧
      step lastBlow before = some after ∧
      (before.world.statOf (ObjID.user 1)).map (fun stat => (stat.level, stat.exp)) = some (3, 12) ∧
      (after.world.statOf (ObjID.user 1)).map (fun stat => (stat.level, stat.exp)) = some (3, 17) ∧
      (after.world.getMonster (ObjID.monster monsterIdStart)).map (fun found => found.2.stat.dead) =
        some true ∧
      after.world.nextFieldItemId = 2 ∧ LifeCycle after.world ∧
      Rewarded lastBlow before after := by
  have completes : ((run step hunt (boot 1 World.steadyDraw World.savedStore)).bind
      (step lastBlow)).isSome := by rfl
  rcases Option.isSome_iff_exists.mp completes with ⟨after, both⟩
  rcases Option.bind_eq_some_iff.mp both with ⟨before, ran, taken⟩
  have whole : run step (hunt ++ [lastBlow]) (boot 1 World.steadyDraw World.savedStore) = some after :=
    run_append_eq_some.mpr ⟨before, ran, run_cons_eq_some.mpr ⟨after, taken, rfl⟩⟩
  refine ⟨before, after, ran, taken, ?_, ?_, ?_, ?_, (life_cycle World.steadyDraw_valid whole).1,
    (life_cycle World.steadyDraw_valid ran).2 lastBlow after taken⟩
  · obtain rfl := Option.some.inj ran
    rfl
  all_goals
    obtain rfl := Option.some.inj both
    rfl

end Server

end Mmorpg
