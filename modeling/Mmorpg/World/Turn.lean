import Mmorpg.World.ScriptTasks

/-!
# What a monster's own events do to it

One outcome per exit path of the four handlers.  A handler answers an event by
scheduling the next one, by laying the monster to rest, or by neither.
-/

namespace Mmorpg

open ZoneLayout

variable {grid : CollisionGrid}

/-- The ways a handler can leave the course of a living monster. -/
inductive Turn (zone : Nat) (id : ObjID) (mood : Mood) (course : Course) :
    TimerEventType → Course → Prop
  | strike (targetId : ObjID) :
      Turn zone id mood course .evRandomMove
        (course.alarm ⟨id, 0, .evMonsterAttackToUser, targetId, zone⟩)
  | stroll :
      Turn zone id mood course .evRandomMove (course.alarm ⟨id, 500, .evRandomMove, ObjID.npos, zone⟩)
  | rest :
      Turn zone id mood course .evRandomMove (course.setMood { mood with active := false })
  | lose :
      Turn zone id mood course .evAggroMove
        (course.setMood { mood with active := false, attack := false })
  | giveUp :
      Turn zone id mood course .evAggroMove (course.setMood { mood with active := false })
  | retreat (targetId : ObjID) :
      Turn zone id mood course .evAggroMove
        ((course.setMood { mood with attack := false }).alarm ⟨id, 500, .evAggroMove, targetId, zone⟩)
  | chase (targetId : ObjID) :
      Turn zone id mood course .evAggroMove
        ((course.setMood { mood with active := true }).alarm ⟨id, 500, .evAggroMove, targetId, zone⟩)
  | engage (targetId : ObjID) : mood.attack = false →
      Turn zone id mood course .evAggroMove
        ((course.alarm ⟨id, 0, .evMonsterAttackToUser, targetId, zone⟩).alarm
          ⟨id, 500, .evAggroMove, targetId, zone⟩)
  | press (targetId : ObjID) : mood.attack = true →
      Turn zone id mood course .evAggroMove (course.alarm ⟨id, 500, .evAggroMove, targetId, zone⟩)
  | slay :
      Turn zone id mood course .evMonsterAttackToUser
        (course.setMood { mood with active := false, attack := false })
  | again (targetId : ObjID) :
      Turn zone id mood course .evMonsterAttackToUser
        ((course.setMood { mood with attack := true }).alarm
          ⟨id, 1000, .evMonsterAttackToUser, targetId, zone⟩)
  | leaveOff :
      Turn zone id mood course .evMonsterAttackToUser (course.setMood { mood with attack := false })
  | nobody : Turn zone id mood course .evMonsterAttackToUser course

namespace World

variable {zone : Nat} {choice : Choice grid} {id targetId : ObjID} {world : World} {subject : Subject}
  {monster : Monster}

/-! ## Moves keep to the monster -/

theorem aStarMove_apart {x y : Int} : Apart id world (world.aStarMove zone choice id x y) := by
  unfold aStarMove
  split
  · exact Apart.refl id world
  · apply Apart.modify
    apply Apart.thenPlain (Apart.updatePosition (Apart.refl id world))
    unfold replace
    split
    · exact Plain.refl _
    · exact (Plain.refl _).post

theorem tryAdvanceTowardGoal_apart {goal : Int × Int} :
    Apart id world (world.tryAdvanceTowardGoal zone choice id goal).2 := by
  unfold tryAdvanceTowardGoal
  split
  · exact Apart.refl id world
  · have planned : ∀ change, Apart id world (world.modifyMonster id change) :=
      fun _ => Apart.modify (Apart.refl id world)
    dsimp only
    split
    · exact planned _
    · exact (Apart.modify (planned _)).trans aStarMove_apart

/-- An object that keeps its core is registered. -/
theorem registered_of_coreOf {before after : World} {other : ObjID}
    (same : after.coreOf other = before.coreOf other) (registered : before.objects other ≠ none) :
    after.objects other ≠ none := by
  intro missing
  rw [coreOf, missing, Option.map_none, coreOf, eq_comm, Option.map_eq_none_iff] at same
  exact registered same

theorem Filed.apart {playerId : ObjID} {victim : Subject} {user : User} (filed : Filed world)
    (isUser : world.getUser playerId = some (victim, user))
    (found : world.getMonster id = some (subject, monster)) : playerId ≠ id := by
  rintro rfl
  have category := (filed.user isUser).symm.trans (filed.monster found)
  contradiction

/-! ## The handlers -/

theorem handleRandomMove_turn (found : world.getMonster id = some (subject, monster))
    (alive : monster.stat.dead = false) :
    Turn zone id monster.mood (world.course id) .evRandomMove
      ((world.handleRandomMove zone choice id).course id) := by
  unfold handleRandomMove
  rw [found]
  dsimp only
  rw [if_neg (by rw [alive]; exact Bool.false_ne_true)]
  split
  · rw [course_alarm]
    exact .strike _
  · split
    · rw [course_alarm, course_randomMove]
      exact .stroll
    · rw [course_setMood _ found]
      exact .rest

/-- A respawn makes the monster as it was at the start. -/
theorem handleMonsterRespawn_course (found : world.getMonster id = some (subject, monster)) :
    (world.handleMonsterRespawn zone choice id).course id =
      (world.course id).setMood ⟨monster.type, monsterMaxHp, false, false, false⟩ := by
  unfold handleMonsterRespawn
  rw [found]
  dsimp only
  have placed : ((world.modifyMonster id fun current =>
      { current.clearPath with
        stat := { current.stat with hp := monsterMaxHp, dead := false }
        active := false
        attack := false }).getRandomPosition zone choice id).course id =
      (world.course id).setMood ⟨monster.type, monsterMaxHp, false, false, false⟩ :=
    course_updatePosition.trans (course_setMood _ found)
  split
  · exact placed
  · split
    · refine (course_modifyMonster ?_).trans placed
      exact fun _ => rfl
    · refine course_sendAll.trans ((course_modifyMonster ?_).trans placed)
      exact fun _ => rfl

/-- The attack hits a registered victim, which dies or stays within reach. -/
def attackHolds (monsterId playerId : ObjID) (world : World) : Bool :=
  match world.getMonster monsterId, world.getUser playerId with
  | some (subject, monster), some (victim, user) =>
      !world.attackMisses subject monster playerId victim ∧
        ((user.stat.takeDamage monsterOffensive).dead ∨ SubjectHelper.canAttack subject victim)
  | _, _ => false

theorem attackHolds_eq {playerId : ObjID} {victim : Subject} {user : User}
    (found : world.getMonster id = some (subject, monster))
    (isUser : world.getUser playerId = some (victim, user)) :
    world.attackHolds id playerId = true ↔
      world.attackMisses subject monster playerId victim = false ∧
        ((user.stat.takeDamage monsterOffensive).dead = true ∨
          SubjectHelper.canAttack subject victim = true) := by
  rw [attackHolds, found, isUser]
  simp

/-- The attack hits a registered victim, which dies. -/
def attackKills (monsterId playerId : ObjID) (world : World) : Bool :=
  match world.getMonster monsterId, world.getUser playerId with
  | some (subject, monster), some (victim, user) =>
      !world.attackMisses subject monster playerId victim ∧
        (user.stat.takeDamage monsterOffensive).dead
  | _, _ => false

theorem getMonster_setStat (playerId : ObjID) (change : Stat → Stat)
    (found : world.getMonster id = some (subject, monster)) :
    ∃ shown, (world.setStat playerId change).getMonster id = some (shown, monster) := by
  rw [getMonster_eq_some] at found
  refine ⟨subject, getMonster_eq_some.mpr ⟨?_, found.2⟩⟩
  simp only [setStat, modifyUser, modify, Function.update_apply]
  split
  · next same => rw [← same, found.1, Option.map_some, found.2]
  · exact found.1

theorem getMonster_sendAll {receivers : List ObjID} {packet : ServerPacket}
    (found : world.getMonster id = some (subject, monster)) :
    (world.sendAll receivers packet).getMonster id = some (subject, monster) :=
  found

theorem course_killPlayer {playerId : ObjID} {victim : Subject} {hp : Nat}
    (different : playerId ≠ id) (found : world.getMonster id = some (subject, monster)) :
    (world.killPlayer zone choice id playerId victim hp).course id =
      (world.course id).setMood { monster.mood with active := false, attack := false } := by
  unfold killPlayer
  dsimp only
  rw [course_scheduleAfter different, course_removeObject]
  exact course_setMood _ (getMonster_sendAll found)

/-- An attack that holds kills or goes on. -/
theorem handleAttackToPlayer_holds (zone : Nat) (choice : Choice grid) {playerId : ObjID}
    (filed : Filed world)
    (found : world.getMonster id = some (subject, monster))
    (holds : world.attackHolds id playerId = true) :
    (world.attackKills id playerId = true ∧
      (world.handleAttackToPlayer zone choice id playerId).course id =
        (world.course id).setMood { monster.mood with active := false, attack := false }) ∨
      (world.handleAttackToPlayer zone choice id playerId).course id =
        ((world.course id).setMood { monster.mood with attack := true }).alarm
          ⟨id, 1000, .evMonsterAttackToUser, playerId, zone⟩ := by
  unfold handleAttackToPlayer
  cases isUser : world.getUser playerId with
  | none =>
    rw [attackHolds, found, isUser] at holds
    contradiction
  | some entry =>
    obtain ⟨victim, user⟩ := entry
    have different := filed.apart isUser found
    rw [attackHolds_eq found isUser] at holds
    have attacking := getMonster_modifyMonster (fun current => { current with attack := true }) found
    have calm := course_setMood (fun current => { current with attack := true }) found
    rcases getMonster_setStat playerId (fun current => current.takeDamage monsterOffensive)
      attacking with ⟨shown, hit⟩
    rw [attackKills, found, isUser]
    dsimp only
    rw [holds.1, if_neg Bool.false_ne_true]
    split
    · next dead =>
      refine .inl ⟨decide_eq_true ⟨rfl, dead⟩, ?_⟩
      rw [course_killPlayer different hit, course_setStat, calm]
      rfl
    · next alive =>
      apply Or.inr
      unfold surviveAttack
      dsimp only
      rw [if_pos (holds.2.resolve_left alive), course_alarm, course_sendAll, course_setStat, calm]
      rfl

/-- Any other attack leaves no event behind. -/
theorem handleAttackToPlayer_fails (zone : Nat) (choice : Choice grid) {playerId : ObjID}
    (found : world.getMonster id = some (subject, monster))
    (fails : world.attackHolds id playerId = false) :
    (world.handleAttackToPlayer zone choice id playerId).course id =
        (world.course id).setMood { monster.mood with attack := false } ∨
      (world.handleAttackToPlayer zone choice id playerId).course id = world.course id := by
  unfold handleAttackToPlayer
  cases isUser : world.getUser playerId with
  | none =>
    rw [found]
    exact .inr rfl
  | some entry =>
    obtain ⟨victim, user⟩ := entry
    have attacking := getMonster_modifyMonster (fun current => { current with attack := true }) found
    have calm := course_setMood (fun current => { current with attack := true }) found
    rw [found]
    dsimp only
    apply Or.inl
    split
    · rw [course_setMood _ attacking, calm]
      rfl
    · next hits =>
      rw [Bool.not_eq_true] at hits
      have spared := mt (attackHolds_eq found isUser).mpr (by rw [fails]; exact Bool.false_ne_true)
      rw [not_and_or, not_or] at spared
      rcases spared with misses | ⟨alive, out⟩
      · exact absurd hits misses
      · rcases getMonster_setStat playerId (fun current => current.takeDamage monsterOffensive)
          attacking with ⟨shown, hit⟩
        rw [if_neg alive]
        unfold surviveAttack
        dsimp only
        rw [if_neg out]
        refine (course_setMood _ (getMonster_sendAll hit)).trans ?_
        rw [course_sendAll, course_setStat, calm]
        rfl

theorem handleAttackToPlayer_turn {playerId : ObjID} (filed : Filed world)
    (found : world.getMonster id = some (subject, monster)) :
    Turn zone id monster.mood (world.course id) .evMonsterAttackToUser
      ((world.handleAttackToPlayer zone choice id playerId).course id) := by
  cases holds : world.attackHolds id playerId with
  | true =>
    rcases handleAttackToPlayer_holds zone choice filed found holds with
      ⟨_, killed⟩ | survived
    · rw [killed]
      exact .slay
    · rw [survived]
      exact .again playerId
  | false =>
    rcases handleAttackToPlayer_fails zone choice found holds with missed | absent
    · rw [missed]
      exact .leaveOff
    · rw [absent]
      exact .nobody

/-! ## The chase -/

/-- After a step the monster goes on or rests. -/
theorem afterChase_course (zone : Nat) (found : world.getMonster id = some (subject, monster))
    (registered : world.objects targetId ≠ none) :
    (world.afterChase zone id targetId).course id =
        ((world.course id).setMood { monster.mood with active := true }).alarm
          ⟨id, 500, .evAggroMove, targetId, zone⟩ ∨
      (world.afterChase zone id targetId).course id =
        (world.course id).setMood { monster.mood with active := false } := by
  unfold afterChase
  rw [(getMonster_eq_some.mp found).1]
  rcases Option.ne_none_iff_exists'.mp registered with ⟨target, present⟩
  rw [present]
  dsimp only
  split
  · rw [course_alarm, course_setMood _ found]
    exact .inl rfl
  · apply Or.inr
    exact course_setMood _ found

/-- On its way back the monster goes on or rests. -/
theorem returnToSpawn_course (zone : Nat) (choice : Choice grid) (targetId : ObjID) (spawn : Int × Int)
    (found : world.getMonster id = some (subject, monster)) :
    (world.returnToSpawn zone choice id targetId spawn).course id =
        (world.course id).alarm ⟨id, 500, .evAggroMove, targetId, zone⟩ ∨
      (world.returnToSpawn zone choice id targetId spawn).course id =
        (world.course id).setMood { monster.mood with active := false } := by
  have advanced : (world.tryAdvanceTowardGoal zone choice id spawn).2.course id =
      world.course id := course_tryAdvanceTowardGoal
  unfold returnToSpawn
  dsimp only
  split
  · rw [course_alarm, advanced]
    exact .inl rfl
  · apply Or.inr
    have kept := (congrArg Course.mood advanced).trans (moodOf_of_getMonster found)
    rcases moodOf_eq_some.mp kept with ⟨shown, current, present, same⟩
    rw [stopMonster, course_setMood _ present, advanced, ← same]
    rfl

theorem getUser_of_isChasable (chasable : ¬(!world.isChasable subject targetId) = true) :
    ∃ victim user, world.getUser targetId = some (victim, user) := by
  cases isUser : world.getUser targetId with
  | none => simp [isChasable, isUser] at chasable
  | some entry => exact ⟨entry.1, entry.2, rfl⟩

theorem handleAggroMove_turn (filed : Filed world)
    (found : world.getMonster id = some (subject, monster)) (alive : monster.stat.dead = false) :
    Turn zone id monster.mood (world.course id) .evAggroMove
      ((world.handleAggroMove zone choice id targetId).course id) := by
  unfold handleAggroMove
  rw [found]
  dsimp only
  rw [if_neg (by rw [alive]; exact Bool.false_ne_true)]
  split
  · rw [course_setMood _ found]
    exact .lose
  · next chasable =>
    have calmed := getMonster_modifyMonster (fun current => { current with attack := false }) found
    have calm := course_setMood (fun current => { current with attack := false }) found
    rcases getUser_of_isChasable chasable with ⟨victim, user, isUser⟩
    have different := filed.apart isUser found
    have present : world.objects targetId ≠ none := by
      rw [(getUser_eq_some.mp isUser).1]
      exact Option.some_ne_none victim
    split
    · next missing => exact absurd missing present
    · next target _ =>
      split
      · rw [stopMonster, course_setMood _ calmed, calm]
        exact .lose
      · rcases returnToSpawn_course zone choice targetId (monster.spawnX, monster.spawnY) calmed with
          back | stuck
        · rw [back, calm]
          exact .retreat targetId
        · rw [stuck, calm]
          exact .lose
      · split
        · next attacking =>
          rw [course_alarm]
          exact .press targetId attacking
        · next idle =>
          rw [course_alarm, course_alarm]
          exact .engage targetId (Bool.eq_false_iff.mpr idle)
      · have advanced : (world.tryAdvanceTowardGoal zone choice id (target.x, target.y)).2.course id =
            world.course id := course_tryAdvanceTowardGoal
        have kept := (congrArg Course.mood advanced).trans (moodOf_of_getMonster found)
        rcases moodOf_eq_some.mp kept with ⟨shown, current, standing, same⟩
        have stays : (world.tryAdvanceTowardGoal zone choice id (target.x, target.y)).2.objects
            targetId ≠ none :=
          registered_of_coreOf (tryAdvanceTowardGoal_apart.core targetId different) present
        rcases afterChase_course zone standing stays with chased | lost
        · rw [chased, advanced, same]
          exact .chase targetId
        · rw [lost, advanced, same]
          exact .giveUp

end World

end Mmorpg
