import Mmorpg.World.Turn
import Mmorpg.World.ZoneMap

/-!
# What reaches one monster

Most operations of a task stay away from a given monster.  The others are
wake-ups and hits by a user in the same grid, and the operations of the
monster's own events.
-/

namespace Mmorpg

open ZoneLayout

variable {grid : CollisionGrid}

/-- The event by which a monster of each type starts to move. -/
def MonsterType.moves : MonsterType → TimerEventType
  | passive => .evRandomMove
  | aggro => .evAggroMove

namespace World

/-- Nothing that concerns the monster changed. -/
structure Aloof (id : ObjID) (before after : World) : Prop where
  core : after.coreOf id = before.coreOf id
  cells : ∀ zone sector, id ∈ after.cells zone sector ↔ id ∈ before.cells zone sector
  course : after.course id = before.course id

/-- An operation on the monster itself. -/
inductive Contact (zone : Nat) (choice : Choice grid) (own id : ObjID) (before : World) : World → Prop
  | wake {wakerId : ObjID} {forceWake : Bool} {sector : SectorCoord} :
      isValidZoneId zone = true → id ∈ before.cells zone sector →
      Contact zone choice own id before (before.wakeUpMonster zone id wakerId forceWake)
  | wound {subject : Subject} {monster : Monster} {damage : Nat} {sector : SectorCoord} :
      isValidZoneId zone = true → before.getMonster id = some (subject, monster) →
      monster.stat.dead = false → id ∈ before.cells zone sector → own.category = .eUser →
      (monster.stat.takeDamage damage).hp > 0 →
      Contact zone choice own id before (before.modifyMonster id fun current =>
        { current with stat := monster.stat.takeDamage damage })
  | slay {subject : Subject} {monster : Monster} {attacker : User} {damage : Nat}
      {sector : SectorCoord} {after : World} :
      isValidZoneId zone = true → before.getMonster id = some (subject, monster) →
      monster.stat.dead = false → id ∈ before.cells zone sector → own.category = .eUser →
      (monster.stat.takeDamage damage).hp = 0 →
      before.slain zone choice id own damage subject monster attacker = some after →
      Contact zone choice own id before after
  | tend {change : Monster → Monster} : own = id →
      (∀ subject monster, before.getMonster id = some (subject, monster) →
        Tends monster (change monster)) →
      Contact zone choice own id before (before.modifyMonster id change)
  | raise {change : Monster → Monster} : own = id →
      (∀ monster, (change monster).stat.hp = monsterMaxHp ∧ (change monster).stat.dead = false) →
      (∀ monster, (change monster).type = monster.type) →
      Contact zone choice own id before (before.modifyMonster id change)
  | step {subject : Subject} {monster : Monster} {x y : Int} : own = id →
      isValidZoneId zone = true → before.getMonster id = some (subject, monster) →
      monster.stat.dead = false →
      Contact zone choice own id before (before.updatePosition zone id x y)
  | schedule {delay : Nat} {event : TimerEventType} {targetId : ObjID} : own = id →
      event.isAct = true →
      Contact zone choice own id before (before.scheduleAfter zone id delay event targetId)

variable {zone : Nat} {choice : Choice grid} {own id other : ObjID} {before middle after : World}

theorem Aloof.refl (id : ObjID) (world : World) : Aloof id world world :=
  ⟨rfl, fun _ _ => Iff.rfl, rfl⟩

theorem Aloof.trans (first : Aloof id before middle) (second : Aloof id middle after) :
    Aloof id before after where
  core := second.core.trans first.core
  cells zone sector := (second.cells zone sector).trans (first.cells zone sector)
  course := second.course.trans first.course

theorem Apart.aloof_of_not_user (apart : Apart other before after) (different : id ≠ other)
    (notUser : id.category ≠ .eUser) : Aloof id before after where
  core := apart.core id different
  cells := apart.cells id different
  course := apart.course_of_not_user different notUser

/-- What happens to another object does not touch the monster. -/
theorem Apart.aloof (apart : Apart other before after) (different : id ≠ other)
    (category : id.category = .eMonster) : Aloof id before after :=
  apart.aloof_of_not_user different (not_user_of_monster category)

theorem Plain.aloof_of_not_user (plain : Plain before after) (notUser : id.category ≠ .eUser) :
    Aloof id before after where
  core := plain.core id
  cells zone sector := by rw [plain.cells]
  course := plain.course_of_not_user notUser

theorem Plain.aloof (plain : Plain before after) (category : id.category = .eMonster) :
    Aloof id before after :=
  plain.aloof_of_not_user (not_user_of_monster category)

theorem setStat_aloof_of_not_user {change : Stat → Stat} (filed : Filed before)
    (notUser : id.category ≠ .eUser) : Aloof id before (before.setStat other change) where
  core := by
    simp only [coreOf, setStat, modifyUser, modify, Function.update_apply]
    split
    · next same =>
      subst same
      cases found : before.objects id with
      | none => rfl
      | some subject =>
        have filedAs := filed id subject found
        rcases subject with ⟨name, transform, facing, body⟩
        cases body with
        | user user => exact absurd filedAs.symm notUser
        | monster monster => rfl
        | item item => rfl
    · rfl
  cells _ _ := Iff.rfl
  course := course_setStat

/-- A change of a user's stat does not touch a monster. -/
theorem setStat_aloof {change : Stat → Stat} (filed : Filed before)
    (category : id.category = .eMonster) : Aloof id before (before.setStat other change) :=
  setStat_aloof_of_not_user filed (not_user_of_monster category)

/-- Every operation stays away from the monster or is one of the above. -/
theorem Op.aloof_or_contact (op : Op zone choice own before after) (filed : Filed before)
    (category : id.category = .eMonster) :
    Aloof id before after ∨ Contact zone choice own id before after := by
  have notUser : ∀ {userId : ObjID}, userId.category = .eUser → id ≠ userId := by
    rintro userId isUser rfl
    rw [category] at isUser
    contradiction
  have notItem : ∀ {itemId : ObjID}, itemId.category = .eItem → id ≠ itemId := by
    rintro itemId isItem rfl
    rw [category] at isItem
    contradiction
  cases op with
  | plain plain => exact .inl (plain.aloof category)
  | heal found alive => exact .inl (setStat_aloof filed category)
  | store found serves =>
    exact .inl ((setInventory_apart _ _).aloof (notUser (filed.user found)) category)
  | wake valid member =>
    next monsterId wakerId forceWake sector =>
    by_cases same : id = monsterId
    · subst same
      exact .inr (.wake valid member)
    · exact .inl (wakeUpMonster_apart.aloof same category)
  | place valid found =>
    exact .inl ((Apart.updatePosition (Apart.refl _ before)).aloof (notUser (filed.user found))
      category)
  | settle valid found placed =>
    exact .inl (((Apart.refl _ before).updateObjectSectorAndPosition placed).aloof
      (notUser (filed.user found)) category)
  | arrive isUser =>
    exact .inl ((Apart.modify (Apart.refl _ before)).aloof (notUser isUser) category)
  | transfer found valid =>
    exact .inl (handleZoneTransfer_apart.aloof (notUser (filed.user found)) category)
  | leave found => exact .inl (leaveWorld_apart.aloof (notUser (filed.user found)) category)
  | publish alloc free new => exact .inl ((publishUser_apart _ _).aloof (notUser rfl) category)
  | requeue =>
    next userId zoneId =>
    have queued : Apart (ObjID.user 0) before
        (before.enqueueByZone zoneId (.disconnect userId)) :=
      (Apart.refl _ before).enqueueByZone fun _ _ => rfl
    exact .inl (queued.aloof (notUser rfl) category)
  | wound valid found alive member attacker survives =>
    next monsterId subject monster damage sector =>
    by_cases same : id = monsterId
    · subst same
      exact .inr (.wound valid found alive member attacker survives)
    · exact .inl ((Apart.modify (Apart.refl _ before)).aloof same category)
  | slay valid found alive member attacker killer fatal slays =>
    next monsterId subject player monster attackerUser damage sector =>
    by_cases same : id = monsterId
    · subst same
      exact .inr (.slay valid found alive member attacker fatal slays)
    · rcases slain_apart slays with ⟨itemId, middle, isItem, first, dropped, second, third⟩
      have upToDrop := (first.aloof same category).trans (second.aloof (notItem isItem) category)
      exact .inl (upToDrop.trans (third.aloof same category))
  | spawn valid spawned => exact .inl ((spawnFieldItem_apart spawned).2.aloof (notItem rfl) category)
  | pick found => exact .inl (removeFieldItem_apart.aloof (notItem (filed.item found)) category)
  | hurt => exact .inl (setStat_aloof filed category)
  | hide isUser =>
    exact .inl ((Apart.removeObject (Apart.refl _ before)).aloof (notUser isUser) category)
  | mourn isUser =>
    exact .inl ((Apart.scheduleAfter (Apart.refl _ before)).aloof (notUser isUser) category)
  | revive => exact .inl (setStat_aloof filed category)
  | tend isMonster keeps =>
    by_cases same : own = id
    · subst same
      exact .inr (.tend rfl keeps)
    · exact .inl ((Apart.modify (Apart.refl _ before)).aloof (Ne.symm same) category)
  | raise isMonster healed type =>
    by_cases same : own = id
    · subst same
      exact .inr (.raise rfl healed type)
    · exact .inl ((Apart.modify (Apart.refl _ before)).aloof (Ne.symm same) category)
  | step valid found alive =>
    by_cases same : own = id
    · subst same
      exact .inr (.step rfl valid found alive)
    · exact .inl ((Apart.updatePosition (Apart.refl _ before)).aloof (Ne.symm same) category)
  | schedule isMonster kind =>
    by_cases same : own = id
    · subst same
      exact .inr (.schedule rfl kind)
    · exact .inl ((Apart.scheduleAfter (Apart.refl _ before)).aloof (Ne.symm same) category)

/-! ## Wake-ups and kills -/

/-- A wake-up does nothing, or it activates a living monster that rests and
starts its movement. -/
theorem wakeUpMonster_cases (zone : Nat) (id wakerId : ObjID) (forceWake : Bool) (world : World) :
    world.wakeUpMonster zone id wakerId forceWake = world ∨
      ∃ subject monster targetId, world.getMonster id = some (subject, monster) ∧
        monster.stat.dead = false ∧ monster.active = false ∧
        world.wakeUpMonster zone id wakerId forceWake =
          (world.modifyMonster id fun current => { current with active := true }).scheduleAfter zone
            id 500 monster.type.moves targetId := by
  unfold wakeUpMonster
  split
  · next subject monster waker user found _ =>
    split
    · exact .inl rfl
    · next alive =>
      rw [Bool.not_eq_true] at alive
      split
      · exact .inl rfl
      · split
        · exact .inl rfl
        · next resting =>
          rw [Bool.not_eq_true] at resting
          dsimp only
          split
          · next passive =>
            refine .inr ⟨subject, monster, ObjID.npos, found, alive, resting, ?_⟩
            rw [passive]
            rfl
          · next aggro =>
            refine .inr ⟨subject, monster, wakerId, found, alive, resting, ?_⟩
            rw [aggro]
            rfl
  · exact .inl rfl

section Slain

variable {playerId : ObjID} {damage : Nat} {subject : Subject} {monster : Monster} {attacker : User}
  {world : World}

/-- A kill ends the monster's chain and schedules its respawn. -/
theorem killMonster_course {mood : Mood} (present : world.moodOf id = some mood) :
    (world.killMonster zone choice id playerId subject monster attacker).course id =
      (world.course id).setMood { mood with active := false, attack := false } := by
  have removed : ((world.sendAll (world.viewers choice.hash zone subject)
      (.subjectDieNfy id 0)).removeObject zone id subject.transform).course id =
        world.course id := course_removeObject
  have kept := (congrArg Course.mood removed).trans present
  have emptied : (((world.sendAll (world.viewers choice.hash zone subject)
      (.subjectDieNfy id 0)).removeObject zone id subject.transform).modifyMonster id fun current =>
        { current with active := false, attack := false, viewList := [] }).course id =
          (world.course id).setMood { mood with active := false, attack := false } := by
    rw [← removed]
    refine course_changeMood _ (fun mood => { mood with active := false, attack := false }) ?_ kept
    exact fun _ => rfl
  exact course_setStat.trans emptied

/-- A killed monster is laid to rest and its respawn is scheduled. -/
theorem slain_course (found : world.getMonster id = some (subject, monster))
    (category : id.category = .eMonster)
    (slays : world.slain zone choice id playerId damage subject monster attacker = some after) :
    after.course id = ((world.course id).setMood
      ⟨monster.type, (monster.stat.takeDamage damage).hp, (monster.stat.takeDamage damage).dead,
        false, false⟩).alarm ⟨id, 10000, .evMonsterRespawn, ObjID.npos, zone⟩ := by
  rcases Option.map_eq_some_iff.mp slays with ⟨dropped, drops, rfl⟩
  rcases handleItemDrop_apart drops with ⟨itemId, isItem, apart⟩
  have different : id ≠ itemId := by
    rintro rfl
    rw [category] at isItem
    contradiction
  have hit := getMonster_modifyMonster (fun current =>
    { current with stat := monster.stat.takeDamage damage }) found
  rw [course_alarm, apart.course different category, killMonster_course (moodOf_of_getMonster hit),
    course_setMood _ found]
  rfl

/-- A monster that was killed stands nowhere. -/
theorem killMonster_cells (tracked : Tracked zone id subject.transform world) (otherZone : Nat)
    (sector : SectorCoord) :
    id ∉ (world.killMonster zone choice id playerId subject monster attacker).cells otherZone
      sector :=
  (removeObject_removed zone id subject.transform (world.sendAll
    (world.viewers choice.hash zone subject) (.subjectDieNfy id 0))).own tracked otherZone sector

theorem slain_cells (category : id.category = .eMonster) (tracked : Tracked zone id subject.transform world)
    (slays : world.slain zone choice id playerId damage subject monster attacker = some after)
    (otherZone : Nat) (sector : SectorCoord) : id ∉ after.cells otherZone sector := by
  rcases Option.map_eq_some_iff.mp slays with ⟨dropped, drops, rfl⟩
  rcases handleItemDrop_apart drops with ⟨itemId, isItem, apart⟩
  have different : id ≠ itemId := by
    rintro rfl
    rw [category] at isItem
    contradiction
  intro member
  have landed : id ∈ dropped.cells otherZone sector := member
  have hit : Tracked zone id subject.transform (world.modifyMonster id fun current =>
      { current with stat := monster.stat.takeDamage damage }) := tracked
  exact killMonster_cells hit otherZone sector
    ((apart.cells id different otherZone sector).mp landed)

end Slain

end World

end Mmorpg
