import Mmorpg.World.ZoneMap

/-!
# Hit points of users

Attacks, heals, potions and respawns keep the dead flag of every user tied to
its hit points, which never pass their maximum.
-/

namespace Mmorpg

open ZoneLayout Transition

variable {grid : CollisionGrid}

/-- A user is dead exactly when it has no hit points. -/
structure Stat.Fit (stat : Stat) : Prop where
  dead_iff : stat.dead = true ↔ stat.hp = 0
  capped : stat.hp ≤ playerMaxHp

namespace Stat.Fit

variable {stat : Stat}

theorem takeDamage (fit : stat.Fit) (amount : Nat) : (stat.takeDamage amount).Fit where
  dead_iff := by
    rw [takeDamage_dead, takeDamage_hp_eq_zero_iff, Bool.or_eq_true, decide_eq_true_eq]
    constructor
    · rintro (fatal | dead)
      · exact fatal
      · have empty := fit.dead_iff.mp dead
        omega
    · exact Or.inl
  capped := by
    have capped := fit.capped
    simp only [Stat.takeDamage]
    split <;> omega

theorem healHp (fit : stat.Fit) (alive : stat.dead = false) (amount : Nat) :
    (stat.healHp amount playerMaxHp).Fit where
  dead_iff := by
    have positive : stat.hp ≠ 0 := by
      intro empty
      rw [fit.dead_iff.mpr empty] at alive
      contradiction
    have cap : playerMaxHp = 100 := rfl
    rw [healHp_dead, alive]
    simp only [Stat.healHp]
    split <;> simp <;> omega
  capped := by
    simp only [Stat.healHp]
    split <;> omega

end Stat.Fit

/-- The stat of a user is one a living or dead player can have. -/
def Body.Fit : Body → Prop
  | user player => player.stat.Fit
  | _ => True

/-- Dead exactly without hit points, and never above the maximum. -/
def Core.Fit : Core → Prop
  | user _ _ _ hp dead => (dead = true ↔ hp = 0) ∧ hp ≤ playerMaxHp
  | _ => True

theorem Subject.core_fit (subject : Subject) : subject.core.Fit ↔ subject.body.Fit := by
  rcases subject with ⟨name, transform, facing, body⟩
  cases body with
  | user user => exact ⟨fun fit => ⟨fit.1, fit.2⟩, fun fit => ⟨fit.dead_iff, fit.capped⟩⟩
  | monster monster => exact Iff.rfl
  | item item => exact Iff.rfl

namespace World

/-- What is registered under an identifier. -/
def bodyOf (id : ObjID) (world : World) : Option Body :=
  (world.objects id).map Subject.body

/-- Every registered user is fit. -/
def Fit (world : World) : Prop :=
  ∀ id body, world.bodyOf id = some body → body.Fit

variable {zone : Nat} {choice : Choice grid} {own id other : ObjID} {world before after : World}

/-! ## Bodies under changes of place -/

theorem bodyOf_modify {change : Subject → Subject}
    (keeps : ∀ subject, (change subject).body = subject.body) :
    (world.modify other change).bodyOf id = world.bodyOf id := by
  simp only [bodyOf, modify, Function.update_apply]
  split
  · next same =>
    rw [← same]
    cases world.objects id with
    | none => rfl
    | some subject => exact congrArg some (keeps subject)
  · rfl

theorem bodyOf_modifyTransform (change : Transform → Transform) :
    (world.modifyTransform other change).bodyOf id = world.bodyOf id :=
  bodyOf_modify fun _ => rfl

theorem bodyOf_removeObject (transform : Transform) :
    (world.removeObject zone other transform).bodyOf id = world.bodyOf id := by
  unfold removeObject
  split
  · exact bodyOf_modifyTransform _
  · rfl

theorem bodyOf_updateObjectSectorAndPosition {transform : Transform} {x y : Int} {placed : World}
    (moved : world.updateObjectSectorAndPosition zone other transform x y = some placed) :
    placed.bodyOf id = world.bodyOf id := by
  simp only [updateObjectSectorAndPosition] at moved
  split at moved
  · rw [← Option.some.inj moved]
    refine Eq.trans (bodyOf_modifyTransform _) ?_
    split
    · split <;> rfl
    · rfl
  · contradiction

theorem bodyOf_updateObjectZone (zoneId : Nat) :
    (world.updateObjectZone other zoneId).bodyOf id = world.bodyOf id := by
  unfold updateObjectZone
  split <;> rfl

theorem bodyOf_updatePosition {x y : Int} :
    (world.updatePosition zone other x y).bodyOf id = world.bodyOf id := by
  unfold updatePosition
  split
  · rfl
  · split
    · rfl
    · next placed moved =>
      have settled : placed.bodyOf id = world.bodyOf id :=
        bodyOf_updateObjectSectorAndPosition moved
      have mapped : ((placed.modifyTransform other fun current =>
          { current with zoneId := getZoneIdByWorld x y }).updateObjectZone other
            (getZoneIdByWorld x y)).bodyOf id = world.bodyOf id :=
        (bodyOf_updateObjectZone _).trans ((bodyOf_modifyTransform _).trans settled)
      dsimp only
      split
      · split
        · exact mapped
        · exact settled
      · split
        · exact mapped
        · exact settled

theorem bodyOf_handleZoneTransfer {player : Subject} {x y : Int} {newZoneId : Nat} :
    (world.handleZoneTransfer zone choice other player x y newZoneId).bodyOf id =
      world.bodyOf id := by
  have removed : ((world.modifyTransform other fun current =>
      { current with transferring := true }).removeObject zone other player.transform).bodyOf id =
        world.bodyOf id := (bodyOf_removeObject player.transform).trans (bodyOf_modifyTransform _)
  have placed : (((world.modifyTransform other fun current =>
      { current with transferring := true }).removeObject zone other
        player.transform).modifyTransform other fun current =>
          { current with x := x, y := y }).bodyOf id = world.bodyOf id :=
    (bodyOf_modifyTransform _).trans removed
  refine (bodyOf_updateObjectZone newZoneId).trans ?_
  exact (bodyOf_modifyTransform _).trans placed

/-! ## Operations -/

theorem Fit.bodies (fit : Fit before) (same : ∀ id, after.bodyOf id = before.bodyOf id) :
    Fit after := by
  intro id body found
  exact fit id body ((same id).symm.trans found)

theorem Fit.plain (fit : Fit before) (plain : Plain before after) : Fit after := by
  intro id body found
  rcases Option.map_eq_some_iff.mp found with ⟨subject, registered, rfl⟩
  have core : before.coreOf id = some subject.core := by
    rw [← plain.core id, coreOf, registered, Option.map_some]
  rcases Option.map_eq_some_iff.mp core with ⟨old, oldRegistered, same⟩
  rw [← Subject.core_fit, ← same, Subject.core_fit]
  exact fit id old.body (by rw [bodyOf, oldRegistered, Option.map_some])

/-- Only one object changed, and that one is fit. -/
theorem Fit.apart (fit : Fit before) (apart : Apart other before after)
    (own : ∀ body, after.bodyOf other = some body → body.Fit) : Fit after := by
  intro id body found
  by_cases same : id = other
  · subst same
    exact own body found
  · rcases Option.map_eq_some_iff.mp found with ⟨subject, registered, rfl⟩
    have core : before.coreOf id = some subject.core := by
      rw [← apart.core id same, coreOf, registered, Option.map_some]
    rcases Option.map_eq_some_iff.mp core with ⟨old, oldRegistered, equal⟩
    rw [← Subject.core_fit, ← equal, Subject.core_fit]
    exact fit id old.body (by rw [bodyOf, oldRegistered, Option.map_some])

/-- Monsters and items have nothing to keep. -/
theorem Fit.others (fit : Fit before) (filed : Filed after)
    (same : ∀ id, id.category = .eUser → after.coreOf id = before.coreOf id) : Fit after := by
  intro id body found
  rcases Option.map_eq_some_iff.mp found with ⟨subject, registered, rfl⟩
  by_cases category : id.category = .eUser
  · have core : before.coreOf id = some subject.core := by
      rw [← same id category, coreOf, registered, Option.map_some]
    rcases Option.map_eq_some_iff.mp core with ⟨old, oldRegistered, equal⟩
    rw [← Subject.core_fit, ← equal, Subject.core_fit]
    exact fit id old.body (by rw [bodyOf, oldRegistered, Option.map_some])
  · have filedAs := filed id subject registered
    rcases subject with ⟨name, transform, facing, body⟩
    cases body with
    | user user => exact absurd filedAs.symm category
    | monster monster => trivial
    | item item => trivial

theorem Fit.apartOther (fit : Fit before) (apart : Apart other before after) (filed : Filed after)
    (category : other.category ≠ .eUser) : Fit after := by
  apply fit.others filed
  intro id isUser
  apply apart.core
  rintro rfl
  exact category isUser

/-- A change of a user that keeps its stat fit. -/
theorem Fit.modifyUser {change : User → User} (fit : Fit world)
    (keeps : ∀ subject user, world.getUser other = some (subject, user) → user.stat.Fit →
      (change user).stat.Fit) : Fit (world.modifyUser other change) := by
  intro id body found
  simp only [bodyOf, World.modifyUser, modify, Function.update_apply] at found
  split at found
  · next same =>
    subst same
    rcases Option.map_eq_some_iff.mp found with ⟨changed, wasChanged, rfl⟩
    rcases Option.map_eq_some_iff.mp wasChanged with ⟨subject, registered, rfl⟩
    have old := fit id subject.body (by rw [bodyOf, registered, Option.map_some])
    cases bodyOf : subject.body with
    | user user =>
      rw [bodyOf] at old
      exact keeps subject user (getUser_eq_some.mpr ⟨registered, bodyOf⟩) old
    | monster monster => simp [bodyOf, Body.Fit]
    | item item => simp [bodyOf, Body.Fit]
  · exact fit id body found

theorem Fit.setStat {change : Stat → Stat} (fit : Fit world)
    (keeps : ∀ subject user, world.getUser other = some (subject, user) → user.stat.Fit →
      (change user.stat).Fit) : Fit (world.setStat other change) :=
  fit.modifyUser keeps

theorem Serves.fit {old new : Inventory} (serves : Serves old new) (fit : old.stat.Fit) :
    new.stat.Fit := by
  rcases serves.hp with same | ⟨alive, amount, healed⟩
  · exact ⟨by rw [serves.dead, same]; exact fit.dead_iff, same ▸ fit.capped⟩
  · have better := fit.healHp alive amount
    refine ⟨?_, healed ▸ better.capped⟩
    rw [serves.dead, healed, ← better.dead_iff, Stat.healHp_dead]

theorem Op.fit (op : Op zone choice own before after) (mapped : Mapped before)
    (fit : Fit before) : Fit after := by
  have filed := (op.mapped mapped).filed
  have monsterly : ∀ {id : ObjID}, id.category = .eMonster → id.category ≠ .eUser := by
    intro id category isUser
    rw [category] at isUser
    contradiction
  have itemly : ∀ {id : ObjID}, id.category = .eItem → id.category ≠ .eUser := by
    intro id category isUser
    rw [category] at isUser
    contradiction
  cases op with
  | plain plain => exact fit.plain plain
  | heal found alive =>
    apply fit.setStat
    intro subject user same old
    obtain ⟨_, rfl⟩ := Prod.mk.inj (Option.some.inj (found.symm.trans same))
    exact old.healHp alive healSize
  | store found serves =>
    next id subject user inventory =>
    have stored : Fit (before.modifyUser id fun user =>
        { user with inventory := { inventory with issued := [] } }) := by
      apply fit.modifyUser
      intro shown current same old
      obtain ⟨_, rfl⟩ := Prod.mk.inj (Option.some.inj (found.symm.trans same))
      exact serves.fit old
    exact stored
  | wake valid member =>
    next monsterId wakerId forceWake sector =>
    cases found : before.getMonster monsterId with
    | none =>
      have same : before.wakeUpMonster zone monsterId wakerId forceWake = before := by
        unfold wakeUpMonster
        rw [found]
      rw [same]
      exact fit
    | some entry =>
      exact fit.apartOther wakeUpMonster_apart filed (monsterly (mapped.filed.monster found))
  | place valid found => exact fit.bodies fun _ => bodyOf_updatePosition
  | settle valid found placed =>
    exact fit.bodies fun _ => bodyOf_updateObjectSectorAndPosition placed
  | arrive category => exact fit.bodies fun _ => bodyOf_modifyTransform _
  | transfer found valid => exact fit.bodies fun _ => bodyOf_handleZoneTransfer
  | leave found =>
    apply fit.apart leaveWorld_apart
    intro body gone
    rw [bodyOf, leaveWorld, removeObjectZone, deleteObject] at gone
    dsimp only at gone
    rw [Function.update_self] at gone
    contradiction
  | publish alloc free new =>
    next session subject =>
    apply fit.apart (publishUser_apart session subject)
    intro body found
    rw [bodyOf, publishUser, insertObject, modifySession] at found
    dsimp only at found
    rw [Function.update_self, Option.map_some] at found
    rcases new.user with ⟨user, bodyOf, full, alive⟩
    rw [← Option.some.inj found, bodyOf]
    exact ⟨by rw [alive, full]; simp [playerMaxHp], by rw [full]⟩
  | requeue => exact fit
  | wound valid found alive member category survives =>
    exact fit.apartOther (Apart.modify (Apart.refl _ before)) filed
      (monsterly (mapped.filed.monster found))
  | slay valid found alive member category attacker fatal slays =>
    next monsterId _ _ _ _ _ _ =>
    rcases slain_apart slays with ⟨itemId, middle, isItem, first, dropped, second, third⟩
    apply fit.others filed
    intro id isUser
    have notMonster : id ≠ monsterId := by
      rintro rfl
      exact monsterly (mapped.filed.monster found) isUser
    have notItem : id ≠ itemId := by
      rintro rfl
      exact itemly isItem isUser
    exact (third.core id notMonster).trans ((second.core id notItem).trans (first.core id notMonster))
  | spawn valid spawned => exact fit.apartOther (spawnFieldItem_apart spawned).2 filed (itemly rfl)
  | pick found =>
    exact fit.apartOther removeFieldItem_apart filed (itemly (mapped.filed.item found))
  | hurt =>
    apply fit.setStat
    exact fun _ _ _ old => old.takeDamage monsterOffensive
  | hide category => exact fit.bodies fun _ => bodyOf_removeObject _
  | mourn category => exact fit
  | revive =>
    apply fit.setStat
    exact fun _ _ _ _ => ⟨by simp [playerMaxHp], Nat.le_refl _⟩
  | tend category keeps =>
    exact fit.apartOther (Apart.modify (Apart.refl _ before)) filed (monsterly category)
  | raise category healed type =>
    exact fit.apartOther (Apart.modify (Apart.refl _ before)) filed (monsterly category)
  | step valid found alive => exact fit.bodies fun _ => bodyOf_updatePosition
  | schedule category kind => exact fit

theorem exec_fit {thread : Nat} {task : Task} (ran : world.exec thread choice task = some after)
    (mapped : Mapped world) (fit : Fit world) : Fit after :=
  (Script.keeps (fun world => Mapped world ∧ Fit world)
    (fun _ _ op both => ⟨op.mapped both.1, op.fit both.1 both.2⟩)
    (exec_script mapped.filed ran) ⟨mapped, fit⟩).2

theorem Fit.objects (fit : Fit before) (same : after.objects = before.objects) : Fit after :=
  fit.bodies fun id => by rw [bodyOf, bodyOf, same]

/-- There are no users at the start. -/
theorem boot_fit (count : Nat) (draw : Nat → Int × Int) : Fit (boot count draw) := by
  intro id body found
  rcases Option.map_eq_some_iff.mp found with ⟨subject, registered, rfl⟩
  cases bodyOf : subject.body with
  | user user =>
    have person := personOf_eq_some_iff.mpr
      ⟨subject, user, getUser_eq_some.mpr ⟨registered, bodyOf⟩, rfl⟩
    rw [(boot_aside count draw).persons] at person
    contradiction
  | monster monster => trivial
  | item item => trivial

end World

namespace Server

open World

variable {collate : String → String}

theorem step_fit {label : Label grid} {before after : Server collate}
    (taken : step label before = some after) (mapped : Mapped before.world)
    (fit : Fit before.world) : Fit after.world := by
  cases label with
  | run thread choice =>
    simp only [step, runThread] at taken
    split at taken
    · contradiction
    · next task rest _ =>
      rcases Option.map_eq_some_iff.mp taken with ⟨world, ran, rfl⟩
      refine exec_fit ran ?_ fit
      exact mapped.congr rfl rfl rfl rfl
  | _ => exact fit.objects (step_objects taken fun _ _ => by simp).1

/-- Everyone is fit in every state. -/
theorem run_fit {count : Nat} {draw : Nat → Int × Int} {store : Store collate}
    {labels : List (Label grid)} {server : Server collate}
    (ran : run step labels (boot count draw store) = some server) : Fit server.world := by
  have stepwise : ∀ (label : Label grid) (before after : Server collate), step label before = some after →
      Mapped before.world ∧ Fit before.world → Mapped after.world ∧ Fit after.world :=
    fun _ _ _ taken both => ⟨step_mapped taken both.1, step_fit taken both.1 both.2⟩
  exact (invariant_of_run stepwise ran ⟨boot_mapped count draw, boot_fit count draw⟩).2

end Server

end Mmorpg
