import Mmorpg.World.Fit
import Mmorpg.World.Vital

/-!
# What a kill brings

A monster falls in the attack or the skill of a user only.  Every monster that
falls in such a task gives its experience to the user once, its drop is rolled
once, and one respawn is scheduled for it.
-/

namespace Mmorpg

open ZoneLayout Transition

variable {grid : CollisionGrid}

/-- A monster that fell, with the type it had. -/
structure Kill where
  id : ObjID
  type : MonsterType

/-- The experience for a monster of a type. -/
def MonsterType.expGain (type : MonsterType) : Nat :=
  if type = .passive then 3 else 5

namespace Stat

/-- What a gain of experience makes of a user: nothing at the highest level,
else the experience grows on its 32-bit counter and, when it covers the table
entry of the level, pays for one level. -/
inductive Earns (gain : Nat) (before : Stat) : Stat → Prop
  | highest : 5 ≤ before.level → Earns gain before before
  | stays {exp : Nat} : before.level < 5 → exp = (before.exp + gain) % 4294967296 →
      exp < expTable.getD (before.level - 1) 0 → Earns gain before { before with exp := exp }
  | advances {exp : Nat} : before.level < 5 →
      exp + expTable.getD (before.level - 1) 0 = (before.exp + gain) % 4294967296 →
      Earns gain before { before with level := before.level + 1, exp := exp }

/-- Several gains, one after the other. -/
inductive EarnsAll : List Nat → Stat → Stat → Prop
  | nil (stat : Stat) : EarnsAll [] stat stat
  | cons {gain : Nat} {rest : List Nat} {before middle after : Stat} : Earns gain before middle →
      EarnsAll rest middle after → EarnsAll (gain :: rest) before after

theorem addExp_earns (gain : Nat) (stat : Stat) : Earns gain stat (stat.addExp gain) := by
  unfold addExp
  by_cases highest : stat.level ≥ maxLevel
  · rw [if_pos highest]
    exact .highest highest
  · have below : stat.level < 5 := Nat.lt_of_not_le highest
    rw [if_neg highest]
    dsimp only
    split
    · next enough => exact .advances below (Nat.sub_add_cancel enough)
    · next short => exact .stays below rfl (Nat.lt_of_not_le short)

theorem EarnsAll.append {first second : List Nat} {before middle after : Stat}
    (early : EarnsAll first before middle) (late : EarnsAll second middle after) :
    EarnsAll (first ++ second) before after := by
  induction early with
  | nil stat => exact late
  | cons earns _ ih => exact .cons earns (ih late)

end Stat

/-- The experience for a kill. -/
def Kill.gain (kill : Kill) : Nat :=
  kill.type.expGain

/-- What `HandleItemDrop` rolls for a kill. -/
def Kill.drop (choice : Choice grid) (kill : Kill) : Option DropTable.RollResult :=
  DropTable.roll (choice.dropPoint kill.id) (choice.dropDraw kill.id)

/-- The event that brings the victim back. -/
def Kill.respawn (zone : Nat) (id : ObjID) : TimerEvent :=
  ⟨id, 10000, .evMonsterRespawn, ObjID.npos, zone⟩

/-- The stat of a user. -/
def Body.userStat : Body → Option Stat
  | user player => some player.stat
  | _ => none

namespace World

/-- The stat of a registered user. -/
def statOf (id : ObjID) (world : World) : Option Stat :=
  (world.bodyOf id).bind Body.userStat

/-- The user `own` killed the monsters of `kills` and no others. -/
structure Hunted (zone : Nat) (choice : Choice grid) (own : ObjID) (kills : List Kill)
    (before after : World) : Prop where
  nodup : (kills.map Kill.id).Nodup
  monsters : ∀ kill ∈ kills, kill.id.category = .eMonster
  types : ∀ id, id.category = .eMonster →
    (after.moodOf id).map Mood.type = (before.moodOf id).map Mood.type
  felled : ∀ kill ∈ kills, (before.moodOf kill.id).map Mood.type = some kill.type ∧
    (before.moodOf kill.id).map Mood.dead = some false ∧
      (after.moodOf kill.id).map Mood.dead = some true
  spared : ∀ id, id.category = .eMonster → id ∉ kills.map Kill.id →
    (after.moodOf id).map Mood.dead = (before.moodOf id).map Mood.dead
  respawns : ∀ id, id.category = .eMonster → after.alarms id =
    before.alarms id ++ if id ∈ kills.map Kill.id then [Kill.respawn zone id] else []
  experience : ∀ stat, before.statOf own = some stat →
    ∃ final, after.statOf own = some final ∧ Stat.EarnsAll (kills.map Kill.gain) stat final
  numbered : after.nextFieldItemId =
    before.nextFieldItemId + (kills.filterMap (Kill.drop choice)).length
  dropped : ∀ index rolled, (kills.filterMap (Kill.drop choice))[index]? = some rolled →
    ∃ item, after.bodyOf (ObjID.item (before.nextFieldItemId + index)) = some (.item item) ∧
      item.itemTableId = rolled.itemId ∧ item.count = rolled.count ∧ item.lootPriorityOwner = own
  kept : ∀ number < before.nextFieldItemId,
    after.bodyOf (ObjID.item number) = before.bodyOf (ObjID.item number)
  listed : ∀ kill ∈ kills, ∀ rolled, kill.drop choice = some rolled →
    ∃ row, ItemTable.find rolled.itemId = some row ∧ 1 ≤ rolled.count ∧
      rolled.count ≤ row.maxStack

variable {zone : Nat} {choice : Choice grid} {own id other : ObjID} {first second : List Kill}
  {world before middle after : World}

namespace Hunted

/-- A step that kills nobody. -/
theorem nobody (moods : ∀ id, id.category = .eMonster →
      (after.moodOf id).map Mood.type = (before.moodOf id).map Mood.type ∧
        (after.moodOf id).map Mood.dead = (before.moodOf id).map Mood.dead)
    (alarms : ∀ id, id.category = .eMonster → after.alarms id = before.alarms id)
    (stat : after.statOf own = before.statOf own)
    (numbered : after.nextFieldItemId = before.nextFieldItemId)
    (items : ∀ number, after.bodyOf (ObjID.item number) = before.bodyOf (ObjID.item number)) :
    Hunted zone choice own [] before after where
  nodup := List.nodup_nil
  monsters _ member := absurd member List.not_mem_nil
  types id category := (moods id category).1
  felled _ member := absurd member List.not_mem_nil
  spared id category _ := (moods id category).2
  respawns id category := by simp [alarms id category]
  experience found present := ⟨found, stat.trans present, .nil found⟩
  numbered := numbered
  dropped _ _ found := by simp at found
  kept number _ := items number
  listed _ member := absurd member List.not_mem_nil

theorem refl (world : World) : Hunted zone choice own [] world world :=
  nobody (fun _ _ => ⟨rfl, rfl⟩) (fun _ _ => rfl) rfl rfl fun _ => rfl

/-- A monster that has fallen is not killed again. -/
theorem fresh (early : Hunted zone choice own first before middle)
    (late : Hunted zone choice own second middle after) {kill : Kill} (member : kill ∈ second) :
    kill.id ∉ first.map Kill.id := by
  intro again
  rcases List.mem_map.mp again with ⟨old, oldMember, same⟩
  have fallen := (early.felled old oldMember).2.2
  rw [same, (late.felled kill member).2.1] at fallen
  exact absurd (Option.some.inj fallen) Bool.false_ne_true

theorem trans (early : Hunted zone choice own first before middle)
    (late : Hunted zone choice own second middle after) :
    Hunted zone choice own (first ++ second) before after := by
  have foreign : ∀ kill ∈ first, kill.id ∉ second.map Kill.id := by
    intro kill member again
    rcases List.mem_map.mp again with ⟨new, newMember, same⟩
    exact early.fresh late newMember (same ▸ List.mem_map_of_mem member)
  constructor
  case nodup =>
    rw [List.map_append, List.nodup_append']
    refine ⟨early.nodup, late.nodup, ?_⟩
    rintro id inFirst inSecond
    rcases List.mem_map.mp inFirst with ⟨kill, member, rfl⟩
    exact foreign kill member inSecond
  case monsters =>
    intro kill member
    rcases List.mem_append.mp member with old | new
    · exact early.monsters kill old
    · exact late.monsters kill new
  case types =>
    exact fun id category => (late.types id category).trans (early.types id category)
  case felled =>
    intro kill member
    rcases List.mem_append.mp member with old | new
    · have fell := early.felled kill old
      refine ⟨fell.1, fell.2.1, ?_⟩
      rw [late.spared kill.id (early.monsters kill old) (foreign kill old)]
      exact fell.2.2
    · have fell := late.felled kill new
      have category := late.monsters kill new
      refine ⟨(early.types kill.id category).symm.trans fell.1, ?_, fell.2.2⟩
      exact (early.spared kill.id category (early.fresh late new)).symm.trans fell.2.1
  case spared =>
    intro id category absent
    rw [List.map_append, List.mem_append, not_or] at absent
    exact (late.spared id category absent.2).trans (early.spared id category absent.1)
  case respawns =>
    intro id category
    rw [late.respawns id category, early.respawns id category, List.append_assoc, List.map_append]
    congr 1
    by_cases inFirst : id ∈ first.map Kill.id
    · have notSecond : id ∉ second.map Kill.id := by
        rcases List.mem_map.mp inFirst with ⟨kill, member, rfl⟩
        exact foreign kill member
      simp only [inFirst, notSecond, List.mem_append, if_true, if_false, or_false, List.append_nil]
    · simp only [inFirst, List.mem_append, if_false, false_or, List.nil_append]
  case experience =>
    intro stat present
    rcases early.experience stat present with ⟨between, reached, earned⟩
    rcases late.experience between reached with ⟨final, ended, more⟩
    refine ⟨final, ended, ?_⟩
    rw [List.map_append]
    exact earned.append more
  case numbered =>
    rw [late.numbered, early.numbered, List.filterMap_append, List.length_append, Nat.add_assoc]
  case dropped =>
    intro index rolled found
    rw [List.filterMap_append, List.getElem?_append] at found
    split at found
    · next inFirst =>
      rcases early.dropped index rolled found with ⟨item, lies, rest⟩
      refine ⟨item, ?_, rest⟩
      rw [late.kept _ (by rw [early.numbered]; omega)]
      exact lies
    · next inSecond =>
      rcases late.dropped _ rolled found with ⟨item, lies, rest⟩
      refine ⟨item, ?_, rest⟩
      rw [early.numbered] at lies
      rw [← lies]
      congr 2
      omega
  case kept =>
    intro number old
    rw [late.kept number (by rw [early.numbered]; omega), early.kept number old]
  case listed =>
    intro kill member
    rcases List.mem_append.mp member with old | new
    · exact early.listed kill old
    · exact late.listed kill new

end Hunted

/-! ## Bodies and item numbers -/

theorem bodyOf_modify_of_ne {change : Subject → Subject} (different : id ≠ other) :
    (world.modify other change).bodyOf id = world.bodyOf id := by
  rw [bodyOf, modify]
  dsimp only
  rw [Function.update_of_ne different]
  rfl

theorem bodyOf_modifyMonster_of_ne {change : Monster → Monster} (different : id ≠ other) :
    (world.modifyMonster other change).bodyOf id = world.bodyOf id :=
  bodyOf_modify_of_ne different

theorem bodyOf_setStat_of_ne {change : Stat → Stat} (different : id ≠ other) :
    (world.setStat other change).bodyOf id = world.bodyOf id :=
  bodyOf_modify_of_ne different

theorem statOf_congr (same : after.bodyOf id = before.bodyOf id) :
    after.statOf id = before.statOf id := by
  rw [statOf, statOf, same]

theorem statOf_modifyUser {change : User → User}
    (keeps : ∀ user, (change user).stat = user.stat) :
    (world.modifyUser other change).statOf id = world.statOf id := by
  simp only [statOf, bodyOf, modifyUser, modify, Function.update_apply]
  split
  · next same =>
    subst same
    cases world.objects id with
    | none => rfl
    | some subject =>
      rcases subject with ⟨name, transform, facing, body⟩
      cases body with
      | user user => exact congrArg some (keeps user)
      | monster monster => rfl
      | item item => rfl
  · rfl

theorem statOf_setStat {change : Stat → Stat} :
    (world.setStat id change).statOf id = (world.statOf id).map change := by
  simp only [statOf, bodyOf, setStat, modifyUser, modify, Function.update_self]
  cases world.objects id with
  | none => rfl
  | some subject =>
    rcases subject with ⟨name, transform, facing, body⟩
    cases body <;> rfl

theorem nextFieldItemId_updateObjectSectorAndPosition {transform : Transform} {x y : Int}
    {placed : World}
    (moved : world.updateObjectSectorAndPosition zone id transform x y = some placed) :
    placed.nextFieldItemId = world.nextFieldItemId := by
  simp only [updateObjectSectorAndPosition] at moved
  split at moved
  · rw [← Option.some.inj moved]
    change World.nextFieldItemId (ite _ _ _) = _
    split
    · split <;> rfl
    · rfl
  · contradiction

theorem nextFieldItemId_updatePosition {x y : Int} :
    (world.updatePosition zone id x y).nextFieldItemId = world.nextFieldItemId := by
  unfold updatePosition
  split
  · rfl
  · split
    · rfl
    · next placed moved =>
      have settled := nextFieldItemId_updateObjectSectorAndPosition moved
      have mapped : ((placed.modifyTransform id fun current =>
          { current with zoneId := getZoneIdByWorld x y }).updateObjectZone id
            (getZoneIdByWorld x y)).nextFieldItemId = world.nextFieldItemId := by
        unfold updateObjectZone
        split <;> exact settled
      dsimp only
      split
      · split
        · exact mapped
        · exact settled
      · split
        · exact mapped
        · exact settled

theorem scheduleItemTimers_objects {itemId owner : ObjID} :
    (world.scheduleItemTimers zone itemId owner).objects = world.objects ∧
      (world.scheduleItemTimers zone itemId owner).nextFieldItemId = world.nextFieldItemId := by
  unfold scheduleItemTimers
  dsimp only
  split <;> exact ⟨rfl, rfl⟩

/-- A fresh field item has a new number, and nothing else changes its body. -/
theorem spawnFieldItem_bodyOf {item : Item} {x y : Int} {owner : ObjID}
    (spawned : world.spawnFieldItem zone choice item x y owner = some after) :
    after.nextFieldItemId = world.nextFieldItemId + 1 ∧
      after.bodyOf (ObjID.item world.nextFieldItemId) =
        some (.item { item with lootPriorityOwner := owner }) ∧
      ∀ id, id ≠ ObjID.item world.nextFieldItemId → after.bodyOf id = world.bodyOf id := by
  unfold spawnFieldItem at spawned
  dsimp only at spawned
  split at spawned
  · split at spawned
    · contradiction
    · rw [← Option.some.inj spawned]
      refine ⟨scheduleItemTimers_objects.2.trans nextFieldItemId_updatePosition, ?_, ?_⟩
      · rw [bodyOf, scheduleItemTimers_objects.1]
        refine Eq.trans bodyOf_updatePosition ?_
        rw [bodyOf, insertObject]
        dsimp only
        rw [Function.update_self]
        rfl
      · intro id different
        rw [bodyOf, scheduleItemTimers_objects.1]
        refine Eq.trans bodyOf_updatePosition ?_
        rw [bodyOf, insertObject]
        dsimp only
        rw [Function.update_of_ne different]
        rfl
  · contradiction

/-- The roll of a kill lies on the ground, reserved for the killer. -/
theorem handleItemDrop_drops (type : MonsterType) {x y : Int}
    (drops : world.handleItemDrop zone choice id own x y = some after) :
    ([(⟨id, type⟩ : Kill)].filterMap (Kill.drop choice) = [] ∧ after = world) ∨
      ∃ rolled item, [(⟨id, type⟩ : Kill)].filterMap (Kill.drop choice) = [rolled] ∧
        item.itemTableId = rolled.itemId ∧ item.count = rolled.count ∧
          item.lootPriorityOwner = own ∧
            after.nextFieldItemId = world.nextFieldItemId + 1 ∧
              after.bodyOf (ObjID.item world.nextFieldItemId) = some (.item item) ∧
                ∀ other, other ≠ ObjID.item world.nextFieldItemId →
                  after.bodyOf other = world.bodyOf other := by
  unfold handleItemDrop at drops
  have unfolds : (⟨id, type⟩ : Kill).drop choice =
      DropTable.roll (choice.dropPoint id) (choice.dropDraw id) := rfl
  split at drops
  · next nothing =>
    refine .inl ⟨?_, (Option.some.inj drops).symm⟩
    rw [List.filterMap_cons, unfolds, nothing]
    rfl
  · next rolled found =>
    split at drops
    · contradiction
    · next item made =>
      rcases spawnFieldItem_bodyOf drops with ⟨numbered, lies, others⟩
      refine .inr ⟨rolled, { item with lootPriorityOwner := own }, ?_, ?_, ?_, rfl, numbered, lies,
        others⟩
      · rw [List.filterMap_cons, unfolds, found]
        rfl
      · rcases Option.map_eq_some_iff.mp made with ⟨row, _, rfl⟩
        rfl
      · rcases Option.map_eq_some_iff.mp made with ⟨row, _, rfl⟩
        rfl

/-! ## One attack -/

section Slain

variable {damage : Nat} {subject : Subject} {monster : Monster} {attacker : User}

/-- The killer gets the experience of the monster. -/
theorem killMonster_statOf (different : own ≠ id) :
    (world.killMonster zone choice id own subject monster attacker).statOf own =
      (world.statOf own).map (Stat.addExp monster.type.expGain) := by
  have emptied : (((world.sendAll (world.viewers choice.hash zone subject)
      (.subjectDieNfy id 0)).removeObject zone id subject.transform).modifyMonster id fun current =>
        { current with active := false, attack := false, viewList := [] }).bodyOf own =
          world.bodyOf own :=
    (bodyOf_modifyMonster_of_ne different).trans (bodyOf_removeObject _)
  rw [← statOf_congr emptied]
  exact statOf_setStat

/-- A kill changes the monster and the one who killed it. -/
theorem killMonster_bodyOf (different : other ≠ id) (notOwn : other ≠ own) :
    (world.killMonster zone choice id own subject monster attacker).bodyOf other =
      world.bodyOf other := by
  refine (bodyOf_setStat_of_ne notOwn).trans ?_
  exact (bodyOf_modifyMonster_of_ne different).trans (bodyOf_removeObject _)

theorem killMonster_nextFieldItemId :
    (world.killMonster zone choice id own subject monster attacker).nextFieldItemId =
      world.nextFieldItemId :=
  (removeObject_removed zone id subject.transform _).nextFieldItemId

/-- What lies on the ground after a kill. -/
theorem slain_drops (category : id.category = .eMonster) (isUser : own.category = .eUser)
    (slays : world.slain zone choice id own damage subject monster attacker = some after) :
    after.nextFieldItemId = world.nextFieldItemId +
        ([(⟨id, monster.type⟩ : Kill)].filterMap (Kill.drop choice)).length ∧
      (∀ index rolled,
        ([(⟨id, monster.type⟩ : Kill)].filterMap (Kill.drop choice))[index]? = some rolled →
          ∃ item, after.bodyOf (ObjID.item (world.nextFieldItemId + index)) = some (.item item) ∧
            item.itemTableId = rolled.itemId ∧ item.count = rolled.count ∧
              item.lootPriorityOwner = own) ∧
        (∀ number < world.nextFieldItemId,
          after.bodyOf (ObjID.item number) = world.bodyOf (ObjID.item number)) ∧
          after.statOf own = (world.statOf own).map (Stat.addExp monster.type.expGain) := by
  rcases Option.map_eq_some_iff.mp slays with ⟨dropped, drops, rfl⟩
  have notMonster : own ≠ id := by
    rintro rfl
    rw [category] at isUser
    contradiction
  have itemNotMonster : ∀ number, ObjID.item number ≠ id := by
    rintro number rfl
    contradiction
  have itemNotOwn : ∀ number, ObjID.item number ≠ own := by
    rintro number rfl
    contradiction
  have killed : ∀ number, ((world.modifyMonster id fun current =>
      { current with stat := monster.stat.takeDamage damage }).killMonster zone choice id own
        subject monster attacker).bodyOf (ObjID.item number) = world.bodyOf (ObjID.item number) :=
    fun number => (killMonster_bodyOf (itemNotMonster number) (itemNotOwn number)).trans
      (bodyOf_modifyMonster_of_ne (itemNotMonster number))
  have rewarded : ((world.modifyMonster id fun current =>
      { current with stat := monster.stat.takeDamage damage }).killMonster zone choice id own
        subject monster attacker).statOf own =
          (world.statOf own).map (Stat.addExp monster.type.expGain) :=
    (killMonster_statOf notMonster).trans
      (congrArg _ (statOf_congr (bodyOf_modifyMonster_of_ne notMonster)))
  have counted : ((world.modifyMonster id fun current =>
      { current with stat := monster.stat.takeDamage damage }).killMonster zone choice id own
        subject monster attacker).nextFieldItemId = world.nextFieldItemId :=
    killMonster_nextFieldItemId
  have unchanged : ∀ body, (dropped.scheduleAfter zone id 10000 .evMonsterRespawn
      ObjID.npos).bodyOf body = dropped.bodyOf body := fun _ => rfl
  have stat : (dropped.scheduleAfter zone id 10000 .evMonsterRespawn ObjID.npos).statOf own =
      dropped.statOf own := rfl
  rcases handleItemDrop_drops monster.type drops with
    ⟨nothing, rfl⟩ | ⟨rolled, item, one, itemId, count, owner, numbered, lies, others⟩
  · rw [nothing]
    refine ⟨counted, fun _ _ found => by simp at found, fun number _ => killed number, rewarded⟩
  · rw [one]
    rw [counted] at numbered lies others
    refine ⟨numbered, ?_, ?_, ?_⟩
    · intro index found inList
      cases index with
      | zero =>
        obtain rfl := Option.some.inj inList
        exact ⟨item, lies, itemId, count, owner⟩
      | succ index => simp at inList
    · intro number old
      rw [unchanged, others _ (by simp only [ne_eq, ObjID.item, ObjID.mk.injEq]; omega)]
      exact killed number
    · rw [stat, statOf_congr (others own (itemNotOwn _).symm)]
      exact rewarded

/-- One monster is slain. -/
theorem slain_hunted (found : world.getMonster id = some (subject, monster))
    (category : id.category = .eMonster) (isUser : own.category = .eUser)
    (alive : monster.stat.dead = false) (fatal : (monster.stat.takeDamage damage).hp = 0)
    (slays : world.slain zone choice id own damage subject monster attacker = some after) :
    Hunted zone choice own [⟨id, monster.type⟩] world after := by
  have present := moodOf_of_getMonster found
  have course := slain_course found category slays
  have dead : (monster.stat.takeDamage damage).dead = true := by
    rw [Stat.takeDamage_dead, decide_eq_true (by rwa [← Stat.takeDamage_hp_eq_zero_iff]),
      Bool.true_or]
  have fallen : after.moodOf id = some ⟨monster.type, (monster.stat.takeDamage damage).hp,
      (monster.stat.takeDamage damage).dead, false, false⟩ := congrArg Course.mood course
  have others : ∀ other, other.category = .eMonster → other ≠ id →
      after.course other = world.course other := by
    intro other isMonster different
    rcases slain_apart slays with ⟨itemId, middle, isItem, first, dropped, second, third⟩
    have notItem : other ≠ itemId := by
      rintro rfl
      rw [isMonster] at isItem
      contradiction
    rw [third.course different isMonster, second.course notItem isMonster,
      first.course different isMonster]
  rcases slain_drops category isUser slays with ⟨numbered, dropped, kept, rewarded⟩
  constructor
  case nodup => exact List.nodup_singleton id
  case monsters =>
    intro kill member
    rw [List.mem_singleton.mp member]
    exact category
  case types =>
    intro other isMonster
    by_cases same : other = id
    · subst same
      rw [fallen, present]
      rfl
    · exact congrArg (Option.map Mood.type) (congrArg Course.mood (others other isMonster same))
  case felled =>
    intro kill member
    rw [List.mem_singleton.mp member, fallen, present]
    exact ⟨rfl, congrArg some alive, congrArg some dead⟩
  case spared =>
    intro other isMonster absent
    have different : other ≠ id := fun same => absent (List.mem_singleton.mpr same)
    exact congrArg (Option.map Mood.dead) (congrArg Course.mood (others other isMonster different))
  case respawns =>
    intro other isMonster
    have ids : [(⟨id, monster.type⟩ : Kill)].map Kill.id = [id] := rfl
    rw [ids]
    by_cases same : other = id
    · subst same
      rw [if_pos (List.mem_singleton.mpr rfl)]
      exact congrArg Course.alarms course
    · rw [if_neg fun member => same (List.mem_singleton.mp member), List.append_nil]
      exact congrArg Course.alarms (others other isMonster same)
  case experience =>
    intro stat present
    rw [present] at rewarded
    exact ⟨_, rewarded, .cons (Stat.addExp_earns _ stat) (.nil _)⟩
  case numbered => exact numbered
  case dropped => exact dropped
  case kept => exact kept
  case listed => exact fun _ _ _ rolled => DropTable.roll_listed rolled

end Slain

/-! ## Attacks -/

/-- What an attack of the user `own` does in one go, with the monster that falls
in it. -/
inductive Blow (zone : Nat) (choice : Choice grid) (own : ObjID) (before : World) :
    List Kill → World → Prop
  | aside {after : World} : Plain before after → after.statOf own = before.statOf own →
      (∀ number, after.bodyOf (ObjID.item number) = before.bodyOf (ObjID.item number)) →
      Blow zone choice own before [] after
  | wound {id : ObjID} {subject : Subject} {monster : Monster} {damage : Nat}
      {sector : SectorCoord} : isValidZoneId zone = true →
      before.getMonster id = some (subject, monster) → monster.stat.dead = false →
      id ∈ before.cells zone sector → own.category = .eUser →
      (monster.stat.takeDamage damage).hp > 0 →
      Blow zone choice own before [] (before.modifyMonster id fun current =>
        { current with stat := monster.stat.takeDamage damage })
  | slay {id : ObjID} {subject player : Subject} {monster : Monster} {attacker : User}
      {damage : Nat} {sector : SectorCoord} {after : World} : isValidZoneId zone = true →
      before.getMonster id = some (subject, monster) → monster.stat.dead = false →
      id ∈ before.cells zone sector → own.category = .eUser →
      before.getUser own = some (player, attacker) → (monster.stat.takeDamage damage).hp = 0 →
      before.slain zone choice id own damage subject monster attacker = some after →
      Blow zone choice own before [⟨id, monster.type⟩] after

/-- The blows of an attack, with all monsters that fall. -/
inductive Hunt (zone : Nat) (choice : Choice grid) (own : ObjID) (start : World) :
    List Kill → World → Prop
  | refl : Hunt zone choice own start [] start
  | tail {kills more : List Kill} {middle after : World} : Hunt zone choice own start kills middle →
      Blow zone choice own middle more after → Hunt zone choice own start (kills ++ more) after

theorem Blow.op {kills : List Kill} (blow : Blow zone choice own before kills after) :
    Op zone choice own before after := by
  cases blow with
  | aside plain => exact .plain plain
  | wound valid found alive member isUser survives =>
    exact .wound valid found alive member isUser survives
  | slay valid found alive member isUser player fatal slays =>
    exact .slay valid found alive member isUser player fatal slays

/-- A plain change that keeps the stat of the user and all items. -/
theorem Hunted.ofPlain (plain : Plain before after) (stat : after.statOf own = before.statOf own)
    (items : ∀ number, after.bodyOf (ObjID.item number) = before.bodyOf (ObjID.item number)) :
    Hunted zone choice own [] before after := by
  refine .nobody ?_ ?_ stat plain.nextFieldItemId items
  · intro id category
    have kept := congrArg Course.mood (plain.course category)
    exact ⟨congrArg (Option.map Mood.type) kept, congrArg (Option.map Mood.dead) kept⟩
  · exact fun id category => congrArg Course.alarms (plain.course category)

/-- A monster that survives. -/
theorem wound_hunted {subject : Subject} {monster : Monster} {damage : Nat} (filed : Filed world)
    (found : world.getMonster id = some (subject, monster)) (isUser : own.category = .eUser)
    (survives : (monster.stat.takeDamage damage).hp > 0) :
    Hunted zone choice own [] world (world.modifyMonster id fun current =>
      { current with stat := monster.stat.takeDamage damage }) := by
  have different : own ≠ id := by
    rintro rfl
    rw [filed.monster found] at isUser
    contradiction
  have stays : (monster.stat.takeDamage damage).dead = monster.stat.dead := by
    rw [Stat.takeDamage_dead, decide_eq_false, Bool.false_or]
    rw [← Stat.takeDamage_hp_eq_zero_iff]
    omega
  refine .nobody ?_ (fun _ _ => rfl) ?_ rfl ?_
  · intro other isMonster
    by_cases same : other = id
    · subst same
      have hit := moodOf_of_getMonster (getMonster_modifyMonster (fun current =>
        { current with stat := monster.stat.takeDamage damage }) found)
      rw [moodOf_of_getMonster found]
      constructor
      · refine (congrArg (Option.map Mood.type) hit).trans ?_
        rfl
      · refine (congrArg (Option.map Mood.dead) hit).trans ?_
        exact congrArg some stays
    · have apart : Apart id world (world.modifyMonster id fun current =>
          { current with stat := monster.stat.takeDamage damage }) :=
        (Apart.refl id world).modify
      have kept := congrArg Course.mood (apart.course same isMonster)
      exact ⟨congrArg (Option.map Mood.type) kept, congrArg (Option.map Mood.dead) kept⟩
  · exact statOf_congr (bodyOf_modifyMonster_of_ne different)
  · intro number
    refine bodyOf_modifyMonster_of_ne ?_
    rintro rfl
    have impossible := filed.monster found
    contradiction

theorem Blow.hunted {kills : List Kill} (blow : Blow zone choice own before kills after)
    (filed : Filed before) : Hunted zone choice own kills before after := by
  cases blow with
  | aside plain stat items => exact .ofPlain plain stat items
  | wound valid found alive member isUser survives => exact wound_hunted filed found isUser survives
  | slay valid found alive member isUser player fatal slays =>
    exact slain_hunted found (filed.monster found) isUser alive fatal slays

namespace Hunt

theorem single {kills : List Kill} (blow : Blow zone choice own before kills after) :
    Hunt zone choice own before kills after :=
  .tail .refl blow

theorem trans (early : Hunt zone choice own before first middle)
    (late : Hunt zone choice own middle second after) :
    Hunt zone choice own before (first ++ second) after := by
  induction late with
  | refl =>
    rw [List.append_nil]
    exact early
  | tail hunt blow ih =>
    rw [← List.append_assoc]
    exact .tail ih blow

theorem script {kills : List Kill} (hunt : Hunt zone choice own before kills after) :
    Script zone choice own before after := by
  induction hunt with
  | refl => exact .refl
  | tail hunt blow ih => exact ih.op blow.op

theorem mapped {kills : List Kill} (hunt : Hunt zone choice own before kills after)
    (mapped : Mapped before) : Mapped after :=
  Script.keeps Mapped (fun _ _ op => op.mapped) hunt.script mapped

theorem hunted {kills : List Kill} (hunt : Hunt zone choice own before kills after)
    (mapped : Mapped before) : Hunted zone choice own kills before after := by
  induction hunt with
  | refl => exact .refl before
  | tail hunt blow ih => exact ih.trans (blow.hunted (hunt.mapped mapped).filed)

end Hunt

theorem attackMonster_hunt {damage : Nat} (valid : isValidZoneId zone = true)
    (isUser : own.category = .eUser) (reach : InReach zone id world)
    (attacked : world.attackMonster zone choice id own damage = some after) :
    ∃ kills, Hunt zone choice own world kills after := by
  unfold attackMonster at attacked
  split at attacked
  · next subject monster player attacker found isPlayer =>
    split at attacked
    · exact ⟨[], Option.some.inj attacked ▸ .refl⟩
    · next alive =>
      rw [Bool.not_eq_true] at alive
      rcases reach subject monster found alive with ⟨sector, member⟩
      dsimp only at attacked
      split at attacked
      · next survives =>
        rw [← Option.some.inj attacked]
        exact ⟨_, .tail (.single (.wound valid found alive member isUser survives))
          (.aside (Plain.refl _).send rfl fun _ => rfl)⟩
      · next fatal =>
        exact ⟨_, .single (.slay valid found alive member isUser isPlayer (by omega) attacked)⟩
  · exact ⟨[], Option.some.inj attacked ▸ .refl⟩

theorem attackMonsters_hunt {damage : Nat} {targets : List ObjID}
    (valid : isValidZoneId zone = true) (isUser : own.category = .eUser)
    (reach : ∀ id ∈ targets, id.category = .eMonster ∧ InReach zone id world)
    (attacked : world.attackMonsters zone choice own damage targets = some after) :
    ∃ kills, Hunt zone choice own world kills after := by
  induction targets generalizing world with
  | nil => exact ⟨[], Option.some.inj attacked ▸ .refl⟩
  | cons monsterId rest ih =>
    rcases Option.bind_eq_some_iff.mp attacked with ⟨middle, first, later⟩
    rcases attackMonster_hunt valid isUser (reach monsterId List.mem_cons_self).2 first with
      ⟨early, hunt⟩
    have inReach : ∀ id ∈ rest, id.category = .eMonster ∧ InReach zone id middle := by
      intro id member
      have old := reach id (List.mem_cons_of_mem _ member)
      exact ⟨old.1, attackMonster_inReach old.1 old.2 first⟩
    rcases ih inReach later with ⟨late, huntLater⟩
    exact ⟨early ++ late, hunt.trans huntLater⟩

theorem skillAttack_hunt (valid : isValidZoneId zone = true) (isUser : own.category = .eUser)
    (attacked : world.skillAttack zone choice own = some after) :
    ∃ kills, Hunt zone choice own world kills after := by
  unfold skillAttack at attacked
  split at attacked
  · exact ⟨[], Option.some.inj attacked ▸ .refl⟩
  · next player user _ =>
    split at attacked
    · exact ⟨[], Option.some.inj attacked ▸ .refl⟩
    · apply attackMonsters_hunt valid isUser _ attacked
      intro id member
      apply inReach_of_neighbor fun entry => decide
        ((entry.2.x - player.x).natAbs + (entry.2.y - player.y).natAbs = 1)
      simpa using member

theorem handleAttack_hunt {facing : UInt8} (valid : isValidZoneId zone = true)
    (isUser : own.category = .eUser)
    (attacked : world.handleAttack zone choice own facing = some after) :
    ∃ kills, Hunt zone choice own world kills after := by
  unfold handleAttack at attacked
  split at attacked
  · exact ⟨[], Option.some.inj attacked ▸ .refl⟩
  · next attacker user _ =>
    dsimp only at attacked
    have shown : Hunt zone choice own world [] (world.sendAll
        ((world.viewers choice.hash zone attacker).filter fun id => id ≠ own)
        (.playerAttackNfy own facing)) :=
      .single (.aside (Plain.refl world).sendAll rfl fun _ => rfl)
    have attack : ∃ kills, Hunt zone choice own (world.sendAll
        ((world.viewers choice.hash zone attacker).filter fun id => id ≠ own)
        (.playerAttackNfy own facing)) kills after := by
      apply attackMonsters_hunt valid isUser _ attacked
      intro id member
      have reach : id.category = .eMonster ∧ InReach zone id world := by
        apply inReach_of_neighbor fun entry => SubjectHelper.canAttack attacker entry.2
        simpa using member
      exact ⟨reach.1, reach.2.plain (Plain.refl world).sendAll⟩
    rcases attack with ⟨kills, hunt⟩
    exact ⟨kills, shown.trans hunt⟩

/-- The time stamp of an attack. -/
theorem stamped_blow {change : User → User}
    (playerId : ∀ user, (change user).inventory.playerId = user.inventory.playerId)
    (slots : ∀ user, (change user).inventory.slots = user.inventory.slots)
    (stat : ∀ user, (change user).stat = user.stat) (isUser : own.category = .eUser) :
    Blow zone choice own world [] (world.modifyUser own change) := by
  refine .aside (Plain.modifyUser playerId slots ?_ ?_ (Plain.refl world))
    (statOf_modifyUser stat) ?_
  · exact fun user => congrArg Stat.hp (stat user)
  · exact fun user => congrArg Stat.dead (stat user)
  · intro number
    refine bodyOf_modify_of_ne ?_
    rintro rfl
    contradiction

theorem attackRequest_hunt {thread session : Nat} {facing : UInt8}
    (ran : world.attackRequest thread choice session facing = some after) :
    ∃ kills, Hunt thread choice (ObjID.user session) world kills after := by
  unfold attackRequest at ran
  split at ran
  · exact ⟨[], Option.some.inj ran ▸ .refl⟩
  · next client user _ =>
    split at ran
    · dsimp only at ran
      rw [onSector_eq_some] at ran
      have stamped : Blow thread choice (ObjID.user session) world []
          (world.modifyUser (ObjID.user session) fun current =>
            { current with lastAttackTime := choice.now }) :=
        stamped_blow (fun _ => rfl) (fun _ => rfl) (fun _ => rfl) rfl
      have faced : Blow thread choice (ObjID.user session)
          (world.modifyUser (ObjID.user session) fun current =>
            { current with lastAttackTime := choice.now }) []
          ((world.modifyUser (ObjID.user session) fun current =>
            { current with lastAttackTime := choice.now }).modify (ObjID.user session)
              fun client => { client with facingLeft := facing == 1 }) := by
        refine .aside (Plain.modifyFacing (fun _ => rfl) (fun _ => rfl) (Plain.refl _)) ?_ ?_
        · exact statOf_congr (bodyOf_modify fun _ => rfl)
        · exact fun number => bodyOf_modify fun _ => rfl
      rcases handleAttack_hunt ran.1 rfl ran.2 with ⟨kills, hunt⟩
      exact ⟨_, (Hunt.tail (.single stamped) faced).trans hunt⟩
    · exact ⟨[], Option.some.inj ran ▸ .refl⟩

theorem skillRequest_hunt {thread session : Nat}
    (ran : world.skillRequest thread choice session = some after) :
    ∃ kills, Hunt thread choice (ObjID.user session) world kills after := by
  unfold skillRequest at ran
  split at ran
  · exact ⟨[], Option.some.inj ran ▸ .refl⟩
  · next client user _ =>
    split at ran
    · dsimp only at ran
      rw [onSector_eq_some] at ran
      have stamped : Blow thread choice (ObjID.user session) world []
          (world.modifyUser (ObjID.user session) fun current =>
            { current with lastSkillTime := choice.now }) :=
        stamped_blow (fun _ => rfl) (fun _ => rfl) (fun _ => rfl) rfl
      rcases skillAttack_hunt ran.1 rfl ran.2 with ⟨kills, hunt⟩
      exact ⟨_, (Hunt.single stamped).trans hunt⟩
    · exact ⟨[], Option.some.inj ran ▸ .refl⟩

end World

end Mmorpg
