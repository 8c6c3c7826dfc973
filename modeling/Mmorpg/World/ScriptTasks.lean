import Mmorpg.World.Course
import Mmorpg.Item.InventoryInvariant

/-!
# The script of every task

One lemma per handler, and the script of `exec`.
-/

namespace Mmorpg

open ZoneLayout

variable {grid : CollisionGrid}

/-- Who acts in a task: the monster of a timer event, or the user of an
attack. -/
def Task.own : Task → ObjID
  | dispatch session (.userAttackReq _) => ObjID.user session
  | dispatch session .userSkillReq => ObjID.user session
  | timer .evRandomMove subjectId _ => subjectId
  | timer .evMonsterRespawn subjectId _ => subjectId
  | timer .evMonsterAttackToUser subjectId _ => subjectId
  | timer .evAggroMove subjectId _ => subjectId
  | _ => ObjID.npos

namespace World

variable {zone : Nat} {choice : Choice grid} {own : ObjID} {before world after : World}

/-! ## Users in the grid -/

theorem wakeUpMonster_cells {monsterId wakerId : ObjID} {forceWake : Bool} :
    (world.wakeUpMonster zone monsterId wakerId forceWake).cells = world.cells := by
  unfold wakeUpMonster
  split
  · split
    · rfl
    · split
      · rfl
      · split
        · rfl
        · dsimp only
          split <;> rfl
  · rfl

theorem wakeUpMonsters_script {ids : List ObjID} {wakerId : ObjID} {forceWake : Bool}
    (valid : isValidZoneId zone = true) (inGrid : ∀ id ∈ ids, ∃ sector, id ∈ world.cells zone sector)
    (script : Script zone choice own before world) :
    Script zone choice own before (world.wakeUpMonsters zone ids wakerId forceWake) := by
  unfold wakeUpMonsters
  have filtered : ∀ id ∈ ids.filter (fun id => id.category = .eMonster),
      ∃ sector, id ∈ world.cells zone sector :=
    fun id member => inGrid id (List.mem_of_mem_filter member)
  generalize ids.filter (fun id => id.category = .eMonster) = monsters at filtered
  clear inGrid
  induction monsters generalizing world with
  | nil => exact script
  | cons id rest ih =>
    rcases filtered id List.mem_cons_self with ⟨sector, member⟩
    apply ih (script.op (.wake valid member))
    intro other otherMember
    rw [wakeUpMonster_cells]
    exact filtered other (List.mem_cons_of_mem id otherMember)

theorem notifyPlayerEnteredWorld_script {playerId : ObjID} {isRespawn : Bool}
    (valid : isValidZoneId zone = true) (script : Script zone choice own before world) :
    Script zone choice own before
      (world.notifyPlayerEnteredWorld zone choice playerId isRespawn) := by
  unfold notifyPlayerEnteredWorld
  split
  · exact script
  · apply wakeUpMonsters_script valid _ (script.thenPlain (Plain.refl world).post)
    exact fun id member => mem_collectSubjects_cells member

theorem walk_script {playerId : ObjID} {player : Subject} {user : User} {x y : Int}
    (valid : isValidZoneId zone = true) (found : world.getUser playerId = some (player, user))
    (script : Script zone choice own before world) :
    Script zone choice own before (world.walk zone choice playerId player x y) := by
  have updated : Script zone choice own before (world.updatePosition zone playerId x y) :=
    script.op (.place valid found)
  unfold walk
  dsimp only
  split
  · exact updated
  · split
    · exact updated.thenPlain (Plain.refl _).send
    · apply wakeUpMonsters_script valid _ (updated.thenPlain (Plain.refl _).send.post)
      exact fun id member => mem_collectSubjects_cells member

theorem handlePlayerMove_script {playerId : ObjID} {x y : Int} (valid : isValidZoneId zone = true)
    (script : Script zone choice own before world) :
    Script zone choice own before (world.handlePlayerMove zone choice playerId x y) := by
  unfold handlePlayerMove
  split
  · exact script
  · next player user found =>
    dsimp only
    split
    · next crossing => exact script.op (.transfer found crossing.2)
    · exact walk_script valid found script

theorem handleEnterZone_script {playerId : ObjID} {x y : Int} (valid : isValidZoneId zone = true)
    (filed : Filed world) (script : Script zone choice own before world) :
    Script zone choice own before (world.handleEnterZone zone choice playerId x y) := by
  unfold handleEnterZone
  split
  · exact script
  · next player user found =>
    dsimp only
    apply Script.op _ (.arrive (filed.user found))
    apply notifyPlayerEnteredWorld_script valid
    split
    · next placed moved => exact script.op (.settle valid found moved)
    · exact script.op (.place valid found)

theorem handleUserRespawn_script {playerId : ObjID} (valid : isValidZoneId zone = true)
    (filed : Filed world) (script : Script zone choice own before world) :
    Script zone choice own before (world.handleUserRespawn zone choice playerId) := by
  unfold handleUserRespawn
  split
  · exact script
  · next player found =>
    have revived : Script zone choice own before
        ((world.getRandomPosition zone choice playerId).setStat playerId fun current =>
          { current with dead := false, hp := playerMaxHp }) :=
      (script.op (.place valid found)).op .revive
    dsimp only
    split
    · exact revived
    · apply Script.thenPlain _ ((Plain.refl _).scheduleHeal (filed.user found))
      exact notifyPlayerEnteredWorld_script valid (revived.thenPlain (Plain.refl _).send)

/-! ## Logins and disconnects -/

theorem isNewUser_loadedUser (slots : SlotOrder) (id : ObjID) (userInfo : DbUserInfo)
    (items : List DbItemInfo) : IsNewUser (loadedUser slots id userInfo items) where
  transform := rfl
  user := by
    refine ⟨_, rfl, ?_, ?_⟩
    · exact congrArg Stat.hp (Inventory.foldl_loadRow_stat items _)
    · exact congrArg Stat.dead (Inventory.foldl_loadRow_stat items _)

theorem isNewUser_newUser (id : ObjID) (userInfo : DbUserInfo) : IsNewUser (newUser id userInfo) where
  transform := rfl
  user := ⟨_, rfl, rfl, rfl⟩

/-- The user that was published is registered. -/
theorem getUser_publishUser (session : Nat) {subject : Subject} (new : IsNewUser subject)
    (world : World) :
    ∃ user, (world.publishUser session subject).getUser (ObjID.user session) =
      some (subject, user) := by
  rcases new.user with ⟨user, bodyOf, _⟩
  refine ⟨user, getUser_eq_some.mpr ⟨?_, bodyOf⟩⟩
  simp [publishUser, modifySession, insertObject]

theorem finishLogin_script {session : Nat} {withItems : Bool} (valid : isValidZoneId zone = true)
    (script : Script zone choice own before world) :
    Script zone choice own before (world.finishLogin zone choice session withItems) := by
  unfold finishLogin
  dsimp only
  split
  · exact script
  · apply notifyPlayerEnteredWorld_script valid
    apply script.thenPlain
    apply Plain.scheduleHeal rfl
    split
    · exact (Plain.refl world).send.send
    · exact (Plain.refl world).send

theorem placeLoadedUser_script {session : Nat} {userInfo : DbUserInfo} {subject : Subject}
    {user : User} (valid : isValidZoneId zone = true)
    (found : world.getUser (ObjID.user session) = some (subject, user))
    (script : Script zone choice own before world) :
    Script zone choice own before (world.placeLoadedUser zone choice session userInfo) := by
  unfold placeLoadedUser
  dsimp only
  split
  · exact script.op (.place valid found)
  · have placed : Script zone choice own before (world.updatePosition zone (ObjID.user session)
        choice.worldDraw.1 choice.worldDraw.2) := script.op (.place valid found)
    split
    · exact placed
    · exact placed.thenPlain (Plain.refl _).requestDb

theorem handleGetUserInfo_script {session : Nat} {userInfo : DbUserInfo} {items : List DbItemInfo}
    (valid : isValidZoneId zone = true) :
    Script zone choice own world (world.handleGetUserInfo zone choice session userInfo items) := by
  unfold handleGetUserInfo
  dsimp only
  split
  · exact .refl
  · next alloc =>
    split
    · exact .refl
    · next free =>
      have new := isNewUser_loadedUser choice.slots (ObjID.user session) userInfo items
      rcases getUser_publishUser session new world with ⟨user, found⟩
      apply finishLogin_script valid
      apply placeLoadedUser_script valid found
      exact Relation.ReflTransGen.single (.publish (not_not.mp alloc) (by simpa using free) new)

theorem handleAddUserInfo_script {session : Nat} {userInfo : DbUserInfo}
    (valid : isValidZoneId zone = true) :
    Script zone choice own world (world.handleAddUserInfo zone choice session userInfo) := by
  unfold handleAddUserInfo
  dsimp only
  split
  · exact .refl
  · next alloc =>
    split
    · exact .refl
    · next free =>
      have new := isNewUser_newUser (ObjID.user session) userInfo
      rcases getUser_publishUser session new world with ⟨user, found⟩
      apply finishLogin_script valid
      have published : Script zone choice own world
          (world.publishUser session (newUser (ObjID.user session) userInfo)) :=
        Relation.ReflTransGen.single (.publish (not_not.mp alloc) (by simpa using free) new)
      exact published.op (.place valid found)

theorem disconnect_script {thread : Nat} {clientId : ObjID}
    (ran : world.disconnect thread choice clientId = some after) :
    Script thread choice own world after := by
  unfold disconnect at ran
  split at ran
  · exact Option.some.inj ran ▸ .refl
  · next client user found =>
    split at ran
    · exact Option.some.inj ran ▸ .single .requeue
    · rw [onSector_eq_some] at ran
      exact Option.some.inj ran.2 ▸ .single (.leave found)

/-! ## Attacks -/

/-- A living monster stands in the grid of the zone. -/
def InReach (zone : Nat) (id : ObjID) (world : World) : Prop :=
  ∀ subject monster, world.getMonster id = some (subject, monster) → monster.stat.dead = false →
    ∃ sector, id ∈ world.cells zone sector

theorem inReach_of_mem {id : ObjID} {sector : SectorCoord} (member : id ∈ world.cells zone sector) :
    InReach zone id world :=
  fun _ _ _ _ => ⟨sector, member⟩

/-- A target stays in reach when another one is hit. -/
theorem InReach.apart {id changed : ObjID} (reach : InReach zone id before)
    (different : id ≠ changed) (apart : Apart changed before after) : InReach zone id after := by
  intro subject monster found alive
  have core := coreOf_of_getMonster found
  rw [apart.core id different] at core
  rcases coreOf_eq_monster.mp core with ⟨old, oldFound, _⟩
  rcases reach old monster oldFound alive with ⟨sector, member⟩
  exact ⟨sector, (apart.cells id different zone sector).mpr member⟩

theorem InReach.plain {id : ObjID} (reach : InReach zone id before) (plain : Plain before after) :
    InReach zone id after := by
  intro subject monster found alive
  have core := coreOf_of_getMonster found
  rw [plain.core id] at core
  rcases coreOf_eq_monster.mp core with ⟨old, oldFound, _⟩
  rcases reach old monster oldFound alive with ⟨sector, member⟩
  exact ⟨sector, plain.cells ▸ member⟩

/-- The core of a slain monster. -/
theorem slain_core {monsterId playerId : ObjID} {damage : Nat} {subject : Subject}
    {monster : Monster} {attacker : User} (found : world.getMonster monsterId = some (subject, monster))
    (notItem : monsterId.category ≠ .eItem)
    (slays : world.slain zone choice monsterId playerId damage subject monster attacker =
      some after) :
    after.coreOf monsterId = some (.monster
      (if Sector.isValidSector zone subject.transform.sector = true then
        { subject.transform with sector := {} } else subject.transform)
      { monster with
        stat := monster.stat.takeDamage damage, active := false, attack := false
        viewList := [] }) := by
  rcases Option.map_eq_some_iff.mp slays with ⟨dropped, drops, rfl⟩
  rcases handleItemDrop_apart drops with ⟨itemId, isItem, apart⟩
  have different : monsterId ≠ itemId := fun same => notItem (same ▸ isItem)
  have scheduled : ∀ current : World, (current.scheduleAfter zone monsterId 10000 .evMonsterRespawn
      ObjID.npos).coreOf monsterId = current.coreOf monsterId := fun _ => rfl
  rw [scheduled, apart.core monsterId different]
  unfold killMonster
  dsimp only
  have sent : ∀ current : World, ∀ packet, (current.send playerId packet).coreOf monsterId =
      current.coreOf monsterId := fun _ _ => rfl
  rw [sent, (rewarded_plain playerId _).core monsterId]
  have hit : (world.modifyMonster monsterId fun current =>
      { current with stat := monster.stat.takeDamage damage }).coreOf monsterId =
        some (.monster subject.transform
          { monster with stat := monster.stat.takeDamage damage }) :=
    coreOf_modifyMonster (coreOf_of_getMonster found)
  have removed := (removeObject_removed zone monsterId subject.transform
    ((world.modifyMonster monsterId fun current =>
      { current with stat := monster.stat.takeDamage damage }).sendAll
        (viewers choice.hash zone subject (world.modifyMonster monsterId fun current =>
          { current with stat := monster.stat.takeDamage damage }))
        (.subjectDieNfy monsterId 0))).coreOf_monster hit
  exact coreOf_modifyMonster removed

/-- A kill changes the monster, then the killer, then the ground. -/
theorem slain_apart {monsterId playerId : ObjID} {damage : Nat} {subject : Subject}
    {monster : Monster} {attacker : User}
    (slays : world.slain zone choice monsterId playerId damage subject monster attacker =
      some after) :
    ∃ itemId middle, itemId.category = .eItem ∧ Apart monsterId world middle ∧
      ∃ dropped, Apart itemId middle dropped ∧ Apart monsterId dropped after := by
  rcases Option.map_eq_some_iff.mp slays with ⟨dropped, drops, rfl⟩
  rcases handleItemDrop_apart drops with ⟨itemId, isItem, apart⟩
  refine ⟨itemId, _, isItem, ?_, dropped, apart, (Apart.refl _ dropped).scheduleAfter⟩
  exact (Apart.modify (Apart.refl monsterId world)).trans killMonster_apart

theorem attackMonster_script {monsterId : ObjID} {damage : Nat}
    (valid : isValidZoneId zone = true) (category : own.category = .eUser)
    (reach : InReach zone monsterId world)
    (attacked : world.attackMonster zone choice monsterId own damage = some after) :
    Script zone choice own world after := by
  unfold attackMonster at attacked
  split at attacked
  · next subject monster player attacker found isUser =>
    split at attacked
    · exact Option.some.inj attacked ▸ .refl
    · next alive =>
      rw [Bool.not_eq_true] at alive
      rcases reach subject monster found alive with ⟨sector, member⟩
      dsimp only at attacked
      split at attacked
      · next survives =>
        rw [← Option.some.inj attacked]
        exact Script.thenPlain (.single (.wound valid found alive member category survives))
          (Plain.refl _).send
      · next fatal =>
        exact .single (.slay valid found alive member category isUser (by omega) attacked)
  · exact Option.some.inj attacked ▸ .refl

theorem attackMonster_inReach {monsterId playerId other : ObjID} {damage : Nat}
    (category : other.category = .eMonster) (reach : InReach zone other world)
    (attacked : world.attackMonster zone choice monsterId playerId damage = some after) :
    InReach zone other after := by
  have notItem : ∀ itemId : ObjID, itemId.category = .eItem → other ≠ itemId := by
    rintro itemId isItem rfl
    rw [category] at isItem
    contradiction
  unfold attackMonster at attacked
  split at attacked
  · next subject monster player attacker found _ =>
    split at attacked
    · exact Option.some.inj attacked ▸ reach
    · next alive =>
      rw [Bool.not_eq_true] at alive
      dsimp only at attacked
      split at attacked
      · rw [← Option.some.inj attacked]
        apply InReach.plain _ (Plain.refl _).send
        by_cases same : other = monsterId
        · subst same
          rcases reach subject monster found alive with ⟨sector, member⟩
          exact inReach_of_mem member
        · exact reach.apart same (Apart.modify (Apart.refl monsterId world))
      · next fatal =>
        by_cases same : other = monsterId
        · subst same
          intro deadSubject deadMonster deadFound stillAlive
          have core := slain_core found (by rw [category]; decide) attacked
          rcases coreOf_eq_monster.mp core with ⟨now, nowFound, _⟩
          obtain ⟨_, rfl⟩ := Prod.mk.inj (Option.some.inj (nowFound.symm.trans deadFound))
          have hpZero : (monster.stat.takeDamage damage).hp = 0 := by omega
          rw [Stat.takeDamage_hp_eq_zero_iff] at hpZero
          rw [Stat.takeDamage_dead, decide_eq_true hpZero] at stillAlive
          contradiction
        · rcases slain_apart attacked with ⟨itemId, middle, isItem, first, dropped, second, third⟩
          exact ((reach.apart same first).apart (notItem itemId isItem) second).apart same third
  · exact Option.some.inj attacked ▸ reach

theorem attackMonsters_script {damage : Nat} {targets : List ObjID}
    (valid : isValidZoneId zone = true) (category : own.category = .eUser)
    (reach : ∀ id ∈ targets, id.category = .eMonster ∧ InReach zone id world)
    (attacked : world.attackMonsters zone choice own damage targets = some after) :
    Script zone choice own world after := by
  induction targets generalizing world with
  | nil => exact Option.some.inj attacked ▸ .refl
  | cons monsterId rest ih =>
    rcases Option.bind_eq_some_iff.mp attacked with ⟨middle, first, later⟩
    apply Relation.ReflTransGen.trans
      (attackMonster_script valid category (reach monsterId List.mem_cons_self).2 first)
    apply ih _ later
    intro id member
    have old := reach id (List.mem_cons_of_mem _ member)
    exact ⟨old.1, attackMonster_inReach old.1 old.2 first⟩

/-- The targets of an attack are monsters in the neighbourhood. -/
theorem inReach_of_neighbor {sector : SectorCoord} (fits : ObjID × Subject → Bool) {id : ObjID}
    (member : id ∈ ((world.neighborObjects choice.hash zone sector).filter fun entry =>
      entry.1.category = .eMonster ∧ fits entry).map Prod.fst) :
    id.category = .eMonster ∧ InReach zone id world := by
  rcases List.mem_map.mp member with ⟨⟨other, subject⟩, kept, rfl⟩
  rw [List.mem_filter, decide_eq_true_eq] at kept
  rcases mem_neighborIds_cells (mem_neighborObjects_iff.mp kept.1).1 with ⟨near, inCell⟩
  exact ⟨kept.2.1, inReach_of_mem inCell⟩

theorem skillAttack_script (valid : isValidZoneId zone = true) (category : own.category = .eUser)
    (attacked : world.skillAttack zone choice own = some after) :
    Script zone choice own world after := by
  unfold skillAttack at attacked
  split at attacked
  · exact Option.some.inj attacked ▸ .refl
  · next player user _ =>
    split at attacked
    · exact Option.some.inj attacked ▸ .refl
    · apply attackMonsters_script valid category _ attacked
      intro id member
      apply inReach_of_neighbor fun entry => decide
        ((entry.2.x - player.x).natAbs + (entry.2.y - player.y).natAbs = 1)
      simpa using member

theorem handleAttack_script {facing : UInt8} (valid : isValidZoneId zone = true)
    (category : own.category = .eUser)
    (attacked : world.handleAttack zone choice own facing = some after) :
    Script zone choice own world after := by
  unfold handleAttack at attacked
  split at attacked
  · exact Option.some.inj attacked ▸ .refl
  · next attacker user _ =>
    apply Relation.ReflTransGen.trans (Plain.refl world).sendAll.script
    apply attackMonsters_script valid category _ attacked
    intro id member
    have near := inReach_of_neighbor (fun entry => SubjectHelper.canAttack attacker entry.2) member
    exact ⟨near.1, near.2.plain (Plain.refl world).sendAll⟩

/-! ## Inventories -/

/-- A call on an inventory keeps its owner's hit points. -/
theorem serves_tryAddItem {order : SlotOrder} {itemId : ItemTableId} {count : UInt16}
    {inventory : Inventory} {result : Option (List SlotIndex) × Inventory}
    (ran : inventory.tryAddItem order itemId count = some result) : Serves inventory result.2 := by
  rcases inventory.tryAddItem_cases order itemId count with failed | ⟨_, _, _, _, _, _, added⟩
  · rw [failed] at ran
    exact Option.some.inj ran ▸ ⟨rfl, rfl, .inl rfl⟩
  · rw [added] at ran
    exact Option.some.inj ran ▸ ⟨rfl, rfl, .inl rfl⟩

theorem serves_tryExtractItem {order : SlotOrder} {index : SlotIndex} {count : UInt16}
    {inventory : Inventory} {result : Option Item × Inventory}
    (ran : inventory.tryExtractItem order index count = some result) :
    Serves inventory result.2 := by
  unfold Inventory.tryExtractItem at ran
  split at ran
  · exact Option.some.inj ran ▸ ⟨rfl, rfl, .inl rfl⟩
  · split at ran
    · rw [← Option.some.inj ran]
      dsimp only
      split <;> exact ⟨rfl, rfl, .inl rfl⟩
    · dsimp only at ran
      split at ran
      · contradiction
      · exact Option.some.inj ran ▸ ⟨rfl, rfl, .inl rfl⟩

theorem serves_tryEquip (order : SlotOrder) (index : SlotIndex) (inventory : Inventory) :
    Serves inventory (inventory.tryEquip order index).2 := by
  unfold Inventory.tryEquip
  split
  · exact ⟨rfl, rfl, .inl rfl⟩
  · split
    · exact ⟨rfl, rfl, .inl rfl⟩
    · split
      · exact ⟨rfl, rfl, .inl rfl⟩
      · split <;> exact ⟨rfl, rfl, .inl rfl⟩

theorem serves_tryUnequip (order : SlotOrder) (index : SlotIndex) (inventory : Inventory) :
    Serves inventory (inventory.tryUnequip order index).2 := by
  unfold Inventory.tryUnequip
  split
  · exact ⟨rfl, rfl, .inl rfl⟩
  · split
    · exact ⟨rfl, rfl, .inl rfl⟩
    · split <;> exact ⟨rfl, rfl, .inl rfl⟩

theorem serves_trySwapSlots (indexA indexB : SlotIndex) (inventory : Inventory) :
    Serves inventory (inventory.trySwapSlots indexA indexB).2 := by
  unfold Inventory.trySwapSlots
  split
  · exact ⟨rfl, rfl, .inl rfl⟩
  · split
    · exact ⟨rfl, rfl, .inl rfl⟩
    · split <;> exact ⟨rfl, rfl, .inl rfl⟩

/-- A living owner may be healed by what it uses. -/
theorem serves_tryUseItem {index : SlotIndex} {inventory : Inventory} {result : Bool × Inventory}
    (alive : inventory.stat.dead = false) (ran : inventory.tryUseItem index = some result) :
    Serves inventory result.2 := by
  unfold Inventory.tryUseItem at ran
  split at ran
  · exact Option.some.inj ran ▸ ⟨rfl, rfl, .inl rfl⟩
  · split at ran
    · exact Option.some.inj ran ▸ ⟨rfl, rfl, .inl rfl⟩
    · split at ran
      · exact Option.some.inj ran ▸ ⟨rfl, rfl, .inl rfl⟩
      · split at ran
        · contradiction
        · next row _ =>
          rw [← Option.some.inj ran]
          dsimp only [Inventory.saveSlotToDB]
          split
          · exact ⟨rfl, rfl, .inr ⟨alive, row.healAmount, rfl⟩⟩
          · exact ⟨rfl, rfl, .inl rfl⟩

/-! ## Field items -/

theorem tryPickupAt_script {playerId : ObjID} {player : Subject} {user : User}
    (found : world.getUser playerId = some (player, user))
    (ran : world.tryPickupAt zone choice playerId player user = some after) :
    Script zone choice own world after := by
  unfold tryPickupAt at ran
  split at ran
  · rw [← Option.some.inj ran]
    exact (Plain.refl world).send.script
  · next itemId subject item target =>
    obtain ⟨isItem, _, _⟩ := pickupTarget_item target
    split at ran
    · contradiction
    · rw [← Option.some.inj ran]
      exact (Plain.refl world).send.send.script
    · next touched filled added =>
      split at ran
      · contradiction
      · rw [← Option.some.inj ran]
        have stored : Script zone choice own world (world.setInventory playerId filled) :=
          .single (.store found (serves_tryAddItem added))
        have still : (world.setInventory playerId filled).getItem itemId = some (subject, item) := by
          rw [getUser_eq_some] at found
          rw [getItem_eq_some] at isItem ⊢
          refine ⟨?_, isItem.2⟩
          have different : itemId ≠ playerId := by
            rintro rfl
            rw [found.1] at isItem
            obtain rfl := Option.some.inj isItem.1
            rw [found.2] at isItem
            exact Body.noConfusion isItem.2
          simp [setInventory, modifyUser, modify, different, isItem.1]
        exact (stored.op (.pick still)).thenPlain (Plain.refl _).send.post

theorem handleDespawn_script {itemId : ObjID} :
    Script zone choice own world (world.handleDespawn zone choice itemId) := by
  unfold handleDespawn
  split
  · exact .refl
  · next found => exact .single (.pick found)

theorem handleLootPriorityExpire_plain {itemId : ObjID} :
    Plain world (world.handleLootPriorityExpire itemId) := by
  apply Plain.modify _ (Plain.refl world)
  rintro ⟨name, transform, facing, body⟩
  cases body <;> rfl

/-! ## Requests -/

theorem broadcastEquipChange_plain {playerId : ObjID} :
    Plain world (world.broadcastEquipChange zone choice playerId) := by
  unfold broadcastEquipChange
  split
  · exact Plain.refl world
  · exact (Plain.refl world).sendAll

theorem moveRequest_script {thread session : Nat} {direction : Int}
    (ran : world.moveRequest thread choice session direction = some after) :
    Script thread choice own world after := by
  unfold moveRequest at ran
  split at ran
  · exact Option.some.inj ran ▸ .refl
  · split at ran
    · exact Option.some.inj ran ▸ .refl
    · split at ran
      · dsimp only at ran
        rw [onSector_eq_some] at ran
        rw [← Option.some.inj ran.2]
        apply handlePlayerMove_script ran.1
        apply Plain.script
        apply Plain.modifyFacing
        · intro subject
          unfold faceDirection
          split
          · rfl
          · split <;> rfl
        · intro subject
          unfold faceDirection
          split
          · rfl
          · split <;> rfl
        · exact (Plain.refl world).modifyUser (fun _ => rfl) (fun _ => rfl) (fun _ => rfl)
            fun _ => rfl
      · exact Option.some.inj ran ▸ .refl

theorem attackRequest_script {thread session : Nat} {facing : UInt8}
    (ran : world.attackRequest thread choice session facing = some after) :
    Script thread choice (ObjID.user session) world after := by
  unfold attackRequest at ran
  split at ran
  · exact Option.some.inj ran ▸ .refl
  · split at ran
    · dsimp only at ran
      rw [onSector_eq_some] at ran
      apply Relation.ReflTransGen.trans _ (handleAttack_script ran.1 rfl ran.2)
      apply Plain.script
      refine Plain.modifyFacing (fun _ => rfl) (fun _ => rfl) ?_
      exact (Plain.refl world).modifyUser (fun _ => rfl) (fun _ => rfl) (fun _ => rfl) fun _ => rfl
    · exact Option.some.inj ran ▸ .refl

theorem skillRequest_script {thread session : Nat}
    (ran : world.skillRequest thread choice session = some after) :
    Script thread choice (ObjID.user session) world after := by
  unfold skillRequest at ran
  split at ran
  · exact Option.some.inj ran ▸ .refl
  · split at ran
    · dsimp only at ran
      rw [onSector_eq_some] at ran
      apply Relation.ReflTransGen.trans _ (skillAttack_script ran.1 rfl ran.2)
      apply Plain.script
      exact (Plain.refl world).modifyUser (fun _ => rfl) (fun _ => rfl) (fun _ => rfl) fun _ => rfl
    · exact Option.some.inj ran ▸ .refl

theorem teleportRequest_script {thread session : Nat} {x y : Int}
    (ran : world.teleportRequest thread choice session x y = some after) :
    Script thread choice own world after := by
  unfold teleportRequest at ran
  split at ran
  · exact Option.some.inj ran ▸ .refl
  · split at ran
    · exact Option.some.inj ran ▸ .refl
    · rw [onSector_eq_some] at ran
      exact Option.some.inj ran.2 ▸ handlePlayerMove_script ran.1 .refl

theorem equipRequest_script {thread session : Nat} {index : SlotIndex}
    (ran : world.equipRequest thread choice session index = some after) :
    Script thread choice own world after := by
  unfold equipRequest at ran
  split at ran
  · exact Option.some.inj ran ▸ .refl
  · next client user allowed =>
    have stored : Script thread choice own world (world.setInventory (ObjID.user session)
        (user.inventory.tryEquip choice.slots index).2) :=
      .single (.store (playing_eq_some.mp allowed).2.1 (serves_tryEquip choice.slots index _))
    rcases Option.bind_eq_some_iff.mp ran with ⟨slot, _, answered⟩
    dsimp only at answered
    split at answered
    · rw [onSector_eq_some] at answered
      rcases Option.map_eq_some_iff.mp answered.2 with ⟨packets, _, rfl⟩
      apply stored.thenPlain
      exact ((Plain.refl _).send.trans broadcastEquipChange_plain).post
    · exact Option.some.inj answered ▸ stored.thenPlain (Plain.refl _).send

theorem unequipRequest_script {thread session : Nat} {index : SlotIndex}
    (ran : world.unequipRequest thread choice session index = some after) :
    Script thread choice own world after := by
  unfold unequipRequest at ran
  split at ran
  · exact Option.some.inj ran ▸ .refl
  · next client user allowed =>
    have stored : Script thread choice own world (world.setInventory (ObjID.user session)
        (user.inventory.tryUnequip choice.slots index).2) :=
      .single (.store (playing_eq_some.mp allowed).2.1 (serves_tryUnequip choice.slots index _))
    rcases Option.bind_eq_some_iff.mp ran with ⟨slot, _, answered⟩
    dsimp only at answered
    split at answered
    · rw [onSector_eq_some] at answered
      rw [← Option.some.inj answered.2]
      exact stored.thenPlain ((Plain.refl _).send.trans broadcastEquipChange_plain)
    · exact Option.some.inj answered ▸ stored.thenPlain (Plain.refl _).send

theorem swapRequest_script {session : Nat} {indexA indexB : SlotIndex}
    (ran : world.swapRequest session indexA indexB = some after) :
    Script zone choice own world after := by
  unfold swapRequest at ran
  split at ran
  · exact Option.some.inj ran ▸ .refl
  · next client user allowed =>
    rw [← Option.some.inj ran]
    apply Script.thenPlain _ (Plain.refl _).send
    exact .single (.store (playing_eq_some.mp allowed).2.1 (serves_trySwapSlots indexA indexB _))

theorem discardRequest_script {thread session : Nat} {index : SlotIndex} {count : UInt16}
    (ran : world.discardRequest thread choice session index count = some after) :
    Script thread choice own world after := by
  unfold discardRequest at ran
  split at ran
  · exact Option.some.inj ran ▸ .refl
  · next client user allowed =>
    rcases Option.bind_eq_some_iff.mp ran with ⟨result, extracted, handed⟩
    have stored : Script thread choice own world
        (world.setInventory (ObjID.user session) result.2) :=
      .single (.store (playing_eq_some.mp allowed).2.1 (serves_tryExtractItem extracted))
    dsimp only at handed
    split at handed
    · exact Option.some.inj handed ▸ stored.thenPlain (Plain.refl _).send
    · rw [onSector_eq_some] at handed
      rcases Option.map_eq_some_iff.mp handed.2 with ⟨spawned, spawns, rfl⟩
      apply (stored.op (.spawn handed.1 spawns)).thenPlain
      exact broadcastEquipChange_plain.send

theorem pickupRequest_script {thread session : Nat}
    (ran : world.pickupRequest thread choice session = some after) :
    Script thread choice own world after := by
  unfold pickupRequest at ran
  split at ran
  · exact Option.some.inj ran ▸ .refl
  · next client user allowed =>
    rw [onSector_eq_some] at ran
    exact tryPickupAt_script (playing_eq_some.mp allowed).2.1 ran.2

theorem useRequest_script {session : Nat} {index : SlotIndex}
    (ran : world.useRequest choice session index = some after) :
    Script zone choice own world after := by
  unfold useRequest at ran
  split at ran
  · exact Option.some.inj ran ▸ .refl
  · next client user allowed =>
    split at ran
    · rcases Option.map_eq_some_iff.mp ran with ⟨result, used, rfl⟩
      obtain ⟨_, found, awake, _⟩ := playing_eq_some.mp allowed
      have alive : user.inventory.stat.dead = false := by
        rw [← Bool.not_eq_true]
        exact fun dead => awake ⟨rfl, dead⟩
      rw [getUser_eq_some] at found
      have stamped : Plain world (world.modifyUser (ObjID.user session) fun current =>
          { current with lastPotionUseTime := choice.now }) :=
        (Plain.refl world).modifyUser (fun _ => rfl) (fun _ => rfl) (fun _ => rfl) fun _ => rfl
      have still : (world.modifyUser (ObjID.user session) fun current =>
          { current with lastPotionUseTime := choice.now }).getUser (ObjID.user session) =
            some ({ client with body := .user { user with lastPotionUseTime := choice.now } },
              { user with lastPotionUseTime := choice.now }) := by
        rw [getUser_eq_some]
        simp [modifyUser, modify, found.1, found.2]
      have stored : Script zone choice own world _ :=
        Script.op stamped.script (.store still (serves_tryUseItem alive used))
      dsimp only
      split
      · exact stored.thenPlain (Plain.refl _).send.send
      · exact stored.thenPlain (Plain.refl _).send
    · exact Option.some.inj ran ▸ .refl

theorem chatRequest_plain {thread session : Nat} {mess : String}
    (ran : world.chatRequest thread choice session mess = some after) : Plain world after := by
  unfold chatRequest at ran
  split at ran
  · exact Option.some.inj ran ▸ Plain.refl world
  · split at ran
    · exact Option.some.inj ran ▸ Plain.refl world
    · rw [onSector_eq_some] at ran
      rw [← Option.some.inj ran.2]
      unfold broadcastChat
      split
      · exact Plain.refl world
      · exact (Plain.refl world).send.sendAll

theorem loginRequest_plain {session : Nat} {name password : String}
    (ran : world.loginRequest session name password = some after) : Plain world after := by
  unfold loginRequest at ran
  split at ran
  · exact Option.some.inj ran ▸ Plain.refl world
  · exact Option.some.inj ran ▸ (Plain.refl world).requestDb

theorem dispatch_script {thread session : Nat} {packet : ClientPacket}
    (ran : world.dispatch thread choice session packet = some after) :
    Script thread choice (Task.dispatch session packet).own world after := by
  cases packet with
  | userLoginReq name password => exact (loginRequest_plain ran).script
  | userMoveReq direction => exact moveRequest_script ran
  | userAttackReq facing => exact attackRequest_script ran
  | userSkillReq => exact skillRequest_script ran
  | userTeleportReq x y => exact teleportRequest_script ran
  | itemEquipReq index => exact equipRequest_script ran
  | itemUnequipReq index => exact unequipRequest_script ran
  | itemSwapReq indexA indexB => exact swapRequest_script ran
  | itemDiscardReq index count => exact discardRequest_script ran
  | itemPickupReq => exact pickupRequest_script ran
  | itemUseReq index => exact useRequest_script ran
  | csChat mess => exact (chatRequest_plain ran).script

/-! ## Monsters -/

section Monsters

variable (category : own.category = .eMonster)

include category

theorem Script.tend {change : Monster → Monster}
    (stat : ∀ monster, (change monster).stat = monster.stat)
    (type : ∀ monster, (change monster).type = monster.type)
    (active : ∀ monster, (change monster).active = true → monster.active = true)
    (script : Script zone choice own before world) :
    Script zone choice own before (world.modifyMonster own change) :=
  script.op (.tend category fun _ monster _ =>
    ⟨stat monster, type monster, fun now => .inl (active monster now)⟩)

theorem stopMonster_script (script : Script zone choice own before world) :
    Script zone choice own before (world.stopMonster own) := by
  refine Script.tend category (fun _ => rfl) (fun _ => rfl) ?_ script
  exact fun _ now => absurd now Bool.false_ne_true

theorem afterChase_script {targetId : ObjID} (living : Living own world)
    (script : Script zone choice own before world) :
    Script zone choice own before (world.afterChase zone own targetId) := by
  unfold afterChase
  split
  · split
    · refine Script.op ?_ (.schedule category rfl)
      apply script.op (.tend category _)
      exact fun _ _ found => ⟨rfl, rfl, fun _ => .inr (living.monster found)⟩
    · exact stopMonster_script category script
  · exact script

theorem handleAttackToPlayer_script (filed : Filed world) {playerId : ObjID} :
    Script zone choice own world (world.handleAttackToPlayer zone choice own playerId) := by
  unfold handleAttackToPlayer
  split
  · next subject monster victim user isMonster isUser =>
    have attacking : Script zone choice own world (world.modifyMonster own fun current =>
        { current with attack := true }) :=
      Script.tend category (fun _ => rfl) (fun _ => rfl) (fun _ => id) .refl
    have hit : Script zone choice own world (((world.modifyMonster own fun current =>
        { current with attack := true })).setStat playerId fun current =>
          current.takeDamage monsterOffensive) := attacking.op .hurt
    dsimp only
    split
    · exact Script.tend category (fun _ => rfl) (fun _ => rfl) (fun _ => id) attacking
    · split
      · unfold killPlayer
        dsimp only
        refine Script.op (Script.op ?_ (.hide (filed.user isUser))) (.mourn (filed.user isUser))
        refine Script.tend category (fun _ => rfl) (fun _ => rfl) ?_ ?_
        · exact fun _ now => absurd now Bool.false_ne_true
        · exact hit.thenPlain (Plain.refl _).sendAll
      · unfold surviveAttack
        dsimp only
        split
        · refine Script.op ?_ (.schedule category rfl)
          exact hit.thenPlain (Plain.refl _).sendAll
        · refine Script.tend category (fun _ => rfl) (fun _ => rfl) (fun _ => id) ?_
          exact hit.thenPlain (Plain.refl _).sendAll
  · exact .refl

variable (valid : isValidZoneId zone = true)

include valid

theorem aStarMove_script {x y : Int} (living : Living own world)
    (script : Script zone choice own before world) :
    Script zone choice own before (world.aStarMove zone choice own x y) := by
  unfold aStarMove
  split
  · exact script
  · next found =>
    dsimp only
    refine Script.tend category (fun _ => rfl) (fun _ => rfl) (fun _ => id) ?_
    apply (script.op (.step valid found (living.monster found))).thenPlain
    unfold replace
    split
    · exact Plain.refl _
    · exact (Plain.refl _).post

theorem moveMonsterStep_script {subject : Subject} {next : Int × Int} (living : Living own world)
    (script : Script zone choice own before world) :
    Script zone choice own before (world.moveMonsterStep zone choice own subject next) := by
  unfold moveMonsterStep
  refine aStarMove_script category valid (living.congr (course_modifyBody ?_)) ?_
  · exact fun _ => rfl
  · apply script.thenPlain
    exact Plain.modifyFacing (fun _ => rfl) (fun _ => rfl) (Plain.refl world)

theorem handleRandomMove_script :
    Script zone choice own world (world.handleRandomMove zone choice own) := by
  unfold handleRandomMove
  split
  · exact .refl
  · next subject monster found =>
    split
    · exact .refl
    · next alive =>
      rw [Bool.not_eq_true] at alive
      split
      · exact .single (.schedule category rfl)
      · split
        · refine Script.op ?_ (.schedule category rfl)
          unfold randomMove
          split
          · exact .refl
          · split
            · exact .refl
            · exact moveMonsterStep_script category valid (living_of_monster found alive) .refl
        · refine Script.tend category (fun _ => rfl) (fun _ => rfl) ?_ .refl
          exact fun _ now => absurd now Bool.false_ne_true

theorem handleMonsterRespawn_script :
    Script zone choice own world (world.handleMonsterRespawn zone choice own) := by
  unfold handleMonsterRespawn
  split
  · exact .refl
  · next subject monster found =>
    have revived : Script zone choice own world (world.modifyMonster own fun current =>
        { current.clearPath with
          stat := { current.stat with hp := monsterMaxHp, dead := false }
          active := false
          attack := false }) :=
      .single (.raise category (fun _ => ⟨rfl, rfl⟩) fun _ => rfl)
    have placed := fun x y => revived.op
      (Op.step (x := x) (y := y) valid (getMonster_modifyMonster _ found) rfl)
    dsimp only
    split
    · exact placed _ _
    · split
      · exact Script.tend category (fun _ => rfl) (fun _ => rfl) (fun _ => id) (placed _ _)
      · apply Script.thenPlain _ (Plain.refl _).sendAll
        exact Script.tend category (fun _ => rfl) (fun _ => rfl) (fun _ => id) (placed _ _)

theorem tryAdvanceTowardGoal_script (goal : Int × Int) (living : Living own world)
    (script : Script zone choice own before world) :
    Script zone choice own before (world.tryAdvanceTowardGoal zone choice own goal).2 := by
  unfold tryAdvanceTowardGoal
  split
  · exact script
  · next subject monster found =>
    rcases MonsterHelper.stepTowardGoal_frame choice (subject.x, subject.y) goal monster with
      ⟨path, goalX, goalY, frame⟩
    have planned : Script zone choice own before (world.modifyMonster own fun _ =>
        (MonsterHelper.stepTowardGoal choice (subject.x, subject.y) goal monster).2) := by
      apply script.op (.tend category _)
      intro other otherMonster same
      obtain ⟨_, rfl⟩ := Prod.mk.inj (Option.some.inj (found.symm.trans same))
      rw [frame]
      exact ⟨rfl, rfl, .inl⟩
    dsimp only
    split
    · exact planned
    · refine moveMonsterStep_script category valid ?_ planned
      have stat : (MonsterHelper.stepTowardGoal choice (subject.x, subject.y) goal
          monster).2.stat = monster.stat := by rw [frame]
      apply living_of_monster (getMonster_modifyMonster _ found)
      rw [stat]
      exact living.monster found

theorem returnToSpawn_script {targetId : ObjID} {spawn : Int × Int} (living : Living own world)
    (script : Script zone choice own before world) :
    Script zone choice own before (world.returnToSpawn zone choice own targetId spawn) := by
  have advanced := tryAdvanceTowardGoal_script category valid spawn living script
  unfold returnToSpawn
  dsimp only
  split
  · exact advanced.op (.schedule category rfl)
  · exact stopMonster_script category advanced

theorem handleAggroMove_script {targetId : ObjID} :
    Script zone choice own world (world.handleAggroMove zone choice own targetId) := by
  unfold handleAggroMove
  split
  · exact .refl
  · next subject monster found =>
    split
    · exact .refl
    · next alive =>
      rw [Bool.not_eq_true] at alive
      have living := living_of_monster found alive
      split
      · refine Script.tend category (fun _ => rfl) (fun _ => rfl) ?_ .refl
        exact fun _ now => absurd now Bool.false_ne_true
      · split
        · exact .refl
        · have calmed : Script zone choice own world (world.modifyMonster own fun current =>
              { current with attack := false }) :=
            Script.tend category (fun _ => rfl) (fun _ => rfl) (fun _ => id) .refl
          dsimp only
          split
          · exact stopMonster_script category calmed
          · refine returnToSpawn_script category valid ?_ calmed
            exact living_of_monster (getMonster_modifyMonster _ found) alive
          · refine Script.op ?_ (.schedule category rfl)
            split
            · exact .refl
            · exact .single (.schedule category rfl)
          · refine afterChase_script category (living.congr course_tryAdvanceTowardGoal) ?_
            exact tryAdvanceTowardGoal_script category valid _ living .refl

end Monsters

/-! ## Tasks -/

theorem timerTask_script {thread : Nat} {event : TimerEventType} {subjectId targetId : ObjID}
    (filed : Filed world)
    (ran : world.timerTask thread choice event subjectId targetId = some after) :
    Script thread choice (Task.timer event subjectId targetId).own world after := by
  cases event with
  | evHeal =>
    rw [← Option.some.inj ran]
    unfold handleHeal
    split
    · exact .refl
    · next subject user found =>
      split
      · exact .refl
      · split
        · exact .refl
        · next alive =>
          rw [Bool.not_eq_true] at alive
          exact Script.thenPlain (.single (.heal found alive)) 
            ((Plain.refl _).send.scheduleHeal (filed.user found))
  | evItemLootPriorityExpire =>
    exact Option.some.inj ran ▸ handleLootPriorityExpire_plain.script
  | evUserRespawn =>
    rcases ifRegistered_eq_some.mp ran with ⟨_, rfl⟩ | ⟨_, valid, rfl⟩
    · exact .refl
    · exact handleUserRespawn_script valid filed .refl
  | evMonsterAttackToUser =>
    rcases ifRegistered_eq_some.mp ran with ⟨_, rfl⟩ | ⟨⟨⟨subject, monster⟩, found⟩, valid, rfl⟩
    · exact .refl
    · exact handleAttackToPlayer_script (filed.monster found) filed
  | evRandomMove =>
    rcases ifRegistered_eq_some.mp ran with ⟨_, rfl⟩ | ⟨⟨⟨subject, monster⟩, found⟩, valid, rfl⟩
    · exact .refl
    · exact handleRandomMove_script (filed.monster found) valid
  | evMonsterRespawn =>
    rcases ifRegistered_eq_some.mp ran with ⟨_, rfl⟩ | ⟨⟨⟨subject, monster⟩, found⟩, valid, rfl⟩
    · exact .refl
    · exact handleMonsterRespawn_script (filed.monster found) valid
  | evAggroMove =>
    rcases ifRegistered_eq_some.mp ran with ⟨_, rfl⟩ | ⟨⟨⟨subject, monster⟩, found⟩, valid, rfl⟩
    · exact .refl
    · exact handleAggroMove_script (filed.monster found) valid
  | evItemDespawn =>
    rcases ifRegistered_eq_some.mp ran with ⟨_, rfl⟩ | ⟨_, _, rfl⟩
    · exact .refl
    · exact handleDespawn_script

/-- Every task is a script: one small operation after the other. -/
theorem exec_script {thread : Nat} {task : Task} (filed : Filed world)
    (ran : world.exec thread choice task = some after) :
    Script thread choice task.own world after := by
  cases task with
  | dispatch session packet => exact dispatch_script ran
  | closeSession session => exact Option.some.inj ran ▸ .refl
  | disconnect clientId => exact disconnect_script ran
  | enterZone playerId nextX nextY =>
    rcases ifRegistered_eq_some.mp ran with ⟨_, rfl⟩ | ⟨_, valid, rfl⟩
    · exact .refl
    · exact handleEnterZone_script valid filed .refl
  | getUserInfo session userInfo items =>
    rw [exec] at ran
    split at ran
    · exact Option.some.inj ran ▸ .refl
    · rw [onSector_eq_some] at ran
      exact Option.some.inj ran.2 ▸ handleGetUserInfo_script ran.1
  | addUserInfo session userInfo =>
    rw [exec] at ran
    split at ran
    · exact Option.some.inj ran ▸ .refl
    · rw [onSector_eq_some] at ran
      exact Option.some.inj ran.2 ▸ handleAddUserInfo_script ran.1
  | timer event subjectId targetId => exact timerTask_script filed ran

end World

end Mmorpg
