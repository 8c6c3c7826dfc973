import Mmorpg.World.Hunt

/-!
# Items on the ground

Every dropped item gets a new number.  It lies in the grid of the zone whose
thread dropped it, and one despawn of it is pending there.  An item leaves the
registry in a pickup or in its despawn, and its number is never used again.
-/

namespace Mmorpg

open ZoneLayout Transition

variable {grid : CollisionGrid}

/-- The event that ends an item on the ground. -/
def TimerEventType.isDespawn (kind : TimerEventType) : Bool :=
  kind = .evItemDespawn

namespace World

/-- The identifier is not registered, in no cell, and nothing is pending for
it. -/
structure Unused (id : ObjID) (world : World) : Prop where
  core : world.coreOf id = none
  cells : ∀ zone sector, id ∉ world.cells zone sector
  alarms : (world.course id).alarms = []
  orders : ∀ thread, (world.course id).orders thread = []

/-- The item is tracked by the grid of `zone` and will be despawned there. -/
structure Lies (zone : Nat) (id : ObjID) (transform : Transform) (world : World) : Prop where
  valid : isValidZoneId zone = true
  tracked : Tracked zone id transform world
  alarms : ∀ event ∈ (world.course id).alarms, event.zoneId = zone
  orders : ∀ thread, ∀ task ∈ (world.course id).orders thread, thread = zone
  despawns : (world.course id).outstanding TimerEventType.isDespawn zone = 1

/-- The item with the number lies somewhere, if it is registered. -/
def Shelved (number : Nat) (world : World) : Prop :=
  ∀ core, world.coreOf (ObjID.item number) = some core →
    ∃ zone, Lies zone (ObjID.item number) core.transform world

variable {zone number : Nat} {choice : Choice grid} {own id : ObjID} {transform : Transform}
  {world before middle after : World}

/-! ## What leaves an item alone -/

theorem Unused.aloof (unused : Unused id before) (aloof : Aloof id before after) :
    Unused id after where
  core := aloof.core.trans unused.core
  cells zone sector member := unused.cells zone sector ((aloof.cells zone sector).mp member)
  alarms := by
    rw [aloof.course]
    exact unused.alarms
  orders := by
    rw [aloof.course]
    exact unused.orders

/-- An item that nobody touches lies where it lay. -/
theorem Lies.aloof (lies : Lies zone id transform before) (aloof : Aloof id before after) :
    Lies zone id transform after where
  valid := lies.valid
  tracked := tracked_congr aloof.cells lies.tracked
  alarms := by
    rw [aloof.course]
    exact lies.alarms
  orders := by
    rw [aloof.course]
    exact lies.orders
  despawns := by
    rw [aloof.course]
    exact lies.despawns

theorem Shelved.aloof (shelved : Shelved number before)
    (aloof : Aloof (ObjID.item number) before after) : Shelved number after := by
  intro core found
  rw [aloof.core] at found
  rcases shelved core found with ⟨zone, lies⟩
  exact ⟨zone, lies.aloof aloof⟩

/-- An item that is not there needs no shelf. -/
theorem shelved_of_missing (missing : world.coreOf (ObjID.item number) = none) :
    Shelved number world := by
  intro core found
  rw [missing] at found
  contradiction

/-! ## A new item -/

theorem tracked_of_unused (valid : isValidZoneId zone = true)
    (cells : ∀ zone sector, id ∉ world.cells zone sector)
    (unplaced : transform.sector = {}) : Tracked zone id transform world := by
  intro otherZone sector
  constructor
  · exact fun member => absurd member (cells otherZone sector)
  · rintro ⟨_, rfl, validSector⟩
    rw [unplaced, isValidSector_unassigned valid] at validSector
    contradiction

/-- The timers of a new item, all stamped with the zone of the thread. -/
theorem course_scheduleItemTimers (zone : Nat) (id owner : ObjID) (world : World) :
    ((world.scheduleItemTimers zone id owner).course id).orders = (world.course id).orders ∧
      ∃ loot : List TimerEvent, ((world.scheduleItemTimers zone id owner).course id).alarms =
        (world.course id).alarms ++
          ⟨id, itemDespawnDelay, .evItemDespawn, ObjID.npos, zone⟩ :: loot ∧
        ∀ event ∈ loot, event.zoneId = zone ∧ event.event = .evItemLootPriorityExpire := by
  unfold scheduleItemTimers
  dsimp only
  split
  · rw [course_alarm, course_alarm]
    refine ⟨rfl, [⟨id, kLootPriorityDuration, .evItemLootPriorityExpire, ObjID.npos, zone⟩], ?_, ?_⟩
    · simp [Course.alarm]
    · intro event member
      rw [List.mem_singleton.mp member]
      exact ⟨rfl, rfl⟩
  · rw [course_alarm]
    exact ⟨rfl, [], rfl, fun _ member => absurd member List.not_mem_nil⟩

theorem scheduleItemTimers_cells (owner : ObjID) :
    (world.scheduleItemTimers zone id owner).cells = world.cells := by
  unfold scheduleItemTimers
  dsimp only
  split <;> rfl

/-- A new item lies where it was dropped, if that is in the zone. -/
structure Dropped (zone : Nat) (x y : Int) (itemId : ItemTableId) (count : UInt16)
    (before after : World) : Prop where
  numbered : after.nextFieldItemId = before.nextFieldItemId + 1
  aloof : ∀ number, number ≠ before.nextFieldItemId → Aloof (ObjID.item number) before after
  lies : ∃ transform, after.coreOf (ObjID.item before.nextFieldItemId) =
      some (.item transform itemId count) ∧
    Lies zone (ObjID.item before.nextFieldItemId) transform after ∧
      (getZoneIdByWorld x y = zone → Sector.isValidSector zone transform.sector = true)

theorem item_not_user (number : Nat) : (ObjID.item number).category ≠ .eUser := by
  rw [ObjID.item_category]
  decide

/-- A new item lies on the tile it was dropped on. -/
theorem spawnFieldItem_dropped {item : Item} {x y : Int} {owner : ObjID}
    (valid : isValidZoneId zone = true)
    (unused : Unused (ObjID.item world.nextFieldItemId) world)
    (spawned : world.spawnFieldItem zone choice item x y owner = some after) :
    Dropped zone x y item.itemTableId item.count world after := by
  refine ⟨(spawnFieldItem_bodyOf spawned).1, ?_, ?_⟩
  · intro number old
    apply (spawnFieldItem_apart spawned).2.aloof_of_not_user _ (item_not_user number)
    simpa [ObjID.item] using old
  · unfold spawnFieldItem at spawned
    dsimp only at spawned
    split at spawned
    · split at spawned
      · contradiction
      · next subject placedFound =>
        generalize registeredIs : ({ world with nextFieldItemId := world.nextFieldItemId + 1 }
          |>.insertObject (ObjID.item world.nextFieldItemId) (fieldSubject item owner)) = registered
          at spawned placedFound
        have filed : registered.objects (ObjID.item world.nextFieldItemId) =
            some (fieldSubject item owner) := by
          rw [← registeredIs, insertObject]
          exact Function.update_self ..
        have cells : ∀ zone sector,
            ObjID.item world.nextFieldItemId ∉ registered.cells zone sector := by
          rw [← registeredIs]
          exact unused.cells
        have course : (registered.course (ObjID.item world.nextFieldItemId)).alarms = [] ∧
            ∀ thread, (registered.course (ObjID.item world.nextFieldItemId)).orders thread = [] := by
          rw [← registeredIs]
          exact ⟨unused.alarms, unused.orders⟩
        have placement : ∃ transform,
            (registered.updatePosition zone (ObjID.item world.nextFieldItemId) x y).coreOf
                (ObjID.item world.nextFieldItemId) =
              some (.item transform item.itemTableId item.count) ∧
            Tracked zone (ObjID.item world.nextFieldItemId) transform
              (registered.updatePosition zone (ObjID.item world.nextFieldItemId) x y) ∧
            (getZoneIdByWorld x y = zone → Sector.isValidSector zone transform.sector = true) := by
          by_cases inZone : getZoneIdByWorld x y = zone
          · have settled := updatePosition_settled valid filed inZone
            have validSector := isValidSector_of_zone valid inZone
            refine ⟨((fieldSubject item owner).placedAt zone x y).transform, ?_, ?_,
              fun _ => validSector⟩
            · rw [coreOf, settled.objects, Function.update_self]
              rfl
            · intro otherZone sector
              rw [settled.own (tracked_of_unused valid cells rfl)]
              constructor
              · rintro ⟨rfl, rfl⟩
                exact ⟨rfl, rfl, validSector⟩
              · exact fun held => ⟨held.1, held.2.1⟩
          · rw [updatePosition_outside valid inZone]
            refine ⟨(fieldSubject item owner).transform, ?_, tracked_of_unused valid cells rfl,
              fun impossible => absurd impossible inZone⟩
            rw [coreOf, filed]
            rfl
        rcases placement with ⟨transform, core, tracked, inside⟩
        rw [← Option.some.inj spawned]
        refine ⟨transform, ?_, ?_, inside⟩
        · rw [coreOf, scheduleItemTimers_objects.1]
          exact core
        · have same : (World.sendAll
              ((registered.updatePosition zone (ObjID.item world.nextFieldItemId) x y).viewers
                choice.hash zone subject)
              (addPacket choice.slots (ObjID.item world.nextFieldItemId) subject)
              (registered.updatePosition zone (ObjID.item world.nextFieldItemId) x y)).course
                (ObjID.item world.nextFieldItemId) =
              registered.course (ObjID.item world.nextFieldItemId) := course_updatePosition
          rcases course_scheduleItemTimers zone (ObjID.item world.nextFieldItemId) owner
              (World.sendAll
                ((registered.updatePosition zone (ObjID.item world.nextFieldItemId) x y).viewers
                  choice.hash zone subject)
                (addPacket choice.slots (ObjID.item world.nextFieldItemId) subject)
                (registered.updatePosition zone (ObjID.item world.nextFieldItemId) x y)) with
            ⟨orders, loot, alarms, stamped⟩
          rw [same] at orders alarms
          rw [course.1, List.nil_append] at alarms
          constructor
          case valid => exact valid
          case tracked =>
            rw [Tracked, scheduleItemTimers_cells]
            exact tracked
          case alarms =>
            intro event member
            rw [alarms] at member
            rcases List.mem_cons.mp member with rfl | among
            · rfl
            · exact (stamped event among).1
          case orders =>
            intro thread task member
            rw [orders, course.2] at member
            contradiction
          case despawns =>
            have none : loot.countP (fun event => TimerEventType.isDespawn event.event) = 0 := by
              rw [List.countP_eq_zero]
              intro event member
              rw [(stamped event member).2]
              decide
            rw [Course.outstanding, alarms, orders, course.2, List.countP_cons, none]
            rfl
    · contradiction

/-- What an operation does to the item with one number. -/
inductive Handled (zone number : Nat) (before after : World) : Prop
  | aloof : Aloof (ObjID.item number) before after → Handled zone number before after
  | taken : before.coreOf (ObjID.item number) ≠ none → after.coreOf (ObjID.item number) = none →
      Handled zone number before after
  | dropped {core : Core} : number = before.nextFieldItemId → number < after.nextFieldItemId →
      after.coreOf (ObjID.item number) = some core →
      Lies zone (ObjID.item number) core.transform after → Handled zone number before after

namespace Handled

/-- What is handled stays on its shelf or is gone. -/
theorem shelved (handled : Handled zone number before after) (shelved : Shelved number before) :
    Shelved number after := by
  cases handled with
  | aloof aloof => exact shelved.aloof aloof
  | taken present gone => exact shelved_of_missing gone
  | dropped new counts found lies =>
    intro core present
    obtain rfl := Option.some.inj (found.symm.trans present)
    exact ⟨zone, lies⟩

/-- The numbers that are left stay unused. -/
theorem unused (handled : Handled zone number before after) (unused : Unused (ObjID.item number) before)
    (later : after.nextFieldItemId ≤ number) : Unused (ObjID.item number) after := by
  cases handled with
  | aloof aloof => exact unused.aloof aloof
  | taken present => exact absurd unused.core present
  | dropped new counts => omega

/-- A number is used once. -/
theorem gone (handled : Handled zone number before after)
    (missing : before.coreOf (ObjID.item number) = none)
    (numbered : number < before.nextFieldItemId) : after.coreOf (ObjID.item number) = none := by
  cases handled with
  | aloof aloof => exact aloof.core.trans missing
  | taken present gone => exact gone
  | dropped new => omega

end Handled

namespace Dropped

variable {x y : Int} {itemId : ItemTableId} {count : UInt16}

theorem handled (dropped : Dropped zone x y itemId count before after) (number : Nat) :
    Handled zone number before after := by
  by_cases new : number = before.nextFieldItemId
  · rcases dropped.lies with ⟨transform, core, lies, _⟩
    have counted := dropped.numbered
    subst new
    exact .dropped rfl (by omega) core lies
  · exact .aloof (dropped.aloof number new)

theorem precededBy (dropped : Dropped zone x y itemId count middle after)
    (aloof : ∀ number, Aloof (ObjID.item number) before middle)
    (counted : middle.nextFieldItemId = before.nextFieldItemId) :
    Dropped zone x y itemId count before after where
  numbered := counted ▸ dropped.numbered
  aloof number old := (aloof number).trans (dropped.aloof number (counted ▸ old))
  lies := counted ▸ dropped.lies

theorem followedBy (dropped : Dropped zone x y itemId count before middle)
    (aloof : ∀ number, Aloof (ObjID.item number) middle after)
    (counted : after.nextFieldItemId = middle.nextFieldItemId) :
    Dropped zone x y itemId count before after where
  numbered := counted.trans dropped.numbered
  aloof number old := (dropped.aloof number old).trans (aloof number)
  lies := by
    rcases dropped.lies with ⟨transform, core, lies, inside⟩
    exact ⟨transform, (aloof _).core.trans core, lies.aloof (aloof _), inside⟩

end Dropped

/-- A drop lies where the monster died, and is what was rolled. -/
theorem handleItemDrop_dropped {monsterId attackerId : ObjID} {x y : Int}
    (valid : isValidZoneId zone = true)
    (unused : Unused (ObjID.item world.nextFieldItemId) world)
    (drops : world.handleItemDrop zone choice monsterId attackerId x y = some after) :
    (DropTable.roll (choice.dropPoint monsterId) (choice.dropDraw monsterId) = none ∧
        after = world) ∨
      ∃ rolled, DropTable.roll (choice.dropPoint monsterId) (choice.dropDraw monsterId) =
          some rolled ∧ Dropped zone x y rolled.itemId rolled.count world after := by
  unfold handleItemDrop at drops
  split at drops
  · next nothing => exact .inl ⟨nothing, (Option.some.inj drops).symm⟩
  · next rolled found =>
    split at drops
    · contradiction
    · next item made =>
      have dropped := spawnFieldItem_dropped valid unused drops
      rcases Option.map_eq_some_iff.mp made with ⟨row, _, rfl⟩
      exact .inr ⟨rolled, found, dropped⟩

/-- Slaying a monster leaves the items alone that are there, and drops at most
one more, where the monster stood. -/
theorem slain_dropped {damage : Nat} {subject : Subject} {monster : Monster} {attacker : User}
    (valid : isValidZoneId zone = true) (category : id.category = .eMonster)
    (unused : Unused (ObjID.item world.nextFieldItemId) world)
    (slays : world.slain zone choice id own damage subject monster attacker = some after) :
    (Kill.drop choice ⟨id, monster.type⟩ = none ∧
        after.nextFieldItemId = world.nextFieldItemId ∧
          ∀ number, Aloof (ObjID.item number) world after) ∨
      ∃ rolled, Kill.drop choice ⟨id, monster.type⟩ = some rolled ∧
        Dropped zone subject.x subject.y rolled.itemId rolled.count world after := by
  have differs : ∀ number, ObjID.item number ≠ id := by
    rintro number rfl
    contradiction
  rcases Option.map_eq_some_iff.mp slays with ⟨dropped, drops, rfl⟩
  have counted : ((world.modifyMonster id fun current =>
      { current with stat := monster.stat.takeDamage damage }).killMonster zone choice id own
        subject monster attacker).nextFieldItemId = world.nextFieldItemId :=
    killMonster_nextFieldItemId
  have killed : Apart id world ((world.modifyMonster id fun current =>
      { current with stat := monster.stat.takeDamage damage }).killMonster zone choice id own
        subject monster attacker) :=
    Apart.trans (Apart.modify (Apart.refl id world)) killMonster_apart
  have scheduled : Apart id dropped
      (dropped.scheduleAfter zone id 10000 .evMonsterRespawn ObjID.npos) :=
    (Apart.refl id dropped).scheduleAfter
  have early := fun number =>
    killed.aloof_of_not_user (differs number) (item_not_user number)
  have late := fun number =>
    scheduled.aloof_of_not_user (differs number) (item_not_user number)
  have stillUnused := unused.aloof (early world.nextFieldItemId)
  rw [← counted] at stillUnused
  rcases handleItemDrop_dropped valid stillUnused drops with ⟨nothing, rfl⟩ | ⟨rolled, found, new⟩
  · exact .inl ⟨nothing, counted, fun number => (early number).trans (late number)⟩
  · exact .inr ⟨rolled, found, (new.precededBy early counted).followedBy late rfl⟩

theorem slain_handled {damage : Nat} {subject : Subject} {monster : Monster} {attacker : User}
    (valid : isValidZoneId zone = true) (category : id.category = .eMonster)
    (unused : Unused (ObjID.item world.nextFieldItemId) world)
    (slays : world.slain zone choice id own damage subject monster attacker = some after)
    (number : Nat) : Handled zone number world after := by
  rcases slain_dropped valid category unused slays with ⟨_, _, aloof⟩ | ⟨rolled, _, dropped⟩
  · exact .aloof (aloof number)
  · exact dropped.handled number

/-! ## Operations -/

theorem nextFieldItemId_handleZoneTransfer {player : Subject} {x y : Int} {newZoneId : Nat} :
    (world.handleZoneTransfer zone choice id player x y newZoneId).nextFieldItemId =
      world.nextFieldItemId := by
  have mapped : ∀ {notified : World}, (notified.updateObjectZone id newZoneId).nextFieldItemId =
      notified.nextFieldItemId := by
    intro notified
    unfold updateObjectZone
    split <;> rfl
  exact mapped.trans (removeObject_removed zone id player.transform _).nextFieldItemId

theorem nextFieldItemId_leaveWorld {client : Subject} :
    (world.leaveWorld zone choice id client).nextFieldItemId = world.nextFieldItemId :=
  (saveUserInfo_plain id).nextFieldItemId.trans
    (removeObject_removed zone id client.transform (world.sendAll
      ((world.viewers choice.hash zone client).filter fun other => other ≠ id)
      (.subjectRemoveNfy id))).nextFieldItemId

theorem nextFieldItemId_removeFieldItem {subject : Subject} :
    (world.removeFieldItem zone choice id subject).nextFieldItemId = world.nextFieldItemId :=
  (removeObject_removed zone id subject.transform (world.sendAll
    (world.viewers choice.hash zone subject) (.subjectRemoveNfy id))).nextFieldItemId

theorem Op.nextFieldItemId_le (op : Op zone choice own before after) (filed : Filed before) :
    before.nextFieldItemId ≤ after.nextFieldItemId := by
  cases op with
  | plain plain => exact plain.nextFieldItemId.ge
  | wake valid member =>
    next monsterId wakerId forceWake sector =>
    rcases wakeUpMonster_cases zone monsterId wakerId forceWake before with
      same | ⟨subject, monster, targetId, _, _, _, woken⟩
    · rw [same]
    · rw [woken]
      exact Nat.le_refl _
  | place valid found => exact nextFieldItemId_updatePosition.ge
  | settle valid found placed => exact (nextFieldItemId_updateObjectSectorAndPosition placed).ge
  | transfer found valid =>
    exact nextFieldItemId_handleZoneTransfer.ge
  | leave found => exact nextFieldItemId_leaveWorld.ge
  | slay valid found alive member attacker killer fatal slays =>
    rw [(slain_drops (filed.monster found) attacker slays).1]
    exact Nat.le_add_right _ _
  | spawn valid spawned =>
    rw [(spawnFieldItem_bodyOf spawned).1]
    exact Nat.le_succ _
  | pick found => exact nextFieldItemId_removeFieldItem.ge
  | hide isUser => exact (removeObject_removed zone _ _ before).nextFieldItemId.ge
  | step valid found alive => exact nextFieldItemId_updatePosition.ge
  | _ => exact Nat.le_refl _

theorem removeFieldItem_core {subject : Subject} :
    (world.removeFieldItem zone choice id subject).coreOf id = none := by
  rw [coreOf, removeFieldItem, deleteObject]
  dsimp only
  rw [Function.update_self, Option.map_none]

theorem coreOf_of_getItem {subject : Subject} {item : Item}
    (found : world.getItem id = some (subject, item)) :
    world.coreOf id = some (.item subject.transform item.itemTableId item.count) := by
  rw [getItem_eq_some] at found
  rw [coreOf, found.1, Option.map_some, Subject.core, found.2]

theorem removeFieldItem_handled {subject : Subject} {item : Item}
    (found : world.getItem id = some (subject, item)) :
    Handled zone number world (world.removeFieldItem zone choice id subject) := by
  by_cases same : ObjID.item number = id
  · subst same
    refine .taken ?_ removeFieldItem_core
    rw [coreOf_of_getItem found]
    exact Option.some_ne_none _
  · exact .aloof (removeFieldItem_apart.aloof_of_not_user same (item_not_user number))

/-- Every operation leaves an item alone, takes it away or drops it. -/
theorem Op.handled (op : Op zone choice own before after) (filed : Filed before)
    (unused : Unused (ObjID.item before.nextFieldItemId) before) (number : Nat) :
    Handled zone number before after := by
  have notUser := item_not_user number
  have isItem : (ObjID.item number).category = .eItem := ObjID.item_category number
  have differs : ∀ {other : ObjID}, other.category ≠ .eItem → ObjID.item number ≠ other := by
    rintro other category rfl
    exact category isItem
  have users : ∀ {other : ObjID}, other.category = .eUser → ObjID.item number ≠ other :=
    fun category => differs (by rw [category]; decide)
  have monsters : ∀ {other : ObjID}, other.category = .eMonster → ObjID.item number ≠ other :=
    fun category => differs (by rw [category]; decide)
  cases op with
  | plain plain => exact .aloof (plain.aloof_of_not_user notUser)
  | heal found alive => exact .aloof (setStat_aloof_of_not_user filed notUser)
  | store found serves =>
    exact .aloof ((setInventory_apart _ _).aloof_of_not_user (users (filed.user found)) notUser)
  | wake valid member =>
    next monsterId wakerId forceWake sector =>
    rcases wakeUpMonster_cases zone monsterId wakerId forceWake before with
      same | ⟨subject, monster, targetId, found, _⟩
    · rw [same]
      exact .aloof (.refl _ before)
    · exact .aloof (wakeUpMonster_apart.aloof_of_not_user (monsters (filed.monster found)) notUser)
  | place valid found =>
    exact .aloof ((Apart.updatePosition (Apart.refl _ before)).aloof_of_not_user
      (users (filed.user found)) notUser)
  | settle valid found placed =>
    exact .aloof (((Apart.refl _ before).updateObjectSectorAndPosition placed).aloof_of_not_user
      (users (filed.user found)) notUser)
  | arrive isUser =>
    exact .aloof ((Apart.modify (Apart.refl _ before)).aloof_of_not_user (users isUser) notUser)
  | transfer found valid =>
    exact .aloof (handleZoneTransfer_apart.aloof_of_not_user (users (filed.user found)) notUser)
  | leave found =>
    exact .aloof (leaveWorld_apart.aloof_of_not_user (users (filed.user found)) notUser)
  | publish alloc free new =>
    exact .aloof ((publishUser_apart _ _).aloof_of_not_user (users rfl) notUser)
  | requeue =>
    next userId zoneId =>
    have queued : Apart (ObjID.user 0) before
        (before.enqueueByZone zoneId (.disconnect userId)) :=
      (Apart.refl _ before).enqueueByZone fun _ _ => rfl
    exact .aloof (queued.aloof_of_not_user (users rfl) notUser)
  | wound valid found alive member attacker survives =>
    exact .aloof ((Apart.modify (Apart.refl _ before)).aloof_of_not_user
      (monsters (filed.monster found)) notUser)
  | slay valid found alive member attacker killer fatal slays =>
    exact slain_handled valid (filed.monster found) unused slays number
  | spawn valid spawned => exact (spawnFieldItem_dropped valid unused spawned).handled number
  | pick found => exact removeFieldItem_handled found
  | hurt => exact .aloof (setStat_aloof_of_not_user filed notUser)
  | hide isUser =>
    exact .aloof ((Apart.removeObject (Apart.refl _ before)).aloof_of_not_user (users isUser) notUser)
  | mourn isUser =>
    exact .aloof ((Apart.scheduleAfter (Apart.refl _ before)).aloof_of_not_user (users isUser)
      notUser)
  | revive => exact .aloof (setStat_aloof_of_not_user filed notUser)
  | tend isMonster keeps =>
    exact .aloof ((Apart.modify (Apart.refl _ before)).aloof_of_not_user (monsters isMonster) notUser)
  | raise isMonster healed type =>
    exact .aloof ((Apart.modify (Apart.refl _ before)).aloof_of_not_user (monsters isMonster) notUser)
  | step valid found alive =>
    exact .aloof ((Apart.updatePosition (Apart.refl _ before)).aloof_of_not_user
      (monsters (filed.monster found)) notUser)
  | schedule isMonster kind =>
    exact .aloof ((Apart.scheduleAfter (Apart.refl _ before)).aloof_of_not_user (monsters isMonster)
      notUser)

/-- The numbers of items are handed out in order. -/
structure Numbering (world : World) : Prop where
  mapped : Mapped world
  unused : ∀ number, world.nextFieldItemId ≤ number → Unused (ObjID.item number) world

/-- Every operation leaves, drops or removes an item. -/
theorem Numbering.handled (numbering : Numbering before) (op : Op zone choice own before after)
    (number : Nat) : Handled zone number before after :=
  op.handled numbering.mapped.filed (numbering.unused _ (Nat.le_refl _)) number

theorem Op.numbering (op : Op zone choice own before after) (numbering : Numbering before) :
    Numbering after where
  mapped := op.mapped numbering.mapped
  unused number later :=
    (numbering.handled op number).unused
      (numbering.unused number ((op.nextFieldItemId_le numbering.mapped.filed).trans later)) later

/-- A registered item has a number that was handed out. -/
theorem Numbering.lt {core : Core} (numbering : Numbering world)
    (found : world.coreOf (ObjID.item number) = some core) : number < world.nextFieldItemId := by
  by_contra later
  rw [(numbering.unused number (Nat.not_lt.mp later)).core] at found
  contradiction

/-- An item that is gone stays away. -/
theorem exec_gone {thread : Nat} {task : Task} (numbering : Numbering world)
    (ran : world.exec thread choice task = some after)
    (missing : world.coreOf (ObjID.item number) = none)
    (numbered : number < world.nextFieldItemId) :
    after.coreOf (ObjID.item number) = none ∧ number < after.nextFieldItemId := by
  refine (Script.keeps (fun current => Numbering current ∧
    current.coreOf (ObjID.item number) = none ∧ number < current.nextFieldItemId) ?_
      (exec_script numbering.mapped.filed ran) ⟨numbering, missing, numbered⟩).2
  rintro before after op ⟨numbering, missing, numbered⟩
  exact ⟨op.numbering numbering, (numbering.handled op number).gone missing numbered,
    numbered.trans_le (op.nextFieldItemId_le numbering.mapped.filed)⟩

theorem exec_numbering {thread : Nat} {task : Task} (numbering : Numbering world)
    (ran : world.exec thread choice task = some after) : Numbering after :=
  Script.keeps Numbering (fun _ _ op => op.numbering) (exec_script numbering.mapped.filed ran)
    numbering

/-- Every item that was dropped and not taken lies in its zone. -/
structure Stored (world : World) : Prop where
  numbering : Numbering world
  shelves : ∀ number, Shelved number world

/-- Every operation keeps items on their shelves. -/
theorem Op.stored (op : Op zone choice own before after) (stored : Stored before) :
    Stored after where
  numbering := op.numbering stored.numbering
  shelves number := (stored.numbering.handled op number).shelved (stored.shelves number)

theorem exec_stored {thread : Nat} {task : Task} (stored : Stored world)
    (ran : world.exec thread choice task = some after) : Stored after :=
  Script.keeps Stored (fun _ _ op => op.stored) (exec_script stored.numbering.mapped.filed ran) stored

/-! ## The queue -/

theorem aloof_popped {thread : Nat} {task : Task} {rest : List Task}
    (queued : world.queues thread = task :: rest) (other : task.isEventOf id = false) :
    Aloof id world (world.popped thread rest) :=
  ⟨rfl, fun _ _ => Iff.rfl, course_popped queued other⟩

theorem mem_orders_of_popped {thread : Nat} {task : Task} {rest : List Task}
    (queued : world.queues thread = task :: rest) (isEvent : task.isEventOf id = true) :
    task ∈ (world.course id).orders thread := by
  rw [orders_popped_own queued isEvent, Function.update_self]
  exact List.mem_cons_self

theorem Numbering.popped {thread : Nat} {task : Task} {rest : List Task}
    (numbering : Numbering world) (queued : world.queues thread = task :: rest) :
    Numbering (world.popped thread rest) where
  mapped := numbering.mapped.congr rfl rfl rfl rfl
  unused number later := by
    have unused := numbering.unused number later
    apply unused.aloof (aloof_popped queued _)
    by_contra isEvent
    have waits := mem_orders_of_popped queued (Bool.eq_true_of_not_eq_false isEvent)
    rw [unused.orders] at waits
    contradiction

/-- Taking a task that is not the despawn of the item. -/
theorem Shelved.popped {thread : Nat} {task : Task} {rest : List Task}
    (shelved : Shelved number world) (queued : world.queues thread = task :: rest)
    (other : task.isEventOf (ObjID.item number) = true →
      task.rings TimerEventType.isDespawn = false) :
    Shelved number (world.popped thread rest) := by
  cases isEvent : task.isEventOf (ObjID.item number) with
  | false => exact shelved.aloof (aloof_popped queued isEvent)
  | true =>
    have orders := orders_popped_own queued isEvent
    have fewer : ∀ place, ∀ task ∈ ((world.popped thread rest).course
        (ObjID.item number)).orders place, task ∈ (world.course (ObjID.item number)).orders place := by
      intro place task member
      rw [orders, Function.update_apply]
      split
      · next here => exact List.mem_cons_of_mem _ (here ▸ member)
      · exact member
    intro core found
    rcases shelved core found with ⟨zone, lies⟩
    obtain rfl := lies.orders thread task (mem_orders_of_popped queued isEvent)
    refine ⟨thread, lies.valid, lies.tracked, lies.alarms,
      fun place task member => lies.orders place task (fewer place task member), ?_⟩
    have counted := lies.despawns
    rw [Course.outstanding, orders, Function.update_self,
      List.countP_cons_of_neg (by rw [other isEvent]; exact Bool.false_ne_true)] at counted
    exact counted

theorem getItem_of_coreOf {core : Core} (filed : Filed world)
    (found : world.coreOf (ObjID.item number) = some core) :
    ∃ subject item, world.getItem (ObjID.item number) = some (subject, item) := by
  rcases Option.map_eq_some_iff.mp found with ⟨subject, registered, _⟩
  have category := filed _ subject registered
  cases bodyOf : subject.body with
  | user user => simp [Subject.category, bodyOf] at category
  | monster monster => simp [Subject.category, bodyOf] at category
  | item item => exact ⟨subject, item, getItem_eq_some.mpr ⟨registered, bodyOf⟩⟩

/-- The despawn of an item takes it off the ground, unless it is gone already. -/
theorem despawn_core {thread : Nat} {targetId : ObjID} (filed : Filed world)
    (ran : world.timerTask thread choice .evItemDespawn (ObjID.item number) targetId =
      some after) : after.coreOf (ObjID.item number) = none := by
  rcases ifRegistered_eq_some.mp ran with ⟨missing, rfl⟩ | ⟨⟨⟨subject, item⟩, found⟩, _, rfl⟩
  · cases found : after.coreOf (ObjID.item number) with
    | none => rfl
    | some core =>
      rcases getItem_of_coreOf filed found with ⟨subject, item, present⟩
      exact absurd (missing.symm.trans present) (Option.some_ne_none _).symm
  · unfold handleDespawn
    rw [found]
    exact removeFieldItem_core

/-- The end of an item changes the item only. -/
theorem despawn_apart {thread : Nat} {itemId targetId : ObjID}
    (ran : world.timerTask thread choice .evItemDespawn itemId targetId = some after) :
    Apart itemId world after := by
  rcases ifRegistered_eq_some.mp ran with ⟨_, rfl⟩ | ⟨⟨⟨subject, item⟩, found⟩, _, rfl⟩
  · exact Apart.refl itemId after
  · unfold handleDespawn
    rw [found]
    exact removeFieldItem_apart

/-- An item whose time is over leaves its shelf. -/
theorem despawn_shelved {itemId targetId : ObjID} {thread : Nat} {rest : List Task}
    (filed : Filed (world.popped thread rest)) (shelves : ∀ number, Shelved number world)
    (queued : world.queues thread = .timer .evItemDespawn itemId targetId :: rest)
    (ran : (world.popped thread rest).timerTask thread choice .evItemDespawn itemId targetId =
      some after) (number : Nat) : Shelved number after := by
  by_cases same : ObjID.item number = itemId
  · subst same
    exact shelved_of_missing (despawn_core filed ran)
  · have waiting : Shelved number (world.popped thread rest) := by
      apply (shelves number).popped queued
      intro isEvent
      exact absurd (of_decide_eq_true isEvent).symm same
    exact waiting.aloof ((despawn_apart ran).aloof_of_not_user same (item_not_user number))

end World

namespace Server

open World

variable {collate : String → String} {number : Nat} {label : Label grid}
  {before after : Server collate}

theorem step_nextFieldItemId (taken : step label before = some after)
    (noTask : ∀ thread choice, label ≠ .run thread choice) :
    after.world.nextFieldItemId = before.world.nextFieldItemId := by
  cases label with
  | accept =>
    simp only [step, accept] at taken
    split at taken
    · exact Option.some.inj taken ▸ rfl
    · contradiction
  | receive session packet =>
    simp only [step, receive] at taken
    split at taken
    · exact Option.some.inj taken ▸ rfl
    · contradiction
  | hangUp session =>
    simp only [step, hangUp] at taken
    split at taken
    · split at taken
      · exact Option.some.inj taken ▸ rfl
      · exact Option.some.inj taken ▸ rfl
    · contradiction
  | fire index =>
    simp only [step, fire] at taken
    split at taken
    · contradiction
    · rw [← Option.some.inj taken]
      dsimp only
      rw [dispatchTimer_eq]
      rfl
  | database index calls written =>
    simp only [step, database] at taken
    split at taken
    · contradiction
    · split at taken
      · rw [← Option.some.inj taken]
        unfold handOver
        split <;> rfl
      · rw [← Option.some.inj taken]
        split <;> rfl
  | run thread choice => exact absurd rfl (noTask thread choice)

theorem fire_same {index : Nat} (taken : before.fire index = some after) :
    after.world.objects = before.world.objects ∧ after.world.cells = before.world.cells ∧
      after.world.nextFieldItemId = before.world.nextFieldItemId := by
  simp only [fire] at taken
  split at taken
  · contradiction
  · rw [← Option.some.inj taken]
    dsimp only
    rw [dispatchTimer_eq]
    exact ⟨rfl, rfl, rfl⟩

theorem fire_aloof {index : Nat} {event : TimerEvent} {id : ObjID}
    (taken : before.fire index = some after) (found : before.world.timers[index]? = some event)
    (other : event.subjectId ≠ id) : Aloof id before.world after.world := by
  rcases fire_same taken with ⟨objects, cells, _⟩
  exact ⟨by rw [coreOf, coreOf, objects], fun _ _ => by rw [cells], fire_other taken found other⟩

theorem fire_unused {index : Nat} {id : ObjID} (taken : before.fire index = some after)
    (unused : Unused id before.world) : Unused id after.world := by
  rcases exists_fired taken with ⟨event, found⟩
  apply unused.aloof (fire_aloof taken found _)
  intro subject
  have waits := mem_alarms found subject
  rw [unused.alarms] at waits
  contradiction

theorem fire_shelved {index : Nat} (taken : before.fire index = some after)
    (shelved : Shelved number before.world) : Shelved number after.world := by
  rcases exists_fired taken with ⟨event, found⟩
  by_cases subject : event.subjectId = ObjID.item number
  · rcases fire_same taken with ⟨objects, cells, _⟩
    intro core registered
    rw [coreOf, objects] at registered
    rcases shelved core registered with ⟨zone, lies⟩
    have moved := fire_stamped lies.valid (item_not_user number) taken found subject
      (lies.alarms event (mem_alarms found subject))
    refine ⟨zone, lies.valid, tracked_congr (fun _ _ => by rw [cells]) lies.tracked, ?_, ?_,
      (outstanding_fire _ found subject moved).trans lies.despawns⟩
    · intro other member
      rw [moved] at member
      rcases List.mem_filter.mp member with ⟨member, mine⟩
      exact lies.alarms other (List.mem_filter.mpr ⟨List.mem_of_mem_eraseIdx member, mine⟩)
    · intro place task member
      rw [moved] at member
      dsimp only at member
      rw [Function.update_apply] at member
      split at member
      · assumption
      · exact lies.orders place task member
  · exact shelved.aloof (fire_aloof taken found subject)

theorem step_numbering (taken : step label before = some after)
    (numbering : Numbering before.world) : Numbering after.world := by
  have counted := fun noTask => step_nextFieldItemId taken noTask
  cases label with
  | fire index =>
    refine ⟨step_mapped taken numbering.mapped, fun number later => ?_⟩
    rw [counted (by simp)] at later
    exact fire_unused taken (numbering.unused number later)
  | run thread choice =>
    simp only [step, runThread] at taken
    split at taken
    · contradiction
    · next task rest queued =>
      rcases Option.map_eq_some_iff.mp taken with ⟨world, ran, rfl⟩
      exact exec_numbering (numbering.popped queued) ran
  | _ =>
    refine ⟨step_mapped taken numbering.mapped, fun number later => ?_⟩
    rw [counted (by simp)] at later
    exact (numbering.unused number later).aloof
      (step_aloof taken (fun _ => by simp) fun _ _ => by simp)

theorem step_stored (taken : step label before = some after) (stored : Stored before.world) :
    Stored after.world := by
  refine ⟨step_numbering taken stored.numbering, fun number => ?_⟩
  cases label with
  | fire index => exact fire_shelved taken (stored.shelves number)
  | run thread choice =>
    simp only [step, runThread] at taken
    split at taken
    · contradiction
    · next task rest queued =>
      rcases Option.map_eq_some_iff.mp taken with ⟨world, ran, rfl⟩
      have here := stored.numbering.popped queued
      by_cases despawns : task.rings TimerEventType.isDespawn = true
      · cases task with
        | timer kind itemId targetId =>
          obtain rfl : kind = .evItemDespawn := of_decide_eq_true despawns
          exact despawn_shelved here.mapped.filed stored.shelves queued ran number
        | _ => contradiction
      · rw [Bool.not_eq_true] at despawns
        have waiting : Stored (before.world.popped thread rest) :=
          ⟨here, fun other => (stored.shelves other).popped queued fun _ => despawns⟩
        exact (exec_stored waiting ran).shelves number
  | _ =>
    exact (stored.shelves number).aloof
      (step_aloof taken (fun _ => by simp) fun _ _ => by simp)

theorem step_gone (taken : step label before = some after) (numbering : Numbering before.world)
    (missing : before.world.coreOf (ObjID.item number) = none)
    (numbered : number < before.world.nextFieldItemId) :
    after.world.coreOf (ObjID.item number) = none ∧ number < after.world.nextFieldItemId := by
  by_cases runs : ∃ thread choice, label = .run thread choice
  · rcases runs with ⟨thread, choice, rfl⟩
    simp only [step, runThread] at taken
    split at taken
    · contradiction
    · next task rest queued =>
      rcases Option.map_eq_some_iff.mp taken with ⟨world, ran, rfl⟩
      exact exec_gone (numbering.popped queued) ran missing numbered
  · have noTask : ∀ thread choice, label ≠ .run thread choice :=
      fun thread choice same => runs ⟨thread, choice, same⟩
    rw [coreOf, (step_objects taken noTask).1, step_nextFieldItemId taken noTask]
    exact ⟨missing, numbered⟩

theorem boot_stored (count : Nat) {draw : Nat → Int × Int} (valid : ValidDraws grid draw) :
    Stored (World.boot count draw) := by
  have booted := boot_booted count valid
  have differs : ∀ number index, ObjID.item number ≠ ObjID.monster index :=
    fun _ _ same => EnumCategory.noConfusion (congrArg ObjID.category same)
  have missing : ∀ number, (World.boot count draw).coreOf (ObjID.item number) = none := by
    intro number
    rw [coreOf, Option.map_eq_none_iff]
    by_contra registered
    rcases booted.only _ registered with ⟨index, _, same⟩
    exact differs _ _ same
  refine ⟨⟨boot_mapped count draw, fun number _ => ⟨missing number, ?_, ?_, ?_⟩⟩,
    fun number => shelved_of_missing (missing number)⟩
  · intro zone sector member
    rcases (booted.cells zone sector _).mp member with ⟨index, _, same, _⟩
    exact differs _ _ same
  · rw [course, World.alarms, booted.timers]
    rfl
  · intro thread
    change ((World.boot count draw).queues thread).filter _ = []
    rw [booted.queues]
    rfl

/-- Items are on their shelves in every state. -/
theorem run_stored {count : Nat} {draw : Nat → Int × Int} {store : Store collate}
    {labels : List (Label grid)} {server : Server collate} (valid : ValidDraws grid draw)
    (ran : run step labels (boot count draw store) = some server) : Stored server.world :=
  invariant_of_run (fun _ _ _ taken stored => step_stored taken stored) ran
    (boot_stored count valid)

end Server

end Mmorpg
