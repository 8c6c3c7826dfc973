import Mmorpg.World.Contact
import Mmorpg.World.Boot

/-!
# Monsters stay in their zone

The zone of a monster is the zone whose `InitForZone` created it.  A monster
stands there, only the grid there holds it, and its events are stamped with it
and queued there.  These facts support each other: an event moves the monster
inside the zone of the thread it runs on, and that thread stamps the next event.
-/

namespace Mmorpg

open ZoneLayout Transition

variable {grid : CollisionGrid}

namespace World

/-- The monster and everything that is pending for it belong to the zone
`home`. -/
structure Homed (home : Nat) (id : ObjID) (world : World) : Prop where
  stands : ∀ transform monster, world.coreOf id = some (.monster transform monster) →
    transform.zoneId = home ∧ getZoneIdByWorld transform.x transform.y = home ∧
      Tracked home id transform world
  buried : ∀ transform monster, world.coreOf id = some (.monster transform monster) →
    monster.stat.dead = true → ∀ zone sector, id ∉ world.cells zone sector
  alarms : ∀ event ∈ (world.course id).alarms,
    event.zoneId = home ∧ event.event.isMonsters = true
  orders : ∀ thread, ∀ task ∈ (world.course id).orders thread,
    thread = home ∧ task.rings TimerEventType.isMonsters = true

variable {home zone thread : Nat} {choice : Choice grid} {own id : ObjID} {world before after : World}

theorem modify_eq_self {change : Subject → Subject}
    (same : (world.objects id).map change = world.objects id) : world.modify id change = world := by
  rw [modify, same, Function.update_eq_self]

theorem modifyMonster_missing {change : Monster → Monster} (missing : world.getMonster id = none) :
    world.modifyMonster id change = world := by
  apply modify_eq_self
  cases found : world.objects id with
  | none => rfl
  | some subject =>
    cases bodyOf : subject.body with
    | user user => simp [bodyOf]
    | monster monster =>
      rw [getMonster_eq_some.mpr ⟨found, bodyOf⟩] at missing
      contradiction
    | item item => simp [bodyOf]

/-- The cell an object is in depends on the cells. -/
theorem tracked_congr {transform : Transform} (cells : ∀ zone sector,
      id ∈ after.cells zone sector ↔ id ∈ before.cells zone sector)
    (tracked : Tracked zone id transform before) : Tracked zone id transform after :=
  fun otherZone sector => (cells otherZone sector).trans (tracked otherZone sector)

/-- What does not touch the monster leaves it at home. -/
theorem Homed.aloof (homed : Homed home id before) (aloof : Aloof id before after) :
    Homed home id after where
  stands transform monster found := by
    rw [aloof.core] at found
    rcases homed.stands transform monster found with ⟨zoneId, inZone, tracked⟩
    exact ⟨zoneId, inZone, tracked_congr aloof.cells tracked⟩
  buried transform monster found dead zone sector member := by
    rw [aloof.core] at found
    exact homed.buried transform monster found dead zone sector ((aloof.cells zone sector).mp member)
  alarms := by
    rw [aloof.course]
    exact homed.alarms
  orders := by
    rw [aloof.course]
    exact homed.orders

/-- A cell that holds a registered monster is a cell of its zone. -/
theorem Homed.zone_of_mem {subject : Subject} {monster : Monster} {sector : SectorCoord}
    (homed : Homed home id world) (found : world.getMonster id = some (subject, monster))
    (member : id ∈ world.cells zone sector) : zone = home :=
  (((homed.stands _ _ (coreOf_of_getMonster found)).2.2 zone sector).mp member).1

/-- A monster that stands as before, with another body. -/
theorem Homed.changed {transform : Transform} {old new : Monster} (homed : Homed home id before)
    (found : before.coreOf id = some (.monster transform old))
    (changed : after.coreOf id = some (.monster transform new))
    (cells : after.cells = before.cells)
    (lives : new.stat.dead = true → old.stat.dead = true)
    (alarms : (after.course id).alarms = (before.course id).alarms)
    (orders : (after.course id).orders = (before.course id).orders) : Homed home id after where
  stands transform current now := by
    obtain ⟨rfl, rfl⟩ := Core.monster.inj (Option.some.inj (changed.symm.trans now))
    rcases homed.stands _ _ found with ⟨zoneId, inZone, tracked⟩
    exact ⟨zoneId, inZone, tracked_congr (fun _ _ => by rw [cells]) tracked⟩
  buried transform current now dead := by
    obtain ⟨rfl, rfl⟩ := Core.monster.inj (Option.some.inj (changed.symm.trans now))
    rw [cells]
    exact homed.buried _ _ found (lives dead)
  alarms := by
    rw [alarms]
    exact homed.alarms
  orders := by
    rw [orders]
    exact homed.orders

theorem Homed.modifyMonster {change : Monster → Monster} {subject : Subject} {monster : Monster}
    (homed : Homed home id world) (found : world.getMonster id = some (subject, monster))
    (lives : (change monster).stat.dead = true → monster.stat.dead = true) :
    Homed home id (world.modifyMonster id change) := by
  have core := coreOf_of_getMonster found
  exact homed.changed core (coreOf_modifyMonster core) rfl lives rfl rfl

/-- Only the pending events changed. -/
theorem Homed.repend (homed : Homed home id before) (core : after.coreOf id = before.coreOf id)
    (cells : after.cells = before.cells)
    (alarms : ∀ event ∈ (after.course id).alarms,
      event.zoneId = home ∧ event.event.isMonsters = true)
    (orders : ∀ thread, ∀ task ∈ (after.course id).orders thread,
      thread = home ∧ task.rings TimerEventType.isMonsters = true) : Homed home id after where
  stands transform monster found := by
    rw [core] at found
    rcases homed.stands transform monster found with ⟨zoneId, inZone, tracked⟩
    exact ⟨zoneId, inZone, tracked_congr (fun _ _ => by rw [cells]) tracked⟩
  buried transform monster found := by
    rw [core] at found
    rw [cells]
    exact homed.buried transform monster found
  alarms := alarms
  orders := orders

/-- An event of a monster at home is stamped with its home. -/
theorem Homed.scheduleAfter {delay : Nat} {event : TimerEventType} {targetId : ObjID}
    (homed : Homed home id world) (kind : event.isAct = true) :
    Homed home id (world.scheduleAfter home id delay event targetId) := by
  refine homed.repend rfl rfl ?_ ?_
  · intro added member
    rw [course_alarm, Course.alarm, List.mem_append, List.mem_singleton] at member
    rcases member with old | rfl
    · exact homed.alarms added old
    · exact ⟨rfl, by rw [TimerEventType.isMonsters, kind, Bool.true_or]⟩
  · exact homed.orders

theorem Homed.updatePosition {x y : Int} {subject : Subject} {monster : Monster}
    (valid : isValidZoneId home = true) (homed : Homed home id world)
    (found : world.getMonster id = some (subject, monster)) (alive : monster.stat.dead = false) :
    Homed home id (world.updatePosition home id x y) := by
  by_cases inZone : getZoneIdByWorld x y = home
  · have same : (world.updatePosition home id x y).course id = world.course id :=
      course_updatePosition
    rcases homed.stands _ _ (coreOf_of_getMonster found) with ⟨_, _, tracked⟩
    rw [getMonster_eq_some] at found
    have settled := updatePosition_settled valid found.1 inZone
    have core : (world.updatePosition home id x y).coreOf id =
        some (.monster (subject.placedAt home x y).transform monster) := by
      rw [coreOf, settled.objects, Function.update_self, Option.map_some, Subject.core]
      simp [Subject.placedAt, found.2]
    constructor
    case stands =>
      intro transform current now
      obtain ⟨rfl, rfl⟩ := Core.monster.inj (Option.some.inj (core.symm.trans now))
      refine ⟨rfl, inZone, ?_⟩
      intro otherZone sector
      rw [settled.own tracked]
      constructor
      · rintro ⟨rfl, rfl⟩
        exact ⟨rfl, rfl, isValidSector_of_zone valid inZone⟩
      · rintro ⟨here, sameSector, _⟩
        exact ⟨here, sameSector⟩
    case buried =>
      intro transform current now dead
      obtain ⟨rfl, rfl⟩ := Core.monster.inj (Option.some.inj (core.symm.trans now))
      rw [alive] at dead
      contradiction
    case alarms =>
      rw [same]
      exact homed.alarms
    case orders =>
      rw [same]
      exact homed.orders
  · rw [updatePosition_outside valid inZone]
    exact homed

/-- A task that touches the monster leaves it at home. -/
theorem Contact.homed (contact : Contact zone choice own id before after)
    (category : id.category = .eMonster) (here : own = id → zone = home)
    (homed : Homed home id before) : Homed home id after := by
  cases contact with
  | wake valid member =>
    next wakerId forceWake sector =>
    rcases wakeUpMonster_cases zone id wakerId forceWake before with
      same | ⟨subject, monster, targetId, found, alive, resting, woken⟩
    · rw [same]
      exact homed
    · rw [woken, homed.zone_of_mem found member]
      apply (homed.modifyMonster found fun dead => dead).scheduleAfter
      cases monster.type <;> rfl
  | wound valid found alive member attacker survives =>
    apply homed.modifyMonster found
    intro dead
    rw [Stat.takeDamage_dead, alive, Bool.or_false, decide_eq_true_eq,
      ← Stat.takeDamage_hp_eq_zero_iff] at dead
    omega
  | slay valid found alive member attacker fatal slays =>
    obtain rfl := homed.zone_of_mem found member
    rcases homed.stands _ _ (coreOf_of_getMonster found) with ⟨zoneId, inZone, tracked⟩
    have core := slain_core found (by rw [category]; exact EnumCategory.noConfusion) slays
    have course := slain_course found category slays
    have cells := slain_cells category tracked slays
    constructor
    case stands =>
      intro transform current now
      obtain ⟨rfl, rfl⟩ := Core.monster.inj (Option.some.inj (core.symm.trans now))
      refine ⟨?_, ?_, ?_⟩
      · split <;> exact zoneId
      · split <;> exact inZone
      · intro otherZone sector
        constructor
        · exact fun member => absurd member (cells otherZone sector)
        · rintro ⟨_, rfl, validSector⟩
          split at validSector
          · rw [isValidSector_unassigned valid] at validSector
            contradiction
          · next invalid => exact absurd validSector invalid
    case buried => exact fun _ _ _ _ => cells
    case alarms =>
      intro event member
      rw [course, Course.alarm, List.mem_append, List.mem_singleton] at member
      rcases member with old | rfl
      · exact homed.alarms event old
      · exact ⟨rfl, rfl⟩
    case orders =>
      rw [course]
      exact homed.orders
  | tend isOwn keeps =>
    cases found : before.getMonster id with
    | none =>
      rw [modifyMonster_missing found]
      exact homed
    | some entry =>
      apply homed.modifyMonster found
      intro dead
      rw [(keeps entry.1 entry.2 found).stat] at dead
      exact dead
  | raise isOwn healed type =>
    cases found : before.getMonster id with
    | none =>
      rw [modifyMonster_missing found]
      exact homed
    | some entry =>
      apply homed.modifyMonster found
      intro dead
      rw [(healed entry.2).2] at dead
      contradiction
  | step isOwn valid found alive =>
    obtain rfl := here isOwn
    exact homed.updatePosition valid found alive
  | schedule isOwn kind =>
    rw [here isOwn]
    exact homed.scheduleAfter kind

theorem Op.homed (op : Op zone choice own before after) (filed : Filed before)
    (category : id.category = .eMonster) (here : own = id → zone = home)
    (homed : Homed home id before) : Homed home id after := by
  rcases op.aloof_or_contact filed category with aloof | contact
  · exact homed.aloof aloof
  · exact contact.homed category here homed

/-- A task about the monster that runs at home keeps it there. -/
theorem exec_homed {task : Task} (ran : world.exec thread choice task = some after)
    (category : id.category = .eMonster) (here : task.own = id → thread = home)
    (mapped : Mapped world) (homed : Homed home id world) : Homed home id after :=
  (Script.keeps (fun world => Mapped world ∧ Homed home id world)
    (fun _ _ op both => ⟨op.mapped both.1, op.homed both.1.filed category here both.2⟩)
    (exec_script mapped.filed ran) ⟨mapped, homed⟩).2

/-! ## Steps of the server -/

theorem threadOf_valid (valid : isValidZoneId zone = true) : threadOf zone = zone :=
  if_pos valid

theorem Homed.popped {task : Task} {rest : List Task} (homed : Homed home id world)
    (queued : world.queues thread = task :: rest) : Homed home id (world.popped thread rest) := by
  refine homed.repend rfl rfl homed.alarms ?_
  intro place other member
  apply homed.orders place other
  cases own : task.isEventOf id with
  | false =>
    rw [course_popped queued own] at member
    exact member
  | true =>
    rw [orders_popped_own queued own, Function.update_apply]
    split
    · next here =>
      subst here
      exact List.mem_cons_of_mem task member
    · exact member

theorem Homed.fire {index : Nat} {event : TimerEvent} (homed : Homed home id world)
    (valid : isValidZoneId home = true) (category : id.category = .eMonster)
    (found : world.timers[index]? = some event) :
    Homed home id (Server.dispatchTimer event
      { world with timers := world.timers.eraseIdx index }) := by
  have erased : Homed home id { world with timers := world.timers.eraseIdx index } := by
    refine homed.repend rfl rfl ?_ homed.orders
    intro pending member
    apply homed.alarms
    rw [course, World.alarms, List.mem_filter] at member ⊢
    exact ⟨List.mem_of_mem_eraseIdx member.1, member.2⟩
  rw [Server.dispatchTimer_eq]
  by_cases subject : event.subjectId = id
  · have own : (Task.timer event.event event.subjectId event.targetId).isEventOf id = true := by
      rw [Task.isEventOf, subject, decide_eq_true_eq]
    have stamped : event.zoneId = home ∧ event.event.isMonsters = true := by
      apply homed.alarms
      rw [course, World.alarms, List.mem_filter, decide_eq_true_eq]
      exact ⟨List.mem_of_getElem? found, subject⟩
    have zoneOf : Server.timerZone event { world with timers := world.timers.eraseIdx index } =
        home := by
      rw [Server.timerZone, if_pos ⟨by rw [subject, category]; decide, by rw [stamped.1]; exact valid⟩,
        stamped.1]
    rw [zoneOf]
    refine erased.repend rfl rfl erased.alarms ?_
    intro place task member
    rw [course_enqueueByZone_own home own, threadOf_valid valid] at member
    dsimp only at member
    rw [Function.update_apply] at member
    split at member
    · next here =>
      rcases List.mem_append.mp member with old | new
      · exact erased.orders home task old |>.imp_left fun _ => here
      · rw [List.mem_singleton.mp new]
        exact ⟨here, stamped.2⟩
    · exact erased.orders place task member
  · have other : (Task.timer event.event event.subjectId event.targetId).isEventOf id = false := by
      rw [Task.isEventOf, decide_eq_false_iff_not]
      exact subject
    refine erased.repend rfl rfl erased.alarms ?_
    rw [course_enqueueByZone _ other]
    exact erased.orders

/-- A task of the monster itself comes from one of its events. -/
theorem event_of_own {task : Task} (category : id.category = .eMonster) (own : task.own = id) :
    ∃ kind targetId, task = .timer kind id targetId ∧ kind.isMonsters = true := by
  have elsewhere : ∀ other : ObjID, other.category ≠ .eMonster → other ≠ id := by
    rintro other different rfl
    exact different category
  have notUser := fun session => elsewhere (ObjID.user session) EnumCategory.noConfusion
  have notNobody := elsewhere ObjID.npos EnumCategory.noConfusion
  cases task with
  | dispatch session packet => cases packet <;> first | exact absurd own (notUser _) | exact absurd own notNobody
  | timer event subjectId targetId =>
    cases event with
    | evRandomMove => exact ⟨_, _, congrArg (Task.timer .evRandomMove · targetId) own, rfl⟩
    | evMonsterRespawn => exact ⟨_, _, congrArg (Task.timer .evMonsterRespawn · targetId) own, rfl⟩
    | evMonsterAttackToUser =>
      exact ⟨_, _, congrArg (Task.timer .evMonsterAttackToUser · targetId) own, rfl⟩
    | evAggroMove => exact ⟨_, _, congrArg (Task.timer .evAggroMove · targetId) own, rfl⟩
    | _ => exact absurd own notNobody
  | _ => exact absurd own notNobody

/-- The monster's own events run at home only. -/
theorem Homed.thread_eq {task : Task} {rest : List Task} (homed : Homed home id world)
    (category : id.category = .eMonster) (queued : world.queues thread = task :: rest)
    (own : task.own = id) : thread = home := by
  rcases event_of_own category own with ⟨kind, targetId, rfl, _⟩
  have isEvent : (Task.timer kind id targetId).isEventOf id = true := decide_eq_true rfl
  apply (homed.orders thread (.timer kind id targetId) _).1
  rw [orders_popped_own queued isEvent, Function.update_self]
  exact List.mem_cons_self

/-- On the thread of another zone nothing reaches the monster. -/
theorem Contact.elsewhere (contact : Contact zone choice own id before after)
    (homed : Homed home id before) (different : zone ≠ home) (other : own ≠ id) :
    Aloof id before after := by
  cases contact with
  | wake valid member =>
    next wakerId forceWake sector =>
    rcases wakeUpMonster_cases zone id wakerId forceWake before with
      same | ⟨subject, monster, targetId, found, _⟩
    · rw [same]
      exact ⟨rfl, fun _ _ => Iff.rfl, rfl⟩
    · exact absurd (homed.zone_of_mem found member) different
  | wound valid found alive member => exact absurd (homed.zone_of_mem found member) different
  | slay valid found alive member => exact absurd (homed.zone_of_mem found member) different
  | tend isOwn => exact absurd isOwn other
  | raise isOwn => exact absurd isOwn other
  | step isOwn => exact absurd isOwn other
  | schedule isOwn => exact absurd isOwn other

/-- A task of another subject does not touch the monster. -/
theorem exec_elsewhere {task : Task} (ran : world.exec thread choice task = some after)
    (category : id.category = .eMonster) (different : thread ≠ home) (other : task.own ≠ id)
    (mapped : Mapped world) (homed : Homed home id world) : Aloof id world after := by
  refine (Script.keeps (fun current => (Mapped current ∧ Homed home id current) ∧
    Aloof id world current) ?_ (exec_script mapped.filed ran) ?_).2
  · rintro before after op ⟨⟨mapped, homed⟩, sofar⟩
    refine ⟨⟨op.mapped mapped, op.homed mapped.filed category ?_ homed⟩, sofar.trans ?_⟩
    · exact fun own => absurd own other
    · rcases op.aloof_or_contact mapped.filed category with aloof | contact
      · exact aloof
      · exact contact.elsewhere homed different other
  · exact ⟨⟨mapped, homed⟩, rfl, fun _ _ => Iff.rfl, rfl⟩

/-! ## Start of the server -/

theorem boot_homed (count : Nat) {draw : Nat → Int × Int} (valid : ValidDraws grid draw) (id : ObjID) :
    Homed (homeZone id) id (boot count draw) := by
  have booted := boot_booted count valid
  have standing : ∀ transform monster,
      (boot count draw).coreOf id = some (.monster transform monster) → ∃ index ∈ bootOrder count,
        id = ObjID.monster (monsterIdStart + index) ∧
          Core.monster transform monster = (bootMonster draw index).core := by
    intro transform monster found
    rcases Option.map_eq_some_iff.mp found with ⟨subject, registered, core⟩
    rcases booted.only id (by rw [registered]; exact Option.some_ne_none subject) with
      ⟨index, member, rfl⟩
    rw [booted.monsters index member] at registered
    exact ⟨index, member, rfl, by rw [Option.some.inj registered, core]⟩
  constructor
  case stands =>
    intro transform monster found
    rcases standing transform monster found with ⟨index, member, rfl, core⟩
    obtain ⟨rfl, rfl⟩ := Core.monster.inj core
    rw [homeZone_monster]
    refine ⟨rfl, (valid index).1, ?_⟩
    intro zone sector
    rw [booted.cells]
    constructor
    · rintro ⟨other, _, same, rfl, rfl⟩
      have equal : index = other := by simpa [ObjID.monster] using same
      subst equal
      refine ⟨rfl, rfl, ?_⟩
      exact isValidSector_of_zone ((isValidZoneId_iff _).mpr (Nat.mod_lt _ (by decide)))
        (valid index).1
    · rintro ⟨rfl, rfl, _⟩
      exact ⟨index, member, rfl, rfl, rfl⟩
  case buried =>
    intro transform monster found dead
    rcases standing transform monster found with ⟨index, member, rfl, core⟩
    obtain ⟨rfl, rfl⟩ := Core.monster.inj core
    contradiction
  case alarms =>
    intro event member
    rw [course, World.alarms, booted.timers] at member
    contradiction
  case orders =>
    intro thread task member
    have queued : task ∈ ((boot count draw).queues thread).filter (Task.isEventOf id) := member
    rw [booted.queues] at queued
    contradiction

end World

namespace Server

open World

variable {collate : String → String} {home : Nat} {id : ObjID} {label : Label grid}
  {before after : Server collate}

/-- Connections, packets and the database do not reach monsters. -/
theorem step_aloof (taken : step label before = some after) (noFire : ∀ index, label ≠ .fire index)
    (noRun : ∀ thread choice, label ≠ .run thread choice) : Aloof id before.world after.world := by
  rcases step_objects taken noRun with ⟨objects, cells⟩
  refine ⟨by rw [coreOf, coreOf, objects], fun _ _ => by rw [cells], ?_⟩
  cases label with
  | accept =>
    simp only [step, accept] at taken
    split at taken
    · exact Option.some.inj taken ▸ rfl
    · contradiction
  | receive session packet =>
    simp only [step, receive] at taken
    split at taken
    · exact Option.some.inj taken ▸ course_enqueueByZone _ rfl
    · contradiction
  | hangUp session =>
    simp only [step, hangUp] at taken
    split at taken
    · split at taken
      · exact Option.some.inj taken ▸ course_enqueueByZone _ rfl
      · exact Option.some.inj taken ▸ course_enqueueByZone _ rfl
    · contradiction
  | fire index => exact absurd rfl (noFire index)
  | database index calls written =>
    simp only [step, database] at taken
    split at taken
    · contradiction
    · split at taken
      · rw [← Option.some.inj taken]
        unfold handOver
        split
        · rfl
        · rfl
        · exact course_enqueueByZone _ rfl
        · exact course_enqueueByZone _ rfl
      · rw [← Option.some.inj taken]
        split <;> rfl
  | run thread choice => exact absurd rfl (noRun thread choice)

theorem step_homed (valid : isValidZoneId home = true) (category : id.category = .eMonster)
    (taken : step label before = some after) (mapped : Mapped before.world)
    (homed : Homed home id before.world) : Homed home id after.world := by
  cases label with
  | fire index =>
    simp only [step, fire] at taken
    split at taken
    · contradiction
    · next event found =>
      rw [← Option.some.inj taken]
      exact homed.fire valid category found
  | run thread choice =>
    simp only [step, runThread] at taken
    split at taken
    · contradiction
    · next task rest queued =>
      rcases Option.map_eq_some_iff.mp taken with ⟨world, ran, rfl⟩
      exact exec_homed ran category (homed.thread_eq category queued)
        (mapped.congr rfl rfl rfl rfl) (homed.popped queued)
  | _ => exact homed.aloof (step_aloof taken (fun _ => by simp) fun _ _ => by simp)

/-- Monsters are at home in every state. -/
theorem run_homed {count : Nat} {draw : Nat → Int × Int} {store : Store collate}
    {labels : List (Label grid)} {server : Server collate} (valid : ValidDraws grid draw)
    (category : id.category = .eMonster)
    (ran : run step labels (boot count draw store) = some server) :
    Homed (homeZone id) id server.world := by
  have stepwise : ∀ (label : Label grid) (before after : Server collate), step label before = some after →
      Mapped before.world ∧ Homed (homeZone id) id before.world →
        Mapped after.world ∧ Homed (homeZone id) id after.world :=
    fun _ _ _ taken both => ⟨step_mapped taken both.1,
      step_homed (isValidZoneId_homeZone id) category taken both.1 both.2⟩
  exact (invariant_of_run stepwise ran ⟨boot_mapped count draw, boot_homed count valid id⟩).2

/-! ## The result -/

/-- Where a monster is, and where its events are handled. -/
structure AtHome (id : ObjID) (world : World) : Prop where
  position : ∀ subject monster, world.getMonster id = some (subject, monster) →
    getZoneIdByWorld subject.x subject.y = homeZone id ∧
      subject.transform.zoneId = homeZone id ∧ world.getObjectZone id = homeZone id
  cell : ∀ zone sector, id ∈ world.cells zone sector →
    zone = homeZone id ∧ Sector.isValidSector (homeZone id) sector = true
  hint : ∀ event ∈ world.timers, event.subjectId = id →
    event.zoneId = homeZone id ∧ timerZone event world = homeZone id
  thread : ∀ thread, ∀ task ∈ world.queues thread, task.isEventOf id = true →
    thread = homeZone id

/-- A monster at home has its position, cell, hint and thread there. -/
theorem atHome_of_homed {world : World} {subject : Subject} {monster : Monster}
    (mapped : Mapped world) (homed : Homed (homeZone id) id world)
    (found : world.getMonster id = some (subject, monster)) : AtHome id world := by
  have category := mapped.filed.monster found
  have stands := homed.stands _ _ (coreOf_of_getMonster found)
  constructor
  case position =>
    intro shown current same
    obtain ⟨rfl, rfl⟩ := Prod.mk.inj (Option.some.inj (found.symm.trans same))
    refine ⟨stands.2.1, stands.1, ?_⟩
    rw [← mapped.zonesAgree.zones id subject (getMonster_eq_some.mp found).1, stands.1]
  case cell =>
    intro zone sector member
    rcases (stands.2.2 zone sector).mp member with ⟨here, _, validSector⟩
    exact ⟨here, validSector⟩
  case hint =>
    intro event member subject
    have stamped : event.zoneId = homeZone id := by
      apply (homed.alarms event _).1
      exact List.mem_filter.mpr ⟨member, decide_eq_true subject⟩
    refine ⟨stamped, ?_⟩
    rw [timerZone, if_pos, stamped]
    rw [subject, category, stamped]
    exact ⟨by decide, isValidZoneId_homeZone id⟩
  case thread =>
    intro thread task member isEvent
    exact (homed.orders thread task (List.mem_filter.mpr ⟨member, isEvent⟩)).1

/-- A step that is not one of the home thread neither moves nor wakes nor hurts
the monster, and schedules nothing for it. -/
theorem step_elsewhere (category : id.category = .eMonster)
    (taken : step label before = some after) (elsewhere : ∀ choice, label ≠ .run home choice)
    (mapped : Mapped before.world) (homed : Homed home id before.world) :
    after.world.coreOf id = before.world.coreOf id ∧
      (∀ zone sector, id ∈ after.world.cells zone sector ↔ id ∈ before.world.cells zone sector) ∧
        after.world.alarms id ⊆ before.world.alarms id := by
  cases label with
  | fire index =>
    simp only [step, fire] at taken
    split at taken
    · contradiction
    · next event found =>
      rw [← Option.some.inj taken]
      dsimp only
      rw [dispatchTimer_eq]
      refine ⟨rfl, fun _ _ => Iff.rfl, ?_⟩
      intro pending member
      rcases List.mem_filter.mp member with ⟨kept, own⟩
      exact List.mem_filter.mpr ⟨List.mem_of_mem_eraseIdx kept, own⟩
  | run thread choice =>
    simp only [step, runThread] at taken
    split at taken
    · contradiction
    · next task rest queued =>
      rcases Option.map_eq_some_iff.mp taken with ⟨world, ran, rfl⟩
      have different : thread ≠ home := by
        rintro rfl
        exact elsewhere choice rfl
      have aloof := exec_elsewhere ran category different
        (fun own => different (homed.thread_eq category queued own))
        (mapped.congr rfl rfl rfl rfl) (homed.popped queued)
      refine ⟨aloof.core, aloof.cells, ?_⟩
      have alarms : world.alarms id = before.world.alarms id := congrArg Course.alarms aloof.course
      rw [alarms]
      exact List.Subset.refl _
  | _ =>
    have aloof : Aloof id before.world after.world :=
      step_aloof taken (fun _ => by simp) fun _ _ => by simp
    refine ⟨aloof.core, aloof.cells, ?_⟩
    have alarms : after.world.alarms id = before.world.alarms id :=
      congrArg Course.alarms aloof.course
    rw [alarms]
    exact List.Subset.refl _

/-- Every monster stays in the zone that created it, wherever its next step is
aimed; its events are stamped with that zone and queued there, and no other
thread touches it. -/
theorem monsters_at_home {count : Nat} {draw : Nat → Int × Int} {store : Store collate}
    {labels : List (Label grid)} {server : Server collate} (valid : ValidDraws grid draw)
    (ran : run step labels (boot count draw store) = some server) {subject : Subject}
    {monster : Monster} (found : server.world.getMonster id = some (subject, monster)) :
    AtHome id server.world ∧
      (monster.stat.dead = false → ∀ x y,
        AtHome id (server.world.updatePosition (homeZone id) id x y)) ∧
      ∀ (label : Label grid) next, step label server = some next →
        (∀ choice, label ≠ .run (homeZone id) choice) →
          next.world.coreOf id = server.world.coreOf id ∧
            (∀ zone sector,
              id ∈ next.world.cells zone sector ↔ id ∈ server.world.cells zone sector) ∧
            next.world.alarms id ⊆ server.world.alarms id := by
  have mapped := run_mapped ran
  have category := mapped.filed.monster found
  have homed := run_homed valid category ran
  refine ⟨atHome_of_homed mapped homed found, ?_, ?_⟩
  · intro alive x y
    have validHome := isValidZoneId_homeZone id
    have moved : Homed (homeZone id) id (server.world.updatePosition (homeZone id) id x y) :=
      homed.updatePosition validHome found alive
    have kept : (server.world.updatePosition (homeZone id) id x y).moodOf id =
        some monster.mood :=
      (congrArg Course.mood course_updatePosition).trans (moodOf_of_getMonster found)
    rcases moodOf_eq_some.mp kept with ⟨shown, current, standing, _⟩
    exact atHome_of_homed (updatePosition_mapped validHome mapped) moved standing
  · intro label next taken elsewhere
    exact step_elsewhere category taken elsewhere mapped homed

/-- A player logs in next to a monster, which wakes up and moves once. -/
def encounter : List (Label initCollisionTile) :=
  [.accept, .receive 1 (.userLoginReq "kim" ""), .run invalidZoneId .steady, .database 0 {} true,
    .run 0 .steady, .fire 1, .run 0 .steady]

/-- A user meets a monster. -/
theorem monsters_at_home_sample :
    ∃ server, run step encounter (boot 1 World.steadyDraw World.savedStore) = some server ∧
      server.world.timers.length = 2 ∧ AtHome (ObjID.monster monsterIdStart) server.world := by
  have completes :
      (run step encounter (boot 1 World.steadyDraw World.savedStore)).isSome := by rfl
  rcases Option.isSome_iff_exists.mp completes with ⟨server, ran⟩
  have present : (server.world.getMonster (ObjID.monster monsterIdStart)).isSome := by
    obtain rfl := Option.some.inj ran
    rfl
  rcases Option.isSome_iff_exists.mp present with ⟨⟨subject, monster⟩, found⟩
  refine ⟨server, ran, ?_, (monsters_at_home World.steadyDraw_valid ran found).1⟩
  obtain rfl := Option.some.inj ran
  rfl

end Server

end Mmorpg
