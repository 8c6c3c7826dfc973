import Mmorpg.World.Tempo
import Mmorpg.World.LifeCycle
import Mmorpg.World.Outpost

/-!
# Every monster has one chain of events

Over whole runs of the timed server, a monster has at most one move and one
attack outstanding, as long as no handler resets a flag whose event is still
pending.
-/

namespace Mmorpg

open ZoneLayout Transition

variable {grid : CollisionGrid}

namespace World

variable {zone : Nat} {choice : Choice grid} {id targetId : ObjID} {world : World} {subject : Subject}
  {monster : Monster}

/-- The chase takes a branch that clears the attack flag: the target is gone,
or the monster is at a zone border or at the end of its leash. -/
def aggroCalms (monsterId targetId : ObjID) (world : World) : Bool :=
  match world.getMonster monsterId, world.objects targetId with
  | some (subject, monster), some target =>
      !world.isChasable subject targetId ∨ aggroPlan subject monster target = .stop ∨
        aggroPlan subject monster target = .returnToSpawn
  | _, _ => true

/-- An attack that does not kill leaves the monster active. -/
theorem handleAttackToPlayer_active {playerId : ObjID} (filed : Filed world)
    (found : world.getMonster id = some (subject, monster))
    (spared : world.attackKills id playerId = false) {now : Mood}
    (becomes : ((world.handleAttackToPlayer zone choice id playerId).course id).mood = some now) :
    now.active = monster.active := by
  cases holds : world.attackHolds id playerId with
  | true =>
    rcases handleAttackToPlayer_holds zone choice filed found holds with ⟨kills, _⟩ | survived
    · exact absurd (spared.symm.trans kills) Bool.false_ne_true
    · rw [survived] at becomes
      rw [← Option.some.inj becomes]
      rfl
  | false =>
    rcases handleAttackToPlayer_fails zone choice found holds with missed | absent
    · rw [missed] at becomes
      rw [← Option.some.inj becomes]
      rfl
    · rw [absent] at becomes
      rw [← Option.some.inj ((moodOf_of_getMonster found).symm.trans becomes)]
      rfl

/-- A chase that goes on leaves the attack flag. -/
theorem handleAggroMove_attack (filed : Filed world)
    (found : world.getMonster id = some (subject, monster)) (alive : monster.stat.dead = false)
    (spared : world.aggroCalms id targetId = false) {now : Mood}
    (becomes : ((world.handleAggroMove zone choice id targetId).course id).mood = some now) :
    now.attack = monster.attack := by
  cases present : world.objects targetId with
  | none =>
    rw [aggroCalms, found, present] at spared
    contradiction
  | some target =>
    rw [aggroCalms, found, present, decide_eq_false_iff_not, not_or, not_or] at spared
    rcases spared with ⟨chasable, noStop, noReturn⟩
    rcases getUser_of_isChasable chasable with ⟨victim, user, isUser⟩
    have different := filed.apart isUser found
    have own := moodOf_of_getMonster found
    unfold handleAggroMove at becomes
    rw [found] at becomes
    dsimp only at becomes
    rw [if_neg (by rw [alive]; exact Bool.false_ne_true), if_neg chasable, present] at becomes
    dsimp only at becomes
    split at becomes
    · next stops => exact absurd stops noStop
    · next returns => exact absurd returns noReturn
    · have kept : now = monster.mood := by
        split at becomes
        · rw [course_alarm] at becomes
          exact (Option.some.inj (own.symm.trans becomes)).symm
        · rw [course_alarm, course_alarm] at becomes
          exact (Option.some.inj (own.symm.trans becomes)).symm
      rw [kept]
      rfl
    · have advanced : (world.tryAdvanceTowardGoal zone choice id (target.x, target.y)).2.course id =
          world.course id := course_tryAdvanceTowardGoal
      have kept := (congrArg Course.mood advanced).trans own
      rcases moodOf_eq_some.mp kept with ⟨shown, current, standing, same⟩
      have stays : (world.tryAdvanceTowardGoal zone choice id (target.x, target.y)).2.objects
          targetId ≠ none := by
        apply registered_of_coreOf (tryAdvanceTowardGoal_apart.core targetId different)
        rw [present]
        exact Option.some_ne_none target
      have unchanged : current.attack = monster.attack := congrArg Mood.attack same
      rw [← unchanged]
      rcases afterChase_course zone standing stays with chased | lost
      · rw [chased] at becomes
        rw [← Option.some.inj becomes]
        rfl
      · rw [lost] at becomes
        rw [← Option.some.inj becomes]
        rfl

/-- At most one move and one attack is outstanding for a monster. -/
def SingleChains (world : World) : Prop :=
  ∀ id subject monster, world.getMonster id = some (subject, monster) →
    world.outstanding .evRandomMove id + world.outstanding .evAggroMove id ≤ 1 ∧
      world.outstanding .evMonsterAttackToUser id ≤ 1

end World

namespace Server

open World

variable {collate : String → String} {home : Nat} {id : ObjID}

/-- The next event of the thread resets no flag of its monster while the event
that the flag stands for is outstanding. -/
def flagsKept (label : Label grid) (server : Server collate) : Bool :=
  match label with
  | .run thread _ =>
      match server.world.queues thread with
      | .timer .evMonsterAttackToUser id targetId :: _ =>
          server.world.outstanding .evAggroMove id = 0 ∨ !server.world.attackKills id targetId
      | .timer .evAggroMove id targetId :: _ =>
          server.world.outstanding .evMonsterAttackToUser id = 0 ∨
            !server.world.aggroCalms id targetId
      | _ => true
  | _ => true

/-- A thread of another zone leaves the course of the monster alone. -/
theorem course_elsewhere {thread : Nat} {choice : Choice grid} {before after : Server collate}
    (category : id.category = .eMonster) (taken : step (.run thread choice) before = some after)
    (different : thread ≠ home) (mapped : Mapped before.world)
    (homed : Homed home id before.world) :
    after.world.course id = before.world.course id := by
  simp only [step, runThread] at taken
  split at taken
  · contradiction
  · next task rest queued =>
    rcases Option.map_eq_some_iff.mp taken with ⟨world, ran, rfl⟩
    have aloof := exec_elsewhere ran category different
      (fun own => different (homed.thread_eq category queued own))
      (mapped.congr rfl rfl rfl rfl) (homed.popped queued)
    have noEvent : task.isEventOf id = false := by
      by_contra isEvent
      rw [Bool.not_eq_false] at isEvent
      apply different
      apply (homed.orders thread task _).1
      exact List.mem_filter.mpr ⟨queued ▸ List.mem_cons_self, isEvent⟩
    exact aloof.course.trans (course_popped queued noEvent)

end Server

namespace TimedServer

open World

variable {collate : String → String} {home : Nat} {id : ObjID} {before after : TimedServer collate}

theorem clock_mono {label : Server.Label grid} {readings : List Nat}
    (taken : before.advance label readings = some after)
    (grows : before.clock label.thread ≤ after.clock label.thread) (thread : Nat) :
    before.clock thread ≤ after.clock thread := by
  by_cases own : thread = label.thread
  · rw [own]
    exact grows
  · rcases advance_eq_some.mp taken with ⟨server, _, _, rfl⟩
    dsimp only
    rw [Function.update_of_ne own]

theorem queued_append {course : Course} {task : Task} {kind : TimerEventType}
    (event : task.event = some kind) (moved : Course)
    (orders : moved.orders home = course.orders home ++ [task]) :
    moved.queued home = course.queued home ++ [kind] := by
  rw [Course.queued, orders, List.filterMap_append, List.filterMap_cons_some event]
  rfl

/-- The timer serves an event. -/
theorem fire_chained {index : Nat} (valid : isValidZoneId home = true)
    (category : id.category = .eMonster) (taken : before.fire index = some after)
    (homed : Homed home id before.server.world) (stamped : before.Stamped)
    (chained : Chained home (before.clock home) (before.pairs id) (before.server.world.course id)) :
    Chained home (after.clock home) (after.pairs id) (after.server.world.course id) := by
  rcases fire_eq_some.mp taken with ⟨isNext, server, fired, rfl⟩
  rcases Server.exists_fired fired with ⟨event, found⟩
  obtain ⟨stamp, zipped, least⟩ : ∃ stamp,
      (before.server.world.timers.zip before.stamps)[index]? = some (event, stamp) ∧
        ∀ pair ∈ before.pairs id, Stamp.le stamp pair.2 := stamp_of_isNext isNext found
  by_cases subject : event.subjectId = id
  · have moved := Server.fire_own valid category fired found subject homed
    have removed := pairs_fire_own fired zipped subject
    rcases chained.line with ⟨line, timeline, shape⟩
    have served := timeline.fire (pairs_distinct stamped id) removed least
    refine ⟨⟨line, ?_, ?_⟩, ?_⟩
    · rw [moved, queued_append rfl _ (Function.update_self ..)]
      exact served
    · rw [moved]
      exact shape
    · exact fun pair member => chained.due pair (removed.mem_iff.mpr (List.mem_cons_of_mem _ member))
  · rw [pairs_fire_other fired zipped subject, Server.fire_other fired found subject]
    exact chained

/-- An event that is left in the line is outstanding. -/
theorem outstanding_of_mem {course : Course} {clock : Nat} {pairs : List (TimerEvent × Stamp)}
    {rest : List TimerEventType} {kind : TimerEventType}
    (served : Chained.Served home clock pairs course rest) (member : kind ∈ rest) :
    0 < course.outstanding (fun other => other = kind) home := by
  rw [served.timeline.perm.mem_iff, List.mem_append] at member
  rw [Course.outstanding]
  rcases member with queued | pending
  · rcases List.mem_filterMap.mp queued with ⟨task, listed, event⟩
    have rings : task.rings (fun other => other = kind) = true := by
      cases task with
      | timer other => exact decide_eq_true (Option.some.inj event)
      | _ => contradiction
    exact Nat.add_pos_right _ (List.countP_pos_iff.mpr ⟨task, listed, rings⟩)
  · rcases List.mem_map.mp pending with ⟨pair, listed, same⟩
    have alarm : pair.1 ∈ course.alarms := served.alarms ▸ List.mem_map_of_mem listed
    exact Nat.add_pos_left (List.countP_pos_iff.mpr ⟨pair.1, alarm, decide_eq_true same⟩) _

/-- The event of the task that runs was pending. -/
theorem outstanding_before {kind other : TimerEventType} {world : World} {rest : List Task}
    (valid : isValidZoneId home = true) (homed : Homed home id world)
    (queued : world.queues home = .timer kind id targetId :: rest)
    (positive : 0 < ((world.popped home rest).course id).outstanding (fun kind => kind = other)
      home) : world.outstanding other id ≠ 0 := by
  rw [outstanding_homed other valid homed, Server.outstanding_popped _ queued]
  omega

/-- The home thread runs an event of the monster. -/
theorem own_chained {choice : Choice grid} {kind : TimerEventType} {targetId : ObjID}
    {rest : List Task} {late : Nat} {grown : List (TimerEvent × Stamp)} {world : World}
    (valid : isValidZoneId home = true) (kinds : kind.isMonsters = true)
    (guard : Server.flagsKept (.run home choice) before.server = true)
    (queued : before.server.world.queues home = .timer kind id targetId :: rest)
    (ran : (before.server.world.popped home rest).timerTask home choice kind id targetId = some world)
    (mapped : Mapped before.server.world) (homed : Homed home id before.server.world)
    (stamped : before.Stamped)
    (grows : Grown TimerEvent.delay (before.clock home) (before.pairs id) late grown)
    (new : grown.map Prod.fst = (world.course id).alarms)
    (chained : Chained home (before.clock home) (before.pairs id) (before.server.world.course id)) :
    Chained home late grown (world.course id) := by
  rcases chained.line with ⟨line, timeline, shape⟩
  have isEvent : (Task.timer kind id targetId).isEventOf id = true := decide_eq_true rfl
  have orders := orders_popped_own queued isEvent
  have head : (before.server.world.course id).queued home =
      kind :: ((before.server.world.popped home rest).course id).queued home := by
    rw [Course.queued, orders, Function.update_self]
    rfl
  rw [head] at timeline
  rcases timeline.pop with ⟨shorter, rfl, remaining⟩
  have served : Chained.Served home (before.clock home) (before.pairs id)
      ((before.server.world.popped home rest).course id) shorter :=
    ⟨remaining, chained.due, pairs_alarms stamped id⟩
  have filed : Filed (before.server.world.popped home rest) := mapped.filed
  cases found : (before.server.world.popped home rest).getMonster id with
  | none =>
    obtain rfl := timerTask_missing kinds ran found
    obtain rfl := grown_same grows served.alarms new
    refine ⟨⟨shorter, remaining, ?_⟩, chained.due.wait grows.clock_le⟩
    exact fun mood present => absurd ((moodOf_missing found).symm.trans present)
      (Option.some_ne_none mood).symm
  | some entry =>
    obtain ⟨subject, monster⟩ := entry
    have present := moodOf_of_getMonster found
    have shown := shape monster.mood present
    rcases timerTask_own kinds ran filed found with
      ⟨rfl, revived⟩ | ⟨act, alive, turn⟩ | ⟨act, dead, spent⟩
    · rw [shown.respawn] at served
      rw [revived] at new ⊢
      exact served.none grows rfl new rfl (.idle rfl)
    · refine served.turn shown present alive turn grows new ?_ ?_
      · rintro rfl waits now becomes
        have pending := outstanding_before valid homed queued (outstanding_of_mem served waits)
        rw [Server.flagsKept, queued] at guard
        have spared : before.server.world.attackKills id targetId = false := by
          simpa [pending] using guard
        rw [timerTask_attack ran found] at becomes
        exact handleAttackToPlayer_active filed found spared becomes
      · rintro rfl waits now becomes
        have pending := outstanding_before valid homed queued (outstanding_of_mem served waits)
        rw [Server.flagsKept, queued] at guard
        have spared : before.server.world.aggroCalms id targetId = false := by
          simpa [pending] using guard
        rw [timerTask_aggroMove ran found] at becomes
        exact handleAggroMove_attack filed found alive spared becomes
    · exact served.spent shown present dead act spent grows new

/-- Every step that meets the condition keeps one chain for each monster. -/
theorem step_chained {act : Act grid} (valid : isValidZoneId home = true)
    (category : id.category = .eMonster)
    (guard : Server.flagsKept act.label before.server = true) (taken : step act before = some after)
    (mapped : Mapped before.server.world) (homed : Homed home id before.server.world)
    (stamped : before.Stamped)
    (chained : Chained home (before.clock home) (before.pairs id) (before.server.world.course id)) :
    Chained home (after.clock home) (after.pairs id) (after.server.world.course id) := by
  have stampedAfter := step_stamped taken mapped.filed stamped
  have served := step_server taken
  unfold step at taken
  split at taken
  · exact fire_chained valid category taken homed stamped chained
  · next noFire =>
    have grows := advance_grown taken noFire mapped.filed stamped id
    have later := clock_mono taken grows.clock_le home
    have new := pairs_alarms stampedAfter id
    have still : after.server.world.course id = before.server.world.course id →
        Chained home (after.clock home) (after.pairs id) (after.server.world.course id) := by
      intro same
      have alarms : after.server.world.alarms id = before.server.world.alarms id :=
        congrArg Course.alarms same
      rw [grown_same grows (pairs_alarms stamped id) (new.trans alarms), same]
      exact chained.wait later
    cases Server.step_passage valid category served mapped homed with
    | still same => exact still same
    | fire isFire => exact absurd isFire (noFire _)
    | touched isRun touches =>
      next thread choice =>
      by_cases here : thread = home
      · subst here
        rw [isRun] at grows
        exact chained.touches touches grows (pairs_alarms stamped id) new
      · rw [isRun] at served
        exact still (Server.course_elsewhere category served here mapped homed)
    | own isRun queued kinds ran =>
      rw [isRun] at guard grows
      exact own_chained valid kinds guard queued ran mapped homed stamped grows new chained

theorem boot_chained (count : Nat) {draw : Nat → Int × Int} (store : Store collate)
    (valid : ValidDraws grid draw) (id : ObjID) :
    Chained (homeZone id) 0 ((TimedServer.boot count draw store).pairs id)
      ((TimedServer.boot count draw store).server.world.course id) := by
  have booted := boot_booted count valid
  have noPairs : (TimedServer.boot count draw store).pairs id = [] := by
    rw [pairs, TimedServer.boot, List.zip_nil_right]
    rfl
  have nothing : Course.queued (homeZone id)
      ((TimedServer.boot count draw store).server.world.course id) = [] := by
    change List.filterMap Task.event ((((World.boot count draw).queues _).filter _)) = []
    rw [booted.queues]
    rfl
  refine ⟨⟨[], ?_, ?_⟩, ?_⟩
  · rw [noPairs, nothing]
    exact .nil
  · intro mood present
    rcases Server.boot_course count valid id present with ⟨_, _, alive, _⟩
    exact .idle alive
  · rw [noPairs]
    exact fun pair member => absurd member List.not_mem_nil

/-- One chain for each monster in every state of such a run. -/
theorem run_chained {count : Nat} {draw : Nat → Int × Int} {store : Store collate}
    {acts : List (Act grid)} {timed : TimedServer collate} (valid : ValidDraws grid draw)
    (category : id.category = .eMonster)
    (along : Along step (fun act state => Server.flagsKept act.label state.server = true) acts
      (TimedServer.boot count draw store))
    (ran : run step acts (TimedServer.boot count draw store) = some timed) :
    timed.Stamped ∧ Chained (homeZone id) (timed.clock (homeZone id)) (timed.pairs id)
      (timed.server.world.course id) := by
  have validHome := isValidZoneId_homeZone id
  have stepwise : ∀ (act : Act grid) (before after : TimedServer collate),
      Server.flagsKept act.label before.server = true → step act before = some after →
      (Mapped before.server.world ∧ Homed (homeZone id) id before.server.world) ∧
          before.Stamped ∧ Chained (homeZone id) (before.clock (homeZone id)) (before.pairs id)
            (before.server.world.course id) →
        (Mapped after.server.world ∧ Homed (homeZone id) id after.server.world) ∧
          after.Stamped ∧ Chained (homeZone id) (after.clock (homeZone id)) (after.pairs id)
            (after.server.world.course id) := by
    rintro act before after guard taken ⟨⟨mapped, homed⟩, stamped, chained⟩
    have served := step_server taken
    refine ⟨⟨Server.step_mapped served mapped,
      Server.step_homed validHome category served mapped homed⟩, ?_, ?_⟩
    · exact step_stamped taken mapped.filed stamped
    · exact step_chained validHome category guard taken mapped homed stamped chained
  have unstamped : (TimedServer.boot count draw store).Stamped := by
    refine ⟨?_, fun stamp member => absurd member List.not_mem_nil, List.nodup_nil⟩
    rw [show (TimedServer.boot count draw store).server.world.timers = [] from
      (boot_booted count valid).timers]
    rfl
  exact (invariant_of_along stepwise along ran ⟨⟨boot_mapped count draw,
    boot_homed count valid id⟩, unstamped, boot_chained count store valid id⟩).2

theorem countP_isMove (line : List TimerEventType) :
    line.count .evRandomMove + line.count .evAggroMove = line.countP TimerEventType.isMove := by
  induction line with
  | nil => rfl
  | cons kind rest ih =>
    rw [List.count_cons, List.count_cons, List.countP_cons, ← ih]
    cases kind <;> simp [TimerEventType.isMove] <;> omega

/-- What the line shows of one kind is what is outstanding. -/
theorem outstanding_line {line : List TimerEventType} {timed : TimedServer collate}
    (kind : TimerEventType) (valid : isValidZoneId home = true)
    (homed : Homed home id timed.server.world) (stamped : timed.Stamped)
    (timeline : Timeline TimerEvent.event ((timed.server.world.course id).queued home)
      (timed.pairs id) line) : timed.server.world.outstanding kind id = line.count kind := by
  have alarms : (timed.pairs id).map Prod.fst = (timed.server.world.course id).alarms :=
    pairs_alarms stamped id
  have pending : ((timed.pairs id).map fun pair => pair.1.event).count kind =
      (timed.server.world.course id).alarms.countP fun event => event.event = kind := by
    rw [← alarms, List.countP_map, List.count, List.countP_map]
    apply List.countP_congr
    intro pair _
    simp
  have queued : ((timed.server.world.course id).queued home).count kind =
      ((timed.server.world.course id).orders home).countP
        (Task.rings fun other => other = kind) := by
    rw [List.count, Course.queued, List.countP_filterMap]
    apply List.countP_congr
    intro task _
    cases task <;> simp [Task.event, Task.rings]
  rw [outstanding_homed kind valid homed, timeline.perm.count_eq, List.count_append, pending,
    queued, Nat.add_comm]
  rfl

/-- One line of events for every monster, as long as no flag is reset over a
pending event. -/
theorem single_chains {count : Nat} {draw : Nat → Int × Int} {store : Store collate}
    {acts : List (Act grid)} {timed : TimedServer collate} (valid : ValidDraws grid draw)
    (along : Along step (fun act state => Server.flagsKept act.label state.server = true) acts
      (TimedServer.boot count draw store))
    (ran : run step acts (TimedServer.boot count draw store) = some timed) :
    SingleChains timed.server.world := by
  intro id subject monster found
  have served := run_server ran
  have category := (Server.run_mapped served).filed.monster found
  have homed := Server.run_homed valid category served
  rcases run_chained valid category along ran with ⟨stamped, ⟨line, timeline, shape⟩, _⟩
  have single := (shape monster.mood (moodOf_of_getMonster found)).single
  have outstanding : ∀ kind, timed.server.world.outstanding kind id = line.count kind :=
    fun kind => outstanding_line kind (isValidZoneId_homeZone id) homed stamped timeline
  constructor
  · rw [outstanding, outstanding, countP_isMove]
    exact single.moves
  · rw [outstanding]
    exact single.attacks

/-! ## A monster on its leash -/

/-- All monsters of the server, with the first aggressive one in the corner. -/
theorem boot_outpost (store : Store collate) :
    TimedServer.boot maxMonster (outpostDraw 0) store =
      ⟨⟨outpost maxMonster 0, store, 0⟩, [], fun _ => 0, 0⟩ := by
  rw [TimedServer.boot, Server.boot, boot_eq_outpost (by decide) rfl]

/-- The user teleports to a tile of column 9. -/
def teleport (y : Int) : List (Act initCollisionTile) :=
  [⟨.receive 1 (.userTeleportReq 9 y), []⟩, ⟨.run 0 .steady, []⟩]

/-- A pending event fires and its task runs. -/
def serve (index : Nat) (readings : List Nat) : List (Act initCollisionTile) :=
  [⟨.fire index, []⟩, ⟨.run 0 .steady, readings⟩]

/-- A player draws the monster seven tiles away from its spawn point. -/
def lure : List (Act initCollisionTile) :=
  [⟨.accept, []⟩, ⟨.receive 1 (.userLoginReq "kim" ""), []⟩, ⟨.run invalidZoneId .steady, []⟩,
    ⟨.database 0 {} true, []⟩, ⟨.run 0 .steady, [0, 0]⟩] ++
  teleport 4 ++ serve 1 [500] ++ teleport 3 ++ serve 1 [1000] ++ teleport 2 ++ serve 1 [1500] ++
  teleport 1 ++ serve 1 [2000] ++ serve 1 [2500] ++ serve 1 [3000] ++ serve 1 [3500]

/-- The monster attacks and follows the player to the end of its leash. -/
def skirmish : List (Act initCollisionTile) :=
  lure ++ serve 1 [4000, 4000] ++ serve 1 [4001] ++ serve 1 [4500] ++ serve 0 [5000] ++
  teleport 0 ++ serve 1 [5000] ++ serve 0 [5001]

/-- At the end of the leash one attack and one move are pending. -/
theorem single_chains_sample :
    ∃ timed, run step skirmish (TimedServer.boot maxMonster (outpostDraw 0) savedStore) =
        some timed ∧
      timed.server.world.outstanding .evMonsterAttackToUser (ObjID.monster monsterIdStart) = 1 ∧
        SingleChains timed.server.world := by
  have completes : (run step skirmish
      ⟨⟨outpost maxMonster 0, savedStore, 0⟩, [], fun _ => 0, 0⟩).isSome := by rfl
  have along : Along step (fun act state => Server.flagsKept act.label state.server = true) skirmish
      ⟨⟨outpost maxMonster 0, savedStore, 0⟩, [], fun _ => 0, 0⟩ := along_of_check (by rfl)
  rcases Option.isSome_iff_exists.mp completes with ⟨timed, ran⟩
  rw [boot_outpost]
  refine ⟨timed, ran, ?_, ?_⟩
  · obtain rfl := Option.some.inj ran
    rfl
  · rw [← boot_outpost] at ran along
    exact single_chains (outpostDraw_valid 0) along ran

/-- The way back clears the attack flag, and the next move attacks once
more. -/
theorem duplicated_attack :
    ∃ timed, run step (skirmish ++ serve 1 [5500] ++ teleport 1 ++ serve 2 [6000, 6000])
        (TimedServer.boot maxMonster (outpostDraw 0) savedStore) = some timed ∧
      ¬SingleChains timed.server.world := by
  have completes : (run step (skirmish ++ serve 1 [5500] ++ teleport 1 ++ serve 2 [6000, 6000])
      ⟨⟨outpost maxMonster 0, savedStore, 0⟩, [], fun _ => 0, 0⟩).isSome := by rfl
  rcases Option.isSome_iff_exists.mp completes with ⟨timed, ran⟩
  rw [boot_outpost]
  refine ⟨timed, ran, ?_⟩
  intro single
  have present : (timed.server.world.getMonster (ObjID.monster monsterIdStart)).isSome := by
    obtain rfl := Option.some.inj ran
    rfl
  rcases Option.isSome_iff_exists.mp present with ⟨⟨subject, monster⟩, found⟩
  have twice : timed.server.world.outstanding .evMonsterAttackToUser
      (ObjID.monster monsterIdStart) = 2 := by
    obtain rfl := Option.some.inj ran
    rfl
  have once := (single _ _ _ found).2
  omega

end TimedServer

end Mmorpg
