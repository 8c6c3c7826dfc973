import Mmorpg.World.Arrivals

/-!
# Requests in arrival order over whole runs

As long as no packet of a user waits on another thread when the user enters a
zone, the accepted packets of a session and its line stay sorted.
-/

namespace Mmorpg

open ZoneLayout Transition

variable {grid : CollisionGrid}

/-! ## Stations and queues -/

namespace World

variable {session thread zoneId : Nat} {world : World}

/-- A packet is queued where the frames of its session wait. -/
theorem threadOf_routing {record : Session} (mapped : Mapped world)
    (recorded : world.sessions session = some record)
    (home : (world.view session).station.home = some thread) :
    threadOf record.routingZoneId = thread := by
  cases station : (world.view session).station with
  | outside =>
    rw [station] at home
    obtain rfl := Option.some.inj home
    have outside : record.state ≠ .stIngame := by
      intro ingame
      rcases record with ⟨state, routed⟩
      obtain rfl : state = .stIngame := ingame
      unfold View.station at station
      split at station
      · contradiction
      · rw [show (world.view session).session = _ from recorded] at station
        contradiction
    rw [mapped.outside session record recorded outside]
    rfl
  | inside zoneId transferring =>
    rw [station] at home
    obtain ⟨client, user, found, rfl, _⟩ := station_eq_inside station
    obtain rfl := Option.some.inj (recorded.symm.trans (mapped.stands found).2)
    cases transferring with
    | false => exact Option.some.inj home
    | true => contradiction
  | gone =>
    rw [station] at home
    contradiction

/-- A user between two zones is routed to the new one. -/
theorem routing_of_between {record : Session} (mapped : Mapped world)
    (recorded : world.sessions session = some record)
    (between : (world.view session).station = .inside zoneId true) :
    record.routingZoneId = zoneId := by
  obtain ⟨client, user, found, rfl, _⟩ := station_eq_inside between
  obtain rfl := Option.some.inj (recorded.symm.trans (mapped.stands found).2)
  rfl

/-- One entry waits for a user between two zones. -/
theorem Handed.entries (handed : Handed world)
    (between : (world.view session).station = .inside zoneId true) :
    (world.queues (threadOf zoneId)).countP (Task.enters session) = 1 := by
  obtain ⟨client, user, found, rfl, away⟩ := station_eq_inside between
  have moored := (handed.accounted session).moored (handed.mapped.stands found).1
  have home : threadOf client.transform.zoneId = client.transform.zoneId := if_pos (moored.away away)
  rw [← countP_waiting world fun _ => isAbout_of_enters, moored.entering, home,
    if_pos ⟨away, rfl⟩]

/-- A task that leaves its user between two zones is not its entry. -/
theorem Handed.not_enters {choice : Choice grid} {task : Task} {rest : List Task} {after : World}
    (handed : Handed world) (handedAfter : Handed after)
    (queued : world.queues (threadOf zoneId) = task :: rest)
    (left : after.queues = (world.popped (threadOf zoneId) rest).queuesWith
      ((world.popped (threadOf zoneId) rest).followUp choice task))
    (between : (world.view session).station = .inside zoneId true)
    (still : (after.view session).station = .inside zoneId true) :
    task.enters session = false := by
  by_contra enters
  rw [Bool.not_eq_false] at enters
  have nothing : (world.popped (threadOf zoneId) rest).followUp choice task = none := by
    cases task with
    | enterZone playerId x y => rfl
    | _ => contradiction
  have before := handed.entries between
  have later := handedAfter.entries still
  rw [left, nothing] at later
  have popped := Transition.countP_pop (Task.enters session) queued (threadOf zoneId)
  rw [before, if_pos ⟨rfl, enters⟩] at popped
  have same : ((world.popped (threadOf zoneId) rest).queuesWith none (threadOf zoneId)).countP
      (Task.enters session) =
      (Function.update world.queues (threadOf zoneId) rest (threadOf zoneId)).countP
        (Task.enters session) := rfl
  omega

/-- A session that has lost its user is served no more. -/
theorem accepts_of_gone {choice : Choice grid} {packet : ClientPacket}
    (gone : (world.view session).station = .gone) :
    world.accepts choice session packet = false := by
  unfold View.station at gone
  split at gone
  · contradiction
  · next absent =>
    split at gone
    · next zoneId found =>
      have state : world.sessionState session = .stIngame := by
        rw [sessionState, show world.sessions session = _ from found]
      have noUser : world.getOwner session = none := by
        rw [getOwner, Option.eq_none_iff_forall_ne_some]
        rintro ⟨client, user⟩ known
        have stands : (world.view session).stance = some _ :=
          stance_eq_some.mpr ⟨client, user, known, rfl⟩
        rw [absent] at stands
        contradiction
      have refused : ∀ needsAlive, world.playing session needsAlive = none := by
        intro needsAlive
        rw [Option.eq_none_iff_forall_ne_some]
        rintro ⟨client, user⟩ playing
        have known : world.getOwner session = _ := (playing_eq_some.mp playing).2.1
        rw [noUser] at known
        contradiction
      unfold accepts
      cases packet with
      | userLoginReq name password =>
        rw [state]
        rfl
      | csChat mess =>
        rw [noUser, state]
        rfl
      | _ =>
        dsimp only
        rw [refused]
        rfl
    · contradiction

end World

/-- A packet of the session. -/
def Task.isFrameOf (session : Nat) : Task → Bool
  | dispatch sender _ => sender = session
  | _ => false

/-- A user enters a zone only when no packet of its session waits on another
thread. -/
def Server.isCleared {collate : String → String} (label : Server.Label grid)
    (server : Server collate) : Bool :=
  match label with
  | .run thread _ =>
      match server.world.queues thread with
      | [] => true
      | task :: _ =>
          match server.world.brought task with
          | none => true
          | some session => gameThreads.all fun other =>
              other = thread ∨ (server.world.queues other).all fun pending =>
                !pending.isFrameOf session
  | _ => true

namespace Numbered

variable {collate : String → String} {session number : Nat} {station : Station}
  {queues : Nat → List (Task × Nat)} {line : List Nat} {label : Server.Label grid}
  {before after : Numbered collate}

theorem framesOf_eq_nil {queue : List (Task × Nat)}
    (others : ∀ task ∈ queue.map Prod.fst, task.isFrameOf session = false) :
    framesOf session queue = [] := by
  induction queue with
  | nil => rfl
  | cons entry rest ih =>
    rcases entry with ⟨task, number⟩
    have other := others task List.mem_cons_self
    have first : numberOf session (task, number) = none := by
      cases task with
      | dispatch sender packet => exact if_neg (of_decide_eq_false other)
      | _ => rfl
    rw [framesOf_cons, first]
    exact ih fun task member => others task (List.mem_cons_of_mem _ member)

/-- The line of one session, and what was accepted of it. -/
def InLine (session : Nat) (station : Station) (queues : Nat → List (Task × Nat))
    (accepted : List Nat) (arrivals : Nat) : Prop :=
  ∃ line, Line session queues station line ∧ (accepted ++ line).Pairwise (· < ·) ∧
    ∀ number ∈ accepted ++ line, number < arrivals

/-- What the order of arrival rests on. -/
structure Ordered (numbered : Numbered collate) : Prop where
  handed : World.Handed numbered.server.world
  confined : numbered.server.world.Confined
  tasks : ∀ thread, (numbered.queues thread).map Prod.fst = numbered.server.world.queues thread
  lines : ∀ session, InLine session (numbered.server.world.view session).station numbered.queues
    (acceptedOf session numbered.accepted) numbered.arrivals

/-- Accepted frames are numbered in their order. -/
theorem Ordered.inOrder (ordered : Ordered after) : after.InOrder := by
  intro session
  obtain ⟨line, _, sorted, _⟩ := ordered.lines session
  exact (List.pairwise_append.mp sorted).1

/-! ## Steps -/

/-- Numbered queues are the queues with numbers. -/
theorem map_joined (next : Option (Nat × Task)) (number : Nat) (queues : Nat → List (Task × Nat))
    {world : World} (tasks : ∀ thread, (queues thread).map Prod.fst = world.queues thread)
    (thread : Nat) :
    (joined next number queues thread).map Prod.fst = world.queuesWith next thread := by
  cases next with
  | none => exact tasks thread
  | some put =>
    rw [joined, World.queuesWith, World.enqueueByZone, Function.update_apply]
    dsimp only
    rw [Function.update_apply]
    split
    · rw [List.map_append, tasks]
      rfl
    · exact tasks thread

theorem map_takes (label : Server.Label grid) {queues : Nat → List (Task × Nat)}
    {others : Nat → List Task} (tasks : ∀ thread, (queues thread).map Prod.fst = others thread)
    (thread : Nat) :
    (label.takes queues thread).map Prod.fst = label.takes others thread := by
  cases label with
  | run place choice =>
    rw [Server.Label.takes, Server.Label.takes, Function.update_apply, Function.update_apply]
    split
    · rw [List.map_tail, tasks]
    · exact tasks thread
  | _ => exact tasks thread

/-- Only a received packet is queued as a frame. -/
theorem skips_puts {server : Server collate} (other : ∀ packet, label ≠ .receive session packet)
    (number : Nat) : Skips session number (server.puts label) := by
  intro zoneId task put
  cases label with
  | accept => contradiction
  | receive sender packet =>
    rcases Option.map_eq_some_iff.mp put with ⟨record, _, queued⟩
    rw [← (Prod.mk.inj queued).2]
    have different : sender ≠ session := by
      rintro rfl
      exact other packet rfl
    exact if_neg different
  | hangUp sender =>
    unfold Server.puts at put
    dsimp only at put
    split at put
    · rw [← (Prod.mk.inj (Option.some.inj put)).2]
      rfl
    · rw [← (Prod.mk.inj (Option.some.inj put)).2]
      rfl
  | fire index =>
    rcases Option.map_eq_some_iff.mp put with ⟨event, _, queued⟩
    rw [← (Prod.mk.inj queued).2]
    rfl
  | database index calls written =>
    have handed : server.handsOver index calls = some (zoneId, task) := put
    unfold Server.handsOver at handed
    split at handed
    · split at handed
      · rw [← (Prod.mk.inj (Option.some.inj handed)).2]
        rfl
      · rw [← (Prod.mk.inj (Option.some.inj handed)).2]
        rfl
      · contradiction
    · contradiction
  | run thread choice =>
    unfold Server.puts at put
    dsimp only at put
    split at put
    · contradiction
    · unfold World.followUp at put
      split at put
      · split at put
        · contradiction
        · split at put
          · rw [← (Prod.mk.inj (Option.some.inj put)).2]
            rfl
          · contradiction
      · split at put
        · contradiction
        · split at put
          · rw [← (Prod.mk.inj (Option.some.inj put)).2]
            rfl
          · contradiction
      · contradiction

/-- A new packet has the highest number. -/
theorem InLine.frame {accepted : List Nat} {arrivals zoneId : Nat} {packet : ClientPacket}
    (inLine : InLine session station queues accepted arrivals)
    (home : ∀ thread, station.home = some thread → World.threadOf zoneId = thread)
    (between : ∀ new, station = .inside new true → zoneId = new ∧
      ∃ entry ∈ queues (World.threadOf new), entry.1.enters session = true) :
    InLine session station (joined (some (zoneId, .dispatch session packet)) arrivals queues)
      accepted (arrivals + 1) := by
  obtain ⟨line, waits, sorted, bound⟩ := inLine
  by_cases gone : station = .gone
  · subst gone
    cases waits with
    | settled home atHome => contradiction
    | gone => exact ⟨[], .gone, sorted, fun number among => Nat.lt_succ_of_lt (bound number among)⟩
  · refine ⟨line ++ [arrivals], waits.frame home between gone, ?_, ?_⟩
    · rw [← List.append_assoc, List.pairwise_append]
      refine ⟨sorted, List.pairwise_singleton _ _, fun number among last new => ?_⟩
      rw [List.mem_singleton.mp new]
      exact bound number among
    · intro number among
      rw [← List.append_assoc] at among
      rcases List.mem_append.mp among with old | new
      · exact Nat.lt_succ_of_lt (bound number old)
      · rw [List.mem_singleton.mp new]
        exact Nat.lt_succ_self arrivals

/-- A task that is no frame of the session does not matter. -/
theorem InLine.skips {accepted : List Nat} {arrivals more : Nat} {next : Option (Nat × Task)}
    (inLine : InLine session station queues accepted arrivals)
    (skips : Skips session number next) (later : arrivals ≤ more) :
    InLine session station (joined next number queues) accepted more := by
  obtain ⟨line, waits, sorted, bound⟩ := inLine
  exact ⟨line, waits.skips skips, sorted, fun number among => (bound number among).trans_le later⟩

section Run

variable {thread arrivals : Nat} {choice : Choice grid} {accepted : List Nat} {entry : Task × Nat}
  {rest : List (Task × Nat)} {old new : Station} {world : World}

/-- A user that is gone has no line. -/
theorem InLine.leaves (inLine : InLine session station queues accepted arrivals) :
    InLine session .gone queues accepted arrivals := by
  obtain ⟨line, _, sorted, bound⟩ := inLine
  refine ⟨[], .gone, ?_, ?_⟩
  · rw [List.append_nil]
    exact (List.pairwise_append.mp sorted).1
  · intro number among
    rw [List.append_nil] at among
    exact bound number (List.mem_append_left _ among)

/-- A task that is no frame of the session may run at any time. -/
theorem InLine.drop (inLine : InLine session station queues accepted arrivals)
    (queued : queues thread = entry :: rest) (other : numberOf session entry = none)
    (noEntry : ∀ zoneId, station = .inside zoneId true → thread = World.threadOf zoneId →
      entry.1.enters session = false) :
    InLine session station (Function.update queues thread rest) accepted arrivals := by
  obtain ⟨line, waits, sorted, bound⟩ := inLine
  exact ⟨line, waits.drop queued other noEntry, sorted, bound⟩

/-- The first of the line is run, accepted or not. -/
theorem InLine.pop {packet : ClientPacket} {passes : Bool}
    (inLine : InLine session station queues accepted arrivals)
    (queued : queues thread = (.dispatch session packet, number) :: rest)
    (refused : station = .gone → passes = false) :
    InLine session station (Function.update queues thread rest)
      (accepted ++ if passes then [number] else []) arrivals := by
  obtain ⟨line, waits, sorted, bound⟩ := inLine
  by_cases gone : station = .gone
  · subst gone
    rw [refused rfl]
    rw [if_neg Bool.false_ne_true, List.append_nil]
    have none : InLine session .gone queues accepted arrivals := ⟨line, waits, sorted, bound⟩
    obtain ⟨_, waits, sorted, bound⟩ := none.leaves
    cases waits with
    | settled home atHome => contradiction
    | gone => exact ⟨[], .gone, sorted, bound⟩
  · obtain ⟨later, rfl, remaining⟩ := waits.pop queued gone
    cases passes with
    | true =>
      refine ⟨later, remaining, ?_, ?_⟩
      · rw [if_pos rfl, List.append_assoc]
        exact sorted
      · rw [if_pos rfl, List.append_assoc]
        exact bound
    | false =>
      have sublist : (accepted ++ later).Sublist (accepted ++ number :: later) :=
        (List.Sublist.refl accepted).append (List.sublist_cons_self number later)
      rw [if_neg Bool.false_ne_true, List.append_nil]
      exact ⟨later, remaining, sorted.sublist sublist, fun other among =>
        bound other (sublist.subset among)⟩

/-- A task that is no packet of the session. -/
theorem InLine.runs_other {task : Task}
    (inLine : InLine session old queues accepted arrivals)
    (queued : queues thread = (task, number) :: rest) (other : task.isFrameOf session = false)
    (moves : Station.Step world thread choice task session old new)
    (cleared : world.brought task = some session →
      ∀ place, place ≠ thread → framesOf session (queues place) = [])
    (noEntry : ∀ zoneId, old = .inside zoneId true → new = .inside zoneId true →
      thread = World.threadOf zoneId → task.enters session = false) :
    InLine session new (Function.update queues thread rest) accepted arrivals := by
  have noFrame : numberOf session (task, number) = none := by
    cases task with
    | dispatch sender packet => exact if_neg (of_decide_eq_false other)
    | _ => rfl
  cases moves with
  | stays => exact inLine.drop queued noFrame fun zoneId same => noEntry zoneId same same
  | departs packet zone target isFrame =>
    rw [isFrame] at other
    exact absurd rfl (of_decide_eq_false other)
  | arrives brought valid =>
    obtain ⟨line, waits, sorted, bound⟩ := inLine
    have arrived : InLine session (.inside thread false) queues accepted arrivals :=
      ⟨line, waits.arrives valid (cleared brought), sorted, bound⟩
    exact arrived.drop queued noFrame fun zoneId same => by simp at same
  | appears zone brought valid =>
    obtain ⟨line, waits, sorted, bound⟩ := inLine
    have appeared : InLine session (.inside zone false) queues accepted arrivals :=
      ⟨line, waits.appears valid (cleared brought), sorted, bound⟩
    exact appeared.drop queued noFrame fun zoneId same => by simp at same
  | leaves => exact inLine.leaves.drop queued noFrame fun zoneId same => by simp at same

/-- A frame that runs is the oldest one of its session. -/
theorem InLine.runs_frame {packet : ClientPacket} {passes : Bool}
    (inLine : InLine session old queues accepted arrivals)
    (queued : queues thread = (.dispatch session packet, number) :: rest)
    (refused : old = .gone → passes = false)
    (moves : Station.Step world thread choice (.dispatch session packet) session old new) :
    InLine session new (Function.update queues thread rest)
      (accepted ++ if passes then [number] else []) arrivals := by
  have popped := inLine.pop queued refused
  cases moves with
  | stays => exact popped
  | departs packet zone target _ valid different =>
    obtain ⟨line, waits, sorted, bound⟩ := popped
    exact ⟨line, waits.departs valid different, sorted, bound⟩
  | arrives brought => contradiction
  | appears zone brought => contradiction
  | leaves => exact popped.leaves

end Run

/-- The numbers follow the server. -/
theorem step_eq_some : step label before = some after ↔
    ∃ server, Server.step label before.server = some server ∧
      after =
        { server := server
          arrivals := before.arrivals + receives label
          queues := joined (before.server.puts label) before.arrivals (label.takes before.queues)
          accepted := before.accepted ++ (before.passing label).toList } := by
  rw [step, Option.map_eq_some_iff]
  constructor
  · rintro ⟨server, taken, rfl⟩
    exact ⟨server, taken, rfl⟩
  · rintro ⟨server, taken, rfl⟩
    exact ⟨server, taken, rfl⟩

/-- Steps that run no task. -/
theorem inLine_of_noTask {server : Server collate} (ordered : Ordered before)
    (taken : Server.step label before.server = some server)
    (noTask : ∀ thread choice, label ≠ .run thread choice) (session : Nat) :
    InLine session (server.world.view session).station
      (joined (before.server.puts label) before.arrivals (label.takes before.queues))
      (acceptedOf session (before.accepted ++ (before.passing label).toList))
      (before.arrivals + receives label) := by
  have passesNothing : before.passing label = none := by
    cases label with
    | run thread choice => exact absurd rfl (noTask thread choice)
    | _ => rfl
  have takesNothing : label.takes before.queues = before.queues := by
    cases label with
    | run thread choice => exact absurd rfl (noTask thread choice)
    | _ => rfl
  rw [Server.station_of_noTask taken noTask ordered.handed, passesNothing, takesNothing,
    Option.toList_none, List.append_nil]
  have inLine := ordered.lines session
  by_cases received : ∃ packet, label = .receive session packet
  · obtain ⟨packet, rfl⟩ := received
    cases recorded : before.server.world.sessions session with
    | none =>
      have refused : Server.step (.receive session packet : Server.Label grid) before.server =
          none := by
        rw [Server.step, Server.receive, recorded]
        rfl
      rw [refused] at taken
      contradiction
    | some record =>
      have put : before.server.puts (.receive session packet : Server.Label grid) =
          some (record.routingZoneId, .dispatch session packet) := by
        rw [Server.puts, recorded]
        rfl
      rw [put]
      apply inLine.frame
      · exact fun thread => World.threadOf_routing ordered.handed.mapped recorded
      · intro new between
        refine ⟨World.routing_of_between ordered.handed.mapped recorded between, ?_⟩
        have entries := ordered.handed.entries between
        rw [← ordered.tasks] at entries
        have some : 0 < ((before.queues (World.threadOf new)).map Prod.fst).countP
            (Task.enters session) := by omega
        obtain ⟨task, member, enters⟩ := List.countP_pos_iff.mp some
        obtain ⟨entry, among, rfl⟩ := List.mem_map.mp member
        exact ⟨entry, among, enters⟩
  · have other : ∀ packet, label ≠ .receive session packet :=
      fun packet same => received ⟨packet, same⟩
    exact inLine.skips (skips_puts other before.arrivals) (Nat.le_add_right _ _)

theorem acceptedOf_append (session : Nat) (first second : List (Nat × Nat)) :
    acceptedOf session (first ++ second) = acceptedOf session first ++ acceptedOf session second :=
  List.filterMap_append

/-- Steps that run a task. -/
theorem inLine_of_run {thread : Nat} {choice : Choice grid} {server : Server collate}
    (ordered : Ordered before) (cleared : Server.isCleared (.run thread choice) before.server = true)
    (taken : Server.step (.run thread choice) before.server = some server) (session : Nat) :
    InLine session (server.world.view session).station
      (joined (before.server.puts (.run thread choice)) before.arrivals
        ((Server.Label.run thread choice).takes before.queues))
      (acceptedOf session (before.accepted ++ (before.passing (.run thread choice)).toList))
      (before.arrivals + receives (.run thread choice)) := by
  obtain ⟨task, tasks, queued, stations⟩ := Server.station_of_run taken ordered.handed
  obtain ⟨⟨head, number⟩, rest, waiting, first, others⟩ :=
    List.map_eq_cons_iff.mp ((ordered.tasks thread).trans queued)
  obtain rfl : head = task := first
  have takes : (Server.Label.run thread choice).takes before.queues =
      Function.update before.queues thread rest := by
    rw [Server.Label.takes, waiting]
    rfl
  have noReceive : ∀ packet, (Server.Label.run thread choice) ≠ .receive session packet :=
    fun _ => by simp
  rw [takes, acceptedOf_append]
  refine InLine.skips ?_ (skips_puts noReceive before.arrivals) (Nat.le_add_right _ _)
  have moves := stations session
  have inLine := ordered.lines session
  by_cases own : head.isFrameOf session = true
  · cases head with
    | dispatch sender packet =>
      obtain rfl : sender = session := of_decide_eq_true own
      have passes : acceptedOf sender (before.passing (.run thread choice)).toList =
          if before.server.world.accepts choice sender packet then [number] else [] := by
        unfold passing
        dsimp only
        rw [waiting]
        dsimp only
        split
        · simp [acceptedOf]
        · rfl
      rw [passes]
      exact inLine.runs_frame waiting (fun gone => World.accepts_of_gone gone) moves
    | _ => contradiction
  · rw [Bool.not_eq_true] at own
    have passes : acceptedOf session (before.passing (.run thread choice)).toList = [] := by
      unfold passing
      dsimp only
      rw [waiting]
      split
      · next sender packet given later same =>
        rw [List.cons.injEq, Prod.mk.injEq] at same
        rw [same.1.1] at own
        have different : sender ≠ session := of_decide_eq_false own
        split
        · simp [acceptedOf, different]
        · rfl
      · rfl
    rw [passes, List.append_nil]
    apply inLine.runs_other waiting own moves
    · intro brought place away
      apply framesOf_eq_nil
      intro pending member
      rw [ordered.tasks] at member
      unfold Server.isCleared at cleared
      dsimp only at cleared
      rw [queued] at cleared
      dsimp only at cleared
      rw [brought] at cleared
      simp only [List.all_eq_true, decide_eq_true_eq, Bool.not_eq_true'] at cleared
      exact (cleared place (ordered.confined place pending member)).resolve_left away pending member
    · rintro zoneId between still rfl
      have left : server.world.queues =
          (before.server.world.popped (World.threadOf zoneId) tasks).queuesWith
            ((before.server.world.popped (World.threadOf zoneId) tasks).followUp choice head) := by
        rw [Server.step_queues ordered.handed.mapped.filed taken, Server.puts, queued,
          Server.Label.takes, queued]
        rfl
      exact ordered.handed.not_enters (Server.step_handed taken ordered.handed) queued left between
        still

/-- A step that meets the condition keeps every session in line. -/
theorem step_ordered (cleared : Server.isCleared label before.server = true)
    (taken : step label before = some after) (ordered : Ordered before) : Ordered after := by
  obtain ⟨server, ran, rfl⟩ := step_eq_some.mp taken
  have filed := ordered.handed.mapped.filed
  constructor
  case handed => exact Server.step_handed ran ordered.handed
  case confined => exact Server.step_confined filed ran ordered.confined
  case tasks =>
    intro thread
    rw [Server.step_queues filed ran]
    exact map_joined _ _ _ (map_takes label ordered.tasks) thread
  case lines =>
    cases label with
    | run thread choice => exact inLine_of_run ordered cleared ran
    | _ => exact inLine_of_noTask ordered ran fun _ _ => by simp

theorem boot_ordered (count : Nat) (draw : Nat → Int × Int) (store : Store collate) :
    Ordered (boot count draw store) where
  handed := Server.boot_handed count draw
  confined := Server.boot_confined count draw
  tasks thread := congrFun (World.boot_aside count draw).queues.symm thread
  lines session := by
    have outside : ((World.boot count draw).view session).station = .outside := by
      rw [(World.boot_aside count draw).view]
      rfl
    refine ⟨[], ?_, List.Pairwise.nil, fun number among => absurd among List.not_mem_nil⟩
    change Line session (fun _ => []) ((World.boot count draw).view session).station []
    rw [outside]
    exact .settled invalidZoneId rfl fun _ _ => rfl

/-- As long as users leave nothing behind on another thread when they enter a
zone. -/
theorem frames_in_order {count : Nat} {draw : Nat → Int × Int} {store : Store collate}
    {labels : List (Server.Label grid)} {numbered : Numbered collate}
    (cleared : Along step (fun label numbered => Server.isCleared label numbered.server = true)
      labels (boot count draw store))
    (ran : run step labels (boot count draw store) = some numbered) : numbered.InOrder :=
  (invariant_of_along (fun _ _ _ cleared taken ordered => step_ordered cleared taken ordered)
    cleared ran (boot_ordered count draw store)).inOrder

/-- A user logs in, walks and teleports to the next zone. -/
theorem frames_in_order_sample :
    ∃ numbered, run step Server.commute (boot 0 World.steadyDraw World.savedStore) = some numbered ∧
      numbered.accepted = [(1, 0), (1, 1), (1, 2)] ∧ numbered.InOrder := by
  have completes : (run step Server.commute (boot 0 World.steadyDraw World.savedStore)).any
      (fun numbered => numbered.accepted = [(1, 0), (1, 1), (1, 2)]) = true := by rfl
  obtain ⟨numbered, ran, accepted⟩ := (Option.any_eq_true _ _).mp completes
  exact ⟨numbered, ran, of_decide_eq_true accepted, frames_in_order (along_of_check (by rfl)) ran⟩

/-- A pickup left in the queue of the old zone is overtaken by one that arrives
after the transfer. -/
theorem frames_out_of_order :
    ∃ numbered, run step
        [.accept, .receive 1 (.userLoginReq "kim" ""), .run invalidZoneId .steady,
          .database 0 {} true, .run 0 .steady, .receive 1 (.userTeleportReq 509 9),
          .receive 1 .itemPickupReq, .run 0 .steady, .run 1 .steady, .receive 1 .itemPickupReq,
          .run 1 .steady, .run 0 .steady]
        (boot 0 World.steadyDraw World.savedStore) = some numbered ∧ ¬numbered.InOrder := by
  refine ⟨_, rfl, ?_⟩
  intro inOrder
  have sorted : ([0, 1, 3, 2] : List Nat).Pairwise (· < ·) := inOrder 1
  exact absurd sorted (by decide)

end Numbered

end Mmorpg
