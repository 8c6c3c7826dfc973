import Mmorpg.Database.DBThread
import Mmorpg.Transition.WriteThrough

/-!
# What a login reads

Writes are ordered inside a shard, while a login goes to whichever shard is
next.  A login therefore sees every earlier write except those that still wait
on another shard.  The invariant says where each pushed event is and that the
event in hand has no earlier one behind it in its queue.
-/

namespace Mmorpg.DBThread

open Transition

variable {collate : String → String} {hash : String → Nat} {initial : Store collate}

namespace System

/-- The event waits on a shard or is in its worker's hand. -/
def Pending (system : System collate) (shard : ShardIndex) (event : DbEvent) : Prop :=
  event ∈ (system.shards shard).events.elements ∨
    ∃ phase, (system.shards shard).working = some (event, phase)

/-- The invariant of the database thread started on `initial`. -/
structure Ordered (initial : Store collate) (system : System collate) : Prop where
  callTime : ∀ call ∈ system.calls, call.wakeupTime ≤ system.now
  callBegan : ∀ call ∈ system.calls, call.beganAt ≤ system.nextSequence
  callAfter : ∀ call ∈ system.calls, ∀ shard event, (shard, event) ∈ system.pushed →
    event.stamp.sequence < call.beganAt → event.stamp.wakeupTime ≤ call.wakeupTime
  pushedTime : ∀ shard event, (shard, event) ∈ system.pushed →
    event.stamp.wakeupTime ≤ system.now
  pushedNumber : ∀ shard event, (shard, event) ∈ system.pushed →
    event.beganAt ≤ event.stamp.sequence ∧ event.stamp.sequence < system.nextSequence
  pushedAfter : ∀ shard event other later, (shard, event) ∈ system.pushed →
    (other, later) ∈ system.pushed → event.stamp.sequence < later.beganAt →
    event.stamp.wakeupTime ≤ later.stamp.wakeupTime
  pendingPushed : ∀ shard event, system.Pending shard event → (shard, event) ∈ system.pushed
  located : ∀ shard event, (shard, event) ∈ system.pushed →
    system.Pending shard event ∨ (event.request.isWrite → event ∈ system.committed)
  overtaken : ∀ shard event phase, (system.shards shard).working = some (event, phase) →
    ∀ waiting ∈ (system.shards shard).events.elements,
      event.beganAt ≤ waiting.stamp.sequence
  store : system.store = replay DbEvent.apply system.committed initial

/-- Nothing was pushed and nothing was committed. -/
theorem ordered_boot : Ordered initial (boot initial) where
  callTime := by simp [boot]
  callBegan := by simp [boot]
  callAfter := by simp [boot]
  pushedTime := by simp [boot]
  pushedNumber := by simp [boot]
  pushedAfter := by simp [boot]
  pendingPushed := by simp [boot, Pending]
  located := by simp [boot]
  overtaken := by simp [boot]
  store := rfl

theorem Ordered.tick {system : System collate} (ordered : Ordered initial system)
    (elapsed : Nat) : Ordered initial { system with now := system.now + elapsed } :=
  { ordered with
    callTime := fun call member => (ordered.callTime call member).trans (Nat.le_add_right _ _)
    pushedTime := fun shard event member =>
      (ordered.pushedTime shard event member).trans (Nat.le_add_right _ _) }

/-- A call takes its due time from the clock. -/
theorem Ordered.issue {system : System collate} (ordered : Ordered initial system)
    (request : DbRequest) : Ordered initial (system.issue request) :=
  { ordered with
    callTime := by
      intro call member
      rcases List.mem_append.mp member with old | new
      · exact ordered.callTime call old
      · rw [List.mem_singleton.mp new]
        exact Nat.le_refl _
    callBegan := by
      intro call member
      rcases List.mem_append.mp member with old | new
      · exact ordered.callBegan call old
      · rw [List.mem_singleton.mp new]
        exact Nat.le_refl _
    callAfter := by
      intro call member shard event pushed earlier
      rcases List.mem_append.mp member with old | new
      · exact ordered.callAfter call old shard event pushed earlier
      · rw [List.mem_singleton.mp new]
        exact ordered.pushedTime shard event pushed }

/-- Routing changes only the shard of a call; a write gets its own. -/
theorem route_cases {system next : System collate} {index : Nat}
    (taken : system.route hash index = some next) :
    ∃ call shard, system.calls[index]? = some call ∧
      (∀ fixed, call.request.fixedShard hash = some fixed → shard = fixed) ∧ ∃ cursor,
      next = { system with
        calls := system.calls.set index { call with shard := some shard }
        roundRobinCursor := cursor } := by
  unfold route at taken
  cases entry : system.calls[index]? with
  | none => simp [entry] at taken
  | some call =>
      simp only [entry] at taken
      split at taken
      · contradiction
      · split at taken
        · next shard own =>
          exact ⟨call, shard, rfl, fun fixed same => Option.some.inj (own.symm.trans same),
            system.roundRobinCursor, (Option.some.inj taken).symm⟩
        · next free =>
          exact ⟨call, _, rfl, fun fixed same => by rw [free] at same; contradiction, _,
            (Option.some.inj taken).symm⟩

theorem Ordered.route {system next : System collate} {index : Nat}
    (ordered : Ordered initial system) (taken : system.route hash index = some next) :
    Ordered initial next := by
  rcases route_cases taken with ⟨call, shard, entry, _, cursor, rfl⟩
  have member := List.mem_of_getElem? entry
  have source : ∀ other ∈ system.calls.set index { call with shard := some shard },
      ∃ old ∈ system.calls, other.wakeupTime = old.wakeupTime ∧ other.beganAt = old.beganAt := by
    intro other otherMember
    rcases List.mem_or_eq_of_mem_set otherMember with old | rfl
    · exact ⟨other, old, rfl, rfl⟩
    · exact ⟨call, member, rfl, rfl⟩
  exact
    { ordered with
      callTime := by
        intro other otherMember
        rcases source other otherMember with ⟨old, oldMember, time, _⟩
        exact time ▸ ordered.callTime old oldMember
      callBegan := by
        intro other otherMember
        rcases source other otherMember with ⟨old, oldMember, _, began⟩
        exact began ▸ ordered.callBegan old oldMember
      callAfter := by
        intro other otherMember target event pushed earlier
        rcases source other otherMember with ⟨old, oldMember, time, began⟩
        rw [began] at earlier
        exact time ▸ ordered.callAfter old oldMember target event pushed earlier }

/-- Scheduling numbers the event of a routed call and pushes it. -/
theorem schedule_cases {system next : System collate} {index : Nat}
    (taken : system.schedule index = some next) :
    ∃ call shard, system.calls[index]? = some call ∧ call.shard = some shard ∧
      next = { system with
        nextSequence := system.nextSequence + 1
        calls := system.calls.eraseIdx index
        shards := Function.update system.shards shard
          { system.shards shard with
            events := (system.shards shard).events.push
              ⟨call.request, ⟨call.wakeupTime, system.nextSequence⟩, call.beganAt⟩ }
        pushed := system.pushed ++
          [(shard, ⟨call.request, ⟨call.wakeupTime, system.nextSequence⟩, call.beganAt⟩)] } := by
  unfold schedule at taken
  cases entry : system.calls[index]? with
  | none => simp [entry] at taken
  | some call =>
      simp only [entry] at taken
      split at taken
      · contradiction
      · next shard routed =>
        exact ⟨call, shard, rfl, routed, (Option.some.inj taken).symm⟩

theorem Ordered.schedule {system next : System collate} {index : Nat}
    (ordered : Ordered initial system) (taken : system.schedule index = some next) :
    Ordered initial next := by
  rcases schedule_cases taken with ⟨call, target, entry, _, rfl⟩
  have member := List.mem_of_getElem? entry
  let event : DbEvent := ⟨call.request, ⟨call.wakeupTime, system.nextSequence⟩, call.beganAt⟩
  have callMember : ∀ other ∈ system.calls.eraseIdx index, other ∈ system.calls :=
    fun other otherMember => List.mem_of_mem_eraseIdx otherMember
  have pushedCases : ∀ {shard other}, (shard, other) ∈ system.pushed ++ [(target, event)] →
      (shard, other) ∈ system.pushed ∨ (shard = target ∧ other = event) := by
    intro shard other pushed
    rcases List.mem_append.mp pushed with old | new
    · exact .inl old
    · exact .inr (Prod.mk.inj (List.mem_singleton.mp new))
  have queued : ∀ shard other,
      other ∈ (Function.update system.shards target
        { system.shards target with events := (system.shards target).events.push event }
        shard).events.elements ↔
      (shard = target ∧ other = event) ∨ other ∈ (system.shards shard).events.elements := by
    intro shard other
    by_cases same : shard = target
    · subst same
      simp
    · simp [same]
  have working : ∀ shard,
      (Function.update system.shards target
        { system.shards target with events := (system.shards target).events.push event }
        shard).working = (system.shards shard).working := by
    intro shard
    by_cases same : shard = target
    · subst same
      simp
    · simp [Function.update_of_ne same]
  refine
    { callTime := fun other otherMember => ordered.callTime other (callMember other otherMember)
      callBegan := fun other otherMember =>
        (ordered.callBegan other (callMember other otherMember)).trans (Nat.le_succ _)
      callAfter := ?_
      pushedTime := ?_
      pushedNumber := ?_
      pushedAfter := ?_
      pendingPushed := ?_
      located := ?_
      overtaken := ?_
      store := ordered.store }
  · intro other otherMember shard earlierEvent pushed earlier
    have began := ordered.callBegan other (callMember other otherMember)
    rcases pushedCases pushed with old | ⟨rfl, rfl⟩
    · exact ordered.callAfter other (callMember other otherMember) shard earlierEvent old earlier
    · exact absurd earlier (Nat.not_lt.mpr began)
  · intro shard other pushed
    rcases pushedCases pushed with old | ⟨rfl, rfl⟩
    · exact ordered.pushedTime shard other old
    · exact ordered.callTime call member
  · intro shard other pushed
    rcases pushedCases pushed with old | ⟨rfl, rfl⟩
    · have bounds := ordered.pushedNumber shard other old
      exact ⟨bounds.1, Nat.lt_succ_of_lt bounds.2⟩
    · exact ⟨ordered.callBegan call member, Nat.lt_succ_self _⟩
  · intro shard first other later pushed laterPushed earlier
    rcases pushedCases pushed with old | ⟨rfl, rfl⟩
    · rcases pushedCases laterPushed with laterOld | ⟨rfl, rfl⟩
      · exact ordered.pushedAfter shard first other later old laterOld earlier
      · exact ordered.callAfter call member shard first old earlier
    · rcases pushedCases laterPushed with laterOld | ⟨rfl, rfl⟩
      · have bounds := ordered.pushedNumber other later laterOld
        exact absurd (earlier.trans_le (bounds.1.trans bounds.2.le)) (Nat.lt_irrefl _)
      · exact absurd (earlier.trans_le (ordered.callBegan call member)) (Nat.lt_irrefl _)
  · intro shard other pending
    apply List.mem_append.mpr
    rcases pending with waiting | ⟨phase, inHand⟩
    · rcases (queued shard other).mp waiting with ⟨rfl, rfl⟩ | old
      · exact .inr (List.mem_singleton.mpr rfl)
      · exact .inl (ordered.pendingPushed shard other (.inl old))
    · exact .inl (ordered.pendingPushed shard other (.inr ⟨phase, (working shard).symm.trans inHand⟩))
  · intro shard other pushed
    rcases pushedCases pushed with old | here
    · rcases ordered.located shard other old with (waiting | ⟨phase, inHand⟩) | done
      · exact .inl (.inl ((queued shard other).mpr (.inr waiting)))
      · exact .inl (.inr ⟨phase, (working shard).trans inHand⟩)
      · exact .inr done
    · exact .inl (.inl ((queued shard other).mpr (.inl here)))
  · intro shard inHand phase held waiting member
    have held' := (working shard).symm.trans held
    rcases (queued shard waiting).mp member with ⟨rfl, rfl⟩ | old
    · have bounds := ordered.pushedNumber shard inHand
        (ordered.pendingPushed shard inHand (.inr ⟨phase, held'⟩))
      exact bounds.1.trans bounds.2.le
    · exact ordered.overtaken shard inHand phase held' waiting old

/-- A worker takes the head of its queue. -/
theorem takeEvent_cases {system next : System collate} {shard : ShardIndex}
    (taken : system.takeEvent shard = some next) :
    (system.shards shard).working = none ∧ ∃ event rest,
      (system.shards shard).events.pop = some (event, rest) ∧
      next = { system with
        shards := Function.update system.shards shard ⟨rest, some (event, .received)⟩ } := by
  unfold takeEvent at taken
  simp only at taken
  split at taken
  · contradiction
  · next idle =>
    split at taken
    · contradiction
    · next event rest popped =>
      split at taken
      · exact ⟨idle, event, rest, popped, (Option.some.inj taken).symm⟩
      · contradiction

/-- The taken event overtakes no event that was pushed before it began. -/
theorem Ordered.takeEvent {system next : System collate} {shard : ShardIndex}
    (ordered : Ordered initial system) (taken : system.takeEvent shard = some next) :
    Ordered initial next := by
  rcases takeEvent_cases taken with ⟨idle, event, rest, popped, rfl⟩
  have elements := PriorityQueue.elements_of_pop popped
  have first := PriorityQueue.before_of_pop popped
  have pending : ∀ target other,
      Pending { system with
        shards := Function.update system.shards shard ⟨rest, some (event, .received)⟩ }
        target other ↔ system.Pending target other := by
    intro target other
    by_cases same : target = shard
    · subst same
      simp [Pending, elements, idle, eq_comm, or_comm]
    · simp [Pending, Function.update_of_ne same]
  have eventPushed : (shard, event) ∈ system.pushed :=
    ordered.pendingPushed shard event (.inl (by simp [elements]))
  refine
    { ordered with
      pendingPushed := fun target other waits =>
        ordered.pendingPushed target other ((pending target other).mp waits)
      located := ?_
      overtaken := ?_ }
  · intro target other pushed
    rcases ordered.located target other pushed with waits | done
    · exact .inl ((pending target other).mpr waits)
    · exact .inr done
  · intro target inHand phase held waiting member
    by_cases same : target = shard
    · subst same
      simp only [Function.update_self, Option.some.injEq, Prod.mk.injEq] at held member
      rcases held with ⟨rfl, _⟩
      have waitingPushed : (target, waiting) ∈ system.pushed :=
        ordered.pendingPushed target waiting (.inl (by simp [elements, member]))
      have number := (ordered.pushedNumber target event eventPushed).1
      by_contra sooner
      have time := ordered.pushedAfter target waiting target event waitingPushed eventPushed
        (Nat.lt_of_not_le sooner)
      exact Stamp.not_le_of_earlier time
        ((Nat.lt_of_not_le sooner).trans_le number) (first waiting member)
    · simp only [Function.update_of_ne same] at held member
      exact ordered.overtaken target inHand phase held waiting member

/-- One database call leaves everything outside its shard, the tables and the
results alone; it keeps the event in hand or finishes it. -/
theorem process_cases {system next : System collate} {shard : ShardIndex}
    (taken : system.process shard = some next) :
    ∃ event phase, (system.shards shard).working = some (event, phase) ∧
      next.now = system.now ∧ next.nextSequence = system.nextSequence ∧
      next.calls = system.calls ∧ next.pushed = system.pushed ∧
      ∃ working, next.shards =
          Function.update system.shards shard { system.shards shard with working := working } ∧
        ((∃ later, working = some (event, later) ∧ event.request.isWrite = false ∧
            next.committed = system.committed ∧ next.store = system.store) ∨
          (working = none ∧ next.committed = system.committed ++ [event] ∧
            next.store = event.apply system.store) ∨
          (working = none ∧ event.request.isWrite = false ∧
            next.committed = system.committed ∧ next.store = system.store)) := by
  unfold process at taken
  split at taken
  · contradiction
  · next event phase held =>
    refine ⟨event, phase, held, ?_⟩
    split at taken
    · next session name password login =>
      have reads : event.request.isWrite = false := by rw [login]; rfl
      split at taken
      · split at taken
        · obtain rfl := Option.some.inj taken
          exact ⟨rfl, rfl, rfl, rfl, _, rfl, .inl ⟨_, rfl, reads, rfl, rfl⟩⟩
        · obtain rfl := Option.some.inj taken
          exact ⟨rfl, rfl, rfl, rfl, _, rfl, .inl ⟨_, rfl, reads, rfl, rfl⟩⟩
      · obtain rfl := Option.some.inj taken
        exact ⟨rfl, rfl, rfl, rfl, _, rfl, .inl ⟨_, rfl, reads, rfl, rfl⟩⟩
      · obtain rfl := Option.some.inj taken
        exact ⟨rfl, rfl, rfl, rfl, _, rfl, .inr (.inr ⟨rfl, reads, rfl, rfl⟩)⟩
      · obtain rfl := Option.some.inj taken
        exact ⟨rfl, rfl, rfl, rfl, _, rfl, .inr (.inl ⟨rfl, rfl, rfl⟩)⟩
    · obtain rfl := Option.some.inj taken
      exact ⟨rfl, rfl, rfl, rfl, _, rfl, .inr (.inl ⟨rfl, rfl, rfl⟩)⟩

/-- A call on a connection writes, or goes on to the next call. -/
theorem Ordered.process {system next : System collate} {shard : ShardIndex}
    (ordered : Ordered initial system) (taken : system.process shard = some next) :
    Ordered initial next := by
  rcases process_cases taken with
    ⟨event, phase, held, now, sequence, calls, pushed, working, shards, outcome⟩
  have waitingSame : ∀ target, (next.shards target).events = (system.shards target).events := by
    intro target
    rw [shards]
    by_cases same : target = shard
    · subst same
      simp
    · simp [Function.update_of_ne same]
  have heldBefore : ∀ target other later,
      (next.shards target).working = some (other, later) →
      ∃ earlier, (system.shards target).working = some (other, earlier) := by
    intro target other later inHand
    rw [shards] at inHand
    by_cases same : target = shard
    · subst same
      simp only [Function.update_self] at inHand
      rcases outcome with ⟨_, rfl, _⟩ | ⟨rfl, _⟩ | ⟨rfl, _⟩
      · obtain ⟨rfl, _⟩ := Prod.mk.inj (Option.some.inj inHand)
        exact ⟨phase, held⟩
      · contradiction
      · contradiction
    · exact ⟨later, by simpa [Function.update_of_ne same] using inHand⟩
  have pendingBefore : ∀ target other, next.Pending target other →
      system.Pending target other := by
    rintro target other (waits | ⟨later, inHand⟩)
    · exact .inl (waitingSame target ▸ waits)
    · exact .inr (heldBefore target other later inHand)
  have pendingAfter : ∀ target other, system.Pending target other →
      next.Pending target other ∨ (other.request.isWrite → other ∈ next.committed) := by
    rintro target other (waits | ⟨earlier, inHand⟩)
    · exact .inl (.inl ((waitingSame target).symm ▸ waits))
    · by_cases same : target = shard
      · subst same
        obtain ⟨rfl, rfl⟩ := Prod.mk.inj (Option.some.inj (held.symm.trans inHand))
        rcases outcome with ⟨later, rfl, _⟩ | ⟨_, committed, _⟩ | ⟨_, reads, _⟩
        · exact .inl (.inr ⟨later, by rw [shards]; simp⟩)
        · exact .inr fun _ => by rw [committed]; simp
        · exact .inr fun writes => absurd writes (by simp [reads])
      · exact .inl (.inr ⟨earlier, by rw [shards]; simpa [Function.update_of_ne same] using inHand⟩)
  have committedGrows : ∀ other ∈ system.committed, other ∈ next.committed := by
    intro other member
    rcases outcome with ⟨_, _, _, same, _⟩ | ⟨_, grown, _⟩ | ⟨_, _, same, _⟩
    · exact same ▸ member
    · rw [grown]
      exact List.mem_append_left _ member
    · exact same ▸ member
  refine
    { callTime := by rw [calls, now]; exact ordered.callTime
      callBegan := by rw [calls, sequence]; exact ordered.callBegan
      callAfter := by rw [calls, pushed]; exact ordered.callAfter
      pushedTime := by rw [pushed, now]; exact ordered.pushedTime
      pushedNumber := by rw [pushed, sequence]; exact ordered.pushedNumber
      pushedAfter := by rw [pushed]; exact ordered.pushedAfter
      pendingPushed := fun target other waits =>
        pushed.symm ▸ ordered.pendingPushed target other (pendingBefore target other waits)
      located := ?_
      overtaken := ?_
      store := ?_ }
  · intro target other member
    rw [pushed] at member
    rcases ordered.located target other member with waits | done
    · exact pendingAfter target other waits
    · exact .inr fun writes => committedGrows other (done writes)
  · intro target other later inHand waiting member
    rcases heldBefore target other later inHand with ⟨earlier, before⟩
    rw [waitingSame] at member
    exact ordered.overtaken target other earlier before waiting member
  · rcases outcome with ⟨_, _, _, committed, store⟩ | ⟨_, committed, store⟩ |
      ⟨_, _, committed, store⟩
    · rw [committed, store, ordered.store]
    · rw [committed, store, ordered.store, replay_append]
      rfl
    · rw [committed, store, ordered.store]

theorem Ordered.step {system next : System collate} {label : Label}
    (taken : DBThread.step hash label system = some next) (ordered : Ordered initial system) :
    Ordered initial next := by
  cases label with
  | tick elapsed =>
      obtain rfl := Option.some.inj taken
      exact ordered.tick elapsed
  | issue request =>
      obtain rfl := Option.some.inj taken
      exact ordered.issue request
  | route index => exact ordered.route taken
  | schedule index => exact ordered.schedule taken
  | takeEvent shard => exact ordered.takeEvent taken
  | process shard => exact ordered.process taken

/-- The events are ordered after any run. -/
theorem ordered_of_run {labels : List Label} {system : System collate}
    (ran : run (DBThread.step hash) labels (boot initial) = some system) :
    Ordered initial system :=
  invariant_of_run (fun _ _ _ taken ordered => Ordered.step taken ordered) ran ordered_boot

end System

/-! ## Logins -/

/-- At every database call of a login, in every run, the tables are the
initial ones with all committed writes applied, and every write whose request
returned before the login's request began is committed, except those that
still wait, or are in the worker's hand, on another shard. -/
theorem login_sees_earlier_writes (hash : String → Nat) (initial : Store collate)
    (labels : List Label) (system : System collate)
    (ran : run (DBThread.step hash) labels (boot initial) = some system)
    (shard : ShardIndex) (login : DbEvent) (phase : LoginPhase)
    (working : (system.shards shard).working = some (login, phase)) :
    system.store = replay DbEvent.apply system.committed initial ∧
      ∀ target write, (target, write) ∈ system.pushed → write.request.isWrite →
        write.stamp.sequence < login.beganAt →
        write ∈ system.committed ∨ (target ≠ shard ∧ system.Pending target write) := by
  have ordered := System.ordered_of_run ran
  refine ⟨ordered.store, ?_⟩
  intro target write pushed writes earlier
  rcases ordered.located target write pushed with pending | done
  · by_cases same : target = shard
    · subst same
      have loginPushed := ordered.pendingPushed target login (.inr ⟨phase, working⟩)
      rcases pending with waits | ⟨other, inHand⟩
      · exact absurd earlier
          (Nat.not_lt.mpr (ordered.overtaken target login phase working write waits))
      · obtain ⟨rfl, _⟩ := Prod.mk.inj (Option.some.inj (working.symm.trans inHand))
        exact absurd earlier (Nat.not_lt.mpr (ordered.pushedNumber target login loginPushed).1)
    · exact .inr ⟨same, pending⟩
  · exact .inl (done writes)

/-! ## A stale read -/

/-- The request writes the row, or an inventory row, of the account. -/
def DbRequest.ofAccount (players : PlayersTable collate) (name : String) : DbRequest → Prop
  | .login .. => False
  | .saveUser _ saved .. => collate saved = collate name
  | .item request => ∃ row, players.find name = some row ∧ request.playerId = row.playerId

/-- The login reads its account's earlier writes: whenever it is about to read
the player row or the inventory rows, all of them are committed. -/
def LoginReadsOwnWrites (hash : String → Nat) (initial : Store collate) : Prop :=
  ∀ labels system, run (DBThread.step hash) labels (boot initial) = some system →
    ∀ shard login session name password phase,
      (system.shards shard).working = some (login, phase) →
      login.request = .login session name password →
      (phase = .registered ∨ ∃ userInfo, phase = .extracted userInfo) →
      ∀ target write, (target, write) ∈ system.pushed → write.request.isWrite →
        write.request.ofAccount system.store.players name →
        write.stamp.sequence < login.beganAt → write ∈ system.committed

/-- An account of level 2. -/
def bob : PlayerRow :=
  ⟨1, "bob", "", 10, 10, 2, 5⟩

/-- The tables with that account and no item. -/
def bobStore : Store id where
  players :=
    { rows := [bob]
      nextId := 2
      primaryKey := by decide
      uniqueNames := by decide
      identity := by simp [bob]
      one_le_nextId := by decide }
  inventory := ⟨[], by decide⟩

/-- The shard that the round robin gives to the first login. -/
def loginShard : ShardIndex :=
  shardForPlayerId 0

/-- The previous session's last save goes to shard one, the next login to
shard zero, whose worker is faster. -/
def staleLogin : List Label :=
  [.issue (.item (.saveItem 1 3 1 5 false)), .route 0, .schedule 0,
    .issue (.login 7 "bob" ""), .route 0, .schedule 0, .takeEvent loginShard,
    .process loginShard, .process loginShard]

/-- The save that is still pending when the player logs in again. -/
def lastSave : DbEvent :=
  ⟨.item (.saveItem 1 3 1 5 false), ⟨0, 0⟩, 0⟩

/-- The login that follows it. -/
def nextLogin : DbEvent :=
  ⟨.login 7 "bob" "", ⟨0, 1⟩, 1⟩

/-- The tables and shards the stale login reaches. -/
theorem staleLogin_reaches : ∃ system,
    run (DBThread.step fun _ => 0) staleLogin (boot bobStore) = some system ∧
    (system.shards 0).working = some (nextLogin, .extracted ⟨1, "bob", "", 10, 10, 2, 5⟩) ∧
    system.pushed = [(1, lastSave), (0, nextLogin)] ∧ system.committed = [] ∧
    system.store.players.find "bob" = some bob := by
  have completes : (run (DBThread.step fun _ => 0) staleLogin (boot bobStore)).isSome := by rfl
  rcases Option.isSome_iff_exists.mp completes with ⟨system, ran⟩
  refine ⟨system, ran, ?_⟩
  obtain rfl := Option.some.inj ran
  exact ⟨rfl, rfl, rfl, rfl⟩

/-- The login on shard 0 reads the row before shard 1 has saved it. -/
theorem not_loginReadsOwnWrites : ¬LoginReadsOwnWrites (fun _ => 0) bobStore := by
  intro fresh
  rcases staleLogin_reaches with ⟨system, ran, working, pushed, committed, found⟩
  have saved := fresh staleLogin system ran 0 nextLogin 7 "bob" "" _ working rfl (.inr ⟨_, rfl⟩) 1
    lastSave (by simp [pushed]) rfl ⟨bob, found, rfl⟩ (by decide)
  simp [committed] at saved

/-- The same run: the save that the login misses waits on shard one. -/
theorem login_sees_earlier_writes_sample : ∃ system,
    run (DBThread.step fun _ => 0) staleLogin (boot bobStore) = some system ∧
    system.store = replay DbEvent.apply system.committed bobStore ∧
    ∀ target write, (target, write) ∈ system.pushed → write.request.isWrite →
      write.stamp.sequence < nextLogin.beganAt →
      write ∈ system.committed ∨ (target ≠ 0 ∧ system.Pending target write) := by
  rcases staleLogin_reaches with ⟨system, ran, working, _⟩
  exact ⟨system, ran, login_sees_earlier_writes (fun _ => 0) bobStore staleLogin system ran 0
    nextLogin _ working⟩

end Mmorpg.DBThread
