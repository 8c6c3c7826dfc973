import Mmorpg.World.FollowUp
import Mmorpg.World.LoginFailure
import Mmorpg.World.Station

/-!
# Requests wait where their user is

If no request or disconnect of a user waits on another thread when the user
enters a zone, and every login lands in the zone it runs in, then whatever acts
on a user runs on the thread of the user's zone.
-/

namespace Mmorpg

open ZoneLayout Transition

variable {grid : CollisionGrid}

namespace World

/-- The head of a queue that is about to act on a user. -/
inductive Touches (world : World) : Task → ObjID → Prop
  | request {session : Nat} {packet : ClientPacket} {client : Subject} {user : User} :
      packet.isGuarded = true → world.playing session packet.needsAlive = some (client, user) →
      Touches world (.dispatch session packet) (ObjID.user session)
  | disconnect {clientId : ObjID} {client : Subject} {user : User} :
      world.getUser clientId = some (client, user) →
      ¬(client.transform.transferring = true ∧ isValidZoneId client.transform.zoneId = true) →
      Touches world (.disconnect clientId) clientId

/-- Whatever acts on a user runs on the thread of the user's zone. -/
def OwnershipSafe (world : World) : Prop :=
  ∀ thread task rest id, world.queues thread = task :: rest → Touches world task id →
    isValidZoneId thread = true ∧ world.objectZones id = some thread

variable {session : Nat} {world : World}

/-- The user is in a zone, and unless it is between two zones everything that
may act on it waits there. -/
def Resident (session : Nat) (world : World) : Prop :=
  ∀ zoneId transferring, (world.view session).station = .inside zoneId transferring →
    isValidZoneId zoneId = true ∧ (transferring = false →
      ∀ thread, ∀ task ∈ world.queues thread, task.concerns session = true → thread = zoneId)

/-- Nothing of the user that the task brings waits on another thread, and a
login lands on this one. -/
def isUnopposed (thread : Nat) (choice : Choice grid) (task : Task) (world : World) : Bool :=
  match world.brought task with
  | none => true
  | some session =>
      task.landsOn thread choice ∧ gameThreads.all fun other =>
        other = thread ∨ (world.queues other).all fun pending => !pending.concerns session

/-- Whoever is brought in finds its requests on the thread it comes to. -/
theorem isUnopposed_of_brought {thread : Nat} {choice : Choice grid} {task : Task}
    (confined : world.Confined) (unopposed : world.isUnopposed thread choice task = true)
    (brings : world.brought task = some session) :
    task.landsOn thread choice = true ∧ ∀ other, ∀ pending ∈ world.queues other,
      pending.concerns session = true → other = thread := by
  unfold isUnopposed at unopposed
  rw [brings] at unopposed
  simp only [List.all_eq_true, decide_eq_true_eq, Bool.not_eq_true'] at unopposed
  refine ⟨unopposed.1, ?_⟩
  intro other pending member concerns
  refine (unopposed.2 other (confined other pending member)).resolve_right ?_
  intro absent
  rw [absent pending member] at concerns
  contradiction

/-- A user in a zone is mapped to it. -/
theorem objectZones_of_getUser (mapped : Mapped world) {id : ObjID} {client : Subject} {user : User}
    (found : world.getUser id = some (client, user))
    (valid : isValidZoneId client.transform.zoneId = true) :
    world.objectZones id = some client.transform.zoneId := by
  have zone := mapped.zonesAgree.zones _ _ (getUser_eq_some.mp found).1
  cases entry : world.objectZones id with
  | none =>
    rw [zone, getObjectZone, entry] at valid
    contradiction
  | some zoneId =>
    rw [zone, getObjectZone, entry, Option.getD_some]

/-- Residents are touched on their own threads. -/
theorem ownershipSafe_of_resident (mapped : Mapped world)
    (resident : ∀ session, world.Resident session) : world.OwnershipSafe := by
  intro thread task rest id queued touches
  have member : task ∈ world.queues thread := queued ▸ List.mem_cons_self
  cases touches with
  | request guarded allowed =>
    next session packet client user =>
    obtain ⟨_, found, _, still⟩ := playing_eq_some.mp allowed
    rcases resident session _ _ (station_of_getUser found) with ⟨valid, settled⟩
    have home := settled still thread _ member (by simp [Task.concerns, guarded])
    rw [home]
    exact ⟨valid, objectZones_of_getUser mapped found valid⟩
  | disconnect found here =>
    next client user =>
    obtain ⟨session, rfl⟩ : ∃ session, id = ObjID.user session := ⟨_, mapped.user found⟩
    rcases resident session _ _ (station_of_getUser found) with ⟨valid, settled⟩
    have still : client.transform.transferring = false :=
      eq_false_of_ne_true fun away => here ⟨away, valid⟩
    have home := settled still thread _ member (decide_eq_true rfl)
    rw [home]
    exact ⟨valid, objectZones_of_getUser mapped found valid⟩

/-- A second try of a disconnect is queued for a user between two zones. -/
theorem station_of_followUp {zoneId : Nat} {choice : Choice grid} {task next : Task}
    (follows : world.followUp choice task = some (zoneId, next))
    (concerns : next.concerns session = true) :
    ∃ home, (world.view session).station = .inside home true := by
  unfold followUp at follows
  split at follows
  · split at follows
    · contradiction
    · split at follows
      · rw [← (Prod.mk.inj (Option.some.inj follows)).2] at concerns
        contradiction
      · contradiction
  · next clientId =>
    split at follows
    · contradiction
    · next client user found =>
      split at follows
      · next away =>
        rw [← (Prod.mk.inj (Option.some.inj follows)).2] at concerns
        obtain rfl : clientId = ObjID.user session := of_decide_eq_true concerns
        exact ⟨_, by rw [station_of_getUser found, away.1]⟩
      · contradiction
  · contradiction

/-- A task that brings somebody in queues nothing. -/
theorem followUp_of_brought {choice : Choice grid} {task : Task} {other : World}
    (brings : world.brought task = some session) : other.followUp choice task = none := by
  cases task with
  | dispatch sender packet => contradiction
  | disconnect clientId => contradiction
  | _ => rfl

end World

namespace Server

variable {collate : String → String}

/-- A user enters a zone only when nothing of it waits elsewhere. -/
def isUnopposed (label : Label grid) (server : Server collate) : Bool :=
  match label with
  | .run thread choice =>
      match server.world.queues thread with
      | [] => true
      | task :: _ => server.world.isUnopposed thread choice task
  | _ => true

variable {label : Label grid} {before after : Server collate} {session : Nat}

/-- What a worker queues for a user in a zone goes to that zone. -/
theorem thread_of_puts {zoneId home : Nat} {task : Task} (mapped : World.Mapped before.world)
    (noTask : ∀ thread choice, label ≠ .run thread choice)
    (put : before.puts label = some (zoneId, task)) (concerns : task.concerns session = true)
    (inside : (before.world.view session).station = .inside home false)
    (valid : isValidZoneId home = true) : World.threadOf zoneId = home := by
  obtain ⟨client, user, found, rfl, _⟩ := World.station_eq_inside inside
  have home : World.threadOf client.transform.zoneId = client.transform.zoneId := if_pos valid
  cases label with
  | accept => contradiction
  | receive sender packet =>
    rcases Option.map_eq_some_iff.mp put with ⟨record, recorded, queued⟩
    rw [Prod.mk.injEq] at queued
    rcases queued with ⟨rfl, rfl⟩
    simp only [Task.concerns, decide_eq_true_eq] at concerns
    obtain ⟨rfl, _⟩ := concerns
    obtain rfl := Option.some.inj (recorded.symm.trans (mapped.stands found).2)
    exact home
  | hangUp sender =>
    unfold puts at put
    dsimp only at put
    split at put
    · rw [Option.some.injEq, Prod.mk.injEq] at put
      rcases put with ⟨rfl, rfl⟩
      have same : ObjID.user sender = ObjID.user session := of_decide_eq_true concerns
      rw [same, World.getObjectZone, World.objectZones_of_getUser mapped found valid,
        Option.getD_some]
      exact home
    · rw [Option.some.injEq, Prod.mk.injEq] at put
      rw [← put.2] at concerns
      contradiction
  | fire index =>
    rcases Option.map_eq_some_iff.mp put with ⟨event, _, queued⟩
    rw [← (Prod.mk.inj queued).2] at concerns
    contradiction
  | database index calls written =>
    have handed : before.handsOver index calls = some (zoneId, task) := put
    unfold handsOver at handed
    split at handed
    · split at handed
      · rw [← (Prod.mk.inj (Option.some.inj handed)).2] at concerns
        contradiction
      · rw [← (Prod.mk.inj (Option.some.inj handed)).2] at concerns
        contradiction
      · contradiction
    · contradiction
  | run thread choice => exact absurd rfl (noTask thread choice)

/-- Every step that meets the condition keeps requests with their owners. -/
theorem step_resident (handed : World.Handed before.world) (confined : before.world.Confined)
    (unopposed : isUnopposed label before = true) (taken : step label before = some after)
    (resident : before.world.Resident session) : after.world.Resident session := by
  have filed := handed.mapped.filed
  by_cases isRun : ∃ thread choice, label = .run thread choice
  · obtain ⟨thread, choice, rfl⟩ := isRun
    obtain ⟨task, rest, queued, stations⟩ := station_of_run taken handed
    have free : before.world.isUnopposed thread choice task = true := by
      unfold isUnopposed at unopposed
      dsimp only at unopposed
      rw [queued] at unopposed
      exact unopposed
    have put : before.puts (.run thread choice) =
        (before.world.popped thread rest).followUp choice task := by
      unfold puts
      dsimp only
      rw [queued]
    -- whoever the task brings into a zone has nothing waiting on another thread
    have brings : before.world.brought task = some session → ∀ place pending,
        pending ∈ after.world.queues place → pending.concerns session = true →
          place = thread := by
      intro brought place pending member concerns
      rcases mem_queues_of_step filed taken member with old | ⟨zoneId, new, _⟩
      · exact (World.isUnopposed_of_brought confined free brought).2 place pending old concerns
      · rw [put, World.followUp_of_brought brought] at new
        contradiction
    intro zoneId transferring inside
    have moved := stations session
    generalize start : (before.world.view session).station = old at moved
    rw [inside] at moved
    cases moved with
    | stays =>
      obtain ⟨valid, settled⟩ := resident zoneId transferring start
      refine ⟨valid, ?_⟩
      rintro rfl place pending member concerns
      rcases mem_queues_of_step filed taken member with old | ⟨target, new, _⟩
      · exact settled rfl place pending old concerns
      · rw [put] at new
        obtain ⟨home, away⟩ := World.station_of_followUp new concerns
        have between : (before.world.view session).station = .inside home true := away
        rw [start] at between
        exact absurd between (by simp)
    | departs packet zone new _ valid =>
      exact ⟨valid, fun still => absurd still (by simp)⟩
    | arrives brought valid =>
      exact ⟨valid, fun _ => brings brought⟩
    | appears zone brought valid lands =>
      obtain rfl := lands (World.isUnopposed_of_brought confined free brought).1
      exact ⟨valid, fun _ => brings brought⟩
  · have noTask : ∀ thread choice, label ≠ .run thread choice :=
      fun thread choice same => isRun ⟨thread, choice, same⟩
    intro zoneId transferring inside
    rw [station_of_noTask taken noTask handed] at inside
    obtain ⟨valid, settled⟩ := resident zoneId transferring inside
    refine ⟨valid, ?_⟩
    rintro rfl place pending member concerns
    rcases mem_queues_of_step filed taken member with old | ⟨target, new, rfl⟩
    · exact settled rfl place pending old concerns
    · exact thread_of_puts handed.mapped noTask new concerns inside valid

theorem boot_resident (count : Nat) (draw : Nat → Int × Int) (session : Nat) :
    (World.boot count draw).Resident session := by
  intro zoneId transferring inside
  rw [(World.boot_aside count draw).view] at inside
  contradiction

theorem boot_confined (count : Nat) (draw : Nat → Int × Int) :
    (World.boot count draw).Confined := by
  intro thread task member
  rw [(World.boot_aside count draw).queues] at member
  contradiction

/-- As long as nothing of a user waits elsewhere when it enters a zone. -/
theorem requests_owned {count : Nat} {draw : Nat → Int × Int} {store : Store collate}
    {labels : List (Label grid)} {server : Server collate}
    (unopposed : Along step (fun label server => isUnopposed label server = true) labels
      (boot count draw store))
    (ran : run step labels (boot count draw store) = some server) :
    server.world.OwnershipSafe := by
  have stepwise : ∀ (label : Label grid) (before after : Server collate),
      isUnopposed label before = true → step label before = some after →
        World.Handed before.world ∧ before.world.Confined ∧
          (∀ session, before.world.Resident session) →
        World.Handed after.world ∧ after.world.Confined ∧
          ∀ session, after.world.Resident session := by
    rintro label before after free taken ⟨handed, confined, resident⟩
    exact ⟨step_handed taken handed, step_confined handed.mapped.filed taken confined,
      fun session => step_resident handed confined free taken (resident session)⟩
  have kept := invariant_of_along stepwise unopposed ran
    ⟨boot_handed count draw, boot_confined count draw, boot_resident count draw⟩
  exact World.ownershipSafe_of_resident kept.1.mapped kept.2.2

/-- A stored player logs in, walks, goes to the next zone and leaves. -/
def commute : List (Label initCollisionTile) :=
  [.accept, .receive 1 (.userLoginReq "kim" ""), .run invalidZoneId .steady, .database 0 {} true,
    .run 0 .steady, .receive 1 (.userMoveReq 7), .run 0 .steady,
    .receive 1 (.userTeleportReq 509 9), .run 0 .steady, .receive 1 (.userMoveReq 7),
    .run 1 .steady, .run 1 .steady, .hangUp 1]

/-- A player walks into the next zone and leaves. -/
theorem requests_owned_sample :
    ∃ server, run step commute (boot 0 World.steadyDraw World.savedStore) = some server ∧
      server.world.OwnershipSafe := by
  have completes : (run step commute (boot 0 World.steadyDraw World.savedStore)).isSome := by rfl
  obtain ⟨server, ran⟩ := Option.isSome_iff_exists.mp completes
  exact ⟨server, ran, requests_owned (along_of_check (by rfl)) ran⟩

/-- A request that arrives before the login completes waits on the thread
without a zone and gets past its guards there. -/
theorem request_unowned :
    ∃ server, run step
        [.accept, .receive 1 (.userLoginReq "kim" ""), .run invalidZoneId .steady,
          .database 0 {} true, .receive 1 (.userMoveReq 7), .run 0 .steady]
        (boot 0 World.steadyDraw World.savedStore) = some server ∧
      ¬server.world.OwnershipSafe := by
  refine ⟨_, rfl, ?_⟩
  intro safe
  have owned := safe invalidZoneId _ _ (ObjID.user 1) rfl (.request rfl rfl)
  exact absurd owned.1 (by decide)

end Server

end Mmorpg
