import Mmorpg.World.Ground
import Mmorpg.World.LedgerTasks
import Mmorpg.World.LifeCycle

/-!
# Items are conserved

In every run, for the users of a zone and what lies in its cells: requests that
move items keep every total, drops add what was rolled, and only uses and
despawns take away.  An item on the ground is removed once.
-/

namespace Mmorpg

open ZoneLayout Transition

variable {grid : CollisionGrid}

/-- The requests that move items about. -/
def ClientPacket.movesItems : ClientPacket → Bool
  | itemEquipReq _ | itemUnequipReq _ | itemSwapReq .. | itemDiscardReq .. | itemPickupReq => true
  | _ => false

/-- The requests that may kill monsters. -/
def ClientPacket.attacks : ClientPacket → Bool
  | userAttackReq _ | userSkillReq => true
  | _ => false

/-- The tasks that may move, bring or take items. -/
def Task.concernsItems : Task → Bool
  | dispatch _ (.itemUseReq _) => true
  | dispatch _ packet => packet.movesItems || packet.attacks
  | timer .evItemDespawn _ _ | timer .evItemLootPriorityExpire _ _ => true
  | _ => false

namespace World

/-- What a task adds to the pieces of an item, and what it takes away. -/
inductive Entry (zone : Nat) (choice : Choice grid) (itemId : ItemTableId) (before after : World) :
    Task → Nat → Nat → Prop
  | moved {session : Nat} {packet : ClientPacket} :
      packet.movesItems = true → Entry zone choice itemId before after (.dispatch session packet) 0 0
  | used {session : Nat} {index : SlotIndex} :
      Entry zone choice itemId before after (.dispatch session (.itemUseReq index)) 0
        (if (news session before after).any ServerPacket.confirmsUse = true then
          min 1 (heldCount itemId (before.slotOf session index)) else 0)
  | hunted {session : Nat} {packet : ClientPacket} {kills : List Kill} :
      packet.attacks = true → Hunted zone choice (ObjID.user session) kills before after →
        Entry zone choice itemId before after (.dispatch session packet)
          (Kill.loot choice itemId kills) 0
  | expired {id targetId : ObjID} :
      Entry zone choice itemId before after (.timer .evItemLootPriorityExpire id targetId) 0 0
  | despawned {id targetId : ObjID} :
      Entry zone choice itemId before after (.timer .evItemDespawn id targetId) 0
        (before.share zone itemId id)

/-- A request comes from one of the members, who is a user of the zone. -/
def FromZone (zone : Nat) (members : Finset Nat) (task : Task) (world : World) : Prop :=
  ∀ session packet, task = .dispatch session packet → session ∈ members ∧
    ∃ client user, world.getUser (ObjID.user session) = some (client, user) ∧
      client.transform.zoneId = zone

variable {zone session number : Nat} {choice : Choice grid} {itemId : ItemTableId}
  {members : Finset Nat} {task : Task} {rest : List Task} {packet : ClientPacket}
  {world after : World}

theorem total_congr (objects : after.objects = world.objects) (cells : after.cells = world.cells) :
    after.total members zone itemId = world.total members zone itemId := by
  have core : ∀ id, after.coreOf id = world.coreOf id := fun id => by rw [coreOf, coreOf, objects]
  have lying : after.lying zone itemId = world.lying zone itemId :=
    lying_congr (fun id => pieces_congr (core id)) cells
  rw [World.total, World.total, lying]
  congr 1
  exact Finset.sum_congr rfl fun session _ => carried_congr (core _)

/-- An entry for the task without it in its queue. -/
theorem Entry.unpopped {gain loss : Nat}
    (entry : Entry zone choice itemId (world.popped zone rest) after task gain loss) :
    Entry zone choice itemId world after task gain loss := by
  cases entry with
  | moved moves => exact .moved moves
  | used => exact .used
  | hunted attacks hunted => exact .hunted attacks hunted.unpopped
  | expired => exact .expired
  | despawned => exact .despawned

/-- What the balance of a task rests on. -/
structure Balanced (world : World) : Prop where
  stored : Stored world
  herded : Herded world
  grounded : Grounded world

/-! ## Requests -/

theorem movesItems_total (balanced : Balanced world) (valid : isValidZoneId zone = true)
    (fromZone : FromZone zone members (.dispatch session packet) world)
    (moves : packet.movesItems = true)
    (ran : world.dispatch zone choice session packet = some after) :
    after.total members zone itemId = world.total members zone itemId := by
  rcases fromZone session packet rfl with ⟨member, client, user, found, home⟩
  cases packet with
  | itemEquipReq index => exact (equipRequest_rearranges ran).total member
  | itemUnequipReq index => exact (unequipRequest_rearranges ran).total member
  | itemSwapReq indexA indexB => exact (swapRequest_rearranges ran).total member
  | itemDiscardReq index count =>
    rcases discardRequest_cases ran with rearranges | ⟨_, _, extracted, stored, spawned, discards⟩
    · exact rearranges.total member
    · obtain ⟨rfl, rfl⟩ := Prod.mk.inj (Option.some.inj (discards.found.symm.trans found))
      refine discards.total balanced.stored.numbering member ?_
      have inZone := balanced.grounded _ _ (userTransform_eq_some.mpr ⟨_, _, found, rfl⟩)
      exact (inZone (home ▸ valid)).trans home
  | itemPickupReq =>
    rcases pickupRequest_cases ran with ⟨plain, _⟩ | ⟨_, _, _, _, picks, _⟩
    · exact total_plain plain
    · exact picks.total balanced.stored member
  | _ => contradiction

theorem attacks_hunt (attacks : packet.attacks = true)
    (ran : world.dispatch zone choice session packet = some after) :
    ∃ kills, Hunt zone choice (ObjID.user session) world kills after := by
  cases packet with
  | userAttackReq facing => exact attackRequest_hunt ran
  | userSkillReq => exact skillRequest_hunt ran
  | _ => contradiction

/-- Every request about items balances. -/
theorem dispatch_balance (balanced : Balanced world) (valid : isValidZoneId zone = true)
    (fromZone : FromZone zone members (.dispatch session packet) world)
    (concerns : (Task.dispatch session packet).concernsItems = true)
    (ran : world.dispatch zone choice session packet = some after) :
    ∃ gain loss, Entry zone choice itemId world after (.dispatch session packet) gain loss ∧
      after.total members zone itemId + loss = world.total members zone itemId + gain := by
  by_cases moves : packet.movesItems = true
  · exact ⟨0, 0, .moved moves, congrArg (· + 0) (movesItems_total balanced valid fromZone moves ran)⟩
  · by_cases attacks : packet.attacks = true
    · rcases attacks_hunt attacks ran with ⟨kills, hunt⟩
      have numbering := balanced.stored.numbering
      exact ⟨_, 0, .hunted attacks (hunt.hunted numbering.mapped),
        hunt.total rfl numbering balanced.herded⟩
    · cases packet with
      | itemUseReq index =>
        exact ⟨0, _, .used, useRequest_total (fromZone _ _ rfl).1 ran⟩
      | itemEquipReq => exact absurd rfl moves
      | itemUnequipReq => exact absurd rfl moves
      | itemSwapReq => exact absurd rfl moves
      | itemDiscardReq => exact absurd rfl moves
      | itemPickupReq => exact absurd rfl moves
      | userAttackReq => exact absurd rfl attacks
      | userSkillReq => exact absurd rfl attacks
      | _ => contradiction

theorem Stored.popped (stored : Stored world)
    (queued : world.queues zone = .dispatch session packet :: rest) :
    Stored (world.popped zone rest) where
  numbering := stored.numbering.popped queued
  shelves number := by
    apply (stored.shelves number).popped queued
    exact fun isEvent => absurd isEvent Bool.false_ne_true

/-- Every task about items balances. -/
theorem exec_balance (queued : world.queues zone = task :: rest) (balanced : Balanced world)
    (valid : isValidZoneId zone = true) (fromZone : FromZone zone members task world)
    (concerns : task.concernsItems = true)
    (ran : (world.popped zone rest).exec zone choice task = some after) :
    ∃ gain loss, Entry zone choice itemId world after task gain loss ∧
      after.total members zone itemId + loss = world.total members zone itemId + gain := by
  have same : (world.popped zone rest).total members zone itemId =
      world.total members zone itemId := total_congr rfl rfl
  have numbering := balanced.stored.numbering.popped queued
  rw [← same]
  cases task with
  | dispatch session packet =>
    have popped : Balanced (world.popped zone rest) := {
      stored := balanced.stored.popped queued
      herded := fun id category => (balanced.herded id category).popped queued
      grounded := balanced.grounded.congr rfl }
    rcases dispatch_balance popped valid fromZone concerns ran with ⟨gain, loss, entry, balance⟩
    exact ⟨gain, loss, entry.unpopped, balance⟩
  | timer kind id targetId =>
    cases kind with
    | evItemDespawn =>
      have despawns : (world.popped zone rest).timerTask zone choice .evItemDespawn id targetId =
        some after := ran
      exact ⟨0, _, Entry.unpopped .despawned, despawn_total numbering despawns⟩
    | evItemLootPriorityExpire =>
      refine ⟨0, 0, .expired, congrArg (· + 0) ?_⟩
      rw [← Option.some.inj ran]
      exact total_plain handleLootPriorityExpire_plain
    | _ => contradiction
  | _ => contradiction

/-! ## Which items go -/

/-- A request takes an item away in a confirmed pickup only. -/
theorem dispatch_gone (stored : Stored world)
    (concerns : (Task.dispatch session packet).concernsItems = true)
    (ran : world.dispatch zone choice session packet = some after)
    (present : world.coreOf (ObjID.item number) ≠ none)
    (gone : after.coreOf (ObjID.item number) = none) :
    packet = .itemPickupReq ∧ (news session world after).any ServerPacket.confirmsPickup = true := by
  have impossible {statement : Prop}
      (same : after.coreOf (ObjID.item number) = world.coreOf (ObjID.item number)) : statement :=
    absurd (same.symm.trans gone) present
  cases packet with
  | itemEquipReq index => exact impossible ((equipRequest_rearranges ran).core number)
  | itemUnequipReq index => exact impossible ((unequipRequest_rearranges ran).core number)
  | itemSwapReq indexA indexB => exact impossible ((swapRequest_rearranges ran).core number)
  | itemDiscardReq index count =>
    rcases discardRequest_cases ran with rearranges | ⟨_, _, _, _, _, discards⟩
    · exact impossible (rearranges.core number)
    · exact impossible (discards.core stored.numbering present)
  | itemPickupReq =>
    rcases pickupRequest_cases ran with ⟨plain, _⟩ | ⟨_, _, _, _, _, confirmed⟩
    · exact impossible (plain.core _)
    · exact ⟨rfl, confirmed⟩
  | itemUseReq index => exact impossible (useRequest_core ran)
  | userAttackReq facing =>
    rcases attackRequest_hunt ran with ⟨kills, hunt⟩
    exact absurd gone (hunt.present stored.numbering present)
  | userSkillReq =>
    rcases skillRequest_hunt ran with ⟨kills, hunt⟩
    exact absurd gone (hunt.present stored.numbering present)
  | _ => contradiction

/-- A confirmed pickup takes exactly one item. -/
theorem pickup_takes (filed : Filed world)
    (ran : world.pickupRequest zone choice session = some after)
    (confirmed : (news session world after).any ServerPacket.confirmsPickup = true) :
    ∃ number, world.coreOf (ObjID.item number) ≠ none ∧
      after.coreOf (ObjID.item number) = none ∧ ∀ other, other ≠ number →
        after.coreOf (ObjID.item other) = world.coreOf (ObjID.item other) := by
  rcases pickupRequest_cases ran with ⟨_, _, refused⟩ | ⟨id, subject, item, filled, picks, _⟩
  · rw [refused] at confirmed
    contradiction
  · rcases picks.isItem filed with ⟨number, rfl⟩
    refine ⟨number, ?_, ?_, fun other different => ?_⟩
    · rw [coreOf_of_getItem picks.target]
      exact Option.some_ne_none _
    · rw [picks.core, if_pos rfl]
    · rw [picks.core, if_neg (by simpa [ObjID.item] using different)]

end World

namespace Server

open World

variable {collate : String → String}

/-- Items in the slots of the members and in the cells of the zone. -/
structure ItemsConserved (grid : CollisionGrid) (zone : Nat) (members : Finset Nat)
    (server : Server collate) : Prop where
  balance : ∀ (choice : Choice grid) task rest after itemId,
    server.world.queues zone = task :: rest → task.concernsItems = true →
      FromZone zone members task server.world → step (.run zone choice) server = some after →
        ∃ gain loss, Entry zone choice itemId server.world after.world task gain loss ∧
          after.world.total members zone itemId + loss =
            server.world.total members zone itemId + gain
  counted : ∀ number subject item sector itemId,
    server.world.getItem (ObjID.item number) = some (subject, item) →
      ObjID.item number ∈ server.world.cells zone sector →
        server.world.share zone itemId (ObjID.item number) = heldCount itemId (some item)
  refused : ∀ (choice : Choice grid) session rest after,
    server.world.queues zone = .dispatch session .itemPickupReq :: rest →
      step (.run zone choice) server = some after →
        (news session server.world after.world).any ServerPacket.confirmsPickup = false →
          after.world.objects = server.world.objects ∧ after.world.cells = server.world.cells
  picked : ∀ (choice : Choice grid) session rest after,
    server.world.queues zone = .dispatch session .itemPickupReq :: rest →
      step (.run zone choice) server = some after →
        (news session server.world after.world).any ServerPacket.confirmsPickup = true →
          ∃ number, server.world.coreOf (ObjID.item number) ≠ none ∧
            after.world.coreOf (ObjID.item number) = none ∧ ∀ other, other ≠ number →
              after.world.coreOf (ObjID.item other) = server.world.coreOf (ObjID.item other)
  vanishes : ∀ (choice : Choice grid) task rest after number,
    server.world.queues zone = task :: rest → task.concernsItems = true →
      step (.run zone choice) server = some after →
        server.world.coreOf (ObjID.item number) ≠ none →
          after.world.coreOf (ObjID.item number) = none →
            (∃ session, task = .dispatch session .itemPickupReq ∧
                (news session server.world after.world).any ServerPacket.confirmsPickup = true) ∨
              ∃ targetId, task = .timer .evItemDespawn (ObjID.item number) targetId
  despawned : ∀ (choice : Choice grid) number targetId rest after,
    server.world.queues zone = .timer .evItemDespawn (ObjID.item number) targetId :: rest →
      step (.run zone choice) server = some after → after.world.coreOf (ObjID.item number) = none
  pending : ∀ number core, server.world.coreOf (ObjID.item number) = some core →
    ∃ home, Lies home (ObjID.item number) core.transform server.world
  once : ∀ number, server.world.coreOf (ObjID.item number) = none →
    number < server.world.nextFieldItemId → ∀ (labels : List (Label grid)) after,
      run step labels server = some after → after.world.coreOf (ObjID.item number) = none

theorem step_run_eq_some {zone : Nat} {choice : Choice grid} {task : Task} {rest : List Task}
    {before after : Server collate} (queued : before.world.queues zone = task :: rest)
    (taken : step (.run zone choice) before = some after) :
    (before.world.popped zone rest).exec zone choice task = some after.world := by
  simp only [step, runThread, queued] at taken
  rcases Option.map_eq_some_iff.mp taken with ⟨world, ran, rfl⟩
  exact ran

theorem gone_later {number : Nat} {labels : List (Label grid)} {server after : Server collate}
    (numbering : Numbering server.world)
    (missing : server.world.coreOf (ObjID.item number) = none)
    (numbered : number < server.world.nextFieldItemId)
    (ran : run step labels server = some after) :
    after.world.coreOf (ObjID.item number) = none := by
  have kept : ∀ (label : Label grid) (before next : Server collate),
      step label before = some next →
        Numbering before.world ∧ before.world.coreOf (ObjID.item number) = none ∧
            number < before.world.nextFieldItemId →
          Numbering next.world ∧ next.world.coreOf (ObjID.item number) = none ∧
            number < next.world.nextFieldItemId :=
    fun _ _ _ taken held => ⟨step_numbering taken held.1, step_gone taken held.1 held.2.1 held.2.2⟩
  exact (invariant_of_run kept ran ⟨numbering, missing, numbered⟩).2.1

/-- A balanced world conserves the items of a zone. -/
theorem itemsConserved_of_balanced {zone : Nat} {server : Server collate}
    (balanced : Balanced server.world) (valid : isValidZoneId zone = true) (members : Finset Nat) :
    ItemsConserved grid zone members server := by
  have stored := balanced.stored
  constructor
  case balance =>
    intro choice task rest after itemId queued concerns fromZone taken
    exact exec_balance queued balanced valid fromZone concerns (step_run_eq_some queued taken)
  case counted =>
    intro number subject item sector itemId found member
    rw [share_of_mem (stored.shelves number) member, pieces, (getItem_eq_some.mp found).1]
    dsimp only
    rw [Subject.pieces, (getItem_eq_some.mp found).2]
  case refused =>
    intro choice session rest after queued taken refused
    rcases pickupRequest_cases (step_run_eq_some queued taken) with
      ⟨plain, objects, _⟩ | ⟨_, _, _, _, _, confirmed⟩
    · exact ⟨objects, plain.cells⟩
    · exact absurd (refused.symm.trans confirmed) Bool.false_ne_true
  case picked =>
    intro choice session rest after queued taken confirmed
    have ran : (server.world.popped zone rest).pickupRequest zone choice session =
      some after.world := step_run_eq_some queued taken
    rcases pickup_takes (stored.numbering.popped queued).mapped.filed ran confirmed with
      ⟨number, present, gone, others⟩
    exact ⟨number, present, gone, others⟩
  case vanishes =>
    intro choice task rest after number queued concerns taken present gone
    have ran := step_run_eq_some queued taken
    have numbering := stored.numbering.popped queued
    cases task with
    | dispatch session packet =>
      rcases dispatch_gone (stored.popped queued) concerns ran present gone with ⟨rfl, confirmed⟩
      exact .inl ⟨session, rfl, confirmed⟩
    | timer kind id targetId =>
      cases kind with
      | evItemDespawn =>
        by_cases same : ObjID.item number = id
        · exact .inr ⟨targetId, same ▸ rfl⟩
        · have despawns : (server.world.popped zone rest).timerTask zone choice .evItemDespawn id
            targetId = some after.world := ran
          exact absurd (((despawn_apart despawns).core _ same).symm.trans gone) present
      | evItemLootPriorityExpire =>
        rw [← Option.some.inj ran, handleLootPriorityExpire_plain.core] at gone
        exact absurd gone present
      | _ => contradiction
    | _ => contradiction
  case despawned =>
    intro choice number targetId rest after queued taken
    have despawns : (server.world.popped zone rest).timerTask zone choice .evItemDespawn
        (ObjID.item number) targetId = some after.world := step_run_eq_some queued taken
    exact despawn_core (stored.numbering.popped queued).mapped.filed despawns
  case pending => exact stored.shelves
  case once =>
    exact fun number missing numbered labels after ran =>
      gone_later stored.numbering missing numbered ran

/-- In every run items are conserved in every zone, whoever its users are. -/
theorem items_conserved {count : Nat} {draw : Nat → Int × Int} {store : Store collate}
    {labels : List (Label grid)} {server : Server collate} {zone : Nat}
    (validDraws : ValidDraws grid draw)
    (ran : run step labels (boot count draw store) = some server)
    (valid : isValidZoneId zone = true) (members : Finset Nat) :
    ItemsConserved grid zone members server :=
  itemsConserved_of_balanced
    ⟨run_stored validDraws ran, fun _ category => run_homed validDraws category ran,
      run_grounded ran⟩ valid members

/-- A player drops two potions of five and is about to pick them up again. -/
def droppedPotions : List (Label initCollisionTile) :=
  [.accept, .receive 1 (.userLoginReq "kim" ""), .run invalidZoneId .steady, .database 0 {} true,
    .run 0 .steady, .receive 1 (.itemDiscardReq 0 2), .run 0 .steady, .receive 1 .itemPickupReq]

/-- A user drops potions and picks them up. -/
theorem items_conserved_sample :
    ∃ server, run step droppedPotions (boot 0 World.steadyDraw World.savedStore) = some server ∧
      (server.world.getItem (ObjID.item 1)).isSome = true ∧
        ItemsConserved initCollisionTile 0 {1} server := by
  have completes :
      (run step droppedPotions (boot 0 World.steadyDraw World.savedStore)).isSome := by rfl
  rcases Option.isSome_iff_exists.mp completes with ⟨server, ran⟩
  refine ⟨server, ran, ?_, items_conserved World.steadyDraw_valid ran (by decide) {1}⟩
  obtain rfl := Option.some.inj ran
  rfl

end Server

end Mmorpg
