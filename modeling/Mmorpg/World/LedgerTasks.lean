import Mmorpg.World.Ledger
import Mmorpg.World.Stock

/-!
# What each task about items does to the books

Rearranging an inventory moves no piece, a discard and a pickup hand over what
they take, a use costs one piece, and the kills of an attack bring what is
rolled for them.
-/

namespace Mmorpg

open ZoneLayout Transition

variable {grid : CollisionGrid}

/-- The answer that an item was used. -/
def ServerPacket.confirmsUse : ServerPacket → Bool
  | itemUseAck success _ => success
  | _ => false

/-- The answer that an item was picked up. -/
def ServerPacket.confirmsPickup : ServerPacket → Bool
  | itemPickupAck success => success
  | _ => false

/-- The pieces of an item that are rolled for the kills of an attack. -/
def Kill.loot (choice : Choice grid) (itemId : ItemTableId) (kills : List Kill) : Nat :=
  ((kills.filterMap (Kill.drop choice)).map fun rolled =>
    if rolled.itemId = itemId then rolled.count.toNat else 0).sum

namespace World

/-- The packets a task has posted to a session. -/
def news (session : Nat) (before after : World) : List ServerPacket :=
  (after.received session).drop (before.received session).length

/-- A slot of a session's user. -/
def slotOf (session : Nat) (index : SlotIndex) (world : World) : Option Item :=
  match world.getUser (ObjID.user session) with
  | some (_, user) => user.inventory.slots index
  | none => none

variable {zone thread session : Nat} {choice : Choice grid} {own id : ObjID}
  {itemId : ItemTableId} {members : Finset Nat} {index : SlotIndex}
  {world before middle after : World}

/-- The packets that a session got between two worlds. -/
def Told (session : Nat) (before after : World) (packets : List ServerPacket) : Prop :=
  after.received session = before.received session ++ packets

theorem Told.news {packets : List ServerPacket} (told : Told session before after packets) :
    news session before after = packets := by
  rw [World.news, told, List.drop_left]

theorem Told.nothing (session : Nat) (world : World) : Told session world world [] :=
  (List.append_nil _).symm

/-- More packets are told after those before. -/
theorem Told.post {packets : List ServerPacket} (told : Told session before after packets)
    (more : List (Nat × ServerPacket)) : Told session before (after.post more)
      (packets ++ (more.filter fun entry => entry.1 = session).map Prod.snd) := by
  rw [Told] at told
  rw [Told, received, World.post, List.filter_append, List.map_append, ← List.append_assoc, ← told]
  rfl

theorem Told.send {packets : List ServerPacket} (told : Told session before after packets)
    (packet : ServerPacket) :
    Told session before (after.send (ObjID.user session) packet) (packets ++ [packet]) := by
  have sent := told.post [((ObjID.user session).databaseId, packet)]
  simpa [World.send] using sent

/-! ## Requests that move no piece -/

/-- A request that only tells something, or rearranges the own inventory. -/
inductive Rearranges (session : Nat) (world : World) : World → Prop
  | idle {after : World} : Plain world after → Rearranges session world after
  | stored {client : Subject} {user : User} {inventory : Inventory} {after : World} :
      world.getUser (ObjID.user session) = some (client, user) →
      (∀ itemId, inventory.slots.quantity itemId = user.inventory.slots.quantity itemId) →
      Plain (world.setInventory (ObjID.user session) inventory) after →
      Rearranges session world after

/-- An inventory that is rearranged keeps its pieces. -/
theorem Rearranges.total (rearranges : Rearranges session world after)
    (member : session ∈ members) :
    after.total members zone itemId = world.total members zone itemId := by
  cases rearranges with
  | idle plain => exact total_plain plain
  | stored found same later =>
    exact total_setInventory member found (congrArg (· + 0) (same itemId)) later

/-- An inventory is not on the ground. -/
theorem coreOf_item_setInventory {inventory : Inventory} {number : Nat}
    (later : Plain (world.setInventory (ObjID.user session) inventory) after) :
    after.coreOf (ObjID.item number) = world.coreOf (ObjID.item number) := by
  refine (later.core _).trans ((setInventory_apart (ObjID.user session) inventory).core _ ?_)
  exact fun same => EnumCategory.noConfusion (congrArg ObjID.category same)

theorem Rearranges.core (rearranges : Rearranges session world after) (number : Nat) :
    after.coreOf (ObjID.item number) = world.coreOf (ObjID.item number) := by
  cases rearranges with
  | idle plain => exact plain.core _
  | stored found same later => exact coreOf_item_setInventory later

theorem equipRequest_rearranges
    (ran : world.equipRequest thread choice session index = some after) :
    Rearranges session world after := by
  unfold equipRequest at ran
  split at ran
  · exact Option.some.inj ran ▸ .idle (Plain.refl world)
  · next client user allowed =>
    rcases Option.bind_eq_some_iff.mp ran with ⟨slot, _, answered⟩
    dsimp only at answered
    refine .stored (playing_eq_some.mp allowed).2.1
      (fun _ => Inventory.tryEquip_quantity choice.slots index user.inventory) ?_
    split at answered
    · rw [onSector_eq_some] at answered
      rcases Option.map_eq_some_iff.mp answered.2 with ⟨packets, _, rfl⟩
      exact ((Plain.refl _).send.trans broadcastEquipChange_plain).post
    · exact Option.some.inj answered ▸ (Plain.refl _).send

theorem unequipRequest_rearranges
    (ran : world.unequipRequest thread choice session index = some after) :
    Rearranges session world after := by
  unfold unequipRequest at ran
  split at ran
  · exact Option.some.inj ran ▸ .idle (Plain.refl world)
  · next client user allowed =>
    rcases Option.bind_eq_some_iff.mp ran with ⟨slot, _, answered⟩
    dsimp only at answered
    refine .stored (playing_eq_some.mp allowed).2.1
      (fun _ => Inventory.tryUnequip_quantity choice.slots index user.inventory) ?_
    split at answered
    · rw [onSector_eq_some] at answered
      rw [← Option.some.inj answered.2]
      exact (Plain.refl _).send.trans broadcastEquipChange_plain
    · exact Option.some.inj answered ▸ (Plain.refl _).send

theorem swapRequest_rearranges {indexA indexB : SlotIndex}
    (ran : world.swapRequest session indexA indexB = some after) :
    Rearranges session world after := by
  unfold swapRequest at ran
  split at ran
  · exact Option.some.inj ran ▸ .idle (Plain.refl world)
  · next client user allowed =>
    rw [← Option.some.inj ran]
    exact .stored (playing_eq_some.mp allowed).2.1
      (fun _ => Inventory.trySwapSlots_quantity indexA indexB user.inventory) (Plain.refl _).send

/-! ## Discarding -/

/-- A discard that succeeds: the item is taken out of the inventory and lies
where the user stands. -/
structure Discards (thread : Nat) (choice : Choice grid) (session : Nat) (client : Subject)
    (user : User) (extracted : Item) (world stored spawned after : World) : Prop where
  valid : isValidZoneId thread = true
  found : world.getUser (ObjID.user session) = some (client, user)
  stores : ∃ inventory, stored = world.setInventory (ObjID.user session) inventory ∧
    ∀ itemId, inventory.slots.quantity itemId + heldCount itemId (some extracted) =
      user.inventory.slots.quantity itemId
  store : Op thread choice (ObjID.user session) world stored
  spawns : stored.spawnFieldItem thread choice extracted client.x client.y ObjID.npos =
    some spawned
  later : Plain spawned after

/-- A discard is refused, or drops what it took out. -/
theorem discardRequest_cases {count : UInt16}
    (ran : world.discardRequest thread choice session index count = some after) :
    Rearranges session world after ∨ ∃ client user extracted stored spawned,
      Discards thread choice session client user extracted world stored spawned after := by
  unfold discardRequest at ran
  split at ran
  · exact .inl (Option.some.inj ran ▸ .idle (Plain.refl world))
  · next client user allowed =>
    have found := (playing_eq_some.mp allowed).2.1
    rcases Option.bind_eq_some_iff.mp ran with ⟨⟨result, inventory⟩, taken, handed⟩
    have quantity := fun itemId => Inventory.tryExtractItem_quantity itemId taken
    dsimp only at handed
    split at handed
    · refine .inl (Option.some.inj handed ▸ .stored found ?_ (Plain.refl _).send)
      intro itemId
      have kept := quantity itemId
      rwa [heldCount, Nat.add_zero] at kept
    · next extracted =>
      rw [onSector_eq_some] at handed
      rcases Option.map_eq_some_iff.mp handed.2 with ⟨spawned, spawns, rfl⟩
      exact .inr ⟨client, user, extracted, _, spawned, handed.1, found, ⟨inventory, rfl, quantity⟩,
        .store found (serves_tryExtractItem taken), spawns, broadcastEquipChange_plain.send⟩

section Discards

variable {client : Subject} {user : User} {extracted : Item} {stored spawned : World}

theorem Discards.dropped (discards : Discards thread choice session client user extracted world
      stored spawned after) (numbering : Numbering world) :
    Dropped thread client.x client.y extracted.itemTableId extracted.count stored spawned :=
  spawnFieldItem_dropped discards.valid
    ((discards.store.numbering numbering).unused _ (Nat.le_refl _)) discards.spawns

theorem Discards.core {number : Nat} (discards : Discards thread choice session client user
      extracted world stored spawned after) (numbering : Numbering world)
    (present : world.coreOf (ObjID.item number) ≠ none) :
    after.coreOf (ObjID.item number) = world.coreOf (ObjID.item number) := by
  rcases discards.stores with ⟨inventory, rfl, _⟩
  have kept : (world.setInventory (ObjID.user session) inventory).coreOf (ObjID.item number) =
      world.coreOf (ObjID.item number) := coreOf_item_setInventory (Plain.refl _)
  rcases Option.ne_none_iff_exists'.mp present with ⟨core, found⟩
  have old := (discards.store.numbering numbering).lt (kept.trans found)
  rw [discards.later.core, ((discards.dropped numbering).aloof number old.ne).core, kept]

theorem Discards.total (discards : Discards thread choice session client user extracted world
      stored spawned after) (numbering : Numbering world) (member : session ∈ members)
    (inZone : getZoneIdByWorld client.x client.y = thread) :
    after.total members thread itemId = world.total members thread itemId := by
  have numberingStored := discards.store.numbering numbering
  have numberingSpawned := (Op.spawn discards.valid discards.spawns :
    Op thread choice (ObjID.user session) stored spawned).numbering numberingStored
  have dropped : spawned.lying thread itemId = stored.lying thread itemId +
      heldCount itemId (some extracted) :=
    (discards.dropped numbering).lying numberingStored numberingSpawned inZone
  have apart := (spawnFieldItem_apart discards.spawns).2
  have carried : ∀ other, spawned.carried other itemId = stored.carried other itemId :=
    fun other => carried_congr (apart.core _
      fun same => EnumCategory.noConfusion (congrArg ObjID.category same))
  rcases discards.stores with ⟨inventory, rfl, quantity⟩
  have balance := quantity itemId
  rw [total_plain discards.later]
  change _ + 0 = _ + 0
  refine total_exchange member ?_ ?_
  · exact fun other different =>
      (carried other).trans (carried_setInventory_of_ne different inventory)
  · rw [carried, carried_setInventory discards.found, carried_of_getUser discards.found, dropped,
      lying_setInventory]
    omega

end Discards

/-! ## Picking up -/

/-- A pickup that succeeds: the item is added to the inventory and leaves the
grid. -/
structure Picks (thread : Nat) (choice : Choice grid) (session : Nat) (itemId : ObjID)
    (subject : Subject) (item : Item) (world filled after : World) : Prop where
  target : world.getItem itemId = some (subject, item)
  near : ∃ sector, itemId ∈ world.cells thread sector
  stores : ∃ client user inventory, world.getUser (ObjID.user session) = some (client, user) ∧
    filled = world.setInventory (ObjID.user session) inventory ∧
      ∀ tableId, inventory.slots.quantity tableId =
        user.inventory.slots.quantity tableId + heldCount tableId (some item)
  store : Op thread choice (ObjID.user session) world filled
  still : filled.getItem itemId = some (subject, item)
  later : Plain (filled.removeFieldItem thread choice itemId subject) after

theorem Told.removeFieldItem {packets : List ServerPacket}
    (told : Told session before after packets) (zone : Nat) (choice : Choice grid)
    (itemId : ObjID) (subject : Subject) :
    ∃ more, Told session before (after.removeFieldItem zone choice itemId subject) more := by
  refine ⟨_, Eq.trans ?_ (told.post ((after.viewers choice.hash zone subject).map
    fun receiver => (receiver.databaseId, .subjectRemoveNfy itemId)))⟩
  unfold World.removeFieldItem removeObject
  dsimp only
  split <;> rfl

theorem pickupRequest_cases
    (ran : world.pickupRequest thread choice session = some after) :
    (Plain world after ∧ after.objects = world.objects ∧
        (news session world after).any ServerPacket.confirmsPickup = false) ∨
      ∃ itemId subject item filled,
        Picks thread choice session itemId subject item world filled after ∧
          (news session world after).any ServerPacket.confirmsPickup = true := by
  unfold pickupRequest at ran
  split at ran
  · rw [Option.some.inj ran]
    exact .inl ⟨Plain.refl after, rfl, by rw [(Told.nothing session after).news]; rfl⟩
  · next client user allowed =>
    have found := (playing_eq_some.mp allowed).2.1
    rw [onSector_eq_some] at ran
    have picked := ran.2
    unfold tryPickupAt at picked
    split at picked
    · rw [← Option.some.inj picked]
      have told := (Told.nothing session world).send (.itemPickupAck false)
      exact .inl ⟨(Plain.refl world).send, rfl, by rw [told.news]; rfl⟩
    · next itemId subject item target =>
      rcases pickupTarget_item target with ⟨isItem, category, near⟩
      split at picked
      · contradiction
      · rw [← Option.some.inj picked]
        have told := ((Told.nothing session world).send (.itemPickupAck false)).send
          (.systemMessageInf .inventoryFull item.itemTableId.toNat item.count.toNat)
        exact .inl ⟨(Plain.refl world).send.send, rfl, by rw [told.news]; rfl⟩
      · next touched inventory added =>
        split at picked
        · contradiction
        · next acquired lookups =>
          rw [← Option.some.inj picked]
          have different : itemId ≠ ObjID.user session := by
            rintro rfl
            contradiction
          have still : (world.setInventory (ObjID.user session) inventory).getItem itemId =
              some (subject, item) := by
            rw [getItem_eq_some] at isItem ⊢
            simpa [setInventory, modifyUser, modify, different] using isItem
          have stored : Told session world (world.setInventory (ObjID.user session) inventory) [] :=
            Told.nothing session world
          rcases stored.removeFieldItem thread choice itemId subject with ⟨notes, told⟩
          refine .inr ⟨itemId, subject, item, world.setInventory (ObjID.user session) inventory,
            ?_, ?_⟩
          · exact {
              target := isItem
              near := mem_neighborIds_cells near
              stores := ⟨client, user, inventory, found, rfl,
                fun tableId => Inventory.tryAddItem_quantity tableId added⟩
              store := .store found (serves_tryAddItem added)
              still := still
              later := (Plain.refl _).send.post }
          · rw [((told.send (.itemPickupAck true)).post acquired).news]
            simp [ServerPacket.confirmsPickup]

section Picks

variable {pickedId : ObjID} {subject : Subject} {item : Item} {filled : World}

theorem Picks.isItem (picks : Picks thread choice session pickedId subject item world filled after)
    (filed : Filed world) : ∃ number, pickedId = ObjID.item number := by
  rcases getItem_eq_some.mp picks.target with ⟨found, bodyOf⟩
  have category := filed pickedId subject found
  rw [Subject.category, bodyOf] at category
  rcases pickedId with ⟨kind, number⟩
  obtain rfl := category
  exact ⟨number, rfl⟩

/-- It is gone from the ground, and the others stay. -/
theorem Picks.core {number : Nat}
    (picks : Picks thread choice session pickedId subject item world filled after) :
    after.coreOf (ObjID.item number) =
      if ObjID.item number = pickedId then none else world.coreOf (ObjID.item number) := by
  rcases picks.stores with ⟨client, user, inventory, _, rfl, _⟩
  rw [picks.later.core]
  split
  · next same =>
    rw [same]
    exact removeFieldItem_core
  · next different =>
    exact (removeFieldItem_apart.core _ different).trans (coreOf_item_setInventory (Plain.refl _))

/-- What leaves the cells arrives in the inventory. -/
theorem Picks.total (picks : Picks thread choice session pickedId subject item world filled after)
    (stored : Stored world) (member : session ∈ members) :
    after.total members thread itemId = world.total members thread itemId := by
  rcases picks.isItem stored.numbering.mapped.filed with ⟨number, rfl⟩
  have numberingFilled := picks.store.numbering stored.numbering
  have numberingRemoved := (Op.pick picks.still :
    Op thread choice (ObjID.user session) filled _).numbering numberingFilled
  have present := coreOf_of_getItem picks.target
  have removed : (filled.removeFieldItem thread choice (ObjID.item number) subject).lying thread
      itemId + filled.share thread itemId (ObjID.item number) = filled.lying thread itemId :=
    lying_removed numberingFilled numberingRemoved nextFieldItemId_removeFieldItem
      (numberingFilled.lt (coreOf_of_getItem picks.still)) removeFieldItem_core fun other different =>
        removeFieldItem_apart.aloof_of_not_user (by simpa [ObjID.item] using different)
          (item_not_user other)
  have share : world.share thread itemId (ObjID.item number) = heldCount itemId (some item) := by
    rcases stored.shelves number _ present with ⟨zone, lies⟩
    rcases picks.near with ⟨sector, near⟩
    rcases (lies.tracked _ _).mp near with ⟨rfl, rfl, placed⟩
    exact share_lies present lies placed
  have carried : ∀ other, (filled.removeFieldItem thread choice (ObjID.item number)
      subject).carried other itemId = filled.carried other itemId :=
    fun other => carried_congr (removeFieldItem_apart.core _
      fun same => EnumCategory.noConfusion (congrArg ObjID.category same))
  rcases picks.stores with ⟨client, user, inventory, found, rfl, quantity⟩
  have sameShare : (world.setInventory (ObjID.user session) inventory).share thread itemId (ObjID.item number) =
      world.share thread itemId (ObjID.item number) :=
    share_aloof ((setInventory_apart _ _).aloof_of_not_user
      (fun same => EnumCategory.noConfusion (congrArg ObjID.category same)) (item_not_user number))
  have balance := quantity itemId
  rw [lying_setInventory, sameShare, share] at removed
  rw [total_plain picks.later]
  change _ + 0 = _ + 0
  refine total_exchange member ?_ ?_
  · exact fun other different =>
      (carried other).trans (carried_setInventory_of_ne different inventory)
  · rw [carried, carried_setInventory found, carried_of_getUser found]
    omega

end Picks

/-! ## Using -/

/-- A use that reaches the inventory, with its result. -/
theorem useRequest_cases
    (ran : world.useRequest choice session index = some after) :
    after = world ∨ ∃ client user inventory success stamped,
      world.getUser (ObjID.user session) = some (client, user) ∧
        user.inventory.tryUseItem index = some (success, inventory) ∧ Plain world stamped ∧
          (∃ changed later, stamped.getUser (ObjID.user session) = some (changed, later) ∧
            later.inventory = user.inventory) ∧
            Plain (stamped.setInventory (ObjID.user session) inventory) after ∧
              (news session world after).any ServerPacket.confirmsUse = success := by
  unfold useRequest at ran
  split at ran
  · exact .inl (Option.some.inj ran).symm
  · next client user allowed =>
    have found := (playing_eq_some.mp allowed).2.1
    split at ran
    · rcases Option.map_eq_some_iff.mp ran with ⟨⟨success, inventory⟩, used, rfl⟩
      have stamped : Plain world (world.modifyUser (ObjID.user session) fun current =>
          { current with lastPotionUseTime := choice.now }) :=
        (Plain.refl world).modifyUser (fun _ => rfl) (fun _ => rfl) (fun _ => rfl) fun _ => rfl
      have still : (world.modifyUser (ObjID.user session) fun current =>
          { current with lastPotionUseTime := choice.now }).getUser (ObjID.user session) =
            some ({ client with body := .user { user with lastPotionUseTime := choice.now } },
              { user with lastPotionUseTime := choice.now }) := by
        rw [getUser_eq_some] at found ⊢
        simp [modifyUser, modify, found.1, found.2]
      have stored : Told session world ((world.modifyUser (ObjID.user session) fun current =>
          { current with lastPotionUseTime := choice.now }).setInventory (ObjID.user session)
            inventory) [] := Told.nothing session world
      refine .inr ⟨client, user, inventory, success, _, found, used, stamped,
        ⟨_, _, still, rfl⟩, ?_, ?_⟩
      · dsimp only
        split
        · exact (Plain.refl _).send.send
        · exact (Plain.refl _).send
      · dsimp only
        cases success with
        | true =>
          rw [if_pos rfl, ((stored.send _).send _).news]
          rfl
        | false =>
          rw [if_neg Bool.false_ne_true, (stored.send _).news]
          rfl
    · exact .inl (Option.some.inj ran).symm

/-- A confirmed use costs one piece, if the slot holds one. -/
theorem useRequest_total (member : session ∈ members)
    (ran : world.useRequest choice session index = some after) :
    after.total members zone itemId +
        (if (news session world after).any ServerPacket.confirmsUse = true then
          min 1 (heldCount itemId (world.slotOf session index)) else 0) =
      world.total members zone itemId := by
  rcases useRequest_cases ran with rfl | ⟨client, user, inventory, success, stamped, found, used,
    plain, ⟨changed, later, still, same⟩, told, confirmed⟩
  · rw [(Told.nothing session after).news]
    rfl
  · have quantity := Inventory.tryUseItem_quantity itemId used
    have slot : world.slotOf session index = user.inventory.slots index := by
      rw [slotOf, found]
    rw [← same] at quantity
    rw [confirmed, slot, ← total_plain plain, ← same]
    rw [← Nat.add_zero (total members zone itemId stamped)]
    exact total_setInventory member still (quantity.trans (Nat.add_zero _).symm) told

/-- Using an item changes nothing on the ground. -/
theorem useRequest_core {number : Nat}
    (ran : world.useRequest choice session index = some after) :
    after.coreOf (ObjID.item number) = world.coreOf (ObjID.item number) := by
  rcases useRequest_cases ran with rfl | ⟨_, _, _, _, stamped, _, _, plain, _, told, _⟩
  · rfl
  · exact (coreOf_item_setInventory told).trans (plain.core _)

/-! ## Attacks -/

/-- Every monster is at home. -/
def Herded (world : World) : Prop :=
  ∀ id, id.category = .eMonster → Homed (homeZone id) id world

/-- A hunt keeps the numbers of items and the herd. -/
theorem Hunt.keeps {kills : List Kill} (hunt : Hunt zone choice own before kills after)
    (isUser : own.category = .eUser) (numbering : Numbering before) (herded : Herded before) :
    Numbering after ∧ Herded after := by
  refine Script.keeps (fun current => Numbering current ∧ Herded current) ?_ hunt.script
    ⟨numbering, herded⟩
  rintro before after op ⟨numbering, herded⟩
  refine ⟨op.numbering numbering, fun id category => ?_⟩
  refine op.homed numbering.mapped.filed category (fun same => ?_) (herded id category)
  rw [← same, isUser] at category
  contradiction

theorem Kill.loot_append (first second : List Kill) :
    Kill.loot choice itemId (first ++ second) =
      Kill.loot choice itemId first + Kill.loot choice itemId second := by
  rw [Kill.loot, List.filterMap_append, List.map_append, List.sum_append]
  rfl

/-- What is added to an inventory is added to the total. -/
theorem total_of_carried (carried : ∀ session, after.carried session itemId =
      before.carried session itemId) {gain : Nat}
    (lying : after.lying zone itemId = before.lying zone itemId + gain) :
    after.total members zone itemId = before.total members zone itemId + gain := by
  rw [World.total, World.total, lying, ← Nat.add_assoc]
  congr 2
  exact Finset.sum_congr rfl fun session _ => carried session

theorem carried_apart (apart : Apart id before after) (notUser : id.category ≠ .eUser)
    (session : Nat) : after.carried session itemId = before.carried session itemId := by
  refine carried_congr (apart.core _ ?_)
  rintro rfl
  exact notUser rfl

theorem slain_carried {damage : Nat} {subject : Subject} {monster : Monster} {attacker : User}
    (category : id.category = .eMonster)
    (slays : world.slain zone choice id own damage subject monster attacker = some after)
    (session : Nat) : after.carried session itemId = world.carried session itemId := by
  have monsterNotUser : id.category ≠ .eUser := by
    rw [category]
    decide
  rcases slain_apart slays with ⟨itemId, middle, isItem, first, dropped, second, third⟩
  have itemNotUser : itemId.category ≠ .eUser := by
    rw [isItem]
    decide
  rw [carried_apart third monsterNotUser, carried_apart second itemNotUser,
    carried_apart first monsterNotUser]

/-- A monster drops its item in its own zone. -/
theorem slain_lying {damage : Nat} {subject : Subject} {monster : Monster} {attacker : User}
    (valid : isValidZoneId zone = true) (category : id.category = .eMonster)
    (numbering : Numbering world) (numberingAfter : Numbering after)
    (inZone : getZoneIdByWorld subject.x subject.y = zone)
    (slays : world.slain zone choice id own damage subject monster attacker = some after) :
    after.lying zone itemId =
      world.lying zone itemId + Kill.loot choice itemId [⟨id, monster.type⟩] := by
  rcases slain_dropped valid category (numbering.unused _ (Nat.le_refl _)) slays with
    ⟨nothing, counted, aloof⟩ | ⟨rolled, found, dropped⟩
  · rw [Kill.loot, List.filterMap_cons, nothing]
    exact lying_aloof numbering numberingAfter counted aloof
  · rw [Kill.loot, List.filterMap_cons, found]
    exact dropped.lying numbering numberingAfter inZone

/-- The kill of a blow drops what is rolled for it. -/
theorem Blow.total {kills : List Kill} (blow : Blow zone choice own before kills after)
    (numbering : Numbering before) (herded : Herded before) :
    after.total members zone itemId =
      before.total members zone itemId + Kill.loot choice itemId kills := by
  have numberingAfter := blow.op.numbering numbering
  have filed := numbering.mapped.filed
  cases blow with
  | aside plain => exact total_plain plain
  | wound valid found alive member isUser survives =>
    next id subject monster damage sector =>
    have category := filed.monster found
    have apart : Apart id before (before.modifyMonster id fun current =>
        { current with stat := monster.stat.takeDamage damage }) := (Apart.refl id before).modify
    refine total_of_carried (carried_apart apart (by rw [category]; decide)) ?_
    refine lying_aloof numbering numberingAfter rfl fun number => ?_
    refine apart.aloof_of_not_user ?_ (item_not_user number)
    rintro rfl
    contradiction
  | slay valid found alive member isUser player fatal slays =>
    next id subject _ monster attacker damage sector =>
    have category := filed.monster found
    have homed := herded id category
    have inZone : getZoneIdByWorld subject.x subject.y = zone := by
      rw [homed.zone_of_mem found member]
      exact (homed.stands _ _ (coreOf_of_getMonster found)).2.1
    exact total_of_carried (slain_carried category slays)
      (slain_lying valid category numbering numberingAfter inZone slays)

/-- An attack brings what is rolled for its kills. -/
theorem Hunt.total {kills : List Kill} (hunt : Hunt zone choice own before kills after)
    (isUser : own.category = .eUser) (numbering : Numbering before) (herded : Herded before) :
    after.total members zone itemId =
      before.total members zone itemId + Kill.loot choice itemId kills := by
  induction hunt with
  | refl => rfl
  | tail hunt blow ih =>
    have kept := hunt.keeps isUser numbering herded
    rw [blow.total kept.1 kept.2, ih, Kill.loot_append, Nat.add_assoc]

/-- An attack takes no item away. -/
theorem Hunt.present {kills : List Kill} {number : Nat}
    (hunt : Hunt zone choice own before kills after) (numbering : Numbering before)
    (present : before.coreOf (ObjID.item number) ≠ none) :
    after.coreOf (ObjID.item number) ≠ none := by
  rcases Option.ne_none_iff_exists'.mp present with ⟨core, found⟩
  have kept := (hunt.hunted numbering.mapped).kept number (numbering.lt found)
  have bodies : ∀ world : World, world.coreOf (ObjID.item number) = none ↔
      world.bodyOf (ObjID.item number) = none := by
    intro world
    rw [coreOf, bodyOf, Option.map_eq_none_iff, Option.map_eq_none_iff]
  rwa [Ne, bodies, kept, ← bodies]

/-! ## The end of an item -/

theorem share_of_mem {number : Nat} {sector : SectorCoord} (shelved : Shelved number world)
    (member : ObjID.item number ∈ world.cells zone sector) :
    world.share zone itemId (ObjID.item number) = world.pieces itemId (ObjID.item number) := by
  cases found : world.coreOf (ObjID.item number) with
  | none =>
    rw [share_missing found, pieces_eq_core, found]
    rfl
  | some core =>
    rcases shelved core found with ⟨home, lies⟩
    rcases (lies.tracked _ _).mp member with ⟨rfl, rfl, placed⟩
    rw [share_lies found lies placed, pieces_eq_core, found]
    rfl

/-- A despawn takes along what lies in the zone as the item. -/
theorem despawn_total {targetId : ObjID} (numbering : Numbering world)
    (ran : world.timerTask zone choice .evItemDespawn id targetId = some after) :
    after.total members zone itemId + world.share zone itemId id =
      world.total members zone itemId := by
  have apart := despawn_apart ran
  have numberingAfter : Numbering after :=
    exec_numbering numbering
      (show world.exec zone choice (.timer .evItemDespawn id targetId) = some after from ran)
  have filed := numbering.mapped.filed
  rcases ifRegistered_eq_some.mp ran with ⟨missing, rfl⟩ | ⟨⟨⟨subject, item⟩, found⟩, _, same⟩
  · suffices nothing : after.pieces itemId id = 0 by
      rw [share_of_pieces nothing]
      rfl
    by_contra some_
    rcases item_of_pieces filed some_ with ⟨number, core, rfl, present⟩
    rcases getItem_of_coreOf filed present with ⟨subject, item, found⟩
    exact absurd (missing.symm.trans found) (Option.some_ne_none _).symm
  · obtain ⟨number, rfl⟩ : ∃ number, id = ObjID.item number := by
      have isItem := filed.item found
      rcases id with ⟨kind, number⟩
      obtain rfl := isItem
      exact ⟨number, rfl⟩
    have counted : after.nextFieldItemId = world.nextFieldItemId := by
      rw [same]
      unfold handleDespawn
      rw [found]
      exact nextFieldItemId_removeFieldItem
    have removed : after.lying zone itemId + world.share zone itemId (ObjID.item number) =
        world.lying zone itemId := by
      refine lying_removed numbering numberingAfter counted
        (numbering.lt (coreOf_of_getItem found)) (despawn_core filed ran) ?_
      intro other different
      exact apart.aloof_of_not_user (by simpa [ObjID.item] using different) (item_not_user other)
    have carried : ∀ session, after.carried session itemId = world.carried session itemId :=
      carried_apart apart (item_not_user number)
    rw [World.total, World.total, Finset.sum_congr rfl fun session _ => carried session]
    omega

end World

end Mmorpg
