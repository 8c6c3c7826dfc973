import Mmorpg.World.StockTasks
import Mmorpg.World.ZoneMap

/-!
# The client's inventory equals the server's

Every operation announces the slots it changes in their final state, and a
failed one announces nothing.  Whatever else the server does meanwhile, the
client of a user in the world therefore shows that user's inventory once it has
processed what was posted to it.
-/

namespace Mmorpg

open ZoneLayout Transition

variable {grid : CollisionGrid}

namespace Inventory

/-! ## Announcements -/

/-- The packets bring a client from one inventory to the other. -/
structure Announced (before after : Inventory) (packets : List ServerPacket) : Prop where
  shown : ∀ mirror : ClientInventory, mirror.ShowsBut [] before.slots →
    ClientInventory.ShowsBut [] (packets.foldl ClientInventory.processPacket mirror) after.slots
  keys : before.slots.KeysValid → after.slots.KeysValid
  typed : before.slots.All Item.Typed → after.slots.All Item.Typed

variable {before after inventory : Inventory} {order : SlotOrder}

/-- A failure announces nothing. -/
theorem announced_failure {packet : ServerPacket}
    (ignored : ∀ mirror : ClientInventory, mirror.processPacket packet = mirror) :
    Announced inventory inventory [packet] where
  shown mirror shows_ := by rwa [List.foldl_cons, List.foldl_nil, ignored]
  keys := id
  typed := id

/-- An operation whose changed slots are all among `told` is announced by
packets that apply these. -/
theorem Succeeded.announced {batches : List SaveBatch} {packets : List ServerPacket}
    (succeeded : Succeeded before after batches) (told : List SlotIndex)
    (covers : ∀ batch ∈ batches, ∀ index ∈ batch.slots, index ∈ told)
    (applied : ∀ mirror : ClientInventory, packets.foldl ClientInventory.processPacket mirror =
      (told.map fun index => fillItemSlotData index (after.slots index)).foldl
        ClientInventory.applyInventorySlot mirror) :
    Announced before after packets where
  shown mirror shows_ := by
    rw [applied]
    apply ClientInventory.ShowsBut.announceAll
    apply shows_.change
    intro index outside
    exact succeeded.2.untouched index fun batch member within =>
      outside (covers batch member index within)
  keys := succeeded.1.keysValid
  typed := succeeded.1.all (typed_rule before.ownerId)

/-! ## The asserted lookups -/

/-- The answer can be built when the slot is filled. -/
theorem isSome_equipAnswer_of_occupied {index : SlotIndex} {success : Bool}
    (occupied : success = true → (after.slots index).isSome) :
    (World.equipAnswer after index success).isSome := by
  cases success with
  | false => rfl
  | true =>
      rw [World.equipAnswer, if_pos rfl, Option.isSome_map]
      exact occupied rfl

/-- Slots that hold an item can all be announced. -/
theorem acquirePackets_of_occupied {touched : List SlotIndex}
    (occupied : ∀ index ∈ touched, (after.slots index).isSome) (playerId : ObjID) :
    World.acquirePackets playerId after touched = some (touched.map fun index =>
      (playerId.databaseId, .itemAcquireInf (fillItemSlotData index (after.slots index)))) := by
  induction touched with
  | nil => rfl
  | cons index rest ih =>
      obtain ⟨item, stored⟩ :=
        Option.isSome_iff_exists.mp (occupied index List.mem_cons_self)
      have others := ih fun other member => occupied other (List.mem_cons_of_mem index member)
      simp only [World.acquirePackets, itemAt] at others ⊢
      simp [stored, others]

theorem isSome_modify (slots : Slots) (index other : SlotIndex) (change : Item → Item) :
    (slots.modify index change other).isSome = (slots other).isSome := by
  rw [Slots.modify_apply]
  split
  · next same => rw [same, Option.isSome_map]
  · rfl

/-- After a success the equipped slot and the one that lost its place are both
occupied. -/
theorem tryEquip_occupied (order : SlotOrder) (index : SlotIndex) (inventory : Inventory) :
    ((inventory.tryEquip order index).1.1 = true →
      ((inventory.tryEquip order index).2.slots index).isSome) ∧
    ∀ previous, (inventory.tryEquip order index).1.2 = some previous →
      ((inventory.tryEquip order index).2.slots previous).isSome := by
  unfold tryEquip
  split
  · exact ⟨fun impossible => Bool.noConfusion impossible, fun _ impossible => by contradiction⟩
  · split
    · exact ⟨fun impossible => Bool.noConfusion impossible, fun _ impossible => by contradiction⟩
    · next item stored =>
      split
      · exact ⟨fun impossible => Bool.noConfusion impossible, fun _ impossible => by contradiction⟩
      · split
        · next previous met =>
          obtain ⟨_, worn, wornAt, _⟩ := otherEquipped_eq_some met
          refine ⟨fun _ => ?_, fun other same => ?_⟩
          · simp [isSome_modify, stored]
          · obtain rfl := Option.some.inj same
            simp [isSome_modify, wornAt]
        · refine ⟨fun _ => ?_, fun _ impossible => by contradiction⟩
          simp [isSome_modify, stored]

theorem tryEquip_previous_of_failed {index : SlotIndex}
    (failed : ¬(inventory.tryEquip order index).1.1 = true) :
    (inventory.tryEquip order index).1.2 = none := by
  rcases inventory.tryEquip_cases order index with refused | ⟨previous, after, worn, _⟩
  · rw [refused]
  · rw [worn] at failed
    exact absurd rfl failed

theorem tryUnequip_occupied (order : SlotOrder) (index : SlotIndex) (inventory : Inventory)
    (success : (inventory.tryUnequip order index).1 = true) :
    ((inventory.tryUnequip order index).2.slots index).isSome := by
  unfold tryUnequip at success ⊢
  split at success
  · contradiction
  · next valid =>
    rw [if_neg valid]
    split at success
    · contradiction
    · next item stored =>
      split at success
      · contradiction
      · next wearable =>
        simp only [if_neg wearable, saveSlotToDB_slots, recomputeOffensive_slots, isSome_modify,
          stored, Option.isSome_some]

theorem tryAddItem_occupied {itemId : ItemTableId} {count : UInt16} {touched : List SlotIndex}
    (added : before.tryAddItem order itemId count = some (some touched, after)) :
    ∀ index ∈ touched, (after.slots index).isSome := by
  rcases before.tryAddItem_cases order itemId count with failed | ⟨row, final, _, _, chain, _, ran⟩
  · rw [failed] at added
    cases added
  · rw [ran] at added
    cases added
    exact chain.touched_occupied fun _ member => absurd member List.not_mem_nil

/-- The lookups of `SendITEM_EQUIP_ACK`, `SendITEM_UNEQUIP_ACK` and
`SendITEM_ACQUIRE_INF` find their slots after every operation that leads to
them. -/
structure LookupsHold (inventory : Inventory) : Prop where
  equip : ∀ order index, (World.equipAnswer (inventory.tryEquip order index).2 index
    (inventory.tryEquip order index).1.1).isSome
  unequip : ∀ order index, (World.equipAnswer (inventory.tryUnequip order index).2 index
    (inventory.tryUnequip order index).1).isSome
  previous : ∀ order index playerId, (World.acquirePackets playerId
    (inventory.tryEquip order index).2 (inventory.tryEquip order index).1.2.toList).isSome
  added : ∀ order itemId count playerId touched after,
    inventory.tryAddItem order itemId count = some (some touched, after) →
      (World.acquirePackets playerId after touched).isSome

/-- The slots that answers look up are there. -/
theorem lookupsHold (inventory : Inventory) : LookupsHold inventory where
  equip order index :=
    isSome_equipAnswer_of_occupied (inventory.tryEquip_occupied order index).1
  unequip order index :=
    isSome_equipAnswer_of_occupied (inventory.tryUnequip_occupied order index)
  previous order index playerId := by
    rw [acquirePackets_of_occupied, Option.isSome_some]
    intro other member
    exact (inventory.tryEquip_occupied order index).2 other (Option.mem_toList.mp member)
  added order itemId count playerId touched after ran := by
    rw [acquirePackets_of_occupied (tryAddItem_occupied ran), Option.isSome_some]

/-! ## What each operation announces -/

/-- The packets after putting on announce what changed. -/
theorem announced_equip (order : SlotOrder) (index : SlotIndex) (inventory : Inventory)
    (playerId : ObjID) {slot : ItemSlotData} {acquired : List (Nat × ServerPacket)}
    (answered : World.equipAnswer (inventory.tryEquip order index).2 index
      (inventory.tryEquip order index).1.1 = some slot)
    (told : World.acquirePackets playerId (inventory.tryEquip order index).2
      (inventory.tryEquip order index).1.2.toList = some acquired) :
    Announced inventory (inventory.tryEquip order index).2
      (.itemEquipAck (inventory.tryEquip order index).1.1 slot :: acquired.map Prod.snd) := by
  have occupied := (inventory.tryEquip_occupied order index).2
  rw [acquirePackets_of_occupied fun other member => occupied other (Option.mem_toList.mp member)]
    at told
  rcases inventory.tryEquip_cases order index with failed | ⟨previous, after, worn, succeeded⟩
  · rw [failed] at told ⊢
    cases told
    exact announced_failure fun _ => rfl
  · rw [worn] at answered told ⊢
    cases told
    obtain ⟨item, stored, rfl⟩ := Option.map_eq_some_iff.mp answered
    apply succeeded.announced (index :: previous.toList)
    · intro batch member other within
      obtain rfl := List.mem_singleton.mp member
      cases previous with
      | none => simpa [SaveBatch.slots] using within
      | some slot => simpa [SaveBatch.slots, or_comm] using within
    · intro mirror
      dsimp only [itemAt] at stored
      cases previous with
      | none => simp [ClientInventory.processPacket, stored]
      | some slot => simp [ClientInventory.processPacket, stored]

theorem announced_unequip (order : SlotOrder) (index : SlotIndex) (inventory : Inventory)
    {slot : ItemSlotData}
    (answered : World.equipAnswer (inventory.tryUnequip order index).2 index
      (inventory.tryUnequip order index).1 = some slot) :
    Announced inventory (inventory.tryUnequip order index).2
      [.itemUnequipAck (inventory.tryUnequip order index).1 slot] := by
  rcases inventory.tryUnequip_cases order index with failed | ⟨after, bared, succeeded⟩
  · rw [failed]
    exact announced_failure fun _ => rfl
  · rw [bared] at answered ⊢
    obtain ⟨item, stored, rfl⟩ := Option.map_eq_some_iff.mp answered
    dsimp only [itemAt] at stored
    apply succeeded.announced [index]
    · simp [SaveBatch.slots]
    · simp [ClientInventory.processPacket, stored]

theorem announced_swap (indexA indexB : SlotIndex) (inventory : Inventory) :
    Announced inventory (inventory.trySwapSlots indexA indexB).2
      [.itemSwapAck (inventory.trySwapSlots indexA indexB).1
        (World.slotAnswer (inventory.trySwapSlots indexA indexB).2 indexA
          (inventory.trySwapSlots indexA indexB).1)
        (World.slotAnswer (inventory.trySwapSlots indexA indexB).2 indexB
          (inventory.trySwapSlots indexA indexB).1)] := by
  rcases inventory.trySwapSlots_cases indexA indexB with failed | ⟨after, swapped, _, succeeded⟩
  · rw [failed]
    exact announced_failure fun _ => rfl
  · rw [swapped]
    apply succeeded.announced [indexA, indexB]
    · simp [SaveBatch.slots]
    · exact fun _ => rfl

theorem announced_discard {index : SlotIndex} {count : UInt16} {extracted : Option Item}
    (ran : before.tryExtractItem order index count = some (extracted, after)) :
    Announced before after [.itemDiscardAck extracted.isSome
      (World.slotAnswer after index extracted.isSome)] := by
  rcases before.tryExtractItem_cases order index count with
    failed | ⟨_, _, _, _, ⟨_, _, crashed⟩ | ⟨item, left, taken, _, _, _, _, succeeded⟩⟩
  · rw [failed] at ran
    cases ran
    exact announced_failure fun _ => rfl
  · rw [crashed] at ran
    contradiction
  · rw [taken] at ran
    cases ran
    apply succeeded.announced [index]
    · simp [SaveBatch.slots]
    · exact fun _ => rfl

theorem announced_use {index : SlotIndex} {success : Bool}
    (ran : before.tryUseItem index = some (success, after)) :
    Announced before after [.itemUseAck success (World.slotAnswer after index success)] := by
  rcases before.tryUseItem_cases index with
    failed | ⟨_, _, _, ⟨_, crashed⟩ | ⟨left, used, _, succeeded⟩⟩
  · rw [failed] at ran
    cases ran
    exact announced_failure fun _ => rfl
  · rw [crashed] at ran
    contradiction
  · rw [used] at ran
    cases ran
    apply succeeded.announced [index]
    · simp [SaveBatch.slots]
    · exact fun _ => rfl

theorem announced_add {itemId : ItemTableId} {count : UInt16} {touched : List SlotIndex}
    {playerId : ObjID} {acquired : List (Nat × ServerPacket)}
    (ran : before.tryAddItem order itemId count = some (some touched, after))
    (told : World.acquirePackets playerId after touched = some acquired) :
    Announced before after (acquired.map Prod.snd) := by
  rw [acquirePackets_of_occupied (tryAddItem_occupied ran)] at told
  cases told
  apply (tryAddItem_succeeded ran).announced touched
  · intro batch member index within
    obtain ⟨other, among, rfl⟩ := List.mem_map.mp member
    exact List.mem_singleton.mp within ▸ among
  · intro mirror
    rw [List.map_map, List.foldl_map, List.foldl_map]
    rfl

end Inventory

/-! ## One session -/

/-- The client of a user shows its inventory, and a client whose session is not
in the game shows none. -/
structure Stock.Synced (stock : Stock) : Prop where
  shown : ∀ slots, stock.slots = some slots → stock.mirror.ShowsBut [] slots
  keys : ∀ slots, stock.slots = some slots → slots.KeysValid
  typed : ∀ slots, stock.slots = some slots → slots.All Item.Typed
  blank : stock.state ≠ .stIngame → stock.mirror = .blank

namespace Stock

variable {stock : Stock} {slots : Slots}

/-- A user in the game whose client shows its slots. -/
theorem synced_of_ingame (holds : stock.slots = some slots) (shown : stock.mirror.ShowsBut [] slots)
    (keys : slots.KeysValid) (typed : slots.All Item.Typed) (ingame : stock.state = .stIngame) :
    stock.Synced where
  shown _ found := Option.some.inj (holds.symm.trans found) ▸ shown
  keys _ found := Option.some.inj (holds.symm.trans found) ▸ keys
  typed _ found := Option.some.inj (holds.symm.trans found) ▸ typed
  blank outside := absurd ingame outside

/-- Taking the user out of the world keeps its client in step. -/
theorem Synced.gone (synced : stock.Synced) {fewer : Option Slots}
    (same : ∀ content, fewer = some content → stock.slots = some content) :
    Synced { stock with slots := fewer } where
  shown content found := synced.shown content (same content found)
  keys content found := synced.keys content (same content found)
  typed content found := synced.typed content (same content found)
  blank := synced.blank

end Stock

namespace World

variable {world stored after : World} {session thread : Nat} {choice : Choice grid}
  {client : Subject} {user : User} {inventory : Inventory} {packets : List ServerPacket}

/-- Only the stock of `session` changes: its user stores `inventory` and its
client gets `packets`. -/
structure Reports (session : Nat) (inventory : Inventory) (packets : List ServerPacket)
    (before after : World) : Prop where
  other : ∀ other, other ≠ session → after.stock other = before.stock other
  slots : (after.stock session).slots = some inventory.slots
  mirror : (after.stock session).mirror =
    packets.foldl ClientInventory.processPacket (before.stock session).mirror
  state : (after.stock session).state = (before.stock session).state

/-- Storing an inventory tells nobody. -/
theorem reports_setInventory (found : world.getUser (ObjID.user session) = some (client, user))
    (inventory : Inventory) :
    Reports session inventory [] world (world.setInventory (ObjID.user session) inventory) where
  other other different := by
    refine Stock.ext ?_ rfl rfl
    have apart : ObjID.user other ≠ ObjID.user session := fun same =>
      different (ObjID.user_inj.mp same)
    simp only [stock, setInventory, modifyUser, modify, Function.update_of_ne apart]
  slots := by
    rw [getUser_eq_some] at found
    simp [stock, setInventory, modifyUser, modify, found.1, found.2, Subject.slots]
  mirror := rfl
  state := rfl

/-- What leaves all stocks alone may follow. -/
theorem Reports.followedBy (reports : Reports session inventory packets world stored)
    (same : ∀ other, after.stock other = stored.stock other) :
    Reports session inventory packets world after where
  other other different := (same other).trans (reports.other other different)
  slots := same session ▸ reports.slots
  mirror := same session ▸ reports.mirror
  state := same session ▸ reports.state

/-- What leaves all stocks alone may precede. -/
theorem Reports.precededBy (reports : Reports session inventory packets stored after)
    (same : ∀ other, stored.stock other = world.stock other) :
    Reports session inventory packets world after where
  other other different := (reports.other other different).trans (same other)
  slots := reports.slots
  mirror := same session ▸ reports.mirror
  state := same session ▸ reports.state

/-- More packets for the same session. -/
theorem Reports.post (reports : Reports session inventory packets world stored)
    {posted : List (Nat × ServerPacket)} (mine : ∀ entry ∈ posted, entry.1 = session) :
    Reports session inventory (packets ++ posted.map Prod.snd) world (stored.post posted) where
  other other different := by
    rw [← reports.other other different]
    refine Stock.ext rfl ?_ rfl
    have nothing : posted.filter (fun entry => entry.1 = other) = [] := by
      rw [List.filter_eq_nil_iff]
      intro entry member
      simpa [mine entry member] using different.symm
    change (stored.post posted).mirror other = stored.mirror other
    rw [mirror_post, nothing]
    rfl
  slots := reports.slots
  mirror := by
    have everything : posted.filter (fun entry => entry.1 = session) = posted :=
      List.filter_eq_self.mpr fun entry member => by simpa using mine entry member
    change (stored.post posted).mirror session = _
    have earlier : stored.mirror session = _ := reports.mirror
    rw [mirror_post, everything, List.foldl_append, earlier]
  state := reports.state

theorem Reports.send (reports : Reports session inventory packets world stored)
    (packet : ServerPacket) :
    Reports session inventory (packets ++ [packet]) world
      (stored.send (ObjID.user session) packet) := by
  have mine : ∀ entry ∈ [((ObjID.user session).databaseId, packet)], entry.1 = session := by
    intro entry member
    rw [List.mem_singleton.mp member, ObjID.user_databaseId]
  exact reports.post mine

/-- An announced change keeps every client in step. -/
theorem Reports.synced (reports : Reports session inventory packets world after)
    (playing : world.getUser (ObjID.user session) = some (client, user))
    (ingame : world.sessionState session = .stIngame)
    (announced : user.inventory.Announced inventory packets)
    (synced : ∀ other, (world.stock other).Synced) (other : Nat) : (after.stock other).Synced := by
  by_cases same : other = session
  · subst same
    have before := synced other
    have held : (world.stock other).slots = some user.inventory.slots :=
      stock_slots_eq_some.mpr ⟨client, user, playing, rfl⟩
    have shown := announced.shown _ (before.shown _ held)
    rw [← reports.mirror] at shown
    exact Stock.synced_of_ingame reports.slots shown (announced.keys (before.keys _ held))
      (announced.typed (before.typed _ held)) (reports.state.trans ingame)
  · rw [reports.other other same]
    exact synced other

/-! ## The requests -/

/-- What a request about items does to the stocks. -/
inductive Attends (session : Nat) (before after : World) : Prop
  | idle : (∀ other, after.stock other = before.stock other) → Attends session before after
  | reports {client : Subject} {user : User} {inventory : Inventory}
      {packets : List ServerPacket} :
      before.getUser (ObjID.user session) = some (client, user) →
      before.sessionState session = .stIngame → user.inventory.Announced inventory packets →
      Reports session inventory packets before after → Attends session before after

/-- The packets go to the user that picked up. -/
theorem acquirePackets_mine {touched : List SlotIndex} {acquired : List (Nat × ServerPacket)}
    (told : acquirePackets (ObjID.user session) inventory touched = some acquired) :
    ∀ entry ∈ acquired, entry.1 = session := by
  induction touched generalizing acquired with
  | nil =>
      cases told
      exact fun _ member => absurd member List.not_mem_nil
  | cons index rest ih =>
      rw [acquirePackets, List.mapM_cons] at told
      obtain ⟨first, shown, others⟩ := Option.bind_eq_some_iff.mp told
      obtain ⟨item, _, rfl⟩ := Option.map_eq_some_iff.mp shown
      obtain ⟨later, mapped, collected⟩ := Option.bind_eq_some_iff.mp others
      cases collected
      intro entry member
      rcases List.mem_cons.mp member with rfl | among
      · rfl
      · exact ih mapped entry among

/-- Putting on keeps its own client up to date and leaves the others alone. -/
theorem equipRequest_attends {index : SlotIndex}
    (ran : world.equipRequest thread choice session index = some after) :
    Attends session world after := by
  unfold equipRequest at ran
  split at ran
  · exact .idle fun _ => by rw [Option.some.inj ran]
  · next client user allowed =>
    obtain ⟨ingame, found, _⟩ := playing_eq_some.mp allowed
    obtain ⟨slot, answered, served⟩ := Option.bind_eq_some_iff.mp ran
    dsimp only at served
    have answer := (reports_setInventory found (user.inventory.tryEquip choice.slots index).2).send
      (.itemEquipAck (user.inventory.tryEquip choice.slots index).1.1 slot)
    split at served
    · rw [onSector_eq_some] at served
      obtain ⟨acquired, told, rfl⟩ := Option.map_eq_some_iff.mp served.2
      exact .reports found ingame
        (Inventory.announced_equip choice.slots index user.inventory _ answered told)
        ((answer.followedBy fun _ => stock_broadcastEquipChange).post (acquirePackets_mine told))
    · next failed =>
      rw [← Option.some.inj served]
      have told : acquirePackets (ObjID.user session) (user.inventory.tryEquip choice.slots index).2
          (user.inventory.tryEquip choice.slots index).1.2.toList = some [] := by
        rw [Inventory.tryEquip_previous_of_failed failed]
        rfl
      exact .reports found ingame
        (Inventory.announced_equip choice.slots index user.inventory _ answered told) answer

theorem unequipRequest_attends {index : SlotIndex}
    (ran : world.unequipRequest thread choice session index = some after) :
    Attends session world after := by
  unfold unequipRequest at ran
  split at ran
  · exact .idle fun _ => by rw [Option.some.inj ran]
  · next client user allowed =>
    obtain ⟨ingame, found, _⟩ := playing_eq_some.mp allowed
    obtain ⟨slot, answered, served⟩ := Option.bind_eq_some_iff.mp ran
    dsimp only at served
    have answer := (reports_setInventory found (user.inventory.tryUnequip choice.slots index).2).send
      (.itemUnequipAck (user.inventory.tryUnequip choice.slots index).1 slot)
    have announced := Inventory.announced_unequip choice.slots index user.inventory answered
    split at served
    · rw [onSector_eq_some] at served
      rw [← Option.some.inj served.2]
      exact .reports found ingame announced (answer.followedBy fun _ => stock_broadcastEquipChange)
    · rw [← Option.some.inj served]
      exact .reports found ingame announced answer

theorem swapRequest_attends {indexA indexB : SlotIndex}
    (ran : world.swapRequest session indexA indexB = some after) :
    Attends session world after := by
  unfold swapRequest at ran
  split at ran
  · exact .idle fun _ => by rw [Option.some.inj ran]
  · next client user allowed =>
    obtain ⟨ingame, found, _⟩ := playing_eq_some.mp allowed
    rw [← Option.some.inj ran]
    exact .reports found ingame (Inventory.announced_swap indexA indexB user.inventory)
      ((reports_setInventory found _).send _)

theorem discardRequest_attends {index : SlotIndex} {count : UInt16}
    (ran : world.discardRequest thread choice session index count = some after) :
    Attends session world after := by
  unfold discardRequest at ran
  split at ran
  · exact .idle fun _ => by rw [Option.some.inj ran]
  · next client user allowed =>
    obtain ⟨ingame, found, _⟩ := playing_eq_some.mp allowed
    obtain ⟨⟨extracted, inventory⟩, taken, served⟩ := Option.bind_eq_some_iff.mp ran
    have announced := Inventory.announced_discard taken
    have keeps := reports_setInventory found inventory
    dsimp only at served
    split at served
    · rw [← Option.some.inj served]
      exact .reports found ingame announced (keeps.send _)
    · rw [onSector_eq_some] at served
      obtain ⟨spawned, spawns, rfl⟩ := Option.map_eq_some_iff.mp served.2
      refine .reports found ingame announced (Reports.send (keeps.followedBy fun other => ?_) _)
      rw [stock_broadcastEquipChange, stock_spawnFieldItem spawns]

theorem useRequest_attends {index : SlotIndex}
    (ran : world.useRequest choice session index = some after) :
    Attends session world after := by
  unfold useRequest at ran
  split at ran
  · exact .idle fun _ => by rw [Option.some.inj ran]
  · next client user allowed =>
    obtain ⟨ingame, found, _⟩ := playing_eq_some.mp allowed
    split at ran
    · obtain ⟨⟨success, inventory⟩, used, rfl⟩ := Option.map_eq_some_iff.mp ran
      have stamped : ∀ other, (world.modifyUser (ObjID.user session) fun current =>
          { current with lastPotionUseTime := choice.now }).stock other = world.stock other :=
        fun _ => stock_modifyUser fun _ => rfl
      have still : (world.modifyUser (ObjID.user session) fun current =>
          { current with lastPotionUseTime := choice.now }).getUser (ObjID.user session) =
            some ({ client with body := .user { user with lastPotionUseTime := choice.now } },
              { user with lastPotionUseTime := choice.now }) := by
        rw [getUser_eq_some] at found ⊢
        simp [modifyUser, modify, found.1, found.2]
      have keeps := (reports_setInventory still inventory).precededBy stamped
      dsimp only
      have healed : Reports session inventory [] world
          (if success = true then
            ((world.modifyUser (ObjID.user session) fun current =>
              { current with lastPotionUseTime := choice.now }).setInventory (ObjID.user session)
                inventory).send (ObjID.user session) (.userHealInf inventory.stat.hp)
          else
            (world.modifyUser (ObjID.user session) fun current =>
              { current with lastPotionUseTime := choice.now }).setInventory (ObjID.user session)
                inventory) := by
        split
        · exact keeps.followedBy fun _ => stock_send rfl
        · exact keeps
      exact .reports found ingame (Inventory.announced_use used) (healed.send _)
    · exact .idle fun _ => by rw [Option.some.inj ran]

theorem pickupRequest_attends
    (ran : world.pickupRequest thread choice session = some after) :
    Attends session world after := by
  unfold pickupRequest at ran
  split at ran
  · exact .idle fun _ => by rw [Option.some.inj ran]
  · next client user allowed =>
    obtain ⟨ingame, found, _⟩ := playing_eq_some.mp allowed
    rw [onSector_eq_some] at ran
    have picked := ran.2
    unfold tryPickupAt at picked
    split at picked
    · rw [← Option.some.inj picked]
      exact .idle fun _ => stock_send rfl
    · next itemId subject item target =>
      split at picked
      · contradiction
      · rw [← Option.some.inj picked]
        refine .idle fun _ => ?_
        rw [stock_send, stock_send]
        · exact rfl
        · exact rfl
      · next touched filled added =>
        split at picked
        · contradiction
        · next acquired told =>
          rw [← Option.some.inj picked]
          have announced := Inventory.announced_add added told
          obtain ⟨isItem, category, _⟩ := pickupTarget_item target
          have onField : (world.setInventory (ObjID.user session) filled).getItem itemId =
              some (subject, item) := by
            have apart : itemId ≠ ObjID.user session := by
              rintro rfl
              contradiction
            rw [getItem_eq_some] at isItem ⊢
            simpa [setInventory, modifyUser, modify, Function.update_of_ne apart] using isItem
          have taken : ∀ other, ((world.setInventory (ObjID.user session) filled).removeFieldItem
              thread choice itemId subject |>.send (ObjID.user session)
                (.itemPickupAck true)).stock other =
              (world.setInventory (ObjID.user session) filled).stock other := by
            intro other
            rw [stock_send, stock_removeFieldItem onField]
            exact rfl
          exact .reports found ingame announced
            (((reports_setInventory found filled).followedBy taken).post
              (acquirePackets_mine told))

end World

end Mmorpg
