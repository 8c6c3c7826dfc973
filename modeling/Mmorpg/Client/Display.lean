import Mmorpg.Client.Link
import Mmorpg.World.MirrorRuns

/-!
# The inventory a client shows

`ProcessPacket` works on bytes.  Behind a link the client applies what the
server posted, in order, so its inventory runs behind the one of the server and
catches up when the link is drained.
-/

namespace Mmorpg

open Transition Network

namespace ClientInventory

/-- `ProcessPacket` on an array, as far as it writes the inventory. -/
def processArray (inventory : ClientInventory) (ptr : List UInt8) : ClientInventory :=
  match ServerPacket.read ptr with
  | none => inventory
  | some packet => inventory.processPacket packet

/-- The structs keep all of an inventory packet that the client looks at. -/
theorem processPacket_kept (packet : ServerPacket) (inventory : ClientInventory) :
    inventory.processPacket packet.kept = inventory.processPacket packet := by
  cases packet with
  | itemListAck items =>
      rw [ServerPacket.kept, processPacket, processPacket, List.take_take, Nat.min_self]
  | _ => simp only [ServerPacket.kept, processPacket]

/-- Arrays that show the packets change the client as the packets do. -/
theorem foldl_processArray {arrays : List (List UInt8)} {packets : List ServerPacket}
    (read : arrays.map ServerPacket.read = packets.map fun packet => some packet.kept)
    (inventory : ClientInventory) :
    arrays.foldl processArray inventory = packets.foldl processPacket inventory := by
  induction arrays generalizing packets inventory with
  | nil =>
      cases packets with
      | nil => rfl
      | cons packet later => contradiction
  | cons array rest ih =>
      cases packets with
      | nil => contradiction
      | cons packet later =>
          rw [List.map_cons, List.map_cons, List.cons.injEq] at read
          rw [List.foldl_cons, List.foldl_cons, ih read.2, processArray, read.1]
          dsimp only
          rw [processPacket_kept]

end ClientInventory

namespace Server

open World Client

variable {grid : CollisionGrid} {collate : String → String}

/-- The client behind a link that carries the packets of a session shows the
inventory of an earlier moment, and the one of the server as soon as the link is
drained. -/
theorem inventory_displayed {count : Nat} {draw : Nat → Int × Int} {store : Store collate}
    {labels : List (Label grid)} {server : Server collate}
    (ran : run step labels (boot count draw store) = some server)
    {session : Nat} {client : Subject} {user : User}
    (found : server.world.getUser (ObjID.user session) = some (client, user))
    {buffer : Buffer sendBatchBufferSize} {linkLabels : List LinkLabel} {link : Link ProcessData}
    (linked : run (Link.step gameReceiver) linkLabels (Link.start gameReceiver buffer) = some link)
    (carries : link.packets = server.world.received session) :
    (∃ seen, seen <+: server.world.received session ∧
      link.state.processed.foldl ClientInventory.processArray .blank =
        seen.foldl ClientInventory.processPacket .blank) ∧
      (link.Drained → ∀ index, isValidSlotIndex index = true →
        (link.state.processed.foldl ClientInventory.processArray .blank index).Displays
          (user.inventory.slots index)) := by
  obtain ⟨arrived, later, split, read, all⟩ := (Link.run_faithful linked).arrived gameReceiver_exact
  have applied := ClientInventory.foldl_processArray read .blank
  refine ⟨⟨arrived, ⟨later, by rw [← carries, split]⟩, applied⟩, ?_⟩
  intro drained index valid
  have held : (server.world.stock session).slots = some user.inventory.slots :=
    stock_slots_eq_some.mpr ⟨client, user, found, rfl⟩
  have shown := (run_synced ran session).shown _ held index valid List.not_mem_nil
  rw [all drained, List.append_nil, carries] at split
  rw [← split] at applied
  exact congrFun applied index ▸ shown

/-- The client of a player who logs in, moves a potion and drinks it. -/
theorem inventory_displayed_sample :
    ∃ (server : Server id) (link : Link ProcessData),
      run step refreshment (boot 0 (fun _ => (9, 9)) World.savedStore) = some server ∧
      link.packets = server.world.received 1 ∧
      (link.state.processed.foldl ClientInventory.processArray .blank 7).count = 4 := by
  have completes : (run step refreshment (boot 0 (fun _ => (9, 9)) World.savedStore)).isSome := by
    rfl
  obtain ⟨server, ran⟩ := Option.isSome_iff_exists.mp completes
  have plays : (server.world.getUser (ObjID.user 1)).isSome := by
    obtain rfl := Option.some.inj ran
    rfl
  obtain ⟨⟨client, user⟩, found⟩ := Option.isSome_iff_exists.mp plays
  obtain ⟨_, link, linked, drained, carries⟩ := Link.exists_drained gameReceiver_exact
    (Buffer.zero sendBatchBufferSize) (server.world.received 1)
  have shown := (inventory_displayed ran found linked carries).2 drained 7 (by decide)
  have left : (server.world.getUser (ObjID.user 1)).map
      (fun entry => (entry.2.inventory.slots 7).map Item.count) = some (some 4) := by
    obtain rfl := Option.some.inj ran
    rfl
  rw [found, Option.map_some, Option.some.injEq] at left
  obtain ⟨item, stored, count⟩ := Option.map_eq_some_iff.mp left
  refine ⟨server, link, ran, carries, ?_⟩
  rw [shown.count, stored]
  exact count

end Server

end Mmorpg
