import Mmorpg.Database.DBThread
import Mmorpg.Transition.WriteBehind

/-!
# The tables once every pending write is made

A request writes the inventory rows of one player, or the row of one account.
Reading the rows of a player, or the row of an account, is therefore a keyed
reading in the sense of write-behind stores.
-/

namespace Mmorpg

open DBThread Transition

variable {collate : String → String}

/-! ## Inventory rows -/

namespace InventoryTable

/-- The rows of a player by slot. -/
def rowsOf (table : InventoryTable) (playerId : Int) (slot : Int16) : Option InventoryRow :=
  table.find (playerId, slot)

/-- One half of a request writes one row of its player. -/
theorem rowsOf_writeHalf (playerId other : Int) (half : SlotColumns) (table : InventoryTable) :
    (table.writeHalf playerId half).rowsOf other =
      if other = playerId then
        Function.update (table.rowsOf other) half.slotIndex
          (if half.has then
            some ⟨playerId, half.slotIndex, half.itemId, half.count, half.equipped⟩
          else none)
      else table.rowsOf other := by
  funext slot
  unfold writeHalf
  by_cases player : other = playerId
  · by_cases here : slot = half.slotIndex <;> cases half.has <;>
      simp [rowsOf, find_upsert, find_delete, InventoryRow.key, player, here]
  · cases half.has <;> simp [rowsOf, find_upsert, find_delete, InventoryRow.key, player]

end InventoryTable

/-- What a request makes of the rows of its player. -/
def ItemRequest.effect (request : ItemRequest) (rows : Int16 → Option InventoryRow) :
    Int16 → Option InventoryRow :=
  let put := fun (playerId : Int) (half : InventoryTable.SlotColumns)
      (rows : Int16 → Option InventoryRow) =>
    Function.update rows half.slotIndex
      (if half.has then some ⟨playerId, half.slotIndex, half.itemId, half.count, half.equipped⟩
      else none)
  match request with
  | .saveItem playerId slotIndex itemId count equipped =>
      put playerId ⟨slotIndex.toInt16, true, itemId.toInt16, count.toInt16, equipped⟩ rows
  | .deleteItem playerId slotIndex => put playerId ⟨slotIndex.toInt16, false, 0, 0, false⟩ rows
  | .saveTwoItems playerId a b =>
      let first := InventoryTable.slotColumns a
      let second := InventoryTable.slotColumns b
      if first.slotIndex > second.slotIndex then put playerId first (put playerId second rows)
      else put playerId second (put playerId first rows)

theorem InventoryTable.rowsOf_processItem (request : ItemRequest) (table : InventoryTable)
    (playerId : Int) :
    (table.processItem request).rowsOf playerId =
      if playerId = request.playerId then request.effect (table.rowsOf playerId)
      else table.rowsOf playerId := by
  cases request with
  | saveItem owner slotIndex itemId count equipped =>
      exact rowsOf_writeHalf owner playerId
        ⟨slotIndex.toInt16, true, itemId.toInt16, count.toInt16, equipped⟩ table
  | deleteItem owner slotIndex =>
      exact rowsOf_writeHalf owner playerId ⟨slotIndex.toInt16, false, 0, 0, false⟩ table
  | saveTwoItems owner a b =>
      simp only [processItem, saveTwoInventorySlots, ItemRequest.effect, ItemRequest.playerId]
      split <;> by_cases player : playerId = owner <;> simp [rowsOf_writeHalf, player]

/-! ## Players -/

/-- The row of an account. -/
def PlayersTable.rowOf (table : PlayersTable collate) (account : String) : Option PlayerRow :=
  table.rows.find? fun row => collate row.name == account

/-- Names are compared by their collation keys. -/
theorem PlayersTable.find_eq_rowOf (name : String) (table : PlayersTable collate) :
    table.find name = table.rowOf (collate name) :=
  rfl

/-- A save writes the row of its name and no other. -/
theorem PlayersTable.rowOf_savePlayerInfo (name account : String) (x y : Int) (level exp : Nat)
    (table : PlayersTable collate) :
    (table.savePlayerInfo name x y level exp).rowOf account =
      if account = collate name then (table.rowOf account).map (saveRow x y level exp)
      else table.rowOf account := by
  have names : ∀ row : PlayerRow, collate
      (if collate row.name = collate name then saveRow x y level exp row else row).name =
        collate row.name := by
    intro row
    split <;> rfl
  simp only [rowOf, savePlayerInfo, List.find?_map, Function.comp_def, names]
  cases found : table.rows.find? fun row => collate row.name == account with
  | none => simp
  | some row =>
      have mine : collate row.name = account := by simpa using List.find?_some found
      by_cases here : account = collate name
      · simp [mine, here]
      · simp [mine, here]

/-! ## Requests -/

namespace DBThread.DbRequest

/-- What a request writes; a login only reads here. -/
def write (request : DbRequest) (store : Store collate) : Store collate :=
  match request with
  | login .. => store
  | other => other.apply store

/-- The player whose inventory rows a request writes. -/
def player : DbRequest → Option Int
  | item request => some request.playerId
  | _ => none

/-- The name a request saves a user under. -/
def savedName : DbRequest → Option String
  | saveUser _ name .. => some name
  | _ => none

/-- The account whose row a request writes. -/
def account (collate : String → String) (request : DbRequest) : Option String :=
  request.savedName.map collate

/-- What a request does to the inventory rows of its player. -/
def rowsEffect : DbRequest → (Int16 → Option InventoryRow) → Int16 → Option InventoryRow
  | item request => request.effect
  | _ => id

/-- What a request does to the row of its player in the table of accounts. -/
def rowEffect : DbRequest → Option PlayerRow → Option PlayerRow
  | saveUser _ _ x y level exp => Option.map (PlayersTable.saveRow x y level exp)
  | _ => id

/-- Inventory rows are written player by player. -/
theorem keyed_rowsOf : Keyed (write : DbRequest → Store collate → Store collate) player
    (fun store => store.inventory.rowsOf) rowsEffect where
  own request store key mine := by
    cases request with
    | item request =>
        obtain rfl := Option.some.inj mine
        exact (InventoryTable.rowsOf_processItem request _ _).trans (if_pos rfl)
    | _ => contradiction
  other request store key others := by
    cases request with
    | item request =>
        exact (InventoryTable.rowsOf_processItem request _ _).trans
          (if_neg fun same => others (congrArg some same.symm))
    | _ => rfl

/-- The rows of the players are written account by account. -/
theorem keyed_rowOf : Keyed (write : DbRequest → Store collate → Store collate) (account collate)
    (fun store => store.players.rowOf) rowEffect where
  own request store key mine := by
    cases request with
    | saveUser id name x y level exp =>
        obtain rfl := Option.some.inj mine
        exact (PlayersTable.rowOf_savePlayerInfo name _ x y level exp _).trans (if_pos rfl)
    | _ => contradiction
  other request store key others := by
    cases request with
    | saveUser id name x y level exp =>
        exact (PlayersTable.rowOf_savePlayerInfo name _ x y level exp _).trans
          (if_neg fun same => others (congrArg some same.symm))
    | _ => rfl

end DBThread.DbRequest

end Mmorpg
