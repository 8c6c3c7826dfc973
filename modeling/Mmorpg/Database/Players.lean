import Mmorpg.Database.InventoryTable

/-!
# The players table

The table `Players` and its stored procedures (`setup.sql`).  Names are
compared through the collation of the database, a parameter: two names are the
same account when their collation keys agree.
-/

namespace Mmorpg

/-- `DB_USER_INFO`, with the defaults of its members. -/
structure DbUserInfo where
  playerId : Int := 0
  name : String := ""
  password : String := ""
  x : Int := 0
  y : Int := 0
  level : Nat := 1
  exp : Nat := 0
  deriving DecidableEq, Repr

/-- A row of table `Players`. -/
structure PlayerRow where
  playerId : Int
  name : String
  password : String
  x : Int
  y : Int
  level : Nat
  exp : Nat
  deriving DecidableEq, Repr

/-- The table with its primary key, its unique names and the next value of the
identity column. -/
structure PlayersTable (collate : String → String) where
  rows : List PlayerRow
  nextId : Int
  primaryKey : (rows.map PlayerRow.playerId).Nodup
  uniqueNames : (rows.map fun row => collate row.name).Nodup
  identity : ∀ row ∈ rows, 1 ≤ row.playerId ∧ row.playerId < nextId
  one_le_nextId : 1 ≤ nextId

namespace PlayersTable

variable {collate : String → String}

/-- The row of a name, compared under the collation of the column. -/
def find (name : String) (table : PlayersTable collate) : Option PlayerRow :=
  table.rows.find? fun row => collate row.name == collate name

/-- Names are unique, so the row of a name is. -/
theorem find_eq_some_iff (name : String) (table : PlayersTable collate) (row : PlayerRow) :
    table.find name = some row ↔ row ∈ table.rows ∧ collate row.name = collate name :=
  find?_key_eq_some_iff (fun row : PlayerRow => collate row.name) table.uniqueNames

/-- Procedure `isPlayerRegistered`. -/
def isPlayerRegistered (name : String) (table : PlayersTable collate) : Bool :=
  (table.find name).isSome

/-- Procedure `ExtractPlayerInfo`. -/
def extractPlayerInfo (name : String) (table : PlayersTable collate) : Option PlayerRow :=
  table.find name

/-- `ExtractUserInfo`: the name is the requested one, the password is left
empty, and a missing row gives the defaults. -/
def extractUserInfo (name : String) (table : PlayersTable collate) : DbUserInfo :=
  match table.extractPlayerInfo name with
  | none => {}
  | some row =>
      { playerId := row.playerId
        name := name
        x := row.x
        y := row.y
        level := row.level
        exp := row.exp }

/-- The insertion of `AddNewPlayer`: nothing happens when the name exists. -/
def insertNew (name password : String) (x y : Int) (level exp : Nat)
    (table : PlayersTable collate) : PlayersTable collate :=
  if missing : table.find name = none then
    { rows := table.rows ++ [⟨table.nextId, name, password, x, y, level, exp⟩]
      nextId := table.nextId + 1
      primaryKey := by
        rw [List.map_append, List.map_singleton, List.nodup_append]
        refine ⟨table.primaryKey, List.nodup_singleton _, ?_⟩
        rintro playerId member last lastMember rfl
        rcases List.mem_map.mp member with ⟨row, rowMember, rfl⟩
        have below := (table.identity row rowMember).2
        have same : row.playerId = table.nextId := List.mem_singleton.mp lastMember
        omega
      uniqueNames := by
        rw [List.map_append, List.map_singleton, List.nodup_append]
        refine ⟨table.uniqueNames, List.nodup_singleton _, ?_⟩
        rintro key member last lastMember rfl
        rcases List.mem_map.mp member with ⟨row, rowMember, rfl⟩
        have absent := List.find?_eq_none.mp missing row rowMember
        exact absent (by simpa using lastMember)
      identity := by
        intro row member
        have positive := table.one_le_nextId
        rcases List.mem_append.mp member with old | new
        · have bounds := table.identity row old
          exact ⟨bounds.1, by omega⟩
        · rw [List.mem_singleton] at new
          subst new
          exact ⟨positive, Int.lt_succ table.nextId⟩
      one_le_nextId := by
        have positive := table.one_le_nextId
        omega }
  else table

/-- Procedure `AddNewPlayer`: the identifier of the name's row afterwards. -/
def addNewPlayer (name password : String) (x y : Int) (level exp : Nat)
    (table : PlayersTable collate) : PlayersTable collate × Option Int :=
  let inserted := table.insertNew name password x y level exp
  (inserted, (inserted.find name).map PlayerRow.playerId)

/-- The row change of `SavePlayerInfo`; a coordinate out of range keeps the
stored one. -/
def saveRow (x y : Int) (level exp : Nat) (row : PlayerRow) : PlayerRow :=
  { row with
    x := if 0 ≤ x ∧ x ≤ 1999 then x else row.x
    y := if 0 ≤ y ∧ y ≤ 1999 then y else row.y
    level := level
    exp := exp }

/-- Procedure `SavePlayerInfo`. -/
def savePlayerInfo (name : String) (x y : Int) (level exp : Nat) (table : PlayersTable collate) :
    PlayersTable collate where
  rows := table.rows.map fun row =>
    if collate row.name = collate name then saveRow x y level exp row else row
  nextId := table.nextId
  primaryKey := by
    have same : (table.rows.map fun row => if collate row.name = collate name then
        saveRow x y level exp row else row).map PlayerRow.playerId =
          table.rows.map PlayerRow.playerId := by
      rw [List.map_map]
      apply List.map_congr_left
      intro row _
      simp only [Function.comp_apply]
      split <;> rfl
    exact same ▸ table.primaryKey
  uniqueNames := by
    have same : (table.rows.map fun row => if collate row.name = collate name then
        saveRow x y level exp row else row).map (fun row => collate row.name) =
          table.rows.map fun row => collate row.name := by
      rw [List.map_map]
      apply List.map_congr_left
      intro row _
      simp only [Function.comp_apply]
      split <;> rfl
    exact same ▸ table.uniqueNames
  identity := by
    intro row member
    rcases List.mem_map.mp member with ⟨old, oldMember, rfl⟩
    have bounds := table.identity old oldMember
    split
    · exact bounds
    · exact bounds
  one_le_nextId := table.one_le_nextId

/-- Registering an existing name changes nothing and returns its identifier. -/
theorem addNewPlayer_of_find {name : String} {table : PlayersTable collate} {row : PlayerRow}
    (stored : table.find name = some row) (password : String) (x y : Int) (level exp : Nat) :
    table.addNewPlayer name password x y level exp = (table, some row.playerId) := by
  simp [addNewPlayer, insertNew, stored]

end PlayersTable

/-- Both tables of the game database. -/
structure Store (collate : String → String) where
  players : PlayersTable collate
  inventory : InventoryTable

end Mmorpg
