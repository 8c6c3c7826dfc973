import Mmorpg.World.Packet
import Mathlib.Logic.Function.Basic

/-!
# The other players a client shows

The cases of the client's `ProcessPacket` that write the entries of other users
in its map `players`; the login answer, which names `g_myid`, is the first
packet a user gets.  Animations are left out, and so is the fade of a zone
change.  What the packets do to the weapon of one entry can be followed by
itself.
-/

namespace Mmorpg

/-- `OBJECT`, as far as it describes another player. -/
structure ClientPlayer where
  x : Int
  y : Int
  name : String
  hp : Nat := 0
  equippedItemId : ItemTableId := itemTableIdNone
  showing : Bool := true
  deriving DecidableEq, Repr

/-- `players`, of which only the entries of users are kept. -/
abbrev ClientPlayers := ObjID → Option ClientPlayer

namespace ClientPlayers

/-- The client knows nobody. -/
def empty : ClientPlayers := fun _ => none

/-- A change of a player the client knows; nothing for one it does not know. -/
def modify (id : ObjID) (change : ClientPlayer → ClientPlayer) (players : ClientPlayers) :
    ClientPlayers :=
  Function.update players id ((players id).map change)

/-- The part of `ProcessPacket` that writes `players`. -/
def processPacket (myId : ObjID) (players : ClientPlayers) (packet : ServerPacket) :
    ClientPlayers :=
  match packet with
  | .subjectAddNfy id x y name _ itemId =>
      if id = myId then players
      else if id.category = .eUser then
        Function.update players id
          (some { x := x, y := y, name := name, equippedItemId := itemId })
      else players
  | .subjectMoveNfy id x y =>
      if id = myId then players else players.modify id fun player => { player with x := x, y := y }
  | .subjectRemoveNfy id => if id = myId then players else Function.update players id none
  | .subjectDieNfy id hp =>
      if id.category = .eMonster ∨ id = myId then players
      else players.modify id fun player => { player with hp := hp, showing := false }
  | .subjectRespawnNfy id x y hp name _ =>
      if id = myId then players
      else
        match players id with
        | some player =>
            Function.update players id
              (some { player with x := x, y := y, hp := hp, showing := true })
        | none =>
            if id.category = .eUser then
              Function.update players id (some { x := x, y := y, name := name, hp := hp })
            else players
  | .subjectAttackNfy victimId _ hp =>
      if victimId = myId then players else players.modify victimId fun player => { player with hp := hp }
  | .subjectEquipChangeNfy id itemId =>
      if id = myId then players
      else players.modify id fun player => { player with equippedItemId := itemId }
  | _ => players

/-- The weapon the client draws in the hands of a player it knows. -/
def weaponOf (id : ObjID) (players : ClientPlayers) : Option ItemTableId :=
  (players id).map ClientPlayer.equippedItemId

end ClientPlayers

namespace ServerPacket

/-- The object whose weapon a packet may change. -/
def bearer : ServerPacket → Option ObjID
  | subjectAddNfy id .. => some id
  | subjectRemoveNfy id => some id
  | subjectRespawnNfy id .. => some id
  | subjectEquipChangeNfy id _ => some id
  | _ => none

/-- The known weapon of the player `id` after a packet. -/
def weaponAfter (id : ObjID) (known : Option ItemTableId) : ServerPacket → Option ItemTableId
  | subjectAddNfy other _ _ _ _ itemId => if other = id then some itemId else known
  | subjectRemoveNfy other => if other = id then none else known
  | subjectRespawnNfy other .. => if other = id then some (known.getD itemTableIdNone) else known
  | subjectEquipChangeNfy other itemId => if other = id then known.map fun _ => itemId else known
  | _ => known

variable {id : ObjID} {packet : ServerPacket}

/-- A packet about somebody else changes nothing. -/
theorem weaponAfter_of_bearer (other : packet.bearer ≠ some id) (known : Option ItemTableId) :
    packet.weaponAfter id known = known := by
  cases packet with
  | subjectAddNfy other_ x y name type itemId => exact if_neg fun same => other (congrArg some same)
  | subjectRemoveNfy other_ => exact if_neg fun same => other (congrArg some same)
  | subjectRespawnNfy other_ x y hp name type => exact if_neg fun same => other (congrArg some same)
  | subjectEquipChangeNfy other_ itemId => exact if_neg fun same => other (congrArg some same)
  | _ => rfl

/-- What every packet keeps holds after all of them. -/
theorem weaponAfter_keeps (property : Option ItemTableId → Prop) {packets : List ServerPacket}
    (keeps : ∀ packet ∈ packets, ∀ known, property known → property (packet.weaponAfter id known))
    {known : Option ItemTableId} (initially : property known) :
    property (packets.foldl (weaponAfter id) known) :=
  List.foldlRecOn packets (weaponAfter id) initially fun known holds packet member =>
    keeps packet member known holds

/-- One packet that turns the early property into the late one is enough, if
the others keep both. -/
theorem weaponAfter_reaches (early late : Option ItemTableId → Prop) {packets : List ServerPacket}
    (keepsEarly : ∀ packet ∈ packets, ∀ known, early known → early (packet.weaponAfter id known))
    (keepsLate : ∀ packet ∈ packets, ∀ known, late known → late (packet.weaponAfter id known))
    (turns : ∃ packet ∈ packets, ∀ known, early known → late (packet.weaponAfter id known))
    {known : Option ItemTableId} (initially : early known) :
    late (packets.foldl (weaponAfter id) known) := by
  rcases turns with ⟨packet, member, turns⟩
  rcases List.append_of_mem member with ⟨first, second, rfl⟩
  rw [List.foldl_append, List.foldl_cons]
  apply weaponAfter_keeps late fun other among =>
    keepsLate other (List.mem_append_right _ (List.mem_cons_of_mem _ among))
  apply turns
  apply weaponAfter_keeps early _ initially
  exact fun other among => keepsEarly other (List.mem_append_left _ among)

end ServerPacket

namespace ClientPlayers

variable {players : ClientPlayers} {id myId other : ObjID}

/-- The weapon shown changes with the record of the player only. -/
theorem weaponOf_update (content : Option ClientPlayer) :
    weaponOf id (Function.update players other content) =
      if other = id then content.map ClientPlayer.equippedItemId else players.weaponOf id := by
  rw [weaponOf, Function.update_apply]
  by_cases same : id = other
  · rw [if_pos same, if_pos same.symm]
  · rw [if_neg same, if_neg (Ne.symm same), weaponOf]

/-- A change that leaves the weapon alone. -/
theorem weaponOf_modify {change : ClientPlayer → ClientPlayer}
    (keeps : ∀ player, (change player).equippedItemId = player.equippedItemId) :
    (players.modify other change).weaponOf id = players.weaponOf id := by
  rw [modify, weaponOf_update]
  split
  · next same =>
    subst same
    rw [weaponOf, Option.map_map]
    exact congrArg (fun weapon => (players other).map weapon) (funext keeps)
  · rfl

/-- The weapon of a user other than the client's own can be followed by
itself. -/
theorem weaponOf_processPacket (foreign : id ≠ myId) (user : id.category = .eUser)
    (packet : ServerPacket) :
    (players.processPacket myId packet).weaponOf id = packet.weaponAfter id (players.weaponOf id) := by
  cases packet with
  | subjectAddNfy other x y name type itemId =>
      simp only [processPacket, ServerPacket.weaponAfter]
      by_cases same : other = id
      · subst same
        rw [if_neg foreign, if_pos user, weaponOf_update]
        rfl
      · rw [if_neg same]
        split
        · rfl
        · split
          · rw [weaponOf_update, if_neg same]
          · rfl
  | subjectMoveNfy other x y =>
      simp only [processPacket]
      split
      · rfl
      · exact weaponOf_modify fun _ => rfl
  | subjectRemoveNfy other =>
      simp only [processPacket, ServerPacket.weaponAfter]
      by_cases same : other = id
      · subst same
        rw [if_neg foreign, weaponOf_update]
        rfl
      · rw [if_neg same]
        split
        · rfl
        · rw [weaponOf_update, if_neg same]
  | subjectDieNfy other hp =>
      simp only [processPacket]
      split
      · rfl
      · exact weaponOf_modify fun _ => rfl
  | subjectRespawnNfy other x y hp name type =>
      simp only [processPacket, ServerPacket.weaponAfter]
      by_cases same : other = id
      · subst same
        rw [if_neg foreign, if_pos rfl]
        cases known : players other with
        | some player =>
            rw [weaponOf_update, if_pos rfl, weaponOf, known]
            rfl
        | none =>
            dsimp only
            rw [if_pos user, weaponOf_update, if_pos rfl, weaponOf, known]
            rfl
      · rw [if_neg same]
        split
        · rfl
        · split
          · rw [weaponOf_update, if_neg same]
          · split
            · rw [weaponOf_update, if_neg same]
            · rfl
  | subjectAttackNfy victimId attackerId hp =>
      simp only [processPacket]
      split
      · rfl
      · exact weaponOf_modify fun _ => rfl
  | subjectEquipChangeNfy other itemId =>
      simp only [processPacket, ServerPacket.weaponAfter]
      by_cases same : other = id
      · subst same
        rw [if_neg foreign, if_pos rfl, modify, weaponOf_update, if_pos rfl, weaponOf,
          Option.map_map, Option.map_map]
        rfl
      · rw [if_neg same]
        split
        · rfl
        · rw [modify, weaponOf_update, if_neg same]
  | _ => rfl

/-- The weapon shown after some packets, from the packets alone. -/
theorem weaponOf_foldl (foreign : id ≠ myId) (user : id.category = .eUser)
    (packets : List ServerPacket) (players : ClientPlayers) :
    (packets.foldl (processPacket myId) players).weaponOf id =
      packets.foldl (ServerPacket.weaponAfter id) (players.weaponOf id) := by
  induction packets generalizing players with
  | nil => rfl
  | cons packet rest ih =>
      rw [List.foldl_cons, List.foldl_cons, ih, weaponOf_processPacket foreign user]

end ClientPlayers

end Mmorpg
