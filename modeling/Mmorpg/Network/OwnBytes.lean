import Mmorpg.Network.Dispatch
import Mmorpg.World.LoginFailure

/-!
# When a packet depends on its own bytes only

A frame that is shorter than what its handler reads gets the rest from the
packet the job carried before.  For every such frame two earlier packets are
given that make a difference.
-/

namespace Mmorpg

open ZoneLayout

namespace Network

variable {grid : CollisionGrid} {frame rest : List UInt8} {offset size : Nat}

/-- Whatever the job carried before, the packet has the same effect in every
world. -/
def DependsOnFrame (frame : List UInt8) : Prop :=
  ∀ (grid : CollisionGrid) (thread : Nat) (choice : Choice grid) (session : Nat) (world : World)
    (first second : PacketDispatchJob),
    routeDispatch thread choice session (first.copyAt 0 frame).bytes world =
      routeDispatch thread choice session (second.copyAt 0 frame).bytes world

/-! ## Own bytes suffice -/

theorem teleportRequest_refused {thread : Nat} {choice : Choice grid} {session : Nat} {x y : Int}
    {world : World} (outside : ¬(0 ≤ x ∧ x < wWidth)) :
    world.teleportRequest thread choice session x y = some world := by
  have refused : isValidWorldPosition x y = false := by
    rw [Bool.eq_false_iff, ne_eq, isValidWorldPosition_iff]
    exact fun inside => outside ⟨inside.1, inside.2.1⟩
  unfold World.teleportRequest
  split
  · rfl
  · rw [refused]
    rfl

theorem tryExtractItem_refused {order : SlotOrder} {index : SlotIndex} {count : UInt16}
    {inventory : Inventory} (invalid : isValidSlotIndex index = false) :
    inventory.tryExtractItem order index count = some (none, inventory) := by
  simp [Inventory.tryExtractItem, Inventory.holdsAtLeast, invalid]

/-- The count does not matter when the slot is invalid. -/
theorem discardRequest_refused {thread : Nat} {choice : Choice grid} {session : Nat}
    {index : SlotIndex} (invalid : isValidSlotIndex index = false) (first second : UInt16)
    (world : World) : world.discardRequest thread choice session index first =
      world.discardRequest thread choice session index second := by
  unfold World.discardRequest
  simp only [tryExtractItem_refused invalid]

/-- Chats with the same text are one to every reader. -/
theorem chatRequest_congr {thread : Nat} {choice : Choice grid} {session : Nat}
    {first second : String} (same : chatText first = chatText second)
    (world : World) : world.chatRequest thread choice session first =
      world.chatRequest thread choice session second := by
  simp only [World.chatRequest, World.broadcastChat, same]

/-- The last character of a whole text array is not sent. -/
theorem chatText_textAt (offset : Nat) (bytes : List UInt8) :
    chatText (asString (textAt offset chatSize bytes)) =
      asString (textAt offset (chatSize - 1) bytes) := by
  have fewer : min (chatSize - 1) chatSize = chatSize - 1 := by decide
  rw [chatText, asString, String.toList_ofList, ← List.map_take, textAt,
    List.take_takeWhile, List.take_take, fewer]
  rfl

/-- The request is read from the frame, apart from what cannot matter. -/
theorem dispatch_append {type : RequestType} (own : ReadsOwn frame type) {thread : Nat}
    {choice : Choice grid} {session : Nat} {world : World} :
    world.dispatch thread choice session (readRequest type (frame ++ rest)) =
      world.dispatch thread choice session (readRequest type frame) := by
  cases type with
  | userLoginReq => rw [readRequest, readRequest, textAt_append own.1, textAt_append own.2]
  | userMoveReq =>
      unfold readRequest
      rw [charAt_append own]
  | userAttackReq => rw [readRequest, readRequest, byteAt_append own]
  | userSkillReq => rfl
  | userTeleportReq =>
      rcases own with whole | ⟨column, outside⟩
      · unfold readRequest
        rw [shortAt_append (by omega), shortAt_append (by omega)]
      · unfold readRequest World.dispatch
        dsimp only
        rw [shortAt_append column, teleportRequest_refused outside, teleportRequest_refused outside]
  | itemEquipReq => rw [readRequest, readRequest, uint16At_append own]
  | itemUnequipReq => rw [readRequest, readRequest, uint16At_append own]
  | itemSwapReq =>
      have whole : headerSize + 4 ≤ frame.length := own
      rw [readRequest, readRequest, uint16At_append (by omega), uint16At_append (by omega)]
  | itemDiscardReq =>
      rcases own with whole | ⟨slot, invalid⟩
      · rw [readRequest, readRequest, uint16At_append (by omega), uint16At_append (by omega)]
      · unfold readRequest World.dispatch
        dsimp only
        rw [uint16At_append slot]
        exact discardRequest_refused invalid _ _ world
  | itemPickupReq => rfl
  | itemUseReq => rw [readRequest, readRequest, uint16At_append own]
  | csChat =>
      apply chatRequest_congr
      rw [chatText_textAt, chatText_textAt, textAt_append own]

/-- A frame that holds all that its handler reads is handled alike, whatever
follows it. -/
theorem routeDispatch_append (own : OwnBytes frame) {thread : Nat} {choice : Choice grid}
    {session : Nat} {world : World} :
    routeDispatch thread choice session (frame ++ rest) world =
      routeDispatch thread choice session frame world := by
  obtain ⟨header, reads⟩ := own
  have sameType : byteAt 2 (frame ++ rest) = byteAt 2 frame := byteAt_append header
  rw [routeDispatch, routeDispatch, sameType]
  cases known : requestType (byteAt 2 frame) with
  | none => rfl
  | some type => exact dispatch_append (reads type known)

/-! ## Frames that are filled up -/

/-- The frame in a job that was full of one byte. -/
def padded (frame : List UInt8) (byte : UInt8) : List UInt8 :=
  frame ++ List.replicate (maxClientPacketSize - frame.length) byte

theorem byteAt_padded (byte : UInt8) (inside : offset < maxClientPacketSize) :
    byteAt offset (padded frame byte) =
      if offset < frame.length then byteAt offset frame else byte := by
  split
  · next own => exact byteAt_append own
  · next beyond =>
    rw [byteAt, padded, List.getD_append_right _ _ _ _ (by omega), List.getD_replicate]
    omega

/-- A number that the frame does not have whole has its high byte from
elsewhere. -/
theorem readUInt16_padded (byte : UInt8) (inside : offset + 2 ≤ maxClientPacketSize)
    (beyond : frame.length < offset + 2) :
    Buffer.readUInt16 offset (padded frame byte) =
      (if offset < frame.length then byteAt offset frame else byte).toNat + 256 * byte.toNat := by
  have low : byteAt offset (padded frame byte) =
      if offset < frame.length then byteAt offset frame else byte :=
    byteAt_padded byte (by omega)
  have high : byteAt (offset + 1) (padded frame byte) = byte := by
    rw [byteAt_padded byte (by omega), if_neg (by omega)]
  calc
    Buffer.readUInt16 offset (padded frame byte) =
        (byteAt offset (padded frame byte)).toNat +
          256 * (byteAt (offset + 1) (padded frame byte)).toNat := rfl
    _ = _ := by rw [low, high]

/-- A number that begins inside the frame and ends outside depends on the
padding. -/
theorem uint16At_padded_ne (inside : offset + 2 ≤ maxClientPacketSize)
    (beyond : frame.length < offset + 2) :
    uint16At offset (padded frame 0) ≠ uint16At offset (padded frame 255) := by
  intro same
  have numbers := congrArg UInt16.toNat same
  rw [uint16At, uint16At, readUInt16_padded 0 inside beyond, readUInt16_padded 255 inside beyond]
    at numbers
  have low := (byteAt offset frame).toNat_lt
  simp only [UInt16.toNat_ofNat'] at numbers
  split at numbers
  · simp at numbers
    omega
  · simp at numbers

theorem uint16At_padded_lt (inside : offset + 2 ≤ maxClientPacketSize)
    (beyond : frame.length < offset + 2) :
    uint16At offset (padded frame 0) < uint16At offset (padded frame 1) := by
  have low := (byteAt offset frame).toNat_lt
  have zeros : (0 : UInt8).toNat = 0 := rfl
  have ones : (1 : UInt8).toNat = 1 := rfl
  rw [UInt16.lt_iff_toNat_lt, uint16At, uint16At, readUInt16_padded 0 inside beyond,
    readUInt16_padded 1 inside beyond, UInt16.toNat_ofNat', UInt16.toNat_ofNat']
  split
  · rw [zeros, ones]
    omega
  · decide

/-- Filled up with zeros a coordinate is small, filled up with ones it is
negative. -/
theorem shortAt_padded (inside : offset + 2 ≤ maxClientPacketSize)
    (beyond : frame.length < offset + 2) :
    (0 ≤ shortAt offset (padded frame 0) ∧ shortAt offset (padded frame 0) < 256) ∧
      shortAt offset (padded frame 255) < 0 := by
  have low := (byteAt offset frame).toNat_lt
  have small := readUInt16_padded 0 inside beyond
  have large := readUInt16_padded 255 inside beyond
  unfold shortAt
  rw [small, large]
  by_cases own : offset < frame.length
  · have zeros : (0 : UInt8).toNat = 0 := rfl
    have ones : (255 : UInt8).toNat = 255 := rfl
    rw [if_pos own, if_pos own, zeros, ones, signed, signed, if_pos (by omega), if_neg (by omega)]
    omega
  · rw [if_neg own, if_neg own]
    decide

/-- A text that is not the frame's own has all its characters when it is filled
up with letters, and fewer when it is filled up with zeros. -/
theorem length_textAt_padded (positive : 0 < size) (inside : offset + size ≤ maxClientPacketSize)
    (other : ¬OwnText offset size frame) :
    (textAt offset size (padded frame 0)).length < size ∧
      (textAt offset size (padded frame 65)).length = size := by
  rw [OwnText, not_or] at other
  obtain ⟨short, endless⟩ := other
  have region : ∀ byte : UInt8, ((padded frame byte).drop offset).take size =
      (frame.drop offset).take size ++
        List.replicate (size - (frame.drop offset).length) byte := by
    intro byte
    rw [padded, List.drop_append, List.take_append, List.drop_replicate, List.take_replicate,
      List.length_drop]
    congr 2
    omega
  have letters : ∀ byte ∈ (frame.drop offset).take size, decide (byte ≠ 0) = true := by
    intro byte member
    rw [decide_eq_true_iff]
    rintro rfl
    exact endless member
  have kept : ((frame.drop offset).take size).length = (frame.drop offset).length := by
    rw [List.length_take, List.length_drop]
    omega
  have own : (frame.drop offset).length < size := by
    rw [List.length_drop]
    omega
  constructor
  · rw [textAt, region, List.takeWhile_append_of_pos letters, List.takeWhile_replicate]
    simpa [kept] using own
  · rw [textAt, region, List.takeWhile_append_of_pos letters, List.takeWhile_replicate]
    simp only [List.length_append, kept]
    simp
    omega

/-! ## A world that shows the difference -/

/-- A user with the given slots. -/
def soloUser (slots : Slots) : User :=
  let user := User.initInstance (ObjID.user 1) 1 1 0
  { user with inventory := { user.inventory with slots := slots } }

/-- The user standing in zone 0. -/
def soloSubject (slots : Slots) : Subject where
  name := "kim"
  transform := { x := 9, y := 9, sector := Sector.getSectorCoord 9 9, zoneId := 0 }
  body := .user (soloUser slots)

/-- One player in the game and nobody else. -/
def soloWorld (slots : Slots) : World :=
  { World.empty with
    objects := Function.update (fun _ => none) (ObjID.user 1) (some (soloSubject slots))
    sessions := Function.update (fun _ => none) 1
      (some { state := .stIngame, routingZoneId := 0 }) }

@[simp]
theorem playing_soloWorld (slots : Slots) (needsAlive : Bool) :
    (soloWorld slots).playing 1 needsAlive = some (soloSubject slots, soloUser slots) := by
  rw [World.playing_eq_some]
  refine ⟨rfl, rfl, ?_, rfl⟩
  exact fun dead => absurd dead.2 (by simp [soloUser, User.initInstance, User.stat])

/-- A player without items is told the slot it asked for. -/
theorem outbox_equip (thread : Nat) (index : SlotIndex) :
    ((soloWorld fun _ => none).dispatch thread .steady 1 (.itemEquipReq index)).map World.outbox =
      some [(1, .itemEquipAck false { slotIndex := index })] := by
  have refused : (soloUser fun _ => none).inventory.tryEquip Choice.steady.slots index =
      ((false, none), (soloUser fun _ => none).inventory) := by
    unfold Inventory.tryEquip
    split
    · rfl
    · rfl
  simp only [World.dispatch, World.equipRequest, playing_soloWorld, refused]
  rfl

/-- The answer shows the slot that was asked for. -/
theorem outbox_unequip (thread : Nat) (index : SlotIndex) :
    ((soloWorld fun _ => none).dispatch thread .steady 1 (.itemUnequipReq index)).map World.outbox =
      some [(1, .itemUnequipAck false { slotIndex := index })] := by
  have refused : (soloUser fun _ => none).inventory.tryUnequip Choice.steady.slots index =
      (false, (soloUser fun _ => none).inventory) := by
    unfold Inventory.tryUnequip
    split
    · rfl
    · rfl
  simp only [World.dispatch, World.unequipRequest, playing_soloWorld, refused]
  rfl

/-- The answer shows the slot that was asked for. -/
theorem outbox_use (thread : Nat) (index : SlotIndex) :
    ((soloWorld fun _ => none).dispatch thread .steady 1 (.itemUseReq index)).map World.outbox =
      some [(1, .itemUseAck false { slotIndex := index })] := by
  have refused : (soloUser fun _ => none).inventory.tryUseItem index =
      some (false, (soloUser fun _ => none).inventory) := by
    unfold Inventory.tryUseItem
    split
    · rfl
    · rfl
  simp only [World.dispatch, World.useRequest, playing_soloWorld, refused]
  rfl

/-- The answer shows both slots that were asked for. -/
theorem outbox_swap (thread : Nat) (indexA indexB : SlotIndex) :
    ((soloWorld fun _ => none).dispatch thread .steady 1 (.itemSwapReq indexA indexB)).map
        World.outbox =
      some [(1, .itemSwapAck false { slotIndex := indexA } { slotIndex := indexB })] := by
  have refused : (soloUser fun _ => none).inventory.trySwapSlots indexA indexB =
      (false, (soloUser fun _ => none).inventory) := by
    unfold Inventory.trySwapSlots
    split
    · rfl
    · split
      · rfl
      · exact if_pos ⟨rfl, rfl⟩
  simp only [World.dispatch, World.swapRequest, playing_soloWorld, refused]
  rfl

/-- A discard that fails says so. -/
theorem outbox_discard {slots : Slots} {index : SlotIndex} {count : UInt16} (thread : Nat)
    (refused : (soloUser slots).inventory.holdsAtLeast index count = none) :
    ((soloWorld slots).dispatch thread .steady 1 (.itemDiscardReq index count)).map World.outbox =
      some [(1, .itemDiscardAck false { slotIndex := index })] := by
  have nothing : (soloUser slots).inventory.tryExtractItem Choice.steady.slots index count =
      some (none, (soloUser slots).inventory) := by
    rw [Inventory.tryExtractItem, refused]
  simp only [World.dispatch, World.discardRequest, playing_soloWorld, nothing]
  rfl

/-- A discard that succeeds says so last. -/
theorem outbox_discarded {slots : Slots} {index : SlotIndex} {count : UInt16} {thread : Nat}
    {after : World} {item : Item}
    (holds : (soloUser slots).inventory.holdsAtLeast index count = some item)
    (whole : item.count = count)
    (ran : (soloWorld slots).dispatch thread .steady 1 (.itemDiscardReq index count) = some after) :
    ∃ earlier slot, after.outbox = earlier ++ [(1, .itemDiscardAck true slot)] := by
  obtain ⟨extracted, inventory, taken⟩ : ∃ extracted inventory,
      (soloUser slots).inventory.tryExtractItem Choice.steady.slots index count =
        some (some extracted, inventory) := by
    rw [Inventory.tryExtractItem, holds]
    dsimp only
    rw [if_pos whole]
    exact ⟨_, _, rfl⟩
  simp only [World.dispatch, World.discardRequest, playing_soloWorld, taken, Option.bind_some] at ran
  unfold World.onSector at ran
  split at ran
  · obtain ⟨spawned, _, rfl⟩ := Option.map_eq_some_iff.mp ran
    exact ⟨_, _, rfl⟩
  · contradiction

/-- A slot that holds exactly what one of two counts asks for tells them
apart. -/
theorem exists_discard_ne {index : SlotIndex} (valid : isValidSlotIndex index = true)
    {few many : UInt16} (less : few < many) :
    ∃ slots, (soloWorld slots).dispatch 0 .steady 1 (.itemDiscardReq index few) ≠
      (soloWorld slots).dispatch 0 .steady 1 (.itemDiscardReq index many) := by
  let stack : UInt16 → Item := fun count =>
    { itemTableId := 1, count := count, cls := .consumable, name := "Health Potion" }
  let holding : UInt16 → Slots := fun count => Function.update (fun _ => none) index
    (some (stack count))
  have holds : ∀ stored count : UInt16,
      (soloUser (holding stored)).inventory.holdsAtLeast index count =
        if count = 0 then none else if stored < count then none else some (stack stored) := by
    intro stored count
    simp [Inventory.holdsAtLeast, valid, soloUser, holding, stack]
  have apart : ∀ {slots : Slots} {refused served : UInt16} {item : Item},
      (soloUser slots).inventory.holdsAtLeast index refused = none →
      (soloUser slots).inventory.holdsAtLeast index served = some item → item.count = served →
      (soloWorld slots).dispatch 0 .steady 1 (.itemDiscardReq index refused) ≠
        (soloWorld slots).dispatch 0 .steady 1 (.itemDiscardReq index served) := by
    intro slots refused served item none_ some_ whole same
    obtain ⟨after, ran, outbox⟩ := Option.map_eq_some_iff.mp (outbox_discard 0 none_)
    obtain ⟨earlier, slot, last⟩ := outbox_discarded some_ whole (same.symm.trans ran)
    have lasts := congrArg List.getLast? (outbox.symm.trans last)
    simp at lasts
  by_cases zero : few = 0
  · have nothing : (soloUser (holding many)).inventory.holdsAtLeast index few = none := by
      rw [holds, if_pos zero]
    have everything : (soloUser (holding many)).inventory.holdsAtLeast index many =
        some (stack many) := by
      rw [holds, if_neg (UInt16.ne_of_lt (zero ▸ less)).symm, if_neg (UInt16.lt_irrefl many)]
    exact ⟨holding many, apart nothing everything rfl⟩
  · have everything : (soloUser (holding few)).inventory.holdsAtLeast index few =
        some (stack few) := by
      rw [holds, if_neg zero, if_neg (UInt16.lt_irrefl few)]
    have tooMuch : (soloUser (holding few)).inventory.holdsAtLeast index many = none := by
      rw [holds, if_pos less, ite_self]
    exact ⟨holding few, (apart tooMuch everything rfl).symm⟩

/-! ## Other frames fail -/

theorem DependsOnFrame.padded (depends : DependsOnFrame frame)
    (fits : frame.length ≤ maxClientPacketSize) (thread : Nat) (world : World)
    (first second : UInt8) :
    routeDispatch thread .steady 1 (Network.padded frame first) world =
      routeDispatch thread .steady 1 (Network.padded frame second) world := by
  have bytes : ∀ byte, ((PacketDispatchJob.filled byte).copyAt 0 frame).bytes =
      Network.padded frame byte := by
    intro byte
    rw [Buffer.bytes_copyAt_zero _ fits, Network.padded, PacketDispatchJob.filled,
      List.drop_replicate]
  have same := depends initCollisionTile thread .steady 1 world (.filled first) (.filled second)
  rw [bytes, bytes] at same
  exact same

/-- Without its type byte a frame can be any request. -/
theorem DependsOnFrame.header (depends : DependsOnFrame frame)
    (fits : frame.length ≤ maxClientPacketSize) : headerSize ≤ frame.length := by
  by_contra short
  have beyond : ¬2 < frame.length := short
  have login : requestType (byteAt 2 (Network.padded frame 0)) = some .userLoginReq := by
    rw [byteAt_padded 0 (by decide), if_neg beyond]
    rfl
  have unknown : requestType (byteAt 2 (Network.padded frame 255)) = none := by
    rw [byteAt_padded 255 (by decide), if_neg beyond]
    rfl
  have same := depends.padded fits 0 World.connectedWorld 0 255
  rw [routeDispatch, routeDispatch, login, unknown] at same
  have requested := congrArg (Option.map World.dbRequests) same
  exact absurd requested (by simp [readRequest, World.dispatch, World.loginRequest,
    World.connectedWorld, World.sessionState, World.requestDb, World.empty])

/-- The same request is dispatched whatever fills the frame up. -/
theorem DependsOnFrame.dispatch (depends : DependsOnFrame frame)
    (fits : frame.length ≤ maxClientPacketSize) {type : RequestType}
    (known : requestType (byteAt 2 frame) = some type) (thread : Nat) (world : World)
    (first second : UInt8) :
    world.dispatch thread .steady 1 (readRequest type (Network.padded frame first)) =
      world.dispatch thread .steady 1 (readRequest type (Network.padded frame second)) := by
  have own : 2 < frame.length := depends.header fits
  have typed : ∀ byte, requestType (byteAt 2 (Network.padded frame byte)) = some type := by
    intro byte
    rw [byteAt_padded byte (by decide), if_pos own]
    exact known
  have same := depends.padded fits thread world first second
  rw [routeDispatch, routeDispatch, typed, typed] at same
  exact same

theorem length_asString (bytes : List UInt8) : (asString bytes).length = bytes.length := by
  simp [asString]

section Reads

variable {type : RequestType} (depends : DependsOnFrame frame)
  (fits : frame.length ≤ maxClientPacketSize) (known : requestType (byteAt 2 frame) = some type)

include depends fits known

theorem reads_login (kind : type = .userLoginReq) : ReadsOwn frame type := by
  subst kind
  have same := depends.dispatch fits known 0 World.connectedWorld 0 65
  have requests := congrArg (Option.map World.dbRequests) same
  simp only [readRequest, World.dispatch, World.loginRequest, World.connectedWorld,
    World.sessionState, World.requestDb, World.empty, Function.update_self] at requests
  simp only [ne_eq, not_true_eq_false, if_false, Option.map_some, List.nil_append,
    Option.some.injEq, List.cons.injEq, and_true, DBThread.DbRequest.login.injEq, true_and]
    at requests
  have names := congrArg String.length requests.1
  have passwords := congrArg String.length requests.2
  rw [length_asString, length_asString] at names passwords
  constructor
  · by_contra other
    have lengths := length_textAt_padded (by decide) (by decide) other
    omega
  · by_contra other
    have lengths := length_textAt_padded (by decide) (by decide) other
    omega

theorem reads_chat (kind : type = .csChat) : ReadsOwn frame type := by
  subst kind
  have same := depends.dispatch fits known 0 (soloWorld fun _ => none) 0 65
  have sent : ∀ mess, ((soloWorld fun _ => none).dispatch 0 .steady 1 (.csChat mess)).map
      (fun after => after.outbox.head?) =
        some (some (1, .scChat (ObjID.user 1) (chatText mess))) := by
    intro mess
    rfl
  have messages := congrArg (Option.map fun after : World => after.outbox.head?) same
  rw [readRequest, readRequest, sent, sent] at messages
  simp only [Option.some.injEq, Prod.mk.injEq, ServerPacket.scChat.injEq, true_and] at messages
  rw [chatText_textAt, chatText_textAt] at messages
  have lengths := congrArg String.length messages
  rw [length_asString, length_asString] at lengths
  by_contra other
  have different := length_textAt_padded (by decide) (by decide) other
  omega

theorem reads_move (kind : type = .userMoveReq) : ReadsOwn frame type := by
  subst kind
  by_contra short
  have beyond : ¬headerSize < frame.length := short
  have direction : ∀ byte : UInt8, charAt headerSize (Network.padded frame byte) =
      signed 128 byte.toNat := by
    intro byte
    rw [charAt, byteAt_padded byte (by decide), if_neg beyond]
  have same := depends.dispatch fits known invalidZoneId (soloWorld fun _ => none) 0 65
  rw [readRequest, readRequest, direction, direction] at same
  exact absurd (congrArg Option.isSome same) (by decide)

theorem reads_attack (kind : type = .userAttackReq) : ReadsOwn frame type := by
  subst kind
  by_contra short
  have beyond : ¬headerSize < frame.length := short
  have facing : ∀ byte : UInt8, byteAt headerSize (Network.padded frame byte) = byte := by
    intro byte
    rw [byteAt_padded byte (by decide), if_neg beyond]
  have same := depends.dispatch fits known 0 (soloWorld fun _ => none) 0 1
  rw [readRequest, readRequest, facing, facing] at same
  have faces := congrArg (Option.map fun after : World =>
    (after.objects (ObjID.user 1)).map Subject.facingLeft) same
  exact absurd faces (by decide)

/-- A teleport reads both coordinates, and the second one only if the first is
inside the world. -/
theorem reads_teleport (kind : type = .userTeleportReq) : ReadsOwn frame type := by
  subst kind
  have header := depends.header fits
  by_contra other
  simp only [ReadsOwn, not_or, not_and] at other
  obtain ⟨rowless, columned⟩ := other
  have beyond : frame.length < headerSize + 2 + 2 := by omega
  have row := shortAt_padded (show headerSize + 2 + 2 ≤ maxClientPacketSize by decide) beyond
  have same := depends.dispatch fits known invalidZoneId (soloWorld fun _ => none) 0 255
  rw [readRequest, readRequest] at same
  have enters : ∀ x y : Int, isValidWorldPosition x y = true →
      (soloWorld fun _ => none).dispatch invalidZoneId .steady 1 (.userTeleportReq x y) = none := by
    intro x y valid
    simp only [World.dispatch, World.teleportRequest, playing_soloWorld, valid]
    rfl
  have stays : ∀ x y : Int, isValidWorldPosition x y = false →
      (soloWorld fun _ => none).dispatch invalidZoneId .steady 1 (.userTeleportReq x y) =
        some (soloWorld fun _ => none) := by
    intro x y refused
    simp only [World.dispatch, World.teleportRequest, playing_soloWorld, refused]
    rfl
  have width : wWidth = 2000 := rfl
  by_cases column : headerSize + 2 ≤ frame.length
  · have inside := columned column
    have own : ∀ byte, shortAt headerSize (Network.padded frame byte) = shortAt headerSize frame :=
      fun byte => shortAt_append column
    rw [own, own, enters, stays] at same
    · contradiction
    · rw [Bool.eq_false_iff, ne_eq, isValidWorldPosition_iff]
      omega
    · rw [isValidWorldPosition_iff]
      omega
  · have first := shortAt_padded (show headerSize + 2 ≤ maxClientPacketSize by decide)
      (Nat.lt_of_not_le column)
    rw [enters, stays] at same
    · contradiction
    · rw [Bool.eq_false_iff, ne_eq, isValidWorldPosition_iff]
      omega
    · rw [isValidWorldPosition_iff]
      omega

/-- A request for one slot is answered with the slot. -/
theorem reads_slot {request : SlotIndex → ClientPacket} {answer : SlotIndex → ServerPacket}
    (reads : ∀ bytes, readRequest type bytes = request (uint16At headerSize bytes))
    (answers : ∀ index, ((soloWorld fun _ => none).dispatch 0 .steady 1 (request index)).map
      World.outbox = some [(1, answer index)])
    (names : Function.Injective answer) : headerSize + 2 ≤ frame.length := by
  by_contra short
  have same := congrArg (Option.map World.outbox)
    (depends.dispatch fits known 0 (soloWorld fun _ => none) 0 255)
  rw [reads, reads, answers, answers] at same
  have index := names (Prod.mk.inj (List.singleton_inj.mp (Option.some.inj same))).2
  exact uint16At_padded_ne (by decide) (Nat.lt_of_not_le short) index

theorem reads_equip (kind : type = .itemEquipReq) : ReadsOwn frame type := by
  subst kind
  apply reads_slot depends fits known (fun _ => rfl) (outbox_equip 0)
  intro first second same
  simpa using same

theorem reads_unequip (kind : type = .itemUnequipReq) : ReadsOwn frame type := by
  subst kind
  apply reads_slot depends fits known (fun _ => rfl) (outbox_unequip 0)
  intro first second same
  simpa using same

theorem reads_use (kind : type = .itemUseReq) : ReadsOwn frame type := by
  subst kind
  apply reads_slot depends fits known (fun _ => rfl) (outbox_use 0)
  intro first second same
  simpa using same

theorem reads_swap (kind : type = .itemSwapReq) : ReadsOwn frame type := by
  subst kind
  by_contra short
  have same := congrArg (Option.map World.outbox)
    (depends.dispatch fits known 0 (soloWorld fun _ => none) 0 255)
  rw [readRequest, readRequest, outbox_swap, outbox_swap] at same
  have second : uint16At (headerSize + 2) (Network.padded frame 0) =
      uint16At (headerSize + 2) (Network.padded frame 255) := by
    simp only [Option.some.injEq, List.cons.injEq, Prod.mk.injEq, ServerPacket.itemSwapAck.injEq,
      ItemSlotData.mk.injEq, and_true, true_and] at same
    exact same.2
  exact uint16At_padded_ne (by decide) (Nat.lt_of_not_le short) second

/-- A discard reads the count only if the slot is valid. -/
theorem reads_discard (kind : type = .itemDiscardReq) : ReadsOwn frame type := by
  subst kind
  by_contra other
  simp only [ReadsOwn, not_or, not_and, Bool.not_eq_false] at other
  obtain ⟨countless, slotted⟩ := other
  by_cases slot : headerSize + 2 ≤ frame.length
  · have valid := slotted slot
    have own : ∀ byte, uint16At headerSize (Network.padded frame byte) =
        uint16At headerSize frame := fun byte => uint16At_append slot
    obtain ⟨slots, differ⟩ := exists_discard_ne valid
      (uint16At_padded_lt (by decide) (Nat.lt_of_not_le countless))
    have same := depends.dispatch fits known 0 (soloWorld slots) 0 1
    rw [readRequest, readRequest, own, own] at same
    exact differ same
  · have same := congrArg (Option.map World.outbox)
      (depends.dispatch fits known 0 (soloWorld fun _ => none) 0 255)
    have refused : ∀ index count,
        (soloUser fun _ => none).inventory.holdsAtLeast index count = none := by
      intro index count
      unfold Inventory.holdsAtLeast
      split
      · rfl
      · rfl
    rw [readRequest, readRequest, outbox_discard 0 (refused _ _), outbox_discard 0 (refused _ _)]
      at same
    have index : uint16At headerSize (Network.padded frame 0) =
        uint16At headerSize (Network.padded frame 255) := by simpa using same
    exact uint16At_padded_ne (by decide) (Nat.lt_of_not_le slot) index

end Reads

/-- A request that depends on its frame alone holds all that its handler reads. -/
theorem DependsOnFrame.ownBytes (depends : DependsOnFrame frame)
    (fits : frame.length ≤ maxClientPacketSize) : OwnBytes frame := by
  refine ⟨depends.header fits, fun type known => ?_⟩
  cases type with
  | userLoginReq => exact reads_login depends fits known rfl
  | userMoveReq => exact reads_move depends fits known rfl
  | userAttackReq => exact reads_attack depends fits known rfl
  | userSkillReq => trivial
  | userTeleportReq => exact reads_teleport depends fits known rfl
  | itemEquipReq => exact reads_equip depends fits known rfl
  | itemUnequipReq => exact reads_unequip depends fits known rfl
  | itemSwapReq => exact reads_swap depends fits known rfl
  | itemDiscardReq => exact reads_discard depends fits known rfl
  | itemPickupReq => trivial
  | itemUseReq => exact reads_use depends fits known rfl
  | csChat => exact reads_chat depends fits known rfl

/-- An accepted frame has the same effect in every world whatever the job
carried before, exactly when it has all bytes that its type reads. -/
theorem dependsOnFrame_iff (accepted : enqueuePacketDispatch frame.length = true) :
    DependsOnFrame frame ↔ OwnBytes frame := by
  have fits : frame.length ≤ maxClientPacketSize := by
    simp only [enqueuePacketDispatch, Bool.not_eq_true', decide_eq_false_iff_not, not_or,
      Nat.not_lt] at accepted
    exact accepted.2
  constructor
  · exact fun depends => depends.ownBytes fits
  · intro own grid thread choice session world first second
    rw [Buffer.bytes_copyAt_zero _ fits, Buffer.bytes_copyAt_zero _ fits, routeDispatch_append own,
      routeDispatch_append own]

/-- A whole move request. -/
theorem dependsOnFrame_iff_move :
    DependsOnFrame [8, 0, 1, 3, 0, 0, 0, 0] ↔ OwnBytes [8, 0, 1, 3, 0, 0, 0, 0] :=
  dependsOnFrame_iff (by decide)

/-- The first three bytes of an equip request: the slot is the one of the
packet before. -/
theorem not_dependsOnFrame : enqueuePacketDispatch [3, 0, 5].length = true ∧
    ¬DependsOnFrame [3, 0, 5] := by
  constructor
  · decide
  · intro depends
    have fits : ([3, 0, 5] : List UInt8).length ≤ maxClientPacketSize := by decide
    have slot := reads_equip depends fits rfl rfl
    exact absurd slot (show ¬headerSize + 2 ≤ [3, 0, 5].length by decide)

end Network

end Mmorpg
