import Mmorpg.Client.Players
import Mmorpg.Transition.Run
import Mathlib.Data.Bool.Basic

/-!
# The change of zones on the client

An own move into another zone empties the map `players` and starts to fade out;
what the server adds before the screen is black waits in `g_pendingObjects`.
The frames carry the transition on.  The clock is left open: every frame may or
may not find that a duration has passed.  The camera, the animations and the
history are left out.

What the packets tell and what the client shows are followed side by side.
-/

namespace Mmorpg

open Transition

namespace Client

/-- The packets that add, move and remove subjects. -/
inductive SubjectNfy
  | add (id : ObjID) (x y : Int) (name : String) (itemId : ItemTableId)
  | move (id : ObjID) (x y : Int)
  | remove (id : ObjID)
  deriving DecidableEq, Repr

/-- The stages of the client's fade from one zone to the next. -/
inductive ZoneTransState
  | none | fadeOut | loading | fadeIn
  deriving DecidableEq, Repr

/-- `ZONE_TILE_SIZE`. -/
def zoneTileSize : Int := 500

/-- The column of zones a tile lies in. -/
def getZoneCol (x : Int) : Int := x.tdiv zoneTileSize

/-- The row of zones a tile lies in. -/
def getZoneRow (y : Int) : Int := y.tdiv zoneTileSize

/-- The globals of the client that a change of zones reads and writes. -/
structure ZoneClient where
  myId : ObjID := ObjID.npos
  avatar : ClientPlayer
  players : ClientPlayers := ClientPlayers.empty
  pendingObjects : ClientPlayers := ClientPlayers.empty
  zoneTransState : ZoneTransState := .none
  currentZoneCol : Int := -1
  currentZoneRow : Int := -1
  pendingPlayerX : Int := 0
  pendingPlayerY : Int := 0

/-- Which of the three durations a frame finds to have passed. -/
structure Frame where
  fadedOut : Bool
  loaded : Bool
  fadedIn : Bool
  deriving DecidableEq, Repr

namespace ZoneClient

/-- The client after `DoLogin`. -/
def connect (name : String) : ZoneClient :=
  { avatar := { x := 0, y := 0, name := name, showing := false } }

/-- The case `USER_LOGIN_ACK` of `ProcessPacket`. -/
def loginAck (id : ObjID) (x y : Int) (hp : Nat) (client : ZoneClient) : ZoneClient :=
  { client with
    myId := id
    avatar := { client.avatar with x := x, y := y, hp := hp, showing := true }
    currentZoneCol := getZoneCol x
    currentZoneRow := getZoneRow y }

/-- `TriggerZoneTransition`. -/
def triggerZoneTransition (newX newY : Int) (client : ZoneClient) : ZoneClient :=
  { client with
    pendingPlayerX := newX
    pendingPlayerY := newY
    currentZoneCol := getZoneCol newX
    currentZoneRow := getZoneRow newY
    players := ClientPlayers.empty
    pendingObjects := ClientPlayers.empty
    zoneTransState := .fadeOut }

/-- `zoneChanged`. -/
def zoneChanged (x y : Int) (client : ZoneClient) : Bool :=
  decide (0 ≤ client.currentZoneCol ∧
    (getZoneCol x ≠ client.currentZoneCol ∨ getZoneRow y ≠ client.currentZoneRow))

/-- An own move starts a transition. -/
def transfers (x y : Int) (client : ZoneClient) : Bool :=
  client.zoneChanged x y && decide (client.zoneTransState = .none)

/-- The object that an add creates.  An item without an icon is ignored. -/
def addedObject (hasIcon : ItemTableId → Bool) (id : ObjID) (x y : Int) (name : String)
    (itemId : ItemTableId) : Option ClientPlayer :=
  match id.category with
  | .eUser => some { x := x, y := y, name := name, equippedItemId := itemId }
  | .eItem => if hasIcon itemId then some { x := x, y := y, name := name } else none
  | _ => some { x := x, y := y, name := name }

/-- `dest[id]`: until the screen is black a new object has to wait. -/
def put (id : ObjID) (object : ClientPlayer) (client : ZoneClient) : ZoneClient :=
  if client.zoneTransState = .fadeOut then
    { client with pendingObjects := Function.update client.pendingObjects id (some object) }
  else
    { client with players := Function.update client.players id (some object) }

/-- The three cases of `ProcessPacket`. -/
def processPacket (hasIcon : ItemTableId → Bool) (packet : SubjectNfy) (client : ZoneClient) :
    ZoneClient :=
  match packet with
  | .add id x y name itemId =>
      if id = client.myId then
        { client with
          avatar := { client.avatar with x := x, y := y, equippedItemId := itemId, showing := true } }
      else
        match addedObject hasIcon id x y name itemId with
        | some object => client.put id object
        | none => client
  | .move id x y =>
      if id = client.myId then
        if client.transfers x y then client.triggerZoneTransition x y
        else if client.zoneTransState = .none then
          { client with avatar := { client.avatar with x := x, y := y } }
        else client
      else
        { client with
          players := client.players.modify id fun object => { object with x := x, y := y } }
  | .remove id =>
      if id = client.myId then { client with avatar := { client.avatar with showing := false } }
      else { client with players := Function.update client.players id none }

/-- The screen is black: the avatar is put into its new zone, and the objects
that waited are shown. -/
def endFadeOut (client : ZoneClient) : ZoneClient :=
  { client with
    avatar :=
      { client.avatar with
        x := client.pendingPlayerX
        y := client.pendingPlayerY
        showing := true }
    players := fun id => (client.pendingObjects id).or (client.players id)
    pendingObjects := ClientPlayers.empty
    zoneTransState := .loading }

/-- The end of a state that only the next one follows. -/
def advance (source target : ZoneTransState) (passed : Bool) (client : ZoneClient) : ZoneClient :=
  if client.zoneTransState = source ∧ passed then { client with zoneTransState := target }
  else client

/-- The transition in one frame of `client_main`. -/
def drawFrame (frame : Frame) (client : ZoneClient) : ZoneClient :=
  ((if client.zoneTransState = .fadeOut ∧ frame.fadedOut then client.endFadeOut
    else client).advance .loading .fadeIn frame.loaded).advance .fadeIn .none frame.fadedIn

end ZoneClient

/-! ## What the packets tell -/

namespace SubjectNfy

/-- The subjects other than the client's own user that the packets have added
and not removed. -/
def listedAfter (myId : ObjID) (packet : SubjectNfy) (listed : ObjID → Bool) : ObjID → Bool :=
  match packet with
  | add id .. => if id = myId then listed else Function.update listed id true
  | move .. => listed
  | remove id => Function.update listed id false

/-- The position in the last packet about the client's own user. -/
def reportedAfter (myId : ObjID) (packet : SubjectNfy) (reported : Int × Int) : Int × Int :=
  match packet with
  | add id x y .. => if id = myId then (x, y) else reported
  | move id x y => if id = myId then (x, y) else reported
  | remove _ => reported

/-- A position outside a zone that is known. -/
def leaves (zone : Int × Int) (x y : Int) : Bool :=
  decide (0 ≤ zone.1 ∧ (getZoneCol x, getZoneRow y) ≠ zone)

/-- The zone the own moves have led to. -/
def zoneAfter (myId : ObjID) (packet : SubjectNfy) (zone : Int × Int) : Int × Int :=
  match packet with
  | move id x y => if id = myId ∧ leaves zone x y then (getZoneCol x, getZoneRow y) else zone
  | _ => zone

/-- The subjects listed when the last zone was left that no packet has named
since. -/
def leftAfter (myId : ObjID) (packet : SubjectNfy) (listed : ObjID → Bool) (zone : Int × Int)
    (leftBehind : ObjID → Bool) : ObjID → Bool :=
  match packet with
  | add id .. => Function.update leftBehind id false
  | move id x y => if id = myId ∧ leaves zone x y then listed else leftBehind
  | remove id => Function.update leftBehind id false

/-- The packets in the order of `HandleZoneTransfer` and `HandleEnterZone`: an
own move into another zone is followed by the removes of all that is `known`,
and nothing else happens while some of them are `awaited`. -/
def inOrder (myId : ObjID) (known awaited : List ObjID) (zone : Int × Int) :
    List SubjectNfy → Bool
  | [] => awaited.isEmpty
  | add id .. :: rest => awaited.isEmpty && inOrder myId (id :: known) [] zone rest
  | move id x y :: rest =>
      awaited.isEmpty &&
        if id = myId ∧ leaves zone x y then
          inOrder myId known known (getZoneCol x, getZoneRow y) rest
        else inOrder myId known [] zone rest
  | remove id :: rest =>
      (awaited.isEmpty || awaited.contains id) &&
        inOrder myId (known.filter (· ≠ id)) (awaited.filter (· ≠ id)) zone rest

end SubjectNfy

/-- A packet arrives, or a frame is drawn. -/
inductive ZoneEvent
  | packet (packet : SubjectNfy)
  | frame (frame : Frame)

/-- The packets among the events. -/
def ZoneEvent.packet? : ZoneEvent → Option SubjectNfy
  | .packet received => some received
  | .frame _ => none

/-- The client beside what the packets have told it. -/
structure Watched where
  client : ZoneClient
  listed : ObjID → Bool := fun _ => false
  leftBehind : ObjID → Bool := fun _ => false
  zone : Int × Int
  reported : Int × Int
  /-- The last own position the client is to take over: an own move outside a
  transition, or an own add that the end of the fade does not undo. -/
  own : Int × Int

namespace Watched

/-- The client that has logged in. -/
def start (name : String) (id : ObjID) (x y : Int) (hp : Nat) : Watched where
  client := (ZoneClient.connect name).loginAck id x y hp
  zone := (getZoneCol x, getZoneRow y)
  reported := (x, y)
  own := (x, y)

/-- The own position to take over after a packet. -/
def ownAfter (packet : SubjectNfy) (watched : Watched) : Int × Int :=
  match packet with
  | .add id x y .. =>
      if id = watched.client.myId ∧ watched.client.zoneTransState ≠ .fadeOut then (x, y)
      else watched.own
  | .move id x y =>
      if id = watched.client.myId ∧ watched.client.zoneTransState = .none then (x, y)
      else watched.own
  | .remove _ => watched.own

/-- The client handles a packet, and the observer notes what it did to the
view. -/
def processPacket (hasIcon : ItemTableId → Bool) (packet : SubjectNfy) (watched : Watched) :
    Watched where
  client := watched.client.processPacket hasIcon packet
  listed := packet.listedAfter watched.client.myId watched.listed
  leftBehind :=
    packet.leftAfter watched.client.myId watched.listed watched.zone watched.leftBehind
  zone := packet.zoneAfter watched.client.myId watched.zone
  reported := packet.reportedAfter watched.client.myId watched.reported
  own := watched.ownAfter packet

/-- A packet or a drawn frame. -/
def step (hasIcon : ItemTableId → Bool) (event : ZoneEvent) (watched : Watched) :
    Option Watched :=
  match event with
  | .packet packet => some (watched.processPacket hasIcon packet)
  | .frame frame => some { watched with client := watched.client.drawFrame frame }

/-- Outside a transition the client shows exactly what is listed, and its avatar
where it was last reported. -/
def Mirrors (watched : Watched) : Prop :=
  watched.client.zoneTransState = .none →
    (∀ id, (watched.client.players id).isSome = watched.listed id) ∧
      (watched.client.avatar.x, watched.client.avatar.y) = watched.reported

/-- The client mirrors the server at every moment of the run. -/
def LosesNothing (hasIcon : ItemTableId → Bool) (events : List ZoneEvent) (watched : Watched) :
    Prop :=
  ∀ earlier final, earlier <+: events → run (step hasIcon) earlier watched = some final →
    final.Mirrors

/-- Users and monsters are added, no remove names an object that still waits,
and an own move during a transition stays in the zone it leads to. -/
def Tame (event : ZoneEvent) (watched : Watched) : Prop :=
  match event with
  | .packet (.add id ..) => id.category = .eUser ∨ id.category = .eMonster
  | .packet (.move id x y) =>
      id = watched.client.myId → watched.client.zoneTransState ≠ .none →
        SubjectNfy.leaves watched.zone x y = false
  | .packet (.remove id) => watched.client.pendingObjects id = none
  | .frame _ => True

/-- Between client and packets: every subject that is listed and not left
behind is shown or waits, and only a fade keeps objects waiting. -/
structure Tracks (watched : Watched) : Prop where
  zone : (watched.client.currentZoneCol, watched.client.currentZoneRow) = watched.zone
  unlisted : watched.listed watched.client.myId = false
  known : ∀ id, ((watched.client.pendingObjects id).isSome || (watched.client.players id).isSome) =
    (watched.listed id && !watched.leftBehind id)
  flushed : watched.client.zoneTransState ≠ .fadeOut →
    watched.client.pendingObjects = ClientPlayers.empty
  own : watched.own =
    if watched.client.zoneTransState = .fadeOut then
      (watched.client.pendingPlayerX, watched.client.pendingPlayerY)
    else (watched.client.avatar.x, watched.client.avatar.y)

variable {hasIcon : ItemTableId → Bool} {watched : Watched}

/-- A client that just logged in shows what it was told. -/
theorem start_tracks (name : String) (id : ObjID) (x y : Int) (hp : Nat) :
    (start name id x y hp).Tracks where
  zone := rfl
  unlisted := rfl
  known _ := rfl
  flushed _ := rfl
  own := rfl

end Watched

namespace ZoneClient

variable {client : ZoneClient} {id other : ObjID} {object : ClientPlayer}

/-- While the picture fades out, new objects wait. -/
theorem put_of_fadeOut (fading : client.zoneTransState = .fadeOut) :
    client.put id object =
      { client with pendingObjects := Function.update client.pendingObjects id (some object) } :=
  if_pos fading

theorem put_of_not_fadeOut (shown : client.zoneTransState ≠ .fadeOut) :
    client.put id object =
      { client with players := Function.update client.players id (some object) } :=
  if_neg shown

theorem addedObject_of_tame (hasIcon : ItemTableId → Bool)
    (tame : id.category = .eUser ∨ id.category = .eMonster) (x y : Int) (name : String)
    (itemId : ItemTableId) : ∃ object, addedObject hasIcon id x y name itemId = some object := by
  unfold addedObject
  rcases tame with user | monster
  · rw [user]
    exact ⟨_, rfl⟩
  · rw [monster]
    exact ⟨_, rfl⟩

theorem isSome_modify (change : ClientPlayer → ClientPlayer) (players : ClientPlayers) :
    (players.modify id change other).isSome = (players other).isSome := by
  rw [ClientPlayers.modify, Function.update_apply]
  split
  · next same => rw [same, Option.isSome_map]
  · rfl

theorem isSome_update (content : Option ClientPlayer) (players : ClientPlayers) :
    (Function.update players id content other).isSome =
      if other = id then content.isSome else (players other).isSome := by
  rw [Function.update_apply]
  split
  · rfl
  · rfl

end ZoneClient

namespace Watched

variable {hasIcon : ItemTableId → Bool} {watched : Watched}

/-- An add of another subject makes it known, wherever it is put. -/
theorem Tracks.put {id : ObjID} (tracks : watched.Tracks) (other : id ≠ watched.client.myId)
    (object : ClientPlayer) :
    Tracks { watched with
      client := watched.client.put id object
      listed := Function.update watched.listed id true
      leftBehind := Function.update watched.leftBehind id false } := by
  have unlisted : Function.update watched.listed id true watched.client.myId = false :=
    (Function.update_of_ne (Ne.symm other) _ _).trans tracks.unlisted
  by_cases fading : watched.client.zoneTransState = .fadeOut
  · rw [ZoneClient.put_of_fadeOut fading]
    constructor
    · exact tracks.zone
    · exact unlisted
    · intro named
      dsimp only
      rw [ZoneClient.isSome_update, Function.update_apply, Function.update_apply]
      by_cases same : named = id
      · simp [same]
      · rw [if_neg same, if_neg same, if_neg same]
        exact tracks.known named
    · exact fun shown => absurd fading shown
    · exact tracks.own
  · rw [ZoneClient.put_of_not_fadeOut fading]
    constructor
    · exact tracks.zone
    · exact unlisted
    · intro named
      dsimp only
      rw [ZoneClient.isSome_update, Function.update_apply, Function.update_apply]
      by_cases same : named = id
      · simp [same]
      · rw [if_neg same, if_neg same, if_neg same]
        exact tracks.known named
    · exact tracks.flushed
    · exact tracks.own

/-- The client's own user is neither shown nor waits. -/
theorem Tracks.known_self (tracks : watched.Tracks) (content : Bool) (named : ObjID) :
    (watched.listed named && !Function.update watched.leftBehind watched.client.myId content named) =
      (watched.listed named && !watched.leftBehind named) := by
  rw [Function.update_apply]
  split
  · next self => rw [self, tracks.unlisted, Bool.false_and, Bool.false_and]
  · rfl

/-- Someone new in view is shown, or waits for the fade. -/
theorem Tracks.add {id : ObjID} {x y : Int} {name : String} {itemId : ItemTableId}
    (tracks : watched.Tracks) (tame : id.category = .eUser ∨ id.category = .eMonster) :
    (watched.processPacket hasIcon (.add id x y name itemId)).Tracks := by
  unfold processPacket
  dsimp only [ZoneClient.processPacket, SubjectNfy.listedAfter, SubjectNfy.reportedAfter,
    SubjectNfy.leftAfter, SubjectNfy.zoneAfter, ownAfter]
  by_cases self : id = watched.client.myId
  · subst self
    rw [if_pos rfl, if_pos rfl]
    constructor
    · exact tracks.zone
    · exact tracks.unlisted
    · intro named
      exact (tracks.known named).trans (tracks.known_self false named).symm
    · exact tracks.flushed
    · by_cases fading : watched.client.zoneTransState = .fadeOut
      · simp [fading, tracks.own]
      · simp [fading]
  · obtain ⟨object, created⟩ := ZoneClient.addedObject_of_tame hasIcon tame x y name itemId
    have apart : ¬(id = watched.client.myId ∧ watched.client.zoneTransState ≠ .fadeOut) :=
      fun both => self both.1
    rw [if_neg self, if_neg self, if_neg apart, created]
    exact { tracks.put self object with }

/-- Someone who left is shown no longer, unless it was waiting for the fade. -/
theorem Tracks.remove {id : ObjID} (tracks : watched.Tracks)
    (shown : watched.client.pendingObjects id = none) :
    (watched.processPacket hasIcon (.remove id)).Tracks := by
  unfold processPacket
  dsimp only [ZoneClient.processPacket, SubjectNfy.listedAfter, SubjectNfy.reportedAfter,
    SubjectNfy.leftAfter, SubjectNfy.zoneAfter, ownAfter]
  by_cases self : id = watched.client.myId
  · subst self
    have unlisted : Function.update watched.listed watched.client.myId false = watched.listed :=
      Function.update_eq_self_iff.mpr tracks.unlisted.symm
    rw [if_pos rfl, unlisted]
    constructor
    · exact tracks.zone
    · exact tracks.unlisted
    · intro named
      exact (tracks.known named).trans (tracks.known_self false named).symm
    · exact tracks.flushed
    · exact tracks.own
  · rw [if_neg self]
    constructor
    · exact tracks.zone
    · exact (Function.update_of_ne (Ne.symm self) _ _).trans tracks.unlisted
    · intro named
      dsimp only
      rw [ZoneClient.isSome_update, Function.update_apply, Function.update_apply]
      by_cases same : named = id
      · simp [same, shown]
      · rw [if_neg same, if_neg same, if_neg same]
        exact tracks.known named
    · exact tracks.flushed
    · exact tracks.own

/-- The client compares zones as the server does. -/
theorem Tracks.leaves_eq (tracks : watched.Tracks) (x y : Int) :
    SubjectNfy.leaves watched.zone x y = watched.client.zoneChanged x y := by
  rw [← tracks.zone, SubjectNfy.leaves, ZoneClient.zoneChanged]
  simp only [ne_eq, Prod.mk.injEq, not_and_or]

/-- An own move inside the zone is taken over outside a transition only. -/
theorem Tracks.stay {x y : Int} (tracks : watched.Tracks)
    (stays : SubjectNfy.leaves watched.zone x y = false) :
    (watched.processPacket hasIcon (.move watched.client.myId x y)).Tracks := by
  have quiet : watched.client.transfers x y = false := by
    rw [ZoneClient.transfers, ← tracks.leaves_eq, stays, Bool.false_and]
  unfold processPacket
  simp only [ZoneClient.processPacket, SubjectNfy.listedAfter, SubjectNfy.reportedAfter,
    SubjectNfy.leftAfter, SubjectNfy.zoneAfter, ownAfter, quiet, stays, if_true, true_and,
    and_false, if_false, Bool.false_eq_true]
  by_cases settled : watched.client.zoneTransState = .none
  · rw [if_pos settled, if_pos settled]
    constructor
    · exact tracks.zone
    · exact tracks.unlisted
    · exact tracks.known
    · exact tracks.flushed
    · simp [settled]
  · rw [if_neg settled, if_neg settled]
    exact { tracks with }

/-- An own move out of the zone forgets what is listed. -/
theorem Tracks.leave {x y : Int} (tracks : watched.Tracks)
    (leaves : SubjectNfy.leaves watched.zone x y = true)
    (settled : watched.client.zoneTransState = .none) :
    (watched.processPacket hasIcon (.move watched.client.myId x y)).Tracks := by
  have transfers : watched.client.transfers x y = true := by
    rw [ZoneClient.transfers, ← tracks.leaves_eq, leaves, settled]
    rfl
  unfold processPacket
  simp only [ZoneClient.processPacket, SubjectNfy.listedAfter, SubjectNfy.reportedAfter,
    SubjectNfy.leftAfter, SubjectNfy.zoneAfter, ownAfter, transfers, leaves, settled, if_true,
    and_self]
  constructor
  · rfl
  · exact tracks.unlisted
  · exact fun named => (Bool.and_not_self _).symm
  · exact fun shown => absurd rfl shown
  · rfl

/-- The move of another player changes nobody else. -/
theorem Tracks.moveOther {id : ObjID} {x y : Int} (tracks : watched.Tracks)
    (other : id ≠ watched.client.myId) :
    (watched.processPacket hasIcon (.move id x y)).Tracks := by
  unfold processPacket
  dsimp only [ZoneClient.processPacket, SubjectNfy.listedAfter, SubjectNfy.reportedAfter,
    SubjectNfy.leftAfter, SubjectNfy.zoneAfter, ownAfter]
  simp only [other, false_and, if_false]
  constructor
  · exact tracks.zone
  · exact tracks.unlisted
  · intro named
    dsimp only
    rw [ZoneClient.isSome_modify]
    exact tracks.known named
  · exact tracks.flushed
  · exact tracks.own

/-- The end of the fade: what waited is shown, and the avatar stands where the
transition led it. -/
theorem Tracks.endFadeOut (tracks : watched.Tracks)
    (fading : watched.client.zoneTransState = .fadeOut) :
    Tracks { watched with client := watched.client.endFadeOut } where
  zone := tracks.zone
  unlisted := tracks.unlisted
  known named := by
    rw [← tracks.known named]
    dsimp only [ZoneClient.endFadeOut, ClientPlayers.empty]
    cases watched.client.pendingObjects named with
    | none => rfl
    | some object => rfl
  flushed _ := rfl
  own := tracks.own.trans (if_pos fading)

/-- The later states differ in nothing but their names. -/
theorem Tracks.advance {source target : ZoneTransState} (tracks : watched.Tracks) (passed : Bool)
    (later : source ≠ .fadeOut ∧ target ≠ .fadeOut) :
    Tracks { watched with client := watched.client.advance source target passed } := by
  unfold ZoneClient.advance
  split
  · next ended =>
    have shown : watched.client.zoneTransState ≠ .fadeOut := ended.1 ▸ later.1
    constructor
    · exact tracks.zone
    · exact tracks.unlisted
    · exact tracks.known
    · exact fun _ => tracks.flushed shown
    · exact (tracks.own.trans (if_neg shown)).trans (if_neg later.2).symm
  · exact tracks

/-- At the end of the fade those who wait are shown. -/
theorem Tracks.drawFrame (tracks : watched.Tracks) (frame : Frame) :
    Tracks { watched with client := watched.client.drawFrame frame } := by
  have black : Tracks { watched with
      client :=
        if watched.client.zoneTransState = .fadeOut ∧ frame.fadedOut then watched.client.endFadeOut
        else watched.client } := by
    split
    · next ended => exact tracks.endFadeOut ended.1
    · exact tracks
  have loaded := black.advance frame.loaded
    (⟨by simp, by simp⟩ : ZoneTransState.loading ≠ .fadeOut ∧ ZoneTransState.fadeIn ≠ .fadeOut)
  exact loaded.advance frame.fadedIn ⟨by simp, by simp⟩

/-- A tame packet or a frame keeps the client in step. -/
theorem Tracks.step {event : ZoneEvent} {next : Watched} (tame : watched.Tame event)
    (taken : watched.step hasIcon event = some next) (tracks : watched.Tracks) : next.Tracks := by
  cases event with
  | packet packet =>
      obtain rfl := Option.some.inj taken
      cases packet with
      | add id x y name itemId => exact tracks.add tame
      | move id x y =>
          by_cases self : id = watched.client.myId
          · subst self
            by_cases leaves : SubjectNfy.leaves watched.zone x y
            · apply tracks.leave leaves
              by_contra moving
              exact absurd (tame rfl moving) (by simp [leaves])
            · exact tracks.stay (Bool.eq_false_of_not_eq_true leaves)
          · exact tracks.moveOther self
      | remove id => exact tracks.remove tame
  | frame frame =>
      obtain rfl := Option.some.inj taken
      exact tracks.drawFrame frame

/-- Outside a transition the client shows the listed subjects, less those of the
zone left last that no packet has named since, and its avatar stands where the
own position last to be taken over was. -/
theorem shows_listed (hasIcon : ItemTableId → Bool) (name : String) (id : ObjID) (x y : Int)
    (hp : Nat) {events : List ZoneEvent} {final : Watched}
    (tame : Along (step hasIcon) Tame events (start name id x y hp))
    (ran : run (step hasIcon) events (start name id x y hp) = some final)
    (settled : final.client.zoneTransState = .none) :
    (∀ id, (final.client.players id).isSome = (final.listed id && !final.leftBehind id)) ∧
      (final.client.avatar.x, final.client.avatar.y) = final.own := by
  have tracks : final.Tracks :=
    invariant_of_along (fun _ _ _ tame taken tracks => tracks.step tame taken) tame ran
      (start_tracks name id x y hp)
  have shown : final.client.zoneTransState ≠ .fadeOut := by simp [settled]
  constructor
  · intro named
    have known := tracks.known named
    rw [tracks.flushed shown] at known
    exact known
  · exact (tracks.own.trans (if_neg shown)).symm

instance : (event : ZoneEvent) → (watched : Watched) → Decidable (Tame event watched)
  | .packet (.add id ..), _ =>
      inferInstanceAs (Decidable (id.category = .eUser ∨ id.category = .eMonster))
  | .packet (.move id x y), watched =>
      inferInstanceAs (Decidable (id = watched.client.myId → watched.client.zoneTransState ≠ .none →
        SubjectNfy.leaves watched.zone x y = false))
  | .packet (.remove id), watched =>
      inferInstanceAs (Decidable (watched.client.pendingObjects id = none))
  | .frame _, _ => inferInstanceAs (Decidable True)

/-- The frames in which the three durations end. -/
def transition : List ZoneEvent :=
  [.frame ⟨true, false, false⟩, .frame ⟨false, true, false⟩, .frame ⟨false, false, true⟩]

/-- A neighbour is left behind and removed, and another one is met while the
screen fades. -/
def crossing : List ZoneEvent :=
  [.packet (.add (ObjID.user 2) 498 0 "bob" itemTableIdNone), .packet (.move (ObjID.user 1) 500 0),
    .packet (.remove (ObjID.user 2)), .packet (.add (ObjID.user 3) 502 0 "cid" itemTableIdNone)] ++
    transition

/-- The client crosses from zone 0 to zone 1 and a frame is drawn. -/
theorem shows_listed_crossing : ∃ final,
    run (step fun _ => false) crossing (start "ann" (ObjID.user 1) 499 0 100) = some final ∧
      (∀ id, (final.client.players id).isSome = (final.listed id && !final.leftBehind id)) ∧
      (final.client.avatar.x, final.client.avatar.y) = final.own := by
  have checked : checkAlong (step fun _ => false) (fun event watched => decide (Tame event watched))
      crossing (start "ann" (ObjID.user 1) 499 0 100) = true := by decide
  have tame := (along_of_check checked).mono fun _ _ => of_decide_eq_true
  exact ⟨_, rfl, shows_listed _ "ann" (ObjID.user 1) 499 0 100 tame rfl rfl⟩

/-- One state in which something is lost is enough. -/
theorem not_losesNothing_of {earlier events : List ZoneEvent} {final : Watched}
    (before : earlier <+: events) (ran : run (step hasIcon) earlier watched = some final)
    (settled : final.client.zoneTransState = .none)
    (wrong : (∃ id, (final.client.players id).isSome ≠ final.listed id) ∨
      (final.client.avatar.x, final.client.avatar.y) ≠ final.reported) :
    ¬watched.LosesNothing hasIcon events := by
  intro always
  obtain ⟨keys, position⟩ := always earlier final before ran settled
  rcases wrong with ⟨id, different⟩ | elsewhere
  · exact different (keys id)
  · exact elsewhere position

/-- A move in the new zone while the screen fades. -/
def skippedMove : List ZoneEvent :=
  [.packet (.move (ObjID.user 1) 500 0), .packet (.move (ObjID.user 1) 501 0)] ++ transition

/-- A remove that arrives after the transition. -/
def lateRemove : List ZoneEvent :=
  [.packet (.add (ObjID.user 2) 498 0 "bob" itemTableIdNone),
    .packet (.move (ObjID.user 1) 500 0)] ++ transition ++ [.packet (.remove (ObjID.user 2))]

/-- A remove of an object that waits. -/
def bufferedRemove : List ZoneEvent :=
  [.packet (.move (ObjID.user 1) 500 0),
    .packet (.add (ObjID.user 2) 502 0 "bob" itemTableIdNone), .packet (.remove (ObjID.user 2))] ++
    transition

/-- A way back while the screen fades, and a step after it. -/
def quickReturn : List ZoneEvent :=
  [.packet (.move (ObjID.user 1) 500 0), .packet (.move (ObjID.user 1) 499 0),
    .packet (.add (ObjID.user 2) 498 0 "bob" itemTableIdNone)] ++ transition ++
    [.packet (.move (ObjID.user 1) 498 1)] ++ transition

/-- The packets among the events, to a user who has logged in at (499, 0). -/
def ordered (events : List ZoneEvent) : Bool :=
  SubjectNfy.inOrder (ObjID.user 1) [] [] (0, 0) (events.filterMap ZoneEvent.packet?)

/-- Each of the four streams is one the server can send, and the client loses
something of it. -/
theorem not_losesNothing :
    (ordered skippedMove ∧
        ¬(start "ann" (ObjID.user 1) 499 0 100).LosesNothing (fun _ => false) skippedMove) ∧
      (ordered lateRemove ∧
        ¬(start "ann" (ObjID.user 1) 499 0 100).LosesNothing (fun _ => false) lateRemove) ∧
      (ordered bufferedRemove ∧
        ¬(start "ann" (ObjID.user 1) 499 0 100).LosesNothing (fun _ => false) bufferedRemove) ∧
      ordered quickReturn ∧
        ¬(start "ann" (ObjID.user 1) 499 0 100).LosesNothing (fun _ => false) quickReturn := by
  constructor
  · exact ⟨by decide, not_losesNothing_of (List.prefix_refl _) rfl rfl (.inr (by decide))⟩
  constructor
  · exact ⟨by decide, not_losesNothing_of (List.prefix_append _ _) rfl rfl
      (.inl ⟨ObjID.user 2, by decide⟩)⟩
  constructor
  · exact ⟨by decide, not_losesNothing_of (List.prefix_refl _) rfl rfl
      (.inl ⟨ObjID.user 2, by decide⟩)⟩
  · exact ⟨by decide, not_losesNothing_of (List.prefix_refl _) rfl rfl
      (.inl ⟨ObjID.user 2, by decide⟩)⟩

end Watched

end Client

end Mmorpg
