import Mmorpg.World.Placement

/-!
# The nine-cell search of one zone

Objects enter, change and leave the cells of one `Sector` through their own
stored sector and position.  The invariant says that an object is exactly in
the cell of its position; the sector arithmetic then puts everything within
view range into the nine cells around, cut off at the border of the zone.
-/

namespace Mmorpg

open ZoneLayout

/-- `IsAssigned`. -/
def SectorCoord.isAssigned (sector : SectorCoord) : Bool :=
  sector.x ≥ 0 ∧ sector.y ≥ 0

/-! ## Calls on one grid -/

/-- A world with one zone in use.  The registry of the world only has the
registered objects, so the transform that an object stores is kept beside it. -/
structure ZoneGrid where
  world : World
  own : ObjID → Transform

/-- The calls of a zone thread on its grid, and what may happen to the registry
and the sessions between them. -/
inductive GridCall
  | update (id : ObjID) (worldX worldY : Int)
  | remove (id : ObjID)
  | register (id : ObjID) (subject : Subject)
  | unregister (id : ObjID)
  | setSessions (sessions : Nat → Option Session)

namespace ZoneGrid

/-- Nobody registered, nobody in a cell, no sector assigned. -/
def start (own : ObjID → Int × Int) : ZoneGrid where
  world :=
    { objects := fun _ => none
      cells := fun _ _ => Cell.empty
      objectZones := fun _ => none
      sessions := fun _ => none
      nextObjectId := 0
      nextFieldItemId := 0
      queues := fun _ => []
      timers := []
      dbRequests := []
      outbox := [] }
  own id := { x := (own id).1, y := (own id).2 }

/-- One call, on the object's own stored sector and position. -/
def call (zone : Nat) (state : ZoneGrid) : GridCall → ZoneGrid
  | .update id worldX worldY =>
      match state.world.updateObjectSectorAndPosition zone id (state.own id) worldX worldY with
      | none => state
      | some moved =>
          { world := moved
            own := Function.update state.own id
              { state.own id with
                sector := Sector.getSectorCoord worldX worldY, x := worldX, y := worldY } }
  | .remove id =>
      { world := state.world.removeObject zone id (state.own id)
        own :=
          if Sector.isValidSector zone (state.own id).sector then
            Function.update state.own id { state.own id with sector := {} }
          else state.own }
  | .register id subject =>
      { state with world := state.world.insertObject id { subject with transform := state.own id } }
  | .unregister id => { state with world := state.world.deleteObject id }
  | .setSessions sessions => { state with world := { state.world with sessions := sessions } }

/-- One call of the grid after the other. -/
def run (zone : Nat) (calls : List GridCall) (state : ZoneGrid) : ZoneGrid :=
  calls.foldl (call zone) state

/-- The sector an object stores is none, or the sector of its position in this
zone. -/
def Located (zone : Nat) (transform : Transform) : Prop :=
  transform.sector = {} ∨
    transform.sector = Sector.getSectorCoord transform.x transform.y ∧
      Sector.isValidSector zone transform.sector = true

/-- Every object is in the cell of its stored position and in no other. -/
structure Sound (zone : Nat) (state : ZoneGrid) : Prop where
  tracked : ∀ id, World.Tracked zone id (state.own id) state.world
  located : ∀ id, Located zone (state.own id)
  registered : ∀ id subject, state.world.objects id = some subject →
    subject.transform = state.own id

variable {zone : Nat} {state : ZoneGrid}

theorem start_sound (valid : isValidZoneId zone = true) (own : ObjID → Int × Int) :
    Sound zone (start own) where
  tracked id otherZone sector := by
    constructor
    · exact fun member => absurd member (Cell.not_mem_empty id)
    · rintro ⟨_, rfl, inZone⟩
      exact absurd inZone (by simp [start, isValidSector_unassigned valid])
  located _ := .inl rfl
  registered _ _ found := by contradiction

/-! ## One call -/

/-- A change of one object's cell and transform keeps the grid sound. -/
theorem Sound.change {next : ZoneGrid} (sound : Sound zone state) (id : ObjID)
    (transform : Transform) (own : next.own = Function.update state.own id transform)
    (others : ∀ other, other ≠ id → ∀ otherZone sector,
      other ∈ next.world.cells otherZone sector ↔ other ∈ state.world.cells otherZone sector)
    (objects : ∀ other subject, next.world.objects other = some subject →
      if other = id then subject.transform = transform
      else state.world.objects other = some subject)
    (tracked : World.Tracked zone id transform next.world) (located : Located zone transform) :
    Sound zone next where
  tracked other := by
    by_cases same : other = id
    · subst same
      simpa [own] using tracked
    · intro otherZone sector
      rw [own, Function.update_of_ne same, others other same]
      exact sound.tracked other otherZone sector
  located other := by
    by_cases same : other = id
    · subst same
      simpa [own] using located
    · rw [own, Function.update_of_ne same]
      exact sound.located other
  registered other subject found := by
    have kept := objects other subject found
    by_cases same : other = id
    · subst same
      simpa [own] using kept
    · rw [if_neg same] at kept
      rw [own, Function.update_of_ne same]
      exact sound.registered other subject kept

/-- An update files the object under its tile. -/
theorem Sound.update (sound : Sound zone state) (id : ObjID) (worldX worldY : Int) :
    Sound zone (state.call zone (.update id worldX worldY)) := by
  by_cases inZone : Sector.isValidSector zone (Sector.getSectorCoord worldX worldY) = true
  · simp only [call, World.updateObjectSectorAndPosition, inZone, if_true]
    apply sound.change id _ rfl
    · exact fun other different => World.mem_moved_others different _ _ _
    · intro other subject found
      rw [World.modifyTransform, World.modify] at found
      simp only [apply_ite World.objects, World.modifyCell, ite_self] at found
      by_cases same : other = id
      · subst same
        rw [Function.update_self] at found
        rcases Option.map_eq_some_iff.mp found with ⟨old, oldFound, rfl⟩
        rw [if_pos rfl, sound.registered other old oldFound]
      · rw [Function.update_of_ne same] at found
        rw [if_neg same]
        exact found
    · intro otherZone sector
      exact (World.mem_moved_own (sound.tracked id) inZone otherZone sector).trans
        ⟨fun held => ⟨held.1, held.2, held.2 ▸ inZone⟩, fun held => ⟨held.1, held.2.1⟩⟩
    · exact .inr ⟨rfl, inZone⟩
  · simp only [call, World.updateObjectSectorAndPosition, inZone]
    exact sound

/-- A removal takes the object out of its cell. -/
theorem Sound.remove (valid : isValidZoneId zone = true) (sound : Sound zone state) (id : ObjID) :
    Sound zone (state.call zone (.remove id)) := by
  have removal := World.removeObject_removed zone id (state.own id) state.world
  by_cases inZone : Sector.isValidSector zone (state.own id).sector = true
  · apply sound.change id { state.own id with sector := {} }
    · simp only [call, inZone, if_true]
    · exact removal.others
    · intro other subject found
      simp only [call, removal.objects, inZone, and_true] at found
      by_cases same : other = id
      · rw [if_pos same] at found ⊢
        rcases Option.map_eq_some_iff.mp found with ⟨old, oldFound, rfl⟩
        rw [Subject.unplaced, sound.registered other old oldFound, same]
      · rw [if_neg same] at found ⊢
        exact found
    · intro otherZone sector
      constructor
      · exact fun member => absurd member (removal.own (sound.tracked id) otherZone sector)
      · rintro ⟨_, rfl, unassigned⟩
        exact absurd unassigned (by simp [isValidSector_unassigned valid])
    · exact .inl rfl
  · simp only [call, World.removeObject, inZone]
    exact sound

theorem Sound.call (valid : isValidZoneId zone = true) (sound : Sound zone state)
    (gridCall : GridCall) : Sound zone (state.call zone gridCall) := by
  cases gridCall with
  | update id worldX worldY => exact sound.update id worldX worldY
  | remove id => exact sound.remove valid id
  | register id subject =>
      refine ⟨sound.tracked, sound.located, ?_⟩
      intro other found inserted
      simp only [ZoneGrid.call, World.insertObject] at inserted
      by_cases same : other = id
      · subst same
        rw [Function.update_self, Option.some.injEq] at inserted
        rw [← inserted, ZoneGrid.call]
      · rw [Function.update_of_ne same] at inserted
        exact sound.registered other found inserted
  | unregister id =>
      refine ⟨sound.tracked, sound.located, ?_⟩
      intro other found kept
      simp only [ZoneGrid.call, World.deleteObject] at kept
      by_cases same : other = id
      · subst same
        simp at kept
      · rw [Function.update_of_ne same] at kept
        exact sound.registered other found kept
  | setSessions sessions => exact ⟨sound.tracked, sound.located, sound.registered⟩

theorem Sound.run (valid : isValidZoneId zone = true) (calls : List GridCall)
    (sound : Sound zone state) : Sound zone (state.run zone calls) := by
  induction calls generalizing state with
  | nil => exact sound
  | cons next rest ih => exact ih (sound.call valid next)

/-! ## Assigned objects -/

/-- Whoever is located is in a cell or in none. -/
theorem isAssigned_iff_of_located (valid : isValidZoneId zone = true) {transform : Transform}
    (located : Located zone transform) :
    transform.sector.isAssigned = true ↔ Sector.isValidSector zone transform.sector = true := by
  rcases located with unassigned | ⟨_, inZone⟩
  · rw [unassigned, isValidSector_unassigned valid]
    decide
  · have bounds := (isValidSector_iff valid transform.sector).mp inZone
    simp only [inZone, iff_true, SectorCoord.isAssigned, decide_eq_true_eq]
    omega

/-- A registered object is in the cell of its sector. -/
theorem Sound.mem_own_cell (valid : isValidZoneId zone = true) (sound : Sound zone state)
    {id : ObjID} (assigned : (state.own id).sector.isAssigned = true) :
    id ∈ state.world.cells zone (state.own id).sector :=
  (sound.tracked id zone _).mpr
    ⟨rfl, rfl, (isAssigned_iff_of_located valid (sound.located id)).mp assigned⟩

/-- Objects within view range stand in neighbouring sectors. -/
theorem near_sectors (valid : isValidZoneId zone = true) {first second : Transform}
    (firstLocated : Located zone first) (secondLocated : Located zone second)
    (firstAssigned : first.sector.isAssigned = true)
    (secondAssigned : second.sector.isAssigned = true)
    (horizontal : (first.x - second.x).natAbs ≤ viewRange)
    (vertical : (first.y - second.y).natAbs ≤ viewRange) :
    first.sector.x - 1 ≤ second.sector.x ∧ second.sector.x ≤ first.sector.x + 1 ∧
      first.sector.y - 1 ≤ second.sector.y ∧ second.sector.y ≤ first.sector.y + 1 := by
  have tiles : ∀ {transform : Transform}, Located zone transform →
      transform.sector.isAssigned = true →
        transform.sector = ⟨transform.x / 10, transform.y / 10⟩ := by
    intro transform located assigned
    rcases located with unassigned | ⟨sector, inZone⟩
    · rw [unassigned] at assigned
      contradiction
    · rw [sector] at inZone
      have home := (isValidSector_getSectorCoord valid _ _).mp inZone
      exact sector.trans (getSectorCoord_of_zone valid home).2
  rw [tiles firstLocated firstAssigned, tiles secondLocated secondAssigned]
  simp only [viewRange] at horizontal vertical
  dsimp only
  omega

/-! ## The nine cells -/

theorem around_nodup (offset size center : Int) : (World.around offset size center).Nodup := by
  apply List.Nodup.filter
  simp only [List.nodup_cons, List.mem_cons, List.not_mem_nil, or_false, not_or, List.nodup_nil,
    not_false_eq_true, and_true]
  omega

/-- No identifier comes twice from the cells around a sector. -/
theorem Sound.neighborIds_nodup (sound : Sound zone state) (hash : HashOrder)
    (sector : SectorCoord) : (state.world.neighborIds hash zone sector).Nodup := by
  have apart : ∀ {first second : SectorCoord}, first ≠ second →
      (hash.order (state.world.cells zone first)).Disjoint
        (hash.order (state.world.cells zone second)) := by
    intro first second different id inFirst inSecond
    rw [hash.mem_order_iff, sound.tracked] at inFirst inSecond
    exact different (inFirst.2.1.trans inSecond.2.1.symm)
  have each : ∀ sector, (hash.order (state.world.cells zone sector)).Nodup :=
    fun sector => (hash.perm _).nodup_iff.mpr (Cell.nodup _)
  rw [World.neighborIds]
  split
  · rw [List.nodup_flatMap]
    constructor
    · intro y _
      rw [List.nodup_flatMap]
      refine ⟨fun x _ => each _, (around_nodup _ _ _).imp fun different => apart ?_⟩
      simpa using different
    · apply (around_nodup _ _ _).imp
      intro first second different id inFirst inSecond
      rw [List.mem_flatMap] at inFirst inSecond
      obtain ⟨firstX, _, firstCell⟩ := inFirst
      obtain ⟨secondX, _, secondCell⟩ := inSecond
      have rows : (⟨firstX, first⟩ : SectorCoord) ≠ ⟨secondX, second⟩ :=
        fun same => different (congrArg SectorCoord.y same)
      exact apart rows firstCell secondCell
  · exact List.nodup_nil

/-- The cells around a placed object have everything it could see. -/
theorem Sound.mem_neighborIds (valid : isValidZoneId zone = true) (sound : Sound zone state)
    (hash : HashOrder) {center other : ObjID}
    (centerAssigned : (state.own center).sector.isAssigned = true)
    (otherAssigned : (state.own other).sector.isAssigned = true)
    (horizontal : ((state.own center).x - (state.own other).x).natAbs ≤ viewRange)
    (vertical : ((state.own center).y - (state.own other).y).natAbs ≤ viewRange) :
    other ∈ state.world.neighborIds hash zone (state.own center).sector := by
  have near := near_sectors valid (sound.located center) (sound.located other) centerAssigned
    otherAssigned horizontal vertical
  rw [World.mem_neighborIds_iff]
  exact ⟨(isAssigned_iff_of_located valid (sound.located center)).mp centerAssigned, _,
    (isAssigned_iff_of_located valid (sound.located other)).mp otherAssigned, near.1, near.2.1,
    near.2.2.1, near.2.2.2, sound.mem_own_cell valid otherAssigned⟩

/-! ## Registered objects -/

/-- The objects found are the registered ones of the nine cells. -/
theorem map_neighborObjects (hash : HashOrder) (zone : Nat) (sector : SectorCoord)
    (world : World) : (world.neighborObjects hash zone sector).map Prod.fst =
      (world.neighborIds hash zone sector).filter fun id => (world.objects id).isSome := by
  rw [World.neighborObjects]
  induction world.neighborIds hash zone sector with
  | nil => rfl
  | cons id rest ih =>
      cases found : world.objects id with
      | none => simp only [List.filterMap_cons, List.filter_cons, found, Option.map_none, ih,
          Option.isSome_none, Bool.false_eq_true, if_false]
      | some subject => simp only [List.filterMap_cons, List.filter_cons, found, Option.map_some,
          List.map_cons, ih, Option.isSome_some, if_true]

/-- What a scan over the whole zone would deliver for a player: the other
registered objects of the zone it can see, users only when in the game. -/
def Scanned (state : ZoneGrid) (playerId : ObjID) (player : Subject) (id : ObjID) : Prop :=
  id ≠ playerId ∧ ∃ subject, state.world.objects id = some subject ∧
    (state.own id).sector.isAssigned = true ∧ SubjectHelper.canSee player subject = true ∧
      (id.category = .eUser → state.world.isIngame id = true)

variable {grid : CollisionGrid}

theorem Sound.collectSubjects_nodup (sound : Sound zone state) (choice : Choice grid)
    (playerId : ObjID) : (state.world.collectSubjects zone choice playerId).Nodup := by
  rw [World.collectSubjects]
  split
  · exact List.nodup_nil
  · next player user _ =>
    have objects : ((state.world.neighborObjects choice.hash zone
        player.transform.sector).map Prod.fst).Nodup := by
      rw [map_neighborObjects]
      exact (sound.neighborIds_nodup choice.hash _).filter _
    exact objects.sublist (List.filter_sublist.map Prod.fst)

/-- Those found are those that a scan of the whole zone would find. -/
theorem Sound.mem_collectSubjects_iff (valid : isValidZoneId zone = true)
    (sound : Sound zone state) (choice : Choice grid) {playerId : ObjID} {player : Subject}
    {user : User} (found : state.world.getUser playerId = some (player, user))
    (placed : (state.own playerId).sector.isAssigned = true) (id : ObjID) :
    id ∈ state.world.collectSubjects zone choice playerId ↔
      state.Scanned playerId player id := by
  have registered := (World.getUser_eq_some.mp found).1
  have playerAt := sound.registered playerId player registered
  constructor
  · intro member
    obtain ⟨_, _, same, near, different, ingame, subject, objectAt, sees⟩ :=
      World.mem_collectSubjects_iff.mp member
    obtain ⟨rfl, rfl⟩ := Prod.mk.inj (Option.some.inj (found.symm.trans same))
    obtain ⟨_, sector, inZone, _, _, _, _, inCell⟩ := World.mem_neighborIds_iff.mp near
    have own := ((sound.tracked id zone sector).mp inCell).2.1
    have assigned := (isAssigned_iff_of_located valid (sound.located id)).mpr (own ▸ inZone)
    exact ⟨different, subject, objectAt, assigned, sees, ingame⟩
  · rintro ⟨different, subject, objectAt, assigned, sees, ingame⟩
    have subjectAt := sound.registered id subject objectAt
    have range : (player.x - subject.x).natAbs ≤ viewRange ∧
        (player.y - subject.y).natAbs ≤ viewRange := of_decide_eq_true sees
    rw [Subject.x, Subject.x, Subject.y, Subject.y, playerAt, subjectAt] at range
    have near := sound.mem_neighborIds valid choice.hash placed assigned range.1 range.2
    rw [← playerAt] at near
    exact World.mem_collectSubjects_iff.mpr
      ⟨player, user, found, near, different, ingame, subject, objectAt, sees⟩

/-! ## All call sequences -/

/-- The grid and its searches are what a scan over all objects would give. -/
structure Exact (zone : Nat) (choice : Choice grid) (state : ZoneGrid) : Prop where
  oneCell : ∀ id first second, id ∈ state.world.cells zone first →
    id ∈ state.world.cells zone second → first = second
  ownCell : ∀ id sector, id ∈ state.world.cells zone sector →
    sector = Sector.getSectorCoord (state.own id).x (state.own id).y
  unassigned : ∀ id, (state.own id).sector.isAssigned = false →
    ∀ sector, id ∉ state.world.cells zone sector
  idsOnce : ∀ id, (state.own id).sector.isAssigned = true →
    (state.world.neighborIds choice.hash zone (state.own id).sector).Nodup
  idsNear : ∀ id other, (state.own id).sector.isAssigned = true →
    (state.own other).sector.isAssigned = true →
    ((state.own id).x - (state.own other).x).natAbs ≤ viewRange →
    ((state.own id).y - (state.own other).y).natAbs ≤ viewRange →
    other ∈ state.world.neighborIds choice.hash zone (state.own id).sector
  objects : ∀ id, (state.world.neighborObjects choice.hash zone (state.own id).sector).map Prod.fst =
    (state.world.neighborIds choice.hash zone (state.own id).sector).filter
      fun other => (state.world.objects other).isSome
  subjectsOnce : ∀ playerId, (state.world.collectSubjects zone choice playerId).Nodup
  subjects : ∀ playerId player user, state.world.getUser playerId = some (player, user) →
    (state.own playerId).sector.isAssigned = true → ∀ id,
      id ∈ state.world.collectSubjects zone choice playerId ↔ state.Scanned playerId player id

theorem Sound.exact (valid : isValidZoneId zone = true) (sound : Sound zone state)
    (choice : Choice grid) : state.Exact zone choice where
  oneCell id first second inFirst inSecond :=
    ((sound.tracked id zone first).mp inFirst).2.1.trans
      ((sound.tracked id zone second).mp inSecond).2.1.symm
  ownCell id sector member := by
    obtain ⟨_, own, inZone⟩ := (sound.tracked id zone sector).mp member
    rcases sound.located id with unassigned | ⟨located, _⟩
    · rw [own, unassigned, isValidSector_unassigned valid] at inZone
      contradiction
    · exact own.trans located
  unassigned id off sector member := by
    obtain ⟨_, own, inZone⟩ := (sound.tracked id zone sector).mp member
    have assigned := (isAssigned_iff_of_located valid (sound.located id)).mpr (own ▸ inZone)
    rw [off] at assigned
    contradiction
  idsOnce id _ := sound.neighborIds_nodup choice.hash _
  idsNear id other assigned otherAssigned :=
    sound.mem_neighborIds valid choice.hash assigned otherAssigned
  objects id := map_neighborObjects choice.hash zone _ _
  subjectsOnce playerId := sound.collectSubjects_nodup choice playerId
  subjects _ _ _ found placed := sound.mem_collectSubjects_iff valid choice found placed

/-- After any calls on the grid of a zone the nine-cell search equals a scan
over the zone. -/
theorem nineCells_eq_scan (valid : isValidZoneId zone = true) (own : ObjID → Int × Int)
    (calls : List GridCall) (choice : Choice grid) : ((start own).run zone calls).Exact zone choice :=
  ((start_sound valid own).run valid calls).exact valid choice

/-- A user with the number of its session. -/
def onlooker (session : Nat) : Subject where
  name := "kim"
  body := .user (User.initInstance (ObjID.user session) session 1 0)

/-- Five users on the grid of zone one, which starts at column five hundred: the
first at its border, the second in range, the third out of range, the fourth
without a session in the game, and the fifth refused at column 499. -/
def onlookers : List GridCall :=
  [.register (.user 1) (onlooker 1), .register (.user 2) (onlooker 2),
    .register (.user 3) (onlooker 3), .register (.user 4) (onlooker 4),
    .register (.user 5) (onlooker 5), .update (.user 1) 500 9, .update (.user 2) 505 4,
    .update (.user 3) 508 9, .update (.user 4) 501 9, .update (.user 5) 499 9,
    .setSessions fun session => if session = 4 then none else some { state := .stIngame }]

/-- The first user sees the second one only. -/
theorem nineCells_eq_scan_zoneOne :
    ((start fun _ => (-1, -1)).run 1 onlookers).world.collectSubjects 1 Choice.steady (.user 1) =
        [.user 2] ∧
      ((start fun _ => (-1, -1)).run 1 onlookers).Exact 1 Choice.steady :=
  ⟨by rfl, nineCells_eq_scan (by decide) _ onlookers Choice.steady⟩

end ZoneGrid

end Mmorpg
