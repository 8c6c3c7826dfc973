import Mmorpg.World.SceneTasks
import Mmorpg.World.Contact

/-!
# Viewers and what they are shown

In a laid scene every user is in the cell of its position, so seeing is
symmetric: whoever a user can see is told about that user.  A task changes one
user at a time; `Recast` says what such a change leaves alone, and the scene
stays dressed if the clients around this user are told its weapon and its own
client theirs.
-/

namespace Mmorpg

open ZoneLayout

/-- The weapon of an inventory with at most one. -/
def Slots.weapon (slots : Slots) : ItemTableId :=
  ((SlotOrder.ascending.order slots).findSome? slots.wornIdAt).getD itemTableIdNone

/-- With one item worn, every order finds it. -/
theorem Inventory.getEquippedItemId_eq_weapon {inventory : Inventory}
    (keys : inventory.slots.KeysValid) (single : inventory.slots.SingleEquipped)
    (order : SlotOrder) : inventory.getEquippedItemId order = inventory.slots.weapon :=
  getEquippedItemId_congr keys single keys single fun _ => Iff.rfl

/-- Two places of a zone in neighbouring sectors and in view of each other. -/
structure Near (zone : Nat) (first second : Transform) : Prop where
  firstValid : Sector.isValidSector zone first.sector = true
  secondValid : Sector.isValidSector zone second.sector = true
  sectorX : (first.sector.x - second.sector.x).natAbs ≤ 1
  sectorY : (first.sector.y - second.sector.y).natAbs ≤ 1
  viewX : (first.x - second.x).natAbs ≤ viewRange
  viewY : (first.y - second.y).natAbs ≤ viewRange

theorem Near.symm {zone : Nat} {first second : Transform} (near : Near zone first second) :
    Near zone second first where
  firstValid := near.secondValid
  secondValid := near.firstValid
  sectorX := by have bound := near.sectorX; omega
  sectorY := by have bound := near.sectorY; omega
  viewX := by have bound := near.viewX; omega
  viewY := by have bound := near.viewY; omega

/-- Only sector and position matter. -/
theorem Near.move {zone : Nat} {first moved second : Transform} (near : Near zone moved second)
    (sector : first.sector = moved.sector) (x : first.x = moved.x) (y : first.y = moved.y) :
    Near zone first second where
  firstValid := sector ▸ near.firstValid
  secondValid := near.secondValid
  sectorX := sector ▸ near.sectorX
  sectorY := sector ▸ near.sectorY
  viewX := x ▸ near.viewX
  viewY := y ▸ near.viewY

/-- A user stands in the sector of its position, or in none while it is dead,
changes zones or was never placed. -/
def Figure.Located (zone : Nat) (figure : Figure) : Prop :=
  Sector.isValidSector zone figure.transform.sector = true ∧
      figure.transform.sector = Sector.getSectorCoord figure.transform.x figure.transform.y ∨
    figure.transform.sector = {} ∧ (figure.dead = true ∨ figure.transform.transferring = true ∨
      figure.transform.x = -1 ∧ figure.transform.y = -1)

/-- The slots are valid and at most one of them is worn. -/
def Figure.Armed (figure : Figure) : Prop :=
  figure.slots.KeysValid ∧ figure.slots.SingleEquipped

namespace Scene

variable {zone own : Nat} {new later : Option Figure} {before middle after scene : Scene}

/-- Every user is in the game, carries at most one weapon, and is in the cell
of its sector and in no other. -/
structure Laid (zone : Nat) (scene : Scene) : Prop where
  stands : ∀ session otherZone sector, scene.stands session otherZone sector ↔
    ∃ figure, scene.figure session = some figure ∧ otherZone = zone ∧
      sector = figure.transform.sector ∧ Sector.isValidSector zone sector = true
  located : ∀ session figure, scene.figure session = some figure → figure.Located zone
  ingame : ∀ session figure, scene.figure session = some figure → scene.state session = .stIngame
  armed : ∀ session figure, scene.figure session = some figure → figure.Armed

/-- Every client shows the weapons of the users in view. -/
def Dressed (zone : Nat) (scene : Scene) : Prop :=
  ∀ viewer target seer figure, viewer ≠ target → scene.figure viewer = some seer →
    scene.figure target = some figure → Near zone seer.transform figure.transform →
      scene.shown viewer target = some figure.slots.weapon

/-- The scene of a zone is in order and everyone in it is dressed as the others
see it. -/
structure Staged (zone : Nat) (scene : Scene) : Prop where
  laid : scene.Laid zone
  dressed : scene.Dressed zone

/-- Of the users only `own` changes. -/
structure Recast (zone own : Nat) (new : Option Figure) (before after : Scene) : Prop where
  figure : ∀ session, after.figure session = if session = own then new else before.figure session
  stands : ∀ session, session ≠ own → after.stands session = before.stands session
  placed : ∀ otherZone sector, after.stands own otherZone sector ↔
    ∃ figure, new = some figure ∧ otherZone = zone ∧ sector = figure.transform.sector ∧
      Sector.isValidSector zone sector = true
  state : ∀ session, session ≠ own → after.state session = before.state session

theorem Recast.self (recast : Recast zone own new before after) : after.figure own = new := by
  rw [recast.figure, if_pos rfl]

theorem Recast.other (recast : Recast zone own new before after) {session : Nat}
    (other : session ≠ own) : after.figure session = before.figure session := by
  rw [recast.figure, if_neg other]

/-- A scene stays in order if the new figure fits into it. -/
theorem Recast.laid (recast : Recast zone own new before after) (laid : before.Laid zone)
    (fits : ∀ figure, new = some figure →
      figure.Located zone ∧ after.state own = .stIngame ∧ figure.Armed) : after.Laid zone where
  stands session otherZone sector := by
    rw [recast.figure]
    split
    · next same =>
      subst same
      exact recast.placed otherZone sector
    · next other =>
      rw [recast.stands session other]
      exact laid.stands session otherZone sector
  located session figure found := by
    rw [recast.figure] at found
    split at found
    · exact (fits figure found).1
    · exact laid.located session figure found
  ingame session figure found := by
    rw [recast.figure] at found
    split at found
    · next same =>
      subst same
      exact (fits figure found).2.1
    · next other =>
      rw [recast.state session other]
      exact laid.ingame session figure found
  armed session figure found := by
    rw [recast.figure] at found
    split at found
    · exact (fits figure found).2.2
    · exact laid.armed session figure found

/-- The clients around `own` have to be told its weapon, and its own client
theirs. -/
theorem Recast.dressed (recast : Recast zone own new before after) (dressed : before.Dressed zone)
    (between : ∀ viewer target, viewer ≠ own → target ≠ own →
      after.shown viewer target = before.shown viewer target)
    (seen : ∀ viewer seer figure, viewer ≠ own → before.figure viewer = some seer →
      new = some figure → Near zone seer.transform figure.transform →
        after.shown viewer own = some figure.slots.weapon)
    (sees : ∀ target seer figure, target ≠ own → before.figure target = some figure →
      new = some seer → Near zone seer.transform figure.transform →
        after.shown own target = some figure.slots.weapon) : after.Dressed zone := by
  intro viewer target seer figure different viewing viewed near
  by_cases isViewer : viewer = own
  · subst isViewer
    have other : target ≠ viewer := Ne.symm different
    rw [recast.self] at viewing
    rw [recast.other other] at viewed
    exact sees target seer figure other viewed viewing near
  · rw [recast.other isViewer] at viewing
    by_cases isTarget : target = own
    · subst isTarget
      rw [recast.self] at viewed
      exact seen viewer seer figure isViewer viewing viewed near
    · rw [recast.other isTarget] at viewed
      rw [between viewer target isViewer isTarget]
      exact dressed viewer target seer figure different viewing viewed near

/-- A change that brings nobody new into view and tells nobody anything. -/
theorem Recast.dressed_of_quiet {old changed : Figure}
    (recast : Recast zone own (some changed) before after) (dressed : before.Dressed zone)
    (found : before.figure own = some old) (weapon : changed.slots.weapon = old.slots.weapon)
    (fewer : ∀ place, Near zone changed.transform place → Near zone old.transform place)
    (shown : after.shown = before.shown) : after.Dressed zone := by
  apply recast.dressed dressed
  · intro viewer target _ _
    rw [shown]
  · rintro viewer seer figure other viewing ⟨⟩ near
    rw [shown, weapon]
    exact dressed viewer own seer old other viewing found (fewer _ near.symm).symm
  · rintro target seer figure other viewed ⟨⟩ near
    rw [shown]
    exact dressed own target old figure (Ne.symm other) found viewed (fewer _ near)

/-- Somebody who leaves the grid is in nobody's view. -/
theorem Recast.dressed_of_gone (valid : isValidZoneId zone = true)
    (recast : Recast zone own new before after) (dressed : before.Dressed zone)
    (gone : ∀ figure, new = some figure → figure.transform.sector = {})
    (between : ∀ viewer target, viewer ≠ own → target ≠ own →
      after.shown viewer target = before.shown viewer target) : after.Dressed zone := by
  apply recast.dressed dressed between
  · rintro viewer seer figure _ _ present near
    have inside := near.secondValid
    rw [gone figure present, isValidSector_unassigned valid] at inside
    contradiction
  · rintro target seer figure _ _ present near
    have inside := near.firstValid
    rw [gone seer present, isValidSector_unassigned valid] at inside
    contradiction

end Scene

namespace World

open Scene

variable {grid : CollisionGrid} {zone own : Nat} {choice : Choice grid} {world before after : World}
  {figure : Figure}

/-! ## Who sees whom -/

/-- Being near is being in sight, in sectors that touch. -/
theorem near_of_canSee {first second : Subject}
    (firstValid : Sector.isValidSector zone first.transform.sector = true)
    (secondValid : Sector.isValidSector zone second.transform.sector = true)
    (sectorX : (first.transform.sector.x - second.transform.sector.x).natAbs ≤ 1)
    (sectorY : (first.transform.sector.y - second.transform.sector.y).natAbs ≤ 1) :
    Near zone first.transform second.transform ↔ SubjectHelper.canSee first second = true := by
  rw [SubjectHelper.canSee, decide_eq_true_iff]
  constructor
  · exact fun near => ⟨near.viewX, near.viewY⟩
  · exact fun view => ⟨firstValid, secondValid, sectorX, sectorY, view.1, view.2⟩

/-- The nine cells around a place have exactly the users nearby. -/
theorem mem_neighborIds_of_laid (laid : world.scene.Laid zone) (hash : HashOrder) {session : Nat}
    (found : world.scene.figure session = some figure) (sector : SectorCoord) :
    ObjID.user session ∈ world.neighborIds hash zone sector ↔
      Sector.isValidSector zone sector = true ∧
        Sector.isValidSector zone figure.transform.sector = true ∧
          (figure.transform.sector.x - sector.x).natAbs ≤ 1 ∧
            (figure.transform.sector.y - sector.y).natAbs ≤ 1 := by
  rw [mem_neighborIds_iff]
  constructor
  · rintro ⟨valid, other, otherValid, left, right, above, below, member⟩
    obtain ⟨standing, foundAt, _, rfl, _⟩ := (laid.stands session zone other).mp member
    obtain rfl := Option.some.inj (found.symm.trans foundAt)
    exact ⟨valid, otherValid, by omega, by omega⟩
  · rintro ⟨valid, otherValid, horizontal, vertical⟩
    refine ⟨valid, figure.transform.sector, otherValid, by omega, by omega, by omega, by omega, ?_⟩
    exact (laid.stands session zone _).mpr ⟨figure, found, rfl, rfl, otherValid⟩

theorem figure_of_neighbor (laid : world.scene.Laid zone) {hash : HashOrder} {session : Nat}
    {sector : SectorCoord} (member : ObjID.user session ∈ world.neighborIds hash zone sector) :
    ∃ figure, world.scene.figure session = some figure := by
  rcases mem_neighborIds_cells member with ⟨other, inCell⟩
  rcases (laid.stands session zone other).mp inCell with ⟨figure, found, _⟩
  exact ⟨figure, found⟩

theorem isIngame_of_laid (laid : world.scene.Laid zone) {session : Nat}
    (found : world.scene.figure session = some figure) :
    world.isIngame (ObjID.user session) = true :=
  decide_eq_true (laid.ingame session figure found)

/-- The viewers of a target are the figures near it. -/
theorem mem_viewers_of_laid (laid : world.scene.Laid zone) (hash : HashOrder) (target : Subject)
    (viewer : Nat) :
    ObjID.user viewer ∈ world.viewers hash zone target ↔
      ∃ seer, world.scene.figure viewer = some seer ∧ Near zone seer.transform target.transform := by
  rw [mem_viewers_iff]
  constructor
  · rintro ⟨member, _, _, subject, registered, sees⟩
    rcases figure_of_neighbor laid member with ⟨seer, found⟩
    obtain ⟨targetValid, seerValid, horizontal, vertical⟩ :=
      (mem_neighborIds_of_laid laid hash found _).mp member
    obtain ⟨client, user, playing, rfl⟩ := figure_eq_some.mp found
    obtain rfl : client = subject := Option.some.inj
      ((getUser_eq_some.mp playing).1.symm.trans registered)
    exact ⟨_, found, (near_of_canSee seerValid targetValid horizontal vertical).mpr sees⟩
  · rintro ⟨seer, found, near⟩
    refine ⟨?_, rfl, isIngame_of_laid laid found, ?_⟩
    · exact (mem_neighborIds_of_laid laid hash found _).mpr
        ⟨near.secondValid, near.firstValid, near.sectorX, near.sectorY⟩
    · obtain ⟨client, user, playing, rfl⟩ := figure_eq_some.mp found
      refine ⟨client, (getUser_eq_some.mp playing).1, ?_⟩
      exact (near_of_canSee near.firstValid near.secondValid near.sectorX near.sectorY).mp near

/-- The subjects collected are the figures near the player. -/
theorem mem_collectSubjects_of_laid (laid : world.scene.Laid zone) (choice : Choice grid)
    (viewer target : Nat) :
    ObjID.user target ∈ world.collectSubjects zone choice (ObjID.user viewer) ↔
      viewer ≠ target ∧ ∃ seer figure, world.scene.figure viewer = some seer ∧
        world.scene.figure target = some figure ∧ Near zone seer.transform figure.transform := by
  rw [mem_collectSubjects_iff]
  constructor
  · rintro ⟨player, user, playing, member, different, _, subject, registered, sees⟩
    rcases figure_of_neighbor laid member with ⟨figure, found⟩
    obtain ⟨playerValid, targetValid, horizontal, vertical⟩ :=
      (mem_neighborIds_of_laid laid choice.hash found _).mp member
    obtain ⟨client, other, seen, rfl⟩ := figure_eq_some.mp found
    obtain rfl : client = subject := Option.some.inj
      ((getUser_eq_some.mp seen).1.symm.trans registered)
    refine ⟨fun same => different (same ▸ rfl), _, _, figure_of_getUser playing, found, ?_⟩
    rw [near_of_canSee playerValid targetValid]
    · exact sees
    · dsimp only at horizontal
      omega
    · dsimp only at vertical
      omega
  · rintro ⟨different, seer, figure, viewing, viewed, near⟩
    obtain ⟨player, user, playing, rfl⟩ := figure_eq_some.mp viewing
    refine ⟨player, user, playing, ?_, fun same => different (ObjID.user_inj.mp same).symm,
      fun _ => isIngame_of_laid laid viewed, ?_⟩
    · rw [mem_neighborIds_of_laid laid choice.hash viewed]
      exact ⟨near.firstValid, near.secondValid, near.symm.sectorX, near.symm.sectorY⟩
    · obtain ⟨client, other, seen, rfl⟩ := figure_eq_some.mp viewed
      refine ⟨client, (getUser_eq_some.mp seen).1, ?_⟩
      exact (near_of_canSee near.firstValid near.secondValid near.sectorX near.sectorY).mp near

end World

end Mmorpg
