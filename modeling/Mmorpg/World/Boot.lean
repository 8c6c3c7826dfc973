import Mmorpg.World.Placement

/-!
# Start of the server

`InitForZone` runs once on every zone thread.  Whatever the threads do, each
monster is created exactly once, on the thread of its index.
-/

namespace Mmorpg

open ZoneLayout

namespace World

variable {count : Nat} {draw : Nat → Int × Int} {world : World}

/-- The indexes in the order in which the zones create their monsters. -/
def bootOrder (count : Nat) : List Nat :=
  (List.range zoneCount.toNat).flatMap fun zone =>
    (List.range count).filter fun index => index % zoneCount.toNat = zone

theorem mem_bootOrder_iff {index : Nat} : index ∈ bootOrder count ↔ index < count := by
  have positive : 0 < zoneCount.toNat := by decide
  simp only [bootOrder, List.mem_flatMap, List.mem_range, List.mem_filter, decide_eq_true_eq]
  constructor
  · rintro ⟨zone, _, below, _⟩
    exact below
  · intro below
    exact ⟨index % zoneCount.toNat, Nat.mod_lt index positive, below, rfl⟩

theorem nodup_bootOrder (count : Nat) : (bootOrder count).Nodup := by
  rw [bootOrder, List.nodup_flatMap]
  constructor
  · exact fun zone _ => List.nodup_range.filter _
  · apply List.Pairwise.imp _ List.nodup_range
    intro first second different index inFirst inSecond
    rw [List.mem_filter, decide_eq_true_eq] at inFirst inSecond
    exact different (inFirst.2.symm.trans inSecond.2)

/-- The start makes one monster after the other. -/
theorem boot_eq_foldl (count : Nat) (draw : Nat → Int × Int) :
    boot count draw = (bootOrder count).foldl
      (fun world index => world.initMonster (index % zoneCount.toNat) draw index) empty := by
  rw [boot, bootOrder, List.foldl_flatMap]
  apply List.foldl_ext
  intro world zone _
  apply List.foldl_ext
  intro current index member
  rw [List.mem_filter, decide_eq_true_eq] at member
  rw [member.2]

/-- What holds of the empty world and is kept by every new monster holds at the
start.  `done` are the indexes created so far. -/
theorem boot_invariant (invariant : List Nat → World → Prop) (initially : invariant [] empty)
    (each : ∀ done index world, index < count → index ∉ done → invariant done world →
      invariant (done ++ [index]) (world.initMonster (index % zoneCount.toNat) draw index)) :
    invariant (bootOrder count) (boot count draw) := by
  rw [boot_eq_foldl]
  have distinct := nodup_bootOrder count
  have below : ∀ index ∈ bootOrder count, index < count := fun _ => mem_bootOrder_iff.mp
  generalize bootOrder count = order at distinct below
  suffices every : ∀ done world, (done ++ order).Nodup → invariant done world →
      invariant (done ++ order) (order.foldl
        (fun world index => world.initMonster (index % zoneCount.toNat) draw index) world) by
    simpa using every [] empty (by simpa using distinct) initially
  clear distinct
  induction order with
  | nil =>
    intro done world _ holds
    simpa using holds
  | cons index rest ih =>
    intro done world distinct holds
    have fresh : index ∉ done := by
      intro member
      rw [List.nodup_append] at distinct
      exact distinct.2.2 index member index List.mem_cons_self rfl
    have later := ih (fun other member => below other (List.mem_cons_of_mem index member))
      (done ++ [index]) (world.initMonster (index % zoneCount.toNat) draw index)
      (by simpa using distinct) (each done index world (below index List.mem_cons_self) fresh holds)
    simpa using later

/-! ## The monsters at the start -/

/-- The zone whose `InitForZone` creates a monster. -/
def homeZone (id : ObjID) : Nat :=
  (id.databaseId - monsterIdStart) % zoneCount.toNat

/-- Monsters are at home in a zone of the world. -/
theorem isValidZoneId_homeZone (id : ObjID) : isValidZoneId (homeZone id) = true := by
  rw [isValidZoneId_iff, homeZone]
  exact Nat.mod_lt _ (by decide)

@[simp]
theorem homeZone_monster (index : Nat) :
    homeZone (ObjID.monster (monsterIdStart + index)) = index % zoneCount.toNat := by
  rw [homeZone, ObjID.monster, Nat.add_sub_cancel_left]

/-- A monster before it has a position. -/
def newMonster (index : Nat) : Subject where
  name := s!"Monster{monsterIdStart + index}"
  body := .monster (Monster.initInstance (monsterIdStart + index))

/-- A monster as `InitForZone` leaves it. -/
def bootMonster (draw : Nat → Int × Int) (index : Nat) : Subject :=
  { (newMonster index).placedAt (index % zoneCount.toNat) (draw index).1 (draw index).2 with
    body := .monster
      { Monster.initInstance (monsterIdStart + index) with
        spawnX := (draw index).1, spawnY := (draw index).2 } }

/-- The world in which the monsters of `done` stand on their drawn tiles. -/
structure Booted (draw : Nat → Int × Int) (done : List Nat) (world : World) : Prop where
  monsters : ∀ index ∈ done, world.objects (ObjID.monster (monsterIdStart + index)) =
    some (bootMonster draw index)
  only : ∀ id, world.objects id ≠ none →
    ∃ index ∈ done, id = ObjID.monster (monsterIdStart + index)
  cells : ∀ zone sector id, id ∈ world.cells zone sector ↔ ∃ index ∈ done,
    id = ObjID.monster (monsterIdStart + index) ∧ zone = index % zoneCount.toNat ∧
      sector = Sector.getSectorCoord (draw index).1 (draw index).2
  zones : ∀ index ∈ done, world.objectZones (ObjID.monster (monsterIdStart + index)) =
    some (index % zoneCount.toNat)
  unmapped : ∀ id, world.objects id = none → world.objectZones id = none
  sessions : world.sessions = fun _ => none
  queues : world.queues = fun _ => []
  timers : world.timers = []
  dbRequests : world.dbRequests = []
  nextObjectId : world.nextObjectId = 1
  nextFieldItemId : world.nextFieldItemId = 1

theorem booted_empty (draw : Nat → Int × Int) : Booted draw [] empty where
  monsters index member := absurd member List.not_mem_nil
  only id registered := absurd rfl registered
  cells zone sector id := by simp [empty]
  zones index member := absurd member List.not_mem_nil
  unmapped _ _ := rfl
  sessions := rfl
  queues := rfl
  timers := rfl
  dbRequests := rfl
  nextObjectId := rfl
  nextFieldItemId := rfl

/-- The effect of `initMonster` on a free identifier. -/
theorem initMonster_settled (index : Nat) (valid : ValidDraws grid draw) (world : World) :
    ∃ placed, Settled (index % zoneCount.toNat) (ObjID.monster (monsterIdStart + index))
        (newMonster index) (draw index).1 (draw index).2
        (world.insertObject (ObjID.monster (monsterIdStart + index)) (newMonster index)) placed ∧
      world.initMonster (index % zoneCount.toNat) draw index =
        { placed with
          objects := Function.update world.objects (ObjID.monster (monsterIdStart + index))
            (some (bootMonster draw index)) } := by
  have validZone : isValidZoneId (index % zoneCount.toNat) = true := by
    rw [isValidZoneId_iff]
    exact Nat.mod_lt _ (by decide)
  have registered : (world.insertObject (ObjID.monster (monsterIdStart + index))
      (newMonster index)).objects (ObjID.monster (monsterIdStart + index)) =
        some (newMonster index) := Function.update_self _ _ _
  have settled := updatePosition_settled validZone registered (valid index).1
  refine ⟨_, settled, ?_⟩
  have created : world.initMonster (index % zoneCount.toNat) draw index =
      ((world.insertObject (ObjID.monster (monsterIdStart + index))
        (newMonster index)).updatePosition (index % zoneCount.toNat)
          (ObjID.monster (monsterIdStart + index)) (draw index).1 (draw index).2).modifyMonster
            (ObjID.monster (monsterIdStart + index)) fun monster =>
              { monster with spawnX := (draw index).1, spawnY := (draw index).2 } := rfl
  rw [created, modifyMonster, modify, settled.objects, Function.update_self, Function.update_idem,
    insertObject, Function.update_idem]
  rfl

/-- One more monster. -/
theorem Booted.initMonster {done : List Nat} {index : Nat} (booted : Booted draw done world)
    (valid : ValidDraws grid draw) (fresh : index ∉ done) :
    Booted draw (done ++ [index])
      (world.initMonster (index % zoneCount.toNat) draw index) := by
  have validZone : isValidZoneId (index % zoneCount.toNat) = true := by
    rw [isValidZoneId_iff]
    exact Nat.mod_lt _ (by decide)
  have apart : ∀ other ∈ done,
      ObjID.monster (monsterIdStart + other) ≠ ObjID.monster (monsterIdStart + index) := by
    intro other member same
    have equal : other = index := by simpa [ObjID.monster] using same
    exact fresh (equal ▸ member)
  have mem_done : ∀ other, other ∈ done ++ [index] ↔ other ∈ done ∨ other = index := by simp
  rcases initMonster_settled index valid world with ⟨placed, settled, created⟩
  have tracked : Tracked (index % zoneCount.toNat) (ObjID.monster (monsterIdStart + index)) {}
      (world.insertObject (ObjID.monster (monsterIdStart + index)) (newMonster index)) := by
    intro zone sector
    have cells := booted.cells zone sector (ObjID.monster (monsterIdStart + index))
    constructor
    · intro member
      rcases cells.mp member with ⟨other, otherDone, same, _⟩
      exact absurd same.symm (apart other otherDone)
    · rintro ⟨rfl, rfl, unassigned⟩
      rw [isValidSector_unassigned validZone] at unassigned
      contradiction
  have otherZone : (newMonster index).transform.zoneId ≠ index % zoneCount.toNat := by
    intro same
    rw [← same] at validZone
    contradiction
  have zones := settled.objectZones
  rw [if_neg otherZone] at zones
  rw [created]
  constructor
  case monsters =>
    intro other member
    rw [mem_done] at member
    rcases member with old | rfl
    · exact (Function.update_of_ne (apart other old) _ _).trans (booted.monsters other old)
    · exact Function.update_self _ _ _
  case only =>
    intro id registered
    by_cases same : id = ObjID.monster (monsterIdStart + index)
    · exact ⟨index, (mem_done index).mpr (.inr rfl), same⟩
    · dsimp only at registered
      rw [Function.update_of_ne same] at registered
      rcases booted.only id registered with ⟨other, member, known⟩
      exact ⟨other, (mem_done other).mpr (.inl member), known⟩
  case cells =>
    intro zone sector id
    by_cases same : id = ObjID.monster (monsterIdStart + index)
    · subst same
      refine (settled.own tracked zone sector).trans ?_
      constructor
      · rintro ⟨rfl, rfl⟩
        exact ⟨index, (mem_done index).mpr (.inr rfl), rfl, rfl, rfl⟩
      · rintro ⟨other, member, known, inZone, inSector⟩
        have equal : index = other := by simpa [ObjID.monster] using known
        exact equal ▸ ⟨inZone, inSector⟩
    · refine (settled.others id same zone sector).trans ((booted.cells zone sector id).trans ?_)
      constructor
      · rintro ⟨other, member, place⟩
        exact ⟨other, (mem_done other).mpr (.inl member), place⟩
      · rintro ⟨other, member, known, place⟩
        rcases (mem_done other).mp member with old | rfl
        · exact ⟨other, old, known, place⟩
        · exact absurd known same
  case zones =>
    intro other member
    rw [mem_done] at member
    dsimp only
    rw [zones]
    rcases member with old | rfl
    · exact (Function.update_of_ne (apart other old) _ _).trans (booted.zones other old)
    · exact Function.update_self _ _ _
  case unmapped =>
    intro id missing
    by_cases same : id = ObjID.monster (monsterIdStart + index)
    · subst same
      exact absurd ((Function.update_self _ _ _).symm.trans missing) (Option.some_ne_none _)
    · dsimp only at missing ⊢
      rw [zones, Function.update_of_ne same]
      rw [Function.update_of_ne same] at missing
      exact booted.unmapped id missing
  case sessions =>
    have sessions := settled.sessions
    rw [if_neg (by simp)] at sessions
    exact sessions.trans booted.sessions
  case queues => exact settled.queues.trans booted.queues
  case timers => exact settled.timers.trans booted.timers
  case dbRequests => exact settled.dbRequests.trans booted.dbRequests
  case nextObjectId => exact settled.nextObjectId.trans booted.nextObjectId
  case nextFieldItemId => exact settled.nextFieldItemId.trans booted.nextFieldItemId

/-- Every monster of the start stands on its drawn tile, and there is nothing
else. -/
theorem boot_booted (count : Nat) (valid : ValidDraws grid draw) :
    Booted draw (bootOrder count) (boot count draw) := by
  apply boot_invariant (Booted draw) (booted_empty draw)
  exact fun done index world _ fresh booted => booted.initMonster valid fresh

/-- Every monster of a zone starts on the same tile. -/
def steadyDraw (index : Nat) : Int × Int :=
  Choice.steady.zoneDraw (index % zoneCount.toNat)

/-- The draws of the samples are draws the server can make. -/
theorem steadyDraw_valid : ValidDraws initCollisionTile steadyDraw := by
  intro index
  have valid : isValidZoneId (index % zoneCount.toNat) = true := by
    rw [isValidZoneId_iff]
    exact Nat.mod_lt _ (by decide)
  exact ⟨Choice.steady.zoneDraw_zone _ valid, Choice.steady.zoneDraw_free _ valid⟩

end World

end Mmorpg
