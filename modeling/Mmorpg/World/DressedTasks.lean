import Mmorpg.World.Dressed

/-!
# Tasks keep the scene dressed

Walking, zone changes, respawn, login, equipment and death of one user, each
with the packets that go with it.
-/

namespace Mmorpg

open ZoneLayout

variable {grid : CollisionGrid} {zone own : Nat} {choice : Choice grid} {world before after : World}
  {figure changed : Figure} {player : Subject} {user : User}

namespace World

open Scene

/-! ## What a client is told -/

/-- A packet that says nothing about a player, or that its weapon is
`weapon`. -/
def Names (target : Nat) (weapon : ItemTableId) (packet : ServerPacket) : Prop :=
  packet.bearer ≠ some (ObjID.user target) ∨
    ∀ known, packet.weaponAfter (ObjID.user target) known = some weapon

/-- A packet that names the weapon leaves it shown. -/
theorem Names.keeps {target : Nat} {weapon : ItemTableId} {packet : ServerPacket}
    (names : Names target weapon packet) {known : Option ItemTableId} (same : known = some weapon) :
    packet.weaponAfter (ObjID.user target) known = some weapon := by
  rcases names with other | named
  · rw [ServerPacket.weaponAfter_of_bearer other, same]
  · exact named known

section Told

variable {packets : List (Nat × ServerPacket)} {viewer target : Nat} {weapon : ItemTableId}

/-- Packets that name the weapon leave it shown. -/
theorem shownWeapon_post_named
    (names : ∀ packet, (viewer, packet) ∈ packets → Names target weapon packet)
    (known : world.shownWeapon viewer target = some weapon) :
    (world.post packets).shownWeapon viewer target = some weapon := by
  rw [shownWeapon_post]
  apply ServerPacket.weaponAfter_keeps (· = some weapon) _ known
  intro packet member _ same
  exact (names packet (mem_toldTo_iff.mp member)).keeps same

/-- A packet about the target brings its weapon. -/
theorem shownWeapon_post_told
    (names : ∀ packet, (viewer, packet) ∈ packets → Names target weapon packet)
    (told : ∃ packet, (viewer, packet) ∈ packets ∧ packet.bearer = some (ObjID.user target)) :
    (world.post packets).shownWeapon viewer target = some weapon := by
  rw [shownWeapon_post]
  apply ServerPacket.weaponAfter_reaches (fun _ => True) (· = some weapon)
  · exact fun _ _ _ _ => trivial
  · intro packet member _ same
    exact (names packet (mem_toldTo_iff.mp member)).keeps same
  · rcases told with ⟨packet, member, bearer⟩
    refine ⟨packet, mem_toldTo_iff.mpr member, fun known _ => ?_⟩
    exact (names packet member).resolve_left (not_not.mpr bearer) known
  · trivial

end Told

/-- `SUBJECT_ADD_NFY` brings the weapon along. -/
theorem weaponAfter_addPacket {id : ObjID} {subject : Subject} (drawn : subject.figure = some figure)
    (armed : figure.Armed) (slots : SlotOrder) (known : Option ItemTableId) :
    (addPacket slots id subject).weaponAfter id known = some figure.slots.weapon := by
  unfold Subject.figure at drawn
  unfold addPacket
  split at drawn
  · next user bodyOf =>
    obtain rfl := Option.some.inj drawn
    simp only [bodyOf, ServerPacket.weaponAfter, if_true]
    exact congrArg some (Inventory.getEquippedItemId_eq_weapon armed.1 armed.2 slots)
  · contradiction

/-- The add packets about anybody name the weapon of a given player
correctly. -/
theorem names_addPacket {id : ObjID} {target : Nat} {subject : Subject}
    (registered : world.objects id = some subject)
    (found : world.scene.figure target = some figure) (armed : figure.Armed) (slots : SlotOrder) :
    Names target figure.slots.weapon (addPacket slots id subject) := by
  by_cases same : id = ObjID.user target
  · subst same
    right
    intro known
    apply weaponAfter_addPacket _ armed
    simp only [scene, registered] at found
    exact found
  · left
    rw [bearer_addPacket]
    exact fun bearer => same (Option.some.inj bearer)

/-! ## Changes of one user -/

theorem figure_objects (found : world.getUser (ObjID.user own) = some (player, user)) :
    world.objects (ObjID.user own) = some player ∧
      player.figure = some ⟨player.transform, user.stat.dead, user.inventory.slots⟩ := by
  obtain ⟨registered, bodyOf⟩ := getUser_eq_some.mp found
  exact ⟨registered, by rw [Subject.figure, bodyOf]⟩

theorem updateObjectSectorAndPosition_frame {id : ObjID} {transform : Transform} {x y : Int}
    (moved : before.updateObjectSectorAndPosition zone id transform x y = some after) :
    after.sessions = before.sessions ∧ after.outbox = before.outbox := by
  simp only [updateObjectSectorAndPosition] at moved
  split at moved
  · rw [← Option.some.inj moved]
    dsimp only [modifyTransform, modify]
    split
    · dsimp only [modifyCell]
      split <;> exact ⟨rfl, rfl⟩
    · exact ⟨rfl, rfl⟩
  · contradiction

theorem shownWeapon_congr (outbox : after.outbox = before.outbox) :
    after.scene.shown = before.scene.shown := by
  funext viewer target
  simp only [scene, shownWeapon, received, outbox]

/-- `UpdatePosition` changes no session state and sends nothing. -/
theorem updatePosition_frame {id : ObjID} {x y : Int} :
    (world.updatePosition zone id x y).scene.state = world.scene.state ∧
      (world.updatePosition zone id x y).scene.shown = world.scene.shown := by
  have routed : ∀ (current : World) (zoneId : Nat),
      (if id.category = .eUser then current.setRoutingZoneId id.databaseId zoneId
        else current).scene = current.scene := by
    intro current zoneId
    split
    · exact scene_setRoutingZoneId
    · rfl
  unfold updatePosition
  split
  · exact ⟨rfl, rfl⟩
  · split
    · exact ⟨rfl, rfl⟩
    · next placed moved =>
      have frame := updateObjectSectorAndPosition_frame moved
      have state : placed.scene.state = world.scene.state :=
        funext (sessionState_of_sessions frame.1)
      dsimp only
      rw [routed]
      split
      · rw [scene_updateObjectZone]
        exact ⟨state, shownWeapon_congr frame.2⟩
      · exact ⟨state, shownWeapon_congr frame.2⟩

theorem removeObject_state (world : World) {id : ObjID} {transform : Transform} :
    (world.removeObject zone id transform).scene.state = world.scene.state :=
  funext (sessionState_of_sessions (removeObject_removed zone id transform world).sessions)

theorem removeObject_shown (world : World) {id : ObjID} {transform : Transform} :
    (world.removeObject zone id transform).scene.shown = world.scene.shown :=
  shownWeapon_congr (removeObject_removed zone id transform world).outbox

end World

namespace Scene

open World

/-- What holds so far while a task changes `own`. -/
theorem Laid.recast (laid : world.scene.Laid zone) (found : world.scene.figure own = some figure) :
    Recast zone own (some figure) world.scene world.scene where
  figure session := by
    split
    · next same => exact same ▸ found
    · rfl
  stands _ _ := rfl
  placed otherZone sector := by
    rw [laid.stands own otherZone sector, found]
  state _ _ := rfl

namespace Recast

variable {start : Scene} {new : Option Figure}

/-- A figure stands in the cell of its transform. -/
theorem tracked (recast : Recast zone own (some figure) start world.scene) :
    Tracked zone (ObjID.user own) figure.transform world := by
  intro otherZone sector
  refine (recast.placed otherZone sector).trans ?_
  simp only [Option.some.injEq, exists_eq_left']

theorem post (recast : Recast zone own new start after.scene) (packets : List (Nat × ServerPacket)) :
    Recast zone own new start (after.post packets).scene :=
  ⟨recast.figure, recast.stands, recast.placed, recast.state⟩

/-- Changing the user in place, but for its sector. -/
theorem modify (recast : Recast zone own (some figure) start world.scene)
    {change : Subject → Subject}
    (changes : ∀ subject, world.objects (ObjID.user own) = some subject →
      (change subject).figure = some changed)
    (sector : changed.transform.sector = figure.transform.sector) :
    Recast zone own (some changed) start (world.modify (ObjID.user own) change).scene where
  figure session := by
    have earlier := recast.figure session
    simp only [scene, World.modify, Function.update_apply, ObjID.user_inj] at earlier ⊢
    split
    · obtain ⟨client, user, playing, _⟩ := figure_eq_some.mp recast.self
      have registered := (getUser_eq_some.mp playing).1
      rw [registered, Option.map_some, Option.bind_some, changes client registered]
    · next other =>
      rw [if_neg other] at earlier
      exact earlier
  stands := recast.stands
  placed otherZone sector' := by
    refine (recast.placed otherZone sector').trans ?_
    simp only [Option.some.injEq, exists_eq_left', sector]
  state := recast.state

theorem modifyUser (found : world.getUser (ObjID.user own) = some (player, user))
    (recast : Recast zone own (some ⟨player.transform, user.stat.dead, user.inventory.slots⟩) start
      world.scene) (change : User → User) :
    Recast zone own (some ⟨player.transform, (change user).stat.dead,
        (change user).inventory.slots⟩)
      start (world.modifyUser (ObjID.user own) change).scene := by
  apply recast.modify
  · intro subject registered
    obtain ⟨here, bodyOf⟩ := getUser_eq_some.mp found
    obtain rfl := Option.some.inj (here.symm.trans registered)
    simp only [bodyOf, Subject.figure]
  · rfl

theorem modifyTransform (recast : Recast zone own (some figure) start world.scene)
    (change : Transform → Transform)
    (sector : (change figure.transform).sector = figure.transform.sector) :
    Recast zone own (some { figure with transform := change figure.transform })
      start (world.modifyTransform (ObjID.user own) change).scene := by
  apply recast.modify
  · intro subject registered
    obtain ⟨client, user, playing, rfl⟩ := figure_eq_some.mp recast.self
    obtain ⟨here, bodyOf⟩ := getUser_eq_some.mp playing
    obtain rfl := Option.some.inj (here.symm.trans registered)
    simp only [bodyOf, Subject.figure]
  · exact sector

/-- `UpdatePosition` inside the zone. -/
theorem updatePosition (valid : isValidZoneId zone = true)
    (found : world.getUser (ObjID.user own) = some (player, user))
    (recast : Recast zone own (some ⟨player.transform, user.stat.dead, user.inventory.slots⟩) start
      world.scene) {x y : Int} (inZone : getZoneIdByWorld x y = zone) :
    Recast zone own (some ⟨(player.placedAt zone x y).transform, user.stat.dead,
        user.inventory.slots⟩)
      start (world.updatePosition zone (ObjID.user own) x y).scene := by
  obtain ⟨registered, bodyOf⟩ := getUser_eq_some.mp found
  have settled := updatePosition_settled valid registered inZone
  constructor
  case figure =>
    intro session
    have earlier := recast.figure session
    simp only [scene, settled.objects, Function.update_apply, ObjID.user_inj] at earlier ⊢
    split
    · simp [Subject.figure, Subject.placedAt, bodyOf]
    · next other =>
      rw [if_neg other] at earlier
      exact earlier
  case stands =>
    intro session other
    rw [← recast.stands session other]
    funext otherZone sector
    exact propext (settled.others _ (fun same => other (ObjID.user_inj.mp same)) otherZone sector)
  case placed =>
    intro otherZone sector
    refine (settled.own recast.tracked otherZone sector).trans ?_
    simp only [Option.some.injEq, exists_eq_left', Subject.placedAt]
    constructor
    · rintro ⟨rfl, rfl⟩
      exact ⟨rfl, rfl, isValidSector_of_zone valid inZone⟩
    · exact fun placed => ⟨placed.1, placed.2.1⟩
  case state =>
    intro session other
    rw [← recast.state session other]
    exact congrFun updatePosition_frame.1 session

/-- `UpdateObjectSectorAndPosition` by itself. -/
theorem settle (found : world.getUser (ObjID.user own) = some (player, user))
    (recast : Recast zone own (some ⟨player.transform, user.stat.dead, user.inventory.slots⟩) start
      world.scene) {x y : Int}
    (moved : world.updateObjectSectorAndPosition zone (ObjID.user own) player.transform x y =
      some after) :
    Sector.isValidSector zone (Sector.getSectorCoord x y) = true ∧
      Recast zone own (some ⟨{ player.transform with
          sector := Sector.getSectorCoord x y, x := x, y := y }, user.stat.dead,
          user.inventory.slots⟩)
        start after.scene := by
  obtain ⟨registered, bodyOf⟩ := getUser_eq_some.mp found
  have frame := updateObjectSectorAndPosition_frame moved
  simp only [updateObjectSectorAndPosition] at moved
  split at moved
  · next inside =>
    rw [← Option.some.inj moved] at frame ⊢
    refine ⟨inside, ?_⟩
    constructor
    case figure =>
      intro session
      have earlier := recast.figure session
      simp only [scene, World.modifyTransform, World.modify, modifyCell, apply_ite World.objects,
        ite_self, Function.update_apply, ObjID.user_inj] at earlier ⊢
      split
      · simp [Subject.figure, registered, bodyOf]
      · next other =>
        rw [if_neg other] at earlier
        exact earlier
    case stands =>
      intro session other
      rw [← recast.stands session other]
      funext otherZone sector
      have different : ObjID.user session ≠ ObjID.user own := fun same =>
        other (ObjID.user_inj.mp same)
      exact propext (mem_moved_others different player.transform _ world otherZone sector)
    case placed =>
      intro otherZone sector
      refine (mem_moved_own recast.tracked inside otherZone sector).trans ?_
      simp only [Option.some.injEq, exists_eq_left']
      constructor
      · rintro ⟨rfl, rfl⟩
        exact ⟨rfl, rfl, inside⟩
      · exact fun placed => ⟨placed.1, placed.2.1⟩
    case state =>
      intro session other
      rw [← recast.state session other]
      exact sessionState_of_sessions frame.1 session
  · contradiction

/-- `Sector::RemoveObject` of a user of the zone. -/
theorem removeObject (valid : isValidZoneId zone = true)
    (recast : Recast zone own (some figure) start world.scene) (located : figure.Located zone) :
    Recast zone own (some { figure with transform := { figure.transform with sector := {} } })
      start (world.removeObject zone (ObjID.user own) figure.transform).scene := by
  have removal := removeObject_removed zone (ObjID.user own) figure.transform world
  obtain ⟨client, user, playing, rfl⟩ := figure_eq_some.mp recast.self
  obtain ⟨registered, bodyOf⟩ := getUser_eq_some.mp playing
  constructor
  case figure =>
    intro session
    have earlier := recast.figure session
    simp only [scene, removal.objects, ObjID.user_inj] at earlier ⊢
    by_cases same : session = own
    · subst same
      rw [if_pos rfl, registered]
      split
      · simp [Subject.figure, Subject.unplaced, bodyOf]
      · next outside =>
        rw [Option.bind_some, Subject.figure, bodyOf]
        rcases located with ⟨inside, _⟩ | ⟨unassigned, _⟩
        · exact absurd ⟨rfl, inside⟩ outside
        · dsimp only at unassigned ⊢
          rw [← unassigned]
    · rw [if_neg same] at earlier
      rw [if_neg fun both => same both.1, if_neg same]
      exact earlier
  case stands =>
    intro session other
    rw [← recast.stands session other]
    funext otherZone sector
    exact propext (removal.others _ (fun same => other (ObjID.user_inj.mp same)) otherZone sector)
  case placed =>
    intro otherZone sector
    refine iff_of_false (removal.own recast.tracked otherZone sector) ?_
    rintro ⟨_, ⟨⟩, _, rfl, inside⟩
    rw [isValidSector_unassigned valid] at inside
    contradiction
  case state =>
    intro session other
    rw [← recast.state session other]
    exact sessionState_of_sessions removal.sessions session

/-- The scene stays laid if the user is where it belongs and keeps its
inventory and its session. -/
theorem laid_of_state (recast : Recast zone own (some changed) before.scene after.scene)
    (laid : before.scene.Laid zone) (found : before.scene.figure own = some figure)
    (state : after.scene.state = before.scene.state) (located : changed.Located zone)
    (slots : changed.slots = figure.slots) : after.scene.Laid zone := by
  apply recast.laid laid
  rintro _ ⟨⟩
  refine ⟨located, ?_, ?_⟩
  · rw [state]
    exact laid.ingame own figure found
  · rw [Figure.Armed, slots]
    exact laid.armed own figure found

/-- A user that leaves the grid and stays in the game. -/
theorem staged_of_gone (recast : Recast zone own (some changed) before.scene after.scene)
    (valid : isValidZoneId zone = true) (staged : before.scene.Staged zone)
    (found : before.scene.figure own = some figure) (state : after.scene.state = before.scene.state)
    (sector : changed.transform.sector = {})
    (away : changed.dead = true ∨ changed.transform.transferring = true)
    (slots : changed.slots = figure.slots)
    (between : ∀ viewer target, viewer ≠ own → target ≠ own →
      after.scene.shown viewer target = before.scene.shown viewer target) :
    after.scene.Staged zone where
  laid := recast.laid_of_state staged.laid found state
    (.inr ⟨sector, away.imp_right Or.inl⟩) slots
  dressed := by
    apply recast.dressed_of_gone valid staged.dressed _ between
    rintro _ ⟨⟩
    exact sector

end Recast

end Scene

namespace World

open Scene

/-! ## Walking -/

theorem Laid.post (laid : world.scene.Laid zone) (packets : List (Nat × ServerPacket)) :
    (world.post packets).scene.Laid zone :=
  ⟨laid.stands, laid.located, laid.ingame, laid.armed⟩

/-- Users in view of each other show each other's weapons. -/
theorem shown_of_collected (staged : world.scene.Staged zone) {viewer target : Nat}
    (member : ObjID.user target ∈ world.collectSubjects zone choice (ObjID.user viewer))
    (found : world.scene.figure target = some figure) :
    world.shownWeapon viewer target = some figure.slots.weapon := by
  obtain ⟨different, seer, viewed, viewing, seen, near⟩ :=
    (mem_collectSubjects_of_laid staged.laid choice viewer target).mp member
  obtain rfl := Option.some.inj (found.symm.trans seen)
  exact staged.dressed viewer target seer figure different viewing found near

/-- Two users see each other or neither sees the other. -/
theorem collected_symm (laid : world.scene.Laid zone) {viewer target : Nat}
    (member : ObjID.user target ∈ world.collectSubjects zone choice (ObjID.user viewer)) :
    ObjID.user viewer ∈ world.collectSubjects zone choice (ObjID.user target) := by
  obtain ⟨different, seer, viewed, viewing, seen, near⟩ :=
    (mem_collectSubjects_of_laid laid choice viewer target).mp member
  exact (mem_collectSubjects_of_laid laid choice target viewer).mpr
    ⟨Ne.symm different, viewed, seer, seen, viewing, near.symm⟩

theorem isSome_objects_of_figure {session : Nat} (found : world.scene.figure session = some figure) :
    (world.objects (ObjID.user session)).isSome = true := by
  obtain ⟨client, user, playing, _⟩ := figure_eq_some.mp found
  rw [(getUser_eq_some.mp playing).1]
  rfl

/-- Who is told of a player that comes into view. -/
theorem mem_seenPackets_iff {playerId id : ObjID} {oldVisible : List ObjID}
    {entry : Nat × ServerPacket} :
    entry ∈ world.seenPackets choice playerId player oldVisible id ↔
      ∃ object, world.objects id = some object ∧
        (id ∉ oldVisible ∧ entry = (playerId.databaseId, addPacket choice.slots id object) ∨
          id.category = .eUser ∧ entry = (id.databaseId,
            if id ∉ oldVisible then addPacket choice.slots playerId player
            else movePacket playerId player)) := by
  unfold seenPackets
  cases world.objects id with
  | none => simp
  | some object => by_cases known : id ∈ oldVisible <;> by_cases isUser : id.category = .eUser <;>
      simp [known, isUser]

/-- Who is told of a player that leaves the view. -/
theorem mem_leftPackets_iff {playerId id : ObjID} {entry : Nat × ServerPacket} :
    entry ∈ world.leftPackets playerId id ↔
      entry = (playerId.databaseId, .subjectRemoveNfy id) ∨
        id.category = .eUser ∧ (world.getUser id).isSome = true ∧
          entry = (id.databaseId, .subjectRemoveNfy playerId) := by
  unfold leftPackets
  by_cases isUser : id.category = .eUser ∧ (world.getUser id).isSome = true
  · simp [isUser]
  · rw [if_neg isUser, List.mem_singleton]
    constructor
    · exact .inl
    · rintro (same | ⟨user, registered, _⟩)
      · exact same
      · exact absurd ⟨user, registered⟩ isUser

/-- The packets of `HandlePlayerMove` after the step itself. -/
def stepPackets (choice : Choice grid) (playerId : ObjID) (player : Subject)
    (oldVisible newVisible : List ObjID) (world : World) : List (Nat × ServerPacket) :=
  newVisible.flatMap (world.seenPackets choice playerId player oldVisible) ++
    (oldVisible.filter fun id => id ∉ newVisible).flatMap (world.leftPackets playerId)

section Step

variable {oldVisible newVisible : List ObjID} {viewer target : Nat} {packet : ServerPacket}

/-- To the other clients a step tells about the walker only. -/
theorem mem_stepPackets_of_other (other : viewer ≠ own)
    (member : (viewer, packet) ∈
      world.stepPackets choice (ObjID.user own) player oldVisible newVisible) :
    packet = movePacket (ObjID.user own) player ∨
      packet = addPacket choice.slots (ObjID.user own) player ∨
        packet = .subjectRemoveNfy (ObjID.user own) ∧ ObjID.user viewer ∉ newVisible := by
  rcases List.mem_append.mp member with seen | lost
  · obtain ⟨id, _, among⟩ := List.mem_flatMap.mp seen
    obtain ⟨object, _, ⟨_, same⟩ | ⟨_, same⟩⟩ := mem_seenPackets_iff.mp among
    · exact absurd (congrArg Prod.fst same) other
    · obtain ⟨_, rfl⟩ := Prod.mk.inj same
      split
      · exact .inr (.inl rfl)
      · exact .inl rfl
  · obtain ⟨id, left, among⟩ := List.mem_flatMap.mp lost
    rcases mem_leftPackets_iff.mp among with same | ⟨isUser, _, same⟩
    · exact absurd (congrArg Prod.fst same) other
    · obtain ⟨rfl, rfl⟩ := Prod.mk.inj same
      rw [user_of_category isUser] at left
      exact .inr (.inr ⟨rfl, of_decide_eq_true (List.mem_filter.mp left).2⟩)

/-- The walker's own client is told about new and lost objects. -/
theorem mem_stepPackets_own
    (member : (own, packet) ∈
      world.stepPackets choice (ObjID.user own) player oldVisible newVisible) :
    packet.bearer = none ∨ packet.bearer = some (ObjID.user own) ∨
      (∃ id object, world.objects id = some object ∧ packet = addPacket choice.slots id object) ∨
        ∃ id, id ∉ newVisible ∧ packet = .subjectRemoveNfy id := by
  rcases List.mem_append.mp member with seen | lost
  · obtain ⟨id, _, among⟩ := List.mem_flatMap.mp seen
    obtain ⟨object, registered, ⟨_, same⟩ | ⟨_, same⟩⟩ := mem_seenPackets_iff.mp among
    · exact .inr (.inr (.inl ⟨id, object, registered, congrArg Prod.snd same⟩))
    · obtain ⟨_, rfl⟩ := Prod.mk.inj same
      split
      · exact .inr (.inl (bearer_addPacket _ _ _))
      · exact .inl rfl
  · obtain ⟨id, left, among⟩ := List.mem_flatMap.mp lost
    rcases mem_leftPackets_iff.mp among with same | ⟨_, _, same⟩
    · exact .inr (.inr (.inr ⟨id, of_decide_eq_true (List.mem_filter.mp left).2,
        congrArg Prod.snd same⟩))
    · exact .inr (.inl (congrArg (ServerPacket.bearer ∘ Prod.snd) same))

/-- A step of one user changes nothing between two others. -/
theorem shown_between_step (other : viewer ≠ own) (foreign : target ≠ own) :
    (world.post (world.stepPackets choice (ObjID.user own) player oldVisible
      newVisible)).shownWeapon viewer target = world.shownWeapon viewer target := by
  have different : some (ObjID.user own) ≠ some (ObjID.user target) := fun same =>
    foreign (ObjID.user_inj.mp (Option.some.inj same)).symm
  apply shownWeapon_post_other
  intro packet member
  rcases mem_stepPackets_of_other other member with rfl | rfl | ⟨rfl, _⟩
  · exact (Option.some_ne_none _).symm
  · rw [bearer_addPacket]
    exact different
  · exact different

/-- Whoever sees the walker now knows its weapon. -/
theorem shown_after_step_seen (other : viewer ≠ own) (drawn : player.figure = some figure)
    (armed : figure.Armed) (inView : ObjID.user viewer ∈ newVisible)
    (registered : (world.objects (ObjID.user viewer)).isSome)
    (known : ObjID.user viewer ∈ oldVisible →
      world.shownWeapon viewer own = some figure.slots.weapon) :
    (world.post (world.stepPackets choice (ObjID.user own) player oldVisible
      newVisible)).shownWeapon viewer own = some figure.slots.weapon := by
  have names : ∀ packet, (viewer, packet) ∈ world.stepPackets choice (ObjID.user own) player
      oldVisible newVisible → Names own figure.slots.weapon packet := by
    intro packet member
    rcases mem_stepPackets_of_other other member with rfl | rfl | ⟨_, outOfView⟩
    · exact .inl (Option.some_ne_none _).symm
    · exact .inr (weaponAfter_addPacket drawn armed choice.slots)
    · exact absurd inView outOfView
  by_cases before : ObjID.user viewer ∈ oldVisible
  · exact shownWeapon_post_named names (known before)
  · obtain ⟨object, found⟩ := Option.isSome_iff_exists.mp registered
    refine shownWeapon_post_told names ⟨_, ?_, bearer_addPacket choice.slots _ player⟩
    refine List.mem_append_left _ (List.mem_flatMap.mpr ⟨_, inView, ?_⟩)
    refine mem_seenPackets_iff.mpr ⟨object, found, .inr ⟨rfl, ?_⟩⟩
    rw [if_pos before]
    rfl

/-- The walker knows the weapon of whoever it sees now. -/
theorem shown_after_step_sees (foreign : target ≠ own)
    (found : world.scene.figure target = some figure) (armed : figure.Armed)
    (inView : ObjID.user target ∈ newVisible)
    (known : ObjID.user target ∈ oldVisible →
      world.shownWeapon own target = some figure.slots.weapon) :
    (world.post (world.stepPackets choice (ObjID.user own) player oldVisible
      newVisible)).shownWeapon own target = some figure.slots.weapon := by
  have names : ∀ packet, (own, packet) ∈ world.stepPackets choice (ObjID.user own) player
      oldVisible newVisible → Names target figure.slots.weapon packet := by
    intro packet member
    rcases mem_stepPackets_own member with nobody | self | ⟨id, object, registered, rfl⟩ |
      ⟨id, outOfView, rfl⟩
    · exact .inl (by rw [nobody]; exact (Option.some_ne_none _).symm)
    · left
      rw [self]
      exact fun same => foreign (ObjID.user_inj.mp (Option.some.inj same)).symm
    · exact names_addPacket registered found armed choice.slots
    · left
      rintro ⟨⟩
      exact outOfView inView
  by_cases before : ObjID.user target ∈ oldVisible
  · exact shownWeapon_post_named names (known before)
  · obtain ⟨client, user, playing, rfl⟩ := figure_eq_some.mp found
    have registered := (getUser_eq_some.mp playing).1
    refine shownWeapon_post_told names ⟨_, ?_, bearer_addPacket choice.slots _ client⟩
    refine List.mem_append_left _ (List.mem_flatMap.mpr ⟨_, inView, ?_⟩)
    exact mem_seenPackets_iff.mpr ⟨client, registered, .inl ⟨before, rfl⟩⟩

end Step

/-- A user that was placed stands in its zone. -/
theorem located_placedAt (valid : isValidZoneId zone = true) {x y : Int}
    (inZone : getZoneIdByWorld x y = zone) (dead : Bool) (slots : Slots) :
    Figure.Located zone ⟨(player.placedAt zone x y).transform, dead, slots⟩ :=
  .inl ⟨isValidSector_of_zone valid inZone, rfl⟩

theorem updatePosition_getUser (valid : isValidZoneId zone = true)
    (found : world.getUser (ObjID.user own) = some (player, user)) {x y : Int}
    (inZone : getZoneIdByWorld x y = zone) :
    (world.updatePosition zone (ObjID.user own) x y).getUser (ObjID.user own) =
      some (player.placedAt zone x y, user) := by
  obtain ⟨registered, bodyOf⟩ := getUser_eq_some.mp found
  have settled := updatePosition_settled valid registered inZone
  rw [getUser_eq_some, settled.objects, Function.update_self]
  exact ⟨rfl, bodyOf⟩

/-- After a step inside the zone, everybody around and the walker itself know
each other's weapons. -/
theorem walk_staged (valid : isValidZoneId zone = true) (staged : world.scene.Staged zone)
    (found : world.getUser (ObjID.user own) = some (player, user))
    (alive : user.stat.dead = false) (settled : player.transform.transferring = false) {x y : Int} :
    (world.walk zone choice (ObjID.user own) player x y).scene.Staged zone := by
  have figured := figure_of_getUser found
  have armed := staged.laid.armed own _ figured
  unfold walk
  dsimp only
  by_cases inZone : getZoneIdByWorld x y = zone
  · have recast := (Laid.recast staged.laid figured).updatePosition valid found inZone
    have ingame := staged.laid.ingame own _ figured
    rw [← congrFun updatePosition_frame.1 own] at ingame
    have laid := recast.laid staged.laid fun changed same =>
      Option.some.inj same ▸ ⟨located_placedAt valid inZone _ _, ingame, armed⟩
    have shown : ∀ viewer target, (world.updatePosition zone (ObjID.user own) x y).shownWeapon
        viewer target = world.shownWeapon viewer target := fun viewer target =>
      congrFun (congrFun updatePosition_frame.2 viewer) target
    rw [updatePosition_getUser valid found inZone]
    dsimp only
    have echoed : ((world.updatePosition zone (ObjID.user own) x y).send (ObjID.user own)
        (movePacket (ObjID.user own) (player.placedAt zone x y))).scene =
          (world.updatePosition zone (ObjID.user own) x y).scene :=
      scene_send (unworn_of_bearer rfl)
    split
    · next still =>
      rw [echoed]
      refine ⟨laid, recast.dressed_of_quiet staged.dressed figured rfl ?_ updatePosition_frame.2⟩
      intro place near
      apply near.move _ still.1 still.2
      rcases staged.laid.located own _ figured with ⟨_, sector⟩ | ⟨_, dead | moving | ⟨low, _⟩⟩
      · exact sector.trans (congrArg₂ Sector.getSectorCoord still.1 still.2)
      · exact absurd alive (by simpa using dead)
      · exact absurd settled (by simpa using moving)
      · have inside := (isValidWorldPosition_iff x y).mp (getSectorCoord_of_zone valid inZone).1
        have same : player.transform.x = x := still.1
        dsimp only at low
        omega
    · have laidE := echoed.symm ▸ laid
      have recastE := echoed.symm ▸ recast
      have drawn := (figure_objects (updatePosition_getUser valid found inZone)).2
      rw [scene_wakeUpMonsters]
      refine ⟨Laid.post laidE _, (Recast.post recastE _).dressed staged.dressed ?_ ?_ ?_⟩
      · intro viewer target other foreign
        refine (shown_between_step other foreign).trans ?_
        exact (congrFun (congrFun (congrArg Scene.shown echoed) viewer) target).trans
          (shown viewer target)
      · rintro viewer seer figure other viewing ⟨⟩ near
        apply shown_after_step_seen other drawn armed
        · exact (mem_collectSubjects_of_laid laidE choice own viewer).mpr
            ⟨Ne.symm other, _, seer, recastE.self, (recastE.other other).trans viewing, near.symm⟩
        · exact isSome_objects_of_figure ((recastE.other other).trans viewing)
        · intro before
          refine ((congrFun (congrFun (congrArg Scene.shown echoed) viewer) own).trans
            (shown viewer own)).trans ?_
          have known := shown_of_collected staged (collected_symm staged.laid before) figured
          exact known
      · rintro target seer figure foreign viewed ⟨⟩ near
        have seen := (recastE.other foreign).trans viewed
        apply shown_after_step_sees foreign seen (laidE.armed target figure seen)
        · exact (mem_collectSubjects_of_laid laidE choice own target).mpr
            ⟨Ne.symm foreign, _, figure, recastE.self, seen, near⟩
        · intro before
          refine ((congrFun (congrFun (congrArg Scene.shown echoed) own) target).trans
            (shown own target)).trans ?_
          exact shown_of_collected staged before viewed
  · rw [updatePosition_outside valid inZone, found]
    dsimp only
    rw [if_pos ⟨rfl, rfl⟩, scene_send (unworn_of_bearer rfl)]
    exact staged

/-! ## Leaving for another zone -/

/-- To the other clients a player that leaves tells no more than that. -/
theorem mem_leftPackets_of_other {id : ObjID} {viewer : Nat} {packet : ServerPacket}
    (other : viewer ≠ own)
    (member : (viewer, packet) ∈ world.leftPackets (ObjID.user own) id) :
    packet = .subjectRemoveNfy (ObjID.user own) := by
  rcases mem_leftPackets_iff.mp member with same | ⟨_, _, same⟩
  · exact absurd (congrArg Prod.fst same) other
  · exact congrArg Prod.snd same

/-- Nobody has somebody on the way to another zone in view. -/
theorem transfer_staged (valid : isValidZoneId zone = true) (staged : world.scene.Staged zone)
    (found : world.getUser (ObjID.user own) = some (player, user)) {x y : Int} {newZoneId : Nat} :
    (world.handleZoneTransfer zone choice (ObjID.user own) player x y newZoneId).scene.Staged
      zone := by
  have figured := figure_of_getUser found
  have marked := (staged.laid.recast figured).modifyTransform
    (fun current => { current with transferring := true }) rfl
  have moving : Figure.Located zone
      ⟨{ player.transform with transferring := true }, user.stat.dead, user.inventory.slots⟩ := by
    rcases staged.laid.located own _ figured with inside | ⟨outside, _⟩
    · exact .inl inside
    · exact .inr ⟨outside, .inr (.inl rfl)⟩
  have placed := (marked.removeObject valid moving).modifyTransform
    (fun current => { current with x := x, y := y }) rfl
  unfold handleZoneTransfer
  dsimp only
  rw [scene_enqueueByZone, scene_setRoutingZoneId, scene_updateObjectZone]
  refine Recast.staged_of_gone ((placed.post _).modifyTransform _ rfl) valid staged figured ?_ rfl
    (.inr rfl) rfl ?_
  · exact removeObject_state (world.modifyTransform _ _)
  · intro viewer target other foreign
    refine (shownWeapon_post_other ?_).trans ?_
    · intro packet member
      rcases List.mem_cons.mp member with same | left
      · exact absurd (congrArg Prod.fst same) other
      · obtain ⟨id, _, among⟩ := List.mem_flatMap.mp left
        rw [mem_leftPackets_of_other other among]
        exact fun same => foreign (ObjID.user_inj.mp (Option.some.inj same)).symm
    · exact congrFun (congrFun (removeObject_shown (world.modifyTransform _ _)) viewer)
        target

/-- A move inside the zone or out of it keeps the scene. -/
theorem handlePlayerMove_staged (valid : isValidZoneId zone = true)
    (staged : world.scene.Staged zone) (found : world.scene.figure own = some figure)
    (alive : figure.dead = false) (settled : figure.transform.transferring = false) {x y : Int} :
    (world.handlePlayerMove zone choice (ObjID.user own) x y).scene.Staged zone := by
  obtain ⟨player, user, playing, rfl⟩ := figure_eq_some.mp found
  rw [handlePlayerMove, playing]
  dsimp only
  split
  · exact transfer_staged valid staged playing
  · exact walk_staged valid staged playing alive settled

end World

end Mmorpg
