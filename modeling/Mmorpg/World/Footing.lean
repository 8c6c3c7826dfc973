import Mmorpg.World.Contact

/-!
# Where users and monsters stand

`Treads` relates the worlds before and after some code: whoever is no item
stands on a clear tile or where it stood before, and every newly queued entry
into a zone leads to a clear tile.
-/

namespace Mmorpg

open ZoneLayout

variable {grid : CollisionGrid}

/-- The tile is inside the world and free of obstacles. -/
def Clear (grid : CollisionGrid) (tile : Int × Int) : Prop :=
  isCollision grid tile.1 tile.2 = false

variable {position : Int × Int}

theorem Clear.inside (clear : Clear grid position) :
    0 ≤ position.1 ∧ position.1 < wWidth ∧ 0 ≤ position.2 ∧ position.2 < wHeight := by
  unfold Clear isCollision at clear
  split at clear
  · contradiction
  · omega

theorem Clear.isValidWorldPosition (clear : Clear grid position) :
    isValidWorldPosition position.1 position.2 = true := by
  have inside := clear.inside
  rw [isValidWorldPosition_iff]
  exact ⟨inside.1, inside.2.1, inside.2.2.1, inside.2.2.2⟩

/-- Where `IsStandable` says yes, one can stand. -/
theorem isStandable_iff {x y : Int} : World.isStandable grid x y = true ↔ Clear grid (x, y) := by
  rw [World.isStandable, decide_eq_true_iff, Bool.not_eq_true]
  constructor
  · exact And.right
  · exact fun clear => ⟨clear.isValidWorldPosition, clear⟩

theorem isValidZoneId_of_clear (clear : Clear grid position) :
    isValidZoneId (getZoneIdByWorld position.1 position.2) = true := by
  have inside := clear.isValidWorldPosition
  have bounds := (isValidWorldPosition_iff _ _).mp inside
  rw [getZoneIdByWorld_eq, if_pos inside, isValidZoneId_iff]
  omega

/-! ## Steps -/

namespace SubjectHelper

theorem stepY_clear (delta : Int) (clear : Clear grid position) :
    Clear grid (stepY grid delta position) := by
  unfold stepY
  split
  · exact clear
  · next free => exact Bool.eq_false_of_not_eq_true free

/-- A step to the left or right ends on a free tile. -/
theorem stepX_clear (delta : Int) (clear : Clear grid position) :
    Clear grid (stepX grid delta position) := by
  unfold stepX
  split
  · exact clear
  · next free => exact Bool.eq_false_of_not_eq_true free

theorem up_clear (clear : Clear grid position) : Clear grid (up grid position) := by
  unfold up
  split
  · exact stepY_clear (-1) clear
  · exact clear

theorem down_clear (clear : Clear grid position) : Clear grid (down grid position) := by
  unfold down
  split
  · exact stepY_clear 1 clear
  · exact clear

theorem left_clear (clear : Clear grid position) : Clear grid (left grid position) := by
  unfold left
  split
  · exact stepX_clear (-1) clear
  · exact clear

theorem right_clear (clear : Clear grid position) : Clear grid (right grid position) := by
  unfold right
  split
  · exact stepX_clear 1 clear
  · exact clear

/-- From a clear tile every direction leads to a clear tile. -/
theorem movePositionByDirection_clear (direction : Int) (clear : Clear grid position) :
    Clear grid (movePositionByDirection grid position direction) := by
  unfold movePositionByDirection
  split
  · exact up_clear clear
  · exact down_clear clear
  · exact left_clear clear
  · exact right_clear clear
  · exact left_clear (up_clear clear)
  · exact right_clear (up_clear clear)
  · exact left_clear (down_clear clear)
  · exact right_clear (down_clear clear)
  · exact clear

end SubjectHelper

namespace MonsterHelper

variable {goal next : Int × Int} {monster : Monster} {choice : Choice grid}

theorem clear_of_isWalkableStep (walkable : isWalkableStep grid position next = true) :
    Clear grid next := by
  rw [isWalkableStep, decide_eq_true_iff, Bool.not_eq_true] at walkable
  exact walkable.2

/-- The best neighbour of a free tile is free. -/
theorem bestNeighbor_clear (goal : Int × Int) (clear : Clear grid position) :
    Clear grid ((bestNeighbor grid position goal).1, (bestNeighbor grid position goal).2.1) := by
  unfold bestNeighbor
  dsimp only
  generalize [((0 : Int), (-1 : Int)), (0, 1), (-1, 0), (1, 0)] = directions
  have start : Clear grid ((position.1, position.2, manhattanDistance position goal).1,
      (position.1, position.2, manhattanDistance position goal).2.1) := clear
  generalize (position.1, position.2, manhattanDistance position goal) = best at start
  induction directions generalizing best with
  | nil => exact start
  | cons direction rest ih =>
      apply ih
      dsimp only
      split
      · exact start
      · next free =>
        split
        · exact start
        · exact Bool.eq_false_of_not_eq_true free

/-- Every way to choose a step towards a goal chooses a clear tile. -/
theorem stepTowardGoal_clear (clear : Clear grid position)
    (chosen : (stepTowardGoal choice position goal monster).1 = some next) : Clear grid next := by
  have cachedClear : ∀ tile, (cachedPathStep grid position goal monster).1 = some tile →
      Clear grid tile := by
    intro tile found
    unfold cachedPathStep at found
    split at found
    · split at found
      · contradiction
      · split at found
        · next walkable => exact Option.some.inj found ▸ clear_of_isWalkableStep walkable
        · contradiction
    · contradiction
  have directClear : ∀ current tile, (oneStepTowardGoal grid position goal current).1 = some tile →
      Clear grid tile := by
    intro current tile found
    unfold oneStepTowardGoal at found
    dsimp only at found
    split at found
    · contradiction
    · split at found
      · contradiction
      · exact Option.some.inj found ▸ bestNeighbor_clear goal clear
  have freshClear : ∀ current tile, (freshPathStep choice position goal current).1 = some tile →
      Clear grid tile := by
    intro current tile found
    unfold freshPathStep at found
    dsimp only at found
    split at found
    · contradiction
    · split at found
      · next walkable => exact Option.some.inj found ▸ clear_of_isWalkableStep walkable
      · contradiction
  unfold stepTowardGoal at chosen
  dsimp only at chosen
  split at chosen
  · exact cachedClear next chosen
  · split at chosen
    · exact directClear _ next chosen
    · exact freshClear _ next chosen

end MonsterHelper

/-! ## Tiles -/

/-- The tile of a user or a monster. -/
def Subject.tile (subject : Subject) : Option (Int × Int) :=
  match subject.body with
  | .item _ => none
  | _ => some (subject.x, subject.y)

/-- A task that a task may queue: an entry leads to a clear tile. -/
def Task.Sound (grid : CollisionGrid) : Task → Prop
  | enterZone _ x y => Clear grid (x, y)
  | getUserInfo .. => False
  | _ => True

namespace World

/-- The tile a registered subject stands on. -/
def tileOf (id : ObjID) (world : World) : Option (Int × Int) :=
  (world.objects id).bind Subject.tile

variable {zone : Nat} {choice : Choice grid} {id own : ObjID} {before middle world after : World}

/-- Users and monsters went to clear tiles or stayed, and so will those whose
entry was queued. -/
structure Treads (grid : CollisionGrid) (before after : World) : Prop where
  tiles : ∀ id tile, after.tileOf id = some tile → Clear grid tile ∨ before.tileOf id = some tile
  tasks : ∀ thread, ∀ task ∈ after.queues thread, task.Sound grid ∨ task ∈ before.queues thread

namespace Treads

theorem refl (world : World) : Treads grid world world where
  tiles _ _ found := .inr found
  tasks _ _ member := .inr member

/-- Everything but objects and queues may change. -/
theorem congr (treads : Treads grid before middle) (objects : after.objects = middle.objects)
    (queues : after.queues = middle.queues) : Treads grid before after where
  tiles id tile found := by
    rw [tileOf, objects] at found
    exact treads.tiles id tile found
  tasks thread task member := by
    rw [queues] at member
    exact treads.tasks thread task member

theorem post {packets : List (Nat × ServerPacket)} (treads : Treads grid before after) :
    Treads grid before (after.post packets) :=
  treads.congr rfl rfl

theorem scheduleAfter {delay : Nat} {event : TimerEventType} {targetId : ObjID}
    (treads : Treads grid before after) :
    Treads grid before (after.scheduleAfter zone id delay event targetId) :=
  treads.congr rfl rfl

/-- Filing an object of no tile or on a clear one, or dropping an object. -/
theorem update {object : Option Subject} (treads : Treads grid before after)
    (clear : ∀ tile, object.bind Subject.tile = some tile →
      Clear grid tile ∨ after.tileOf id = some tile) :
    Treads grid before { after with objects := Function.update after.objects id object } where
  tiles other tile found := by
    simp only [tileOf, Function.update_apply] at found
    split at found
    · next same =>
      subst same
      rcases clear tile found with ahead | stays
      · exact .inl ahead
      · exact treads.tiles other tile stays
    · exact treads.tiles other tile found
  tasks := treads.tasks

/-- A change that moves the object to a free tile, or not at all. -/
theorem modify {change : Subject → Subject} (treads : Treads grid before after)
    (clear : ∀ subject tile, after.objects id = some subject → (change subject).tile = some tile →
      Clear grid tile ∨ subject.tile = some tile) : Treads grid before (after.modify id change) := by
  apply treads.update
  intro tile found
  obtain ⟨changed, present, shown⟩ := Option.bind_eq_some_iff.mp found
  obtain ⟨subject, filed, rfl⟩ := Option.map_eq_some_iff.mp present
  rcases clear subject tile filed shown with ahead | stays
  · exact .inl ahead
  · exact .inr (by rw [tileOf, filed]; exact stays)

/-- Bodies change within their kind. -/
theorem modifyBody {change : Subject → Subject} (treads : Treads grid before after)
    (same : ∀ subject, (change subject).tile = subject.tile) :
    Treads grid before (after.modify id change) :=
  treads.modify fun subject _ _ found => .inr (same subject ▸ found)

theorem modifyMonster {change : Monster → Monster} (treads : Treads grid before after) :
    Treads grid before (after.modifyMonster id change) := by
  apply treads.modifyBody
  rintro ⟨name, transform, facing, body⟩
  cases body <;> rfl

theorem modifyUser {change : User → User} (treads : Treads grid before after) :
    Treads grid before (after.modifyUser id change) := by
  apply treads.modifyBody
  rintro ⟨name, transform, facing, body⟩
  cases body <;> rfl

theorem modifyItem {change : Item → Item} (treads : Treads grid before after) :
    Treads grid before (after.modifyItem id change) := by
  apply treads.modifyBody
  rintro ⟨name, transform, facing, body⟩
  cases body <;> rfl

theorem modifyTransform {change : Transform → Transform} (treads : Treads grid before after)
    (clear : ∀ transform, Clear grid ((change transform).x, (change transform).y) ∨
      (change transform).x = transform.x ∧ (change transform).y = transform.y) :
    Treads grid before (after.modifyTransform id change) := by
  apply treads.modify
  rintro ⟨name, transform, facing, body⟩ tile _ found
  rcases clear transform with ahead | ⟨sameX, sameY⟩
  · cases body with
    | item item => contradiction
    | user user => exact .inl (Option.some.inj found ▸ ahead)
    | monster monster => exact .inl (Option.some.inj found ▸ ahead)
  · right
    rw [← found]
    cases body with
    | item item => rfl
    | user user => simp [Subject.tile, Subject.x, Subject.y, sameX, sameY]
    | monster monster => simp [Subject.tile, Subject.x, Subject.y, sameX, sameY]

theorem modifyCell {sector : SectorCoord} {change : Cell → Cell}
    (treads : Treads grid before after) : Treads grid before (after.modifyCell zone sector change) :=
  treads.congr rfl rfl

/-- An entry that is queued leads to a free tile. -/
theorem enqueueByZone {zoneId : Nat} {task : Task} (treads : Treads grid before after)
    (sound : task.Sound grid) : Treads grid before (after.enqueueByZone zoneId task) where
  tiles := treads.tiles
  tasks thread other member := by
    simp only [World.enqueueByZone, Function.update_apply] at member
    split at member
    · next here =>
      rcases List.mem_append.mp member with old | new
      · exact treads.tasks thread other (here ▸ old)
      · exact .inl (List.mem_singleton.mp new ▸ sound)
    · exact treads.tasks thread other member

theorem removeObject {transform : Transform} (treads : Treads grid before after) :
    Treads grid before (after.removeObject zone id transform) := by
  unfold World.removeObject
  split
  · exact treads.modifyCell.modifyTransform fun _ => .inr ⟨rfl, rfl⟩
  · exact treads

theorem updateObjectSectorAndPosition {transform : Transform} {x y : Int} {placed : World}
    (treads : Treads grid before after) (clear : Clear grid (x, y))
    (moved : after.updateObjectSectorAndPosition zone id transform x y = some placed) :
    Treads grid before placed := by
  simp only [World.updateObjectSectorAndPosition] at moved
  split at moved
  · rw [← Option.some.inj moved]
    apply Treads.modifyTransform
    · split
      · apply modifyCell
        split
        · exact treads.modifyCell
        · exact treads
      · exact treads
    · exact fun _ => .inl clear
  · contradiction

theorem updateObjectZone {zoneId : Nat} (treads : Treads grid before after) :
    Treads grid before (after.updateObjectZone id zoneId) := by
  unfold World.updateObjectZone
  split
  · exact treads.congr rfl rfl
  · exact treads

theorem updatePosition {x y : Int} (treads : Treads grid before after)
    (clear : Clear grid (x, y)) : Treads grid before (after.updatePosition zone id x y) := by
  unfold World.updatePosition
  split
  · exact treads
  · split
    · exact treads
    · next placed moved =>
      have settled := treads.updateObjectSectorAndPosition clear moved
      have mapped : Treads grid before ((placed.modifyTransform id fun current =>
          { current with zoneId := getZoneIdByWorld x y }).updateObjectZone id
            (getZoneIdByWorld x y)) :=
        updateObjectZone (settled.modifyTransform fun _ => .inr ⟨rfl, rfl⟩)
      dsimp only
      split
      · split
        · exact mapped.congr rfl rfl
        · exact settled.congr rfl rfl
      · split
        · exact mapped
        · exact settled

theorem getRandomPosition (treads : Treads grid before after) (valid : isValidZoneId zone = true) :
    Treads grid before (after.getRandomPosition zone choice id) :=
  treads.updatePosition (choice.zoneDraw_free zone valid)

/-! ## Users -/

theorem wakeUpMonsters {ids : List ObjID} {wakerId : ObjID} {forceWake : Bool}
    (treads : Treads grid before after) :
    Treads grid before (after.wakeUpMonsters zone ids wakerId forceWake) := by
  unfold World.wakeUpMonsters
  generalize ids.filter (fun id => id.category = .eMonster) = monsters
  induction monsters generalizing after with
  | nil => exact treads
  | cons monsterId rest ih =>
      apply ih
      dsimp only
      rcases wakeUpMonster_cases zone monsterId wakerId forceWake after with
        same | ⟨_, _, _, _, _, _, woken⟩
      · rw [same]
        exact treads
      · rw [woken]
        exact treads.modifyMonster.scheduleAfter

theorem notifyPlayerEnteredWorld {playerId : ObjID} {isRespawn : Bool}
    (treads : Treads grid before after) :
    Treads grid before (after.notifyPlayerEnteredWorld zone choice playerId isRespawn) := by
  unfold World.notifyPlayerEnteredWorld
  split
  · exact treads
  · exact wakeUpMonsters treads.post

theorem walk {playerId : ObjID} {player : Subject} {x y : Int} (treads : Treads grid before after)
    (clear : Clear grid (x, y)) :
    Treads grid before (after.walk zone choice playerId player x y) := by
  have updated : Treads grid before (after.updatePosition zone playerId x y) :=
    treads.updatePosition clear
  unfold World.walk
  dsimp only
  split
  · exact updated
  · split
    · exact updated.post
    · exact wakeUpMonsters updated.post.post

theorem handleZoneTransfer {playerId : ObjID} {player : Subject} {x y : Int} {newZoneId : Nat}
    (treads : Treads grid before after) (clear : Clear grid (x, y)) :
    Treads grid before (after.handleZoneTransfer zone choice playerId player x y newZoneId) := by
  have marked : Treads grid before (after.modifyTransform playerId fun current =>
      { current with transferring := true }) := treads.modifyTransform fun _ => .inr ⟨rfl, rfl⟩
  have moved : Treads grid before (((after.modifyTransform playerId fun current =>
      { current with transferring := true }).removeObject zone playerId
        player.transform).modifyTransform playerId fun current =>
          { current with x := x, y := y }) :=
    marked.removeObject.modifyTransform fun _ => .inl clear
  have mapped : ∀ packets, Treads grid before ((((((after.modifyTransform playerId fun current =>
      { current with transferring := true }).removeObject zone playerId
        player.transform).modifyTransform playerId fun current =>
          { current with x := x, y := y }).post packets).modifyTransform playerId fun current =>
            { current with zoneId := newZoneId }).updateObjectZone playerId newZoneId) := fun _ =>
    updateObjectZone (Treads.modifyTransform moved.post fun _ => .inr ⟨rfl, rfl⟩)
  unfold World.handleZoneTransfer
  exact Treads.enqueueByZone ((mapped _).congr rfl rfl) clear

theorem handlePlayerMove {playerId : ObjID} {x y : Int} (treads : Treads grid before after)
    (clear : Clear grid (x, y)) :
    Treads grid before (after.handlePlayerMove zone choice playerId x y) := by
  unfold World.handlePlayerMove
  split
  · exact treads
  · dsimp only
    split
    · exact treads.handleZoneTransfer clear
    · exact treads.walk clear

theorem handleEnterZone {playerId : ObjID} {x y : Int} (treads : Treads grid before after)
    (valid : isValidZoneId zone = true) (clear : Clear grid (x, y)) :
    Treads grid before (after.handleEnterZone zone choice playerId x y) := by
  unfold World.handleEnterZone
  split
  · exact treads
  · dsimp only
    apply Treads.modifyTransform
    · apply notifyPlayerEnteredWorld
      split
      · next placed moved => exact treads.updateObjectSectorAndPosition clear moved
      · exact treads.getRandomPosition valid
    · exact fun _ => .inr ⟨rfl, rfl⟩

theorem handleUserRespawn {playerId : ObjID} (treads : Treads grid before after)
    (valid : isValidZoneId zone = true) :
    Treads grid before (after.handleUserRespawn zone choice playerId) := by
  unfold World.handleUserRespawn
  split
  · exact treads
  · have revived : Treads grid before ((after.getRandomPosition zone choice playerId).setStat
        playerId fun current => { current with dead := false, hp := playerMaxHp }) :=
      modifyUser (treads.getRandomPosition valid)
    dsimp only
    split
    · exact revived
    · apply scheduleAfter
      apply notifyPlayerEnteredWorld
      exact revived.post

theorem finishLogin {session : Nat} {withItems : Bool} (treads : Treads grid before after) :
    Treads grid before (after.finishLogin zone choice session withItems) := by
  unfold World.finishLogin
  dsimp only
  split
  · exact treads
  · apply notifyPlayerEnteredWorld
    split <;> exact treads.congr rfl rfl

/-- A published user is put on a tile of the zone at once. -/
theorem publishUser {session : Nat} {subject : Subject} {x y : Int}
    (valid : isValidZoneId zone = true) (inZone : getZoneIdByWorld x y = zone)
    (clear : Clear grid (x, y)) :
    Treads grid world
      ((world.publishUser session subject).updatePosition zone (ObjID.user session) x y) := by
  have filed : (world.publishUser session subject).objects (ObjID.user session) = some subject := by
    simp [World.publishUser, modifySession, insertObject]
  have settled := updatePosition_settled valid filed inZone
  have published : Treads grid world { world with
      objects := Function.update world.objects (ObjID.user session)
        (some (subject.placedAt zone x y)) } := by
    apply (refl world).update
    intro tile found
    left
    cases bodyOf : subject.body with
    | item item => simp [Subject.tile, Subject.placedAt, bodyOf] at found
    | user user =>
        simp only [Option.bind_some, Subject.tile, Subject.placedAt, bodyOf, Subject.x, Subject.y,
          Option.some.injEq] at found
        exact found ▸ clear
    | monster monster =>
        simp only [Option.bind_some, Subject.tile, Subject.placedAt, bodyOf, Subject.x, Subject.y,
          Option.some.injEq] at found
        exact found ▸ clear
  refine published.congr ?_ settled.queues
  rw [settled.objects]
  simp [World.publishUser, modifySession, insertObject]

end Treads

end World

end Mmorpg
