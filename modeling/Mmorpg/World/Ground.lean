import Mmorpg.World.Handover

/-!
# Users stand in their zones

The position of a user belongs to the zone its transform names, also while it
is between two zones: a transfer writes both, and the entry only settles what
was announced.
-/

namespace Mmorpg

open ZoneLayout Transition

variable {grid : CollisionGrid}

/-- The position is in the zone on record. -/
def Transform.Grounded (transform : Transform) : Prop :=
  isValidZoneId transform.zoneId = true →
    getZoneIdByWorld transform.x transform.y = transform.zoneId

/-- Where a user is. -/
def Core.userTransform : Core → Option Transform
  | user transform .. => some transform
  | _ => none

namespace World

/-- Where a user is. -/
def userTransform (id : ObjID) (world : World) : Option Transform :=
  (world.coreOf id).bind Core.userTransform

/-- Every user stands in the zone it belongs to. -/
def Grounded (world : World) : Prop :=
  ∀ id transform, world.userTransform id = some transform → transform.Grounded

variable {zone thread : Nat} {choice : Choice grid} {id : ObjID} {task : Task} {rest : List Task}
  {world before after : World}

theorem userTransform_eq_some {transform : Transform} :
    world.userTransform id = some transform ↔
      ∃ client user, world.getUser id = some (client, user) ∧ client.transform = transform := by
  simp only [userTransform, coreOf, Option.bind_eq_some_iff, Option.map_eq_some_iff, getUser_eq_some]
  constructor
  · rintro ⟨_, ⟨client, found, rfl⟩, same⟩
    cases bodyOf : client.body with
    | user user =>
      rw [Subject.core, bodyOf] at same
      exact ⟨client, user, ⟨found, bodyOf⟩, Option.some.inj same⟩
    | monster monster => simp [Subject.core, bodyOf, Core.userTransform] at same
    | item item => simp [Subject.core, bodyOf, Core.userTransform] at same
  · rintro ⟨client, user, ⟨found, bodyOf⟩, rfl⟩
    exact ⟨_, ⟨client, found, rfl⟩, by rw [Subject.core, bodyOf]; rfl⟩

theorem userTransform_of_core (core : after.coreOf id = before.coreOf id) :
    after.userTransform id = before.userTransform id := by
  rw [userTransform, userTransform, core]

/-! ## Changes that leave users where they are -/

theorem Grounded.congr (grounded : Grounded before) (objects : after.objects = before.objects) :
    Grounded after := by
  intro id transform stands
  rw [userTransform, coreOf, objects] at stands
  exact grounded id transform stands

theorem Aside.grounded (aside : Aside before after) (grounded : Grounded before) :
    Grounded after := by
  intro id transform stands
  rcases userTransform_eq_some.mp stands with ⟨client, user, present, rfl⟩
  have person := personOf_eq_some_iff.mpr ⟨client, user, present, rfl⟩
  rw [aside.persons] at person
  rcases personOf_eq_some_iff.mp person with ⟨old, oldUser, found, same⟩
  have transform : client.transform = old.transform := congrArg Person.transform same
  exact grounded id _ (userTransform_eq_some.mpr ⟨old, oldUser, found, transform.symm⟩)

theorem Quiet.grounded {allowed : ServerPacket → Prop} {actor : ObjID}
    (quiet : Quiet allowed zone actor before after) (grounded : Grounded before) :
    Grounded after :=
  quiet.aside.grounded grounded

/-- Only the object `id` has to be looked at. -/
theorem Apart.grounded (apart : Apart id before after) (grounded : Grounded before)
    (own : ∀ subject, after.objects id = some subject → subject.transform.Grounded) :
    Grounded after := by
  intro other transform stands
  by_cases same : other = id
  · rcases userTransform_eq_some.mp stands with ⟨client, user, present, rfl⟩
    exact own client (same ▸ (getUser_eq_some.mp present).1)
  · rw [userTransform_of_core (apart.core _ same)] at stands
    exact grounded other transform stands

theorem Grounded.modify {change : Subject → Subject} (grounded : Grounded world)
    (body : ∀ subject user, (change subject).body = .user user → ∃ old, subject.body = .user old)
    (position : ∀ subject, (change subject).x = subject.x ∧ (change subject).y = subject.y)
    (zoneId : ∀ subject, (change subject).transform.zoneId = subject.transform.zoneId) :
    Grounded (world.modify id change) := by
  intro other transform stands
  rcases userTransform_eq_some.mp stands with ⟨client, user, present, rfl⟩
  rw [getUser_eq_some] at present
  simp only [World.modify, Function.update_apply] at present
  split at present
  · next same =>
    rcases Option.map_eq_some_iff.mp present.1 with ⟨subject, registered, rfl⟩
    rcases body subject user present.2 with ⟨old, bodyOf⟩
    have stood := grounded id subject.transform
      (userTransform_eq_some.mpr ⟨subject, old, getUser_eq_some.mpr ⟨registered, bodyOf⟩, rfl⟩)
    have sameX : (change subject).transform.x = subject.transform.x := (position subject).1
    have sameY : (change subject).transform.y = subject.transform.y := (position subject).2
    rw [Transform.Grounded, sameX, sameY, zoneId]
    exact stood
  · exact grounded other _ (userTransform_eq_some.mpr
      ⟨client, user, getUser_eq_some.mpr present, rfl⟩)

/-- A change of a transform that keeps position and zone together. -/
theorem Grounded.modifyTransform {change : Transform → Transform} (grounded : Grounded world)
    (position : ∀ transform, (change transform).x = transform.x ∧
      (change transform).y = transform.y)
    (zoneId : ∀ transform, (change transform).zoneId = transform.zoneId) :
    Grounded (world.modifyTransform id change) :=
  grounded.modify (fun _ user bodyOf => ⟨user, bodyOf⟩) (fun subject => position subject.transform)
    fun subject => zoneId subject.transform

theorem Grounded.setStat {change : Stat → Stat} (grounded : Grounded world) :
    Grounded (world.setStat id change) := by
  apply grounded.modify
  · rintro ⟨name, transform, facing, body⟩ user bodyOf
    cases body with
    | user old => exact ⟨old, rfl⟩
    | monster monster => contradiction
    | item item => contradiction
  · rintro ⟨name, transform, facing, body⟩
    cases body <;> exact ⟨rfl, rfl⟩
  · rintro ⟨name, transform, facing, body⟩
    cases body <;> rfl

theorem Grounded.modifyMonster {change : Monster → Monster} (grounded : Grounded world) :
    Grounded (world.modifyMonster id change) := by
  apply grounded.modify
  · rintro ⟨name, transform, facing, body⟩ user bodyOf
    cases body with
    | user old => exact ⟨old, rfl⟩
    | monster monster => contradiction
    | item item => contradiction
  · rintro ⟨name, transform, facing, body⟩
    cases body <;> exact ⟨rfl, rfl⟩
  · rintro ⟨name, transform, facing, body⟩
    cases body <;> rfl

theorem Grounded.removeObject {transform : Transform} (grounded : Grounded world) :
    Grounded (world.removeObject zone id transform) := by
  unfold World.removeObject
  split
  · exact Grounded.modifyTransform (grounded.congr rfl) (fun _ => ⟨rfl, rfl⟩) fun _ => rfl
  · exact grounded

/-! ## Changes of place -/

theorem Grounded.updatePosition {x y : Int} (valid : isValidZoneId zone = true)
    (grounded : Grounded world) : Grounded (world.updatePosition zone id x y) := by
  cases found : world.objects id with
  | none => rwa [updatePosition_missing found]
  | some object =>
    by_cases inZone : getZoneIdByWorld x y = zone
    · refine Apart.grounded (Apart.updatePosition (Apart.refl id world)) grounded ?_
      intro subject placed
      rw [(updatePosition_settled valid found inZone).objects, Function.update_self,
        Option.some.injEq] at placed
      subst placed
      exact fun _ => inZone
    · rwa [updatePosition_outside valid inZone]

/-- A transfer writes position and zone together. -/
theorem Grounded.handleZoneTransfer {player : Subject} {x y : Int} (grounded : Grounded world) :
    Grounded (world.handleZoneTransfer zone choice id player x y (getZoneIdByWorld x y)) := by
  refine Apart.grounded handleZoneTransfer_apart grounded ?_
  have written : ∀ {current : World} {subject : Subject},
      ((current.modifyTransform id fun transform => { transform with x := x, y := y }).modifyTransform
        id fun transform => { transform with zoneId := getZoneIdByWorld x y }).objects id =
          some subject → subject.transform.Grounded := by
    intro current subject found
    simp only [World.modifyTransform, World.modify, Function.update_self, Option.map_map,
      Option.map_eq_some_iff] at found
    rcases found with ⟨old, _, rfl⟩
    exact fun _ => rfl
  intro subject found
  unfold World.handleZoneTransfer updateObjectZone at found
  dsimp only at found
  split at found
  · exact written found
  · exact written found

theorem Grounded.wakeUpMonsters {ids : List ObjID} {wakerId : ObjID} {forceWake : Bool}
    (inGrid : ∀ other ∈ ids, ∃ sector, other ∈ world.cells zone sector)
    (grounded : Grounded world) :
    Grounded (world.wakeUpMonsters zone ids wakerId forceWake) := by
  have quiet : Quiet Any zone wakerId world (world.wakeUpMonsters zone ids wakerId forceWake) :=
    wakeUpMonsters_quiet inGrid (Quiet.refl world)
  exact quiet.grounded grounded

theorem Grounded.notifyPlayerEnteredWorld {isRespawn : Bool} (grounded : Grounded world) :
    Grounded (world.notifyPlayerEnteredWorld zone choice id isRespawn) := by
  have quiet : Quiet Any zone id world (world.notifyPlayerEnteredWorld zone choice id isRespawn) :=
    notifyPlayerEnteredWorld_quiet (Quiet.refl world)
  exact quiet.grounded grounded

theorem Grounded.handlePlayerMove {x y : Int} (valid : isValidZoneId zone = true)
    (grounded : Grounded world) : Grounded (world.handlePlayerMove zone choice id x y) := by
  unfold World.handlePlayerMove
  split
  · exact grounded
  · dsimp only
    split
    · exact grounded.handleZoneTransfer
    · have moved : Grounded (world.updatePosition zone id x y) := grounded.updatePosition valid
      unfold walk
      dsimp only
      split
      · exact moved
      · split
        · exact moved.congr rfl
        · refine Grounded.wakeUpMonsters ?_ (moved.congr rfl)
          exact fun other member => mem_collectSubjects_cells member


/-- The entry stands in the zone that was announced. -/
theorem Grounded.handleEnterZone {x y : Int} (valid : isValidZoneId zone = true)
    (home : ∀ player, world.objects id = some player → player.transform.zoneId = zone)
    (grounded : Grounded world) : Grounded (world.handleEnterZone zone choice id x y) := by
  unfold World.handleEnterZone
  split
  · exact grounded
  · next player user found =>
    have zoneId := home player (getUser_eq_some.mp found).1
    dsimp only
    refine Grounded.modifyTransform ?_ (fun _ => ⟨rfl, rfl⟩) fun _ => rfl
    refine Grounded.notifyPlayerEnteredWorld ?_
    split
    · next placed moved =>
      refine ((Apart.refl id world).updateObjectSectorAndPosition moved).grounded grounded ?_
      intro subject stands
      unfold updateObjectSectorAndPosition at moved
      dsimp only at moved
      split at moved
      · next inside =>
        rw [← Option.some.inj moved] at stands
        simp only [World.modifyTransform, World.modify, Function.update_self, modifyCell,
          apply_ite World.objects, ite_self] at stands
        rcases Option.map_eq_some_iff.mp stands with ⟨old, present, rfl⟩
        intro _
        exact ((isValidSector_getSectorCoord valid x y).mp inside).trans (home old present).symm
      · contradiction
    · exact grounded.updatePosition valid

theorem Grounded.handleUserRespawn (valid : isValidZoneId zone = true)
    (grounded : Grounded world) : Grounded (world.handleUserRespawn zone choice id) := by
  unfold World.handleUserRespawn
  split
  · exact grounded
  · have revived : Grounded ((world.getRandomPosition zone choice id).setStat id fun current =>
        { current with dead := false, hp := playerMaxHp }) :=
      (grounded.updatePosition valid).setStat
    dsimp only
    split
    · exact revived
    · next player _ =>
      have told : Grounded (((world.getRandomPosition zone choice id).setStat id fun current =>
          { current with dead := false, hp := playerMaxHp }).send id (respawnPacket id player)) :=
        revived.congr rfl
      exact told.notifyPlayerEnteredWorld.congr rfl

theorem Grounded.killPlayer {monsterId : ObjID} {victim : Subject} {hp : Nat}
    (grounded : Grounded world) :
    Grounded ((world.struck monsterId id).killPlayer zone choice monsterId id victim hp) := by
  have struck : Grounded (world.struck monsterId id) := grounded.modifyMonster.setStat
  unfold World.killPlayer
  refine Grounded.congr (Grounded.removeObject ?_) rfl
  exact Grounded.modifyMonster (struck.congr rfl)

/-- The user that leaves is grounded no longer, and the others are. -/
theorem Grounded.leaveWorld {client : Subject} (grounded : Grounded world) :
    Grounded (world.leaveWorld zone choice id client) := by
  refine leaveWorld_apart.grounded grounded ?_
  intro subject found
  simp only [World.leaveWorld, removeObjectZone, deleteObject, Function.update_self] at found
  contradiction

/-! ## Login -/

/-- A new user is in no zone yet. -/
theorem Grounded.publishUser {session : Nat} {subject : Subject}
    (unplaced : subject.transform = {}) (grounded : Grounded world) :
    Grounded (world.publishUser session subject) := by
  refine (publishUser_apart session subject).grounded grounded ?_
  intro registered found
  simp only [World.publishUser, modifySession, insertObject, Function.update_self,
    Option.some.injEq] at found
  rw [← found, unplaced]
  intro valid
  contradiction

/-- A login puts its user into the zone of the thread. -/
theorem Grounded.placeLoadedUser {session : Nat} {userInfo : DbUserInfo}
    (valid : isValidZoneId zone = true) (grounded : Grounded world) :
    Grounded (world.placeLoadedUser zone choice session userInfo) := by
  unfold World.placeLoadedUser
  dsimp only
  split
  · exact grounded.updatePosition valid
  · split
    · exact grounded.updatePosition valid
    · exact (grounded.updatePosition valid).congr rfl

theorem Grounded.finishLogin {session : Nat} {withItems : Bool} (grounded : Grounded world) :
    Grounded (world.finishLogin zone choice session withItems) := by
  unfold World.finishLogin
  dsimp only
  split
  · exact grounded
  · refine Grounded.notifyPlayerEnteredWorld ?_
    split
    · exact grounded.congr rfl
    · exact grounded.congr rfl

/-! ## Tasks -/

theorem exec_grounded (handed : Handed world) (queued : world.queues thread = task :: rest)
    (ran : (world.popped thread rest).exec thread choice task = some after)
    (grounded : Grounded world) : Grounded after := by
  have mapped : Mapped (world.popped thread rest) := handed.mapped.congr rfl rfl rfl rfl
  have popped : Grounded (world.popped thread rest) := grounded.congr rfl
  cases exec_effect mapped.filed ran with
  | aside aside => exact aside.grounded popped
  | move x y isMove allowed valid quiet =>
    exact (quiet.grounded popped).handlePlayerMove valid
  | leave found notTransferring valid => exact popped.leaveWorld
  | retry found transferring valid => exact popped.congr rfl
  | enter nextX nextY found valid =>
    refine popped.handleEnterZone valid fun player registered => ?_
    have member := queued ▸ List.mem_cons_self
    rw [mapped.user found] at member
    rcases handed.entry member with ⟨client, user, present, _, home⟩
    rw [← mapped.user found, getUser_eq_some] at present
    exact Option.some.inj (present.1.symm.trans registered) ▸ home
  | getUserInfo alloc free valid =>
    exact ((popped.publishUser rfl).placeLoadedUser valid).finishLogin
  | addUserInfo alloc free valid =>
    exact ((popped.publishUser rfl).updatePosition valid).finishLogin
  | kill found present hits dies valid => exact popped.killPlayer
  | respawn found valid => exact popped.handleUserRespawn valid

end World

namespace Server

open World

variable {collate : String → String}

theorem step_grounded {label : Label grid} {before after : Server collate}
    (taken : step label before = some after) (handed : Handed before.world)
    (grounded : Grounded before.world) : Grounded after.world := by
  by_cases runs : ∃ thread choice, label = .run thread choice
  · rcases runs with ⟨thread, choice, rfl⟩
    simp only [step, runThread] at taken
    split at taken
    · contradiction
    · next task rest queued =>
      rcases Option.map_eq_some_iff.mp taken with ⟨world, ran, rfl⟩
      exact exec_grounded handed queued ran grounded
  · exact grounded.congr (step_objects taken fun thread choice same =>
      runs ⟨thread, choice, same⟩).1

theorem boot_grounded (count : Nat) (draw : Nat → Int × Int) :
    Grounded (World.boot count draw) := by
  refine (boot_aside count draw).grounded ?_
  intro id transform stands
  contradiction

/-- Users are in their zones in every state. -/
theorem run_grounded {count : Nat} {draw : Nat → Int × Int} {store : Store collate}
    {labels : List (Label grid)} {server : Server collate}
    (ran : run step labels (boot count draw store) = some server) : Grounded server.world := by
  have kept : ∀ (label : Label grid) (before after : Server collate), step label before = some after →
      Handed before.world ∧ Grounded before.world → Handed after.world ∧ Grounded after.world :=
    fun _ _ _ taken held =>
      ⟨step_handed taken held.1, step_grounded taken held.1 held.2⟩
  exact (invariant_of_run kept ran ⟨boot_handed count draw, boot_grounded count draw⟩).2

end Server

end Mmorpg
