import Mmorpg.World.ScriptTasks
import Mmorpg.World.Boot
import Mmorpg.World.LoginFailure

/-!
# The three copies of a zone

An object's zone is written in its transform, in the zone map and, for users,
in the routing of the session.  Operations that write none of them are
`SameSites`; every other operation rewrites the copies of one object together.
-/

namespace Mmorpg

open ZoneLayout Transition

variable {grid : CollisionGrid}

/-- The category of an object and the zone its transform names. -/
def Core.site (core : Core) : EnumCategory × Nat :=
  (core.category, core.transform.zoneId)

theorem Subject.core_site (subject : Subject) :
    subject.core.site = (subject.category, subject.transform.zoneId) := by
  rw [Core.site, Subject.core_category, Subject.core_transform]

namespace World

variable {zone : Nat} {choice : Choice grid} {own id : ObjID} {before middle after world : World}

/-- The kind and the zone of what is registered under an identifier. -/
def siteOf (id : ObjID) (world : World) : Option (EnumCategory × Nat) :=
  (world.coreOf id).map Core.site

theorem siteOf_eq (id : ObjID) (world : World) :
    world.siteOf id = (world.objects id).map fun subject =>
      (subject.category, subject.transform.zoneId) := by
  rw [siteOf, coreOf, Option.map_map]
  congr 1
  funext subject
  exact subject.core_site

theorem siteOf_of_objects {subject : Subject} (found : world.objects id = some subject) :
    world.siteOf id = some (subject.category, subject.transform.zoneId) := by
  rw [siteOf_eq, found, Option.map_some]

/-! ## The agreement -/

/-- Transform, zone map and routing name the same zone. -/
structure ZonesAgree (world : World) : Prop where
  zones : ∀ id subject, world.objects id = some subject →
    subject.transform.zoneId = world.getObjectZone id
  unmapped : ∀ id, world.objects id = none → world.objectZones id = none
  routing : ∀ session subject, world.objects (ObjID.user session) = some subject →
    ∃ record, world.sessions session = some record ∧
      record.routingZoneId = subject.transform.zoneId

/-- The agreement, with what keeps it: users belong to sessions in the game,
and other sessions are not routed anywhere. -/
structure Mapped (world : World) : Prop where
  sites : ∀ id category zoneId, world.siteOf id = some (category, zoneId) →
    category = id.category ∧ zoneId = world.getObjectZone id
  unmapped : ∀ id, world.siteOf id = none → world.objectZones id = none
  routing : ∀ session category zoneId,
    world.siteOf (ObjID.user session) = some (category, zoneId) →
      world.sessions session = some ⟨.stIngame, zoneId⟩
  outside : ∀ session record, world.sessions session = some record →
    record.state ≠ .stIngame → record.routingZoneId = invalidZoneId
  fresh : ∀ session, world.nextObjectId ≤ session → world.sessions session = none

theorem Mapped.zonesAgree (mapped : Mapped world) : ZonesAgree world where
  zones id subject found := (mapped.sites id _ _ (siteOf_of_objects found)).2
  unmapped id missing := mapped.unmapped id (by rw [siteOf_eq, missing, Option.map_none])
  routing session subject found :=
    ⟨_, mapped.routing session _ _ (siteOf_of_objects found), rfl⟩

theorem Mapped.filed (mapped : Mapped world) : Filed world :=
  fun id _ found => (mapped.sites id _ _ (siteOf_of_objects found)).1

/-! ## Operations that write no zone -/

/-- Nobody changes zones, in the registry or on the maps. -/
structure SameSites (before after : World) : Prop where
  sites : ∀ id, after.siteOf id = before.siteOf id
  objectZones : after.objectZones = before.objectZones
  sessions : after.sessions = before.sessions
  nextObjectId : after.nextObjectId = before.nextObjectId

/-- Maps stay right when nobody changes zones. -/
theorem SameSites.mapped (same : SameSites before after) (mapped : Mapped before) :
    Mapped after where
  sites id category zoneId found := by
    rw [same.sites] at found
    rw [getObjectZone, same.objectZones]
    exact mapped.sites id category zoneId found
  unmapped id missing := by
    rw [same.sites] at missing
    rw [same.objectZones]
    exact mapped.unmapped id missing
  routing session category zoneId found := by
    rw [same.sites] at found
    rw [same.sessions]
    exact mapped.routing session category zoneId found
  outside session record found := by
    rw [same.sessions] at found
    exact mapped.outside session record found
  fresh session unused := by
    rw [same.sessions]
    exact mapped.fresh session (same.nextObjectId ▸ unused)

theorem SameSites.refl (world : World) : SameSites world world :=
  ⟨fun _ => rfl, rfl, rfl, rfl⟩

theorem SameSites.trans (first : SameSites before middle) (second : SameSites middle after) :
    SameSites before after where
  sites id := (second.sites id).trans (first.sites id)
  objectZones := second.objectZones.trans first.objectZones
  sessions := second.sessions.trans first.sessions
  nextObjectId := second.nextObjectId.trans first.nextObjectId

theorem Plain.sameSites (plain : Plain before after) : SameSites before after where
  sites id := by rw [siteOf, siteOf, plain.core]
  objectZones := plain.objectZones
  sessions := plain.sessions
  nextObjectId := plain.nextObjectId

/-- Changes of one object that keep its category and zone. -/
theorem SameSites.modify {change : Subject → Subject}
    (category : ∀ subject, (change subject).category = subject.category)
    (zoneId : ∀ subject, (change subject).transform.zoneId = subject.transform.zoneId)
    (same : SameSites before after) : SameSites before (after.modify id change) where
  sites other := by
    rw [← same.sites other]
    simp only [siteOf_eq, World.modify, Function.update_apply]
    split
    · next here =>
      subst here
      cases after.objects other with
      | none => rfl
      | some subject => simp [category subject, zoneId subject]
    · rfl
  objectZones := same.objectZones
  sessions := same.sessions
  nextObjectId := same.nextObjectId

theorem SameSites.modifyUser {change : User → User} (same : SameSites before after) :
    SameSites before (after.modifyUser id change) := by
  apply same.modify
  · rintro ⟨name, transform, facing, body⟩
    cases body <;> rfl
  · rintro ⟨name, transform, facing, body⟩
    cases body <;> rfl

theorem SameSites.modifyMonster {change : Monster → Monster} (same : SameSites before after) :
    SameSites before (after.modifyMonster id change) := by
  apply same.modify
  · rintro ⟨name, transform, facing, body⟩
    cases body <;> rfl
  · rintro ⟨name, transform, facing, body⟩
    cases body <;> rfl

theorem SameSites.modifyTransform {change : Transform → Transform}
    (zoneId : ∀ transform, (change transform).zoneId = transform.zoneId)
    (same : SameSites before after) : SameSites before (after.modifyTransform id change) :=
  same.modify (fun _ => rfl) fun subject => zoneId subject.transform

/-- Everything but objects, zones and sessions may change. -/
theorem SameSites.congr (objects : after.objects = before.objects)
    (zones : after.objectZones = before.objectZones) (sessions : after.sessions = before.sessions)
    (nextObjectId : after.nextObjectId = before.nextObjectId) : SameSites before after where
  sites id := by rw [siteOf_eq, siteOf_eq, objects]
  objectZones := zones
  sessions := sessions
  nextObjectId := nextObjectId

/-- Everything else decides no zone. -/
theorem Mapped.congr (mapped : Mapped before) (objects : after.objects = before.objects)
    (zones : after.objectZones = before.objectZones) (sessions : after.sessions = before.sessions)
    (nextObjectId : after.nextObjectId = before.nextObjectId) : Mapped after :=
  (SameSites.congr objects zones sessions nextObjectId).mapped mapped

theorem removeObject_sameSites (zone : Nat) (id : ObjID) (transform : Transform) (world : World) :
    SameSites world (world.removeObject zone id transform) := by
  unfold removeObject
  split
  · refine SameSites.modifyTransform (fun _ => rfl) ?_
    exact SameSites.congr rfl rfl rfl rfl
  · exact SameSites.refl world

theorem updateObjectSectorAndPosition_sameSites {transform : Transform} {x y : Int} {placed : World}
    (moved : world.updateObjectSectorAndPosition zone id transform x y = some placed) :
    SameSites world placed := by
  simp only [updateObjectSectorAndPosition] at moved
  split at moved
  · rw [← Option.some.inj moved]
    refine SameSites.modifyTransform (fun _ => rfl) ?_
    split
    · split <;> exact SameSites.congr rfl rfl rfl rfl
    · exact SameSites.refl world
  · contradiction

theorem wakeUpMonster_sameSites {monsterId wakerId : ObjID} {forceWake : Bool} :
    SameSites world (world.wakeUpMonster zone monsterId wakerId forceWake) := by
  unfold wakeUpMonster
  split
  · split
    · exact SameSites.refl world
    · split
      · exact SameSites.refl world
      · split
        · exact SameSites.refl world
        · dsimp only
          split
          · exact (SameSites.refl world).modifyMonster.trans (SameSites.congr rfl rfl rfl rfl)
          · exact (SameSites.refl world).modifyMonster.trans (SameSites.congr rfl rfl rfl rfl)
  · exact SameSites.refl world

/-! ## Operations that rewrite the zone of one object -/

/-- The object `id` gets the site `new`; its entry in the zone map and its
session may change with it. -/
structure Resited (id : ObjID) (new : Option (EnumCategory × Nat)) (before after : World) : Prop where
  sites : ∀ other, after.siteOf other = if other = id then new else before.siteOf other
  zones : ∀ other, other ≠ id → after.objectZones other = before.objectZones other
  sessions : ∀ session, after.sessions session = before.sessions session ∨
    id = ObjID.user session ∧ (before.sessions session).isSome ∧
      ∃ zoneId, after.sessions session = some ⟨.stIngame, zoneId⟩
  nextObjectId : after.nextObjectId = before.nextObjectId

/-- One object changes zones, and the maps with it. -/
theorem Resited.mapped (id : ObjID) (new : Option (EnumCategory × Nat))
    (resited : Resited id new before after) (mapped : Mapped before)
    (written : ∀ category zoneId, new = some (category, zoneId) →
      category = id.category ∧ zoneId = after.getObjectZone id ∧
        ∀ session, id = ObjID.user session → after.sessions session = some ⟨.stIngame, zoneId⟩)
    (dropped : new = none → after.objectZones id = none) : Mapped after where
  sites other category zoneId found := by
    rw [resited.sites] at found
    split at found
    · next same =>
      subst same
      exact ⟨(written category zoneId found).1, (written category zoneId found).2.1⟩
    · next different =>
      rw [getObjectZone, resited.zones other different]
      exact mapped.sites other category zoneId found
  unmapped other missing := by
    rw [resited.sites] at missing
    split at missing
    · next same => exact same ▸ dropped missing
    · next different =>
      rw [resited.zones other different]
      exact mapped.unmapped other missing
  routing session category zoneId found := by
    rw [resited.sites] at found
    split at found
    · next same => exact (written category zoneId found).2.2 session same.symm
    · next different =>
      rcases resited.sessions session with unchanged | ⟨same, _⟩
      · rw [unchanged]
        exact mapped.routing session category zoneId found
      · exact absurd same.symm different
  outside session record found notIngame := by
    rcases resited.sessions session with unchanged | ⟨_, _, zoneId, ingame⟩
    · exact mapped.outside session record (unchanged ▸ found) notIngame
    · rw [ingame, Option.some.injEq] at found
      subst found
      exact absurd rfl notIngame
  fresh session unused := by
    have free := mapped.fresh session (resited.nextObjectId ▸ unused)
    rcases resited.sessions session with unchanged | ⟨_, known, _⟩
    · rw [unchanged, free]
    · rw [free] at known
      contradiction

theorem user_eq_of_category {session : Nat} (category : id.category = .eUser)
    (databaseId : id.databaseId = session) : id = ObjID.user session := by
  rcases id with ⟨kind, number⟩
  dsimp only at category databaseId
  rw [category, databaseId]
  rfl

/-- The routing of a user in the game is set to a zone. -/
theorem sessions_setRoutingZoneId {session old : Nat} (zoneId : Nat)
    (recorded : world.sessions session = some ⟨.stIngame, old⟩) (other : Nat) :
    (world.setRoutingZoneId session zoneId).sessions other =
      if other = session then some ⟨.stIngame, zoneId⟩ else world.sessions other := by
  simp only [setRoutingZoneId, modifySession, Function.update_apply]
  split
  · rw [recorded, Option.map_some]
  · rfl

/-- A move inside the zone keeps the maps right. -/
theorem updatePosition_mapped {x y : Int} (valid : isValidZoneId zone = true)
    (mapped : Mapped world) : Mapped (world.updatePosition zone id x y) := by
  cases found : world.objects id with
  | none => rwa [updatePosition_missing found]
  | some object =>
    by_cases inZone : getZoneIdByWorld x y = zone
    · have settled := updatePosition_settled valid found inZone
      have site := siteOf_of_objects found
      have old := mapped.sites id _ _ site
      have home : (world.updatePosition zone id x y).getObjectZone id = zone := by
        rw [getObjectZone, settled.objectZones]
        split
        · next same => exact old.2.symm.trans same
        · rw [Function.update_self, Option.getD_some]
      have recorded : ∀ session, id = ObjID.user session →
          world.sessions session = some ⟨.stIngame, object.transform.zoneId⟩ :=
        fun session same => mapped.routing session _ _ (same ▸ site)
      have sessions : ∀ session, (world.updatePosition zone id x y).sessions session =
          if id = ObjID.user session then some ⟨.stIngame, zone⟩ else world.sessions session := by
        intro session
        rw [settled.sessions]
        split
        · next user =>
          rw [sessions_setRoutingZoneId zone (recorded id.databaseId (user_eq_of_category user rfl))]
          by_cases same : session = id.databaseId
          · rw [if_pos same, if_pos (user_eq_of_category user same.symm)]
          · rw [if_neg same, if_neg]
            rintro rfl
            exact same rfl
        · next notUser =>
          rw [if_neg]
          rintro rfl
          exact notUser rfl
      refine Resited.mapped id (some (object.category, zone)) ?_ mapped ?_ ?_
      · constructor
        case sites =>
          intro other
          rw [siteOf_eq, siteOf_eq, settled.objects, Function.update_apply]
          split <;> rfl
        case zones =>
          intro other different
          rw [settled.objectZones]
          split
          · rfl
          · exact Function.update_of_ne different _ _
        case sessions =>
          intro session
          rw [sessions]
          split
          · next same =>
            refine .inr ⟨same, ?_, zone, rfl⟩
            rw [recorded session same]
            rfl
          · exact .inl rfl
        case nextObjectId => exact settled.nextObjectId
      · intro category zoneId same
        obtain ⟨rfl, rfl⟩ := Prod.mk.inj (Option.some.inj same)
        refine ⟨old.1, home.symm, ?_⟩
        intro session isUser
        rw [sessions, if_pos isUser]
      · exact fun missing => absurd missing (Option.some_ne_none _)
    · rwa [updatePosition_outside valid inZone]

/-- A transfer changes both maps and the user's own zone. -/
theorem handleZoneTransfer_mapped {player client : Subject} {user : User} {x y : Int}
    {newZoneId : Nat} (valid : isValidZoneId newZoneId = true)
    (found : world.getUser id = some (client, user)) (mapped : Mapped world) :
    Mapped (world.handleZoneTransfer zone choice id player x y newZoneId) := by
  have isUser := mapped.filed.user found
  have site := siteOf_of_objects (getUser_eq_some.mp found).1
  have recorded := mapped.routing id.databaseId _ _ (user_eq_of_category isUser rfl ▸ site)
  unfold handleZoneTransfer
  dsimp only
  generalize (id.databaseId, ServerPacket.subjectMoveNfy id x y) :: _ = packets
  generalize movedOff : (((world.modifyTransform id fun current =>
    { current with transferring := true }).removeObject zone id player.transform).modifyTransform id
      fun current => { current with x := x, y := y }).post packets = moved
  have same : SameSites world moved := by
    rw [← movedOff]
    apply SameSites.trans _ (Plain.refl _).post.sameSites
    refine SameSites.modifyTransform (fun _ => rfl) ?_
    apply SameSites.trans _ (removeObject_sameSites zone id player.transform _)
    exact (SameSites.refl world).modifyTransform fun _ => rfl
  clear movedOff
  have stillSite := (same.sites id).trans site
  rw [← same.sessions] at recorded
  have sessions := sessions_setRoutingZoneId newZoneId recorded
  rw [updateObjectZone, if_pos valid]
  refine Resited.mapped id (some (client.category, newZoneId)) ?_
    (same.mapped mapped) ?_ ?_
  · constructor
    case sites =>
      intro other
      rw [siteOf_eq] at stillSite
      rw [siteOf_eq, siteOf_eq]
      dsimp only [enqueueByZone, setRoutingZoneId, modifySession, modifyTransform, modify]
      rw [Function.update_apply]
      split
      · rw [Option.map_map]
        rcases Option.map_eq_some_iff.mp stillSite with ⟨subject, found, sited⟩
        rw [found, Option.map_some, ← (Prod.mk.inj sited).1]
        rfl
      · rfl
    case zones => exact fun other different => Function.update_of_ne different _ _
    case sessions =>
      intro session
      have written := sessions session
      split at written
      · next here =>
        refine .inr ⟨user_eq_of_category isUser here.symm, ?_, newZoneId, written⟩
        rw [here, recorded]
        rfl
      · exact .inl written
    case nextObjectId => rfl
  · intro category zoneId written
    obtain ⟨rfl, rfl⟩ := Prod.mk.inj (Option.some.inj written)
    refine ⟨(mapped.sites id _ _ site).1, ?_, ?_⟩
    · simp [getObjectZone, enqueueByZone, setRoutingZoneId, modifySession]
    · intro session here
      refine (sessions session).trans (if_pos ?_)
      rw [here]
      rfl
  · exact fun missing => absurd missing (Option.some_ne_none _)

/-- Registering an object of no zone under a free identifier. -/
theorem insertObject_mapped {subject : Subject} (free : world.objects id = none)
    (category : subject.category = id.category) (notUser : id.category ≠ .eUser)
    (unplaced : subject.transform.zoneId = invalidZoneId) (mapped : Mapped world) :
    Mapped (world.insertObject id subject) := by
  refine Resited.mapped id (some (subject.category, invalidZoneId)) ?_ mapped ?_ ?_
  · constructor
    case sites =>
      intro other
      rw [siteOf_eq, siteOf_eq, insertObject]
      dsimp only
      rw [Function.update_apply, ← unplaced]
      split <;> rfl
    case zones => exact fun _ _ => rfl
    case sessions => exact fun _ => .inl rfl
    case nextObjectId => rfl
  · intro kind zoneId written
    obtain ⟨rfl, rfl⟩ := Prod.mk.inj (Option.some.inj written)
    refine ⟨category, ?_, ?_⟩
    · have unmapped : world.objectZones id = none :=
        mapped.unmapped id (by rw [siteOf_eq, free, Option.map_none])
      rw [getObjectZone, insertObject]
      dsimp only
      rw [unmapped, Option.getD_none]
    · rintro session rfl
      exact absurd rfl notUser
  · exact fun missing => absurd missing (Option.some_ne_none _)

/-- Publishing the user of a session that is not in the game yet. -/
theorem publishUser_mapped {session : Nat} {subject : Subject}
    (alloc : world.sessionState session = .stAlloc)
    (free : world.objects (ObjID.user session) = none) (new : IsNewUser subject)
    (mapped : Mapped world) : Mapped (world.publishUser session subject) := by
  rcases new.user with ⟨user, bodyOf, _⟩
  have recorded : ∃ record, world.sessions session = some record ∧ record.state = .stAlloc := by
    unfold sessionState at alloc
    split at alloc
    · next record found => exact ⟨record, found, alloc⟩
    · contradiction
  rcases recorded with ⟨record, found, state⟩
  have nowhere := mapped.outside session record found (by rw [state]; decide)
  have category : subject.category = .eUser := by rw [Subject.category, bodyOf]
  have sessions : ∀ other, (world.publishUser session subject).sessions other =
      if other = session then some ⟨.stIngame, invalidZoneId⟩ else world.sessions other := by
    intro other
    simp only [publishUser, modifySession, insertObject, Function.update_apply]
    split
    · rw [found, Option.map_some, ← nowhere]
    · rfl
  refine Resited.mapped (ObjID.user session) (some (.eUser, invalidZoneId)) ?_ mapped ?_ ?_
  · constructor
    case sites =>
      intro other
      rw [siteOf_eq, siteOf_eq, publishUser, modifySession, insertObject]
      dsimp only
      rw [Function.update_apply]
      split
      · rw [Option.map_some, category, new.transform]
      · rfl
    case zones => exact fun _ _ => rfl
    case sessions =>
      intro other
      rw [sessions]
      split
      · next same =>
        refine .inr ⟨by rw [same], ?_, invalidZoneId, rfl⟩
        rw [same, found]
        rfl
      · exact .inl rfl
    case nextObjectId => rfl
  · intro kind zoneId written
    obtain ⟨rfl, rfl⟩ := Prod.mk.inj (Option.some.inj written)
    refine ⟨rfl, ?_, ?_⟩
    · have unmapped : world.objectZones (ObjID.user session) = none :=
        mapped.unmapped _ (by rw [siteOf_eq, free, Option.map_none])
      rw [getObjectZone, publishUser, modifySession, insertObject]
      dsimp only
      rw [unmapped, Option.getD_none]
    · intro other same
      rw [sessions, if_pos (ObjID.user_inj.mp same).symm]
  · exact fun missing => absurd missing (Option.some_ne_none _)

/-- Dropping an object together with its entry in the zone map. -/
theorem dropObject_mapped (id : ObjID)
    (objects : after.objects = Function.update before.objects id none)
    (zones : after.objectZones = Function.update before.objectZones id none)
    (sessions : after.sessions = before.sessions)
    (nextObjectId : after.nextObjectId = before.nextObjectId) (mapped : Mapped before) :
    Mapped after := by
  refine Resited.mapped id none ?_ mapped ?_ ?_
  · constructor
    case sites =>
      intro other
      rw [siteOf_eq, siteOf_eq, objects, Function.update_apply]
      split <;> rfl
    case zones =>
      intro other different
      rw [zones, Function.update_of_ne different]
    case sessions =>
      intro session
      rw [sessions]
      exact .inl rfl
    case nextObjectId => exact nextObjectId
  · exact fun _ _ impossible => absurd impossible.symm (Option.some_ne_none _)
  · intro _
    rw [zones, Function.update_self]

/-! ## Every operation -/

theorem killMonster_sameSites {monsterId playerId : ObjID} {subject : Subject} {monster : Monster}
    {attacker : User} :
    SameSites world
      (world.killMonster zone choice monsterId playerId subject monster attacker) := by
  unfold killMonster
  dsimp only
  apply SameSites.trans _ (Plain.refl _).send.sameSites
  apply SameSites.trans _ (rewarded_plain playerId _).sameSites
  apply SameSites.modifyMonster
  apply SameSites.trans _ (removeObject_sameSites zone monsterId subject.transform _)
  exact (Plain.refl world).sendAll.sameSites

theorem scheduleItemTimers_sameSites (itemId owner : ObjID) :
    SameSites world (world.scheduleItemTimers zone itemId owner) := by
  unfold scheduleItemTimers
  dsimp only
  split <;> exact SameSites.congr rfl rfl rfl rfl

theorem spawnFieldItem_mapped {item : Item} {x y : Int} {owner : ObjID}
    (valid : isValidZoneId zone = true)
    (spawned : world.spawnFieldItem zone choice item x y owner = some after)
    (mapped : Mapped world) : Mapped after := by
  unfold spawnFieldItem at spawned
  dsimp only at spawned
  split at spawned
  · next accepted =>
    split at spawned
    · contradiction
    · have free : world.objects (ObjID.item world.nextFieldItemId) = none := by
        simpa using accepted.2
      have counted : Mapped { world with nextFieldItemId := world.nextFieldItemId + 1 } :=
        mapped.congr rfl rfl rfl rfl
      have registered : Mapped ({ world with
          nextFieldItemId := world.nextFieldItemId + 1 }.insertObject
            (ObjID.item world.nextFieldItemId) (fieldSubject item owner)) :=
        insertObject_mapped free rfl (by rw [ObjID.item_category]; decide) rfl counted
      rw [← Option.some.inj spawned]
      apply (scheduleItemTimers_sameSites _ owner).mapped
      exact (Plain.refl _).sendAll.sameSites.mapped (updatePosition_mapped valid registered)
  · contradiction

theorem handleItemDrop_mapped {monsterId attackerId : ObjID} {x y : Int}
    (valid : isValidZoneId zone = true)
    (dropped : world.handleItemDrop zone choice monsterId attackerId x y = some after)
    (mapped : Mapped world) : Mapped after := by
  unfold handleItemDrop at dropped
  split at dropped
  · exact Option.some.inj dropped ▸ mapped
  · split at dropped
    · contradiction
    · exact spawnFieldItem_mapped valid dropped mapped

theorem Op.mapped (op : Op zone choice own before after) (mapped : Mapped before) :
    Mapped after := by
  have same := SameSites.refl before
  cases op with
  | plain plain => exact plain.sameSites.mapped mapped
  | heal found alive => exact same.modifyUser.mapped mapped
  | store found serves =>
    exact (same.modifyUser.mapped mapped).congr rfl rfl rfl rfl
  | wake valid member => exact wakeUpMonster_sameSites.mapped mapped
  | place valid found => exact updatePosition_mapped valid mapped
  | settle valid found placed => exact (updateObjectSectorAndPosition_sameSites placed).mapped mapped
  | arrive category =>
    refine SameSites.mapped ?_ mapped
    exact SameSites.modifyTransform (fun _ => rfl) same
  | transfer found valid => exact handleZoneTransfer_mapped valid found mapped
  | leave found =>
    next id client user =>
    have gone : SameSites before (((before.sendAll
        ((before.viewers choice.hash zone client).filter fun other => other ≠ id)
          (.subjectRemoveNfy id)).removeObject zone id client.transform).saveUserInfo choice id) := by
      apply SameSites.trans _ (saveUserInfo_plain id).sameSites
      apply SameSites.trans _ (removeObject_sameSites zone id client.transform _)
      exact (Plain.refl before).sendAll.sameSites
    refine dropObject_mapped id ?_ ?_ ?_ ?_ (gone.mapped mapped) <;> rfl
  | publish alloc free new => exact publishUser_mapped alloc free new mapped
  | requeue => exact mapped.congr rfl rfl rfl rfl
  | wound valid found alive member category survives => exact same.modifyMonster.mapped mapped
  | slay valid found alive member category attacker fatal slays =>
    rcases Option.map_eq_some_iff.mp slays with ⟨dropped, drops, rfl⟩
    have landed : Mapped dropped := handleItemDrop_mapped valid drops
      ((same.modifyMonster.trans killMonster_sameSites).mapped mapped)
    exact landed.congr rfl rfl rfl rfl
  | spawn valid spawned => exact spawnFieldItem_mapped valid spawned mapped
  | pick found =>
    next id subject item =>
    have gone : SameSites before ((before.sendAll (before.viewers choice.hash zone subject)
        (.subjectRemoveNfy id)).removeObject zone id subject.transform) := by
      apply SameSites.trans _ (removeObject_sameSites zone id subject.transform _)
      exact (Plain.refl before).sendAll.sameSites
    refine dropObject_mapped id ?_ ?_ ?_ ?_ (gone.mapped mapped) <;> rfl
  | hurt => exact same.modifyUser.mapped mapped
  | hide category =>
    next id transform => exact (removeObject_sameSites zone id transform before).mapped mapped
  | mourn category => exact mapped.congr rfl rfl rfl rfl
  | revive => exact same.modifyUser.mapped mapped
  | tend category keeps => exact same.modifyMonster.mapped mapped
  | raise category healed type => exact same.modifyMonster.mapped mapped
  | step valid found alive => exact updatePosition_mapped valid mapped
  | schedule category kind => exact mapped.congr rfl rfl rfl rfl

theorem exec_mapped {thread : Nat} {task : Task}
    (ran : world.exec thread choice task = some after) (mapped : Mapped world) : Mapped after :=
  Script.keeps Mapped (fun _ _ op => op.mapped) (exec_script mapped.filed ran) mapped

/-! ## Start of the server -/

theorem mapped_empty : Mapped empty where
  sites _ _ _ found := absurd found.symm (Option.some_ne_none _)
  unmapped _ _ := rfl
  routing _ _ _ found := absurd found.symm (Option.some_ne_none _)
  outside _ _ found := absurd found.symm (Option.some_ne_none _)
  fresh _ _ := rfl

theorem initMonster_apart (draw : Nat → Int × Int) (index : Nat) :
    Apart (ObjID.monster (monsterIdStart + index)) world (world.initMonster zone draw index) := by
  unfold initMonster
  apply Apart.modify
  apply Apart.updatePosition
  exact Apart.update (Apart.refl _ world)

/-- The monsters of the start are on the map. -/
theorem initMonster_mapped {draw : Nat → Int × Int} {index : Nat}
    (valid : isValidZoneId zone = true)
    (free : world.objects (ObjID.monster (monsterIdStart + index)) = none)
    (mapped : Mapped world) : Mapped (world.initMonster zone draw index) := by
  unfold initMonster
  apply (SameSites.refl _).modifyMonster.mapped
  apply updatePosition_mapped valid
  exact insertObject_mapped free rfl (by rw [ObjID.monster_category]; decide) rfl mapped

theorem boot_mapped (count : Nat) (draw : Nat → Int × Int) : Mapped (boot count draw) := by
  refine (boot_invariant (fun done world => Mapped world ∧ ∀ id, world.coreOf id ≠ none →
    ∃ index ∈ done, id = ObjID.monster (monsterIdStart + index)) ?_ ?_).1
  · exact ⟨mapped_empty, fun id registered => absurd rfl registered⟩
  · rintro done index world _ fresh ⟨mapped, only⟩
    have valid : isValidZoneId (index % zoneCount.toNat) = true := by
      rw [isValidZoneId_iff]
      exact Nat.mod_lt _ (by decide)
    have free : world.objects (ObjID.monster (monsterIdStart + index)) = none := by
      by_contra registered
      rcases only _ (by simpa [coreOf] using registered) with ⟨other, member, same⟩
      have equal : index = other := by simpa [ObjID.monster] using same
      exact fresh (equal ▸ member)
    refine ⟨initMonster_mapped valid free mapped, ?_⟩
    intro id registered
    by_cases same : id = ObjID.monster (monsterIdStart + index)
    · exact ⟨index, by simp, same⟩
    · rw [(initMonster_apart draw index).core id same] at registered
      rcases only id registered with ⟨other, member, known⟩
      exact ⟨other, List.mem_append_left _ member, known⟩

end World

namespace Server

open World

variable {collate : String → String}

/-- Queues, timers and requests decide no zone. -/
theorem step_mapped {label : Label grid} {before after : Server collate}
    (taken : step label before = some after) (mapped : Mapped before.world) :
    Mapped after.world := by
  cases label with
  | accept =>
    simp only [step, accept] at taken
    split at taken
    · rw [← Option.some.inj taken]
      have free := mapped.fresh before.world.nextObjectId (Nat.le_refl _)
      constructor
      case sites => exact mapped.sites
      case unmapped => exact mapped.unmapped
      case routing =>
        intro session category zoneId found
        have recorded := mapped.routing session category zoneId found
        have different : session ≠ before.world.nextObjectId := by
          rintro rfl
          rw [free] at recorded
          contradiction
        exact (Function.update_of_ne different _ _).trans recorded
      case outside =>
        intro session record found
        dsimp only at found
        rw [Function.update_apply] at found
        split at found
        · rw [← Option.some.inj found]
          exact fun _ => rfl
        · exact mapped.outside session record found
      case fresh =>
        intro session unused
        dsimp only at unused ⊢
        rw [Function.update_of_ne (by omega)]
        exact mapped.fresh session (by omega)
    · contradiction
  | receive session packet =>
    simp only [step, receive] at taken
    split at taken
    · rw [← Option.some.inj taken]
      exact mapped.congr rfl rfl rfl rfl
    · contradiction
  | hangUp session =>
    simp only [step, hangUp] at taken
    split at taken
    · split at taken
      · rw [← Option.some.inj taken]
        exact mapped.congr rfl rfl rfl rfl
      · rw [← Option.some.inj taken]
        exact mapped.congr rfl rfl rfl rfl
    · contradiction
  | fire index =>
    simp only [step, fire] at taken
    split at taken
    · contradiction
    · rw [← Option.some.inj taken]
      dsimp only
      rw [dispatchTimer_eq]
      exact mapped.congr rfl rfl rfl rfl
  | database index calls written =>
    simp only [step, database] at taken
    split at taken
    · contradiction
    · split at taken
      · rw [← Option.some.inj taken]
        unfold handOver
        split <;> exact mapped.congr rfl rfl rfl rfl
      · rw [← Option.some.inj taken]
        split <;> exact mapped.congr rfl rfl rfl rfl
  | run thread choice =>
    simp only [step, runThread] at taken
    split at taken
    · contradiction
    · next task rest _ =>
      rcases Option.map_eq_some_iff.mp taken with ⟨world, ran, rfl⟩
      apply exec_mapped ran
      exact mapped.congr rfl rfl rfl rfl

/-- The maps are right in every state. -/
theorem run_mapped {count : Nat} {draw : Nat → Int × Int} {store : Store collate}
    {labels : List (Label grid)} {server : Server collate}
    (ran : run step labels (boot count draw store) = some server) : Mapped server.world :=
  invariant_of_run (fun _ _ _ taken mapped => step_mapped taken mapped) ran
    (boot_mapped count draw)

/-- Between tasks the three copies of every object's zone agree. -/
theorem zones_agree {count : Nat} {draw : Nat → Int × Int} {store : Store collate}
    {labels : List (Label grid)} {server : Server collate}
    (ran : run step labels (boot count draw store) = some server) : ZonesAgree server.world :=
  (run_mapped ran).zonesAgree

/-- A stored player logs in and teleports into the next zone. -/
def journey : List (Label initCollisionTile) :=
  [.accept, .receive 1 (.userLoginReq "kim" ""), .run invalidZoneId .steady, .database 0 {} true,
    .run 0 .steady, .receive 1 (.userTeleportReq 509 9), .run 0 .steady, .run 1 .steady]

/-- A player walks into the next zone. -/
theorem zones_agree_sample :
    ∃ server, run step journey (boot 0 (fun _ => (9, 9)) World.savedStore) = some server ∧
      server.world.getObjectZone (ObjID.user 1) = 1 ∧ ZonesAgree server.world := by
  have completes : (run step journey (boot 0 (fun _ => (9, 9)) World.savedStore)).isSome := by rfl
  rcases Option.isSome_iff_exists.mp completes with ⟨server, ran⟩
  refine ⟨server, ran, ?_, zones_agree ran⟩
  obtain rfl := Option.some.inj ran
  rfl

end Server

end Mmorpg
