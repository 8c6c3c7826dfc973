import Mmorpg.World.DressedTasks
import Mmorpg.World.SessionSteps

/-!
# Coming into view keeps the scene dressed

Whoever enters a place is told about everybody around, and everybody around is
told about it: with an add packet, which carries its weapon, or after a respawn
with a packet that does not.
-/

namespace Mmorpg

open ZoneLayout

variable {grid : CollisionGrid} {zone own : Nat} {choice : Choice grid} {world after : World}
  {figure : Figure} {player : Subject} {user : User}

namespace World

open Scene

section Entered

variable {id : ObjID} {isRespawn : Bool} {ids : List ObjID} {viewer target : Nat}
  {packet : ServerPacket}

/-- What the users around get to see of somebody who enters. -/
def greeting (choice : Choice grid) (playerId : ObjID) (player : Subject) (isRespawn : Bool) :
    ServerPacket :=
  if isRespawn then respawnPacket playerId player else addPacket choice.slots playerId player

/-- The greeting is about the player that enters. -/
theorem bearer_greeting (playerId : ObjID) :
    (greeting choice playerId player isRespawn).bearer = some playerId := by
  unfold greeting
  split
  · exact bearer_respawnPacket playerId player
  · exact bearer_addPacket choice.slots playerId player

/-- A known weapon survives a respawn packet; an add packet brings it along. -/
theorem weaponAfter_greeting (drawn : player.figure = some figure) (armed : figure.Armed)
    {known : Option ItemTableId}
    (agrees : isRespawn = true → known.getD itemTableIdNone = figure.slots.weapon) :
    (greeting choice (ObjID.user own) player isRespawn).weaponAfter (ObjID.user own) known =
      some figure.slots.weapon := by
  unfold greeting
  split
  · next respawns =>
    have agreed := agrees respawns
    unfold respawnPacket
    split
    all_goals
      rw [ServerPacket.weaponAfter, if_pos rfl, agreed]
  · exact weaponAfter_addPacket drawn armed choice.slots known

/-- What the player and a user in view are told of each other. -/
theorem enteredPackets_user {session : Nat} {object : Subject}
    (found : world.objects (ObjID.user session) = some object) :
    world.enteredPackets choice (ObjID.user own) player isRespawn (ObjID.user session) =
      [(session, greeting choice (ObjID.user own) player isRespawn),
        (own, addPacket choice.slots (ObjID.user session) object)] := by
  rw [enteredPackets, found]
  rfl

/-- One packet tells a user nearby about the one who enters, the other the
other way round. -/
theorem mem_enteredPackets
    (member : (viewer, packet) ∈
      world.enteredPackets choice (ObjID.user own) player isRespawn id) :
    packet = greeting choice (ObjID.user own) player isRespawn ∨
      viewer = own ∧ ∃ object, world.objects id = some object ∧
        packet = addPacket choice.slots id object := by
  unfold enteredPackets at member
  split at member
  · contradiction
  · next object found =>
    dsimp only at member
    split at member
    · rcases List.mem_cons.mp member with same | last
      · exact .inl (congrArg Prod.snd same)
      · have same := List.mem_singleton.mp last
        exact .inr ⟨congrArg Prod.fst same, object, found, congrArg Prod.snd same⟩
    · have same := List.mem_singleton.mp member
      exact .inr ⟨congrArg Prod.fst same, object, found, congrArg Prod.snd same⟩
    · have same := List.mem_singleton.mp member
      exact .inr ⟨congrArg Prod.fst same, object, found, congrArg Prod.snd same⟩
    · contradiction

/-- Among the others nothing changes. -/
theorem shown_between_entered (other : viewer ≠ own) (foreign : target ≠ own) :
    (world.post (ids.flatMap (world.enteredPackets choice (ObjID.user own) player
      isRespawn))).shownWeapon viewer target = world.shownWeapon viewer target := by
  apply shownWeapon_post_other
  intro packet member
  obtain ⟨id, _, among⟩ := List.mem_flatMap.mp member
  rcases mem_enteredPackets among with rfl | ⟨same, _⟩
  · rw [bearer_greeting]
    exact fun same => foreign (ObjID.user_inj.mp (Option.some.inj same)).symm
  · exact absurd same other

/-- The users around know the weapon of the one who enters. -/
theorem shown_after_entered_seen (other : viewer ≠ own) (drawn : player.figure = some figure)
    (armed : figure.Armed) (inView : ObjID.user viewer ∈ ids)
    (registered : (world.objects (ObjID.user viewer)).isSome)
    (agrees : isRespawn = true →
      (world.shownWeapon viewer own).getD itemTableIdNone = figure.slots.weapon) :
    (world.post (ids.flatMap (world.enteredPackets choice (ObjID.user own) player
      isRespawn))).shownWeapon viewer own = some figure.slots.weapon := by
  have greeted : ∀ packet ∈ toldTo viewer (ids.flatMap (world.enteredPackets choice
      (ObjID.user own) player isRespawn)),
      packet = greeting choice (ObjID.user own) player isRespawn := by
    intro packet member
    obtain ⟨id, _, among⟩ := List.mem_flatMap.mp (mem_toldTo_iff.mp member)
    rcases mem_enteredPackets among with same | ⟨same, _⟩
    · exact same
    · exact absurd same other
  rw [shownWeapon_post]
  apply ServerPacket.weaponAfter_reaches
    (fun known => isRespawn = true → known.getD itemTableIdNone = figure.slots.weapon)
    (· = some figure.slots.weapon)
  · intro packet member known agreed _
    rw [greeted packet member, weaponAfter_greeting drawn armed agreed]
    rfl
  · rintro packet member _ rfl
    rw [greeted packet member]
    exact weaponAfter_greeting drawn armed fun _ => rfl
  · obtain ⟨object, found⟩ := Option.isSome_iff_exists.mp registered
    refine ⟨greeting choice (ObjID.user own) player isRespawn, ?_, fun known agreed =>
      weaponAfter_greeting drawn armed agreed⟩
    rw [mem_toldTo_iff]
    refine List.mem_flatMap.mpr ⟨_, inView, ?_⟩
    rw [enteredPackets_user found]
    exact List.mem_cons_self
  · exact agrees

/-- The one who enters knows the weapons of the users around. -/
theorem shown_after_entered_sees (foreign : target ≠ own)
    (found : world.scene.figure target = some figure) (armed : figure.Armed)
    (inView : ObjID.user target ∈ ids) :
    (world.post (ids.flatMap (world.enteredPackets choice (ObjID.user own) player
      isRespawn))).shownWeapon own target = some figure.slots.weapon := by
  obtain ⟨client, user, playing, rfl⟩ := figure_eq_some.mp found
  have registered := (getUser_eq_some.mp playing).1
  apply shownWeapon_post_told
  · intro packet member
    obtain ⟨id, _, among⟩ := List.mem_flatMap.mp member
    rcases mem_enteredPackets among with rfl | ⟨_, object, there, rfl⟩
    · left
      rw [bearer_greeting]
      exact fun same => foreign (ObjID.user_inj.mp (Option.some.inj same)).symm
    · exact names_addPacket there found armed choice.slots
  · refine ⟨_, List.mem_flatMap.mpr ⟨_, inView, ?_⟩, bearer_addPacket choice.slots _ client⟩
    rw [enteredPackets_user registered]
    exact List.mem_cons_of_mem _ List.mem_cons_self

end Entered

theorem notifyPlayerEnteredWorld_figure {playerId : ObjID} {isRespawn : Bool} :
    (world.notifyPlayerEnteredWorld zone choice playerId isRespawn).scene.figure =
      world.scene.figure := by
  unfold notifyPlayerEnteredWorld
  split
  · rfl
  · dsimp only
    rw [scene_wakeUpMonsters]
    rfl

/-- `NotifyPlayerEnteredWorld` dresses the scene for somebody new, after a
respawn only if the users around already agree on its weapon. -/
theorem notifyPlayerEnteredWorld_staged {start : Scene} {isRespawn : Bool}
    (dressed : start.Dressed zone) (recast : Recast zone own (some figure) start world.scene)
    (laid : world.scene.Laid zone)
    (between : ∀ viewer target, viewer ≠ own → target ≠ own →
      world.shownWeapon viewer target = start.shown viewer target)
    (agrees : isRespawn = true → ∀ viewer seer, viewer ≠ own →
      world.scene.figure viewer = some seer → Near zone seer.transform figure.transform →
        (world.shownWeapon viewer own).getD itemTableIdNone = figure.slots.weapon) :
    (world.notifyPlayerEnteredWorld zone choice (ObjID.user own) isRespawn).scene.Staged zone := by
  have armed := laid.armed own figure recast.self
  obtain ⟨player, user, playing, rfl⟩ := figure_eq_some.mp recast.self
  have drawn := (figure_objects playing).2
  rw [notifyPlayerEnteredWorld, playing]
  dsimp only
  rw [scene_wakeUpMonsters]
  constructor
  · exact Laid.post laid _
  apply (recast.post _).dressed dressed
  · exact fun viewer target other foreign =>
      (shown_between_entered other foreign).trans (between viewer target other foreign)
  · rintro viewer seer _ other viewing ⟨⟩ near
    have seen := (recast.other other).trans viewing
    apply shown_after_entered_seen other drawn armed
    · exact (mem_collectSubjects_of_laid laid choice own viewer).mpr
        ⟨Ne.symm other, _, seer, recast.self, seen, near.symm⟩
    · exact isSome_objects_of_figure seen
    · exact fun respawns => agrees respawns viewer seer other seen near
  · rintro target seer figure foreign viewed ⟨⟩ near
    have seen := (recast.other foreign).trans viewed
    apply shown_after_entered_sees foreign seen (laid.armed target figure seen)
    exact (mem_collectSubjects_of_laid laid choice own target).mpr
      ⟨Ne.symm foreign, _, figure, recast.self, seen, near⟩

/-! ## Coming from another zone -/

/-- `HandleEnterZone` puts the user on a tile of the zone. -/
theorem handleEnterZone_placed (choice : Choice grid) (valid : isValidZoneId zone = true) (laid : world.scene.Laid zone)
    (found : world.getUser (ObjID.user own) = some (player, user)) (x y : Int) :
    ∃ (placed : World) (transform : Transform),
      world.handleEnterZone zone choice (ObjID.user own) x y =
        (placed.notifyPlayerEnteredWorld zone choice (ObjID.user own) false).modifyTransform
          (ObjID.user own) (fun current => { current with transferring := false }) ∧
      Recast zone own (some ⟨transform, user.stat.dead, user.inventory.slots⟩) world.scene
        placed.scene ∧
      Sector.isValidSector zone transform.sector = true ∧
      transform.sector = Sector.getSectorCoord transform.x transform.y ∧
      placed.scene.state = world.scene.state ∧ placed.scene.shown = world.scene.shown := by
  have recast := laid.recast (figure_of_getUser found)
  rw [handleEnterZone, found]
  dsimp only
  split
  · next placed moved =>
    have frame := updateObjectSectorAndPosition_frame moved
    obtain ⟨inside, settled⟩ := recast.settle found moved
    exact ⟨placed, _, rfl, settled, inside, rfl,
      funext (sessionState_of_sessions frame.1), shownWeapon_congr frame.2⟩
  · have inZone := choice.zoneDraw_zone zone valid
    exact ⟨_, _, rfl, recast.updatePosition valid found inZone, isValidSector_of_zone valid inZone,
      rfl, updatePosition_frame.1, updatePosition_frame.2⟩

/-- A player that enters a zone is dressed for all who see it. -/
theorem handleEnterZone_staged (valid : isValidZoneId zone = true)
    (staged : world.scene.Staged zone)
    (found : world.getUser (ObjID.user own) = some (player, user)) {x y : Int} :
    (world.handleEnterZone zone choice (ObjID.user own) x y).scene.Staged zone := by
  have figured := figure_of_getUser found
  obtain ⟨placed, transform, enters, recast, inside, coordinates, state, shown⟩ :=
    handleEnterZone_placed choice valid staged.laid found x y
  have laid := recast.laid_of_state staged.laid figured state (.inl ⟨inside, coordinates⟩) rfl
  have entered : (placed.notifyPlayerEnteredWorld zone choice (ObjID.user own) false).scene.Staged
      zone := by
    apply notifyPlayerEnteredWorld_staged staged.dressed recast laid
    · exact fun viewer target _ _ => congrFun (congrFun shown viewer) target
    · exact fun impossible => Bool.noConfusion impossible
  have figuredThere : (placed.notifyPlayerEnteredWorld zone choice (ObjID.user own)
      false).scene.figure own = some ⟨transform, user.stat.dead, user.inventory.slots⟩ := by
    rw [notifyPlayerEnteredWorld_figure]
    exact recast.self
  have arrived := (entered.laid.recast figuredThere).modifyTransform
    (fun current => { current with transferring := false }) rfl
  rw [enters]
  constructor
  · exact arrived.laid_of_state entered.laid figuredThere rfl (.inl ⟨inside, coordinates⟩) rfl
  · apply arrived.dressed_of_quiet entered.dressed figuredThere rfl _ rfl
    exact fun place near => near.move rfl rfl rfl

/-! ## Respawn -/

/-- A packet to one client is no matter of the others. -/
theorem shownWeapon_send_other {viewer target : Nat} {packet : ServerPacket}
    (other : viewer ≠ own) :
    (world.send (ObjID.user own) packet).shownWeapon viewer target =
      world.shownWeapon viewer target := by
  apply shownWeapon_post_other
  intro sent member
  exact absurd (congrArg Prod.fst (List.mem_singleton.mp member)) other

/-- A respawn keeps the scene dressed if whoever sees the user on its new tile
already knows its weapon; a client that does not know the user draws it with
empty hands. -/
theorem handleUserRespawn_staged (valid : isValidZoneId zone = true)
    (staged : world.scene.Staged zone)
    (found : world.getUser (ObjID.user own) = some (player, user))
    (agrees : ∀ viewer seer, viewer ≠ own → world.scene.figure viewer = some seer →
      Near zone seer.transform
        (player.placedAt zone (choice.zoneDraw zone).1 (choice.zoneDraw zone).2).transform →
      (world.shownWeapon viewer own).getD itemTableIdNone = user.inventory.slots.weapon) :
    (world.handleUserRespawn zone choice (ObjID.user own)).scene.Staged zone := by
  have inZone := choice.zoneDraw_zone zone valid
  have figured := figure_of_getUser found
  have placed := (staged.laid.recast figured).updatePosition valid found inZone
  have revived := placed.modifyUser (updatePosition_getUser valid found inZone)
    (fun user => user.setStat { user.stat with dead := false, hp := playerMaxHp })
  have unchanged : ∀ viewer target, viewer ≠ own → ∀ packet,
      (((world.getRandomPosition zone choice (ObjID.user own)).setStat (ObjID.user own)
        (fun current => { current with dead := false, hp := playerMaxHp })).send (ObjID.user own)
          packet).shownWeapon viewer target = world.shownWeapon viewer target := by
    intro viewer target other packet
    rw [shownWeapon_send_other other]
    exact congrFun (congrFun updatePosition_frame.2 viewer) target
  obtain ⟨shown, _, playing, _⟩ := figure_eq_some.mp revived.self
  have registered := (getUser_eq_some.mp playing).1
  have laid := revived.laid_of_state staged.laid figured updatePosition_frame.1
    (located_placedAt valid inZone _ _) rfl
  rw [handleUserRespawn, found]
  dsimp only
  rw [getRandomPosition, setStat, registered]
  dsimp only
  rw [scene_scheduleAfter]
  apply notifyPlayerEnteredWorld_staged staged.dressed (revived.post _) (Laid.post laid _)
  · exact fun viewer target other _ => unchanged viewer target other _
  · intro _ viewer seer other viewing near
    refine (congrArg (·.getD itemTableIdNone) (unchanged viewer own other _)).trans ?_
    exact agrees viewer seer other (((revived.post _).other other).symm.trans viewing) near

/-! ## Login -/

/-- A published user stands nowhere yet. -/
theorem publishUser_recast (laid : world.scene.Laid zone) (subject : Subject)
    (absent : world.objects (ObjID.user own) = none) (drawn : subject.figure = some figure)
    (outside : Sector.isValidSector zone figure.transform.sector = false) :
    Recast zone own (some figure) world.scene (world.publishUser own subject).scene where
  figure session := by
    simp only [scene, publishUser, insertObject, modifySession, Function.update_apply, ObjID.user_inj]
    split
    · exact drawn
    · rfl
  stands _ _ := rfl
  placed otherZone sector := by
    refine (laid.stands own otherZone sector).trans ?_
    constructor
    · rintro ⟨_, found, _⟩
      simp [scene, absent] at found
    · rintro ⟨_, ⟨⟩, _, rfl, inside⟩
      rw [outside] at inside
      contradiction
  state session other := by
    simp only [scene, sessionState, publishUser, insertObject, modifySession,
      Function.update_of_ne other]

theorem publishUser_state {subject : Subject} (alloc : world.sessionState own = .stAlloc) :
    (world.publishUser own subject).scene.state own = .stIngame := by
  simp only [scene, sessionState, publishUser, insertObject, modifySession, Function.update_self]
  cases found : world.sessions own with
  | none => simp [sessionState, found] at alloc
  | some record => rfl

/-- The first position of a user may lie outside the zone. -/
theorem updatePosition_first {start : Scene} (valid : isValidZoneId zone = true)
    (recast : Recast zone own (some figure) start world.scene)
    (nowhere : figure.transform = {}) (x y : Int) :
    ∃ placed, Recast zone own (some placed) start
        (world.updatePosition zone (ObjID.user own) x y).scene ∧
      placed.Located zone ∧ placed.slots = figure.slots := by
  obtain ⟨player, user, playing, rfl⟩ := figure_eq_some.mp recast.self
  by_cases inZone : getZoneIdByWorld x y = zone
  · exact ⟨_, recast.updatePosition valid playing inZone, located_placedAt valid inZone _ _, rfl⟩
  · rw [updatePosition_outside valid inZone]
    refine ⟨_, recast, .inr ?_, rfl⟩
    dsimp only at nowhere ⊢
    rw [nowhere]
    exact ⟨rfl, .inr (.inr ⟨rfl, rfl⟩)⟩

theorem placeLoadedUser_first {start : Scene} (valid : isValidZoneId zone = true)
    (recast : Recast zone own (some figure) start world.scene) (nowhere : figure.transform = {})
    (userInfo : DbUserInfo) :
    ∃ placed, Recast zone own (some placed) start
        (world.placeLoadedUser zone choice own userInfo).scene ∧
      placed.Located zone ∧ placed.slots = figure.slots := by
  unfold placeLoadedUser
  dsimp only
  split
  · exact updatePosition_first valid recast nowhere _ _
  · split
    · exact updatePosition_first valid recast nowhere _ _
    · rw [queueUserSave, scene_requestDb]
      exact updatePosition_first valid recast nowhere _ _

/-- Placing a new user changes no other figure and sends nothing. -/
theorem placeLoadedUser_frame {userInfo : DbUserInfo} :
    (world.placeLoadedUser zone choice own userInfo).scene.state = world.scene.state ∧
      (world.placeLoadedUser zone choice own userInfo).scene.shown = world.scene.shown := by
  unfold placeLoadedUser
  dsimp only
  split
  · exact updatePosition_frame
  · split
    · exact updatePosition_frame
    · rw [queueUserSave, scene_requestDb]
      exact updatePosition_frame

/-- A user that has logged in is dressed for all who see it. -/
theorem finishLogin_staged {start : Scene} {withItems : Bool} (dressed : start.Dressed zone)
    (recast : Recast zone own (some figure) start world.scene) (laid : world.scene.Laid zone)
    (between : ∀ viewer target, viewer ≠ own → target ≠ own →
      world.shownWeapon viewer target = start.shown viewer target) :
    (world.finishLogin zone choice own withItems).scene.Staged zone := by
  obtain ⟨player, user, playing, _⟩ := figure_eq_some.mp recast.self
  have greeted : ∀ current : World, (current.send (ObjID.user own)
      (loginAckPacket (ObjID.user own) player user.stat)).scene = current.scene :=
    fun _ => scene_send (unworn_of_bearer rfl)
  have listed : ∀ current : World, (current.send (ObjID.user own)
      (itemListPacket choice.slots user.inventory)).scene = current.scene :=
    fun _ => scene_send (unworn_of_bearer rfl)
  have notified : ∀ current : World, current.scene = world.scene →
      (current.notifyPlayerEnteredWorld zone choice (ObjID.user own) false).scene.Staged zone := by
    intro current same
    apply notifyPlayerEnteredWorld_staged dressed (same ▸ recast) (same ▸ laid)
    · intro viewer target other foreign
      exact (congrFun (congrFun (congrArg Scene.shown same) viewer) target).trans
        (between viewer target other foreign)
    · exact fun impossible => Bool.noConfusion impossible
  rw [finishLogin, playing]
  dsimp only
  apply notified
  rw [scene_scheduleAfter]
  split
  · rw [listed, greeted]
  · exact greeted world

/-- Both kinds of login, wherever they put the user. -/
theorem login_staged {subject : Subject} {placed : World} {withItems : Bool}
    (staged : world.scene.Staged zone) (alloc : world.sessionState own = .stAlloc)
    (armed : figure.Armed)
    (first : ∃ changed, Recast zone own (some changed) world.scene placed.scene ∧
      changed.Located zone ∧ changed.slots = figure.slots)
    (frame : placed.scene.state = (world.publishUser own subject).scene.state ∧
      placed.scene.shown = (world.publishUser own subject).scene.shown) :
    (placed.finishLogin zone choice own withItems).scene.Staged zone := by
  obtain ⟨changed, recast, located, slots⟩ := first
  apply finishLogin_staged staged.dressed recast
  · apply recast.laid staged.laid
    rintro _ ⟨⟩
    refine ⟨located, ?_, ?_⟩
    · rw [frame.1]
      exact publishUser_state alloc
    · rw [Figure.Armed, slots]
      exact armed
  · exact fun viewer target _ _ => congrFun (congrFun frame.2 viewer) target

/-- A login keeps the scene dressed if at most one of the loaded items is
worn; with more of them, which one a client is shown depends on the order of a
hash map. -/
theorem handleGetUserInfo_staged (valid : isValidZoneId zone = true)
    (staged : world.scene.Staged zone) {userInfo : DbUserInfo} {items : List DbItemInfo}
    (alloc : world.sessionState own = .stAlloc) (absent : world.objects (ObjID.user own) = none)
    (once : (Inventory.wornRows items).length ≤ 1) :
    (world.handleGetUserInfo zone choice own userInfo items).scene.Staged zone := by
  have loaded := Inventory.loadFromDB_armed once (ObjID.user own) userInfo.playerId
    (User.initInstance (ObjID.user own) userInfo.playerId userInfo.level userInfo.exp).stat
    choice.slots
  have published := publishUser_recast staged.laid
    (loadedUser choice.slots (ObjID.user own) userInfo items) absent rfl
    (isValidSector_unassigned valid)
  unfold handleGetUserInfo
  dsimp only
  rw [if_neg (not_not.mpr alloc), absent]
  apply login_staged staged alloc ⟨loaded.keys, loaded.single⟩
    (placeLoadedUser_first valid published rfl userInfo) placeLoadedUser_frame

theorem handleAddUserInfo_staged (valid : isValidZoneId zone = true)
    (staged : world.scene.Staged zone) {userInfo : DbUserInfo}
    (alloc : world.sessionState own = .stAlloc) (absent : world.objects (ObjID.user own) = none) :
    (world.handleAddUserInfo zone choice own userInfo).scene.Staged zone := by
  have published := publishUser_recast staged.laid (newUser (ObjID.user own) userInfo) absent rfl
    (isValidSector_unassigned valid)
  have bare : Figure.Armed ⟨{}, false, fun _ => none⟩ := by
    constructor
    · exact fun _ occupied => Bool.noConfusion occupied
    · exact fun _ _ worn => Bool.noConfusion worn
  unfold handleAddUserInfo
  dsimp only
  rw [if_neg (not_not.mpr alloc), absent]
  apply login_staged staged alloc bare (updatePosition_first valid published rfl _ _)
    updatePosition_frame

/-! ## Leaving and dying -/

theorem deleteObject_recast {start : Scene} {placed : World}
    (recast : Recast zone own (some figure) start placed.scene) (same : world.scene = placed.scene)
    (outside : Sector.isValidSector zone figure.transform.sector = false) :
    Recast zone own none start (world.deleteObject (ObjID.user own)).scene where
  figure session := by
    have earlier := (congrFun (congrArg Scene.figure same) session).trans (recast.figure session)
    simp only [scene, deleteObject, Function.update_apply, ObjID.user_inj] at earlier ⊢
    split
    · rfl
    · next other =>
      rw [if_neg other] at earlier
      exact earlier
  stands session other := (congrFun (congrArg Scene.stands same) session).trans
    (recast.stands session other)
  placed otherZone sector := by
    have cells := congrFun (congrFun (congrFun (congrArg Scene.stands same) own) otherZone) sector
    refine (iff_of_eq cells).trans ((recast.placed otherZone sector).trans ?_)
    constructor
    · rintro ⟨_, ⟨⟩, _, rfl, inside⟩
      rw [outside] at inside
      contradiction
    · rintro ⟨_, impossible, _⟩
      contradiction
  state session other := (congrFun (congrArg Scene.state same) session).trans
    (recast.state session other)

theorem leaveWorld_staged (valid : isValidZoneId zone = true) (staged : world.scene.Staged zone)
    (found : world.getUser (ObjID.user own) = some (player, user)) :
    (world.leaveWorld zone choice (ObjID.user own) player).scene.Staged zone := by
  have figured := figure_of_getUser found
  have gone : ∀ packets, Recast zone own none world.scene
      ((((world.post packets).removeObject zone (ObjID.user own) player.transform).saveUserInfo
        choice (ObjID.user own)).deleteObject (ObjID.user own)).scene := by
    intro packets
    have removed := ((staged.laid.recast figured).post packets).removeObject valid
      (staged.laid.located own _ figured)
    exact deleteObject_recast removed scene_saveUserInfo (isValidSector_unassigned valid)
  have shown : ∀ current : World, ((((current.removeObject zone (ObjID.user own)
      player.transform).saveUserInfo choice (ObjID.user own)).deleteObject
        (ObjID.user own)).scene.shown) = current.scene.shown := by
    intro current
    calc
      _ = ((current.removeObject zone (ObjID.user own) player.transform).saveUserInfo choice
            (ObjID.user own)).scene.shown := shownWeapon_congr rfl
      _ = (current.removeObject zone (ObjID.user own) player.transform).scene.shown :=
        congrArg Scene.shown scene_saveUserInfo
      _ = current.scene.shown := removeObject_shown current
  unfold leaveWorld
  dsimp only
  rw [scene_removeObjectZone]
  constructor
  · apply (gone _).laid staged.laid
    exact fun _ impossible => by contradiction
  · apply (gone _).dressed_of_gone valid staged.dressed
    · exact fun _ impossible => by contradiction
    · intro viewer target _ foreign
      rw [shown]
      apply shownWeapon_post_other
      intro packet member
      obtain ⟨receiver, _, same⟩ := List.mem_map.mp member
      obtain rfl : ServerPacket.subjectRemoveNfy (ObjID.user own) = packet :=
        congrArg Prod.snd same
      exact fun mine => foreign (ObjID.user_inj.mp (Option.some.inj mine)).symm

theorem disconnect_staged {thread : Nat} (valid : isValidZoneId zone = true)
    (staged : world.scene.Staged zone) (within : isValidZoneId thread = true → thread = zone)
    (ran : world.disconnect thread choice (ObjID.user own) = some after) :
    after.scene.Staged zone := by
  unfold disconnect at ran
  split at ran
  · exact Option.some.inj ran ▸ staged
  · next found =>
    split at ran
    · rw [← Option.some.inj ran, scene_enqueueByZone]
      exact staged
    · rw [onSector_eq_some] at ran
      rw [← Option.some.inj ran.2, within ran.1]
      exact leaveWorld_staged valid staged found

/-- Some change of a user's statistics that does not revive it. -/
theorem setStat_staged (staged : world.scene.Staged zone)
    (found : world.getUser (ObjID.user own) = some (player, user)) (change : Stat → Stat)
    (dies : user.stat.dead = true → (change user.stat).dead = true) :
    Recast zone own (some ⟨player.transform, (change user.stat).dead, user.inventory.slots⟩)
        world.scene (world.setStat (ObjID.user own) change).scene ∧
      (world.setStat (ObjID.user own) change).scene.Staged zone := by
  have figured := figure_of_getUser found
  have changed := (staged.laid.recast figured).modifyUser found
    (fun user => user.setStat (change user.stat))
  refine ⟨changed, changed.laid_of_state staged.laid figured rfl ?_ rfl, ?_⟩
  · rcases staged.laid.located own _ figured with inside | ⟨outside, dead | why⟩
    · exact .inl inside
    · exact .inr ⟨outside, .inl (dies dead)⟩
    · exact .inr ⟨outside, .inr why⟩
  · exact changed.dressed_of_quiet staged.dressed figured rfl (fun _ near => near) rfl

theorem killPlayer_staged (valid : isValidZoneId zone = true) (staged : world.scene.Staged zone)
    (found : world.scene.figure own = some figure) (dead : figure.dead = true)
    {monsterId : ObjID} {hp : Nat} (victim : Subject) (same : victim.transform = figure.transform) :
    (world.killPlayer zone choice monsterId (ObjID.user own) victim hp).scene.Staged zone := by
  have calmed : ∀ change, ((world.sendAll (world.viewers choice.hash zone victim)
      (.subjectDieNfy (ObjID.user own) hp)).modifyMonster monsterId change).scene = world.scene := by
    intro change
    rw [scene_modifyMonster]
    exact scene_sendAll (unworn_of_bearer rfl)
  unfold killPlayer
  dsimp only
  rw [scene_scheduleAfter, same]
  refine Recast.staged_of_gone (Recast.removeObject valid ?_ (staged.laid.located own _ found))
    valid staged found ?_ rfl (.inl dead) rfl ?_
  · rw [calmed]
    exact staged.laid.recast found
  · rw [removeObject_state, calmed]
  · intro viewer target _ _
    rw [removeObject_shown, calmed]

/-- A hit that the user survives changes nothing, and one that kills it takes
it off the grid. -/
theorem handleAttackToPlayer_staged (valid : isValidZoneId zone = true)
    (staged : world.scene.Staged zone) {monsterId : ObjID} :
    (world.handleAttackToPlayer zone choice monsterId (ObjID.user own)).scene.Staged zone := by
  unfold handleAttackToPlayer
  split
  · next subject monster victim user isMonster isUser =>
    have figured := figure_of_getUser isUser
    dsimp only
    split
    · rw [scene_modifyMonster, scene_modifyMonster]
      exact staged
    · have attacking : (world.modifyMonster monsterId fun current =>
          { current with attack := true }).scene.Staged zone := by
        rw [scene_modifyMonster]
        exact staged
      obtain ⟨hit, wounded⟩ := setStat_staged attacking
        (getUser_modifyMonster monsterId _ isUser) (fun current =>
          current.takeDamage monsterOffensive) fun dead => by rw [Stat.takeDamage_dead, dead,
            Bool.or_true]
      split
      · next fatal => exact killPlayer_staged valid wounded hit.self fatal victim rfl
      · rw [scene_surviveAttack]
        exact wounded
  · exact staged

end World

end Mmorpg
