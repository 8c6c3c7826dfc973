import Mmorpg.World.ItemHelper
import Mmorpg.World.MonsterHelper

/-!
# Users

`UserHelper.cpp`: attacks, drops, healing, respawn, saving and the end of a
login.
-/

namespace Mmorpg

open ZoneLayout

variable {grid : CollisionGrid}

/-- What `strncpy_s` with `_TRUNCATE` leaves of a message in the array of an
`SC_CHAT` packet: the last character is the zero. -/
def chatText (mess : String) : String :=
  String.ofList (mess.toList.take (chatSize - 1))

namespace World

/-! ## Saving -/

/-- `IsValidWorldPosition` of the users: inside the world and free. -/
def isStandable (grid : CollisionGrid) (x y : Int) : Bool :=
  isValidWorldPosition x y ∧ ¬isCollision grid x y

/-- `QueueUserSave` asks the database to save level, experience and position. -/
def queueUserSave (id : ObjID) (subject : Subject) (user : User) (saveX saveY : Int)
    (world : World) : World :=
  world.requestDb (.saveUser id subject.name saveX saveY user.stat.level user.stat.exp)

/-- `SaveUserInfo`: a user that stands where nobody can stand is saved at a
random tile. -/
def saveUserInfo (choice : Choice grid) (id : ObjID) (world : World) : World :=
  match world.getUser id with
  | none => world
  | some (subject, user) =>
      if isStandable grid subject.x subject.y then
        world.queueUserSave id subject user subject.x subject.y
      else world.queueUserSave id subject user choice.worldDraw.1 choice.worldDraw.2

/-! ## Attacks -/

/-- `HandleItemDrop` on the roll of the choice. -/
def handleItemDrop (zone : Nat) (choice : Choice grid) (monsterId attackerId : ObjID) (x y : Int)
    (world : World) : Option World :=
  match DropTable.roll (choice.dropPoint monsterId) (choice.dropDraw monsterId) with
  | none => some world
  | some rolled =>
      match makeNewItem rolled.itemId rolled.count with
      | none => none
      | some item => world.spawnFieldItem zone choice item x y attackerId

/-- `USER_STAT_CHANGE_INF` with the user's stat. -/
def statChangePacket (stat : Stat) : ServerPacket :=
  .userStatChangeInf stat.level stat.hp stat.maxHp stat.exp

/-- What `AttackMonster` does with a monster it has just killed, up to the
drop. -/
def killMonster (zone : Nat) (choice : Choice grid) (monsterId playerId : ObjID) (subject : Subject)
    (monster : Monster) (attacker : User) (world : World) : World :=
  let notified := world.sendAll (world.viewers choice.hash zone subject) (.subjectDieNfy monsterId 0)
  let removed := notified.removeObject zone monsterId subject.transform
  let emptied := removed.modifyMonster monsterId fun current =>
    { current with active := false, attack := false, viewList := [] }
  let expGain := if monster.type = .passive then 3 else 5
  let rewarded := emptied.setStat playerId (Stat.addExp expGain)
  rewarded.send playerId (statChangePacket (attacker.stat.addExp expGain))

/-- One hit on a monster, and what follows when it dies. -/
def attackMonster (zone : Nat) (choice : Choice grid) (monsterId playerId : ObjID) (damage : Nat)
    (world : World) : Option World :=
  match world.getMonster monsterId, world.getUser playerId with
  | some (subject, monster), some (_, attacker) =>
      if monster.stat.dead then some world
      else
        let stat := monster.stat.takeDamage damage
        let hit := world.modifyMonster monsterId fun current => { current with stat := stat }
        if stat.hp > 0 then some (hit.send playerId (.userAttackAck monsterId stat.hp damage))
        else
          let killed := hit.killMonster zone choice monsterId playerId subject monster attacker
          (killed.handleItemDrop zone choice monsterId playerId subject.x subject.y).map fun dropped =>
            dropped.scheduleAfter zone monsterId 10000 .evMonsterRespawn ObjID.npos
  | _, _ => some world

/-- The monsters hit, one after the other. -/
def attackMonsters (zone : Nat) (choice : Choice grid) (playerId : ObjID) (damage : Nat) :
    List ObjID → World → Option World
  | [], world => some world
  | monsterId :: rest, world =>
      (world.attackMonster zone choice monsterId playerId damage).bind
        (attackMonsters zone choice playerId damage rest)

/-- `SkillAttack` hits the monsters in reach of the skill. -/
def skillAttack (zone : Nat) (choice : Choice grid) (playerId : ObjID) (world : World) :
    Option World :=
  match world.getUser playerId with
  | none => some world
  | some (player, user) =>
      if user.stat.dead then some world
      else
        let targets :=
          ((world.neighborObjects choice.hash zone player.transform.sector).filter fun entry =>
            entry.1.category = .eMonster ∧
              (entry.2.x - player.x).natAbs + (entry.2.y - player.y).natAbs = 1).map Prod.fst
        attackMonsters zone choice playerId skillDamage targets world

/-- `HandleAttack`: those who see the swing are told, and the monsters in front
of the user are hit. -/
def handleAttack (zone : Nat) (choice : Choice grid) (attackerId : ObjID) (facing : UInt8)
    (world : World) : Option World :=
  match world.getUser attackerId with
  | none => some world
  | some (attacker, user) =>
      let watchers := (world.viewers choice.hash zone attacker).filter fun id => id ≠ attackerId
      let targets :=
        ((world.neighborObjects choice.hash zone attacker.transform.sector).filter fun entry =>
          entry.1.category = .eMonster ∧ SubjectHelper.canAttack attacker entry.2).map Prod.fst
      attackMonsters zone choice attackerId user.stat.offensive targets
        (world.sendAll watchers (.playerAttackNfy attackerId facing))

/-! ## Notifications around a user -/

/-- `BroadcastEquipChange` tells those who see the player what it wears now. -/
def broadcastEquipChange (zone : Nat) (choice : Choice grid) (playerId : ObjID) (world : World) :
    World :=
  match world.getUser playerId with
  | none => world
  | some (player, user) =>
      world.sendAll (world.viewers choice.hash zone player)
        (.subjectEquipChangeNfy playerId (user.inventory.getEquippedItemId choice.slots))

/-- `BroadcastChat`: the message goes back to its sender and to every player in
game who can see him. -/
def broadcastChat (zone : Nat) (choice : Choice grid) (senderId : ObjID) (mess : String)
    (world : World) : World :=
  match world.getUser senderId with
  | none => world
  | some (sender, _) =>
      let packet := ServerPacket.scChat senderId (chatText mess)
      (world.send senderId packet).sendAll
        ((world.viewers choice.hash zone sender).filter fun id => id ≠ senderId) packet

/-! ## Healing and respawn -/

/-- `HandleHeal` on the thread `thread`, which stamps the next event. -/
def handleHeal (thread : Nat) (playerId : ObjID) (world : World) : World :=
  match world.getUser playerId with
  | none => world
  | some (_, user) =>
      if !world.isIngame playerId then world
      else if user.stat.dead then world
      else
        let healed := user.stat.healHp healSize playerMaxHp
        ((world.setStat playerId (Stat.healHp healSize playerMaxHp)).send playerId
          (.userHealInf healed.hp)).scheduleAfter thread playerId 5000 .evHeal ObjID.npos

/-- `HandleUserRespawn` brings a user back with full hit points on a random
tile of its zone. -/
def handleUserRespawn (zone : Nat) (choice : Choice grid) (playerId : ObjID) (world : World) : World :=
  match world.getUser playerId with
  | none => world
  | some _ =>
      let placed := world.getRandomPosition zone choice playerId
      let revived := placed.setStat playerId fun current =>
        { current with dead := false, hp := playerMaxHp }
      match revived.objects playerId with
      | none => revived
      | some player =>
          ((revived.send playerId (respawnPacket playerId player)).notifyPlayerEnteredWorld zone
            choice playerId true).scheduleAfter zone playerId 5000 .evHeal ObjID.npos

/-! ## Login -/

/-- The user that `HandleGetUserInfo` builds, with its saved inventory. -/
def loadedUser (slots : SlotOrder) (id : ObjID) (userInfo : DbUserInfo)
    (items : List DbItemInfo) : Subject where
  name := userInfo.name
  body :=
    let user := User.initInstance id userInfo.playerId userInfo.level userInfo.exp
    .user { user with inventory := user.inventory.loadFromDB slots items }

/-- The user that `HandleAddUserInfo` builds; level and experience keep the
defaults of `Stat`. -/
def newUser (id : ObjID) (userInfo : DbUserInfo) : Subject where
  name := userInfo.name
  body := .user (User.initInstance id userInfo.playerId 1 0)

/-- `ITEM_LIST_ACK` with the filled slots in the order in which the map yields
them. -/
def itemListPacket (slots : SlotOrder) (inventory : Inventory) : ServerPacket :=
  .itemListAck (((slots.order inventory.slots).take maxInventorySlots).map fun index =>
    fillItemSlotData index (inventory.itemAt index))

/-- `USER_LOGIN_ACK` with the user's position and stat. -/
def loginAckPacket (id : ObjID) (subject : Subject) (stat : Stat) : ServerPacket :=
  .userLoginAck id subject.x subject.y stat.maxHp stat.hp stat.level stat.exp

/-- `HandleLoginFail`. -/
def handleLoginFail (session : Nat) (world : World) : World :=
  world.post [(session, .userLoginFailAck)]

/-- Publish a freshly built user and put its session into the game. -/
def publishUser (session : Nat) (subject : Subject) (world : World) : World :=
  (world.insertObject (ObjID.user session) subject).modifySession session fun record =>
    { record with state := .stIngame }

/-- The end of both login handlers: the login answer, the healing timer and
the notification of the neighbourhood. -/
def finishLogin (zone : Nat) (choice : Choice grid) (session : Nat) (withItems : Bool) (world : World) :
    World :=
  let id := ObjID.user session
  match world.getUser id with
  | none => world
  | some (subject, user) =>
      let answered := world.send id (loginAckPacket id subject user.stat)
      let listed :=
        if withItems then answered.send id (itemListPacket choice.slots user.inventory) else answered
      (listed.scheduleAfter zone id 5000 .evHeal ObjID.npos).notifyPlayerEnteredWorld zone choice id
        false

/-- Where `HandleGetUserInfo` puts the user: the stored position, or a free
tile anywhere in the world, which is then saved. -/
def placeLoadedUser (zone : Nat) (choice : Choice grid) (session : Nat) (userInfo : DbUserInfo)
    (world : World) : World :=
  let id := ObjID.user session
  if isStandable grid userInfo.x userInfo.y then world.updatePosition zone id userInfo.x userInfo.y
  else
    let placed := world.updatePosition zone id choice.worldDraw.1 choice.worldDraw.2
    match placed.getUser id with
    | none => placed
    | some (subject, user) =>
        placed.queueUserSave id subject user choice.worldDraw.1 choice.worldDraw.2

/-- `HandleGetUserInfo`: an account that exists enters where it was saved. -/
def handleGetUserInfo (zone : Nat) (choice : Choice grid) (session : Nat) (userInfo : DbUserInfo)
    (items : List DbItemInfo) (world : World) : World :=
  let id := ObjID.user session
  if world.sessionState session ≠ .stAlloc then world
  else if (world.objects id).isSome then world
  else
    ((world.publishUser session (loadedUser choice.slots id userInfo items)).placeLoadedUser zone
      choice session userInfo).finishLogin zone choice session true

/-- `HandleAddUserInfo`: a new account enters on a random tile. -/
def handleAddUserInfo (zone : Nat) (choice : Choice grid) (session : Nat) (userInfo : DbUserInfo)
    (world : World) : World :=
  let id := ObjID.user session
  if world.sessionState session ≠ .stAlloc then world
  else if (world.objects id).isSome then world
  else
    ((world.publishUser session (newUser id userInfo)).getRandomPosition zone choice id).finishLogin
      zone choice session false

end World

end Mmorpg
