/-
**A world with its NPCs.**

A world has NPCs, and its players have commands.  NPCs have a target and a linker, and commands have a target,
all of them pointers to players or NPCs of the world.  Players and NPCs hit each other; who leaves is to be
forgotten by the NPCs.  A pointer to a player is known by the number of the player's entry, so that it can be
told from one to a later player with the same serial number.  Who enters may get a `Player` object that was given
back: the pointers of NPCs that are left to that object lead to the new player then.

Clients name NPCs by their serial numbers, or by their places, and players by their serial numbers; the
handlers look them up without asking whether they are there.

Main definitions:

* `MmoServer.CommandKind`, `MmoServer.Command`, `MmoServer.CmdObject` — commands, and the component that has
  them;
* `MmoServer.WorldNpc`, `MmoServer.PlayerExtra`, `MmoServer.NpcWorld` — the world;
* `MmoServer.NpcWorld.changeCmd`, `MmoServer.NpcWorld.playerDisappear` — a new command, and who leaves;
* `MmoServer.NpcObject.renewed`, `MmoServer.NpcWorld.handleSyncPlayer` — who enters, with an object of the pool;
* `MmoServer.ClientMsg`, `MmoServer.NpcWorld.handle` — the messages of clients;
* `MmoServer.WorldEvent`, `MmoServer.NpcWorld.step`, `MmoServer.NpcWorld.system` — everything that happens to a
  world, and its runs.
-/

import MmoServer.NpcPhases
import MmoServer.SpaceWorld
import MmoServer.Transition

set_option relaxedAutoImplicit false
set_option autoImplicit false

namespace MmoServer

open Std Handler Transition

/-! ### Commands -/

/-- The classes of commands, with what they are about; an NPC by its place. -/
inductive CommandKind (fl : NpcFloats)
  | none
  | move (point : Vector3 fl.toFloatOps)
  | attack (npc : ℕ)
  | pick (targetSn : UInt64) (point : Vector3 fl.toFloatOps)
  | teleport (targetSn : UInt64)
  | observe (target : PlayerRef)
  | pvp (target : PlayerRef)

/-- `Command`. -/
structure Command (fl : NpcFloats) where
  owner : PlayerRef
  kind : CommandKind fl

/-- The player that a command is about. -/
def Command.target {fl : NpcFloats} (cmd : Command fl) : Option PlayerRef :=
  match cmd.kind with
  | .observe target | .pvp target => some target
  | .none | .move _ | .attack _ | .pick _ _ | .teleport _ => none

/-- `CmdComponent`, with its commands. -/
structure CmdObject (fl : NpcFloats) where
  prevCmd : Option (Command fl)
  currCmd : Option (Command fl)

/-! ### The world -/

/-- An NPC with its components. -/
structure WorldNpc (fl : NpcFloats) where
  object : NpcObject fl
  move : MoveComponent fl.toFloatOps

/-- What a world knows besides of a player that it holds: the number of its entry, and its components. -/
structure PlayerExtra (fl : NpcFloats) where
  entry : ℕ
  cmd : CmdObject fl
  move : Option (MoveComponent fl.toFloatOps)

/-- `World`, with its NPCs, and how many players have entered the worlds of its thread so far. -/
structure NpcWorld (fl : NpcFloats) extends SpaceWorld fl.toFloatOps where
  /-- By the serial numbers of the players. -/
  extras : UInt64 → PlayerExtra fl
  entries : ℕ
  npcs : List (WorldNpc fl)
  npcIdxMap : ExtTreeMap UInt64 ℕ compare

/-- What the pools of the thread answer: the `MoveComponent` that is handed out, and who has the object of a
player that has left now, if anyone has it. -/
structure Pools (fl : NpcFloats) where
  move : MoveComponent fl.toFloatOps
  heir : PlayerRef → Option PlayerRef

/-- What the handlers of clients find outside of the world: the pools, what the generators answer, the teams,
and the players that `WorldGather` knows. -/
structure Outside (fl : NpcFloats) extends Pools fl where
  rolls : DropRolls
  teamMap : UInt64 → Option (List UInt64)
  registered : UInt64 → Bool

namespace NpcWorld

variable {fl : NpcFloats}

/-- The pointer to a player of the world. -/
def ref (w : NpcWorld fl) (sn : UInt64) : PlayerRef := ⟨sn, (w.extras sn).entry⟩

/-- The world holds a player with the serial number. -/
def Held (w : NpcWorld fl) (sn : UInt64) : Prop := (w.playerMgr.getPlayerBySn sn).isSome

instance (w : NpcWorld fl) (sn : UInt64) : Decidable (w.Held sn) :=
  inferInstanceAs (Decidable ((w.playerMgr.getPlayerBySn sn).isSome = true))

/-- The world holds the player that a pointer leads to. -/
def Holds (w : NpcWorld fl) (p : PlayerRef) : Prop := w.Held p.sn ∧ (w.extras p.sn).entry = p.entry

instance (w : NpcWorld fl) (p : PlayerRef) : Decidable (w.Holds p) := inferInstanceAs (Decidable (_ ∧ _))

/-- What an NPC finds around it. -/
def surroundings (w : NpcWorld fl) (timeTick : UInt64) (roll : Fin 4) : Surroundings fl :=
  ⟨timeTick, w.players.map fun player => w.ref player.playerSn, fun p => (w.bodies p.sn).position, roll⟩

/-- `World::GetNearestPlayer`. -/
def getNearestPlayer (w : NpcWorld fl) (pos : Vector3 fl.toFloatOps) : Option PlayerRef :=
  (w.surroundings 0 Npc.firstPoint).getNearestPlayer pos

/-- Write the `CmdComponent` of a player. -/
def setCmd (w : NpcWorld fl) (sn : UInt64) (cmd : CmdObject fl) : NpcWorld fl :=
  { w with extras := Function.update w.extras sn { w.extras sn with cmd := cmd } }

/-- Write the `MoveComponent` of a player. -/
def setMove (w : NpcWorld fl) (sn : UInt64) (move : Option (MoveComponent fl.toFloatOps)) : NpcWorld fl :=
  { w with extras := Function.update w.extras sn { w.extras sn with move := move } }

/-- Write the data of a player. -/
def setBody (w : NpcWorld fl) (sn : UInt64) (f : PlayerBody fl.toFloatOps → PlayerBody fl.toFloatOps) :
    NpcWorld fl :=
  { w with bodies := Function.update w.bodies sn (f (w.bodies sn)) }

/-- Write an NPC. -/
def setNpc (w : NpcWorld fl) (i : ℕ) (f : WorldNpc fl → WorldNpc fl) : NpcWorld fl :=
  { w with npcs := w.npcs.modify i f }

/-! ### Commands of players -/

/-- A player without a `MoveComponent` gets one of the pool. -/
def addMove (w : NpcWorld fl) (sn : UInt64) (move : MoveComponent fl.toFloatOps) : NpcWorld fl :=
  w.setMove sn (some ((w.extras sn).move.getD { move with targets := [] }))

/-- `Exit` of a command of a player's component: only `NoneCommand` uses its owner.  The owner of a command
that a component of the pool had is another one, and has left: its object has no system that could give it a
component, or belongs to someone else. -/
def exitCmd (w : NpcWorld fl) (pools : Pools fl) (self : PlayerRef) (cmd : Command fl) : Option (NpcWorld fl) :=
  match cmd.kind with
  | .none =>
    if cmd.owner = self ∨ w.Holds cmd.owner then some (w.addMove cmd.owner.sn pools.move)
    else (pools.heir cmd.owner).map fun heir => if w.Holds heir then w.addMove heir.sn pools.move else w
  | .move _ | .attack _ | .pick _ _ | .teleport _ | .observe _ | .pvp _ => some w

/-- `Enter` of a new command of a player, if there is one: `NoneCommand` takes a component away. -/
def enterCmd (w : NpcWorld fl) (self : PlayerRef) : Option (CommandKind fl) → NpcWorld fl
  | some .none => w.setMove self.sn none
  | none | some (.move _) | some (.attack _) | some (.pick _ _) | some (.teleport _) | some (.observe _)
  | some (.pvp _) => w

/-- `ChangeCmd`: the current command exits, and the new one enters. -/
def changeCmd (w : NpcWorld fl) (pools : Pools fl) (self : PlayerRef) (new : Option (CommandKind fl)) :
    Option (NpcWorld fl) :=
  let old := (w.extras self.sn).cmd.currCmd
  let exited :=
    match old with
    | none => some w
    | some cmd => w.exitCmd pools self cmd
  exited.map fun w => (w.setCmd self.sn ⟨old, new.map fun kind => ⟨self, kind⟩⟩).enterCmd self new

/-- `ResetCmd`. -/
def resetCmd (w : NpcWorld fl) (pools : Pools fl) (self : PlayerRef) : Option (NpcWorld fl) :=
  w.changeCmd pools self (some .none)

/-- `Execute` of the current command: whether it has finished. -/
def finished (w : NpcWorld fl) (cmd : Command fl) : Option Bool :=
  match cmd.kind with
  | .move point =>
    if w.Holds cmd.owner then
      some (fl.lt (point.getDistance (w.bodies cmd.owner.sn).position) (fl.ofInt 1))
    else none
  | .attack i => (w.npcs[i]?).map fun npc => npc.object.npc.hp = 0
  | .teleport _ => some true
  | .none | .pick _ _ | .observe _ | .pvp _ => some false

/-- `CmdComponent::Update`, of a player of the world. -/
def updateCmd (w : NpcWorld fl) (pools : Pools fl) (sn : UInt64) : Option (NpcWorld fl) :=
  match (w.extras sn).cmd.currCmd with
  | none => some w
  | some cmd => (w.finished cmd).bind fun finish => if finish then w.changeCmd pools (w.ref sn) none else some w

end NpcWorld

/-! ### Players that come and go -/

/-- `World::PlayerDisappear`, for one NPC: nobody is left, or the player was its target; and another player
takes the place of a linker. -/
def NpcObject.playerDisappear {fl : NpcFloats} (algs : Heap.Algorithms BtEvent.less)
    (w : NpcWorld fl) (player : PlayerRef) (o : NpcObject fl) : NpcObject fl :=
  let o : NpcObject fl :=
    if w.players = [] then ({ o with npc := { o.npc with target := none } } : NpcObject fl).addEvent algs .birth 10
    else if o.npc.target = some player then
      ({ o with npc := { o.npc with target := none } } : NpcObject fl).addEvent algs .idle 10
    else o
  if o.npc.linker = some player then
    { o with npc := { o.npc with linker := w.getNearestPlayer o.npc.currPos } }
  else o

/-- A pointer to an object of the pool of players, when a player has got the object. -/
def PlayerRef.renewed (object : Option PlayerRef) (player : PlayerRef) (p : Option PlayerRef) : Option PlayerRef :=
  if p.isSome ∧ p = object then some player else p

/-- An NPC, when a player has got an object of the pool. -/
def NpcObject.renewed {fl : NpcFloats} (object : Option PlayerRef) (player : PlayerRef) (o : NpcObject fl) :
    NpcObject fl :=
  { o with npc := { o.npc with
      target := PlayerRef.renewed object player o.npc.target
      linker := PlayerRef.renewed object player o.npc.linker } }

namespace NpcWorld

variable {fl : NpcFloats} (algs : Heap.Algorithms BtEvent.less)

/-- `World::PlayerDisappear`, of a player that was removed. -/
def playerDisappear (w : NpcWorld fl) (pools : Pools fl) (player : PlayerRef) : Option (NpcWorld fl) :=
  (w.resetCmd pools player).map fun w =>
    { w with npcs := w.npcs.map fun npc => { npc with object := npc.object.playerDisappear algs w player } }

/-- The commands of a component of the pool are about players that have entered before. -/
def Earlier (w : NpcWorld fl) (cmd : CmdObject fl) : Prop :=
  ∀ c ∈ cmd.currCmd, ∀ p ∈ c.target, p.entry < w.entries

instance (w : NpcWorld fl) (cmd : CmdObject fl) : Decidable (w.Earlier cmd) :=
  inferInstanceAs (Decidable (∀ c ∈ cmd.currCmd, ∀ p ∈ c.target, p.entry < w.entries))

/-- An object of the pool of players is that of a player that has entered before, and is not here any more. -/
def Gone (w : NpcWorld fl) (object : Option PlayerRef) : Prop :=
  ∀ p ∈ object, p.entry < w.entries ∧ ¬ w.Holds p

instance (w : NpcWorld fl) (object : Option PlayerRef) : Decidable (w.Gone object) :=
  inferInstanceAs (Decidable (∀ p ∈ object, p.entry < w.entries ∧ ¬ w.Holds p))

/-- `HandleSyncPlayer`.  The `Player` is a new object, or one of the pool, and then it is the one that pointers of
NPCs to its last owner lead to.  The `CmdComponent` is a new one, or one of the pool, with the commands of its last
owner. -/
def handleSyncPlayer (w : NpcWorld fl) (identify : NetIdentify) (proto : SyncPlayer fl.toFloatOps)
    (cmd : CmdObject fl) (object : Option PlayerRef) : Option (NpcWorld fl) :=
  if w.Held proto.playerSn then some w
  else if w.Earlier cmd ∧ w.Gone object then
    (w.toSpaceWorld.handleSyncPlayer identify proto).state.map fun world =>
      { w with
        toSpaceWorld := world
        npcs := w.npcs.map fun npc => { npc with object := npc.object.renewed object ⟨proto.playerSn, w.entries⟩ }
        extras := Function.update w.extras proto.playerSn ⟨w.entries, cmd, none⟩
        entries := w.entries + 1 }
  else none

/-- `HandleNetworkDisconnect`. -/
def handleNetworkDisconnect (w : NpcWorld fl) (pools : Pools fl) (identify : NetIdentify) :
    Option (NpcWorld fl) :=
  (w.toSpaceWorld.handleNetworkDisconnect identify).state.bind fun world =>
    let left : NpcWorld fl := { w with toSpaceWorld := world }
    match (identify.tagKey.getTagValue .player).bind fun value => w.playerMgr.getPlayerBySn value.keyInt64 with
    | none => some left
    | some player => left.playerDisappear algs pools (w.ref player.playerSn)

/-- `HandleG2SRemovePlayer`. -/
def handleG2SRemovePlayer (w : NpcWorld fl) (pools : Pools fl) (identify : NetIdentify) (playerSn : UInt64) :
    Option (NpcWorld fl) :=
  (w.toSpaceWorld.handleG2SRemovePlayer identify playerSn).state.bind fun world =>
    let left : NpcWorld fl := { w with toSpaceWorld := world }
    match World.getPlayer w.playerMgr identify with
    | none => some left
    | some player =>
      if playerSn ≠ player.playerSn then some left
      else left.playerDisappear algs pools (w.ref player.playerSn)

/-- `HandleRequestSyncPlayer`, for a player with its record: what is saved is marked. -/
def handleRequestSyncPlayer (w : NpcWorld fl) (identify : NetIdentify) (record : PlayerProto) :
    Option (NpcWorld fl) :=
  match World.getPlayer w.playerMgr identify with
  | none => some w
  | some player =>
    ((w.bodies player.playerSn).detail.serializeToProto record).map fun (_, detail) =>
      w.setBody player.playerSn fun body => { body with detail := detail }

end NpcWorld

/-! ### The messages of clients -/

/-- `CmdType`. -/
inductive CmdType
  | none | move | attack | pick | teleport | observe | pvp
  deriving DecidableEq

/-- The type of a number; the other numbers do nothing. -/
def CmdType.ofInt (type : ℤ) : Option CmdType :=
  if type = 0 then some .none
  else if type = 1 then some .move
  else if type = 2 then some .attack
  else if type = 3 then some .pick
  else if type = 4 then some .teleport
  else if type = 5 then some .observe
  else if type = 6 then some .pvp
  else .none

/-- The messages of clients. -/
inductive ClientMsg (fl : NpcFloats)
  | playerMove (sn : UInt64) (points : List (Vector3 fl.toFloatOps))
  | npcMove (sn : UInt64) (running : Bool) (points : List (Vector3 fl.toFloatOps))
  | syncNpcPos (npcSn : UInt64) (pos : Vector3 fl.toFloatOps)
  | updateKnapItem (item : ItemData)
  | updateKnapGold (gold : Int32)
  | getPlayerKnap
  | syncPlayerPos (pos : Vector3 fl.toFloatOps)
  | syncPlayerCmd (type : ℤ) (targetSn : UInt64) (point : Vector3 fl.toFloatOps)
  | reqSyncPlayer (playerSn : UInt64)
  | reqNpcInfo (npcId : ℤ)
  | syncBtAction (id : ℤ)
  | playerAtkEvent (targetSn : UInt64)
  | npcAtkEvent (npcSn : UInt64)

/-- `detail->hp = (std::max)(detail->hp - atk, 0)`. -/
def PlayerComponentDetail.damaged (detail : PlayerComponentDetail) (atk : ℤ) : PlayerComponentDetail :=
  { detail with hp := .ofInt (max (detail.hp.toInt - atk) 0) }

/-- The rewards of an NPC. -/
def PlayerComponentDetail.rewarded (detail : PlayerComponentDetail) (list : DropItemList) :
    PlayerComponentDetail :=
  { detail with xp := .ofInt (detail.xp.toInt + list.exp), gold := .ofInt (detail.gold.toInt + list.gold) }

namespace NpcWorld

variable {fl : NpcFloats} (algs : Heap.Algorithms BtEvent.less)

/-- `5.56f`. -/
def runSpeed (fl : NpcFloats) : fl.F := fl.div (fl.ofInt 556) (fl.ofInt 100)

/-- `npcIdxMap[sn]`: a number that is not there gets the place zero. -/
def npcIdx (w : NpcWorld fl) (sn : UInt64) : ℕ × NpcWorld fl :=
  match w.npcIdxMap[sn]? with
  | some i => (i, w)
  | none => (0, { w with npcIdxMap := w.npcIdxMap.insert sn 0 })

/-- `npcs[npcIdxMap[sn]]`: the place of an NPC that is there. -/
def npcBySn (w : NpcWorld fl) (sn : UInt64) : Option (ℕ × WorldNpc fl × NpcWorld fl) :=
  let (i, w) := w.npcIdx sn
  (w.npcs[i]?).map fun npc => (i, npc, w)

/-- `npcs[id]`, for an `int`. -/
def npcById (w : NpcWorld fl) (id : ℤ) : Option (WorldNpc fl) := if id < 0 then none else w.npcs[id.toNat]?

/-- The members of a player's team that are hit with it: `WorldGather` knows all of them but the player. -/
def TeamKnown (outside : Outside fl) (playerSn : UInt64) : Prop :=
  ∀ members ∈ outside.teamMap playerSn, ∀ sn ∈ members, sn ≠ playerSn → outside.registered sn = true

instance (outside : Outside fl) (playerSn : UInt64) : Decidable (TeamKnown outside playerSn) :=
  inferInstanceAs (Decidable (∀ members ∈ outside.teamMap playerSn, ∀ sn ∈ members,
    sn ≠ playerSn → outside.registered sn = true))

/-- What the `Player::GetDamage` have in common: the hp, and whether they are zero then. -/
def damagePlayer (w : NpcWorld fl) (sn : UInt64) (atk : ℤ) : NpcWorld fl × Bool :=
  let detail := (w.bodies sn).detail.damaged atk
  (w.setBody sn fun body => { body with detail := detail }, detail.hp = 0)

/-- `Player::GetDamage`, by an NPC. -/
def getDamageByNpc (w : NpcWorld fl) (outside : Outside fl) (sn : UInt64) (enemy : Npc fl) :
    Option (NpcWorld fl) :=
  let (w, _) := w.damagePlayer sn enemy.atk
  if TeamKnown outside sn then some w else none

/-- `Player::GetDamage`, by a player. -/
def getDamageByPlayer (w : NpcWorld fl) (outside : Outside fl) (sn atker : UInt64) : Option (NpcWorld fl) :=
  let (w, dead) := w.damagePlayer sn (w.bodies atker).detail.atk.toInt
  (if dead then w.resetCmd outside.toPools (w.ref atker) else some w).bind fun w =>
    if TeamKnown outside sn then some w else none

/-- `Npc::GetDamage`, with what an attacker that kills it is granted. -/
def damageNpc (w : NpcWorld fl) (outside : Outside fl) (i : ℕ) (npc : WorldNpc fl) (attacker : UInt64) :
    Option (NpcWorld fl) :=
  let (object, rewards) :=
    npc.object.getDamage algs (w.ref attacker) (w.bodies attacker).detail.atk.toInt outside.rolls
  let w := w.setNpc i fun npc => { npc with object := object }
  match rewards with
  | none => some w
  | some list =>
    (w.resetCmd outside.toPools (w.ref attacker)).map fun w =>
      w.setBody attacker fun body => { body with detail := body.detail.rewarded list }

/-- `HandlePlayerMove`. -/
def handlePlayerMove (w : NpcWorld fl) (outside : Outside fl) (sn : UInt64)
    (points : List (Vector3 fl.toFloatOps)) : NpcWorld fl :=
  let move := (w.extras sn).move.getD { outside.move with targets := [] }
  w.setMove sn (some (({ move with moveSpeed := runSpeed fl } : MoveComponent fl.toFloatOps).setPath points
    (w.bodies sn).position))

/-- `HandleNpcMove`. -/
def handleNpcMove (w : NpcWorld fl) (sn : UInt64) (running : Bool) (points : List (Vector3 fl.toFloatOps)) :
    Option (NpcWorld fl) :=
  (w.npcBySn sn).map fun (i, _, w) =>
    w.setNpc i fun npc =>
      { npc with
        move := ({ npc.move with moveSpeed := if running then runSpeed fl else fl.walkSpeed } :
          MoveComponent fl.toFloatOps).setPath points npc.object.npc.currPos }

/-- `HandleSyncNpcPos`. -/
def handleSyncNpcPos (w : NpcWorld fl) (npcSn : UInt64) (pos : Vector3 fl.toFloatOps) : Option (NpcWorld fl) :=
  (w.npcBySn npcSn).map fun (i, _, w) =>
    w.setNpc i fun npc =>
      { npc with object := { npc.object with npc := { npc.object.npc with currPos := pos } } }

/-- `HandleUpdateKnapItem`. -/
def handleUpdateKnapItem (w : NpcWorld fl) (sn : UInt64) (item : ItemData) : Option (NpcWorld fl) :=
  ((w.bodies sn).detail.updateKnapItem item).map fun detail =>
    w.setBody sn fun body => { body with detail := detail }

/-- `HandleUpdateKnapGold`. -/
def handleUpdateKnapGold (w : NpcWorld fl) (sn : UInt64) (gold : Int32) : NpcWorld fl :=
  w.setBody sn fun body => { body with detail := { body.detail with gold := gold } }

/-- `HandleSyncPlayerPos`. -/
def handleSyncPlayerPos (w : NpcWorld fl) (sn : UInt64) (pos : Vector3 fl.toFloatOps) : NpcWorld fl :=
  w.setBody sn fun body => { body with position := pos }

/-- The command that `HandleSyncPlayerCmd` makes; the ones about a player read its serial number when they
enter. -/
def makeCmd (w : NpcWorld fl) (type : CmdType) (targetSn : UInt64) (point : Vector3 fl.toFloatOps) :
    Option (CommandKind fl × NpcWorld fl) :=
  match type with
  | .none => some (.none, w)
  | .move => some (.move point, w)
  | .attack => (w.npcBySn targetSn).map fun (i, _, w) => (.attack i, w)
  | .pick => some (.pick targetSn point, w)
  | .teleport => some (.teleport targetSn, w)
  | .observe => if w.Held targetSn then some (.observe (w.ref targetSn), w) else none
  | .pvp => if w.Held targetSn then some (.pvp (w.ref targetSn), w) else none

/-- `HandleSyncPlayerCmd`. -/
def handleSyncPlayerCmd (w : NpcWorld fl) (outside : Outside fl) (sn : UInt64) (type : ℤ) (targetSn : UInt64)
    (point : Vector3 fl.toFloatOps) : Option (NpcWorld fl) :=
  match CmdType.ofInt type with
  | none => some w
  | some type =>
    (w.makeCmd type targetSn point).bind fun (kind, w) => w.changeCmd outside.toPools (w.ref sn) (some kind)

/-- `HandleReqSyncPlayer`, which only sends. -/
def handleReqSyncPlayer (w : NpcWorld fl) (playerSn : UInt64) : Option (NpcWorld fl) :=
  if w.Held playerSn then some w else none

/-- `HandleReqNpcInfo`, which only sends. -/
def handleReqNpcInfo (w : NpcWorld fl) (npcId : ℤ) : Option (NpcWorld fl) := (w.npcById npcId).map fun _ => w

/-- `HandleSyncBtAction`: an NPC without a linker gets the player. -/
def handleSyncBtAction (w : NpcWorld fl) (sn : UInt64) (id : ℤ) : Option (NpcWorld fl) :=
  (w.npcById id).map fun npc =>
    match npc.object.npc.linker with
    | some _ => w
    | none =>
      w.setNpc id.toNat fun npc =>
        { npc with object := { npc.object with npc := { npc.object.npc with linker := some (w.ref sn) } } }

/-- `HandlePlayerAtkEvent`. -/
def handlePlayerAtkEvent (w : NpcWorld fl) (outside : Outside fl) (sn targetSn : UInt64) : Option (NpcWorld fl) :=
  if w.Held targetSn then w.getDamageByPlayer outside targetSn sn
  else if targetSn ≠ 0 then
    (w.npcBySn targetSn).bind fun (i, npc, w) => w.damageNpc algs outside i npc sn
  else some (w.setBody sn fun body => { body with detail := { body.detail with hp := 1000 } })

/-- `HandleNpcAtkEvent`. -/
def handleNpcAtkEvent (w : NpcWorld fl) (outside : Outside fl) (sn npcSn : UInt64) : Option (NpcWorld fl) :=
  (w.npcBySn npcSn).bind fun (_, npc, w) => w.getDamageByNpc outside sn npc.object.npc

/-- The handlers of the messages that come from a player of the world. -/
def handleFrom (w : NpcWorld fl) (outside : Outside fl) (sn : UInt64) : ClientMsg fl → Option (NpcWorld fl)
  | .playerMove _ points => some (w.handlePlayerMove outside sn points)
  | .npcMove npcSn running points => w.handleNpcMove npcSn running points
  | .syncNpcPos npcSn pos => w.handleSyncNpcPos npcSn pos
  | .updateKnapItem item => w.handleUpdateKnapItem sn item
  | .updateKnapGold gold => some (w.handleUpdateKnapGold sn gold)
  | .getPlayerKnap => some w
  | .syncPlayerPos pos => some (w.handleSyncPlayerPos sn pos)
  | .syncPlayerCmd type targetSn point => w.handleSyncPlayerCmd outside sn type targetSn point
  | .reqSyncPlayer playerSn => w.handleReqSyncPlayer playerSn
  | .reqNpcInfo npcId => w.handleReqNpcInfo npcId
  | .syncBtAction id => w.handleSyncBtAction sn id
  | .playerAtkEvent targetSn => w.handlePlayerAtkEvent algs outside sn targetSn
  | .npcAtkEvent npcSn => w.handleNpcAtkEvent outside sn npcSn

/-- A message of a client.  Only `HandleSyncNpcPos` is called without a player. -/
def handle (w : NpcWorld fl) (outside : Outside fl) (identify : NetIdentify) (msg : ClientMsg fl) :
    Option (NpcWorld fl) :=
  match World.getPlayer w.playerMgr identify with
  | some player => w.handleFrom algs outside player.playerSn msg
  | none =>
    match msg with
    | .syncNpcPos npcSn pos => w.handleSyncNpcPos npcSn pos
    | _ => some w

end NpcWorld

/-! ### What happens to a world -/

/-- What happens to a world: its messages, the timer, the updates of NPCs, commands and places, and a player
that enters another world of the thread. -/
inductive WorldEvent (fl : NpcFloats)
  | syncPlayer (identify : NetIdentify) (proto : SyncPlayer fl.toFloatOps) (cmd : CmdObject fl)
    (object : Option PlayerRef)
  | networkDisconnect (pools : Pools fl) (identify : NetIdentify)
  | removePlayer (pools : Pools fl) (identify : NetIdentify) (playerSn : UInt64)
  | requestSyncPlayer (identify : NetIdentify) (record : PlayerProto)
  | client (outside : Outside fl) (identify : NetIdentify) (msg : ClientMsg fl)
  | syncAppear
  | updateNpc (i : ℕ) (timeTick : UInt64) (roll : Fin 4)
  | updateCmd (pools : Pools fl) (sn : UInt64)
  | moveNpc (i : ℕ) (timeElapsed : fl.F)
  | movePlayer (sn : UInt64) (timeElapsed : fl.F)
  | enterElsewhere

/-- The events in which a player enters or leaves. -/
def WorldEvent.entersOrLeaves {fl : NpcFloats} : WorldEvent fl → Bool
  | .syncPlayer _ _ _ _ | .networkDisconnect _ _ | .removePlayer _ _ _ => true
  | .requestSyncPlayer _ _ | .client _ _ _ | .syncAppear | .updateNpc _ _ _ | .updateCmd _ _ | .moveNpc _ _
  | .movePlayer _ _ | .enterElsewhere => false

/-- The configuration of an NPC. -/
structure ResourceNpc (fl : NpcFloats) where
  id : ℤ
  level : ℤ
  initHp : ℤ
  initAtk : ℤ
  initPos : Vector3 fl.toFloatOps

/-- `Npc::Awake`, of a new `Npc`. -/
def Npc.awake {fl : NpcFloats} (sn : UInt64) (cfg : ResourceNpc fl) : Npc fl where
  sn := sn
  id := cfg.id
  lv := cfg.level
  hp := cfg.initHp
  initHp := cfg.initHp
  atk := cfg.initAtk
  fleeing := false
  rebirth := false
  target := none
  linker := none
  initPos := cfg.initPos
  currPos := cfg.initPos
  nextPos := cfg.initPos

namespace NpcWorld

variable {fl : NpcFloats} (algs : Heap.Algorithms BtEvent.less)

/-- A round of the loop of `World::Awake`: an NPC of the configuration, with its serial number. -/
def addNpc (config : BtConfig) (w : NpcWorld fl) (cfg : UInt64 × ResourceNpc fl × (ℕ → Fin 4)) : NpcWorld fl :=
  { w with
    npcs := w.npcs ++
      [⟨.awake (.awake cfg.1 cfg.2.1) config cfg.2.2, ⟨fl.walkSpeed, [], .create fl.toFloatOps⟩⟩]
    npcIdxMap :=
      match w.npcIdxMap[cfg.1]? with
      | some _ => w.npcIdxMap
      | none => w.npcIdxMap.insert cfg.1 w.npcs.length }

/-- `World::Awake`: there is no player, and the NPCs have different serial numbers. -/
structure Awakes (w : NpcWorld fl) : Prop where
  players : w.playerMgr = .empty
  npcs : ∃ (empty : NpcWorld fl) (config : BtConfig) (cfgs : List (UInt64 × ResourceNpc fl × (ℕ → Fin 4))),
    empty.npcs = [] ∧ empty.npcIdxMap = ∅ ∧ (cfgs.map Prod.fst).Nodup ∧ w = cfgs.foldl (addNpc config) empty

/-- `MoveSystem::Update`, for an NPC. -/
def moveNpc (w : NpcWorld fl) (i : ℕ) (timeElapsed : fl.F) : NpcWorld fl :=
  w.setNpc i fun npc =>
    let moved := npc.move.update timeElapsed npc.object.npc.currPos npc.move.moveSpeed
    { object := { npc.object with npc := { npc.object.npc with currPos := moved.2.1 } }, move := moved.1 }

/-- `MoveSystem::Update`, for a player: the component goes at the end of the path. -/
def movePlayer (w : NpcWorld fl) (sn : UInt64) (timeElapsed : fl.F) : NpcWorld fl :=
  match (w.extras sn).move with
  | none => w
  | some move =>
    let moved := move.update timeElapsed (w.bodies sn).position (runSpeed fl)
    (w.setBody sn fun body => { body with position := moved.2.1 }).setMove sn
      (if moved.2.2 then none else some moved.1)

/-- `BtComponent::Update`, of an NPC. -/
def updateNpc (w : NpcWorld fl) (i : ℕ) (timeTick : UInt64) (roll : Fin 4) : Option (NpcWorld fl) :=
  (w.npcs[i]?).bind fun npc =>
    (npc.object.update algs (w.surroundings timeTick roll)).map fun (object, _) =>
      w.setNpc i fun npc => { npc with object := object }

/-- One event. -/
def step (w : NpcWorld fl) : WorldEvent fl → Option (NpcWorld fl)
  | .syncPlayer identify proto cmd object => w.handleSyncPlayer identify proto cmd object
  | .networkDisconnect pools identify => w.handleNetworkDisconnect algs pools identify
  | .removePlayer pools identify playerSn => w.handleG2SRemovePlayer algs pools identify playerSn
  | .requestSyncPlayer identify record => w.handleRequestSyncPlayer identify record
  | .client outside identify msg => w.handle algs outside identify msg
  | .syncAppear => some { w with adds := ∅ }
  | .updateNpc i timeTick roll => w.updateNpc algs i timeTick roll
  | .updateCmd pools sn => if w.Held sn then w.updateCmd pools sn else none
  | .moveNpc i timeElapsed => some (w.moveNpc i timeElapsed)
  | .movePlayer sn timeElapsed => if w.Held sn then some (w.movePlayer sn timeElapsed) else none
  | .enterElsewhere => some { w with entries := w.entries + 1 }

/-- The runs of a world. -/
def system : System (NpcWorld fl) (WorldEvent fl) := .ofFun Awakes (step algs)

end NpcWorld

end MmoServer
