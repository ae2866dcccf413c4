/-
**Objects from a pool, and the ones that were there before.**

An object that is given back to its pool is used again, and `Awake` prepares it for its next user.  What
neither `BackToPool` nor `Awake` sets is as the last user left it: the pointers of a player, the command
of a player's component for commands, the direction and the speed of one that moves.  A packet and a
connection keep their allocations, but nothing that is in them.

A pointer is the number of what it points to.  The numbers that a `float` stands for, and what is
calculated with them, are a parameter.

Main definitions:

* `MmoServer.PooledClass` — a class of objects with its constructor, `Awake`, `BackToPool`, and its
  operations;
* `MmoServer.PooledClass.again`, `MmoServer.PooledClass.first` — what its next user sees of an object
  with a history, and of a new one;
* `MmoServer.PooledName` — the classes, with `MmoServer.PooledName.Clean`: what the last user has to
  leave as it was.

Main results:

* `MmoServer.recycled_iff` — **the next user sees no difference** exactly if the object was left clean;
* `MmoServer.not_recycled` — a command is still there.
-/

import MmoServer.NetworkLocator
import MmoServer.PlayerManager

set_option relaxedAutoImplicit false
set_option autoImplicit false

namespace MmoServer

/-! ### Classes -/

/-- A class whose objects come from a pool.  An operation, or `Awake`, that reads through a null pointer
or outside of an allocation has no resulting state. -/
structure PooledClass where
  State : Type
  Args : Type
  Op : Type
  View : Type
  fresh : State
  awake : Args → State → Option State
  backToPool : State → State
  op : State → Op → Option State
  /-- What is seen of an object. -/
  view : State → View

namespace PooledClass

/-- What is done with an object. -/
inductive Event (c : PooledClass)
  | awake (args : c.Args)
  | op (o : c.Op)
  | backToPool

variable {c : PooledClass}

/-- One of them. -/
def step (s : c.State) : c.Event → Option c.State
  | .awake args => c.awake args s
  | .op o => c.op s o
  | .backToPool => some (c.backToPool s)

/-- A history of an object. -/
def run (c : PooledClass) (history : List c.Event) : Option c.State := history.foldlM step c.fresh

/-- What its next user sees. -/
def again (c : PooledClass) (history : List c.Event) (args : c.Args) : Option c.View :=
  ((c.run history).bind fun s => c.awake args (c.backToPool s)).map c.view

/-- What the first user of an object sees. -/
def first (c : PooledClass) (args : c.Args) : Option c.View := (c.awake args c.fresh).map c.view

theorem again_eq {history : List c.Event} {s : c.State} (hs : c.run history = some s)
    (args : c.Args) : c.again history args = (c.awake args (c.backToPool s)).map c.view := by
  simp [again, hs]

end PooledClass

/-! ### Players -/

/-- `Proto::Player`: its name, and the bytes of its other fields. -/
structure PlayerFields where
  name : List UInt8
  other : List UInt8
  deriving DecidableEq

/-- `Player`, with all its fields. -/
structure PooledPlayer extends NetIdentify where
  account : List UInt8
  name : List UInt8
  playerSn : UInt64
  player : PlayerFields
  lastMap : Option ℕ
  detail : Option ℕ
  curWorld : Option ℕ

namespace PooledPlayer

/-- The arguments of the two functions `Awake`. -/
inductive Args
  | account (identify : Option NetIdentify) (account : List UInt8)
  | player (identify : Option NetIdentify) (playerSn worldSn : UInt64)

/-- What is done with a player. -/
inductive Op
  | parserFromProto (playerSn : UInt64) (proto : PlayerFields)
  | parseFromStream (playerSn : UInt64) (proto : PlayerFields)
  /-- The pointers are set, as in `World::HandleSyncPlayer`. -/
  | setPointers (detail lastMap curWorld : Option ℕ)
  /-- The socket and the tags are changed. -/
  | setIdentify (identify : NetIdentify)

/-- The constructor. -/
def create : PooledPlayer := ⟨.empty, [], [], 0, ⟨[], []⟩, none, none, none⟩

/-- `Awake`. -/
def awake : Args → PooledPlayer → Option PooledPlayer
  | .account identify account, s =>
    some { s with
      account := account
      playerSn := 0
      player := ⟨[], []⟩
      tagKey := TagKey.clear.addTagStr .account account
      socketKey :=
        match identify with
        | none => s.socketKey
        | some n => n.socketKey }
  | .player identify playerSn worldSn, s =>
    let t : PooledPlayer := { s with
      account := []
      playerSn := playerSn
      player := ⟨[], []⟩
      tagKey := (TagKey.clear.addTagInt .player playerSn).addTagInt .entity worldSn }
    match identify with
    | none => some t
    | some n =>
      -- `SocketKey::CopyFrom`, of an identification, takes the number from its tags
      match n.tagKey.getTagValue .socket with
      | none => none
      | some value =>
        some { t with socketKey := ⟨tagSocket value.keyInt64, n.socketKey.netType⟩ }

/-- `BackToPool`. -/
def backToPool (s : PooledPlayer) : PooledPlayer :=
  { s with
    account := []
    name := []
    playerSn := 0
    player := ⟨[], []⟩
    socketKey := .none
    tagKey := .clear }

/-- One operation. -/
def op (s : PooledPlayer) : Op → Option PooledPlayer
  | .parserFromProto playerSn proto =>
    some { s with playerSn := playerSn, player := proto, name := proto.name }
  | .parseFromStream playerSn proto => some { s with playerSn := playerSn, player := proto }
  | .setPointers detail lastMap curWorld =>
    some { s with detail := detail, lastMap := lastMap, curWorld := curWorld }
  | .setIdentify identify => some { s with toNetIdentify := identify }

/-- The class.  All fields are seen. -/
def cls : PooledClass where
  State := PooledPlayer
  Args := Args
  Op := Op
  View := PooledPlayer
  fresh := create
  awake := awake
  backToPool := backToPool
  op := op
  view := id

/-- No pointer was set. -/
def Clean (s : PooledPlayer) : Prop := s.lastMap = none ∧ s.detail = none ∧ s.curWorld = none

/-- `Awake` does not set the pointers. -/
theorem awake_pointers {args : Args} {s t : PooledPlayer} (h : awake args s = some t) :
    t.lastMap = s.lastMap ∧ t.detail = s.detail ∧ t.curWorld = s.curWorld := by
  cases args with
  | account identify account =>
      obtain rfl := Option.some.inj h
      exact ⟨rfl, rfl, rfl⟩
  | player identify playerSn worldSn =>
      cases identify with
      | none =>
          obtain rfl := Option.some.inj h
          exact ⟨rfl, rfl, rfl⟩
      | some n =>
          simp only [awake] at h
          split at h
          · cases h
          · obtain rfl := Option.some.inj h
            exact ⟨rfl, rfl, rfl⟩

theorem backToPool_of_clean {s : PooledPlayer} (h : s.Clean) : s.backToPool = create := by
  obtain ⟨hlastMap, hdetail, hcurWorld⟩ := h
  simp [backToPool, create, NetIdentify.empty, hlastMap, hdetail, hcurWorld]

/-- A player looks like a new one exactly if its pointers do. -/
theorem again_iff (s : PooledPlayer) :
    (∀ args, (awake args s.backToPool).map cls.view = (awake args create).map cls.view) ↔
      s.Clean := by
  constructor
  · intro hsame
    have hview := hsame (.account none [])
    simp only [cls, Option.map_id_fun, id_eq] at hview
    obtain ⟨t, ht⟩ : ∃ t, awake (.account none []) create = some t := ⟨_, rfl⟩
    obtain ⟨hlastMap, hdetail, hcurWorld⟩ := awake_pointers (hview.trans ht)
    obtain ⟨hlastMap', hdetail', hcurWorld'⟩ := awake_pointers ht
    exact ⟨hlastMap.symm.trans hlastMap', hdetail.symm.trans hdetail',
      hcurWorld.symm.trans hcurWorld'⟩
  · intro hclean args
    rw [backToPool_of_clean hclean]

end PooledPlayer

/-! ### Commands -/

/-- `CmdComponent`. -/
structure CmdComponent where
  parent : Option ℕ
  prevCmd : Option ℕ
  currCmd : Option ℕ
  deriving DecidableEq

namespace CmdComponent

/-- What is done with the component. -/
inductive Op
  /-- `ChangeCmd`, and `ResetCmd`, which makes the command itself. -/
  | changeCmd (newCmd : Option ℕ)
  /-- `Update`, in which the command has finished or not. -/
  | update (finish : Bool)

/-- `ChangeCmd`. -/
def changeCmd (s : CmdComponent) (newCmd : Option ℕ) : CmdComponent :=
  { s with prevCmd := s.currCmd, currCmd := newCmd }

/-- One operation. -/
def op (s : CmdComponent) : Op → Option CmdComponent
  | .changeCmd newCmd => some (s.changeCmd newCmd)
  | .update finish => some (if s.currCmd.isSome ∧ finish = true then s.changeCmd none else s)

/-- The class.  `_prevCmd` is not seen: it is only deleted.  `Awake` takes the parent that the pool has
set. -/
def cls : PooledClass where
  State := CmdComponent
  Args := Option ℕ
  Op := Op
  View := Option ℕ × Option ℕ
  fresh := ⟨none, none, none⟩
  awake := fun parent s => some { s with parent := parent }
  backToPool := fun s => s
  op := op
  view := fun s => (s.parent, s.currCmd)

/-- The component looks like a new one exactly if it has no command. -/
theorem again_iff (s : CmdComponent) :
    (∀ args, (cls.awake args (cls.backToPool s)).map cls.view =
        (cls.awake args cls.fresh).map cls.view) ↔ s.currCmd = none := by
  constructor
  · intro hsame
    simpa [cls] using hsame none
  · intro hnone parent
    simp [cls, hnone]

end CmdComponent

/-! ### Moving -/

/-- The numbers of a `float`, and what is calculated with them. -/
structure FloatOps where
  F : Type
  zero : F
  /-- The constants `1.56f` and `0.001`. -/
  walkSpeed : F
  milli : F
  add : F → F → F
  sub : F → F → F
  mul : F → F → F
  div : F → F → F
  sqrt : F → F
  lt : F → F → Bool

/-- `Vector3`. -/
structure Vector3 (fl : FloatOps) where
  x : fl.F
  y : fl.F
  z : fl.F

/-- `Vector3::GetDistance`. -/
def Vector3.getDistance {fl : FloatOps} (v point : Vector3 fl) : fl.F :=
  let xv := fl.sub point.x v.x
  let zv := fl.sub point.z v.z
  fl.sqrt (fl.add (fl.mul xv xv) (fl.mul zv zv))

/-- `MoveVector3`. -/
structure MoveVector3 (fl : FloatOps) where
  target : Vector3 fl
  scaleX : fl.F
  scaleZ : fl.F

/-- `MoveVector3::SetTarget`. -/
def MoveVector3.setTarget {fl : FloatOps} (target position : Vector3 fl) : MoveVector3 fl :=
  let xdis := fl.sub target.x position.x
  let zdis := fl.sub target.z position.z
  let distance := fl.sqrt (fl.add (fl.mul xdis xdis) (fl.mul zdis zdis))
  ⟨target, fl.div xdis distance, fl.div zdis distance⟩

/-- A `MoveVector3` as it is constructed. -/
def MoveVector3.create (fl : FloatOps) : MoveVector3 fl :=
  ⟨⟨fl.zero, fl.zero, fl.zero⟩, fl.zero, fl.zero⟩

/-- `MoveComponent`. -/
structure MoveComponent (fl : FloatOps) where
  moveSpeed : fl.F
  targets : List (Vector3 fl)
  vector : MoveVector3 fl

namespace MoveComponent

variable {fl : FloatOps}

/-- What is done with the component. -/
inductive Op (fl : FloatOps)
  | setPath (targets : List (Vector3 fl)) (curPosition : Vector3 fl)
  /-- `Update`, of what is at the given position. -/
  | update (timeElapsed : fl.F) (curPosition : Vector3 fl) (speed : fl.F)
  | setMoveSpeed (speed : fl.F)

/-- `SetPath`. -/
def setPath (s : MoveComponent fl) (targets : List (Vector3 fl)) (curPosition : Vector3 fl) :
    MoveComponent fl :=
  match targets with
  | [] => s
  | v3 :: rest => { s with targets := rest, vector := .setTarget v3 curPosition }

/-- `Update`, with the new position, and whether the path has ended. -/
def update (s : MoveComponent fl) (timeElapsed : fl.F) (curPosition : Vector3 fl) (speed : fl.F) :
    MoveComponent fl × Vector3 fl × Bool :=
  let moveDis := fl.mul (fl.mul timeElapsed fl.milli) speed
  if fl.lt (curPosition.getDistance s.vector.target) moveDis then
    match s.targets with
    | [] => (s, s.vector.target, true)
    | v3 :: rest =>
      ({ s with targets := rest, vector := .setTarget v3 s.vector.target }, s.vector.target, false)
  else
    (s, { curPosition with
      x := fl.add curPosition.x (fl.mul moveDis s.vector.scaleX)
      z := fl.add curPosition.z (fl.mul moveDis s.vector.scaleZ) }, false)

/-- One operation. -/
def op (s : MoveComponent fl) : Op fl → Option (MoveComponent fl)
  | .setPath targets curPosition => some (s.setPath targets curPosition)
  | .update timeElapsed curPosition speed => some (s.update timeElapsed curPosition speed).1
  | .setMoveSpeed speed => some { s with moveSpeed := speed }

/-- The class.  All fields are seen: the first two by `Update`, the last one by the system that calls
it. -/
def cls (fl : FloatOps) : PooledClass where
  State := MoveComponent fl
  Args := Unit
  Op := Op fl
  View := MoveComponent fl
  fresh := ⟨fl.walkSpeed, [], .create fl⟩
  awake := fun _ s => some { s with targets := [] }
  backToPool := fun s => { s with targets := [] }
  op := op
  view := id

/-- The direction and the speed are those of a new component. -/
def Clean (s : MoveComponent fl) : Prop := s.vector = .create fl ∧ s.moveSpeed = fl.walkSpeed

/-- The component looks like a new one exactly if its direction and its speed do. -/
theorem again_iff (s : MoveComponent fl) :
    (∀ args, ((cls fl).awake args ((cls fl).backToPool s)).map (cls fl).view =
        ((cls fl).awake args (cls fl).fresh).map (cls fl).view) ↔ s.Clean := by
  constructor
  · intro hsame
    have hfields : s.moveSpeed = fl.walkSpeed ∧ s.vector = .create fl := by
      simpa [cls] using hsame ()
    exact ⟨hfields.2, hfields.1⟩
  · rintro ⟨hvector, hspeed⟩ args
    simp [cls, hvector, hspeed]

end MoveComponent

/-! ### Packets -/

namespace Packet

/-- What is done with a packet. -/
inductive Op
  | fillData (size : ℕ)
  | reAllocBuffer
  | memcpy (src : List UInt8)
  | addRef
  | removeRef
  | openRef
  | setIdentify (identify : NetIdentify)

/-- One operation. -/
def op (p : Packet) : Op → Option Packet
  | .fillData size => some (p.fillData size)
  | .reAllocBuffer => p.reAllocBuffer
  | .memcpy src => p.memcpy src
  | .addRef => some p.addRef
  | .removeRef => some p.removeRef
  | .openRef => some p.openRef
  | .setIdentify identify => some { p with toNetIdentify := identify }

/-- `BackToPool`. -/
def backToPool (p : Packet) : Packet where
  bytes := p.bytes
  beginIndex := 0
  endIndex := 0
  socketKey := .none
  tagKey := .clear
  msgId := .none
  ref := 0
  isRefOpen := false

/-- What is seen of a packet: not what its allocation has outside of the body, and not its size. -/
structure View extends NetIdentify where
  msgId : MsgId
  ref : ℤ
  isRefOpen : Bool
  beginIndex : ℕ
  endIndex : ℕ
  body : List UInt8

/-- What is seen of a packet. -/
def view (p : Packet) : View :=
  ⟨p.toNetIdentify, p.msgId, p.ref, p.isRefOpen, p.beginIndex, p.endIndex, p.body⟩

/-- The class. -/
def cls : PooledClass where
  State := Packet
  Args := MsgId × Option NetIdentify
  Op := Op
  View := View
  fresh := create
  awake := fun args p => some (p.awake args.1 args.2)
  backToPool := backToPool
  op := op
  view := view

/-- **A packet that is set up** shows nothing of what it was. -/
theorem view_awake (p q : Packet) (msgId : MsgId) (identify : Option NetIdentify) :
    (p.awake msgId identify).view = (q.awake msgId identify).view := by
  simp [view, awake, body, getDataLength, sub32]

end Packet

/-! ### Connections -/

/-- `ConnectObj`, with all its fields. -/
structure PooledConnect extends NetIdentify where
  state : ConnectStateType
  recvBuffer : NetworkBuffer
  sendBuffer : NetworkBuffer

namespace PooledConnect

/-- The arguments of `Awake`. -/
structure Args where
  socket : ℤ
  networkType : NetworkType
  tagType : TagType
  tagValue : TagValue
  state : ConnectStateType

/-- What is done with a connection. -/
inductive Op
  /-- `recv` writes into the buffer; the first bytes are read and removed; the buffer grows. -/
  | recvFill (src : List UInt8)
  | recvRemove (size : ℕ)
  | recvReAlloc
  /-- Bytes of a packet are added; some of them are sent; the buffer grows. -/
  | sendAdd (src : List UInt8)
  | sendRemove (size : ℕ)
  | sendReAlloc
  | changeStateToConnected
  | setIdentify (identify : NetIdentify)

/-- The constructor. -/
def create : PooledConnect :=
  ⟨.empty, .none, .create defaultBufferSize, .create defaultBufferSize⟩

/-- `Awake`. -/
def awake (args : Args) (s : PooledConnect) : PooledConnect :=
  { s with
    socketKey := ⟨args.socket, args.networkType⟩
    tagKey :=
      if args.tagType ≠ .none then TagKey.clear.addTag args.tagType args.tagValue else .clear
    state := args.state }

/-- `BackToPool`. -/
def backToPool (s : PooledConnect) : PooledConnect where
  socketKey := .none
  tagKey := .clear
  state := .none
  recvBuffer := s.recvBuffer.backToPool
  sendBuffer := s.sendBuffer.backToPool

/-- One operation. -/
def op (s : PooledConnect) : Op → Option PooledConnect
  | .recvFill src => (s.recvBuffer.recvFill src).map fun b => { s with recvBuffer := b }
  | .recvRemove size => some { s with recvBuffer := s.recvBuffer.removeData size }
  | .recvReAlloc => s.recvBuffer.reAllocBuffer.map fun b => { s with recvBuffer := b }
  | .sendAdd src => (s.sendBuffer.memcpyToBuffer src).map fun b => { s with sendBuffer := b }
  | .sendRemove size => some { s with sendBuffer := s.sendBuffer.removeData size }
  | .sendReAlloc => s.sendBuffer.reAllocBuffer.map fun b => { s with sendBuffer := b }
  | .changeStateToConnected => some { s with state := .connected }
  | .setIdentify identify => some { s with toNetIdentify := identify }

/-- What is seen of a buffer: its indices, and the bytes that it holds. -/
def viewBuffer (b : NetworkBuffer) : ℕ × ℕ × ℕ × Option (List UInt8) :=
  (b.beginIndex, b.endIndex, b.dataSize, b.memcpyFromBuffer b.dataSize)

/-- What is seen of a connection. -/
structure View extends NetIdentify where
  state : ConnectStateType
  recvBuffer : ℕ × ℕ × ℕ × Option (List UInt8)
  sendBuffer : ℕ × ℕ × ℕ × Option (List UInt8)

/-- The class. -/
def cls : PooledClass where
  State := PooledConnect
  Args := Args
  Op := Op
  View := View
  fresh := create
  awake := fun args s => some (s.awake args)
  backToPool := backToPool
  op := op
  view := fun s => ⟨s.toNetIdentify, s.state, viewBuffer s.recvBuffer, viewBuffer s.sendBuffer⟩

/-- **A buffer that is given back** holds nothing. -/
theorem viewBuffer_backToPool (b : NetworkBuffer) : viewBuffer b.backToPool = (0, 0, 0, some []) := by
  simp [viewBuffer, NetworkBuffer.backToPool, NetworkBuffer.memcpyFromBuffer,
    NetworkBuffer.getReadSize, readAt]

theorem viewBuffer_create (size : ℕ) :
    viewBuffer (NetworkBuffer.create size) = (0, 0, 0, some []) := by
  simp [viewBuffer, NetworkBuffer.create, NetworkBuffer.memcpyFromBuffer,
    NetworkBuffer.getReadSize, readAt]

/-- **A connection that is set up** shows nothing of what it was. -/
theorem view_awake (s : PooledConnect) (args : Args) :
    cls.view (s.backToPool.awake args) = cls.view (create.awake args) := by
  simp [cls, awake, backToPool, create, viewBuffer_backToPool, viewBuffer_create,
    NetIdentify.empty]

end PooledConnect

/-! ### The classes together -/

/-- The classes. -/
inductive PooledName
  | player | cmdComponent | moveComponent | packet | connectObj
  deriving DecidableEq

namespace PooledName

/-- A class by its name. -/
def cls (fl : FloatOps) : PooledName → PooledClass
  | player => PooledPlayer.cls
  | cmdComponent => CmdComponent.cls
  | moveComponent => MoveComponent.cls fl
  | packet => Packet.cls
  | connectObj => PooledConnect.cls

/-- **An object was left clean**: what is not set for the next user is as in a new object. -/
def Clean (fl : FloatOps) : (k : PooledName) → (k.cls fl).State → Prop
  | player => PooledPlayer.Clean
  | cmdComponent => fun s : CmdComponent => s.currCmd = none
  | moveComponent => fun s : MoveComponent fl => s.Clean
  | packet => fun _ => True
  | connectObj => fun _ => True

end PooledName

/-- **The next user sees no difference** exactly if the object was left clean. -/
theorem recycled_iff (fl : FloatOps) (k : PooledName) (history : List (k.cls fl).Event)
    {s : (k.cls fl).State} (hs : (k.cls fl).run history = some s) :
    (∀ args, (k.cls fl).again history args = (k.cls fl).first args) ↔ k.Clean fl s := by
  have hagain : (∀ args, (k.cls fl).again history args = (k.cls fl).first args) ↔
      ∀ args, ((k.cls fl).awake args ((k.cls fl).backToPool s)).map (k.cls fl).view =
        ((k.cls fl).awake args (k.cls fl).fresh).map (k.cls fl).view := by
    simp only [PooledClass.again_eq hs, PooledClass.first]
  rw [hagain]
  cases k with
  | player => exact PooledPlayer.again_iff s
  | cmdComponent => exact CmdComponent.again_iff s
  | moveComponent => exact MoveComponent.again_iff s
  | packet => exact iff_of_true (fun args => congrArg some (Packet.view_awake _ _ args.1 args.2)) trivial
  | connectObj => exact iff_of_true (fun args => congrArg some (PooledConnect.view_awake s args)) trivial

/-- Whole numbers in place of a `float`. -/
def FloatOps.int : FloatOps where
  F := ℤ
  zero := 0
  walkSpeed := 1
  milli := 1
  add := (· + ·)
  sub := (· - ·)
  mul := (· * ·)
  div := (· / ·)
  sqrt := id
  lt := fun a b => decide (a < b)

/-- A player whose command has finished, and the next one. -/
theorem recycled_finish :
    PooledName.cmdComponent.Clean .int ⟨some 1, some 2, none⟩ ∧
      ∀ args, (PooledName.cmdComponent.cls .int).again
          [.awake (some 1), .op (.changeCmd (some 2)), .op (.update true)] args =
        (PooledName.cmdComponent.cls .int).first args := by
  refine ⟨rfl, ?_⟩
  have hrun : (PooledName.cmdComponent.cls .int).run
      [.awake (some 1), .op (CmdComponent.Op.changeCmd (some 2)),
        .op (CmdComponent.Op.update true)] = some ⟨some 1, some 2, none⟩ := rfl
  exact (recycled_iff .int .cmdComponent _ hrun).2 rfl

/-- **A command is still there**: the next player goes on with it. -/
theorem not_recycled :
    ¬ ∀ (fl : FloatOps) (k : PooledName) (history : List (k.cls fl).Event) (s : (k.cls fl).State),
        (k.cls fl).run history = some s →
        ∀ args, (k.cls fl).again history args = (k.cls fl).first args := by
  intro hall
  have hsame := hall .int .cmdComponent
    [.awake (some 1), .op (CmdComponent.Op.changeCmd (some 2))] ⟨some 1, none, some 2⟩ rfl (some 3)
  have hviews : (some (some 3, some 2) : Option (Option ℕ × Option ℕ)) = some (some 3, none) := hsame
  simp at hviews

end MmoServer
