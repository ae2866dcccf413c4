/-
**The table of connections.**

A network has a table with a slot for each socket number, and a set of the numbers that are in use.  A
descriptor that the system gives out, by `::accept` or `::socket`, gets an object of the pool and a slot; the
object closes it when it goes back to the pool.  Before that, `CheckSocket` closes it if it has an error, and
so do `Accept` and `Connect` themselves.

A step is a call of `Accept`, of `Connect` or of `HandleDisconnect`, or an event of a socket.  What the
system answers is given by the environment.  It does not give out a number that is open.

Main definitions:

* `MmoServer.TableConnect`, `MmoServer.ConnTable` — connections, and the table;
* `MmoServer.ConnTable.createConnectObj`, `MmoServer.ConnTable.accept`, `MmoServer.ConnTable.connect`,
  `MmoServer.ConnTable.handleReport` — what is done with it;
* `MmoServer.tableSystem` — its runs;
* `MmoServer.ConnTable.Sound` — each descriptor is closed once, and the table and the set agree;
* `MmoServer.ConnTable.AcceptOk` — no accepted socket has an error.

Main results:

* `MmoServer.ConnTable.Inv.step` — **what every step keeps**;
* `MmoServer.tableSound_run` — **the table is sound in every run** in which no accepted socket has an error,
  and the first one that has is closed twice.
-/

import Mathlib.Data.Finset.Insert
import Mathlib.Data.Finset.Erase
import Mathlib.Logic.Function.Basic
import MmoServer.RecvDrain
import MmoServer.StrandedBytes

set_option relaxedAutoImplicit false
set_option autoImplicit false

namespace MmoServer

open Transition

/-! ### The table -/

/-- `MAX_CLIENT`. -/
def maxClient : ℕ := 5120

/-- What a connection that was made is announced with. -/
inductive Announcement
  /-- `NetworkLocator::AddNetworkIdentify`. -/
  | addNetworkIdentify (appKey : UInt64)
  /-- `MI_NetworkConnected`. -/
  | networkConnected
  deriving DecidableEq

/-- What happens to a connection. -/
inductive ConnLog
  /-- `Connect` has created it, with this App tag. -/
  | created (conn : ℕ) (app : Option UInt64)
  /-- The system has established it. -/
  | established (conn : ℕ)
  /-- Its state is `Connected` now. -/
  | connected (conn : ℕ)
  | announced (conn : ℕ) (a : Announcement)
  /-- `Recv` or `Send` has handled data on it. -/
  | handled (conn : ℕ)
  deriving DecidableEq

/-- `ConnectObj`: the number of the connection, the object of the pool, the socket, the App tag and the state,
and whether the system has established it. -/
structure TableConnect where
  conn : ℕ
  object : ℕ
  socket : ℕ
  app : Option UInt64
  state : ConnectStateType
  established : Bool

/-- `Network`, the pool of its connections, and the system. -/
structure ConnTable where
  /-- `_connects`. -/
  connects : ℕ → Option TableConnect
  /-- `_sockets`. -/
  sockets : Finset ℕ
  /-- The objects that the pool hands out, those that were given back since its last update, and the number of
  all objects. -/
  free : List ℕ
  returned : List ℕ
  objects : ℕ
  /-- For each number, its descriptors from the newest on: how often each was closed. -/
  descriptors : ℕ → List ℕ
  /-- The number of connections that were made, and what happened to them. -/
  conns : ℕ
  log : List ConnLog

/-- An event of a socket. -/
structure TableReport where
  socket : ℕ
  /-- `EPOLLRDHUP`, `EPOLLERR` or `EPOLLHUP`; in the select build, the set of exceptions. -/
  broken : Bool
  /-- It can be read, and what `Recv` returns for an established connection. -/
  input : Option Bool
  /-- It can be written, and what `Send` returns. -/
  output : Option Bool

/-- The steps. -/
inductive TableEvent
  /-- `Accept`: the sockets that `::accept` returns, and whether `::getsockopt` finds no error. -/
  | accept (calls : List (ℕ × Bool))
  /-- `Connect`: the socket, unless there is none; the error of `::connect`, unless it succeeds; what
  `::getsockopt` finds; and the App tag. -/
  | connect (socket : Option ℕ) (error : Option ℤ) (checked : Bool) (app : Option UInt64)
  /-- The system has established a connection. -/
  | establish (socket : ℕ)
  /-- `HandleDisconnect`, with a packet of this type of network or of another one. -/
  | handleDisconnect (same : Bool) (socket : ℕ)
  | report (e : TableReport)
  /-- The update of the pool. -/
  | poolUpdate

/-- How the newest of some descriptors is closed. -/
def closeNewest : List ℕ → List ℕ
  | [] => []
  | closes :: older => (closes + 1) :: older

/-- What a connection is announced with: by its App tag, if it has one. -/
def connectAnnouncement : Option UInt64 → Announcement
  | some appKey => .addNetworkIdentify appKey
  | none => .networkConnected

namespace ConnTable

/-- The number is open. -/
def isOpen (s : ConnTable) (socket : ℕ) : Bool := (s.descriptors socket).head? = some 0

/-- The system gives out a descriptor. -/
def newDescriptor (s : ConnTable) (socket : ℕ) : Option ConnTable :=
  if socket < maxClient ∧ s.isOpen socket = false then
    some { s with descriptors := Function.update s.descriptors socket (0 :: s.descriptors socket) }
  else none

/-- `_sock_close`. -/
def sockClose (s : ConnTable) (socket : ℕ) : ConnTable :=
  { s with descriptors := Function.update s.descriptors socket (closeNewest (s.descriptors socket)) }

/-- `MallocObject`, which creates fifty objects if there is none. -/
def mallocObject (s : ConnTable) : ℕ × ConnTable :=
  match s.free with
  | [] => (s.objects, { s with free := (List.range 49).map (s.objects + 1 + ·), objects := s.objects + 50 })
  | object :: free => (object, { s with free := free })

/-- `RemoveConnectObj`, with `ConnectObj::BackToPool`. -/
def removeConnectObj (s : ConnTable) (socket : ℕ) : ConnTable :=
  match s.connects socket with
  | none => s
  | some obj =>
    { s.sockClose obj.socket with
      connects := Function.update s.connects socket none
      sockets := s.sockets.erase socket
      returned := s.returned ++ [obj.object] }

/-- `CreateConnectObj`, of a connection that goes out or comes in.  `CheckSocket` closes the socket if it has an
error; if the number has a slot, both are given up. -/
def createConnectObj (s : ConnTable) (socket : ℕ) (checked : Bool) (app : Option UInt64)
    (state : ConnectStateType) (outgoing established : Bool) : Bool × ConnTable :=
  if checked = false then (false, s.sockClose socket)
  else if (s.connects socket).isSome then (false, s.removeConnectObj socket)
  else
    let (object, s) := s.mallocObject
    (true, { s with
      connects := Function.update s.connects socket (some ⟨s.conns, object, socket, app, state, established⟩)
      sockets := insert socket s.sockets
      conns := s.conns + 1
      log := s.log ++ ((if outgoing then [.created s.conns app] else []) ++
        (if established then [.established s.conns] else []) ++
        if state = .connected then [.connected s.conns] else []) })

/-- One round of `Accept`. -/
def acceptOne (s : ConnTable) (call : ℕ × Bool) : Option ConnTable :=
  (s.newDescriptor call.1).map fun s =>
    let (ok, s) := s.createConnectObj call.1 call.2 none .connected false true
    if ok = false then s.sockClose call.1 else s

/-- `NetworkListen::Accept`. -/
def accept (s : ConnTable) (calls : List (ℕ × Bool)) : Option ConnTable := calls.foldlM acceptOne s

/-- `NetworkConnector::Connect`. -/
def connect (s : ConnTable) (socket : Option ℕ) (error : Option ℤ) (checked : Bool) (app : Option UInt64) :
    Option ConnTable :=
  match socket with
  | none => some s
  | some socket =>
    (s.newDescriptor socket).map fun s =>
      match error with
      | none => (s.createConnectObj socket checked app .connected true true).2
      | some errno =>
        if isError errno = false then (s.createConnectObj socket checked app .connecting true false).2
        else s.sockClose socket

/-- `ChangeStateToConnected`. -/
def changeStateToConnected (s : ConnTable) (socket : ℕ) (obj : TableConnect) : ConnTable :=
  { s with
    connects := Function.update s.connects socket (some { obj with state := .connected })
    log := s.log ++ [.connected obj.conn, .announced obj.conn (connectAnnouncement obj.app)] }

/-- What `Recv` and `Send` have in common: a connection that is being made is established by the first event,
and data is handled on another one. -/
def transfer (s : ConnTable) (socket : ℕ) (obj : TableConnect) (rs : Bool) : Bool × ConnTable :=
  if obj.state = .connecting then (true, s.changeStateToConnected socket obj)
  else (rs, { s with log := s.log ++ [.handled obj.conn] })

/-- `ConnectObj::Recv`. -/
def recv (s : ConnTable) (socket : ℕ) (obj : TableConnect) (rs : Bool) : Bool × ConnTable :=
  s.transfer socket obj rs

/-- `ConnectObj::Send`. -/
def send (s : ConnTable) (socket : ℕ) (obj : TableConnect) (rs : Bool) : Bool × ConnTable :=
  s.transfer socket obj rs

/-- The part of an event for reading. -/
def handleInput (s : ConnTable) (socket : ℕ) : Option Bool → Bool × ConnTable
  | none => (true, s)
  | some rs =>
    match s.connects socket with
    | none => (true, s)
    | some obj => s.recv socket obj rs

/-- The part of an event for writing. -/
def handleOutput (s : ConnTable) (socket : ℕ) : Option Bool → Bool × ConnTable
  | none => (true, s)
  | some rs =>
    match s.connects socket with
    | none => (true, s)
    | some obj => s.send socket obj rs

/-- `Epoll` and `Select`, for one event.  `Select` goes through the set, and uses what is in the slot. -/
def handleReport (build : NetworkBuild) (s : ConnTable) (e : TableReport) : Option ConnTable :=
  if build = .select ∧ e.socket ∉ s.sockets then some s
  else
    match s.connects e.socket with
    | none => if build = .select then none else some s
    | some _ =>
      if e.broken then some (s.removeConnectObj e.socket)
      else
        let (rs, s) := s.handleInput e.socket e.input
        if rs = false then some (s.removeConnectObj e.socket)
        else
          let (rs, s) := s.handleOutput e.socket e.output
          if rs = false then some (s.removeConnectObj e.socket) else some s

/-- What the system can report: an error, as long as it has not established the connection. -/
def Reported (s : ConnTable) (e : TableReport) : Prop :=
  ∀ obj ∈ s.connects e.socket, obj.established = true ∨ e.broken = true

instance (s : ConnTable) (e : TableReport) : Decidable (s.Reported e) :=
  inferInstanceAs (Decidable (∀ obj ∈ s.connects e.socket, obj.established = true ∨ e.broken = true))

/-- The system establishes a connection that is being made. -/
def establish (s : ConnTable) (socket : ℕ) : Option ConnTable :=
  match s.connects socket with
  | none => none
  | some obj =>
    if obj.established then none
    else some { s with
      connects := Function.update s.connects socket (some { obj with established := true })
      log := s.log ++ [.established obj.conn] }

/-- `Network::HandleDisconnect`. -/
def handleDisconnect (s : ConnTable) (same : Bool) (socket : ℕ) : ConnTable :=
  if same = false then s
  else if (s.connects socket).isNone then s
  else s.removeConnectObj socket

/-- One step. -/
def step (build : NetworkBuild) (s : ConnTable) : TableEvent → Option ConnTable
  | .accept calls => s.accept calls
  | .connect socket error checked app => s.connect socket error checked app
  | .establish socket => s.establish socket
  | .handleDisconnect same socket => some (s.handleDisconnect same socket)
  | .report e => if s.Reported e then s.handleReport build e else none
  | .poolUpdate => some { s with free := s.free ++ s.returned, returned := [] }

/-- A network without connections. -/
def start : ConnTable where
  connects := fun _ => none
  sockets := ∅
  free := []
  returned := []
  objects := 0
  descriptors := fun _ => []
  conns := 0
  log := []

/-! ### What is asked of it -/

/-- **The table is sound.**  Each descriptor was closed exactly once, or is the newest of its number, not closed,
and has a slot; the slots in use are those of the set; and no slot has an object that was given back. -/
structure Sound (s : ConnTable) : Prop where
  closedOnce : ∀ k, (s.connects k = none ∧ ∀ closes ∈ s.descriptors k, closes = 1) ∨
    (s.connects k).isSome ∧ ∃ older, s.descriptors k = 0 :: older ∧ ∀ closes ∈ older, closes = 1
  active : ∀ k, (s.connects k).isSome ↔ k ∈ s.sockets
  notReturned : ∀ k, ∀ obj ∈ s.connects k, obj.object ∉ s.free ++ s.returned

/-- **No accepted socket has an error.** -/
def AcceptOk (_ : ConnTable) : TableEvent → Prop
  | .accept calls => ∀ call ∈ calls, call.2 = true
  | _ => True

instance (s : ConnTable) : ∀ e : TableEvent, Decidable (s.AcceptOk e)
  | .accept calls => inferInstanceAs (Decidable (∀ call ∈ calls, call.2 = true))
  | .connect _ _ _ _ => isTrue trivial
  | .establish _ => isTrue trivial
  | .handleDisconnect _ _ => isTrue trivial
  | .report _ => isTrue trivial
  | .poolUpdate => isTrue trivial

end ConnTable

/-- The runs of a network. -/
def tableSystem (build : NetworkBuild) : System ConnTable TableEvent :=
  .ofFun (· = ConnTable.start) (ConnTable.step build)

namespace ConnTable

variable {build : NetworkBuild} {s t : ConnTable} {k : ℕ}

/-! ### What a step can do -/

/-- `Recv` is called for the connection of a slot, or nothing happens. -/
theorem handleInput_cases (s : ConnTable) (k : ℕ) (input : Option Bool) :
    (s.handleInput k input).2 = s ∨
      ∃ obj rs, s.connects k = some obj ∧ (s.handleInput k input).2 = (s.transfer k obj rs).2 := by
  cases input with
  | none => exact .inl rfl
  | some rs =>
    rw [handleInput]
    cases hobj : s.connects k with
    | none => exact .inl rfl
    | some obj => exact .inr ⟨obj, rs, rfl, rfl⟩

/-- So is `Send`. -/
theorem handleOutput_eq (s : ConnTable) (k : ℕ) (output : Option Bool) :
    s.handleOutput k output = s.handleInput k output := by
  cases output <;> rfl

/-- An event of a socket: nothing happens, or the connection is removed at one of three places, or it stays. -/
theorem handleReport_cases {e : TableReport} (hstep : s.handleReport build e = some t) :
    t = s ∨ ∃ obj, s.connects e.socket = some obj ∧
      (e.broken = true ∧ t = s.removeConnectObj e.socket ∨
        e.broken = false ∧ (t = (s.handleInput e.socket e.input).2.removeConnectObj e.socket ∨
          t = ((s.handleInput e.socket e.input).2.handleOutput e.socket e.output).2.removeConnectObj e.socket ∨
          t = ((s.handleInput e.socket e.input).2.handleOutput e.socket e.output).2)) := by
  rw [handleReport] at hstep
  split at hstep
  · exact .inl (Option.some.inj hstep).symm
  · cases hobj : s.connects e.socket with
    | none =>
      simp only [hobj] at hstep
      split at hstep
      · cases hstep
      · exact .inl (Option.some.inj hstep).symm
    | some obj =>
      simp only [hobj] at hstep
      refine .inr ⟨obj, rfl, ?_⟩
      split at hstep
      · rename_i hbroken
        exact .inl ⟨hbroken, (Option.some.inj hstep).symm⟩
      · rename_i hbroken
        refine .inr ⟨by simpa using hbroken, ?_⟩
        split at hstep
        · exact .inl (Option.some.inj hstep).symm
        · split at hstep
          · exact .inr (.inl (Option.some.inj hstep).symm)
          · exact .inr (.inr (Option.some.inj hstep).symm)

theorem establish_eq (hstep : s.establish k = some t) :
    ∃ obj, s.connects k = some obj ∧ obj.established = false ∧
      t = { s with
        connects := Function.update s.connects k (some { obj with established := true })
        log := s.log ++ [.established obj.conn] } := by
  rw [establish] at hstep
  cases hobj : s.connects k with
  | none =>
    rw [hobj] at hstep
    cases hstep
  | some obj =>
    simp only [hobj] at hstep
    split at hstep
    · cases hstep
    · rename_i hnot
      exact ⟨obj, rfl, by simpa using hnot, (Option.some.inj hstep).symm⟩

theorem handleDisconnect_cases (s : ConnTable) (same : Bool) (k : ℕ) :
    s.handleDisconnect same k = s ∨ s.handleDisconnect same k = s.removeConnectObj k := by
  rw [handleDisconnect]
  split
  · exact .inl rfl
  · split
    · exact .inl rfl
    · exact .inr rfl

/-! ### What every step keeps -/

/-- A slot, with the descriptors of its number. -/
def SlotInv (s : ConnTable) (k : ℕ) : Prop :=
  (s.connects k = none ∧ k ∉ s.sockets ∧ ∀ closes ∈ s.descriptors k, closes = 1) ∨
    ∃ obj older, s.connects k = some obj ∧ obj.socket = k ∧ k ∈ s.sockets ∧
      s.descriptors k = 0 :: older ∧ ∀ closes ∈ older, closes = 1

/-- The number was just given out, and has no slot yet. -/
def NewInv (s : ConnTable) (k : ℕ) : Prop :=
  s.connects k = none ∧ k ∉ s.sockets ∧ ∃ older, s.descriptors k = 0 :: older ∧ ∀ closes ∈ older, closes = 1

/-- The objects of the connections are in use: they are not in the pool, and each is in use once. -/
structure ObjectsInv (s : ConnTable) : Prop where
  distinct : ∀ k k' obj obj', s.connects k = some obj → s.connects k' = some obj' →
    obj.object = obj'.object → k = k'
  inUse : ∀ k obj, s.connects k = some obj → obj.object ∉ s.free ++ s.returned ∧ obj.object < s.objects
  nodup : (s.free ++ s.returned).Nodup
  pooled_lt : ∀ object ∈ s.free ++ s.returned, object < s.objects

/-- What holds in every state. -/
structure Inv (s : ConnTable) : Prop where
  slots : ∀ k, s.SlotInv k
  objects : s.ObjectsInv

theorem inv_start : start.Inv where
  slots := fun k => .inl ⟨rfl, Finset.notMem_empty k, List.forall_mem_nil _⟩
  objects := by
    refine ⟨fun k k' obj obj' h => ?_, fun k obj h => ?_, List.nodup_nil, List.forall_mem_nil _⟩
    · cases h
    · cases h

/-- What holds in every state is sound. -/
theorem Inv.sound (h : s.Inv) : s.Sound where
  closedOnce := by
    intro k
    rcases h.slots k with ⟨hnone, -, hclosed⟩ | ⟨obj, older, hobj, -, -, hnewest, holder⟩
    · exact .inl ⟨hnone, hclosed⟩
    · exact .inr ⟨by rw [hobj]; rfl, older, hnewest, holder⟩
  active := by
    intro k
    rcases h.slots k with ⟨hnone, hnot, -⟩ | ⟨obj, older, hobj, -, hmem, -⟩
    · rw [hnone]
      exact iff_of_false Bool.false_ne_true hnot
    · rw [hobj]
      exact iff_of_true rfl hmem
  notReturned := fun k obj hobj => (h.objects.inUse k obj hobj).1

/-- A slot is not concerned by what happens to another one. -/
theorem SlotInv.congr {k : ℕ} (h : s.SlotInv k) (hconnects : t.connects k = s.connects k)
    (hsockets : k ∈ t.sockets ↔ k ∈ s.sockets) (hdescriptors : t.descriptors k = s.descriptors k) :
    t.SlotInv k := by
  rw [SlotInv, hconnects, hsockets, hdescriptors]
  exact h

/-- Where no object is used that was not, the objects are in order. -/
theorem ObjectsInv.of_le (h : s.ObjectsInv) (hfree : t.free = s.free) (hreturned : t.returned = s.returned)
    (hobjects : t.objects = s.objects)
    (hconnects : ∀ k obj, t.connects k = some obj → ∃ obj', s.connects k = some obj' ∧ obj.object = obj'.object) :
    t.ObjectsInv where
  distinct := by
    intro k k' obj obj' hk hk' heq
    obtain ⟨o, ho, hobj⟩ := hconnects k obj hk
    obtain ⟨o', ho', hobj'⟩ := hconnects k' obj' hk'
    exact h.distinct k k' o o' ho ho' (by rw [← hobj, ← hobj', heq])
  inUse := by
    intro k obj hk
    obtain ⟨o, ho, hobj⟩ := hconnects k obj hk
    rw [hfree, hreturned, hobjects, hobj]
    exact h.inUse k o ho
  nodup := by
    rw [hfree, hreturned]
    exact h.nodup
  pooled_lt := by
    rw [hfree, hreturned, hobjects]
    exact h.pooled_lt

/-- The newest descriptor of a number is closed. -/
theorem descriptors_sockClose {older : List ℕ} (hnewest : s.descriptors k = 0 :: older)
    (holder : ∀ closes ∈ older, closes = 1) :
    ∀ closes ∈ (s.sockClose k).descriptors k, closes = 1 := by
  have hclose : (s.sockClose k).descriptors k = 1 :: older :=
    (Function.update_self k _ s.descriptors).trans (by rw [hnewest]; rfl)
  intro closes hmem
  rw [hclose] at hmem
  rcases List.mem_cons.1 hmem with rfl | hmem
  · rfl
  · exact holder closes hmem

/-- Another connection in a slot, with the same object and the same socket. -/
theorem Inv.setConnect (h : s.Inv) {obj obj' : TableConnect} {log : List ConnLog} (hobj : s.connects k = some obj)
    (hobject : obj'.object = obj.object) (hsocket : obj'.socket = obj.socket) :
    ({ s with connects := Function.update s.connects k (some obj'), log := log } : ConnTable).Inv where
  slots := by
    intro j
    by_cases hj : j = k
    · subst hj
      rcases h.slots j with ⟨hnone, -, -⟩ | ⟨o, older, ho, hsock, hmem, hnewest, holder⟩
      · rw [hobj] at hnone
        cases hnone
      · obtain rfl := Option.some.inj (hobj.symm.trans ho)
        exact .inr ⟨obj', older, Function.update_self .., hsocket.trans hsock, hmem, hnewest, holder⟩
    · exact (h.slots j).congr (Function.update_of_ne hj _ _) Iff.rfl rfl
  objects := by
    refine h.objects.of_le rfl rfl rfl fun j o hj => ?_
    by_cases heq : j = k
    · subst heq
      obtain rfl := Option.some.inj ((Function.update_self j _ s.connects).symm.trans hj)
      exact ⟨obj, hobj, hobject⟩
    · exact ⟨o, (Function.update_of_ne heq _ s.connects).symm.trans hj, rfl⟩

/-- Only the history grows. -/
theorem Inv.setLog (h : s.Inv) (log : List ConnLog) : ({ s with log := log } : ConnTable).Inv where
  slots := fun j => (h.slots j).congr rfl Iff.rfl rfl
  objects := h.objects.of_le rfl rfl rfl fun _ obj hobj => ⟨obj, hobj, rfl⟩

/-- **An object goes back**: its descriptor is closed, and its slot is free. -/
theorem Inv.removeConnectObj (h : s.Inv) (k : ℕ) : (s.removeConnectObj k).Inv := by
  rw [ConnTable.removeConnectObj]
  cases hobj : s.connects k with
  | none => exact h
  | some obj =>
    dsimp only
    have hslot := h.slots k
    rw [SlotInv, hobj] at hslot
    obtain ⟨hnone, -⟩ | ⟨o, older, ho, rfl, hmem, hnewest, holder⟩ := hslot
    · cases hnone
    · obtain rfl := Option.some.inj ho
      refine ⟨fun j => ?_, ⟨fun j j' o o' hj hj' heq => ?_, fun j o hj => ?_, ?_, fun object hmem' => ?_⟩⟩
      · by_cases hj : j = obj.socket
        · subst hj
          exact .inl ⟨Function.update_self .., Finset.notMem_erase _ _, descriptors_sockClose hnewest holder⟩
        · exact (h.slots j).congr (Function.update_of_ne hj _ _) (by simp [hj]) (Function.update_of_ne hj _ _)
      · have hne : ∀ i x, Function.update s.connects obj.socket none i = some x → s.connects i = some x := by
          intro i x hi
          by_cases hsame : i = obj.socket
          · rw [hsame, Function.update_self] at hi
            cases hi
          · rwa [Function.update_of_ne hsame] at hi
        exact h.objects.distinct j j' o o' (hne j o hj) (hne j' o' hj') heq
      · have hupdate : Function.update s.connects obj.socket none j = some o := hj
        have hne : j ≠ obj.socket := by
          rintro rfl
          rw [Function.update_self] at hupdate
          cases hupdate
        rw [Function.update_of_ne hne] at hupdate
        obtain ⟨hnot, hlt⟩ := h.objects.inUse j o hupdate
        refine ⟨fun hmem' => ?_, hlt⟩
        rw [← List.append_assoc] at hmem'
        rcases List.mem_append.1 hmem' with hmem' | hmem'
        · exact hnot hmem'
        · exact hne (h.objects.distinct j _ o obj hupdate hobj (List.mem_singleton.1 hmem'))
      · rw [← List.append_assoc]
        refine h.objects.nodup.append (List.nodup_singleton _) ?_
        rw [List.disjoint_singleton]
        exact (h.objects.inUse _ obj hobj).1
      · rw [← List.append_assoc] at hmem'
        rcases List.mem_append.1 hmem' with hmem' | hmem'
        · exact h.objects.pooled_lt object hmem'
        · rw [List.mem_singleton.1 hmem']
          exact (h.objects.inUse _ obj hobj).2

/-! ### A new descriptor -/

/-- All slots are in order, but one number was just given out. -/
structure PendingInv (s : ConnTable) (k : ℕ) : Prop where
  slots : ∀ j, j ≠ k → s.SlotInv j
  pending : s.NewInv k
  objects : s.ObjectsInv

/-- **The system gives out a number** that is not open: it has no slot. -/
theorem Inv.newDescriptor (h : s.Inv) (hnew : s.newDescriptor k = some t) : t.PendingInv k := by
  rw [ConnTable.newDescriptor] at hnew
  split at hnew
  · rename_i hguard
    obtain rfl := Option.some.inj hnew
    refine ⟨fun j hj => (h.slots j).congr rfl Iff.rfl (Function.update_of_ne hj _ _), ?_,
      h.objects.of_le rfl rfl rfl fun _ obj hobj => ⟨obj, hobj, rfl⟩⟩
    rcases h.slots k with ⟨hnone, hnot, hclosed⟩ | ⟨obj, older, -, -, -, hnewest, -⟩
    · exact ⟨hnone, hnot, s.descriptors k, Function.update_self .., hclosed⟩
    · have hopen := hguard.2
      rw [isOpen, hnewest] at hopen
      cases hopen
  · cases hnew

/-- It is closed. -/
theorem PendingInv.sockClose (h : s.PendingInv k) : (s.sockClose k).Inv := by
  obtain ⟨hnone, hnot, older, hnewest, holder⟩ := h.pending
  refine ⟨fun j => ?_, h.objects.of_le rfl rfl rfl fun _ obj hobj => ⟨obj, hobj, rfl⟩⟩
  by_cases hj : j = k
  · subst hj
    exact .inl ⟨hnone, hnot, descriptors_sockClose hnewest holder⟩
  · exact (h.slots j hj).congr rfl Iff.rfl (Function.update_of_ne hj _ _)

/-- What the pool hands out is in use from then on. -/
theorem ObjectsInv.mallocObject (h : s.ObjectsInv) {object : ℕ} (hmalloc : s.mallocObject = (object, t)) :
    (t.connects = s.connects ∧ t.sockets = s.sockets ∧ t.descriptors = s.descriptors ∧ t.conns = s.conns ∧
        t.log = s.log) ∧
      t.ObjectsInv ∧ object ∉ t.free ++ t.returned ∧ object < t.objects ∧
      ∀ j obj, s.connects j = some obj → obj.object ≠ object := by
  rw [ConnTable.mallocObject] at hmalloc
  cases hfree : s.free with
  | nil =>
    simp only [hfree] at hmalloc
    obtain ⟨rfl, rfl⟩ := Prod.mk.inj hmalloc
    have hreturned : ∀ o ∈ s.returned, o < s.objects := fun o ho =>
      h.pooled_lt o (List.mem_append_right _ ho)
    have hnew : ∀ o, o ∈ (List.range 49).map (s.objects + 1 + ·) → s.objects < o ∧ o < s.objects + 50 := by
      intro o ho
      obtain ⟨i, hi, rfl⟩ := List.mem_map.1 ho
      have hlt := List.mem_range.1 hi
      omega
    refine ⟨⟨rfl, rfl, rfl, rfl, rfl⟩, ⟨h.distinct, fun j obj hj => ?_, ?_, fun o ho => ?_⟩, fun ho => ?_, ?_,
      fun j obj hj heq => ?_⟩
    · obtain ⟨hnot, hlt⟩ := h.inUse j obj hj
      refine ⟨fun hmem => ?_, by simp only; omega⟩
      rcases List.mem_append.1 hmem with hmem | hmem
      · have := (hnew _ hmem).1
        omega
      · exact hnot (List.mem_append_right _ hmem)
    · have hnodup : ((List.range 49).map (s.objects + 1 + ·)).Nodup :=
        List.nodup_range.map fun a b hab => by simpa using hab
      refine hnodup.append (h.nodup.of_append_right) ?_
      intro o ho ho'
      have h₁ := (hnew o ho).1
      have h₂ := hreturned o ho'
      omega
    · simp only
      rcases List.mem_append.1 ho with ho | ho
      · exact (hnew o ho).2
      · have := hreturned o ho
        omega
    · rcases List.mem_append.1 ho with ho | ho
      · have := (hnew _ ho).1
        omega
      · have := hreturned _ ho
        omega
    · simp only
      omega
    · have := (h.inUse j obj hj).2
      omega
  | cons first free =>
    simp only [hfree] at hmalloc
    obtain ⟨rfl, rfl⟩ := Prod.mk.inj hmalloc
    have hnodup := h.nodup
    have hlt := h.pooled_lt
    rw [hfree, List.cons_append] at hnodup hlt
    obtain ⟨hnotMem, hnodup'⟩ := List.nodup_cons.1 hnodup
    refine ⟨⟨rfl, rfl, rfl, rfl, rfl⟩, ⟨h.distinct, fun j obj hj => ?_, hnodup',
      fun o ho => hlt o (List.mem_cons_of_mem _ ho)⟩, hnotMem, hlt first List.mem_cons_self, fun j obj hj heq => ?_⟩
    · obtain ⟨hnot, hobj⟩ := h.inUse j obj hj
      rw [hfree, List.cons_append] at hnot
      exact ⟨fun hmem => hnot (List.mem_cons_of_mem _ hmem), hobj⟩
    · have hnot := (h.inUse j obj hj).1
      rw [hfree, List.cons_append, heq] at hnot
      exact hnot List.mem_cons_self

/-- **`CreateConnectObj` of a number that was just given out** gives it a slot, or closes it. -/
theorem PendingInv.createConnectObj (h : s.PendingInv k) (checked : Bool) (app : Option UInt64)
    (state : ConnectStateType) (outgoing established : Bool) :
    (s.createConnectObj k checked app state outgoing established).1 = checked ∧
      (s.createConnectObj k checked app state outgoing established).2.Inv := by
  obtain ⟨hnone, hnot, older, hnewest, holder⟩ := h.pending
  rw [ConnTable.createConnectObj]
  cases checked with
  | false => exact ⟨rfl, h.sockClose⟩
  | true =>
    rw [if_neg (by decide), if_neg (by rw [hnone]; exact Bool.false_ne_true)]
    have hmalloc : s.mallocObject = (s.mallocObject.1, s.mallocObject.2) := rfl
    obtain ⟨⟨hconnects, hsockets, hdescriptors, -, -⟩, hobjects, hfresh, hlt, hother⟩ :=
      h.objects.mallocObject hmalloc
    refine ⟨rfl, fun j => ?_, ⟨fun j j' o o' hj hj' heq => ?_, fun j o hj => ?_, hobjects.nodup,
      hobjects.pooled_lt⟩⟩
    · by_cases hj : j = k
      · subst hj
        exact .inr ⟨_, older, Function.update_self .., rfl, Finset.mem_insert_self _ _,
          (congrFun hdescriptors j).trans hnewest, holder⟩
      · exact (h.slots j hj).congr ((Function.update_of_ne hj _ _).trans (congrFun hconnects j))
          (by simp [hj, hsockets]) (congrFun hdescriptors j)
    · simp only [hconnects] at hj hj'
      by_cases hk : j = k
      · by_cases hk' : j' = k
        · rw [hk, hk']
        · rw [hk, Function.update_self] at hj
          rw [Function.update_of_ne hk'] at hj'
          obtain rfl := Option.some.inj hj
          exact absurd heq.symm (hother j' o' hj')
      · rw [Function.update_of_ne hk] at hj
        by_cases hk' : j' = k
        · rw [hk', Function.update_self] at hj'
          obtain rfl := Option.some.inj hj'
          exact absurd heq (hother j o hj)
        · rw [Function.update_of_ne hk'] at hj'
          exact h.objects.distinct j j' o o' hj hj' heq
    · simp only [hconnects] at hj
      by_cases hk : j = k
      · rw [hk, Function.update_self] at hj
        obtain rfl := Option.some.inj hj
        exact ⟨hfresh, hlt⟩
      · rw [Function.update_of_ne hk, ← hconnects] at hj
        exact hobjects.inUse j o hj

/-! ### The steps -/

/-- **A round of `Accept`** whose socket has no error. -/
theorem Inv.acceptOne (h : s.Inv) {call : ℕ × Bool} (hcall : call.2 = true) (hstep : s.acceptOne call = some t) :
    t.Inv := by
  obtain ⟨u, hnew, rfl⟩ := Option.map_eq_some_iff.1 hstep
  obtain ⟨hok, hinv⟩ := (h.newDescriptor hnew).createConnectObj call.2 none .connected false true
  dsimp only
  rw [if_neg (by rw [hok, hcall]; decide)]
  exact hinv

theorem Inv.accept (h : s.Inv) {calls : List (ℕ × Bool)} (hcalls : ∀ call ∈ calls, call.2 = true)
    (hstep : s.accept calls = some t) : t.Inv := by
  induction calls generalizing s with
  | nil =>
    obtain rfl := Option.some.inj hstep
    exact h
  | cons call calls ih =>
    obtain ⟨hcall, hcalls⟩ := List.forall_mem_cons.1 hcalls
    obtain ⟨u, hone, hrest⟩ := Option.bind_eq_some_iff.1 hstep
    exact ih (h.acceptOne hcall hone) hcalls hrest

/-- **`Connect`** closes the socket at most once. -/
theorem Inv.connect (h : s.Inv) {socket : Option ℕ} {error : Option ℤ} {checked : Bool} {app : Option UInt64}
    (hstep : s.connect socket error checked app = some t) : t.Inv := by
  cases socket with
  | none =>
    obtain rfl := Option.some.inj hstep
    exact h
  | some socket =>
    obtain ⟨u, hnew, rfl⟩ := Option.map_eq_some_iff.1 hstep
    have hpending := h.newDescriptor hnew
    cases error with
    | none => exact (hpending.createConnectObj checked app .connected true true).2
    | some errno =>
      dsimp only
      split
      · exact (hpending.createConnectObj checked app .connecting true false).2
      · exact hpending.sockClose

/-- What `Recv` and `Send` do keeps the slot, its object and its socket. -/
theorem Inv.transfer (h : s.Inv) {obj : TableConnect} (hobj : s.connects k = some obj) (rs : Bool) :
    (s.transfer k obj rs).2.Inv := by
  rw [ConnTable.transfer]
  split
  · exact h.setConnect hobj rfl rfl
  · exact h.setLog _

theorem Inv.handleInput (h : s.Inv) (k : ℕ) (input : Option Bool) : (s.handleInput k input).2.Inv := by
  obtain heq | ⟨obj, rs, hobj, heq⟩ := handleInput_cases s k input
  · rwa [heq]
  · rw [heq]
    exact h.transfer hobj rs

/-- **An event of a socket.** -/
theorem Inv.handleReport (h : s.Inv) {e : TableReport} (hstep : s.handleReport build e = some t) : t.Inv := by
  have hinput := h.handleInput e.socket e.input
  have houtput := hinput.handleInput e.socket e.output
  rw [← handleOutput_eq] at houtput
  obtain rfl | ⟨obj, -, ⟨-, rfl⟩ | ⟨-, rfl | rfl | rfl⟩⟩ := handleReport_cases hstep
  · exact h
  · exact h.removeConnectObj e.socket
  · exact hinput.removeConnectObj e.socket
  · exact houtput.removeConnectObj e.socket
  · exact houtput

/-- **Every step** keeps what holds, if no accepted socket has an error. -/
theorem Inv.step (h : s.Inv) {e : TableEvent} (hok : s.AcceptOk e) (hstep : s.step build e = some t) : t.Inv := by
  cases e with
  | accept calls => exact h.accept hok hstep
  | connect socket error checked app => exact h.connect hstep
  | establish socket =>
    obtain ⟨obj, hobj, -, rfl⟩ := establish_eq hstep
    exact h.setConnect hobj rfl rfl
  | handleDisconnect same socket =>
    obtain rfl := Option.some.inj hstep
    obtain heq | heq := handleDisconnect_cases s same socket
    · rwa [heq]
    · rw [heq]
      exact h.removeConnectObj socket
  | report e =>
    rw [ConnTable.step] at hstep
    split at hstep
    · exact h.handleReport hstep
    · cases hstep
  | poolUpdate =>
    obtain rfl := Option.some.inj hstep
    refine ⟨fun j => (h.slots j).congr rfl Iff.rfl rfl, ⟨h.objects.distinct, fun j obj hj => ?_, ?_, fun o ho => ?_⟩⟩
    · rw [List.append_nil]
      exact h.objects.inUse j obj hj
    · rw [List.append_nil]
      exact h.objects.nodup
    · rw [List.append_nil] at ho
      exact h.objects.pooled_lt o ho

/-! ### An accepted socket with an error -/

/-- A descriptor was closed more than once. -/
def ClosedAgain (s : ConnTable) : Prop := ∃ k, ∃ closes ∈ s.descriptors k, 2 ≤ closes

theorem ClosedAgain.not_sound (h : s.ClosedAgain) : ¬ s.Sound := by
  obtain ⟨k, closes, hmem, hle⟩ := h
  intro hsound
  rcases hsound.closedOnce k with ⟨-, hclosed⟩ | ⟨-, older, hnewest, holder⟩
  · have := hclosed closes hmem
    omega
  · rw [hnewest] at hmem
    rcases List.mem_cons.1 hmem with rfl | hmem
    · omega
    · have := holder closes hmem
      omega

/-- Closing a descriptor does not undo it. -/
theorem ClosedAgain.sockClose (h : s.ClosedAgain) (socket : ℕ) : (s.sockClose socket).ClosedAgain := by
  obtain ⟨k, closes, hmem, hle⟩ := h
  by_cases hk : k = socket
  · subst hk
    have hself : (s.sockClose k).descriptors k = closeNewest (s.descriptors k) := Function.update_self ..
    cases hdescriptors : s.descriptors k with
    | nil =>
      rw [hdescriptors] at hmem
      cases hmem
    | cons newest older =>
      rw [hdescriptors] at hself hmem
      rcases List.mem_cons.1 hmem with rfl | hmem
      · exact ⟨k, closes + 1, by rw [hself]; exact List.mem_cons_self, by omega⟩
      · exact ⟨k, closes, by rw [hself]; exact List.mem_cons_of_mem _ hmem, hle⟩
  · refine ⟨k, closes, ?_, hle⟩
    have hother : (s.sockClose socket).descriptors k = s.descriptors k := Function.update_of_ne hk _ _
    rw [hother]
    exact hmem

theorem ClosedAgain.congr (h : s.ClosedAgain) (hdescriptors : t.descriptors = s.descriptors) : t.ClosedAgain := by
  obtain ⟨k, closes, hmem, hle⟩ := h
  exact ⟨k, closes, by rw [hdescriptors]; exact hmem, hle⟩

theorem descriptors_mallocObject (s : ConnTable) : s.mallocObject.2.descriptors = s.descriptors := by
  rw [mallocObject]
  split <;> rfl

theorem ClosedAgain.createConnectObj (h : s.ClosedAgain) (socket : ℕ) (checked : Bool) (app : Option UInt64)
    (state : ConnectStateType) (outgoing established : Bool) :
    (s.createConnectObj socket checked app state outgoing established).2.ClosedAgain := by
  rw [ConnTable.createConnectObj]
  split
  · exact h.sockClose socket
  · split
    · rw [ConnTable.removeConnectObj]
      cases s.connects socket with
      | none => exact h
      | some obj => exact (h.sockClose obj.socket).congr rfl
    · exact h.congr (descriptors_mallocObject s)

theorem ClosedAgain.newDescriptor (h : s.ClosedAgain) (hnew : s.newDescriptor k = some t) : t.ClosedAgain := by
  rw [ConnTable.newDescriptor] at hnew
  split at hnew
  · obtain rfl := Option.some.inj hnew
    obtain ⟨j, closes, hmem, hle⟩ := h
    refine ⟨j, closes, ?_, hle⟩
    by_cases hj : j = k
    · subst hj
      simp [hmem]
    · simpa [Function.update_of_ne hj] using hmem
  · cases hnew

theorem ClosedAgain.acceptOne (h : s.ClosedAgain) {call : ℕ × Bool} (hstep : s.acceptOne call = some t) :
    t.ClosedAgain := by
  obtain ⟨u, hnew, rfl⟩ := Option.map_eq_some_iff.1 hstep
  have hcreate := (h.newDescriptor hnew).createConnectObj call.1 call.2 none .connected false true
  dsimp only
  split
  · exact hcreate.sockClose call.1
  · exact hcreate

/-- **`Accept` closes a socket with an error again**: `CheckSocket` has closed it. -/
theorem closedAgain_acceptOne (hstep : s.acceptOne (k, false) = some t) : t.ClosedAgain := by
  obtain ⟨u, hnew, rfl⟩ := Option.map_eq_some_iff.1 hstep
  rw [newDescriptor] at hnew
  split at hnew
  · obtain rfl := Option.some.inj hnew
    refine ⟨k, 2, ?_, Nat.le_refl 2⟩
    simp [createConnectObj, sockClose, closeNewest]
  · cases hnew

theorem closedAgain_accept {calls : List (ℕ × Bool)} (hcalls : s.ClosedAgain ∨ ∃ call ∈ calls, call.2 = false)
    (hstep : s.accept calls = some t) : t.ClosedAgain := by
  induction calls generalizing s with
  | nil =>
    obtain rfl := Option.some.inj hstep
    rcases hcalls with h | ⟨call, hmem, -⟩
    · exact h
    · cases hmem
  | cons call calls ih =>
    obtain ⟨u, hone, hrest⟩ := Option.bind_eq_some_iff.1 hstep
    refine ih ?_ hrest
    rcases hcalls with h | ⟨call', hmem, hcall'⟩
    · exact .inl (h.acceptOne hone)
    · rcases List.mem_cons.1 hmem with rfl | hmem
      · obtain ⟨socket, checked⟩ := call'
        obtain rfl : checked = false := hcall'
        exact .inl (closedAgain_acceptOne hone)
      · exact .inr ⟨call', hmem, hcall'⟩

/-- A step keeps the table sound **exactly if no accepted socket has an error**. -/
theorem Inv.sound_iff (h : s.Inv) {e : TableEvent} (hstep : s.step build e = some t) :
    t.Sound ↔ s.AcceptOk e := by
  constructor
  · intro hsound
    cases e with
    | accept calls =>
      intro call hmem
      by_contra herror
      exact (closedAgain_accept (.inr ⟨call, hmem, by simpa using herror⟩) hstep).not_sound hsound
    | connect | establish | handleDisconnect | report | poolUpdate => trivial
  · exact fun hok => (h.step hok hstep).sound

end ConnTable

/-- **The table is sound in every run** in which no accepted socket has an error, and a step that accepts one
breaks it. -/
theorem tableSound_run {build : NetworkBuild} {es : List TableEvent} {s : ConnTable}
    (hrun : ((tableSystem build).restrict ConnTable.AcceptOk).Run es s) :
    s.Sound ∧ ∀ e t, (tableSystem build).step s e t → (t.Sound ↔ s.AcceptOk e) := by
  refine hrun.restrict_exact (p := ConnTable.Inv) (q := ConnTable.Sound) ?_ ?_ ?_
  · rintro _ rfl
    exact ConnTable.inv_start
  · exact fun s h => h.sound
  · intro s e t h hstep
    exact ⟨h.sound_iff hstep, fun hok => h.step hok hstep⟩

/-- Two connections are accepted, and one goes out; the first is given up, and the second breaks. -/
def tableEvents : List TableEvent :=
  [.accept [(5, true), (6, true)], .connect (some 7) (some 115) true (some 3), .handleDisconnect true 5,
    .report ⟨6, true, none, none⟩, .poolUpdate]

/-- Their descriptors are closed once, and that of the third is open. -/
theorem tableSound_closed : ∃ s : ConnTable,
    s.descriptors 5 = [1] ∧ s.descriptors 6 = [1] ∧ s.descriptors 7 = [0] ∧ s.Sound := by
  have hrun : (System.execute (ConnTable.step .epoll) ConnTable.AcceptOk ConnTable.start tableEvents).map
      (fun s => (s.descriptors 5, s.descriptors 6, s.descriptors 7)) = some ([1], [1], [0]) := by
    decide +kernel
  obtain ⟨s, hs, heq⟩ := Option.map_eq_some_iff.1 hrun
  obtain ⟨hfive, hrest⟩ := Prod.mk.inj heq
  obtain ⟨hsix, hseven⟩ := Prod.mk.inj hrest
  exact ⟨s, hfive, hsix, hseven, (tableSound_run (System.run_of_execute rfl hs)).1⟩

/-- **An accepted socket with an error** is closed twice. -/
theorem not_tableSound : ¬ ∀ (build : NetworkBuild) (es : List TableEvent) (s : ConnTable),
    (tableSystem build).Run es s → s.Sound := by
  intro hsound
  obtain ⟨s, hs⟩ : ∃ s, ConnTable.start.accept [(5, false)] = some s := ⟨_, rfl⟩
  have hrun : (tableSystem .epoll).Run ([] ++ [.accept [(5, false)]]) s := .step (.init rfl) hs
  have hagain : s.ClosedAgain :=
    ConnTable.closedAgain_accept (.inr ⟨(5, false), List.mem_singleton.2 rfl, rfl⟩) hs
  exact hagain.not_sound (hsound _ _ s hrun)

end MmoServer
