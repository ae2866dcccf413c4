/-
**What the calls of a socket mean for its connection.**

`Recv` reads until `::recv` has nothing more for it, and `Send` writes until the send buffer is empty or
`::send` takes a part of it only.  A network keeps a connection while they return true, and removes it when
one returns false.  That should happen when the other side has closed, and after an error; a call that
was interrupted, or would have to wait, is none.

`Recv` has one flag for two questions, whether something was read and whether the connection goes on, and
an error sets it.  `Send` does not look at the number of an error.

Main definitions:

* `MmoServer.SocketConnect.recv`, `MmoServer.SocketConnect.send` — the two functions, with what the calls
  of the system return;
* `MmoServer.SocketOp.Right` — an answer is right;
* `MmoServer.SocketOp.Meets` — the calls for which it is.

Main results:

* `MmoServer.SocketConnect.recvLoop_eq_false_iff`, `MmoServer.NetworkBuffer.sendLoop_eq_false_iff` — **when
  the loops end with false**;
* `MmoServer.right_iff` — all answers of a connection are right **exactly if all calls meet the condition**.
-/

import MmoServer.RecvDrain
import MmoServer.StrandedBytes

set_option relaxedAutoImplicit false
set_option autoImplicit false

namespace MmoServer

/-! ### The calls of the system -/

/-- What `::recv` returns. -/
inductive RecvCall
  /-- These bytes. -/
  | bytes (src : List UInt8)
  /-- Zero: the other side has closed in order, and nothing is left to be read. -/
  | closed
  /-- A negative number, and the error. -/
  | failed (errno : ℤ)

/-- What `::send` returns, and the error if that is negative. -/
structure SendCall where
  size : ℤ
  errno : ℤ

/-- A connection: its state and its buffers. -/
structure SocketConnect where
  state : ConnectStateType
  recvBuffer : NetworkBuffer
  sendBuffer : NetworkBuffer

namespace SocketConnect

/-- Room for the longest head: `if (GetEmptySize() < ..) ReAllocBuffer();`. -/
def makeRoom (b : NetworkBuffer) : Option NetworkBuffer :=
  if b.getEmptySize < sizeofPacketHeadS2S + sizeofTotalSizeType * 2 then b.reAllocBuffer else some b

/-- The first loop of `Recv`: its flag `isRs`, and the buffer. -/
def recvLoop : NetworkBuffer → Bool → List RecvCall → Option (Bool × NetworkBuffer)
  | _, _, [] => none
  | b, isRs, call :: calls => do
    let b ← makeRoom b
    match call with
    | .bytes src =>
      if 0 < src.length ∧ (src.length : ℤ) ≤ b.recvGetBuffer.2 then
        let b ← b.recvFill src
        recvLoop b true calls
      else none
    | .closed => if calls.isEmpty then some (isRs, b) else none
    | .failed errno =>
      if calls.isEmpty then
        let isRs := decide (errno ≠ 0)
        let isRs := if !isError errno then true else isRs
        some (isRs, b)
      else none

/-- `ConnectObj::Recv`.  What its second loop leaves of the buffer, where it takes the packets out, is a
parameter; the flag is returned behind it. -/
def recv (takePackets : NetworkBuffer → Option NetworkBuffer) (obj : SocketConnect) (calls : List RecvCall) :
    Option (Bool × SocketConnect) :=
  if obj.state = .connecting then
    if calls.isEmpty then some (true, { obj with state := .connected }) else none
  else
    (recvLoop obj.recvBuffer false calls).bind fun r =>
      (if r.1 then takePackets r.2 else some r.2).map fun b => (r.1, { obj with recvBuffer := b })

/-- `ConnectObj::Send`.  The number of the error is only printed. -/
def send (obj : SocketConnect) (calls : List SendCall) : Option (Bool × SocketConnect) :=
  if obj.state = .connecting then
    if calls.isEmpty then some (true, { obj with state := .connected }) else none
  else (obj.sendBuffer.sendLoop (calls.map SendCall.size)).map fun r => (r.1, { obj with sendBuffer := r.2 })

end SocketConnect

/-- One of the two functions, with what the calls of the system return. -/
inductive SocketOp
  | recv (calls : List RecvCall)
  | send (calls : List SendCall)

namespace SocketOp

/-- The function is called. -/
def apply (takePackets : NetworkBuffer → Option NetworkBuffer) (obj : SocketConnect) :
    SocketOp → Option (Bool × SocketConnect)
  | recv calls => obj.recv takePackets calls
  | send calls => obj.send calls

/-- The functions are called one after the other; what they return. -/
def applyAll (takePackets : NetworkBuffer → Option NetworkBuffer) :
    SocketConnect → List SocketOp → Option (List Bool × SocketConnect)
  | obj, [] => some ([], obj)
  | obj, op :: ops => do
    let (answer, obj) ← op.apply takePackets obj
    let (answers, obj) ← applyAll takePackets obj ops
    some (answer :: answers, obj)

/-! ### What is asked of the answers -/

/-- The last call of `::recv` found that the other side has closed in order, with nothing more to read. -/
def PeerClosed : SocketOp → Prop
  | recv calls => calls.getLast? = some .closed
  | send _ => False

/-- The last call of the system failed, with this error. -/
def FailedWith : SocketOp → ℤ → Prop
  | recv calls, errno => calls.getLast? = some (.failed errno)
  | send calls, errno => ∃ call, calls.getLast? = some call ∧ call.size < 0 ∧ call.errno = errno

/-- **The answer is right.**  It is false exactly if the other side has closed in order with nothing more to
read, or the last call failed with an error; it is not false if that call would have to wait or was
interrupted, and it is not true after a fatal error. -/
structure Right (op : SocketOp) (answer : Bool) : Prop where
  exact : answer = false ↔ op.PeerClosed ∨ ∃ errno, op.FailedWith errno ∧ isError errno = true
  waits : ∀ errno, op.FailedWith errno → isError errno = false → answer = true
  fatal : ∀ errno, op.FailedWith errno → isError errno = true → answer = false

/-- **The calls for which the answer is right.**  `Recv` does not find the close behind bytes that the same
call of it has read, and no error, unless that has the number zero.  `Send` does not find that nothing was
taken, and no error that is not fatal. -/
def Meets : SocketOp → Prop
  | recv calls => (calls.getLast? = some .closed → calls = [.closed]) ∧
      ∀ errno, calls.getLast? = some (.failed errno) → isError errno = true → errno = 0
  | send calls => ∀ call, calls.getLast? = some call →
      call.size ≠ 0 ∧ (call.size < 0 → isError call.errno = true)

end SocketOp

/-! ### When the loops end with false -/

/-- The flag of the first loop of `Recv`: **false only where it found the close at once**, or an error with
the number zero. -/
theorem SocketConnect.recvLoop_eq_false_iff {b c : NetworkBuffer} {isRs rs : Bool} {calls : List RecvCall}
    (h : recvLoop b isRs calls = some (rs, c)) :
    rs = false ↔ (isRs = false ∧ calls = [.closed]) ∨ calls.getLast? = some (.failed 0) := by
  induction calls generalizing b isRs with
  | nil => cases h
  | cons call calls ih =>
    obtain ⟨d, -, h⟩ := Option.bind_eq_some_iff.1 h
    cases call with
    | bytes src =>
      simp only at h
      split at h
      · obtain ⟨e, -, h⟩ := Option.bind_eq_some_iff.1 h
        rw [ih h]
        cases calls with
        | nil => cases h
        | cons next calls => simp
      · cases h
    | closed =>
      cases calls with
      | nil =>
        obtain ⟨rfl, -⟩ := Prod.mk.inj (Option.some.inj h)
        simp
      | cons next calls => cases h
    | failed errno =>
      cases calls with
      | nil =>
        obtain ⟨rfl, -⟩ := Prod.mk.inj (Option.some.inj h)
        by_cases hzero : errno = 0
        · simp [hzero, isError]
        · simp [hzero]
      | cons next calls => cases h

/-- The loop of `Send` ends with false **exactly if the last call took nothing**. -/
theorem NetworkBuffer.sendLoop_eq_false_iff {b c : NetworkBuffer} {rs : Bool} {calls : List SendCall}
    (h : b.sendLoop (calls.map SendCall.size) = some (rs, c)) :
    rs = false ↔ ∃ call, calls.getLast? = some call ∧ call.size ≤ 0 := by
  induction calls generalizing b with
  | nil =>
    rw [List.map_nil, sendLoop] at h
    split at h
    · obtain ⟨rfl, -⟩ := Prod.mk.inj (Option.some.inj h)
      simp
    · cases h
  | cons call calls ih =>
    rw [List.map_cons, sendLoop] at h
    split at h
    · cases h
    · split at h
      · rename_i hsize
        cases calls with
        | nil =>
          obtain ⟨rfl, -⟩ := Prod.mk.inj (Option.some.inj h)
          simp [hsize]
        | cons next calls => cases h
      · rename_i hsize
        split at h
        · cases calls with
          | nil =>
            obtain ⟨rfl, -⟩ := Prod.mk.inj (Option.some.inj h)
            simpa using hsize
          | cons next calls => cases h
        · rw [ih h]
          cases calls with
          | nil => simpa using hsize
          | cons next calls => simp

/-! ### When the answers are right -/

namespace SocketOp

variable {takePackets : NetworkBuffer → Option NetworkBuffer} {obj t : SocketConnect} {op : SocketOp}
  {answer : Bool}

/-- What `Recv` returns on a connection that is established. -/
theorem recv_eq_false_iff {calls : List RecvCall} (hstate : obj.state = .connected)
    (h : obj.recv takePackets calls = some (answer, t)) :
    (answer = false ↔ calls = [.closed] ∨ calls.getLast? = some (.failed 0)) ∧ t.state = .connected := by
  rw [SocketConnect.recv, if_neg (by rw [hstate]; decide)] at h
  obtain ⟨⟨isRs, b⟩, hloop, h⟩ := Option.bind_eq_some_iff.1 h
  obtain ⟨c, -, h⟩ := Option.map_eq_some_iff.1 h
  obtain ⟨rfl, rfl⟩ := Prod.mk.inj h
  have hfalse := SocketConnect.recvLoop_eq_false_iff hloop
  simp only [true_and] at hfalse
  exact ⟨hfalse, hstate⟩

/-- What `Send` returns on a connection that is established. -/
theorem send_eq_false_iff {calls : List SendCall} (hstate : obj.state = .connected)
    (h : obj.send calls = some (answer, t)) :
    (answer = false ↔ ∃ call, calls.getLast? = some call ∧ call.size ≤ 0) ∧ t.state = .connected := by
  rw [SocketConnect.send, if_neg (by rw [hstate]; decide)] at h
  obtain ⟨⟨rs, b⟩, hloop, hres⟩ := Option.map_eq_some_iff.1 h
  obtain ⟨rfl, rfl⟩ := Prod.mk.inj hres
  exact ⟨NetworkBuffer.sendLoop_eq_false_iff hloop, hstate⟩

theorem state_apply (hstate : obj.state = .connected) (h : op.apply takePackets obj = some (answer, t)) :
    t.state = .connected := by
  cases op with
  | recv calls => exact (recv_eq_false_iff hstate h).2
  | send calls => exact (send_eq_false_iff hstate h).2

/-- The last call fails with one error. -/
theorem FailedWith.unique {errno errno' : ℤ} (h : op.FailedWith errno) (h' : op.FailedWith errno') :
    errno = errno' := by
  cases op with
  | recv calls =>
    have heq : some (RecvCall.failed errno) = some (.failed errno') := Eq.trans (Eq.symm h) h'
    cases heq
    rfl
  | send calls =>
    obtain ⟨call, hlast, -, rfl⟩ := h
    obtain ⟨call', hlast', -, rfl⟩ := h'
    rw [hlast] at hlast'
    cases hlast'
    rfl

/-- It does not find the close if it fails. -/
theorem FailedWith.not_peerClosed {errno : ℤ} (h : op.FailedWith errno) : ¬ op.PeerClosed := by
  cases op with
  | recv calls =>
    intro hclosed
    have heq : some (RecvCall.failed errno) = some .closed := Eq.trans (Eq.symm h) hclosed
    cases heq
  | send calls => exact id

/-- The answer is right if it is false exactly when it should be. -/
theorem right_of_exact
    (h : answer = false ↔ op.PeerClosed ∨ ∃ errno, op.FailedWith errno ∧ isError errno = true) :
    op.Right answer where
  exact := h
  waits := by
    intro errno hfailed hno
    rw [← Bool.not_eq_false, h]
    rintro (hclosed | ⟨errno', hfailed', herr⟩)
    · exact hfailed.not_peerClosed hclosed
    · rw [hfailed.unique hfailed', herr] at hno
      cases hno
  fatal := fun errno hfailed herr => h.2 (.inr ⟨errno, hfailed, herr⟩)

/-- **The answer of `Recv`.** -/
theorem right_recv_iff {calls : List RecvCall} (hstate : obj.state = .connected)
    (h : obj.recv takePackets calls = some (answer, t)) :
    (recv calls).Right answer ↔ (recv calls).Meets := by
  have hfalse := (recv_eq_false_iff hstate h).1
  constructor
  · intro hright
    refine ⟨fun hclosed => ?_, fun errno hfailed herr => ?_⟩
    · rcases hfalse.1 (hright.exact.2 (.inl hclosed)) with heq | hfailed
      · exact heq
      · rw [hclosed] at hfailed
        cases hfailed
    · rcases hfalse.1 (hright.fatal errno hfailed herr) with rfl | hzero
      · cases hfailed
      · rw [hfailed] at hzero
        cases hzero
        rfl
  · rintro ⟨hclosed, hfailed⟩
    refine right_of_exact (hfalse.trans ⟨?_, ?_⟩)
    · rintro (rfl | hzero)
      · exact .inl rfl
      · exact .inr ⟨0, hzero, rfl⟩
    · rintro (hlast | ⟨errno, hlast, herr⟩)
      · exact .inl (hclosed hlast)
      · obtain rfl := hfailed errno hlast herr
        exact .inr hlast

/-- **The answer of `Send`.** -/
theorem right_send_iff {calls : List SendCall} (hstate : obj.state = .connected)
    (h : obj.send calls = some (answer, t)) :
    (send calls).Right answer ↔ (send calls).Meets := by
  have hfalse := (send_eq_false_iff hstate h).1
  constructor
  · intro hright call hlast
    refine ⟨fun hzero => ?_, fun hneg => ?_⟩
    · obtain hclosed | ⟨errno, ⟨call', hlast', hneg, -⟩, -⟩ :=
        hright.exact.1 (hfalse.2 ⟨call, hlast, hzero.le⟩)
      · exact hclosed.elim
      · rw [hlast] at hlast'
        cases hlast'
        omega
    · by_contra herr
      have htrue := hright.waits call.errno ⟨call, hlast, hneg, rfl⟩ (by simpa using herr)
      rw [hfalse.2 ⟨call, hlast, hneg.le⟩] at htrue
      cases htrue
  · intro hmeets
    refine right_of_exact (hfalse.trans ⟨?_, ?_⟩)
    · rintro ⟨call, hlast, hle⟩
      obtain ⟨hzero, herr⟩ := hmeets call hlast
      have hneg : call.size < 0 := by omega
      exact .inr ⟨call.errno, ⟨call, hlast, hneg, rfl⟩, herr hneg⟩
    · rintro (hclosed | ⟨errno, ⟨call, hlast, hneg, -⟩, -⟩)
      · exact hclosed.elim
      · exact ⟨call, hlast, hneg.le⟩

theorem right_apply_iff (hstate : obj.state = .connected) (h : op.apply takePackets obj = some (answer, t)) :
    op.Right answer ↔ op.Meets := by
  cases op with
  | recv calls => exact right_recv_iff hstate h
  | send calls => exact right_send_iff hstate h

end SocketOp

/-- **All answers are right exactly if all calls meet the condition**, on a connection that is established. -/
theorem right_iff {takePackets : NetworkBuffer → Option NetworkBuffer} {obj t : SocketConnect}
    {ops : List SocketOp} {answers : List Bool} (hstate : obj.state = .connected)
    (hrun : SocketOp.applyAll takePackets obj ops = some (answers, t)) :
    List.Forall₂ SocketOp.Right ops answers ↔ ∀ op ∈ ops, op.Meets := by
  induction ops generalizing obj answers with
  | nil =>
    obtain ⟨rfl, -⟩ := Prod.mk.inj (Option.some.inj hrun)
    exact iff_of_true .nil (List.forall_mem_nil _)
  | cons op ops ih =>
    obtain ⟨⟨answer, obj'⟩, happly, hrun⟩ := Option.bind_eq_some_iff.1 hrun
    obtain ⟨⟨answers', t'⟩, hrest, hrun⟩ := Option.bind_eq_some_iff.1 hrun
    obtain ⟨rfl, rfl⟩ := Prod.mk.inj (Option.some.inj hrun)
    rw [List.forall₂_cons, List.forall_mem_cons, SocketOp.right_apply_iff hstate happly,
      ih (SocketOp.state_apply hstate happly) hrest]

/-- A connection that is established, with small buffers. -/
def smallConnect : SocketConnect := ⟨.connected, .create 32, .create 32⟩

/-- `EAGAIN` behind two bytes, and nothing to send. -/
theorem right_wouldBlock :
    List.Forall₂ SocketOp.Right [.recv [.bytes [1, 2], .failed 11], .send []] [true, true] := by
  have hrun : SocketOp.applyAll some smallConnect [.recv [.bytes [1, 2], .failed 11], .send []] =
      some ([true, true], { smallConnect with recvBuffer := ⟨⟨[1, 2] ++ List.replicate 30 0, 0, 2⟩, 2⟩ }) := by
    rfl
  refine (right_iff rfl hrun).2 ?_
  intro op hop
  rw [List.mem_cons, List.mem_singleton] at hop
  rcases hop with rfl | rfl
  · refine ⟨fun hlast => ?_, fun errno hlast herr => ?_⟩
    · cases hlast
    · cases hlast
      cases herr
  · intro call hlast
    cases hlast

/-- **A connection that was reset** (`ECONNRESET`) goes on. -/
theorem not_right : ¬ ∀ (takePackets : NetworkBuffer → Option NetworkBuffer) (obj t : SocketConnect)
    (ops : List SocketOp) (answers : List Bool), obj.state = .connected →
    SocketOp.applyAll takePackets obj ops = some (answers, t) → List.Forall₂ SocketOp.Right ops answers := by
  intro hright
  obtain ⟨h, -⟩ := List.forall₂_cons.1
    (hright some smallConnect smallConnect [.recv [.failed 104]] [true] rfl (by rfl))
  have hfalse := h.fatal 104 rfl rfl
  cases hfalse

end MmoServer
