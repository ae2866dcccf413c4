/-
**What was received before the other side closed.**

The bytes that the other side of a connection sends before it closes are some frames, or HTTP messages,
one after the other.  They arrive in the system, `Recv` moves them into the receive buffer, takes the
complete ones out, and dispatches them.  When the connection is removed, `MI_NetworkDisconnect` is
dispatched, and what has not been read is gone.

In the select build the connection is removed when `::recv` finds the end of what was sent.  In the
epoll build the event in which the close is reported removes it at once, whether the event also says
that there is something to read or not.

How `GetPacket` recognises a message is a parameter; for TCP it is the decoder of
`MmoServer.getTcpPacket`.

Main definitions:

* `MmoServer.Framing`, `MmoServer.IsMessage` — what `GetPacket` does with the bytes of a buffer, and
  what a complete message is for it;
* `MmoServer.tcpFraming` — the one of TCP;
* `MmoServer.DrainState`, `MmoServer.drainSystem` — a connection, and its runs;
* `MmoServer.Drained` — all messages come before the disconnect;
* `MmoServer.DrainState.StepOk` — a closed connection is not removed while a complete message is there.

Main results:

* `MmoServer.isMessage_frame`, `MmoServer.tcpFraming_getPacket` — a frame is a message, and the decoder
  does what the framing says;
* `MmoServer.getPackets_progress` — what the loop of `Recv` takes out;
* `MmoServer.drained_run` — **all is dispatched before the disconnect** in the runs that meet the
  condition;
* `MmoServer.drained_quiet` — as in all runs in which only `::recv` finds the end;
* `MmoServer.not_drained` — a close that is reported together with data.
-/

import MmoServer.FrameStream
import MmoServer.NetworkLocator

set_option relaxedAutoImplicit false
set_option autoImplicit false

namespace MmoServer

/-! ### Messages -/

/-- A packet, as `GetPacket` makes it of received bytes. -/
structure RecvMessage where
  msgId : MsgId
  s2s : Option (UInt64 × UInt64)
  body : List UInt8

/-- What `GetPacket` returns, and what it leaves in the buffer; `close` is a `nullptr` after
`ConnectObj::Close`. -/
inductive GetResult
  | nullptr
  | close (rest : List UInt8)
  | packet (m : RecvMessage) (rest : List UInt8)

/-- `GetPacket` of a network, on the bytes of a buffer.  There is no result if it reads outside of
them. -/
structure Framing where
  isTcp : Bool
  getPacket : List UInt8 → Option GetResult

/-- **A complete message**: it is found, whatever follows, and its beginnings are waited for. -/
structure IsMessage (f : Framing) (block : List UInt8) (m : RecvMessage) : Prop where
  ne_nil : block ≠ []
  found : ∀ rest, f.getPacket (block ++ rest) = some (.packet m rest)
  waits : ∀ q, q <+: block → q ≠ block → f.getPacket q = some .nullptr

/-- The other side has closed before the end of a message. -/
def Unfinished (f : Framing) (tail : List UInt8) : Prop :=
  ∀ q, q <+: tail → f.getPacket q = some .nullptr

namespace Framing

/-- The messages that `Recv` dispatches: it drops pings over TCP, answers bad HTTP requests itself, and
drops what is not HTTP. -/
def dispatches (f : Framing) (m : RecvMessage) : Bool :=
  if f.isTcp then m.msgId ≠ .miPing
  else m.msgId ≠ .miHttpRequestBad ∧
    (MsgId.miHttpBegin.number < m.msgId.number ∧ m.msgId.number < MsgId.miHttpEnd.number ∨
      m.msgId = .miHttpOuterResponse)

/-- The second loop of `Recv`: the packets that it gets, and what is left in the buffer. -/
def getPackets (f : Framing) : ℕ → List UInt8 → Option (List RecvMessage × List UInt8)
  | 0, _ => none
  | fuel + 1, q =>
    match f.getPacket q with
    | none => none
    | some .nullptr => some ([], q)
    | some (.close rest) => some ([], rest)
    | some (.packet m rest) => (f.getPackets fuel rest).map fun r => (m :: r.1, r.2)

end Framing

/-- `GetTcpPacket`. -/
def tcpFraming : Framing where
  isTcp := true
  getPacket q :=
    if Waiting q then some .nullptr
    else if HeadFits q then
      match MsgId.findValueByNumber (headOf q).msgId with
      | none => some (.close (q.drop (4 + headLengthOf q)))
      | some msgId => some (.packet ⟨msgId, (headOf q).s2s, bodyOf q⟩ (q.drop (totalSizeOf q)))
    else none

/-! ### A connection -/

/-- What one call of `::recv` returns. -/
inductive RecvResult
  /-- So many bytes. -/
  | data (n : ℕ)
  /-- The other side has closed, and all is read. -/
  | eof
  /-- An error, with its number. -/
  | error (errno : ℤ)

/-- What is dispatched. -/
inductive Dispatched
  | packet (m : RecvMessage)
  /-- `MI_NetworkDisconnect`. -/
  | disconnect

/-- A connection.  It was removed if it has no state. -/
structure DrainState where
  /-- What the other side sends before it closes, and has not arrived yet. -/
  wire : List UInt8
  /-- What has arrived, and has not been read. -/
  kernel : List UInt8
  /-- The receive buffer. -/
  held : List UInt8
  /-- The other side has closed. -/
  closed : Bool
  state : ConnectStateType
  log : List Dispatched

/-- An event of the socket. -/
structure DrainReport where
  /-- `EPOLLRDHUP`, which the close of the other side sets, `EPOLLERR` or `EPOLLHUP`; in the select
  build, the set of exceptions. -/
  broken : Bool
  /-- It can be read, and what the calls of `::recv` return. -/
  input : Option (List RecvResult)
  /-- It can be written, and whether the calls of `::send` succeed. -/
  output : Option Bool

/-- What happens to a connection. -/
inductive DrainEvent
  | arrive (n : ℕ)
  /-- The other side has closed. -/
  | fin
  | report (e : DrainReport)
  /-- `HandleDisconnect`: this side closes. -/
  | handleDisconnect

/-- `NetworkHelp::IsError`: not `EINTR`, `EAGAIN`, `EWOULDBLOCK` or `EINPROGRESS`. -/
def isError (socketError : ℤ) : Bool :=
  if socketError = 4 ∨ socketError = 11 ∨ socketError = 115 then false else true

namespace DrainState

/-- The first loop of `Recv`: whether it has a result, and what is then unread and in the buffer. -/
def recvLoop (closed : Bool) : Bool → List UInt8 → List UInt8 → List RecvResult →
    Option (Bool × List UInt8 × List UInt8)
  | _, _, _, [] => none
  | _, kernel, held, .data n :: results =>
    if 0 < n ∧ n ≤ kernel.length then
      recvLoop closed true (kernel.drop n) (held ++ kernel.take n) results
    else none
  | isRs, kernel, held, .eof :: results =>
    if kernel.isEmpty ∧ closed ∧ results.isEmpty then some (isRs, kernel, held) else none
  | _, kernel, held, .error errno :: results =>
    if errno ≠ 0 ∧ results.isEmpty then
      some (decide (errno ≠ 0) || !isError errno, kernel, held)
    else none

/-- `ConnectObj::Recv`. -/
def recv (f : Framing) (s : DrainState) (results : List RecvResult) : Option (Bool × DrainState) :=
  if s.state = .connecting then
    if results.isEmpty then some (true, { s with state := .connected }) else none
  else
    match recvLoop s.closed false s.kernel s.held results with
    | none => none
    | some (false, kernel, held) => some (false, { s with kernel := kernel, held := held })
    | some (true, kernel, held) =>
      (f.getPackets (held.length + 1) held).map fun r =>
        (true, { s with
          kernel := kernel
          held := r.2
          log := s.log ++ (r.1.filter f.dispatches).map .packet })

/-- `RemoveConnectObj`. -/
def removeConnectObj (s : DrainState) : DrainState :=
  { s with kernel := [], held := [], state := .none, log := s.log ++ [.disconnect] }

/-- The part of an event for reading. -/
def handleInput (f : Framing) (s : DrainState) : Option (List RecvResult) → Option (Bool × DrainState)
  | none => some (true, s)
  | some results => s.recv f results

/-- The part of an event for writing. -/
def handleOutput (s : DrainState) : Option Bool → DrainState
  | none => s
  | some rs =>
    if s.state = .connecting then { s with state := .connected }
    else if rs then s
    else s.removeConnectObj

/-- One event. -/
def handleReport (f : Framing) (s : DrainState) (e : DrainReport) : Option DrainState :=
  if e.broken then some s.removeConnectObj
  else
    (s.handleInput f e.input).map fun r =>
      if r.1 = false then r.2.removeConnectObj else r.2.handleOutput e.output

/-- One step. -/
def step (f : Framing) (s : DrainState) (e : DrainEvent) : Option DrainState :=
  if s.state = .none then none
  else
    match e with
    | .arrive n =>
      if n ≤ s.wire.length ∧ s.closed = false then
        some { s with wire := s.wire.drop n, kernel := s.kernel ++ s.wire.take n }
      else none
    | .fin => if s.wire.isEmpty then some { s with closed := true } else none
    | .report e => s.handleReport f e
    | .handleDisconnect => some s.removeConnectObj

/-- There is no complete message in front of what was not dispatched. -/
def NoMessage (f : Framing) (s : DrainState) : Prop :=
  ∀ block m rest, IsMessage f block m → s.held ++ s.kernel ≠ block ++ rest

/-- If the other side has closed, all complete messages were taken out. -/
def RemovalOk (f : Framing) (s : DrainState) : Prop := s.closed = true → s.NoMessage f

/-- **The condition for a step**: it does not remove the connection before its messages were read, by
an event that does not let it read, a `::send` that fails, or a disconnect of this side. -/
def StepOk (f : Framing) (s : DrainState) : DrainEvent → Prop
  | .report e =>
    if e.broken then s.RemovalOk f
    else e.output = some false → ∀ r ∈ s.handleInput f e.input, r.1 = true →
      r.2.state ≠ .connecting → r.2.RemovalOk f
  | .handleDisconnect => s.RemovalOk f
  | _ => True

end DrainState

/-- The runs of a connection over which the other side sends these bytes. -/
def drainSystem (f : Framing) (sent : List UInt8) : Transition.System DrainState DrainEvent :=
  Transition.System.ofFun
    (fun s => ∃ state, state ≠ .none ∧ s = ⟨sent, [], [], false, state, []⟩) (DrainState.step f)

/-- The messages were dispatched, in order, and then the disconnect; nothing else was, unless something
came behind them that is not the beginning of a message. -/
def DispatchedAll (f : Framing) (ms : List RecvMessage) (tail : List UInt8) (log : List Dispatched) :
    Prop :=
  ∃ others : List RecvMessage, log = ms.map .packet ++ others.map .packet ++ [.disconnect] ∧
    (Unfinished f tail → others = [])

/-- **All messages come before the disconnect** if the other side has closed. -/
def Drained (f : Framing) (ms : List RecvMessage) (tail : List UInt8) (s : DrainState) : Prop :=
  s.closed = true → .disconnect ∈ s.log → DispatchedAll f ms tail s.log

/-! ### What `Recv` does -/

/-- **The first loop** moves bytes.  Without a result it has found the end at once. -/
theorem recvLoop_fields {closed isRs isRs' : Bool} {kernel held kernel' held' : List UInt8}
    {results : List RecvResult}
    (h : DrainState.recvLoop closed isRs kernel held results = some (isRs', kernel', held')) :
    held' ++ kernel' = held ++ kernel ∧
      (isRs' = false → isRs = false ∧ held' = held ∧ kernel' = [] ∧ closed = true) := by
  induction results generalizing isRs kernel held with
  | nil => cases h
  | cons result results ih =>
      cases result with
      | data n =>
          simp only [DrainState.recvLoop] at h
          split at h
          · obtain ⟨hbytes, hfalse⟩ := ih h
            refine ⟨?_, fun hrs => ?_⟩
            · rw [hbytes, List.append_assoc, List.take_append_drop]
            · have htrue := (hfalse hrs).1
              cases htrue
          · cases h
      | eof =>
          simp only [DrainState.recvLoop] at h
          split at h
          · rename_i hend
            simp only [Option.some.injEq, Prod.mk.injEq] at h
            obtain ⟨rfl, rfl, rfl⟩ := h
            exact ⟨rfl, fun hrs => ⟨hrs, rfl, List.isEmpty_iff.1 hend.1, hend.2.1⟩⟩
          · cases h
      | error errno =>
          simp only [DrainState.recvLoop] at h
          split at h
          · rename_i herror
            simp only [Option.some.injEq, Prod.mk.injEq] at h
            obtain ⟨rfl, rfl, rfl⟩ := h
            refine ⟨rfl, fun hrs => ?_⟩
            simp [herror.1] at hrs
          · cases h

/-- What is a beginning of two messages in a row is at least the first one, or a beginning of it. -/
theorem prefix_or_of_append {q after b rest : List UInt8} (h : q ++ after = b ++ rest) :
    (∃ q', q = b ++ q' ∧ q' ++ after = rest) ∨ (q <+: b ∧ q ≠ b) := by
  rcases List.append_eq_append_iff.1 h with ⟨b', hb, hafter⟩ | ⟨q', hq, hrest⟩
  · by_cases hnil : b' = []
    · refine Or.inl ⟨[], ?_, ?_⟩
      · rw [hb, hnil, List.append_nil, List.append_nil]
      · rw [hafter, hnil, List.nil_append, List.nil_append]
    · refine Or.inr ⟨⟨b', hb.symm⟩, fun heq => hnil ?_⟩
      rw [← heq] at hb
      exact List.self_eq_append_right.1 hb
  · exact Or.inl ⟨q', hq, hrest.symm⟩

/-- What is left of the messages: those that were not taken out are still there, and the first one is
not complete in the buffer.  Behind the last one, anything may come that is not an unfinished message. -/
inductive Taken (f : Framing) (tail : List UInt8) (ms : List RecvMessage) (held unread : List UInt8) :
    List RecvMessage → Prop
  | part {blocks : List (List UInt8)} {ms₁ ms₂ : List RecvMessage} (heq : ms = ms₁ ++ ms₂)
      (hblocks : List.Forall₂ (IsMessage f) blocks ms₂)
      (hbytes : held ++ unread = blocks.flatten ++ tail)
      (hfirst : ∀ b ∈ blocks.head?, held.length < b.length) : Taken f tail ms held unread ms₁
  | beyond {others : List RecvMessage} (htail : ¬ Unfinished f tail) :
      Taken f tail ms held unread (ms ++ others)

/-- **The second loop** takes complete messages out, one after the other. -/
theorem getPackets_progress {f : Framing} {tail : List UInt8} {fuel : ℕ}
    {blocks : List (List UInt8)} {ms out : List RecvMessage} {q after rest : List UInt8}
    (hblocks : List.Forall₂ (IsMessage f) blocks ms) (hbytes : q ++ after = blocks.flatten ++ tail)
    (h : f.getPackets fuel q = some (out, rest)) : Taken f tail ms rest after out := by
  induction fuel generalizing blocks ms out q with
  | zero => cases h
  | succ fuel ih =>
      simp only [Framing.getPackets] at h
      cases hblocks with
      | nil =>
          by_cases htail : Unfinished f tail
          · -- the buffer has a part of an unfinished message
            have hwait : f.getPacket q = some .nullptr := htail q ⟨after, by simpa using hbytes⟩
            simp only [hwait, Option.some.injEq, Prod.mk.injEq] at h
            obtain ⟨rfl, rfl⟩ := h
            exact .part rfl .nil hbytes fun b hb => nomatch hb
          · exact .beyond htail
      | @cons b m bs ms' hb hbs =>
          rw [List.flatten_cons, List.append_assoc] at hbytes
          rcases prefix_or_of_append hbytes with ⟨q', rfl, hafter⟩ | ⟨hbegin, hne⟩
          · -- the first message is complete
            simp only [hb.found q'] at h
            obtain ⟨⟨out', rest'⟩, hout, heq⟩ := Option.map_eq_some_iff.1 h
            obtain ⟨rfl, rfl⟩ := Prod.mk.inj heq
            cases ih hbs hafter hout with
            | part heq hblocks' hbytes' hfirst =>
                exact .part (by rw [heq, List.cons_append]) hblocks' hbytes' hfirst
            | @beyond others htail => exact .beyond htail
          · -- it has to be waited for
            simp only [hb.waits q hbegin hne, Option.some.injEq, Prod.mk.injEq] at h
            obtain ⟨rfl, rfl⟩ := h
            refine .part rfl (.cons hb hbs) ?_ ?_
            · rw [List.flatten_cons, List.append_assoc]
              exact hbytes
            · intro b' hb'
              obtain rfl := Option.some.inj hb'
              exact lt_of_le_of_ne hbegin.length_le fun hlen => hne (hbegin.eq_of_length hlen)

namespace Taken

variable {f : Framing} {tail held unread held' unread' : List UInt8}
  {ms out : List RecvMessage}

/-- What is in the buffer stays there, and other bytes are unread in another way. -/
theorem of_eq (h : Taken f tail ms held unread out) (hunread : unread = unread') :
    Taken f tail ms held unread' out := hunread ▸ h

/-- More bytes are read and parsed. -/
theorem recv (h : Taken f tail ms held unread out) {fuel : ℕ} {q rest : List UInt8}
    {out' : List RecvMessage} (hall : ∀ m ∈ ms, f.dispatches m = true)
    (hbytes : q ++ unread' = held ++ unread)
    (hget : f.getPackets fuel q = some (out', rest)) :
    Taken f tail ms rest unread' (out ++ out'.filter f.dispatches) := by
  cases h with
  | @part blocks ms₁ ms₂ heq hblocks hheld hfirst =>
      have hkeep : ∀ l : List RecvMessage, (∀ m ∈ l, m ∈ ms) → l.filter f.dispatches = l := by
        intro l hl
        exact List.filter_eq_self.2 fun m hm => hall m (hl m hm)
      have hms₂ : ∀ m ∈ ms₂, m ∈ ms := by
        intro m hm
        rw [heq]
        exact List.mem_append_right _ hm
      cases getPackets_progress hblocks (hbytes.trans hheld) hget with
      | @part blocks' ms₃ ms₄ heq' hblocks' hheld' hfirst' =>
          have hms₃ : ∀ m ∈ out', m ∈ ms := fun m hm =>
            hms₂ m (heq' ▸ List.mem_append_left _ hm)
          rw [hkeep out' hms₃]
          exact .part (by rw [heq, heq', List.append_assoc]) hblocks' hheld' hfirst'
      | @beyond others htail =>
          rw [List.filter_append, hkeep ms₂ hms₂, ← List.append_assoc, ← heq]
          exact .beyond htail
  | @beyond others htail =>
      rw [List.append_assoc]
      exact .beyond htail

/-- If there is no complete message that is longer than what is in the buffer, all messages were taken
out. -/
theorem done_of_short (h : Taken f tail ms held unread out)
    (hno : ∀ block m rest, IsMessage f block m → held.length < block.length →
      held ++ unread ≠ block ++ rest) :
    ∃ others, out = ms ++ others ∧ (Unfinished f tail → others = []) := by
  cases h with
  | @part blocks ms₁ ms₂ heq hblocks hbytes hfirst =>
      cases hblocks with
      | nil => exact ⟨[], by rw [heq, List.append_nil, List.append_nil], fun _ => rfl⟩
      | @cons b m bs ms' hb hbs =>
          rw [List.flatten_cons, List.append_assoc] at hbytes
          exact absurd hbytes (hno b m _ hb (hfirst b rfl))
  | @beyond others htail => exact ⟨others, rfl, fun h => absurd h htail⟩

/-- If there is no complete message, all messages were taken out. -/
theorem done (h : Taken f tail ms held unread out)
    (hno : ∀ block m rest, IsMessage f block m → held ++ unread ≠ block ++ rest) :
    ∃ others, out = ms ++ others ∧ (Unfinished f tail → others = []) :=
  h.done_of_short fun block m rest hm _ => hno block m rest hm

/-- If all is read, all messages were taken out. -/
theorem done_of_read (h : Taken f tail ms held [] out) :
    ∃ others, out = ms ++ others ∧ (Unfinished f tail → others = []) := by
  refine h.done_of_short fun block m rest _ hlt hbytes => ?_
  -- the buffer is too short for the first message that is left
  have hlen := congrArg List.length hbytes
  simp only [List.append_nil, List.length_append] at hlen
  omega

end Taken

/-! ### What a step keeps -/

/-- **The invariant of a connection.** -/
structure DrainInv (f : Framing) (ms : List RecvMessage) (tail : List UInt8) (s : DrainState) :
    Prop where
  /-- Nothing comes behind a close. -/
  wire : s.closed = true → s.wire = []
  alive : s.state ≠ .none → ∃ out, s.log = out.map .packet ∧
    Taken f tail ms s.held (s.kernel ++ s.wire) out
  removed : s.state = .none → s.closed = true → DispatchedAll f ms tail s.log

namespace DrainInv

variable {f : Framing} {ms : List RecvMessage} {tail : List UInt8} {s t : DrainState}

/-- The connection is removed when all messages were taken out. -/
theorem removeConnectObj (h : DrainInv f ms tail s) (halive : s.state ≠ .none)
    (hdone : s.closed = true → ∀ out, Taken f tail ms s.held (s.kernel ++ s.wire) out →
      ∃ others, out = ms ++ others ∧ (Unfinished f tail → others = [])) :
    DrainInv f ms tail s.removeConnectObj where
  wire := h.wire
  alive := fun hstate => absurd rfl hstate
  removed := by
    intro _ hclosed
    obtain ⟨out, hlog, htaken⟩ := h.alive halive
    obtain ⟨others, rfl, hothers⟩ := hdone hclosed out htaken
    refine ⟨others, ?_, hothers⟩
    rw [DrainState.removeConnectObj, hlog, List.map_append]

/-- The same, with the condition on the state. -/
theorem removeConnectObj_ok (h : DrainInv f ms tail s) (halive : s.state ≠ .none)
    (hok : s.RemovalOk f) : DrainInv f ms tail s.removeConnectObj := by
  refine h.removeConnectObj halive fun hclosed out htaken => ?_
  rw [h.wire hclosed, List.append_nil] at htaken
  exact htaken.done (hok hclosed)

/-- The state of a connection becomes connected. -/
theorem connected (h : DrainInv f ms tail s) (halive : s.state ≠ .none) :
    DrainInv f ms tail { s with state := .connected } where
  wire := h.wire
  alive := fun _ => h.alive halive
  removed := fun hstate => nomatch hstate

/-- **Reading** takes messages out; if it has no result, all is read. -/
theorem recv (h : DrainInv f ms tail s) (halive : s.state ≠ .none)
    (hall : ∀ m ∈ ms, f.dispatches m = true) {results : List RecvResult} {r : Bool × DrainState}
    (hr : s.recv f results = some r) :
    DrainInv f ms tail r.2 ∧ r.2.state ≠ .none ∧
      (r.1 = false → DrainInv f ms tail r.2.removeConnectObj) := by
  simp only [DrainState.recv] at hr
  split at hr
  · split at hr
    · obtain rfl := Option.some.inj hr
      exact ⟨h.connected halive, (fun hstate => nomatch hstate), (fun hfalse => nomatch hfalse)⟩
    · cases hr
  · obtain ⟨out, hlog, htaken⟩ := h.alive halive
    split at hr
    · cases hr
    · -- nothing was read, and nothing is left to be read
      rename_i kernel held hloop
      obtain rfl := Option.some.inj hr
      obtain ⟨-, hend⟩ := recvLoop_fields hloop
      obtain ⟨-, rfl, rfl, hclosed⟩ := hend rfl
      have hkernel : s.kernel = [] := by
        have hbytes := (recvLoop_fields hloop).1
        rw [List.append_nil] at hbytes
        exact List.self_eq_append_right.1 hbytes
      have hsame : { s with kernel := [], held := s.held } = s := by
        rw [← hkernel]
      rw [hsame]
      refine ⟨h, halive, fun _ => h.removeConnectObj halive fun _ out' htaken' => ?_⟩
      rw [h.wire hclosed, hkernel] at htaken'
      exact htaken'.done_of_read
    · rename_i kernel held hloop
      obtain ⟨⟨out', rest⟩, hget, rfl⟩ := Option.map_eq_some_iff.1 hr
      obtain ⟨hbytes, -⟩ := recvLoop_fields hloop
      have hread : held ++ (kernel ++ s.wire) = s.held ++ (s.kernel ++ s.wire) := by
        rw [← List.append_assoc, hbytes, List.append_assoc]
      have hnext := htaken.recv hall hread hget
      refine ⟨⟨h.wire, fun _ => ⟨_, ?_, hnext⟩, fun hstate => absurd hstate halive⟩, halive,
        fun hfalse => nomatch hfalse⟩
      rw [hlog, List.map_append]

theorem handleInput (h : DrainInv f ms tail s) (halive : s.state ≠ .none)
    (hall : ∀ m ∈ ms, f.dispatches m = true) {input : Option (List RecvResult)}
    {r : Bool × DrainState} (hr : s.handleInput f input = some r) :
    DrainInv f ms tail r.2 ∧ r.2.state ≠ .none ∧
      (r.1 = false → DrainInv f ms tail r.2.removeConnectObj) := by
  cases input with
  | none =>
      obtain rfl := Option.some.inj hr
      exact ⟨h, halive, fun hfalse => nomatch hfalse⟩
  | some results => exact h.recv halive hall hr

theorem handleOutput (h : DrainInv f ms tail s) (halive : s.state ≠ .none) {output : Option Bool}
    (hok : output = some false → s.state ≠ .connecting → s.RemovalOk f) :
    DrainInv f ms tail (s.handleOutput output) := by
  cases output with
  | none => exact h
  | some rs =>
      simp only [DrainState.handleOutput]
      split
      · exact h.connected halive
      · rename_i hstate
        cases rs with
        | true => exact h
        | false => exact h.removeConnectObj_ok halive (hok rfl hstate)

/-- **What an event keeps.** -/
theorem handleReport (h : DrainInv f ms tail s) (halive : s.state ≠ .none)
    (hall : ∀ m ∈ ms, f.dispatches m = true) {e : DrainReport} (hok : s.StepOk f (.report e))
    (he : s.handleReport f e = some t) : DrainInv f ms tail t := by
  simp only [DrainState.handleReport] at he
  simp only [DrainState.StepOk] at hok
  split at he
  · rename_i hbroken
    rw [if_pos hbroken] at hok
    obtain rfl := Option.some.inj he
    exact h.removeConnectObj_ok halive hok
  · rename_i hbroken
    rw [if_neg hbroken] at hok
    obtain ⟨r, hr, rfl⟩ := Option.map_eq_some_iff.1 he
    obtain ⟨hinv, hstate, hremove⟩ := h.handleInput halive hall hr
    split
    · rename_i hfalse
      exact hremove hfalse
    · rename_i htrue
      refine hinv.handleOutput hstate fun houtput hconnecting => ?_
      exact hok houtput r hr (by simpa using htrue) hconnecting

/-- **What a step keeps.** -/
theorem step (h : DrainInv f ms tail s) (hall : ∀ m ∈ ms, f.dispatches m = true) {e : DrainEvent}
    (hok : s.StepOk f e) (he : s.step f e = some t) : DrainInv f ms tail t := by
  simp only [DrainState.step] at he
  split at he
  · cases he
  rename_i halive
  cases e with
  | arrive n =>
      simp only at he
      split at he
      · rename_i hn
        obtain rfl := Option.some.inj he
        obtain ⟨out, hlog, htaken⟩ := h.alive halive
        refine ⟨fun hclosed => ?_, fun _ => ⟨out, hlog, htaken.of_eq ?_⟩,
          fun hstate => absurd hstate halive⟩
        · exact absurd (hn.2.symm.trans hclosed) (by simp)
        · rw [List.append_assoc, List.take_append_drop]
      · cases he
  | fin =>
      simp only at he
      split at he
      · rename_i hwire
        obtain rfl := Option.some.inj he
        exact ⟨fun _ => List.isEmpty_iff.1 hwire, h.alive, fun hstate => absurd hstate halive⟩
      · cases he
  | report e => exact h.handleReport halive hall hok he
  | handleDisconnect =>
      obtain rfl := Option.some.inj he
      exact h.removeConnectObj_ok halive hok

end DrainInv

namespace DrainInv

variable {f : Framing} {ms : List RecvMessage} {tail : List UInt8}

/-- **The invariant holds in a run** whose steps meet the condition. -/
theorem run {blocks : List (List UInt8)} (hblocks : List.Forall₂ (IsMessage f) blocks ms)
    (hall : ∀ m ∈ ms, f.dispatches m = true) {es : List DrainEvent} {s : DrainState}
    (hrun : ((drainSystem f (blocks.flatten ++ tail)).restrict (DrainState.StepOk f)).Run es s) :
    DrainInv f ms tail s := by
  refine hrun.restrict_invariant (p := DrainInv f ms tail) ?_ ?_
  · rintro _ ⟨state, hstate, rfl⟩
    refine ⟨(fun hclosed => nomatch hclosed), fun _ => ⟨[], rfl, .part rfl hblocks rfl ?_⟩,
      fun hnone => absurd hnone hstate⟩
    intro b hb
    cases hblocks with
    | nil => cases hb
    | @cons b' m bs ms' hmessage hbs =>
        obtain rfl := Option.some.inj hb
        exact List.length_pos_iff.2 hmessage.ne_nil
  · intro s e t hs hok hstep
    exact hs.step hall hok hstep

theorem drained {s : DrainState} (h : DrainInv f ms tail s) : Drained f ms tail s := by
  intro hclosed hdisconnect
  by_cases hstate : s.state = .none
  · exact h.removed hstate hclosed
  · obtain ⟨out, hlog, -⟩ := h.alive hstate
    rw [hlog] at hdisconnect
    obtain ⟨m, -, hm⟩ := List.mem_map.1 hdisconnect
    cases hm

end DrainInv

/-- **All is dispatched before the disconnect** in the runs whose steps meet the condition. -/
theorem drained_run {f : Framing} {blocks : List (List UInt8)} {ms : List RecvMessage}
    {tail : List UInt8} (hblocks : List.Forall₂ (IsMessage f) blocks ms)
    (hall : ∀ m ∈ ms, f.dispatches m = true) {es : List DrainEvent} {s : DrainState}
    (hrun : ((drainSystem f (blocks.flatten ++ tail)).restrict (DrainState.StepOk f)).Run es s) :
    Drained f ms tail s :=
  (DrainInv.run hblocks hall hrun).drained

/-- Only `::recv` finds that the other side has closed, as in the select build without exceptions: no
event removes the connection before it reads, no `::send` fails, and this side does not disconnect. -/
def DrainEvent.Quiet : DrainEvent → Prop
  | .report e => e.broken = false ∧ e.output ≠ some false
  | .handleDisconnect => False
  | _ => True

/-- **All is dispatched before the disconnect** if only `::recv` finds the end. -/
theorem drained_quiet {f : Framing} {blocks : List (List UInt8)} {ms : List RecvMessage}
    {tail : List UInt8} (hblocks : List.Forall₂ (IsMessage f) blocks ms)
    (hall : ∀ m ∈ ms, f.dispatches m = true) {es : List DrainEvent} {s : DrainState}
    (hrun : ((drainSystem f (blocks.flatten ++ tail)).restrict fun _ e => e.Quiet).Run es s) :
    Drained f ms tail s := by
  refine (DrainInv.run hblocks hall (hrun.restrict_mono ?_)).drained
  intro s e hquiet
  cases e with
  | arrive n => trivial
  | fin => trivial
  | report e =>
      obtain ⟨hbroken, houtput⟩ := hquiet
      simp only [DrainState.StepOk, hbroken]
      intro hfalse
      exact absurd hfalse houtput
  | handleDisconnect => exact hquiet.elim

/-! ### TCP -/

/-- What is made of the frame of a packet. -/
def Packet.recvMessage (p : Packet) : RecvMessage := ⟨p.msgId, p.head.s2s, p.body⟩

/-- **A frame is a message.** -/
theorem isMessage_frame {p : Packet} (hp : p.Sendable) :
    IsMessage tcpFraming (frame p) p.recvMessage where
  ne_nil := List.length_pos_iff.1 (length_frame_pos hp)
  found := by
    intro rest
    have hid : MsgId.findValueByNumber (headOf (frame p ++ rest)).msgId = some p.msgId := by
      rw [headOf_frame]
      exact MsgId.findValueByNumber_number p.msgId
    simp only [tcpFraming, if_neg (not_waiting_frame hp rest), if_pos (headFits_frame hp rest), hid]
    rw [headOf_frame, bodyOf_frame hp, totalSizeOf_frame hp, drop_frame hp]
    rfl
  waits := by
    intro q hbegin hne
    obtain ⟨rest, hrest⟩ := hbegin
    have hlen : q.length < (frame p).length := by
      have hsum := congrArg List.length hrest
      rw [List.length_append] at hsum
      have hpos : 0 < rest.length := by
        refine List.length_pos_iff.2 fun hnil => hne ?_
        rw [← hrest, hnil, List.append_nil]
      omega
    have hwait : Waiting q := by
      rcases Nat.lt_or_ge q.length 2 with hshort | hlong
      · exact Or.inl hshort
      · refine Or.inr ?_
        have htotal := totalSizeOf_frame hp []
        rw [List.append_nil, ← hrest, totalSizeOf_append hlong] at htotal
        rw [htotal, ← hp.length_frame]
        exact hlen
    simp only [tcpFraming, if_pos hwait]

/-- **The decoder does what the framing says**, on the bytes of a ring. -/
theorem tcpFraming_getPacket {b : NetworkBuffer} (h : b.Ring) {pooled : Packet} (hp : pooled.Pooled)
    (identify : NetIdentify) {r : GetResult} (hr : tcpFraming.getPacket b.contents = some r) :
    ∃ outcome s, getTcpPacket 1 identify pooled ⟨b, []⟩ = some (outcome, s) ∧ s.buffer.Ring ∧
      match r, outcome with
      | .nullptr, .nullptr => s.buffer = b
      | .close _, .close => True
      | .packet m rest, .packet p =>
        p.msgId = m.msgId ∧ p.body = m.body ∧ s.buffer.contents = rest
      | _, _ => False := by
  simp only [tcpFraming] at hr
  split at hr
  · rename_i hwait
    obtain rfl := Option.some.inj hr
    obtain ⟨log, hrun, -⟩ := getTcpPacket_waiting identify pooled h hwait 1
    exact ⟨_, _, hrun, h, rfl⟩
  rename_i hwait
  split at hr
  · rename_i hfits
    obtain ⟨outcome, c, log, hrun, hring, -, hout⟩ :=
      getTcpPacket_frame identify pooled h hp hwait hfits
    cases hid : MsgId.findValueByNumber (headOf b.contents).msgId with
    | none =>
        rw [hid] at hr hout
        obtain rfl := Option.some.inj hr
        obtain rfl := hout
        exact ⟨_, _, hrun, hring, trivial⟩
    | some msgId =>
        rw [hid] at hr hout
        obtain rfl := Option.some.inj hr
        obtain ⟨p, rfl, hmsgId, hframe, hcontents⟩ := hout
        exact ⟨_, _, hrun, hring, hmsgId, hframe.body_eq, hcontents⟩
  · cases hr

/-! ### A close that is reported with data -/

/-- A message of six bytes. -/
theorem isMessage_zerosPacket :
    IsMessage tcpFraming (frame (zerosPacket 0)) (zerosPacket 0).recvMessage :=
  isMessage_frame (sendable_zerosPacket (Nat.zero_le _))

theorem length_frame_zerosPacket : (frame (zerosPacket 0)).length = 6 := by
  rw [(sendable_zerosPacket (Nat.zero_le _)).length_frame, totalSize_zerosPacket (Nat.zero_le _)]

/-- It arrives. -/
theorem step_arrive : DrainState.step tcpFraming ⟨frame (zerosPacket 0), [], [], false, .connected, []⟩
    (.arrive 6) = some ⟨[], frame (zerosPacket 0), [], false, .connected, []⟩ := by
  have hlen := length_frame_zerosPacket
  have htake : (frame (zerosPacket 0)).take 6 = frame (zerosPacket 0) :=
    List.take_of_length_le (by omega)
  have hdrop : (frame (zerosPacket 0)).drop 6 = [] := List.drop_of_length_le (by omega)
  simp [DrainState.step, hlen, htake, hdrop]

/-- It is read. -/
theorem step_read : DrainState.step tcpFraming ⟨[], frame (zerosPacket 0), [], false, .connected, []⟩
      (.report ⟨false, some [.data 6, .error 11], none⟩) =
    some ⟨[], [], [], false, .connected, [.packet (zerosPacket 0).recvMessage]⟩ := by
  have hlen := length_frame_zerosPacket
  have htake : (frame (zerosPacket 0)).take 6 = frame (zerosPacket 0) :=
    List.take_of_length_le (by omega)
  have hdrop : (frame (zerosPacket 0)).drop 6 = [] := List.drop_of_length_le (by omega)
  have hloop : DrainState.recvLoop false false (frame (zerosPacket 0)) [] [.data 6, .error 11] =
      some (true, [], frame (zerosPacket 0)) := by
    simp [DrainState.recvLoop, hlen, htake, hdrop]
  have hmessage := isMessage_zerosPacket.found []
  rw [List.append_nil] at hmessage
  have hwait : tcpFraming.getPacket [] = some .nullptr :=
    isMessage_zerosPacket.waits [] List.nil_prefix isMessage_zerosPacket.ne_nil.symm
  have hget : tcpFraming.getPackets 7 (frame (zerosPacket 0)) =
      some ([(zerosPacket 0).recvMessage], []) := by
    simp [Framing.getPackets, hmessage, hwait]
  have hdispatches : tcpFraming.dispatches (zerosPacket 0).recvMessage = true := rfl
  simp [DrainState.step, DrainState.handleReport, DrainState.handleInput, DrainState.recv, hloop, hlen,
    hget, hdispatches, DrainState.handleOutput]

/-- A message is read, and then the other side closes. -/
theorem drained_move : ∃ s, ((drainSystem tcpFraming ([frame (zerosPacket 0)].flatten ++ [])).restrict
      (DrainState.StepOk tcpFraming)).Run
    [.arrive 6, .report ⟨false, some [.data 6, .error 11], none⟩, .fin, .report ⟨true, none, none⟩] s ∧
    s.log = [.packet (zerosPacket 0).recvMessage, .disconnect] ∧
    Drained tcpFraming [(zerosPacket 0).recvMessage] [] s := by
  have hinit : ((drainSystem tcpFraming ([frame (zerosPacket 0)].flatten ++ [])).restrict
      (DrainState.StepOk tcpFraming)).Run [] ⟨frame (zerosPacket 0), [], [], false, .connected, []⟩ :=
    .init ⟨.connected, by simp, by simp⟩
  have hok : DrainState.RemovalOk tcpFraming
      ⟨[], [], [], true, .connected, [.packet (zerosPacket 0).recvMessage]⟩ := by
    intro _ block m rest hblock hbytes
    have hnil : block ++ rest = [] := by simpa using hbytes.symm
    exact hblock.ne_nil (List.append_eq_nil_iff.1 hnil).1
  have harrive : DrainState.StepOk tcpFraming
    ⟨frame (zerosPacket 0), [], [], false, .connected, []⟩ (.arrive 6) := trivial
  have hread : DrainState.StepOk tcpFraming ⟨[], frame (zerosPacket 0), [], false, .connected, []⟩
    (.report ⟨false, some [.data 6, .error 11], none⟩) := fun hfalse => nomatch hfalse
  have hfin : DrainState.StepOk tcpFraming
    ⟨[], [], [], false, .connected, [.packet (zerosPacket 0).recvMessage]⟩ .fin := trivial
  have hclose : DrainState.StepOk tcpFraming
    ⟨[], [], [], true, .connected, [.packet (zerosPacket 0).recvMessage]⟩
    (.report ⟨true, none, none⟩) := hok
  have hrun := (((hinit.step ⟨harrive, step_arrive⟩).step ⟨hread, step_read⟩).step
    ⟨hfin, rfl⟩).step ⟨hclose, rfl⟩
  refine ⟨_, hrun, rfl, drained_run (.cons isMessage_zerosPacket .nil) ?_ hrun⟩
  intro m hm
  obtain rfl := List.mem_singleton.1 hm
  rfl

/-- **What was received is lost** when the close is reported in the same event. -/
theorem not_drained :
    ¬ ∀ (f : Framing) (blocks : List (List UInt8)) (ms : List RecvMessage) (tail : List UInt8)
        (es : List DrainEvent) (s : DrainState), List.Forall₂ (IsMessage f) blocks ms →
        (drainSystem f (blocks.flatten ++ tail)).Run es s → Drained f ms tail s := by
  intro hall
  have hinit : (drainSystem tcpFraming ([frame (zerosPacket 0)].flatten ++ [])).Run []
      ⟨frame (zerosPacket 0), [], [], false, .connected, []⟩ := .init ⟨.connected, by simp, by simp⟩
  have harrive : (drainSystem tcpFraming ([frame (zerosPacket 0)].flatten ++ [])).step
    ⟨frame (zerosPacket 0), [], [], false, .connected, []⟩ (.arrive 6)
    ⟨[], frame (zerosPacket 0), [], false, .connected, []⟩ := step_arrive
  have hfin : (drainSystem tcpFraming ([frame (zerosPacket 0)].flatten ++ [])).step
    ⟨[], frame (zerosPacket 0), [], false, .connected, []⟩ .fin
    ⟨[], frame (zerosPacket 0), [], true, .connected, []⟩ := rfl
  have hclose : (drainSystem tcpFraming ([frame (zerosPacket 0)].flatten ++ [])).step
    ⟨[], frame (zerosPacket 0), [], true, .connected, []⟩
    (.report ⟨true, some [.data 6, .eof], none⟩) ⟨[], [], [], true, .none, [.disconnect]⟩ := rfl
  have hrun := ((hinit.step harrive).step hfin).step hclose
  obtain ⟨others, hlog, -⟩ := hall _ _ _ _ _ _ (.cons isMessage_zerosPacket .nil) hrun rfl
    (List.mem_singleton.2 rfl)
  simp at hlog

end MmoServer
