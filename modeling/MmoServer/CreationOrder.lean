/-
**Creations and packets on their way to a thread.**

`CreateComponentWithSn` and `DispatchPacket` put what they are given into two lists of the thread manager,
each with its own lock.  `ThreadMgr::Update` swaps the list of creations and hands them out, and then swaps
the list of packets and hands these out; every thread works off its own list in order.  A thread that calls
both, one after the other, may do so at any time: a creation that comes behind the first swap waits for the
next `Update`, and a packet that comes before the second one does not.

Main definitions:

* `MmoServer.ManagerState`, `MmoServer.ManagerState.step` — the lists of the manager and of the threads;
* `MmoServer.Post` — a call, with the point of the loop of `Update` at which it was made;
* `MmoServer.ManagerState.arrived` — what a thread has been given, in the order in which it handles it.

Main results:

* `MmoServer.ManagerState.InOrder.step` — things are given to a thread in the order of the swaps that take
  them;
* `MmoServer.creation_first_iff` — **when a creation is handled before the packet behind it**;
* `MmoServer.not_creation_first` — a run in which it is handled after it.
-/

import Mathlib.Order.Nat
import MmoServer.Dispatch

set_option relaxedAutoImplicit false
set_option autoImplicit false

namespace MmoServer

/-! ### The thread manager -/

/-- What a thread asks the manager to hand out: a creation, or a packet with the serial number of its
entity. -/
inductive PostMessage
  | createComponent (threadType : Int32) (isToAllThread : Bool) (sn : UInt64)
  | packet (entity : UInt64) (isCmd : Bool)
  deriving DecidableEq

/-- A call of `CreateComponentWithSn` or `DispatchPacket`, with how often the list of creations had been
swapped by then, and whether the list of packets was still to be swapped behind it. -/
structure Post where
  sender : ℕ
  message : PostMessage
  frame : ℕ
  inCreate : Bool
  deriving DecidableEq

/-- Where the main thread is in `Update`: in `UpdateCreatePacket`, in `UpdateDispatchPacket`, or neither. -/
inductive UpdatePlace
  | outside | creating | dispatching
  deriving DecidableEq

/-- The manager and the threads.  `createPackets` and `packets` are the lists for the writers, `work` has the
calls of `AddPacketToList` that the loop over a swapped list has still to make.  The last three fields are
the history: what each thread has handled, all calls, and the number of swaps of the creations.  A call
stands in the lists with its place in the history. -/
structure ManagerState where
  createPackets : List ℕ
  packets : List ℕ
  place : UpdatePlace
  work : List (ℕ × ℕ)
  nextThreadSn : ℕ → ℕ
  lists : ℕ → PacketList
  handled : ℕ → List ℕ
  posts : List Post
  frame : ℕ

/-- Calls of the threads, the steps of `Update`, and those of `MessageSystem::Update` of a thread. -/
inductive ManagerEvent
  | createComponentWithSn (sender : ℕ) (threadType : Int32) (sn : UInt64) (isToAllThread : Bool)
  | dispatchPacket (sender : ℕ) (entity : UInt64) (isCmd : Bool)
  | updateCreatePacket
  | addPacketToList
  | updateDispatchPacket
  | systemUpdate
  | swapMessages (thread : ℕ)
  | processPacket (thread : ℕ)
  | clearMessages (thread : ℕ)

namespace ManagerState

/-- A server that starts. -/
def start : ManagerState where
  createPackets := []
  packets := []
  place := .outside
  work := []
  nextThreadSn := fun _ => 0
  lists := fun _ => .empty
  handled := fun _ => []
  posts := []
  frame := 0

section Step

variable (ths : Threads) (typeIndex : Int32 → Option ℕ)

/-- `UpdateCreatePacket`, for one packet: the threads that get it, and the turns behind it.  `typeIndex` has
the places of the types of threads in `_threads`. -/
def routeCreate (threadType : Int32) (isToAllThread : Bool) (turn : ℕ → ℕ) : List ℕ × (ℕ → ℕ) :=
  if ths.collectors = [] then ([ths.main], turn)
  else
    match typeIndex threadType with
    -- an error is logged, and the packet is gone
    | none => ([], turn)
    | some k =>
      match ths.collectors[k]? with
      | none => ([], turn)
      | some c =>
        if isToAllThread then (c.threads, turn)
        else ([c.pick (turn k)], Function.update turn k (c.following (c.pick (turn k))))

/-- The threads that get a message, and the turns behind it. -/
def route (turn : ℕ → ℕ) : PostMessage → List ℕ × (ℕ → ℕ)
  | .createComponent threadType isToAllThread _ => routeCreate ths typeIndex threadType isToAllThread turn
  | .packet _ isCmd => (ths.targets isCmd turn, ths.advance isCmd turn)

/-- The loop over a swapped list. -/
def routes (posts : List Post) : List ℕ → (ℕ → ℕ) → List (ℕ × ℕ) × (ℕ → ℕ)
  | [], turn => ([], turn)
  | p :: ps, turn =>
    match posts[p]? with
    | none => routes posts ps turn
    | some post =>
      let one := route ths typeIndex turn post.message
      let rest := routes posts ps one.2
      (one.1.map (·, p) ++ rest.1, rest.2)

/-- The main thread does nothing else in the two loops of `Update`. -/
def canRun (s : ManagerState) (th : ℕ) : Bool :=
  th ≠ ths.main ∨ s.place = .outside

/-- A call is entered into the history. -/
def post (s : ManagerState) (sender : ℕ) (message : PostMessage) : ManagerState :=
  { s with posts := s.posts ++ [⟨sender, message, s.frame, s.place = .creating⟩] }

/-- `CreateComponentWithSn`, under `_create_lock`. -/
def createComponentWithSn (s : ManagerState) (sender : ℕ) (threadType : Int32) (sn : UInt64)
    (isToAllThread : Bool) : ManagerState :=
  { s.post sender (.createComponent threadType isToAllThread sn) with
    createPackets := s.createPackets ++ [s.posts.length] }

/-- `DispatchPacket`, under `_packet_lock`. -/
def dispatchPacket (s : ManagerState) (sender : ℕ) (entity : UInt64) (isCmd : Bool) : ManagerState :=
  { s.post sender (.packet entity isCmd) with packets := s.packets ++ [s.posts.length] }

/-- `UpdateCreatePacket`: the swap, and what is to be handed out. -/
def updateCreatePacket (s : ManagerState) : ManagerState :=
  { s with
    createPackets := []
    place := .creating
    work := (routes ths typeIndex s.posts s.createPackets s.nextThreadSn).1
    nextThreadSn := (routes ths typeIndex s.posts s.createPackets s.nextThreadSn).2
    frame := s.frame + 1 }

/-- `UpdateDispatchPacket`. -/
def updateDispatchPacket (s : ManagerState) : ManagerState :=
  { s with
    packets := []
    place := .dispatching
    work := (routes ths typeIndex s.posts s.packets s.nextThreadSn).1
    nextThreadSn := (routes ths typeIndex s.posts s.packets s.nextThreadSn).2 }

/-- `AddPacketToList`. -/
def addPacketToList (s : ManagerState) (th p : ℕ) (rest : List (ℕ × ℕ)) : ManagerState :=
  { s with
    work := rest
    lists := Function.update s.lists th ((s.lists th).push p) }

/-- One step. -/
def step (s : ManagerState) : ManagerEvent → Option ManagerState
  | .createComponentWithSn sender threadType sn isToAllThread =>
    if s.canRun ths sender then some (s.createComponentWithSn sender threadType sn isToAllThread) else none
  | .dispatchPacket sender entity isCmd =>
    if s.canRun ths sender then some (s.dispatchPacket sender entity isCmd) else none
  | .updateCreatePacket =>
    if s.place = .outside then some (s.updateCreatePacket ths typeIndex) else none
  | .addPacketToList =>
    match s.work with
    | [] => none
    | (th, p) :: rest => some (s.addPacketToList th p rest)
  | .updateDispatchPacket =>
    if s.place = .creating ∧ s.work = [] then some (s.updateDispatchPacket ths typeIndex) else none
  | .systemUpdate =>
    if s.place = .dispatching ∧ s.work = [] then some { s with place := .outside } else none
  | .swapMessages th =>
    if s.canRun ths th then
      (s.lists th).swap.map fun l => { s with lists := Function.update s.lists th l }
    else none
  | .processPacket th =>
    if s.canRun ths th then
      (s.lists th).next.map fun next =>
        { s with
          lists := Function.update s.lists th next.2
          handled := Function.update s.handled th (s.handled th ++ [next.1]) }
    else none
  | .clearMessages th =>
    if s.canRun ths th then
      (s.lists th).clear.map fun l => { s with lists := Function.update s.lists th l }
    else none

/-- All orders of steps of all threads. -/
def system : Transition.System ManagerState ManagerEvent :=
  .ofFun (fun s => s = .start) (step ths typeIndex)

end Step

/-! ### In which order things arrive -/

/-- What a thread has been given, in the order in which it handles it. -/
def arrived (s : ManagerState) (th : ℕ) : List ℕ :=
  s.handled th ++ (s.lists th).pending

end ManagerState

/-- The swap that takes a call: a creation is taken by the next swap of the creations, and a packet by the
next swap of the packets.  The swaps of an `Update` have numbers that follow each other. -/
def Post.swapOf (p : Post) : ℕ :=
  match p.message with
  | .createComponent .. => 2 * p.frame + 2
  | .packet .. => if p.inCreate then 2 * p.frame + 1 else 2 * p.frame + 3

namespace ManagerState

/-- The swap that takes the call in some place of the history. -/
def swapAt (s : ManagerState) (p : ℕ) : ℕ :=
  (s.posts[p]?).elim 0 Post.swapOf

/-- The last swap. -/
def lastSwap (s : ManagerState) : ℕ :=
  match s.place with
  | .creating => 2 * s.frame
  | _ => 2 * s.frame + 1

/-- **Things are given to the threads in the order of the swaps.** -/
structure InOrder (s : ManagerState) : Prop where
  sorted : ∀ th, (s.arrived th).Pairwise fun p q => s.swapAt p ≤ s.swapAt q
  arrived : ∀ th, ∀ p ∈ s.arrived th, p < s.posts.length ∧ s.swapAt p ≤ s.lastSwap
  work : ∀ w ∈ s.work, w.2 < s.posts.length ∧ s.swapAt w.2 = s.lastSwap
  creations : ∀ p ∈ s.createPackets, p < s.posts.length ∧ s.swapAt p = 2 * s.frame + 2
  packets : ∀ p ∈ s.packets, p < s.posts.length ∧
    s.swapAt p = if s.place = .creating then 2 * s.frame + 1 else 2 * s.frame + 3
  idle : s.place = .outside → s.work = []
  frames : s.posts.Pairwise fun p q => p.frame ≤ q.frame
  frame_le : ∀ p ∈ s.posts, p.frame ≤ s.frame

theorem swapAt_of_getElem? {s : ManagerState} {p : ℕ} {post : Post} (h : s.posts[p]? = some post) :
    s.swapAt p = post.swapOf := by
  rw [swapAt, h]
  rfl

/-- A new call changes nothing for the earlier ones. -/
theorem swapAt_post {s : ManagerState} {p : ℕ} (hp : p < s.posts.length) (sender : ℕ)
    (message : PostMessage) : (s.post sender message).swapAt p = s.swapAt p := by
  rw [swapAt, swapAt, post, List.getElem?_append_left hp]

/-- The swap that takes a new call. -/
theorem swapAt_post_last (s : ManagerState) (sender : ℕ) (message : PostMessage) :
    (s.post sender message).swapAt s.posts.length =
      Post.swapOf ⟨sender, message, s.frame, s.place = .creating⟩ := by
  refine swapAt_of_getElem? ?_
  rw [post, List.getElem?_append_right (le_refl _), Nat.sub_self]
  rfl

theorem length_post (s : ManagerState) (sender : ℕ) (message : PostMessage) :
    (s.post sender message).posts.length = s.posts.length + 1 :=
  List.length_append

theorem inOrder_start : start.InOrder where
  sorted _ := List.Pairwise.nil
  arrived _ p hp := by cases hp
  work w hw := by cases hw
  creations p hp := by cases hp
  packets p hp := by cases hp
  idle _ := rfl
  frames := List.Pairwise.nil
  frame_le p hp := by cases hp

namespace InOrder

variable {s : ManagerState}

theorem post (h : s.InOrder) (sender : ℕ) (message : PostMessage) : (s.post sender message).InOrder where
  sorted th := by
    refine (h.sorted th).imp_of_mem fun {p q} hp hq hle => ?_
    rw [swapAt_post (h.arrived th p hp).1, swapAt_post (h.arrived th q hq).1]
    exact hle
  arrived th p hp := by
    obtain ⟨hlt, hle⟩ := h.arrived th p hp
    rw [length_post, swapAt_post hlt]
    exact ⟨Nat.lt_succ_of_lt hlt, hle⟩
  work w hw := by
    obtain ⟨hlt, heq⟩ := h.work w hw
    rw [length_post, swapAt_post hlt]
    exact ⟨Nat.lt_succ_of_lt hlt, heq⟩
  creations p hp := by
    obtain ⟨hlt, heq⟩ := h.creations p hp
    rw [length_post, swapAt_post hlt]
    exact ⟨Nat.lt_succ_of_lt hlt, heq⟩
  packets p hp := by
    obtain ⟨hlt, heq⟩ := h.packets p hp
    rw [length_post, swapAt_post hlt]
    exact ⟨Nat.lt_succ_of_lt hlt, heq⟩
  idle := h.idle
  frames := by
    refine List.pairwise_append.2 ⟨h.frames, List.pairwise_singleton _ _, fun p hp q hq => ?_⟩
    obtain rfl := List.mem_singleton.1 hq
    exact h.frame_le p hp
  frame_le p hp := by
    obtain hold | hnew := List.mem_append.1 hp
    · exact h.frame_le p hold
    · obtain rfl := List.mem_singleton.1 hnew
      exact le_refl _

theorem createComponentWithSn (h : s.InOrder) (sender : ℕ) (threadType : Int32) (sn : UInt64)
    (isToAllThread : Bool) : (s.createComponentWithSn sender threadType sn isToAllThread).InOrder := by
  have hpost := h.post sender (.createComponent threadType isToAllThread sn)
  refine { hpost with creations := fun p hp => ?_ }
  obtain hold | hnew := List.mem_append.1 hp
  · exact hpost.creations p hold
  · obtain rfl := List.mem_singleton.1 hnew
    refine ⟨(length_post ..).symm ▸ Nat.lt_succ_self _, ?_⟩
    exact swapAt_post_last s sender (.createComponent threadType isToAllThread sn)

theorem dispatchPacket (h : s.InOrder) (sender : ℕ) (entity : UInt64) (isCmd : Bool) :
    (s.dispatchPacket sender entity isCmd).InOrder := by
  have hpost := h.post sender (.packet entity isCmd)
  refine { hpost with packets := fun p hp => ?_ }
  obtain hold | hnew := List.mem_append.1 hp
  · exact hpost.packets p hold
  · obtain rfl := List.mem_singleton.1 hnew
    refine ⟨(length_post ..).symm ▸ Nat.lt_succ_self _, ?_⟩
    have hlast := swapAt_post_last s sender (.packet entity isCmd)
    simp only [Post.swapOf, decide_eq_true_eq] at hlast
    exact hlast

end InOrder

/-- What is handed out is what was in the list. -/
theorem mem_routes {ths : Threads} {typeIndex : Int32 → Option ℕ} {posts : List Post} {ps : List ℕ}
    {turn : ℕ → ℕ} {w : ℕ × ℕ} (hw : w ∈ (routes ths typeIndex posts ps turn).1) : w.2 ∈ ps := by
  induction ps generalizing turn with
  | nil => cases hw
  | cons p ps ih =>
    simp only [routes] at hw
    split at hw
    · exact .tail _ (ih hw)
    · obtain hone | hrest := List.mem_append.1 hw
      · obtain ⟨th, -, rfl⟩ := List.mem_map.1 hone
        exact .head _
      · exact .tail _ (ih hrest)

namespace InOrder

variable {s : ManagerState}

/-- The swap of the creations is one behind the last one of the packets. -/
theorem updateCreatePacket (h : s.InOrder) (hplace : s.place = .outside) (ths : Threads)
    (typeIndex : Int32 → Option ℕ) : (s.updateCreatePacket ths typeIndex).InOrder where
  sorted := h.sorted
  arrived th p hp := by
    obtain ⟨hlt, hle⟩ := h.arrived th p hp
    -- the loop of the packets before has come to its end
    have hlast : s.lastSwap = 2 * s.frame + 1 := by rw [lastSwap, hplace]
    have hnext : (s.updateCreatePacket ths typeIndex).lastSwap = 2 * (s.frame + 1) := rfl
    exact ⟨hlt, by rw [hnext]; show s.swapAt p ≤ _; omega⟩
  work w hw := by
    obtain ⟨hlt, heq⟩ := h.creations w.2 (mem_routes hw)
    exact ⟨hlt, heq⟩
  creations p hp := by cases hp
  packets p hp := by
    obtain ⟨hlt, heq⟩ := h.packets p hp
    rw [hplace, if_neg (by decide)] at heq
    exact ⟨hlt, heq⟩
  idle hout := by cases hout
  frames := h.frames
  frame_le p hp := Nat.le_succ_of_le (h.frame_le p hp)

theorem updateDispatchPacket (h : s.InOrder) (hplace : s.place = .creating) (ths : Threads)
    (typeIndex : Int32 → Option ℕ) : (s.updateDispatchPacket ths typeIndex).InOrder where
  sorted := h.sorted
  arrived th p hp := by
    obtain ⟨hlt, hle⟩ := h.arrived th p hp
    have hlast : s.lastSwap = 2 * s.frame := by rw [lastSwap, hplace]
    have hnext : (s.updateDispatchPacket ths typeIndex).lastSwap = 2 * s.frame + 1 := rfl
    exact ⟨hlt, by rw [hnext]; show s.swapAt p ≤ _; omega⟩
  work w hw := by
    obtain ⟨hlt, heq⟩ := h.packets w.2 (mem_routes hw)
    rw [hplace, if_pos rfl] at heq
    exact ⟨hlt, heq⟩
  creations := h.creations
  packets p hp := by cases hp
  idle hout := by cases hout
  frames := h.frames
  frame_le := h.frame_le

/-- What is handed out comes behind everything that has arrived. -/
theorem addPacketToList (h : s.InOrder) {th p : ℕ} {rest : List (ℕ × ℕ)} (hwork : s.work = (th, p) :: rest) :
    (s.addPacketToList th p rest).InOrder := by
  have hp := h.work (th, p) (hwork ▸ .head _)
  have harrived : (s.addPacketToList th p rest).arrived th = s.arrived th ++ [p] := by
    simp only [ManagerState.addPacketToList, ManagerState.arrived, Function.update_self,
      PacketList.pending_push, List.append_assoc]
  have hothers : ∀ th', th' ≠ th → (s.addPacketToList th p rest).arrived th' = s.arrived th' := by
    intro th' hne
    simp only [ManagerState.addPacketToList, ManagerState.arrived, Function.update_of_ne hne]
  refine { h with sorted := fun th' => ?_, arrived := fun th' q hq => ?_, work := fun w hw => ?_,
                  idle := fun hout => ?_ }
  · by_cases hth : th' = th
    · subst hth
      rw [harrived]
      refine List.pairwise_append.2 ⟨h.sorted th', List.pairwise_singleton _ _, fun a ha b hb => ?_⟩
      obtain rfl := List.mem_singleton.1 hb
      exact (h.arrived th' a ha).2.trans (le_of_eq hp.2.symm)
    · rw [hothers th' hth]
      exact h.sorted th'
  · by_cases hth : th' = th
    · subst hth
      rw [harrived] at hq
      obtain hold | hnew := List.mem_append.1 hq
      · exact h.arrived th' q hold
      · obtain rfl := List.mem_singleton.1 hnew
        exact ⟨hp.1, le_of_eq hp.2⟩
    · rw [hothers th' hth] at hq
      exact h.arrived th' q hq
  · exact h.work w (hwork ▸ .tail _ hw)
  · have hnone := h.idle hout
    rw [hwork] at hnone
    cases hnone

/-- A thread that works on its list handles things in the order in which they came. -/
theorem of_arrived (h : s.InOrder) {lists : ℕ → PacketList} {handled : ℕ → List ℕ}
    (heq : ∀ th, handled th ++ (lists th).pending = s.arrived th) :
    InOrder { s with lists := lists, handled := handled } := by
  refine { h with sorted := fun th => ?_, arrived := fun th p hp => ?_ }
  · show (handled th ++ (lists th).pending).Pairwise _
    rw [heq th]
    exact h.sorted th
  · have hmem : p ∈ handled th ++ (lists th).pending := hp
    rw [heq th] at hmem
    exact h.arrived th p hmem

/-- A thread's list is changed, and nothing in it gets lost. -/
theorem withList (h : s.InOrder) {th : ℕ} {l : PacketList} (hl : l.pending = (s.lists th).pending) :
    InOrder { s with lists := Function.update s.lists th l } := by
  refine h.of_arrived fun th' => ?_
  by_cases hth : th' = th
  · subst hth
    rw [Function.update_self, hl]
    rfl
  · rw [Function.update_of_ne hth]
    rfl

theorem processPacket (h : s.InOrder) {th : ℕ} {next : ℕ × PacketList} (hnext : (s.lists th).next = some next) :
    InOrder { s with
      lists := Function.update s.lists th next.2
      handled := Function.update s.handled th (s.handled th ++ [next.1]) } := by
  refine h.of_arrived fun th' => ?_
  by_cases hth : th' = th
  · subst hth
    rw [Function.update_self, Function.update_self, ManagerState.arrived, PacketList.pending_next hnext,
      List.append_assoc, List.singleton_append]
  · rw [Function.update_of_ne hth, Function.update_of_ne hth]
    rfl

/-- **Every step keeps the order.** -/
theorem step {ths : Threads} {typeIndex : Int32 → Option ℕ} {t : ManagerState} {e : ManagerEvent}
    (h : s.InOrder) (hstep : s.step ths typeIndex e = some t) : t.InOrder := by
  cases e with
  | createComponentWithSn sender threadType sn isToAllThread =>
    obtain ⟨-, ht⟩ := Option.ite_none_right_eq_some.1 hstep
    exact Option.some.inj ht ▸ h.createComponentWithSn sender threadType sn isToAllThread
  | dispatchPacket sender entity isCmd =>
    obtain ⟨-, ht⟩ := Option.ite_none_right_eq_some.1 hstep
    exact Option.some.inj ht ▸ h.dispatchPacket sender entity isCmd
  | updateCreatePacket =>
    obtain ⟨hplace, ht⟩ := Option.ite_none_right_eq_some.1 hstep
    exact Option.some.inj ht ▸ h.updateCreatePacket hplace ths typeIndex
  | addPacketToList =>
    simp only [ManagerState.step] at hstep
    split at hstep
    · cases hstep
    · rename_i th p rest hwork
      exact Option.some.inj hstep ▸ h.addPacketToList hwork
  | updateDispatchPacket =>
    obtain ⟨hplace, ht⟩ := Option.ite_none_right_eq_some.1 hstep
    exact Option.some.inj ht ▸ h.updateDispatchPacket hplace.1 ths typeIndex
  | systemUpdate =>
    obtain ⟨⟨hplace, hwork⟩, ht⟩ := Option.ite_none_right_eq_some.1 hstep
    obtain rfl := Option.some.inj ht
    have hlast : s.lastSwap = 2 * s.frame + 1 := by rw [lastSwap, hplace]
    refine { h with arrived := fun th p hp => ?_, work := fun w hw => ?_, packets := fun p hp => ?_,
                    idle := fun _ => hwork }
    · obtain ⟨hlt, hle⟩ := h.arrived th p hp
      exact ⟨hlt, hle.trans (le_of_eq hlast)⟩
    · rw [show s.work = [] from hwork] at hw
      cases hw
    · obtain ⟨hlt, heq⟩ := h.packets p hp
      rw [hplace, if_neg (by decide)] at heq
      exact ⟨hlt, heq⟩
  | swapMessages th =>
    obtain ⟨-, ht⟩ := Option.ite_none_right_eq_some.1 hstep
    obtain ⟨l, hl, rfl⟩ := Option.map_eq_some_iff.1 ht
    exact h.withList (PacketList.pending_swap hl)
  | processPacket th =>
    obtain ⟨-, ht⟩ := Option.ite_none_right_eq_some.1 hstep
    obtain ⟨next, hnext, rfl⟩ := Option.map_eq_some_iff.1 ht
    exact h.processPacket hnext
  | clearMessages th =>
    obtain ⟨-, ht⟩ := Option.ite_none_right_eq_some.1 hstep
    obtain ⟨l, hl, rfl⟩ := Option.map_eq_some_iff.1 ht
    exact h.withList (PacketList.pending_clear hl)

end InOrder

/-- **Every run keeps the order.** -/
theorem inOrder_run {ths : Threads} {typeIndex : Int32 → Option ℕ} {es : List ManagerEvent}
    {s : ManagerState} (hrun : (system ths typeIndex).Run es s) : s.InOrder :=
  hrun.invariant (fun _ hs => hs ▸ inOrder_start) fun _ _ _ h hstep => h.step hstep

end ManagerState

/-! ### Creations and packets -/

/-- In a list with an order, what cannot stand behind something stands in front of it. -/
theorem pair_sublist_of_pairwise {α : Type} {r : α → α → Prop} {l : List α} (h : l.Pairwise r) {a b : α}
    (ha : a ∈ l) (hb : b ∈ l) (hne : a ≠ b) (hnot : ¬ r b a) : [a, b].Sublist l := by
  induction l with
  | nil => cases ha
  | cons c l ih =>
    obtain ⟨hc, hl⟩ := List.pairwise_cons.1 h
    obtain rfl | hmem := List.mem_cons.1 ha
    · obtain rfl | hb := List.mem_cons.1 hb
      · exact absurd rfl hne
      · exact (List.singleton_sublist.2 hb).cons_cons _
    · obtain rfl | hb := List.mem_cons.1 hb
      · exact absurd (hc a hmem) hnot
      · exact (ih hl hmem hb).cons _

/-- **When a creation is handled before the packet behind it.**  A thread has been given a creation, and
has handled a packet for the same entity that was dispatched later.  It has handled the creation before,
unless the packet was dispatched while the main thread was between the two swaps of an `Update`, and the
creation had been asked for behind the first of them as well. -/
theorem creation_first_iff {ths : Threads} {typeIndex : Int32 → Option ℕ} {es : List ManagerEvent}
    {s : ManagerState} (hrun : (ManagerState.system ths typeIndex).Run es s) {i j : ℕ}
    {created sent : Post} (hi : s.posts[i]? = some created) (hj : s.posts[j]? = some sent) (hij : i < j)
    {threadType : Int32} {isToAllThread isCmd : Bool} {sn : UInt64}
    (hcreated : created.message = .createComponent threadType isToAllThread sn)
    (hsent : sent.message = .packet sn isCmd) {th : ℕ} (hgiven : i ∈ s.arrived th)
    (hhandled : j ∈ s.handled th) :
    [i, j].Sublist (s.handled th) ↔ ¬ (sent.inCreate = true ∧ created.frame = sent.frame) := by
  have h := ManagerState.inOrder_run hrun
  have hi' : s.swapAt i = 2 * created.frame + 2 := by
    rw [ManagerState.swapAt_of_getElem? hi, Post.swapOf, hcreated]
  have hj' : s.swapAt j = if sent.inCreate then 2 * sent.frame + 1 else 2 * sent.frame + 3 := by
    rw [ManagerState.swapAt_of_getElem? hj, Post.swapOf, hsent]
  have hframes : created.frame ≤ sent.frame := by
    obtain ⟨hilt, rfl⟩ := List.getElem?_eq_some_iff.1 hi
    obtain ⟨hjlt, rfl⟩ := List.getElem?_eq_some_iff.1 hj
    exact List.pairwise_iff_getElem.1 h.frames i j hilt hjlt hij
  have hswaps : s.swapAt i ≤ s.swapAt j ↔ ¬ (sent.inCreate = true ∧ created.frame = sent.frame) := by
    rw [hi', hj']
    by_cases hin : sent.inCreate = true
    · rw [if_pos hin]
      constructor
      · rintro hle ⟨-, heq⟩
        omega
      · intro hnot
        have hne : created.frame ≠ sent.frame := fun heq => hnot ⟨hin, heq⟩
        omega
    · rw [if_neg hin]
      exact ⟨fun _ hboth => hin hboth.1, fun _ => by omega⟩
  obtain ⟨hsorted, -, hbehind⟩ := List.pairwise_append.1 (h.sorted th)
  rw [← hswaps]
  constructor
  · intro hsub
    have hpair : [i, j].Pairwise fun p q => s.swapAt p ≤ s.swapAt q := hsorted.sublist hsub
    exact (List.pairwise_cons.1 hpair).1 j (.head _)
  · intro hle
    -- the two swaps are swaps of different lists
    have hlt : ¬ s.swapAt j ≤ s.swapAt i := by
      rw [hi', hj'] at hle ⊢
      by_cases hin : sent.inCreate = true
      · rw [if_pos hin] at hle ⊢
        omega
      · rw [if_neg hin] at hle ⊢
        omega
    obtain hmem | hpending := List.mem_append.1 hgiven
    · exact pair_sublist_of_pairwise hsorted hmem hhandled (Nat.ne_of_lt hij) hlt
    · exact absurd (hbehind j hhandled i hpending) hlt

/-- The collector of `Threads.two` has a thread. -/
theorem threads_two_ne_nil : ([1] : List ℕ) ≠ [] := List.cons_ne_nil 1 []

/-- The main thread and one thread for logic. -/
def Threads.two : Threads where
  main := 0
  collectors := [⟨false, [1], threads_two_ne_nil⟩]
  nodup := by decide

/-- A creation and a packet for it, and an `Update` that hands them out. -/
def inTime : List ManagerEvent :=
  [.createComponentWithSn 1 2 7 false, .dispatchPacket 1 7 false, .updateCreatePacket, .addPacketToList,
    .updateDispatchPacket, .addPacketToList, .addPacketToList, .swapMessages 1, .processPacket 1,
    .processPacket 1]

/-- The same two calls between the swaps of an `Update`, and the creation with the next one. -/
def betweenSwaps : List ManagerEvent :=
  [.updateCreatePacket, .createComponentWithSn 1 2 7 false, .dispatchPacket 1 7 false,
    .updateDispatchPacket, .addPacketToList, .addPacketToList, .swapMessages 1, .processPacket 1,
    .systemUpdate, .updateCreatePacket, .addPacketToList]

/-- The calls are made before the `Update` begins. -/
theorem creation_first_inTime : ∃ s, (ManagerState.system .two fun _ => some 0).Run inTime s ∧
    [0, 1].Sublist (s.handled 1) := by
  have hends : (Transition.System.execute (ManagerState.step .two fun _ => some 0) (fun _ _ => True) .start
      inTime).map (fun s => (s.posts, s.handled 1, (s.lists 1).pending)) =
      some ([⟨1, .createComponent 2 false 7, 0, false⟩, ⟨1, .packet 7 false, 0, false⟩], [0, 1], []) := by
    decide +kernel
  obtain ⟨s, hs, hend⟩ := Option.map_eq_some_iff.1 hends
  obtain ⟨hposts, hrest⟩ := Prod.mk.inj hend
  obtain ⟨hhandled, hpending⟩ := Prod.mk.inj hrest
  have hrun : (ManagerState.system .two fun _ => some 0).Run inTime s :=
    Transition.System.run_of_execute_true rfl hs
  refine ⟨s, hrun, (creation_first_iff hrun (i := 0) (j := 1) (by rw [hposts]; rfl) (by rw [hposts]; rfl)
    (by decide) rfl rfl ?_ ?_).2 (by decide)⟩
  · rw [ManagerState.arrived, hhandled, hpending]
    decide
  · rw [hhandled]
    decide

/-- **A creation that is handled after its packet.** -/
theorem not_creation_first : ¬ ∀ (ths : Threads) (typeIndex : Int32 → Option ℕ) (es : List ManagerEvent)
    (s : ManagerState), (ManagerState.system ths typeIndex).Run es s → ∀ (i j : ℕ) (created sent : Post),
    s.posts[i]? = some created → s.posts[j]? = some sent → i < j → created.sender = sent.sender →
    ∀ (threadType : Int32) (isToAllThread isCmd : Bool) (sn : UInt64),
    created.message = .createComponent threadType isToAllThread sn → sent.message = .packet sn isCmd →
    ∀ th, i ∈ s.arrived th → j ∈ s.handled th → [i, j].Sublist (s.handled th) := by
  intro h
  have hends : (Transition.System.execute (ManagerState.step .two fun _ => some 0) (fun _ _ => True) .start
      betweenSwaps).map (fun s => (s.posts, s.handled 1, (s.lists 1).pending)) =
      some ([⟨1, .createComponent 2 false 7, 1, true⟩, ⟨1, .packet 7 false, 1, true⟩], [1], [0]) := by
    decide +kernel
  obtain ⟨s, hs, hend⟩ := Option.map_eq_some_iff.1 hends
  obtain ⟨hposts, hrest⟩ := Prod.mk.inj hend
  obtain ⟨hhandled, hpending⟩ := Prod.mk.inj hrest
  have hrun : (ManagerState.system .two fun _ => some 0).Run betweenSwaps s :=
    Transition.System.run_of_execute_true rfl hs
  have hsub := h .two (fun _ => some 0) _ s hrun 0 1 ⟨1, .createComponent 2 false 7, 1, true⟩
    ⟨1, .packet 7 false, 1, true⟩ (by rw [hposts]; rfl) (by rw [hposts]; rfl) (by decide) rfl 2 false false 7
    rfl rfl 1 (by rw [ManagerState.arrived, hhandled, hpending]; decide) (by rw [hhandled]; decide)
  rw [hhandled] at hsub
  exact absurd hsub.length_le (by decide)

end MmoServer
