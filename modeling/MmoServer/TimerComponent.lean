/-
**The timers of a thread.**

The components of a thread register their timers with the thread's `TimerComponent`, which keeps them in a
heap by the time of their next call.  A timer whose time has come is taken out, its handler is called, and
it is put back with a new time unless it has had all its calls.

Main definitions:

* `MmoServer.Timer`, `MmoServer.TimerComponent` — a timer, and the heap, which is always one;
* `MmoServer.TimerComponent.add`, `MmoServer.TimerComponent.remove`,
  `MmoServer.TimerComponent.popTimeHeap`, `MmoServer.Timer.rearm` — what is done to them.

Main results:

* `MmoServer.TimerComponent.mem_insert`, `MmoServer.TimerComponent.mem_remove_of_ne`,
  `MmoServer.TimerComponent.sn_ne_of_mem_remove`, `MmoServer.TimerComponent.popTimeHeap_eq` — the timers
  that are there afterwards.
-/

import MmoServer.Heap
import MmoServer.SerialNumber

set_option relaxedAutoImplicit false
set_option autoImplicit false

namespace MmoServer

variable {Handler : Type}

/-- `Timer`.  Its handler is of any type. -/
structure Timer (Handler : Type) where
  nextTime : UInt64
  handler : Handler
  durationSecond : ℤ
  callCountTotal : ℤ
  callCountCur : ℤ
  sn : UInt64
  deriving DecidableEq

/-- `timeutil::AddSeconds`. -/
def addSeconds (timeValue : UInt64) (second : ℤ) : UInt64 := timeValue + UInt64.ofInt second * 1000

/-- `CompareTimer`: the timer with the later call is the lesser one. -/
def compareTimer (left right : Timer Handler) : Prop := right.nextTime < left.nextTime

/-- A timer after a call: it has its next call some seconds later, unless it has had all its calls. -/
def Timer.rearm (data : Timer Handler) (timeTick : UInt64) : Option (Timer Handler) :=
  let cur := if data.callCountTotal ≠ 0 then data.callCountCur + 1 else data.callCountCur
  if data.callCountTotal = 0 ∨ cur < data.callCountTotal then
    some { data with
      callCountCur := cur
      nextTime := addSeconds timeTick data.durationSecond }
  else none

/-- `TimerComponent`. -/
structure TimerComponent (Handler : Type) where
  heap : List (Timer Handler)
  isHeap : Heap.IsHeap compareTimer heap

namespace TimerComponent

/-- A new component. -/
def empty : TimerComponent Handler := ⟨[], Heap.isHeap_nil⟩

variable (algs : Heap.Algorithms (@compareTimer Handler))

/-- `Add` of a timer: it is put into the heap. -/
def insert (c : TimerComponent Handler) (data : Timer Handler) : TimerComponent Handler :=
  if (c.heap ++ [data]).length = 1 then
    ⟨algs.makeHeap (c.heap ++ [data]), algs.isHeap_makeHeap _⟩
  else ⟨algs.pushHeap (c.heap ++ [data]), algs.isHeap_pushHeap _ _ c.isHeap⟩

/-- `Add`: the serial number of the new timer, and the component with it. -/
def add (c : TimerComponent Handler) (g : Global) (total durations : ℤ) (immediateDo : Bool)
    (immediateDoDelaySecond : ℤ) (handler : Handler) : UInt64 × Global × TimerComponent Handler :=
  let data : Timer Handler :=
    { nextTime := addSeconds g.timeTick (if immediateDo then immediateDoDelaySecond else durations)
      handler := handler
      durationSecond := durations
      callCountTotal := total
      callCountCur := 0
      sn := g.generateSN.1 }
  (data.sn, g.generateSN.2, c.insert algs data)

/-- `Remove` of one timer. -/
def remove (c : TimerComponent Handler) (timer : UInt64) : TimerComponent Handler :=
  if c.heap.any fun one => one.sn = timer then
    ⟨algs.makeHeap (c.heap.eraseP fun one => one.sn = timer), algs.isHeap_makeHeap _⟩
  else c

/-- `CheckTime`. -/
def checkTime (c : TimerComponent Handler) (timeTick : UInt64) : Bool :=
  match c.heap.head? with
  | none => false
  | some data => data.nextTime ≤ timeTick

theorem isHeap_dropLast_popHeap {a : Timer Handler} {l : List (Timer Handler)}
    (h : Heap.IsHeap compareTimer (a :: l)) :
    Heap.IsHeap compareTimer (algs.popHeap (a :: l)).dropLast := by
  obtain ⟨rest, hpop, -, hheap⟩ := algs.popHeap_eq a l h
  rw [hpop, List.dropLast_concat]
  exact hheap

/-- `PopTimeHeap`: the timer at the end of the vector behind `pop_heap`. -/
def popTimeHeap (c : TimerComponent Handler) : Option (Timer Handler × TimerComponent Handler) :=
  match c with
  | ⟨[], _⟩ => none
  | ⟨a :: l, h⟩ =>
    (algs.popHeap (a :: l)).getLast?.map fun data =>
      (data, ⟨(algs.popHeap (a :: l)).dropLast, isHeap_dropLast_popHeap algs h⟩)

variable {algs} {c : TimerComponent Handler}

/-! ### What is there afterwards -/

theorem heap_insert_perm (algs : Heap.Algorithms (@compareTimer Handler)) (c : TimerComponent Handler)
    (data : Timer Handler) : (c.insert algs data).heap.Perm (c.heap ++ [data]) := by
  unfold insert
  split
  · exact algs.makeHeap_perm _
  · exact algs.pushHeap_perm _

theorem mem_insert {data t : Timer Handler} :
    t ∈ (c.insert algs data).heap ↔ t ∈ c.heap ∨ t = data := by
  rw [(heap_insert_perm algs c data).mem_iff, List.mem_append, List.mem_singleton]

/-- A timer with another serial number stays. -/
theorem mem_remove_of_ne {timer : UInt64} {t : Timer Handler} (hne : t.sn ≠ timer) :
    t ∈ (c.remove algs timer).heap ↔ t ∈ c.heap := by
  unfold remove
  split
  · refine (Heap.mem_makeHeap algs).trans (List.mem_eraseP_of_neg ?_)
    simpa using hne
  · exact Iff.rfl

theorem of_mem_remove {timer : UInt64} {t : Timer Handler} (h : t ∈ (c.remove algs timer).heap) :
    t ∈ c.heap := by
  unfold remove at h
  split at h
  · exact List.mem_of_mem_eraseP ((Heap.mem_makeHeap algs).1 h)
  · exact h

theorem nodup_remove (hnodup : (c.heap.map Timer.sn).Nodup) {timer : UInt64} :
    ((c.remove algs timer).heap.map Timer.sn).Nodup := by
  unfold remove
  split
  · refine ((algs.makeHeap_perm _).map Timer.sn).nodup_iff.2 ?_
    exact hnodup.sublist (List.eraseP_sublist.map Timer.sn)
  · exact hnodup

/-- If serial numbers are not used twice, no timer with the removed number stays. -/
theorem sn_ne_of_mem_remove (hnodup : (c.heap.map Timer.sn).Nodup) {timer : UInt64}
    {t : Timer Handler} (h : t ∈ (c.remove algs timer).heap) : t.sn ≠ timer := by
  rintro rfl
  have ht := of_mem_remove h
  unfold remove at h
  rw [if_pos (List.any_eq_true.2 ⟨t, ht, decide_eq_true rfl⟩), Heap.mem_makeHeap] at h
  obtain ⟨front, back, hsplit⟩ := List.append_of_mem ht
  rw [hsplit, List.map_append, List.map_cons] at hnodup
  have hfront : t.sn ∉ front.map Timer.sn := fun hin =>
    (List.nodup_append.1 hnodup).2.2 _ hin _ (.head _) rfl
  have hback : t.sn ∉ back.map Timer.sn :=
    (List.nodup_cons.1 (List.nodup_append.1 hnodup).2.1).1
  rw [hsplit, List.eraseP_append_right _ fun one hone => by
    simpa using fun heq : one.sn = t.sn => hfront (heq ▸ List.mem_map_of_mem hone)] at h
  rw [List.eraseP_cons_of_pos (by simp)] at h
  rcases List.mem_append.1 h with hin | hin
  · exact hfront (List.mem_map_of_mem hin)
  · exact hback (List.mem_map_of_mem hin)

theorem popTimeHeap_nil (h : c.heap = []) : c.popTimeHeap algs = none := by
  obtain ⟨heap, hheap⟩ := c
  obtain rfl : heap = [] := h
  rfl

/-- The first timer is taken out, and the others stay. -/
theorem popTimeHeap_eq (algs : Heap.Algorithms (@compareTimer Handler)) {a : Timer Handler}
    {l : List (Timer Handler)} (h : c.heap = a :: l) :
    ∃ rest, c.popTimeHeap algs = some (a, rest) ∧ rest.heap.Perm l := by
  obtain ⟨heap, hheap⟩ := c
  obtain rfl : heap = a :: l := h
  obtain ⟨rest, hpop, hperm, hrest⟩ := algs.popHeap_eq a l hheap
  refine ⟨⟨rest, hrest⟩, ?_, hperm⟩
  simp only [popTimeHeap, hpop, List.getLast?_concat, List.dropLast_concat, Option.map_some]

/-- What is taken out was there, and the others stay. -/
theorem perm_of_popTimeHeap {data : Timer Handler} {rest : TimerComponent Handler}
    (h : c.popTimeHeap algs = some (data, rest)) : c.heap.Perm (data :: rest.heap) := by
  cases hheap : c.heap with
  | nil =>
    rw [popTimeHeap_nil hheap] at h
    cases h
  | cons a l =>
    obtain ⟨rest', hpop, hperm⟩ := popTimeHeap_eq algs hheap
    obtain ⟨rfl, rfl⟩ := Prod.mk.inj (Option.some.inj (hpop.symm.trans h))
    exact (hperm.cons a).symm

end TimerComponent

end MmoServer
