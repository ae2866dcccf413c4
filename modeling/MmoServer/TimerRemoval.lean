/-
**Removing timers.**

`TimerComponent::Remove` takes out one timer, or those of a list.  Over a list it returns at the first
number that no timer has: the timers behind it in the list stay, and the vector is not made a heap again
after what was erased.  The timer whose handler runs is not in the vector, so no removal meets it, and
`Update` puts it back when the handler returns.

Main definitions:

* `MmoServer.TimerThread`, `MmoServer.TimerStep`, `MmoServer.timerSystem` — a thread's timers, with the
  one whose handler runs, and what happens to them;
* `MmoServer.TimerComponent.eraseTimers`, `MmoServer.TimerComponent.removeList` — removal of a list;
* `MmoServer.RemovalCall.Removes` — **what a removal is for**: no listed timer fires in any run behind it,
  the others are as they were, and the vector is a heap;
* `MmoServer.RemovalCall.Reaches` — the calls that reach all timers that they list.

Main results:

* `MmoServer.TimerThread.never_fires` — a timer that is neither in the heap nor put back never fires;
* `MmoServer.TimerThread.exists_fire` — and the others may;
* `MmoServer.removes_iff` — **which removals remove**;
* `MmoServer.not_removes` — a list with a timer that has expired.
-/

import MmoServer.TimerUpdate

set_option relaxedAutoImplicit false
set_option autoImplicit false

namespace MmoServer

variable {Handler : Type}

namespace TimerComponent

/-- The loop of `Remove` over a list.  It stops at a number that no timer has, and says so. -/
def eraseTimers : List (Timer Handler) → List UInt64 → List (Timer Handler) × Bool
  | heap, [] => (heap, true)
  | heap, sn :: timers =>
    if heap.any fun one => one.sn = sn then
      eraseTimers (heap.eraseP fun one => one.sn = sn) timers
    else (heap, false)

/-- `Remove` of a list: the vector afterwards. -/
def removeList (algs : Heap.Algorithms (@compareTimer Handler)) (c : TimerComponent Handler)
    (timers : List UInt64) : List (Timer Handler) :=
  match eraseTimers c.heap timers with
  | (heap, true) => algs.makeHeap heap
  | (heap, false) => heap

end TimerComponent

/-- The timers of a thread, and the one whose handler `Update` calls. -/
structure TimerThread (Handler : Type) where
  timers : TimerComponent Handler
  running : Option (Timer Handler)
  timeTick : UInt64

/-- What happens to the timers of a thread. -/
inductive TimerEvent (Handler : Type)
  /-- `Global::UpdateTime`. -/
  | updateTime (now : UInt64)
  | add (data : Timer Handler)
  | remove (timers : List UInt64)
  | removeTimer (timer : UInt64)
  /-- The handler of a timer is called. -/
  | fire (data : Timer Handler)
  /-- It returns. -/
  | finish

section Steps

variable (algs : Heap.Algorithms (@compareTimer Handler))

/-- One event.  A removal that leaves no heap is no step: what the algorithms do to it is not defined. -/
inductive TimerStep : TimerThread Handler → TimerEvent Handler → TimerThread Handler → Prop
  | updateTime (s : TimerThread Handler) (now : UInt64) :
      TimerStep s (.updateTime now) { s with timeTick := now }
  | add (s : TimerThread Handler) (data : Timer Handler) :
      TimerStep s (.add data) { s with timers := s.timers.insert algs data }
  | remove (s : TimerThread Handler) (timers : List UInt64)
      (h : Heap.IsHeap compareTimer (s.timers.removeList algs timers)) :
      TimerStep s (.remove timers) { s with timers := ⟨s.timers.removeList algs timers, h⟩ }
  | removeTimer (s : TimerThread Handler) (timer : UInt64) :
      TimerStep s (.removeTimer timer) { s with timers := s.timers.remove algs timer }
  | fire {s : TimerThread Handler} {data : Timer Handler} {rest : TimerComponent Handler}
      (hrunning : s.running = none) (hcheck : s.timers.checkTime s.timeTick = true)
      (hpop : s.timers.popTimeHeap algs = some (data, rest)) :
      TimerStep s (.fire data) { s with timers := rest, running := some data }
  | finish {s : TimerThread Handler} {data : Timer Handler} (hrunning : s.running = some data) :
      TimerStep s .finish
        { s with timers := s.timers.putBack algs s.timeTick data, running := none }

/-- The runs that a thread may take from here. -/
def timerSystem (s : TimerThread Handler) :
    Transition.System (TimerThread Handler) (TimerEvent Handler) where
  init t := t = s
  step := TimerStep algs

end Steps

/-! ### Removals -/

/-- `Remove` of a list, or of one timer. -/
inductive RemovalCall
  | list (timers : List UInt64)
  | one (timer : UInt64)

namespace RemovalCall

/-- The numbers that are to be removed. -/
def listed : RemovalCall → List UInt64
  | list timers => timers
  | one timer => [timer]

/-- The vector behind a removal. -/
def vector (algs : Heap.Algorithms (@compareTimer Handler)) (c : TimerComponent Handler) :
    RemovalCall → List (Timer Handler)
  | list timers => c.removeList algs timers
  | one timer => (c.remove algs timer).heap

/-- **What a removal is for.**  The vector is a heap, the timers that are not listed are as they were, and
in no run from here, unless a listed number is used again, a listed timer fires. -/
def Removes (algs : Heap.Algorithms (@compareTimer Handler)) (s : TimerThread Handler)
    (call : RemovalCall) : Prop :=
  ∃ h : Heap.IsHeap compareTimer (call.vector algs s.timers),
    ((call.vector algs s.timers).filter fun t => t.sn ∉ call.listed).Perm
        (s.timers.heap.filter fun t => t.sn ∉ call.listed) ∧
      ∀ es u, (timerSystem algs { s with timers := ⟨call.vector algs s.timers, h⟩ }).Run es u →
        (∀ data, .add data ∈ es → data.sn ∉ call.listed) →
        ∀ data, .fire data ∈ es → data.sn ∉ call.listed

/-- A vector without the first timer for each of some numbers. -/
def without (heap : List (Timer Handler)) (timers : List UInt64) : List (Timer Handler) :=
  timers.foldl (fun heap sn => heap.eraseP fun one => one.sn = sn) heap

/-- The calls that find all timers they list.  Each number of the list stands for one timer; or some
numbers stand for no timer, but behind all that do, and the vector without those is a heap as it is. -/
def Finds (c : TimerComponent Handler) : RemovalCall → Prop
  | list timers =>
    (∀ sn ∈ timers, (c.heap.map Timer.sn).count sn = timers.count sn) ∨
    ∃ front a rest, timers = front ++ a :: rest ∧
      (∀ sn ∈ timers, (c.heap.map Timer.sn).count sn = front.count sn) ∧
      Heap.IsHeap compareTimer (without c.heap front)
  | one timer => (c.heap.map Timer.sn).count timer ≤ 1

/-- **The calls that reach all timers they list**: they find those in the heap, and the timer whose
handler runs is not listed, or at its last call. -/
def Reaches (s : TimerThread Handler) (call : RemovalCall) : Prop :=
  call.Finds s.timers ∧
    ∀ data, s.running = some data → data.sn ∈ call.listed → data.callsLeft = false

/-! ### What a removal leaves -/

theorem without_cons (heap : List (Timer Handler)) (sn : UInt64) (timers : List UInt64) :
    without heap (sn :: timers) = without (heap.eraseP fun one => one.sn = sn) timers := rfl

theorem map_eraseP (heap : List (Timer Handler)) (sn : UInt64) :
    (heap.eraseP fun one => one.sn = sn).map Timer.sn = (heap.map Timer.sn).erase sn := by
  have hp : ((fun number => sn == number) ∘ Timer.sn : Timer Handler → Bool) =
      fun one => decide (one.sn = sn) := by
    funext one
    rw [Bool.eq_iff_iff]
    exact ⟨fun h => decide_eq_true (eq_of_beq h).symm,
      fun h => beq_iff_eq.2 (of_decide_eq_true h).symm⟩
  rw [List.erase_eq_eraseP, List.eraseP_map, hp]

theorem count_without (heap : List (Timer Handler)) (timers : List UInt64) (sn : UInt64) :
    ((without heap timers).map Timer.sn).count sn =
      (heap.map Timer.sn).count sn - timers.count sn := by
  induction timers generalizing heap with
  | nil => rfl
  | cons a timers ih =>
    rw [without_cons, ih, map_eraseP, List.count_erase, List.count_cons]
    omega

theorem filter_eraseP {p : Timer Handler → Bool} {sn : UInt64} (hp : ∀ t, t.sn = sn → p t = false)
    (heap : List (Timer Handler)) :
    (heap.eraseP fun one => one.sn = sn).filter p = heap.filter p := by
  induction heap with
  | nil => rfl
  | cons t heap ih =>
    by_cases ht : t.sn = sn
    · rw [List.eraseP_cons_of_pos (by simpa using ht), List.filter_cons_of_neg (by simp [hp t ht])]
    · rw [List.eraseP_cons_of_neg (by simpa using ht)]
      rw [List.filter_cons, List.filter_cons, ih]

/-- The other timers stay where they are. -/
theorem filter_without {p : Timer Handler → Bool} {timers : List UInt64}
    (hp : ∀ t, t.sn ∈ timers → p t = false) (heap : List (Timer Handler)) :
    (without heap timers).filter p = heap.filter p := by
  induction timers generalizing heap with
  | nil => rfl
  | cons a timers ih =>
    rw [without_cons, ih fun t ht => hp t (.tail _ ht)]
    exact filter_eraseP (fun t ht => hp t (by simp [ht])) heap

theorem forall_sn_notMem_iff {heap : List (Timer Handler)} {timers : List UInt64} :
    (∀ t ∈ heap, t.sn ∉ timers) ↔ ∀ sn ∈ timers, (heap.map Timer.sn).count sn = 0 := by
  constructor
  · intro h sn hsn
    refine List.count_eq_zero.2 fun hin => ?_
    obtain ⟨t, ht, rfl⟩ := List.mem_map.1 hin
    exact h t ht hsn
  · intro h t ht hsn
    exact List.count_eq_zero.1 (h t.sn hsn) (List.mem_map_of_mem ht)

/-- The loop goes through, or stops at a number that no timer has behind those before it. -/
theorem eraseTimers_cases (heap : List (Timer Handler)) (timers : List UInt64) :
    (TimerComponent.eraseTimers heap timers = (without heap timers, true) ∧
      ∀ sn, timers.count sn ≤ (heap.map Timer.sn).count sn) ∨
    ∃ front a rest, timers = front ++ a :: rest ∧
      TimerComponent.eraseTimers heap timers = (without heap front, false) ∧
      (∀ sn, front.count sn ≤ (heap.map Timer.sn).count sn) ∧
      (heap.map Timer.sn).count a = front.count a := by
  induction timers generalizing heap with
  | nil => exact .inl ⟨rfl, fun sn => Nat.zero_le _⟩
  | cons b timers ih =>
    by_cases hany : (heap.any fun one => one.sn = b) = true
    · have hpos : 0 < (heap.map Timer.sn).count b := by
        obtain ⟨t, ht, hb⟩ := List.any_eq_true.1 hany
        exact List.count_pos_iff.2 (List.mem_map.2 ⟨t, ht, of_decide_eq_true hb⟩)
      -- one timer less for the number that was found
      have hcount : ∀ (l : List UInt64) (sn : UInt64),
          l.count sn ≤ ((heap.eraseP fun one => one.sn = b).map Timer.sn).count sn →
            (b :: l).count sn ≤ (heap.map Timer.sn).count sn := by
        intro l sn hle
        rw [map_eraseP, List.count_erase] at hle
        rw [List.count_cons]
        by_cases hb : b = sn
        · subst hb
          simp only [BEq.rfl, if_true] at hle ⊢
          omega
        · simp only [beq_iff_eq, hb, if_false] at hle ⊢
          omega
      rw [TimerComponent.eraseTimers, if_pos hany]
      rcases ih (heap.eraseP fun one => one.sn = b) with ⟨herase, hle⟩ | ⟨front, a, rest, hsplit, herase, hle, ha⟩
      · exact .inl ⟨herase, fun sn => hcount timers sn (hle sn)⟩
      · refine .inr ⟨b :: front, a, rest, by rw [hsplit]; rfl, herase, fun sn => hcount front sn (hle sn), ?_⟩
        have hge := hcount front a (hle a)
        rw [map_eraseP, List.count_erase] at ha
        rw [List.count_cons] at hge ⊢
        omega
    · have hzero : (heap.map Timer.sn).count b = 0 := by
        refine List.count_eq_zero.2 fun hin => hany ?_
        obtain ⟨t, ht, hb⟩ := List.mem_map.1 hin
        exact List.any_eq_true.2 ⟨t, ht, decide_eq_true hb⟩
      refine .inr ⟨[], b, timers, rfl, ?_, fun sn => Nat.zero_le _, hzero⟩
      rw [TimerComponent.eraseTimers, if_neg hany]
      rfl

theorem sublist_without (heap : List (Timer Handler)) (timers : List UInt64) :
    (without heap timers).Sublist heap := by
  induction timers generalizing heap with
  | nil => exact .refl _
  | cons a timers ih => exact (ih _).trans List.eraseP_sublist

variable {algs : Heap.Algorithms (@compareTimer Handler)} {c : TimerComponent Handler}

theorem removeList_perm (algs : Heap.Algorithms (@compareTimer Handler)) (c : TimerComponent Handler)
    (timers : List UInt64) :
    ∃ erased, (∀ sn ∈ erased, sn ∈ timers) ∧ (c.removeList algs timers).Perm (without c.heap erased) := by
  unfold TimerComponent.removeList
  rcases eraseTimers_cases c.heap timers with ⟨herase, -⟩ | ⟨front, a, rest, hsplit, herase, -, -⟩
  · rw [herase]
    exact ⟨timers, fun sn h => h, algs.makeHeap_perm _⟩
  · rw [herase]
    refine ⟨front, fun sn h => ?_, .refl _⟩
    rw [hsplit]
    exact List.mem_append_left _ h

theorem remove_perm (algs : Heap.Algorithms (@compareTimer Handler)) (c : TimerComponent Handler)
    (timer : UInt64) :
    (c.remove algs timer).heap.Perm (without c.heap [timer]) := by
  unfold TimerComponent.remove
  split
  · exact algs.makeHeap_perm _
  · rename_i hany
    rw [without_cons, List.eraseP_of_forall_not fun t ht hsn => hany (List.any_eq_true.2 ⟨t, ht, hsn⟩)]
    exact .refl _

/-- Some of the listed timers are erased, and nothing else. -/
theorem vector_perm (algs : Heap.Algorithms (@compareTimer Handler)) (c : TimerComponent Handler)
    (call : RemovalCall) :
    ∃ erased, (∀ sn ∈ erased, sn ∈ call.listed) ∧
      (call.vector algs c).Perm (without c.heap erased) := by
  cases call with
  | list timers => exact removeList_perm algs c timers
  | one timer => exact ⟨[timer], fun sn h => h, remove_perm algs c timer⟩

/-- **The timers that are not listed stay.** -/
theorem filter_vector (algs : Heap.Algorithms (@compareTimer Handler)) (c : TimerComponent Handler)
    (call : RemovalCall) :
    ((call.vector algs c).filter fun t => t.sn ∉ call.listed).Perm
      (c.heap.filter fun t => t.sn ∉ call.listed) := by
  obtain ⟨erased, hsub, hperm⟩ := vector_perm algs c call
  rw [← filter_without (fun t ht => by simpa using hsub _ ht) c.heap]
  exact hperm.filter _

theorem mem_of_mem_vector (call : RemovalCall) {t : Timer Handler} (h : t ∈ call.vector algs c) :
    t ∈ c.heap := by
  obtain ⟨erased, -, hperm⟩ := vector_perm algs c call
  exact (sublist_without _ _).subset (hperm.mem_iff.1 h)

/-- **Which calls find all that they list**, and leave a heap. -/
theorem finds_iff (algs : Heap.Algorithms (@compareTimer Handler)) (c : TimerComponent Handler)
    (call : RemovalCall) :
    (Heap.IsHeap compareTimer (call.vector algs c) ∧ ∀ t ∈ call.vector algs c, t.sn ∉ call.listed) ↔
      call.Finds c := by
  rw [forall_sn_notMem_iff]
  cases call with
  | one timer =>
    have hcount := ((remove_perm algs c timer).map Timer.sn).count_eq timer
    rw [count_without, List.count_singleton_self] at hcount
    have hheap := (c.remove algs timer).isHeap
    simp only [vector, listed, Finds, List.mem_singleton, forall_eq, hcount]
    refine ⟨fun h => by omega, fun h => ⟨hheap, by omega⟩⟩
  | list timers =>
    simp only [vector, listed, Finds, TimerComponent.removeList]
    rcases eraseTimers_cases c.heap timers with ⟨herase, hle⟩ | ⟨front, a, rest, hsplit, herase, hle, ha⟩
    · -- the loop went through, so no number stands for fewer timers than it should
      rw [herase]
      have hcount : ∀ sn, ((algs.makeHeap (without c.heap timers)).map Timer.sn).count sn =
          (c.heap.map Timer.sn).count sn - timers.count sn := fun sn => by
        rw [((algs.makeHeap_perm _).map Timer.sn).count_eq, count_without]
      constructor
      · rintro ⟨-, hnone⟩
        refine .inl fun sn hsn => ?_
        have hzero := hnone sn hsn
        have := hle sn
        rw [hcount] at hzero
        omega
      · rintro (hall | ⟨front, a, rest, hsplit, hall, -⟩)
        · refine ⟨algs.isHeap_makeHeap _, fun sn hsn => ?_⟩
          rw [hcount, hall sn hsn, Nat.sub_self]
        · have hmore := hle a
          rw [hall a (by simp [hsplit]), hsplit, List.count_append, List.count_cons_self] at hmore
          omega
    · -- it stopped, and nothing behind that number was looked at
      rw [herase]
      constructor
      · rintro ⟨hheap, hnone⟩
        refine .inr ⟨front, a, rest, hsplit, fun sn hsn => ?_, hheap⟩
        have hzero := hnone sn hsn
        have := hle sn
        rw [count_without] at hzero
        omega
      · rintro (hall | ⟨front', a', rest', hsplit', hall, hheap⟩)
        · have hmore := hall a (by simp [hsplit])
          rw [ha, hsplit, List.count_append, List.count_cons_self] at hmore
          omega
        · have hsame : front' = front := by
            rcases List.append_eq_append_iff.1 (hsplit.symm.trans hsplit') with
              ⟨l, hfront, hl⟩ | ⟨l, hfront, hl⟩
            · cases l with
              | nil => simpa using hfront
              | cons b l =>
                -- the other split is longer, and has the number that no timer has
                obtain ⟨rfl, -⟩ := List.cons.inj hl
                have hmore := hall a (by simp [hsplit])
                rw [ha, hfront, List.count_append, List.count_cons_self] at hmore
                omega
            · cases l with
              | nil => simpa using hfront.symm
              | cons b l =>
                obtain ⟨rfl, -⟩ := List.cons.inj hl
                have hmore := hle a'
                rw [hall a' (by simp [hsplit']), hfront, List.count_append, List.count_cons_self] at hmore
                omega
          subst hsame
          refine ⟨hheap, fun sn hsn => ?_⟩
          rw [count_without, hall sn hsn, Nat.sub_self]

end RemovalCall

/-! ### The runs behind a removal -/

namespace TimerThread

variable {algs : Heap.Algorithms (@compareTimer Handler)} {listed : List UInt64}
  {s t : TimerThread Handler}

/-- No listed timer is in the heap, or put back. -/
structure Silent (listed : List UInt64) (s : TimerThread Handler) : Prop where
  heap : ∀ data ∈ s.timers.heap, data.sn ∉ listed
  running : ∀ data, s.running = some data → data.sn ∈ listed → data.callsLeft = false

theorem mem_putBack {c : TimerComponent Handler} {timeTick : UInt64} {data u : Timer Handler} :
    u ∈ (c.putBack algs timeTick data).heap ↔
      u ∈ c.heap ∨ data.callsLeft = true ∧ u = data.again timeTick := by
  rw [(TimerComponent.heap_putBack_perm algs c timeTick data).mem_iff, List.mem_append]
  cases hleft : data.callsLeft with
  | true => simp [hleft]
  | false => simp [hleft]

/-- **No step lets a listed timer fire**, unless its number is used again. -/
theorem Silent.step {e : TimerEvent Handler} (h : Silent listed s) (hstep : TimerStep algs s e t)
    (hadd : ∀ data, e = .add data → data.sn ∉ listed) :
    Silent listed t ∧ ∀ data, e = .fire data → data.sn ∉ listed := by
  cases hstep with
  | updateTime now => exact ⟨⟨h.heap, h.running⟩, nofun⟩
  | add data =>
    refine ⟨⟨fun u hu => ?_, h.running⟩, nofun⟩
    rcases TimerComponent.mem_insert.1 hu with hu | rfl
    · exact h.heap u hu
    · exact hadd u rfl
  | remove timers hheap =>
    refine ⟨⟨fun u hu => ?_, h.running⟩, nofun⟩
    exact h.heap u (RemovalCall.mem_of_mem_vector (.list timers) hu)
  | removeTimer timer =>
    exact ⟨⟨fun u hu => h.heap u (TimerComponent.of_mem_remove hu), h.running⟩, nofun⟩
  | @fire data rest hrunning hcheck hpop =>
    have hperm := TimerComponent.perm_of_popTimeHeap hpop
    have hdata : data.sn ∉ listed := h.heap data (hperm.mem_iff.2 (.head _))
    refine ⟨⟨fun u hu => h.heap u (hperm.mem_iff.2 (.tail _ hu)), ?_⟩, ?_⟩
    · intro u hu hlisted
      obtain rfl := Option.some.inj hu
      exact absurd hlisted hdata
    · intro u hu
      obtain rfl := TimerEvent.fire.inj hu
      exact hdata
  | @finish data hrunning =>
    refine ⟨⟨fun u hu => ?_, nofun⟩, nofun⟩
    rcases mem_putBack.1 hu with hu | ⟨hleft, rfl⟩
    · exact h.heap u hu
    · intro hlisted
      rw [h.running data hrunning hlisted] at hleft
      cases hleft

/-- **A timer that is neither in the heap nor put back never fires.** -/
theorem never_fires (h : Silent listed s) {es : List (TimerEvent Handler)}
    (hrun : (timerSystem algs s).Run es t) (hadd : ∀ data, .add data ∈ es → data.sn ∉ listed) :
    ∀ data, .fire data ∈ es → data.sn ∉ listed := by
  have hinv : (∀ data, .add data ∈ es → data.sn ∉ listed) →
      Silent listed t ∧ ∀ data, .fire data ∈ es → data.sn ∉ listed := by
    refine hrun.invariant_trace (p := fun es t => (∀ data, .add data ∈ es → data.sn ∉ listed) →
      Silent listed t ∧ ∀ data, .fire data ∈ es → data.sn ∉ listed) ?_ ?_
    · rintro u rfl -
      exact ⟨h, nofun⟩
    · intro es u e v ih hstep hadd
      obtain ⟨hsilent, hfire⟩ := ih fun data hdata => hadd data (List.mem_append_left _ hdata)
      obtain ⟨hsilent', hfire'⟩ := hsilent.step hstep fun data he => hadd data (by simp [he])
      refine ⟨hsilent', fun data hdata => ?_⟩
      rcases List.mem_append.1 hdata with hdata | hdata
      · exact hfire data hdata
      · exact hfire' data (List.mem_singleton.1 hdata).symm
  exact (hinv hadd).2

/-- While no handler runs a timer in the heap may fire: all others are removed, and time passes. -/
theorem exists_fire_idle {es : List (TimerEvent Handler)} {start : TimerThread Handler}
    (hrun : (timerSystem algs start).Run es s) (hidle : s.running = none)
    (hadd : ∀ new, .add new ∉ es) {data : Timer Handler} (hdata : data ∈ s.timers.heap)
    (hlisted : data.sn ∈ listed) :
    ∃ es' u fired, (timerSystem algs start).Run es' u ∧ (∀ new, .add new ∉ es') ∧
      .fire fired ∈ es' ∧ fired.sn ∈ listed := by
  obtain ⟨others, hothers⟩ : ∃ others, others = (s.timers.heap.map Timer.sn).filter (· ∉ listed) :=
    ⟨_, rfl⟩
  have hfinds : (RemovalCall.list others).Finds s.timers := by
    refine .inl fun sn hsn => ?_
    rw [hothers] at hsn ⊢
    exact (List.count_filter (p := fun number => number ∉ listed) (List.mem_filter.1 hsn).2).symm
  obtain ⟨hheap, hnone⟩ := (RemovalCall.finds_iff algs s.timers _).2 hfinds
  -- only listed timers are left, and this one is there
  have honly : ∀ u ∈ s.timers.removeList algs others, u.sn ∈ listed := by
    intro u hu
    by_contra hne
    have hin : u ∈ s.timers.heap := RemovalCall.mem_of_mem_vector (.list others) hu
    refine hnone u hu ?_
    rw [RemovalCall.listed, hothers]
    exact List.mem_filter.2 ⟨List.mem_map_of_mem hin, by simpa using hne⟩
  have hstays : data ∈ s.timers.removeList algs others := by
    have hperm := RemovalCall.filter_vector algs s.timers (.list others)
    refine (List.mem_filter.1 (hperm.mem_iff.2 (List.mem_filter.2 ⟨hdata, ?_⟩))).1
    rw [RemovalCall.listed, hothers]
    simp [hlisted]
  have hremoved := hrun.step (TimerStep.remove s others hheap)
  have hlater := hremoved.step (TimerStep.updateTime _ (-1))
  have hcheck : (⟨s.timers.removeList algs others, hheap⟩ : TimerComponent Handler).checkTime (-1) =
      true := TimerComponent.checkTime_last hstays
  cases hvector : s.timers.removeList algs others with
  | nil =>
    rw [hvector] at hstays
    cases hstays
  | cons first l =>
    obtain ⟨rest, hpop, -⟩ := TimerComponent.popTimeHeap_eq algs
      (c := ⟨s.timers.removeList algs others, hheap⟩) hvector
    have hfired := hlater.step (TimerStep.fire hidle hcheck hpop)
    refine ⟨_, _, first, hfired, fun new hnew => ?_, by simp, honly first (by simp [hvector])⟩
    exact hadd new (by simpa using hnew)

/-- **A timer that is in the heap, or put back, may fire.** -/
theorem exists_fire (listed : List UInt64) (algs : Heap.Algorithms (@compareTimer Handler))
    (s : TimerThread Handler) (h : ¬ Silent listed s) :
    ∃ es u fired, (timerSystem algs s).Run es u ∧ (∀ new, .add new ∉ es) ∧ .fire fired ∈ es ∧
      fired.sn ∈ listed := by
  have hstart : (timerSystem algs s).Run [] s := .init rfl
  cases hrunning : s.running with
  | none =>
    have hex : ∃ data ∈ s.timers.heap, data.sn ∈ listed := by
      by_contra hnone
      refine h ⟨fun data hdata hlisted => hnone ⟨data, hdata, hlisted⟩, fun data hdata => ?_⟩
      rw [hrunning] at hdata
      cases hdata
    obtain ⟨data, hdata, hlisted⟩ := hex
    exact exists_fire_idle hstart hrunning (by simp) hdata hlisted
  | some r =>
    -- the handler returns first
    have hfinish := hstart.step (TimerStep.finish hrunning)
    have hex : ∃ data ∈ (s.timers.putBack algs s.timeTick r).heap, data.sn ∈ listed := by
      by_contra hnone
      refine h ⟨fun data hdata hlisted => hnone ⟨data, mem_putBack.2 (.inl hdata), hlisted⟩, ?_⟩
      intro data hdata hlisted
      obtain rfl := Option.some.inj (hrunning.symm.trans hdata)
      by_contra hleft
      have hleft : r.callsLeft = true := by simpa using hleft
      exact hnone ⟨r.again s.timeTick, mem_putBack.2 (.inr ⟨hleft, rfl⟩), hlisted⟩
    obtain ⟨data, hdata, hlisted⟩ := hex
    exact exists_fire_idle hfinish rfl (by simp) hdata hlisted

end TimerThread

/-! ### Which removals remove -/

open TimerThread in
/-- **Which removals remove**, in every state of the timers and for every list. -/
theorem removes_iff (algs : Heap.Algorithms (@compareTimer Handler)) (s : TimerThread Handler)
    (call : RemovalCall) : call.Removes algs s ↔ call.Reaches s := by
  rw [RemovalCall.Reaches, ← RemovalCall.finds_iff algs s.timers call]
  constructor
  · rintro ⟨hheap, -, hnever⟩
    have hsilent : Silent call.listed { s with timers := ⟨call.vector algs s.timers, hheap⟩ } := by
      by_contra hnot
      obtain ⟨es, u, fired, hrun, hadd, hfire, hlisted⟩ := exists_fire _ algs _ hnot
      exact hnever es u hrun (fun data hdata => absurd hdata (hadd data)) fired hfire hlisted
    exact ⟨⟨hheap, hsilent.heap⟩, hsilent.running⟩
  · rintro ⟨⟨hheap, hnone⟩, hrunning⟩
    have hsilent : Silent call.listed { s with timers := ⟨call.vector algs s.timers, hheap⟩ } :=
      ⟨hnone, hrunning⟩
    exact ⟨hheap, RemovalCall.filter_vector algs s.timers call, fun es u hrun hadd => never_fires hsilent hrun hadd⟩

/-- Two timers, and no handler that runs. -/
def twoTimersIdle : TimerThread Unit := ⟨.twoTimers, none, 0⟩

/-- The first number of the list is that of a timer that has expired, and the other one stays. -/
theorem not_removes :
    ¬ ∀ (s : TimerThread Unit) (call : RemovalCall), call.Removes TimerComponent.sortedByTime s := by
  intro h
  obtain ⟨hheap, -, hnever⟩ := h twoTimersIdle (.list [7, 1])
  have hstays : (⟨1000, (), 5, 2, 0, 1⟩ : Timer Unit) ∈
      (RemovalCall.list [7, 1]).vector TimerComponent.sortedByTime TimerComponent.twoTimers := by
    rw [show (RemovalCall.list [7, 1]).vector TimerComponent.sortedByTime TimerComponent.twoTimers =
      TimerComponent.twoTimers.heap from rfl, TimerComponent.twoTimers_heap]
    exact .tail _ (.head _)
  obtain ⟨es, u, fired, hrun, hadd, hfire, hlisted⟩ := TimerThread.exists_fire [7, 1]
    TimerComponent.sortedByTime { twoTimersIdle with timers := ⟨_, hheap⟩ }
    fun hsilent => hsilent.heap _ hstays (by decide)
  exact hnever es u hrun (fun data hdata => absurd hdata (hadd data)) fired hfire hlisted

end MmoServer
