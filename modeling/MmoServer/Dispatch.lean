/-
**Dispatching packets to threads.**

A packet that is dispatched waits in a list of the thread manager, whose loop hands it to the main
thread and to the threads of each collector: to all of them, or, if the collector is exclusive, to
one after the other in turn.  Every thread has a list of its own, in two halves that are swapped: the
packets that came since the last swap, and those that its loop is working through.  A packet counts
the lists that it was put into and not yet worked off from; when the manager has handed it out, and
the count is zero, it may go back to the pool.

All of this runs at the same time.  The steps of the model are the swaps, the additions to a list,
the handling of one packet, and the steps of the pool, in any order.  The memory of a packet that is
back in the pool is used for other packets; here each use has its own serial number, and the
serial number of a packet that is back refers to nothing.

Main definitions:

* `MmoServer.Collector`, `MmoServer.Threads` — the collectors of threads, and all threads of a
  process;
* `MmoServer.PacketList` — a list in two halves;
* `MmoServer.DispatchState`, `MmoServer.DispatchState.step` — the thread manager, its threads, and
  the pool;
* `MmoServer.DispatchState.processed`, `MmoServer.DispatchState.waiting` — what a thread has handled,
  and what it is going to handle.

Main results:

* `MmoServer.Collector.targets_sublist`, `MmoServer.Collector.targets_of_exclusive` — which threads
  of a collector get a packet;
* `MmoServer.Threads.targets_spec` — and which of all threads.
-/

import Mathlib.Data.Int.Notation
import Mathlib.Data.List.Nodup
import MmoServer.Transition

set_option relaxedAutoImplicit false
set_option autoImplicit false

namespace MmoServer

/-! ### Collectors -/

/-- `ThreadCollector`, and `ThreadCollectorExclusive`, with the serial numbers of its threads in
their order. -/
structure Collector where
  exclusive : Bool
  threads : List ℕ
  nonempty : threads ≠ []

namespace Collector

/-- The thread that comes next, or the first one. -/
def pick (c : Collector) (nextThreadSn : ℕ) : ℕ :=
  if nextThreadSn ∈ c.threads then nextThreadSn else c.threads.head c.nonempty

/-- The thread behind another one; the first one comes behind the last. -/
def following (c : Collector) (sn : ℕ) : ℕ :=
  (c.threads[(c.threads.idxOf sn + 1)]?).getD (c.threads.head c.nonempty)

/-- `HandlerMessage`: the threads that get a packet.  `MI_CmdThread` goes to every thread. -/
def targets (c : Collector) (isCmd : Bool) (nextThreadSn : ℕ) : List ℕ :=
  if c.exclusive && !isCmd then [c.pick nextThreadSn] else c.threads

/-- `HandlerMessage`: the thread that comes next behind a packet. -/
def advance (c : Collector) (isCmd : Bool) (nextThreadSn : ℕ) : ℕ :=
  if c.exclusive && !isCmd then c.following (c.pick nextThreadSn) else nextThreadSn

theorem pick_mem (c : Collector) (nextThreadSn : ℕ) : c.pick nextThreadSn ∈ c.threads := by
  unfold pick
  split
  · assumption
  · exact List.head_mem c.nonempty

/-- Threads get a packet once at most. -/
theorem targets_sublist (c : Collector) (isCmd : Bool) (nextThreadSn : ℕ) :
    (c.targets isCmd nextThreadSn).Sublist c.threads := by
  unfold targets
  split
  · exact List.singleton_sublist.2 (c.pick_mem nextThreadSn)
  · exact List.Sublist.refl _

/-- All threads of a collector that is not exclusive get a packet. -/
theorem targets_of_shared {c : Collector} (h : c.exclusive = false) (isCmd : Bool)
    (nextThreadSn : ℕ) : c.targets isCmd nextThreadSn = c.threads := by
  unfold targets
  rw [h]
  rfl

/-- One thread of an exclusive collector gets a packet. -/
theorem targets_of_exclusive {c : Collector} (h : c.exclusive = true) (nextThreadSn : ℕ) :
    c.targets false nextThreadSn = [c.pick nextThreadSn] := by
  unfold targets
  rw [h]
  rfl

end Collector

/-- The main thread, and the collectors of `ThreadMgr`. -/
structure Threads where
  main : ℕ
  collectors : List Collector
  nodup : (main :: collectors.flatMap Collector.threads).Nodup

namespace Threads

/-- All threads of the process. -/
def all (ths : Threads) : List ℕ := ths.main :: ths.collectors.flatMap Collector.threads

/-- The threads that get a packet, in the order of `UpdateDispatchPacket`.  Every collector has its
own turn. -/
def targets (ths : Threads) (isCmd : Bool) (nextThreadSn : ℕ → ℕ) : List ℕ :=
  ths.main :: (ths.collectors.zipIdx).flatMap fun c => c.1.targets isCmd (nextThreadSn c.2)

/-- The turns behind a packet. -/
def advance (ths : Threads) (isCmd : Bool) (nextThreadSn : ℕ → ℕ) (i : ℕ) : ℕ :=
  match ths.collectors[i]? with
  | some c => c.advance isCmd (nextThreadSn i)
  | none => nextThreadSn i

/-- The threads that get every packet. -/
def IsShared (ths : Threads) (t : ℕ) : Prop :=
  t = ths.main ∨ ∃ c ∈ ths.collectors, c.exclusive = false ∧ t ∈ c.threads

/-- **Who gets a packet**: no thread twice, the main thread and all threads of a collector that is
not exclusive, and one thread of an exclusive one. -/
structure IsTargets (ths : Threads) (isCmd : Bool) (ts : List ℕ) : Prop where
  nodup : ts.Nodup
  subset : ∀ t ∈ ts, t ∈ ths.all
  shared : ∀ t, ths.IsShared t → t ∈ ts
  exclusive : isCmd = false → ∀ c ∈ ths.collectors, c.exclusive = true →
    ∃ t ∈ c.threads, t ∈ ts ∧ ∀ t' ∈ c.threads, t' ∈ ts → t' = t

theorem targets_sublist_all (ths : Threads) (isCmd : Bool) (nextThreadSn : ℕ → ℕ) :
    (ths.targets isCmd nextThreadSn).Sublist ths.all := by
  refine List.Sublist.cons_cons _ ?_
  suffices h : ∀ (cs : List Collector) (k : ℕ),
      ((cs.zipIdx k).flatMap fun c => c.1.targets isCmd (nextThreadSn c.2)).Sublist
        (cs.flatMap Collector.threads) from h ths.collectors 0
  intro cs
  induction cs with
  | nil => exact fun _ => List.Sublist.refl _
  | cons c cs ih =>
    intro k
    rw [List.zipIdx_cons, List.flatMap_cons, List.flatMap_cons]
    exact (c.targets_sublist isCmd _).append (ih (k + 1))

/-- A thread of a collector that gets a packet gets it from that collector. -/
theorem mem_targets_of_mem {ths : Threads} {isCmd : Bool} {nextThreadSn : ℕ → ℕ} {i t : ℕ}
    {c : Collector} (hc : ths.collectors[i]? = some c) (ht : t ∈ c.threads)
    (h : t ∈ ths.targets isCmd nextThreadSn) : t ∈ c.targets isCmd (nextThreadSn i) := by
  obtain ⟨hmain, hthreads⟩ := List.nodup_cons.1 ths.nodup
  obtain ⟨hi, hci⟩ := List.getElem?_eq_some_iff.1 hc
  rcases List.mem_cons.1 h with rfl | hmem
  · exact absurd (List.mem_flatMap.2 ⟨c, List.mem_of_getElem? hc, ht⟩) hmain
  · obtain ⟨⟨d, j⟩, hd, htd⟩ := List.mem_flatMap.1 hmem
    have hdj : ths.collectors[j]? = some d := List.mem_zipIdx_iff_getElem?.1 hd
    obtain ⟨hj, hdj'⟩ := List.getElem?_eq_some_iff.1 hdj
    -- two collectors have no thread in common
    have hdisjoint := List.pairwise_iff_getElem.1 (List.nodup_flatMap.1 hthreads).2
    have htd' : t ∈ d.threads := (d.targets_sublist isCmd _).subset htd
    rcases Nat.lt_trichotomy i j with hlt | rfl | hlt
    · have hdis := hdisjoint i j hi hj hlt
      simp only [Function.onFun, hci, hdj'] at hdis
      exact absurd htd' (hdis ht)
    · obtain rfl : d = c := Option.some.inj (hdj.symm.trans hc)
      exact htd
    · have hdis := hdisjoint j i hj hi hlt
      simp only [Function.onFun, hci, hdj'] at hdis
      exact absurd ht (hdis htd')

/-- **The threads of a packet.** -/
theorem targets_spec (ths : Threads) (isCmd : Bool) (nextThreadSn : ℕ → ℕ) :
    ths.IsTargets isCmd (ths.targets isCmd nextThreadSn) where
  nodup := ths.nodup.sublist (ths.targets_sublist_all isCmd nextThreadSn)
  subset := fun _ ht => (ths.targets_sublist_all isCmd nextThreadSn).subset ht
  shared := by
    rintro t (rfl | ⟨c, hc, hshared, ht⟩)
    · exact List.mem_cons_self ..
    · obtain ⟨i, hi⟩ := List.mem_iff_getElem?.1 hc
      refine List.mem_cons_of_mem _ (List.mem_flatMap.2
        ⟨(c, i), List.mem_zipIdx_iff_getElem?.2 hi, ?_⟩)
      rw [Collector.targets_of_shared hshared]
      exact ht
  exclusive := by
    intro hcmd c hc hexclusive
    subst hcmd
    obtain ⟨i, hi⟩ := List.mem_iff_getElem?.1 hc
    refine ⟨c.pick (nextThreadSn i), c.pick_mem _, List.mem_cons_of_mem _ (List.mem_flatMap.2
      ⟨(c, i), List.mem_zipIdx_iff_getElem?.2 hi, ?_⟩), fun t' ht' hmem => ?_⟩
    · rw [Collector.targets_of_exclusive hexclusive]
      exact List.mem_singleton_self _
    · have htarget := mem_targets_of_mem hi ht' hmem
      rw [Collector.targets_of_exclusive hexclusive] at htarget
      exact List.mem_singleton.1 htarget

end Threads

/-! ### Lists of packets -/

/-- `CacheSwap` with the place of the loop that reads it.  The packets that the loop has passed stay
in the list until it is cleared. -/
structure PacketList where
  writer : List ℕ
  passed : List ℕ
  ahead : List ℕ

namespace PacketList

/-- A new list. -/
def empty : PacketList := ⟨[], [], []⟩

/-- `GetReaderCache`. -/
def reader (l : PacketList) : List ℕ := l.passed ++ l.ahead

/-- What the loop will come to. -/
def pending (l : PacketList) : List ℕ := l.ahead ++ l.writer

/-- `emplace_back`. -/
def push (l : PacketList) (sn : ℕ) : PacketList := { l with writer := l.writer ++ [sn] }

/-- `Swap`, of a list whose reader was cleared. -/
def swap (l : PacketList) : Option PacketList :=
  if l.reader = [] then some ⟨[], [], l.writer⟩ else none

/-- The loop passes a packet. -/
def next (l : PacketList) : Option (ℕ × PacketList) :=
  match l.ahead with
  | [] => none
  | sn :: rest => some (sn, { l with passed := l.passed ++ [sn], ahead := rest })

/-- `clear`, at the end of the loop. -/
def clear (l : PacketList) : Option PacketList :=
  if l.ahead = [] then some { l with passed := [] } else none

@[simp]
theorem pending_empty : empty.pending = [] := rfl

@[simp]
theorem pending_push (l : PacketList) (sn : ℕ) : (l.push sn).pending = l.pending ++ [sn] := by
  simp [pending, push]

/-- A swap changes no order. -/
theorem pending_swap {l m : PacketList} (h : l.swap = some m) : m.pending = l.pending := by
  unfold swap at h
  split at h
  · rename_i hreader
    obtain rfl := Option.some.inj h
    obtain ⟨-, hahead⟩ := List.append_eq_nil_iff.1 hreader
    simp [pending, hahead]
  · cases h

/-- A list is swapped when the loop has passed all of it. -/
theorem ahead_of_swap {l m : PacketList} (h : l.swap = some m) : l.ahead = [] := by
  unfold swap at h
  split at h
  · rename_i hreader
    exact (List.append_eq_nil_iff.1 hreader).2
  · cases h

theorem ahead_of_clear {l m : PacketList} (h : l.clear = some m) : l.ahead = [] := by
  unfold clear at h
  split at h
  · assumption
  · cases h

theorem pending_next {l m : PacketList} {sn : ℕ} (h : l.next = some (sn, m)) :
    l.pending = sn :: m.pending := by
  unfold next at h
  split at h
  · cases h
  · rename_i rest hahead
    obtain ⟨rfl, rfl⟩ := Prod.mk.inj (Option.some.inj h)
    simp [pending, hahead]

theorem pending_clear {l m : PacketList} (h : l.clear = some m) : m.pending = l.pending := by
  unfold clear at h
  split at h
  · obtain rfl := Option.some.inj h
    rfl
  · cases h

end PacketList

/-! ### The process -/

/-- `Packet`, with what the threads and the pool use of it. -/
structure RefPacket (μ : Type) where
  msg : μ
  ref : ℤ
  isRefOpen : Bool

/-- `CanBack2Pool`. -/
def RefPacket.canBack2Pool {μ : Type} (p : RefPacket μ) : Bool := p.isRefOpen && p.ref == 0

/-- The thread manager, the lists of the threads, and the pool of packets.  The last four fields are
the history: what the packets were made with, which of them were dispatched, the threads that each of
them is given to, and what the threads have handled. -/
structure DispatchState (μ : Type) where
  packets : ℕ → Option (RefPacket μ)
  nextSn : ℕ
  objs : List ℕ
  adds : List ℕ
  removes : List ℕ
  /-- `_packets` of the manager. -/
  mgr : PacketList
  /-- The threads that the packet at the place of the loop has still to be given to. -/
  work : Option (List ℕ)
  nextThreadSn : ℕ → ℕ
  /-- `_cachePackets` of each thread. -/
  lists : ℕ → PacketList
  messages : ℕ → Option μ
  dispatched : List ℕ
  assigned : ℕ → List ℕ
  log : List (ℕ × ℕ × μ)

/-- The steps of the process. -/
inductive DispatchEvent (μ : Type)
  /-- `MallocPacket`. -/
  | mallocPacket (msg : μ)
  /-- `DispatchPacket`, of a packet that was not dispatched before. -/
  | dispatchPacket (sn : ℕ)
  /-- `UpdateDispatchPacket` begins. -/
  | swapPackets
  /-- It comes to the next packet. -/
  | nextPacket
  /-- `AddPacketToList`, of the next thread that gets the packet. -/
  | addPacketToList
  /-- `OpenRef`. -/
  | openRef
  /-- `UpdateDispatchPacket` ends. -/
  | clearPackets
  /-- `MessageSystem::Update` of a thread begins. -/
  | swapMessages (thread : ℕ)
  /-- It handles the next packet, and `RemoveRef`. -/
  | processPacket (thread : ℕ)
  /-- It ends. -/
  | clearMessages (thread : ℕ)
  /-- `DynamicPacketPool::Update` begins. -/
  | poolSwap
  /-- It frees a packet. -/
  | freeObject (sn : ℕ)

namespace DispatchState

variable {μ : Type}

/-- The process at the start. -/
def start : DispatchState μ where
  packets := fun _ => none
  nextSn := 0
  objs := []
  adds := []
  removes := []
  mgr := .empty
  work := none
  nextThreadSn := fun _ => 0
  lists := fun _ => .empty
  messages := fun _ => none
  dispatched := []
  assigned := fun _ => []
  log := []

/-- `MallocPacket`. -/
def mallocPacket (s : DispatchState μ) (msg : μ) : DispatchState μ :=
  { s with
    packets := Function.update s.packets s.nextSn (some ⟨msg, 0, false⟩)
    nextSn := s.nextSn + 1
    adds := s.adds ++ [s.nextSn]
    messages := Function.update s.messages s.nextSn (some msg) }

/-- `ThreadMgr::DispatchPacket`. -/
def dispatchPacket (s : DispatchState μ) (sn : ℕ) : Option (DispatchState μ) :=
  if (s.packets sn).isSome ∧ sn ∉ s.dispatched then
    some { s with mgr := s.mgr.push sn, dispatched := s.dispatched ++ [sn] }
  else none

/-- The loop of `UpdateDispatchPacket` comes to a packet. -/
def nextPacket (ths : Threads) (isCmd : μ → Bool) (s : DispatchState μ) :
    Option (DispatchState μ) :=
  match s.work, s.mgr.ahead with
  | none, sn :: _ =>
    (s.packets sn).map fun p =>
      { s with
        work := some (ths.targets (isCmd p.msg) s.nextThreadSn)
        nextThreadSn := ths.advance (isCmd p.msg) s.nextThreadSn
        assigned := Function.update s.assigned sn
          (ths.targets (isCmd p.msg) s.nextThreadSn) }
  | _, _ => none

/-- `MessageSystem::AddPacketToList`, with `AddRef`. -/
def addPacketToList (s : DispatchState μ) : Option (DispatchState μ) :=
  match s.work, s.mgr.ahead with
  | some (t :: ts), sn :: _ =>
    (s.packets sn).map fun p =>
      { s with
        packets := Function.update s.packets sn (some { p with ref := p.ref + 1 })
        lists := Function.update s.lists t ((s.lists t).push sn)
        work := some ts }
  | _, _ => none

/-- `OpenRef`, behind the last thread. -/
def openRef (s : DispatchState μ) : Option (DispatchState μ) :=
  match s.work, s.mgr.next with
  | some [], some (sn, mgr) =>
    (s.packets sn).map fun p =>
      { s with
        packets := Function.update s.packets sn (some { p with isRefOpen := true })
        mgr := mgr
        work := none }
  | _, _ => none

/-- A thread handles the next packet of its list, with `RemoveRef`. -/
def processPacket (s : DispatchState μ) (t : ℕ) : Option (DispatchState μ) :=
  match (s.lists t).next with
  | none => none
  | some (sn, l) =>
    (s.packets sn).map fun p =>
      { s with
        packets := Function.update s.packets sn (some { p with ref := p.ref - 1 })
        lists := Function.update s.lists t l
        log := s.log ++ [(t, sn, p.msg)] }

/-- `CacheRefresh::Swap` of the pool: what was freed goes back to the pool. -/
def poolSwap (s : DispatchState μ) : DispatchState μ :=
  { s with
    objs := (s.objs ++ s.adds).filter (· ∉ s.removes)
    adds := []
    removes := []
    packets := fun sn =>
      if sn ∈ s.removes ∧ sn ∈ s.objs ++ s.adds then none else s.packets sn }

/-- `FreeObject`, of a packet in use that can go back to the pool. -/
def freeObject (s : DispatchState μ) (sn : ℕ) : Option (DispatchState μ) :=
  match s.packets sn with
  | none => none
  | some p =>
    if sn ∈ s.objs ∧ p.canBack2Pool = true then some { s with removes := s.removes ++ [sn] }
    else none

/-- One step.  There is none that uses a packet which is back in the pool. -/
def step (ths : Threads) (isCmd : μ → Bool) (s : DispatchState μ) :
    DispatchEvent μ → Option (DispatchState μ)
  | .mallocPacket msg => some (s.mallocPacket msg)
  | .dispatchPacket sn => s.dispatchPacket sn
  | .swapPackets => s.mgr.swap.map fun mgr => { s with mgr := mgr }
  | .nextPacket => s.nextPacket ths isCmd
  | .addPacketToList => s.addPacketToList
  | .openRef => s.openRef
  | .clearPackets => s.mgr.clear.map fun mgr => { s with mgr := mgr }
  | .swapMessages t =>
    (s.lists t).swap.map fun l => { s with lists := Function.update s.lists t l }
  | .processPacket t => s.processPacket t
  | .clearMessages t =>
    (s.lists t).clear.map fun l => { s with lists := Function.update s.lists t l }
  | .poolSwap => some s.poolSwap
  | .freeObject sn => s.freeObject sn

/-! ### What a step does -/

theorem of_dispatchPacket {s v : DispatchState μ} {sn : ℕ} (hv : s.dispatchPacket sn = some v) :
    (s.packets sn).isSome = true ∧ sn ∉ s.dispatched ∧
      v = { s with mgr := s.mgr.push sn, dispatched := s.dispatched ++ [sn] } := by
  obtain ⟨⟨hsome, hnew⟩, hv⟩ := Option.ite_none_right_eq_some.1 hv
  exact ⟨hsome, hnew, (Option.some.inj hv).symm⟩

theorem of_nextPacket {ths : Threads} {isCmd : μ → Bool} {s v : DispatchState μ}
    (hv : s.nextPacket ths isCmd = some v) : ∃ sn rest p, s.work = none ∧
      s.mgr.ahead = sn :: rest ∧ s.packets sn = some p ∧ v = { s with
        work := some (ths.targets (isCmd p.msg) s.nextThreadSn)
        nextThreadSn := ths.advance (isCmd p.msg) s.nextThreadSn
        assigned := Function.update s.assigned sn
          (ths.targets (isCmd p.msg) s.nextThreadSn) } := by
  unfold nextPacket at hv
  split at hv
  · rename_i sn rest hwork hahead
    obtain ⟨p, hp, rfl⟩ := Option.map_eq_some_iff.1 hv
    exact ⟨sn, rest, p, hwork, hahead, hp, rfl⟩
  · cases hv

theorem of_addPacketToList {s v : DispatchState μ} (hv : s.addPacketToList = some v) :
    ∃ t ts sn rest p, s.work = some (t :: ts) ∧ s.mgr.ahead = sn :: rest ∧
      s.packets sn = some p ∧ v = { s with
        packets := Function.update s.packets sn (some { p with ref := p.ref + 1 })
        lists := Function.update s.lists t ((s.lists t).push sn)
        work := some ts } := by
  unfold addPacketToList at hv
  split at hv
  · rename_i t ts sn rest hwork hahead
    obtain ⟨p, hp, rfl⟩ := Option.map_eq_some_iff.1 hv
    exact ⟨t, ts, sn, rest, p, hwork, hahead, hp, rfl⟩
  · cases hv

theorem of_openRef {s v : DispatchState μ} (hv : s.openRef = some v) :
    ∃ sn rest p, s.work = some [] ∧ s.mgr.ahead = sn :: rest ∧ s.packets sn = some p ∧
      v = { s with
        packets := Function.update s.packets sn (some { p with isRefOpen := true })
        mgr := { s.mgr with passed := s.mgr.passed ++ [sn], ahead := rest }
        work := none } := by
  unfold openRef PacketList.next at hv
  cases hahead : s.mgr.ahead with
  | nil => simp [hahead] at hv
  | cons sn rest =>
    cases hwork : s.work with
    | none => simp [hwork] at hv
    | some ts =>
      cases ts with
      | cons t ts => simp [hwork] at hv
      | nil =>
        simp only [hwork, hahead] at hv
        obtain ⟨p, hp, rfl⟩ := Option.map_eq_some_iff.1 hv
        exact ⟨sn, rest, p, rfl, rfl, hp, rfl⟩

theorem of_processPacket {s v : DispatchState μ} {t : ℕ} (hv : s.processPacket t = some v) :
    ∃ sn l p, (s.lists t).next = some (sn, l) ∧ s.packets sn = some p ∧ v = { s with
        packets := Function.update s.packets sn (some { p with ref := p.ref - 1 })
        lists := Function.update s.lists t l
        log := s.log ++ [(t, sn, p.msg)] } := by
  unfold processPacket at hv
  split at hv
  · cases hv
  · rename_i sn l hnext
    obtain ⟨p, hp, rfl⟩ := Option.map_eq_some_iff.1 hv
    exact ⟨sn, l, p, hnext, hp, rfl⟩

theorem of_freeObject {s v : DispatchState μ} {sn : ℕ} (hv : s.freeObject sn = some v) :
    ∃ p, s.packets sn = some p ∧ p.canBack2Pool = true ∧
      v = { s with removes := s.removes ++ [sn] } := by
  unfold freeObject at hv
  split at hv
  · cases hv
  · rename_i p hp
    obtain ⟨⟨-, hback⟩, hv⟩ := Option.ite_none_right_eq_some.1 hv
    exact ⟨p, hp, hback, (Option.some.inj hv).symm⟩

/-! ### What a thread has handled, and will handle -/

/-- The packets that a thread has handled, in their order. -/
def processed (s : DispatchState μ) (t : ℕ) : List ℕ :=
  s.log.filterMap fun e => if e.1 = t then some e.2.1 else none

/-- The packets that are in the list of a thread, and not yet handled. -/
def pending (s : DispatchState μ) (t : ℕ) : List ℕ := (s.lists t).pending

/-- The packet that is just given to the threads. -/
def current (s : DispatchState μ) : Option ℕ :=
  if s.work.isSome then s.mgr.ahead.head? else none

/-- The packets that were dispatched and that the loop has not come to. -/
def queued (s : DispatchState μ) : List ℕ :=
  if s.work.isSome then s.mgr.ahead.tail ++ s.mgr.writer else s.mgr.pending

/-- The threads that the packet at the place of the loop is still to be given to. -/
def remaining (s : DispatchState μ) : List ℕ := s.work.getD []

/-- What a thread that gets every packet is going to handle. -/
def waiting (s : DispatchState μ) (t : ℕ) : List ℕ :=
  s.pending t ++ (if t ∈ s.remaining then s.current.toList else []) ++ s.queued

end DispatchState

/-- The runs of a process. -/
def dispatchSystem {μ : Type} (ths : Threads) (isCmd : μ → Bool) :
    Transition.System (DispatchState μ) (DispatchEvent μ) :=
  Transition.System.ofFun (fun s => s = .start) (DispatchState.step ths isCmd)

end MmoServer
