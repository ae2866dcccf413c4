/-
**Whose turn it is.**

The threads of an exclusive collector get packets one after the other.  Packets that come to every
thread take no turn; all others do, whatever they are about.  So the thread that gets a packet is
known from the number of packets that were dispatched before it: two packets go to the same thread
exactly if these numbers leave the same remainder by the number of threads.

Main definitions:

* `MmoServer.Collector.turn` — the thread whose turn it is behind some packets;
* `MmoServer.DispatchState.ordinal` — the number of packets that took a turn before a packet;
* `MmoServer.TurnInv` — the invariant of the turns.

Main results:

* `MmoServer.Collector.turn_eq_iff` — **the turns go around**;
* `MmoServer.TurnInv.run` — **every run** keeps the invariant;
* `MmoServer.eq_turn_of_mem_handed` — **the thread of a packet** is the one whose turn it was;
* `MmoServer.prefix_filter_processed` — **packets that take the turn of the same thread** are handled
  in the order of dispatch.
-/

import Mathlib.Data.List.Infix
import Mathlib.Data.Nat.ModEq
import MmoServer.DispatchOnce

set_option relaxedAutoImplicit false
set_option autoImplicit false

namespace MmoServer

/-! ### Turns -/

namespace Collector

/-- `_nextThreadSn` behind a number of packets. -/
def nextAfter (c : Collector) : ℕ → ℕ
  | 0 => 0
  | n + 1 => c.following (c.pick (c.nextAfter n))

/-- The thread whose turn it is behind a number of packets. -/
def turn (c : Collector) (n : ℕ) : ℕ := c.pick (c.nextAfter n)

theorem following_mem (c : Collector) (sn : ℕ) : c.following sn ∈ c.threads := by
  unfold following
  cases hnext : c.threads[c.threads.idxOf sn + 1]? with
  | none => exact List.head_mem c.nonempty
  | some t => exact List.mem_of_getElem? hnext

/-- The thread whose turn it is behind a number of packets, from any `_nextThreadSn` on. -/
def turnFrom (c : Collector) (nextThreadSn : ℕ) : ℕ → ℕ
  | 0 => c.pick nextThreadSn
  | n + 1 => c.following (c.turnFrom nextThreadSn n)

theorem turnFrom_mem (c : Collector) (nextThreadSn n : ℕ) : c.turnFrom nextThreadSn n ∈ c.threads := by
  cases n with
  | zero => exact c.pick_mem nextThreadSn
  | succ n => exact c.following_mem _

theorem pick_following (c : Collector) (sn : ℕ) : c.pick (c.following sn) = c.following sn :=
  if_pos (c.following_mem sn)

/-- The first turn, and then the others. -/
theorem turnFrom_following (c : Collector) (nextThreadSn n : ℕ) :
    c.turnFrom (c.following (c.pick nextThreadSn)) n = c.turnFrom nextThreadSn (n + 1) := by
  induction n with
  | zero => exact c.pick_following _
  | succ n ih => exact congrArg c.following ih

theorem turn_succ (c : Collector) (n : ℕ) : c.turn (n + 1) = c.following (c.turn n) :=
  c.pick_following _

theorem turn_eq_turnFrom (c : Collector) (n : ℕ) : c.turn n = c.turnFrom 0 n := by
  induction n with
  | zero => rfl
  | succ n ih => rw [turn_succ, ih, turnFrom]

/-- The place of a thread in its collector is one further than that of the thread before it. -/
theorem idxOf_following {c : Collector} (hnodup : c.threads.Nodup) {sn : ℕ} (hsn : sn ∈ c.threads) :
    c.threads.idxOf (c.following sn) = (c.threads.idxOf sn + 1) % c.threads.length := by
  have hlt := List.idxOf_lt_length_iff.2 hsn
  unfold following
  by_cases hlast : c.threads.idxOf sn + 1 < c.threads.length
  · rw [List.getElem?_eq_getElem hlast, Option.getD_some, hnodup.idxOf_getElem,
      Nat.mod_eq_of_lt hlast]
  · have hlength : c.threads.idxOf sn + 1 = c.threads.length := by omega
    rw [List.getElem?_eq_none (by omega), Option.getD_none, hlength, Nat.mod_self]
    have hpos : 0 < c.threads.length := by omega
    rw [List.head_eq_getElem]
    exact hnodup.idxOf_getElem 0 hpos

/-- **The place of the thread whose turn it is.** -/
theorem idxOf_turnFrom {c : Collector} (hnodup : c.threads.Nodup) (nextThreadSn n : ℕ) :
    c.threads.idxOf (c.turnFrom nextThreadSn n) =
      (c.threads.idxOf (c.pick nextThreadSn) + n) % c.threads.length := by
  induction n with
  | zero => exact (Nat.mod_eq_of_lt (List.idxOf_lt_length_iff.2 (c.pick_mem nextThreadSn))).symm
  | succ n ih =>
    rw [turnFrom, idxOf_following hnodup (c.turnFrom_mem nextThreadSn n), ih, Nat.mod_add_mod,
      Nat.add_assoc]

/-- **The turns go around**, from any `_nextThreadSn` on. -/
theorem turnFrom_eq_iff {c : Collector} (hnodup : c.threads.Nodup) (nextThreadSn m n : ℕ) :
    c.turnFrom nextThreadSn m = c.turnFrom nextThreadSn n ↔
      m % c.threads.length = n % c.threads.length := by
  rw [← List.idxOf_inj (c.turnFrom_mem nextThreadSn m), idxOf_turnFrom hnodup,
    idxOf_turnFrom hnodup nextThreadSn n]
  constructor
  · exact Nat.ModEq.add_left_cancel' _
  · exact Nat.ModEq.add_left _

/-- **The turns go around.** -/
theorem turn_eq_iff {c : Collector} (hnodup : c.threads.Nodup) (m n : ℕ) :
    c.turn m = c.turn n ↔ m % c.threads.length = n % c.threads.length := by
  rw [turn_eq_turnFrom, turn_eq_turnFrom]
  exact turnFrom_eq_iff hnodup 0 m n

end Collector

/-- The threads of a collector are different from each other. -/
theorem Threads.nodup_threads (ths : Threads) {c : Collector} (hc : c ∈ ths.collectors) :
    c.threads.Nodup :=
  (List.nodup_flatMap.1 (List.nodup_cons.1 ths.nodup).2).1 c hc

/-! ### Turns of packets -/

variable {μ : Type}

/-- An element of the first of two lists is found in it. -/
theorem takeWhile_append_of_mem {a : ℕ} {l : List ℕ} (h : a ∈ l) (r : List ℕ) :
    ((l ++ r).takeWhile fun b => b ≠ a) = l.takeWhile fun b => b ≠ a := by
  induction l with
  | nil => cases h
  | cons b l ih =>
    by_cases hb : b = a
    · simp [hb]
    · simpa [hb] using ih ((List.mem_cons.1 h).resolve_left fun heq => hb heq.symm)

namespace DispatchState

/-- The packets of a list that took a turn. -/
def ordinary (isCmd : μ → Bool) (s : DispatchState μ) (l : List ℕ) : ℕ :=
  l.countP fun sn => (s.messages sn).any fun msg => !isCmd msg

/-- The number of packets that were dispatched before a packet and took a turn. -/
def ordinal (isCmd : μ → Bool) (s : DispatchState μ) (sn : ℕ) : ℕ :=
  s.ordinary isCmd (s.dispatched.takeWhile fun a => a ≠ sn)

/-- A packet that takes a turn. -/
theorem ordinary_append_singleton {isCmd : μ → Bool} {s : DispatchState μ} {sn : ℕ} {msg : μ}
    (hmsg : s.messages sn = some msg) (l : List ℕ) :
    s.ordinary isCmd (l ++ [sn]) = s.ordinary isCmd l + (if isCmd msg then 0 else 1) := by
  unfold ordinary
  rw [List.countP_append, List.countP_singleton, hmsg]
  cases hcmd : isCmd msg <;> simp [hcmd]

/-- What was made later is not counted. -/
theorem ordinary_congr {isCmd : μ → Bool} {s v : DispatchState μ} {l : List ℕ}
    (h : ∀ sn ∈ l, v.messages sn = s.messages sn) : v.ordinary isCmd l = s.ordinary isCmd l :=
  List.countP_congr fun sn hsn => by rw [h sn hsn]

/-- What is dispatched later takes its turn later. -/
theorem ordinal_append {isCmd : μ → Bool} {s v : DispatchState μ} {r : List ℕ}
    (hdispatched : v.dispatched = s.dispatched ++ r)
    (hmessages : ∀ sn ∈ s.dispatched, v.messages sn = s.messages sn) {a : ℕ}
    (ha : a ∈ s.dispatched) : v.ordinal isCmd a = s.ordinal isCmd a := by
  unfold ordinal
  rw [hdispatched, takeWhile_append_of_mem ha]
  exact ordinary_congr fun sn hsn => hmessages sn (List.takeWhile_subset _ hsn)

/-- Without a packet that is dispatched, the turns are the same. -/
theorem ordinal_congr {isCmd : μ → Bool} {s v : DispatchState μ}
    (hdispatched : v.dispatched = s.dispatched)
    (hmessages : ∀ sn ∈ s.dispatched, v.messages sn = s.messages sn) {a : ℕ}
    (ha : a ∈ s.dispatched) : v.ordinal isCmd a = s.ordinal isCmd a :=
  ordinal_append (hdispatched.trans (List.append_nil _).symm) hmessages ha

end DispatchState

/-! ### The invariant -/

/-- The turns of a collector.  The packets `begun` are those that the loop of the manager has come
to. -/
structure TurnInv (isCmd : μ → Bool) (c : Collector) (k : ℕ) (s : DispatchState μ)
    (begun : List ℕ) : Prop where
  dispatched : s.dispatched = begun ++ s.queued
  next : s.nextThreadSn k = c.nextAfter (s.ordinary isCmd begun)
  /-- A packet has gone to the thread whose turn it was. -/
  assigned : ∀ l sn msg, l ++ [sn] <+: begun → s.messages sn = some msg → isCmd msg = false →
    ∀ t ∈ c.threads, t ∈ s.assigned sn ↔ t = c.turn (s.ordinary isCmd l)

namespace TurnInv

variable {ths : Threads} {isCmd : μ → Bool} {c : Collector} {k : ℕ} {s v : DispatchState μ}
  {opened begun : List ℕ}

theorem start : TurnInv isCmd c k (.start : DispatchState μ) [] where
  dispatched := rfl
  next := rfl
  assigned := by
    intro l sn msg hbegun
    simp at hbegun

/-- Only the loop of the manager takes turns. -/
theorem of_same (h : TurnInv isCmd c k s begun) (hdispatched : v.dispatched = s.dispatched)
    (hqueued : v.queued = s.queued) (hnext : v.nextThreadSn = s.nextThreadSn)
    (hassigned : v.assigned = s.assigned) (hmessages : v.messages = s.messages) :
    TurnInv isCmd c k v begun := by
  have hordinary : ∀ l, v.ordinary isCmd l = s.ordinary isCmd l := fun l =>
    DispatchState.ordinary_congr fun _ _ => by rw [hmessages]
  constructor
  · rw [hdispatched, hqueued]
    exact h.dispatched
  · rw [hnext, hordinary]
    exact h.next
  · intro l sn msg hbegun hmsg hcmd t ht
    rw [hassigned, hordinary]
    rw [hmessages] at hmsg
    exact h.assigned l sn msg hbegun hmsg hcmd t ht

theorem mallocPacket (h : TurnInv isCmd c k s begun) (hdispatch : DispatchInv ths isCmd s opened)
    (msg : μ) : TurnInv isCmd c k (s.mallocPacket msg) begun := by
  have hmessages : ∀ sn ∈ begun, (s.mallocPacket msg).messages sn = s.messages sn := by
    intro sn hsn
    have hold : sn < s.nextSn :=
      hdispatch.old sn (by rw [h.dispatched]; exact List.mem_append_left _ hsn)
    exact Function.update_of_ne (Nat.ne_of_lt hold) ..
  constructor
  · exact h.dispatched
  · rw [DispatchState.ordinary_congr hmessages]
    exact h.next
  · intro l sn m hbegun hm hcmd t ht
    rw [hmessages sn (hbegun.subset (by simp))] at hm
    rw [DispatchState.ordinary_congr fun a ha => hmessages a (hbegun.subset (by simp [ha]))]
    exact h.assigned l sn m hbegun hm hcmd t ht

theorem dispatchPacket (h : TurnInv isCmd c k s begun) {sn : ℕ} (hv : s.dispatchPacket sn = some v) :
    TurnInv isCmd c k v begun := by
  obtain ⟨-, -, rfl⟩ := DispatchState.of_dispatchPacket hv
  refine ⟨?_, h.next, h.assigned⟩
  have hqueued : ({ s with
      mgr := s.mgr.push sn, dispatched := s.dispatched ++ [sn] } : DispatchState μ).queued =
        s.queued ++ [sn] := by
    unfold DispatchState.queued
    cases s.work <;> simp [PacketList.push, PacketList.pending]
  rw [hqueued, ← List.append_assoc, ← h.dispatched]

/-- **The loop comes to a packet**, which takes a turn. -/
theorem nextPacket (h : TurnInv isCmd c k s begun) (hdispatch : DispatchInv ths isCmd s opened)
    (hc : ths.collectors[k]? = some c) (hexclusive : c.exclusive = true)
    (hv : s.nextPacket ths isCmd = some v) : ∃ sn, TurnInv isCmd c k v (begun ++ [sn]) := by
  obtain ⟨sn, rest, p, hwork, hahead, hp, hv⟩ := DispatchState.of_nextPacket hv
  have hmsg := hdispatch.messages sn p hp
  have hqueued : s.queued = sn :: v.queued := by
    rw [hv]
    simp [DispatchState.queued, hwork, hahead, PacketList.pending]
  have hdispatched : s.dispatched = begun ++ [sn] ++ v.queued := by
    rw [h.dispatched, hqueued, List.append_assoc]
    rfl
  have hnew : sn ∉ begun := by
    have hnodup := hdispatch.nodup
    rw [h.dispatched, hqueued] at hnodup
    exact fun hmem => (List.nodup_append.1 hnodup).2.2 sn hmem sn (List.mem_cons_self ..) rfl
  have hassigned : v.assigned = Function.update s.assigned sn
      (ths.targets (isCmd p.msg) s.nextThreadSn) := by rw [hv]
  have hnext : v.nextThreadSn = ths.advance (isCmd p.msg) s.nextThreadSn := by rw [hv]
  have hmessages : v.messages = s.messages := by rw [hv]
  have hordinary : ∀ l, v.ordinary isCmd l = s.ordinary isCmd l := fun l =>
    DispatchState.ordinary_congr fun _ _ => by rw [hmessages]
  refine ⟨sn, ⟨?_, ?_, ?_⟩⟩
  · rw [← hdispatched, hv]
  · rw [hnext, hordinary, DispatchState.ordinary_append_singleton hmsg]
    unfold Threads.advance Collector.advance
    rw [hc, h.next]
    cases hcmd : isCmd p.msg <;> simp [hexclusive, Collector.nextAfter]
  · intro l a m hbegun hm hcmd t ht
    rw [hordinary]
    rw [hmessages] at hm
    rcases List.prefix_concat_iff.1 hbegun with heq | hbefore
    · -- the packet is the one that the loop comes to
      obtain ⟨rfl, hlast⟩ := List.append_inj' heq rfl
      obtain rfl := List.singleton_inj.1 hlast
      obtain rfl : p.msg = m := Option.some.inj (hmsg.symm.trans hm)
      have hturn : c.turn (s.ordinary isCmd l) = c.pick (s.nextThreadSn k) := by
        rw [h.next]
        rfl
      rw [hassigned, Function.update_self, hcmd, hturn]
      constructor
      · intro hmem
        have htarget := Threads.mem_targets_of_mem hc ht hmem
        rw [Collector.targets_of_exclusive hexclusive] at htarget
        exact List.mem_singleton.1 htarget
      · rintro rfl
        obtain ⟨u, hu, hmem, -⟩ := (ths.targets_spec false s.nextThreadSn).exclusive rfl c
          (List.mem_of_getElem? hc) hexclusive
        have htarget := Threads.mem_targets_of_mem hc hu hmem
        rw [Collector.targets_of_exclusive hexclusive] at htarget
        rw [← List.mem_singleton.1 htarget]
        exact hmem
    · have hne : a ≠ sn := by
        rintro rfl
        exact hnew (hbefore.subset (by simp))
      rw [hassigned, Function.update_of_ne hne]
      exact h.assigned l a m hbefore hm hcmd t ht

/-- The manager begins or ends, between two of its loops. -/
theorem withMgr (h : TurnInv isCmd c k s begun) (hdispatch : DispatchInv ths isCmd s opened)
    (hahead : s.mgr.ahead = []) {mgr : PacketList} (hpending : mgr.pending = s.mgr.pending) :
    TurnInv isCmd c k { s with mgr := mgr } begun := by
  refine h.of_same rfl ?_ rfl rfl rfl
  unfold DispatchState.queued
  simp [hdispatch.work_eq_none hahead, hpending]

/-- **One step** keeps the invariant. -/
theorem step (h : TurnInv isCmd c k s begun) (hdispatch : DispatchInv ths isCmd s opened)
    (hc : ths.collectors[k]? = some c) (hexclusive : c.exclusive = true) {e : DispatchEvent μ}
    (hv : s.step ths isCmd e = some v) : ∃ begun', TurnInv isCmd c k v begun' := by
  cases e with
  | mallocPacket msg =>
    obtain rfl := Option.some.inj hv
    exact ⟨begun, h.mallocPacket hdispatch msg⟩
  | dispatchPacket sn => exact ⟨begun, h.dispatchPacket hv⟩
  | swapPackets =>
    obtain ⟨mgr, hmgr, rfl⟩ := Option.map_eq_some_iff.1 hv
    exact ⟨begun, h.withMgr hdispatch (PacketList.ahead_of_swap hmgr)
      (PacketList.pending_swap hmgr)⟩
  | nextPacket =>
    obtain ⟨sn, hnext⟩ := h.nextPacket hdispatch hc hexclusive hv
    exact ⟨_, hnext⟩
  | addPacketToList =>
    obtain ⟨t, ts, sn, rest, p, hwork, -, -, rfl⟩ := DispatchState.of_addPacketToList hv
    refine ⟨begun, h.of_same rfl ?_ rfl rfl rfl⟩
    simp [DispatchState.queued, hwork]
  | openRef =>
    obtain ⟨sn, rest, p, hwork, hahead, -, rfl⟩ := DispatchState.of_openRef hv
    refine ⟨begun, h.of_same rfl ?_ rfl rfl rfl⟩
    simp [DispatchState.queued, PacketList.pending, hwork, hahead]
  | clearPackets =>
    obtain ⟨mgr, hmgr, rfl⟩ := Option.map_eq_some_iff.1 hv
    exact ⟨begun, h.withMgr hdispatch (PacketList.ahead_of_clear hmgr)
      (PacketList.pending_clear hmgr)⟩
  | swapMessages t =>
    obtain ⟨l, -, rfl⟩ := Option.map_eq_some_iff.1 hv
    exact ⟨begun, h.of_same rfl rfl rfl rfl rfl⟩
  | processPacket t =>
    obtain ⟨_, _, _, -, -, rfl⟩ := DispatchState.of_processPacket hv
    exact ⟨begun, h.of_same rfl rfl rfl rfl rfl⟩
  | clearMessages t =>
    obtain ⟨l, -, rfl⟩ := Option.map_eq_some_iff.1 hv
    exact ⟨begun, h.of_same rfl rfl rfl rfl rfl⟩
  | poolSwap =>
    obtain rfl := Option.some.inj hv
    exact ⟨begun, h.of_same rfl rfl rfl rfl rfl⟩
  | freeObject sn =>
    obtain ⟨_, -, -, rfl⟩ := DispatchState.of_freeObject hv
    exact ⟨begun, h.of_same rfl rfl rfl rfl rfl⟩

/-- **Every run** keeps both invariants. -/
theorem run {es : List (DispatchEvent μ)} (hc : ths.collectors[k]? = some c)
    (hexclusive : c.exclusive = true) (hrun : (dispatchSystem ths isCmd).Run es s) :
    ∃ opened begun, DispatchInv ths isCmd s opened ∧ TurnInv isCmd c k s begun := by
  refine hrun.invariant (p := fun s => ∃ opened begun, DispatchInv ths isCmd s opened ∧
    TurnInv isCmd c k s begun) ?_ ?_
  · rintro s rfl
    exact ⟨[], [], .start, .start⟩
  · rintro s e v ⟨opened, begun, hdispatch, h⟩ hstep
    obtain ⟨opened', hdispatch'⟩ := hdispatch.step hstep
    obtain ⟨begun', h'⟩ := h.step hdispatch hc hexclusive hstep
    exact ⟨opened', begun', hdispatch', h'⟩

end TurnInv

/-- **The thread of a packet** is the one whose turn it was. -/
theorem eq_turn_of_mem_handed {ths : Threads} {isCmd : μ → Bool} {es : List (DispatchEvent μ)}
    {s : DispatchState μ} (hrun : (dispatchSystem ths isCmd).Run es s) {c : Collector}
    (hc : c ∈ ths.collectors) (hexclusive : c.exclusive = true) {t sn : ℕ} {msg : μ}
    (ht : t ∈ c.threads) (hmem : sn ∈ s.handed t) (hmsg : s.messages sn = some msg)
    (hcmd : isCmd msg = false) : t = c.turn (s.ordinal isCmd sn) := by
  obtain ⟨k, hk⟩ := List.mem_iff_getElem?.1 hc
  obtain ⟨opened, begun, hdispatch, h⟩ := TurnInv.run hk hexclusive hrun
  obtain ⟨hbegun, hassigned⟩ := hdispatch.of_mem_handed hmem
  have hmemBegun : sn ∈ begun := by
    have hboth : begun ++ s.queued = opened ++ s.current.toList ++ s.queued := by
      rw [← h.dispatched, List.append_assoc, hdispatch.current_append_queued]
      exact hdispatch.dispatched
    rw [List.append_cancel_right hboth]
    rcases hbegun with ho | hcurrent
    · exact List.mem_append_left _ ho
    · exact List.mem_append_right _ (Option.mem_toList.2 hcurrent)
  obtain ⟨l, r, rfl⟩ := List.append_of_mem hmemBegun
  have hordinal : s.ordinal isCmd sn = s.ordinary isCmd l := by
    have hnot : ∀ a ∈ l, a ≠ sn := by
      have hnodup := hdispatch.nodup
      rw [h.dispatched, List.append_assoc] at hnodup
      exact fun a ha => (List.nodup_append.1 hnodup).2.2 a ha sn (by simp)
    unfold DispatchState.ordinal
    rw [h.dispatched, List.append_assoc, List.takeWhile_append_of_pos (by simpa using hnot)]
    simp
  rw [hordinal]
  exact (h.assigned l sn msg ⟨r, by simp⟩ hmsg hcmd t ht).1 hassigned

/-- A packet that the manager has handed out was given to the thread whose turn it was. -/
theorem turn_mem_assigned {ths : Threads} {isCmd : μ → Bool} {es : List (DispatchEvent μ)}
    {s : DispatchState μ} (hrun : (dispatchSystem ths isCmd).Run es s) {opened : List ℕ}
    (hdispatch : DispatchInv ths isCmd s opened) {c : Collector} (hc : c ∈ ths.collectors)
    (hexclusive : c.exclusive = true) {sn : ℕ} {msg : μ} (ho : sn ∈ opened)
    (hmsg : s.messages sn = some msg) (hcmd : isCmd msg = false) :
    c.turn (s.ordinal isCmd sn) ∈ s.assigned sn := by
  obtain ⟨t, ht, hmem, -⟩ := (hdispatch.targets sn msg (.inl ho) hmsg).exclusive hcmd c hc hexclusive
  have hhanded : sn ∈ s.handed t := by
    rw [hdispatch.handed]
    exact List.mem_append_left _ (List.mem_filter.2 ⟨ho, decide_eq_true hmem⟩)
  rw [← eq_turn_of_mem_handed hrun hc hexclusive ht hhanded hmsg hcmd]
  exact hmem

/-- **Packets that take the turn of the same thread** are handled in the order of dispatch: those
that the thread has handled are the first of them. -/
theorem prefix_filter_processed {ths : Threads} {isCmd : μ → Bool} {es : List (DispatchEvent μ)}
    {s : DispatchState μ} (hrun : (dispatchSystem ths isCmd).Run es s) {c : Collector}
    (hc : c ∈ ths.collectors) (hexclusive : c.exclusive = true) {t : ℕ} {q : ℕ → Bool}
    (hq : ∀ sn ∈ s.dispatched, q sn = true → (∃ msg, s.messages sn = some msg ∧ isCmd msg = false) ∧
      c.turn (s.ordinal isCmd sn) = t) :
    (s.processed t).filter q <+: s.dispatched.filter q := by
  obtain ⟨opened, hdispatch⟩ := DispatchInv.run hrun
  -- the thread has got all of them that the manager has handed out
  have hopened : (opened.filter fun sn => t ∈ s.assigned sn).filter q = opened.filter q := by
    rw [List.filter_filter]
    refine List.filter_congr fun sn ho => ?_
    cases hsn : q sn with
    | false => rfl
    | true =>
      have hdispatched : sn ∈ s.dispatched := by
        rw [hdispatch.dispatched]
        exact List.mem_append_left _ ho
      obtain ⟨⟨msg, hmsg, hcmd⟩, hturn⟩ := hq sn hdispatched hsn
      have hmem := turn_mem_assigned hrun hdispatch hc hexclusive ho hmsg hcmd
      rw [hturn] at hmem
      simp [hmem]
  have hgiven : s.given t <+: s.mgr.pending := by
    rw [← hdispatch.current_append_queued]
    refine List.IsPrefix.trans ?_ (List.prefix_append _ _)
    cases hcurrent : s.current with
    | none => simp [DispatchState.given_of_none hcurrent]
    | some sn =>
      rw [DispatchState.given_of_some hcurrent]
      split
      · exact List.prefix_refl _
      · exact List.nil_prefix
  calc (s.processed t).filter q
      <+: (s.handed t).filter q := (List.prefix_append _ _).filter _
    _ = opened.filter q ++ (s.given t).filter q := by
        rw [hdispatch.handed, List.filter_append, hopened]
    _ <+: opened.filter q ++ s.mgr.pending.filter q :=
        (List.prefix_append_right_inj _).2 (hgiven.filter _)
    _ = s.dispatched.filter q := by rw [← List.filter_append, ← hdispatch.dispatched]

end MmoServer
