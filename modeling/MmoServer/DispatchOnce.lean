/-
**Packets are handled once.**

Every thread handles the packets that it is given in the order in which they were dispatched, and
none of them twice; the main thread and the threads of the shared collectors are given all of them,
and of an exclusive collector one thread.  A packet that a thread still has to handle is not back in
the pool: the count of the packet is the number of threads that it is waiting for, and the pool frees
no packet before the manager has opened it behind the last thread.

Main definitions:

* `MmoServer.DispatchInv` — the invariant of the process;
* `MmoServer.DispatchedOnce` — what is promised about the packets.

Main results:

* `MmoServer.DispatchInv.step` — **one step** keeps the invariant;
* `MmoServer.dispatchedOnce_run` — **packets are handled once, and kept until then**;
* `MmoServer.not_kept_in_list` — a packet that all threads have handled may go back to the pool while
  a list still has its pointer.
-/

import MmoServer.Dispatch

set_option relaxedAutoImplicit false
set_option autoImplicit false

namespace MmoServer

variable {μ : Type}

/-! ### Counting -/

/-- One element of a list without repetitions comes to satisfy a condition. -/
theorem countP_succ_of_nodup {l : List ℕ} (hl : l.Nodup) {p q : ℕ → Bool} {t : ℕ} (ht : t ∈ l)
    (hsame : ∀ u, u ≠ t → p u = q u) (hp : p t = false) (hq : q t = true) :
    l.countP q = l.countP p + 1 := by
  induction l with
  | nil => cases ht
  | cons a l ih =>
    obtain ⟨ha, hl⟩ := List.nodup_cons.1 hl
    by_cases hat : a = t
    · subst hat
      have htail : l.countP q = l.countP p := List.countP_congr fun u hu => by
        rw [hsame u fun heq => ha (heq ▸ hu)]
      rw [List.countP_cons_of_pos hq, List.countP_cons_of_neg (by rw [hp]; exact Bool.false_ne_true),
        htail]
    · have hmem : t ∈ l := (List.mem_cons.1 ht).resolve_left fun heq => hat heq.symm
      rw [List.countP_cons, List.countP_cons, ih hl hmem, hsame a hat]
      omega

/-- An entry behind the change of one. -/
theorem of_update_some {α : Type} {f : ℕ → Option α} {k a : ℕ} {x y : α}
    (h : Function.update f k (some x) a = some y) : (a = k ∧ y = x) ∨ (a ≠ k ∧ f a = some y) := by
  by_cases ha : a = k
  · subst ha
    rw [Function.update_self] at h
    exact .inl ⟨rfl, (Option.some.inj h).symm⟩
  · rw [Function.update_of_ne ha] at h
    exact .inr ⟨ha, h⟩

theorem isSome_update_some {α : Type} {f : ℕ → Option α} (k : ℕ) (x : α) {a : ℕ}
    (h : (f a).isSome = true) : (Function.update f k (some x) a).isSome = true := by
  by_cases ha : a = k
  · subst ha
    rw [Function.update_self]
    rfl
  · rw [Function.update_of_ne ha]
    exact h

namespace DispatchState

/-- All packets that a thread was given, in the order in which it handles them. -/
def handed (s : DispatchState μ) (t : ℕ) : List ℕ := s.processed t ++ s.pending t

/-- The packet at the place of the loop, if a thread has already got it. -/
def given (s : DispatchState μ) (t : ℕ) : List ℕ :=
  s.current.toList.filter fun sn => t ∈ s.assigned sn ∧ t ∉ s.remaining

/-- The number of threads that still have to handle a packet. -/
def holders (ths : Threads) (s : DispatchState μ) (sn : ℕ) : ℕ :=
  ths.all.countP fun t => sn ∈ s.pending t

theorem current_of_none {s : DispatchState μ} (h : s.work = none) : s.current = none := by
  unfold current
  rw [h]
  rfl

theorem current_of_some {s : DispatchState μ} {ts : List ℕ} {sn : ℕ} {rest : List ℕ}
    (h : s.work = some ts) (hahead : s.mgr.ahead = sn :: rest) : s.current = some sn := by
  unfold current
  rw [h, hahead]
  rfl

theorem given_of_none {s : DispatchState μ} (h : s.current = none) (t : ℕ) : s.given t = [] := by
  unfold given
  rw [h]
  rfl

theorem given_of_some {s : DispatchState μ} {sn : ℕ} (h : s.current = some sn) (t : ℕ) :
    s.given t = if t ∈ s.assigned sn ∧ t ∉ s.remaining then [sn] else [] := by
  unfold given
  rw [h, Option.toList_some, List.filter_singleton]
  simp

theorem current_mem {s : DispatchState μ} {sn : ℕ} (h : s.current = some sn) :
    sn ∈ s.mgr.pending := by
  unfold current at h
  split at h
  · exact List.mem_append_left _ (List.mem_of_mem_head? h)
  · cases h

/-- The packet at the place of the loop is the first one that the manager has pending. -/
theorem given_sublist (s : DispatchState μ) (t : ℕ) : (s.given t).Sublist s.mgr.pending := by
  unfold given
  refine List.filter_sublist.trans ?_
  cases hcurrent : s.current with
  | none => exact List.nil_sublist _
  | some sn => exact List.singleton_sublist.2 (current_mem hcurrent)

/-- The list of one thread changes; another packet has as many holders as before. -/
theorem holders_of_ne {ths : Threads} {s v : DispatchState μ} {t a : ℕ}
    (hother : ∀ u, u ≠ t → v.pending u = s.pending u)
    (hself : a ∈ v.pending t ↔ a ∈ s.pending t) : v.holders ths a = s.holders ths a := by
  refine List.countP_congr fun u _ => ?_
  by_cases hu : u = t
  · subst hu
    simpa using hself
  · rw [hother u hu]

/-- A thread gets a packet, which has one more holder. -/
theorem holders_succ {ths : Threads} {s v : DispatchState μ} {t sn : ℕ} (ht : t ∈ ths.all)
    (hother : ∀ u, u ≠ t → v.pending u = s.pending u) (hnew : sn ∉ s.pending t)
    (hself : sn ∈ v.pending t) : v.holders ths sn = s.holders ths sn + 1 :=
  countP_succ_of_nodup ths.nodup ht (fun u hu => by rw [hother u hu]) (decide_eq_false hnew)
    (decide_eq_true hself)

end DispatchState

/-! ### The invariant -/

/-- The invariant of the process.  The packets `opened` are those that the manager has handed out. -/
structure DispatchInv (ths : Threads) (isCmd : μ → Bool) (s : DispatchState μ)
    (opened : List ℕ) : Prop where
  /-- The manager works in the order of dispatch. -/
  dispatched : s.dispatched = opened ++ s.mgr.pending
  nodup : s.dispatched.Nodup
  fresh : ∀ sn, s.nextSn ≤ sn → s.packets sn = none
  old : ∀ sn ∈ s.dispatched, sn < s.nextSn
  /-- A thread was given the packets that were handed out and are for it. -/
  handed : ∀ t, s.handed t = (opened.filter fun sn => t ∈ s.assigned sn) ++ s.given t
  /-- The loop gives the packet to the threads that remain. -/
  working : ∀ ts, s.work = some ts → ∃ sn rest, s.mgr.ahead = sn :: rest ∧ ts <:+ s.assigned sn
  targets : ∀ sn msg, sn ∈ opened ∨ s.current = some sn → s.messages sn = some msg →
    ths.IsTargets (isCmd msg) (s.assigned sn)
  messages : ∀ sn p, s.packets sn = some p → s.messages sn = some p.msg
  made : ∀ sn ∈ s.dispatched, (s.messages sn).isSome = true
  logged : ∀ e ∈ s.log, s.messages e.2.1 = some e.2.2
  /-- A packet is open behind the last thread. -/
  isOpen : ∀ sn p, s.packets sn = some p → (p.isRefOpen = true ↔ sn ∈ opened)
  /-- The count of a packet is the number of threads that have to handle it. -/
  ref : ∀ sn p, s.packets sn = some p → p.ref = s.holders ths sn
  removes : ∀ sn ∈ s.removes, ∃ p, s.packets sn = some p ∧ p.canBack2Pool = true
  /-- What the manager and the threads have to handle is in use. -/
  inUse : ∀ sn ∈ s.mgr.pending, (s.packets sn).isSome = true
  held : ∀ t, ∀ sn ∈ s.pending t, (s.packets sn).isSome = true

namespace DispatchInv

variable {ths : Threads} {isCmd : μ → Bool} {s v : DispatchState μ} {opened : List ℕ}

theorem start : DispatchInv ths isCmd (.start : DispatchState μ) [] where
  dispatched := rfl
  nodup := List.nodup_nil
  fresh := fun _ _ => rfl
  old := by
    intro sn h
    cases h
  handed := fun _ => rfl
  working := by
    intro ts h
    cases h
  targets := by
    intro sn msg _ h
    cases h
  messages := by
    intro sn p h
    cases h
  made := by
    intro sn h
    cases h
  logged := by
    intro e h
    cases h
  isOpen := by
    intro sn p h
    cases h
  ref := by
    intro sn p h
    cases h
  removes := by
    intro sn h
    cases h
  inUse := by
    intro sn h
    cases h
  held := by
    intro t sn h
    cases h

/-- **A thread handles its packets in the order of dispatch**, and none of them twice. -/
theorem handed_sublist (h : DispatchInv ths isCmd s opened) (t : ℕ) :
    (s.handed t).Sublist s.dispatched := by
  rw [h.handed, h.dispatched]
  exact List.filter_sublist.append (s.given_sublist t)

theorem handed_nodup (h : DispatchInv ths isCmd s opened) (t : ℕ) : (s.handed t).Nodup :=
  h.nodup.sublist (h.handed_sublist t)

/-- What was handed out is not pending any more. -/
theorem not_mem_pending (h : DispatchInv ths isCmd s opened) {sn : ℕ} (ho : sn ∈ opened) :
    sn ∉ s.mgr.pending := by
  have hnodup := h.nodup
  rw [h.dispatched] at hnodup
  exact fun hp => (List.nodup_append.1 hnodup).2.2 sn ho sn hp rfl

/-- A packet that a thread was given was handed out to it. -/
theorem of_mem_handed (h : DispatchInv ths isCmd s opened) {t sn : ℕ} (hmem : sn ∈ s.handed t) :
    (sn ∈ opened ∨ s.current = some sn) ∧ t ∈ s.assigned sn := by
  rw [h.handed] at hmem
  rcases List.mem_append.1 hmem with ho | hg
  · obtain ⟨ho, ht⟩ := List.mem_filter.1 ho
    exact ⟨.inl ho, of_decide_eq_true ht⟩
  · unfold DispatchState.given at hg
    obtain ⟨hc, ht⟩ := List.mem_filter.1 hg
    exact ⟨.inr (Option.mem_toList.1 hc), (of_decide_eq_true ht).1⟩

/-- Only the threads of the process are given packets. -/
theorem mem_all (h : DispatchInv ths isCmd s opened) {t sn : ℕ} (hmem : sn ∈ s.handed t) :
    t ∈ ths.all := by
  obtain ⟨hbegun, ht⟩ := h.of_mem_handed hmem
  obtain ⟨msg, hmsg⟩ :=
    Option.isSome_iff_exists.1 (h.made sn ((h.handed_sublist t).subset hmem))
  exact (h.targets sn msg hbegun hmsg).subset t ht

/-- A packet that can go back to the pool is one that no one has to handle. -/
theorem of_canBack2Pool (h : DispatchInv ths isCmd s opened) {sn : ℕ} {p : RefPacket μ}
    (hp : s.packets sn = some p) (hback : p.canBack2Pool = true) :
    sn ∉ s.mgr.pending ∧ ∀ t, sn ∉ s.pending t := by
  obtain ⟨hopen, hzero⟩ := Bool.and_eq_true_iff.1 hback
  refine ⟨h.not_mem_pending ((h.isOpen sn p hp).1 hopen), fun t ht => ?_⟩
  have hall : t ∈ ths.all := h.mem_all (List.mem_append_right _ ht)
  have hpos : 0 < s.holders ths sn := List.countP_pos_iff.2 ⟨t, hall, decide_eq_true ht⟩
  have href := h.ref sn p hp
  rw [eq_of_beq hzero] at href
  omega

/-! ### A packet that changes -/

theorem fresh_update (h : DispatchInv ths isCmd s opened) {sn : ℕ} {p : RefPacket μ}
    (hp : s.packets sn = some p) (q : RefPacket μ) {a : ℕ} (ha : s.nextSn ≤ a) :
    Function.update s.packets sn (some q) a = none := by
  have hne : a ≠ sn := by
    rintro rfl
    rw [h.fresh a ha] at hp
    cases hp
  rw [Function.update_of_ne hne]
  exact h.fresh a ha

theorem messages_update (h : DispatchInv ths isCmd s opened) {sn : ℕ} {p q : RefPacket μ}
    (hp : s.packets sn = some p) {a : ℕ} {r : RefPacket μ}
    (hr : Function.update s.packets sn (some q) a = some r) (hmsg : q.msg = p.msg) :
    s.messages a = some r.msg := by
  rcases of_update_some hr with ⟨rfl, rfl⟩ | ⟨-, hr'⟩
  · rw [hmsg]
    exact h.messages a p hp
  · exact h.messages a r hr'

/-- What is freed is not a packet that someone has to handle. -/
theorem removes_update (h : DispatchInv ths isCmd s opened) {sn : ℕ}
    (hheld : sn ∈ s.mgr.pending ∨ ∃ t, sn ∈ s.pending t) (q : RefPacket μ) {a : ℕ}
    (ha : a ∈ s.removes) :
    ∃ r, Function.update s.packets sn (some q) a = some r ∧ r.canBack2Pool = true := by
  obtain ⟨r, hr, hback⟩ := h.removes a ha
  have hne : a ≠ sn := by
    rintro rfl
    rcases hheld with hmgr | ⟨t, ht⟩
    · exact (h.of_canBack2Pool hr hback).1 hmgr
    · exact (h.of_canBack2Pool hr hback).2 t ht
  exact ⟨r, by rw [Function.update_of_ne hne, hr], hback⟩

/-! ### The steps -/

theorem mallocPacket (h : DispatchInv ths isCmd s opened) (msg : μ) :
    DispatchInv ths isCmd (s.mallocPacket msg) opened := by
  -- the serial number is new
  have hnew : ∀ sn, (s.packets sn).isSome = true → sn ≠ s.nextSn := by
    rintro sn hsome rfl
    rw [h.fresh _ (Nat.le_refl _)] at hsome
    cases hsome
  have hpackets : ∀ sn p, (s.mallocPacket msg).packets sn = some p →
      (sn = s.nextSn ∧ p = ⟨msg, 0, false⟩) ∨ (sn ≠ s.nextSn ∧ s.packets sn = some p) :=
    fun sn p hp => of_update_some hp
  have hmessages : ∀ sn, sn ≠ s.nextSn → (s.mallocPacket msg).messages sn = s.messages sn :=
    fun sn hsn => Function.update_of_ne hsn ..
  have hold : ∀ sn ∈ s.dispatched, sn ≠ s.nextSn := fun sn hsn => Nat.ne_of_lt (h.old sn hsn)
  have hkeep : ∀ sn, (s.packets sn).isSome = true →
      ((s.mallocPacket msg).packets sn).isSome = true :=
    fun _ hsome => isSome_update_some _ _ hsome
  have hnotOpened : s.nextSn ∉ opened := fun ho =>
    hold _ (by rw [h.dispatched]; exact List.mem_append_left _ ho) rfl
  refine { h with
    fresh := fun sn hsn => ?_
    old := fun sn hsn => Nat.lt_succ_of_lt (h.old sn hsn)
    targets := fun sn m hbegun hm => ?_
    messages := fun sn p hp => ?_
    made := fun sn hsn => ?_
    logged := fun e he => ?_
    isOpen := fun sn p hp => ?_
    ref := fun sn p hp => ?_
    removes := fun sn hsn => ?_
    inUse := fun sn hsn => hkeep sn (h.inUse sn hsn)
    held := fun t sn hsn => hkeep sn (h.held t sn hsn) }
  · have hle : s.nextSn + 1 ≤ sn := hsn
    exact (Function.update_of_ne (by omega) ..).trans (h.fresh sn (by omega))
  · have hsn : sn ∈ s.dispatched := by
      rw [h.dispatched]
      rcases hbegun with ho | hc
      · exact List.mem_append_left _ ho
      · exact List.mem_append_right _ (DispatchState.current_mem hc)
    rw [hmessages sn (hold sn hsn)] at hm
    exact h.targets sn m hbegun hm
  · rcases hpackets sn p hp with ⟨rfl, rfl⟩ | ⟨hne, hp'⟩
    · exact Function.update_self ..
    · rw [hmessages sn hne]
      exact h.messages sn p hp'
  · rw [hmessages sn (hold sn hsn)]
    exact h.made sn hsn
  · have hne : e.2.1 ≠ s.nextSn := by
      have hmem : e.2.1 ∈ s.handed e.1 :=
        List.mem_append_left _ (List.mem_filterMap.2 ⟨e, he, if_pos rfl⟩)
      exact hold _ ((h.handed_sublist e.1).subset hmem)
    rw [hmessages _ hne]
    exact h.logged e he
  · rcases hpackets sn p hp with ⟨rfl, rfl⟩ | ⟨-, hp'⟩
    · exact ⟨fun hopen => (Bool.false_ne_true hopen).elim, fun ho => (hnotOpened ho).elim⟩
    · exact h.isOpen sn p hp'
  · rcases hpackets sn p hp with ⟨rfl, rfl⟩ | ⟨-, hp'⟩
    · -- no thread has it
      have hzero : s.holders ths s.nextSn = 0 := by
        refine List.countP_eq_zero.2 fun t _ ht => ?_
        have hmem : s.nextSn ∈ s.handed t := List.mem_append_right _ (of_decide_eq_true ht)
        exact hold _ ((h.handed_sublist t).subset hmem) rfl
      have hsame : (s.mallocPacket msg).holders ths s.nextSn = s.holders ths s.nextSn := rfl
      rw [hsame, hzero]
      rfl
    · exact h.ref sn p hp'
  · obtain ⟨p, hp, hback⟩ := h.removes sn hsn
    exact ⟨p, (Function.update_of_ne (hnew sn (by rw [hp]; rfl)) ..).trans hp, hback⟩

theorem dispatchPacket (h : DispatchInv ths isCmd s opened) {sn : ℕ}
    (hv : s.dispatchPacket sn = some v) : DispatchInv ths isCmd v opened := by
  obtain ⟨hsome, hnew, rfl⟩ := DispatchState.of_dispatchPacket hv
  obtain ⟨p, hp⟩ := Option.isSome_iff_exists.1 hsome
  refine { h with
    dispatched := ?_
    nodup := List.nodup_append.2 ⟨h.nodup, List.nodup_singleton sn, fun a ha b hb hab => ?_⟩
    old := fun a ha => ?_
    made := fun a ha => ?_
    inUse := fun a ha => ?_ }
  · rw [PacketList.pending_push, h.dispatched, List.append_assoc]
  · rw [hab, List.mem_singleton.1 hb] at ha
    exact hnew ha
  · rcases List.mem_append.1 ha with hold | hlast
    · exact h.old a hold
    · rw [List.mem_singleton.1 hlast]
      by_contra hlt
      rw [h.fresh sn (Nat.le_of_not_lt hlt)] at hp
      cases hp
  · rcases List.mem_append.1 ha with hold | hlast
    · exact h.made a hold
    · rw [List.mem_singleton.1 hlast]
      exact Option.isSome_iff_exists.2 ⟨p.msg, h.messages sn p hp⟩
  · rw [PacketList.pending_push] at ha
    rcases List.mem_append.1 ha with hold | hlast
    · exact h.inUse a hold
    · rw [List.mem_singleton.1 hlast]
      exact hsome

/-- The loop of the manager has no packet if nothing is ahead of it. -/
theorem work_eq_none (h : DispatchInv ths isCmd s opened) (hahead : s.mgr.ahead = []) :
    s.work = none := by
  cases hwork : s.work with
  | none => rfl
  | some ts =>
    obtain ⟨sn, rest, hmgr, -⟩ := h.working ts hwork
    rw [hahead] at hmgr
    cases hmgr

/-- The manager begins or ends, between two of its loops. -/
theorem withMgr (h : DispatchInv ths isCmd s opened) (hahead : s.mgr.ahead = []) {mgr : PacketList}
    (hpending : mgr.pending = s.mgr.pending) : DispatchInv ths isCmd { s with mgr := mgr } opened := by
  have hwork := h.work_eq_none hahead
  have hcurrent : ({ s with mgr := mgr } : DispatchState μ).current = none :=
    DispatchState.current_of_none hwork
  refine { h with
    dispatched := by rw [h.dispatched, hpending]
    handed := fun t => ?_
    working := fun ts hts => ?_
    targets := fun sn msg hbegun => ?_
    inUse := fun sn hsn => h.inUse sn (hpending ▸ hsn) }
  · have hhanded := h.handed t
    rw [DispatchState.given_of_none (DispatchState.current_of_none hwork)] at hhanded
    rw [DispatchState.given_of_none hcurrent]
    exact hhanded
  · rw [hwork] at hts
    cases hts
  · rcases hbegun with ho | hc
    · exact h.targets sn msg (.inl ho)
    · rw [hcurrent] at hc
      cases hc

/-- The loop of a thread begins or ends. -/
theorem withList (h : DispatchInv ths isCmd s opened) {t : ℕ} {l : PacketList}
    (hpending : l.pending = (s.lists t).pending) :
    DispatchInv ths isCmd { s with lists := Function.update s.lists t l } opened := by
  have hsame : ∀ u, ({ s with lists := Function.update s.lists t l } : DispatchState μ).pending u =
      s.pending u := by
    intro u
    unfold DispatchState.pending
    by_cases hu : u = t
    · subst hu
      simp only [Function.update_self]
      exact hpending
    · simp only [Function.update_of_ne hu]
  refine { h with
    handed := fun u => ?_
    ref := fun sn p hp => ?_
    held := fun u sn hsn => h.held u sn (hsame u ▸ hsn) }
  · have hhanded := h.handed u
    unfold DispatchState.handed at hhanded ⊢
    rw [hsame u]
    exact hhanded
  · rw [h.ref sn p hp]
    unfold DispatchState.holders
    simp only [hsame]

theorem nextPacket (h : DispatchInv ths isCmd s opened) (hv : s.nextPacket ths isCmd = some v) :
    DispatchInv ths isCmd v opened := by
  obtain ⟨sn, rest, p, hwork, hahead, hp, hv⟩ := DispatchState.of_nextPacket hv
  have hpending : sn ∈ s.mgr.pending := by
    unfold PacketList.pending
    rw [hahead]
    exact List.mem_append_left _ (List.mem_cons_self ..)
  have hnot : ∀ a ∈ opened, a ≠ sn := fun a ha heq => h.not_mem_pending ha (heq ▸ hpending)
  have hnone := DispatchState.current_of_none hwork
  -- no thread has got the packet yet
  have hwork' : v.work = some (ths.targets (isCmd p.msg) s.nextThreadSn) := by rw [hv]
  have hahead' : v.mgr.ahead = sn :: rest := by
    rw [hv]
    exact hahead
  have hassigned : v.assigned = Function.update s.assigned sn
      (ths.targets (isCmd p.msg) s.nextThreadSn) := by rw [hv]
  have hself : v.assigned sn = ths.targets (isCmd p.msg) s.nextThreadSn := by
    rw [hassigned, Function.update_self]
  have hcurrent : v.current = some sn := DispatchState.current_of_some hwork' hahead'
  have hgiven : ∀ t, v.given t = [] := by
    intro t
    rw [DispatchState.given_of_some hcurrent, hassigned, Function.update_self]
    unfold DispatchState.remaining
    rw [hwork', Option.getD_some, if_neg fun hboth => hboth.2 hboth.1]
  have hfilter : ∀ t, (opened.filter fun a => t ∈ v.assigned a) =
      opened.filter fun a => t ∈ s.assigned a := fun t =>
    List.filter_congr fun a ha => by rw [hassigned, Function.update_of_ne (hnot a ha)]
  subst hv
  refine { h with
    handed := fun t => ?_
    working := fun ts hts => ?_
    targets := fun a msg hbegun hmsg => ?_ }
  · have hhanded := h.handed t
    rw [DispatchState.given_of_none hnone] at hhanded
    rw [hgiven, hfilter]
    exact hhanded
  · obtain rfl := Option.some.inj hts
    refine ⟨sn, rest, hahead, ?_⟩
    exact ⟨[], hself.symm⟩
  · rcases hbegun with ho | hc
    · rw [hassigned, Function.update_of_ne (hnot a ho)]
      exact h.targets a msg (.inl ho) hmsg
    · obtain rfl : sn = a := Option.some.inj (hcurrent.symm.trans hc)
      have hmsg' : s.messages sn = some msg := hmsg
      rw [h.messages sn p hp] at hmsg'
      rw [← Option.some.inj hmsg', hassigned, Function.update_self]
      exact ths.targets_spec _ _

/-- A packet that a thread has still to be given is not in its list. -/
theorem not_mem_handed (h : DispatchInv ths isCmd s opened) {t sn : ℕ}
    (hcurrent : s.current = some sn) (hremains : t ∈ s.remaining) : sn ∉ s.handed t := by
  rw [h.handed, DispatchState.given_of_some hcurrent, if_neg fun hboth => hboth.2 hremains,
    List.append_nil]
  intro hmem
  exact h.not_mem_pending (List.mem_of_mem_filter hmem) (DispatchState.current_mem hcurrent)

theorem addPacketToList (h : DispatchInv ths isCmd s opened) (hv : s.addPacketToList = some v) :
    DispatchInv ths isCmd v opened := by
  obtain ⟨t, ts, sn, rest, p, hwork, hahead, hp, hv⟩ := DispatchState.of_addPacketToList hv
  have hcurrent := DispatchState.current_of_some hwork hahead
  have hremains : t ∈ s.remaining := by
    unfold DispatchState.remaining
    rw [hwork]
    exact List.mem_cons_self ..
  have hnew := h.not_mem_handed hcurrent hremains
  obtain ⟨a, rest', hahead₁, hsuffix⟩ := h.working _ hwork
  obtain rfl : sn = a := (List.cons.inj (hahead.symm.trans hahead₁)).1
  have htargets : ths.IsTargets (isCmd p.msg) (s.assigned sn) :=
    h.targets sn p.msg (.inr hcurrent) (h.messages sn p hp)
  have htassigned : t ∈ s.assigned sn := hsuffix.subset (List.mem_cons_self ..)
  have htts : t ∉ ts := (List.nodup_cons.1 (htargets.nodup.sublist hsuffix.sublist)).1
  -- what has changed
  have hwork' : v.work = some ts := by rw [hv]
  have hahead' : v.mgr.ahead = sn :: rest := by
    rw [hv]
    exact hahead
  have hassigned : v.assigned = s.assigned := by rw [hv]
  have hcurrent' : v.current = some sn := DispatchState.current_of_some hwork' hahead'
  have hpendingSelf : v.pending t = s.pending t ++ [sn] := by
    rw [hv]
    simp [DispatchState.pending]
  have hpendingOther : ∀ u, u ≠ t → v.pending u = s.pending u := by
    intro u hu
    rw [hv]
    simp [DispatchState.pending, hu]
  have hgivenSelf : v.given t = [sn] := by
    rw [DispatchState.given_of_some hcurrent', hassigned]
    unfold DispatchState.remaining
    rw [hwork', Option.getD_some, if_pos ⟨htassigned, htts⟩]
  have hgivenOther : ∀ u, u ≠ t → v.given u = s.given u := by
    intro u hu
    rw [DispatchState.given_of_some hcurrent', DispatchState.given_of_some hcurrent, hassigned]
    unfold DispatchState.remaining
    rw [hwork, hwork', Option.getD_some, Option.getD_some]
    simp only [List.mem_cons, hu, false_or]
  have hholders : ∀ a, a ≠ sn → v.holders ths a = s.holders ths a := fun a ha =>
    DispatchState.holders_of_ne hpendingOther (by
      rw [hpendingSelf]
      simp [ha])
  have hholdersSelf : v.holders ths sn = s.holders ths sn + 1 :=
    DispatchState.holders_succ (htargets.subset t htassigned) hpendingOther
      (fun hmem => hnew (List.mem_append_right _ hmem)) (by
        rw [hpendingSelf]
        simp)
  subst hv
  refine { h with
    fresh := fun a ha => h.fresh_update hp _ ha
    handed := fun u => ?_
    working := fun us hus => ?_
    targets := fun a msg hbegun => h.targets a msg (hbegun.imp_right fun hc => ?_)
    messages := fun a q hq => h.messages_update hp hq rfl
    isOpen := fun a q hq => ?_
    ref := fun a q hq => ?_
    removes := fun a ha => h.removes_update (.inl (DispatchState.current_mem hcurrent)) _ ha
    inUse := fun a ha => isSome_update_some _ _ (h.inUse a ha)
    held := fun u a ha => ?_ }
  · by_cases hu : u = t
    · subst hu
      have hhanded := h.handed u
      unfold DispatchState.handed at hhanded ⊢
      rw [DispatchState.given_of_some hcurrent, if_neg fun hboth => hboth.2 hremains,
        List.append_nil] at hhanded
      rw [hpendingSelf, hgivenSelf, ← List.append_assoc]
      exact congrArg (· ++ [sn]) hhanded
    · have hhanded := h.handed u
      unfold DispatchState.handed at hhanded ⊢
      rw [hpendingOther u hu, hgivenOther u hu]
      exact hhanded
  · obtain rfl := Option.some.inj hus
    exact ⟨sn, rest, hahead, (List.suffix_cons _ _).trans hsuffix⟩
  · rw [hcurrent]
    exact hcurrent'.symm.trans hc
  · rcases of_update_some hq with ⟨rfl, rfl⟩ | ⟨-, hq'⟩
    · exact h.isOpen a p hp
    · exact h.isOpen a q hq'
  · rcases of_update_some hq with ⟨rfl, rfl⟩ | ⟨hne, hq'⟩
    · have href := h.ref a p hp
      rw [hholdersSelf]
      simp only
      omega
    · rw [hholders a hne]
      exact h.ref a q hq'
  · refine isSome_update_some _ _ ?_
    by_cases hu : u = t
    · subst hu
      rw [hpendingSelf] at ha
      rcases List.mem_append.1 ha with hold | hlast
      · exact h.held u a hold
      · rw [List.mem_singleton.1 hlast, hp]
        rfl
    · rw [hpendingOther u hu] at ha
      exact h.held u a ha

theorem openRef (h : DispatchInv ths isCmd s opened) (hv : s.openRef = some v) :
    ∃ sn, DispatchInv ths isCmd v (opened ++ [sn]) := by
  obtain ⟨sn, rest, p, hwork, hahead, hp, hv⟩ := DispatchState.of_openRef hv
  have hcurrent := DispatchState.current_of_some hwork hahead
  have hcurrent' : v.current = none := DispatchState.current_of_none (by rw [hv])
  have hpending : s.mgr.pending = sn :: v.mgr.pending := by
    rw [hv]
    simp [PacketList.pending, hahead]
  refine ⟨sn, ?_⟩
  subst hv
  refine { h with
    dispatched := ?_
    fresh := fun a ha => h.fresh_update hp _ ha
    handed := fun t => ?_
    working := fun ts hts => by cases hts
    targets := fun a msg hbegun hmsg => ?_
    messages := fun a q hq => h.messages_update hp hq rfl
    isOpen := fun a q hq => ?_
    ref := fun a q hq => ?_
    removes := fun a ha => h.removes_update (.inl (DispatchState.current_mem hcurrent)) _ ha
    inUse := fun a ha => isSome_update_some _ _ (h.inUse a ?_)
    held := fun t a ha => isSome_update_some _ _ (h.held t a ha) }
  · rw [h.dispatched, hpending, List.append_assoc]
    rfl
  · -- the packet was given to all its threads
    have hhanded := h.handed t
    rw [DispatchState.given_of_some hcurrent] at hhanded
    unfold DispatchState.remaining at hhanded
    rw [hwork] at hhanded
    simp only [Option.getD_some, List.not_mem_nil, not_false_eq_true, and_true] at hhanded
    rw [DispatchState.given_of_none hcurrent', List.append_nil, List.filter_append,
      List.filter_singleton]
    simp only [Bool.cond_decide]
    exact hhanded
  · rw [hcurrent'] at hbegun
    have hopen : a ∈ opened ++ [sn] := hbegun.resolve_right (by rintro ⟨⟩)
    rcases List.mem_append.1 hopen with ho | hlast
    · exact h.targets a msg (.inl ho) hmsg
    · rw [List.mem_singleton.1 hlast] at hmsg ⊢
      exact h.targets sn msg (.inr hcurrent) hmsg
  · rcases of_update_some hq with ⟨rfl, rfl⟩ | ⟨hne, hq'⟩
    · exact ⟨fun _ => List.mem_append_right _ (List.mem_singleton_self _), fun _ => rfl⟩
    · rw [h.isOpen a q hq', List.mem_append, List.mem_singleton]
      exact (or_iff_left hne).symm
  · rcases of_update_some hq with ⟨rfl, rfl⟩ | ⟨-, hq'⟩
    · exact h.ref a p hp
    · exact h.ref a q hq'
  · rw [hpending]
    exact List.mem_cons_of_mem _ ha

theorem processPacket (h : DispatchInv ths isCmd s opened) {t : ℕ}
    (hv : s.processPacket t = some v) : DispatchInv ths isCmd v opened := by
  obtain ⟨sn, l, p, hnext, hp, hv⟩ := DispatchState.of_processPacket hv
  have hpending : s.pending t = sn :: l.pending := PacketList.pending_next hnext
  have hheld : sn ∈ s.pending t := by
    rw [hpending]
    exact List.mem_cons_self ..
  have hnodup : (s.pending t).Nodup := (List.nodup_append.1 (h.handed_nodup t)).2.1
  rw [hpending] at hnodup
  obtain ⟨hnot, -⟩ := List.nodup_cons.1 hnodup
  -- what has changed
  have hpendingSelf : v.pending t = l.pending := by
    rw [hv]
    simp [DispatchState.pending]
  have hpendingOther : ∀ u, u ≠ t → v.pending u = s.pending u := by
    intro u hu
    rw [hv]
    simp [DispatchState.pending, hu]
  have hlog : v.log = s.log ++ [(t, sn, p.msg)] := by rw [hv]
  have hhandedSame : ∀ u, v.handed u = s.handed u := by
    intro u
    unfold DispatchState.handed DispatchState.processed
    rw [hlog, List.filterMap_append]
    by_cases hu : u = t
    · subst hu
      rw [hpendingSelf, hpending]
      simp
    · rw [hpendingOther u hu]
      simp [Ne.symm hu]
  have hholders : ∀ a, a ≠ sn → v.holders ths a = s.holders ths a := fun a ha =>
    DispatchState.holders_of_ne hpendingOther (by
      rw [hpendingSelf, hpending]
      simp [ha])
  have hholdersSelf : s.holders ths sn = v.holders ths sn + 1 :=
    DispatchState.holders_succ (h.mem_all (List.mem_append_right _ hheld))
      (fun u hu => (hpendingOther u hu).symm) (by rwa [hpendingSelf]) hheld
  subst hv
  refine { h with
    fresh := fun a ha => h.fresh_update hp _ ha
    handed := fun u => (hhandedSame u).trans (h.handed u)
    messages := fun a q hq => h.messages_update hp hq rfl
    logged := fun e he => ?_
    isOpen := fun a q hq => ?_
    ref := fun a q hq => ?_
    removes := fun a ha => h.removes_update (.inr ⟨t, hheld⟩) _ ha
    inUse := fun a ha => isSome_update_some _ _ (h.inUse a ha)
    held := fun u a ha => isSome_update_some _ _ ?_ }
  · rcases List.mem_append.1 he with hold | hlast
    · exact h.logged e hold
    · rw [List.mem_singleton.1 hlast]
      exact h.messages sn p hp
  · rcases of_update_some hq with ⟨rfl, rfl⟩ | ⟨-, hq'⟩
    · exact h.isOpen a p hp
    · exact h.isOpen a q hq'
  · rcases of_update_some hq with ⟨rfl, rfl⟩ | ⟨hne, hq'⟩
    · have href := h.ref a p hp
      simp only
      omega
    · rw [hholders a hne]
      exact h.ref a q hq'
  · by_cases hu : u = t
    · subst hu
      rw [hpendingSelf] at ha
      exact h.held u a (hpending ▸ List.mem_cons_of_mem _ ha)
    · rw [hpendingOther u hu] at ha
      exact h.held u a ha

/-- **What goes back to the pool is what no one has to handle.** -/
theorem poolSwap (h : DispatchInv ths isCmd s opened) :
    DispatchInv ths isCmd s.poolSwap opened := by
  have hsub : ∀ sn p, s.poolSwap.packets sn = some p → s.packets sn = some p := by
    intro sn p hp
    unfold DispatchState.poolSwap at hp
    simp only at hp
    split at hp
    · cases hp
    · exact hp
  have hkeep : ∀ sn, sn ∉ s.removes → s.poolSwap.packets sn = s.packets sn := by
    intro sn hsn
    unfold DispatchState.poolSwap
    simp only
    rw [if_neg fun hboth => hsn hboth.1]
  refine { h with
    fresh := fun sn hsn => ?_
    messages := fun sn p hp => h.messages sn p (hsub sn p hp)
    isOpen := fun sn p hp => h.isOpen sn p (hsub sn p hp)
    ref := fun sn p hp => h.ref sn p (hsub sn p hp)
    removes := fun sn hsn => by cases hsn
    inUse := fun sn hsn => ?_
    held := fun t sn hsn => ?_ }
  · cases hp : s.poolSwap.packets sn with
    | none => rfl
    | some p =>
      have hold := hsub sn p hp
      rw [h.fresh sn hsn] at hold
      cases hold
  · have hnot : sn ∉ s.removes := by
      intro hr
      obtain ⟨p, hp, hback⟩ := h.removes sn hr
      exact (h.of_canBack2Pool hp hback).1 hsn
    rw [hkeep sn hnot]
    exact h.inUse sn hsn
  · have hnot : sn ∉ s.removes := by
      intro hr
      obtain ⟨p, hp, hback⟩ := h.removes sn hr
      exact (h.of_canBack2Pool hp hback).2 t hsn
    rw [hkeep sn hnot]
    exact h.held t sn hsn

theorem freeObject (h : DispatchInv ths isCmd s opened) {sn : ℕ} (hv : s.freeObject sn = some v) :
    DispatchInv ths isCmd v opened := by
  obtain ⟨p, hp, hback, rfl⟩ := DispatchState.of_freeObject hv
  refine { h with removes := fun a ha => ?_ }
  rcases List.mem_append.1 ha with hold | hlast
  · exact h.removes a hold
  · rw [List.mem_singleton.1 hlast]
    exact ⟨p, hp, hback⟩

/-- **One step** keeps the invariant. -/
theorem step (h : DispatchInv ths isCmd s opened) {e : DispatchEvent μ}
    (hv : s.step ths isCmd e = some v) : ∃ opened', DispatchInv ths isCmd v opened' := by
  cases e with
  | mallocPacket msg =>
    obtain rfl := Option.some.inj hv
    exact ⟨opened, h.mallocPacket msg⟩
  | dispatchPacket sn => exact ⟨opened, h.dispatchPacket hv⟩
  | swapPackets =>
    obtain ⟨mgr, hmgr, rfl⟩ := Option.map_eq_some_iff.1 hv
    exact ⟨opened, h.withMgr (PacketList.ahead_of_swap hmgr) (PacketList.pending_swap hmgr)⟩
  | nextPacket => exact ⟨opened, h.nextPacket hv⟩
  | addPacketToList => exact ⟨opened, h.addPacketToList hv⟩
  | openRef =>
    obtain ⟨sn, hopen⟩ := h.openRef hv
    exact ⟨_, hopen⟩
  | clearPackets =>
    obtain ⟨mgr, hmgr, rfl⟩ := Option.map_eq_some_iff.1 hv
    exact ⟨opened, h.withMgr (PacketList.ahead_of_clear hmgr) (PacketList.pending_clear hmgr)⟩
  | swapMessages t =>
    obtain ⟨l, hl, rfl⟩ := Option.map_eq_some_iff.1 hv
    exact ⟨opened, h.withList (PacketList.pending_swap hl)⟩
  | processPacket t => exact ⟨opened, h.processPacket hv⟩
  | clearMessages t =>
    obtain ⟨l, hl, rfl⟩ := Option.map_eq_some_iff.1 hv
    exact ⟨opened, h.withList (PacketList.pending_clear hl)⟩
  | poolSwap =>
    obtain rfl := Option.some.inj hv
    exact ⟨opened, h.poolSwap⟩
  | freeObject sn => exact ⟨opened, h.freeObject hv⟩

/-- **Every run** keeps the invariant. -/
theorem run {es : List (DispatchEvent μ)} (hrun : (dispatchSystem ths isCmd).Run es s) :
    ∃ opened, DispatchInv ths isCmd s opened := by
  refine hrun.invariant (p := fun s => ∃ opened, DispatchInv ths isCmd s opened) ?_ ?_
  · rintro s rfl
    exact ⟨[], .start⟩
  · rintro s e v ⟨opened, h⟩ hstep
    exact h.step hstep

/-- **What a step adds to the history**: nothing, a packet that is dispatched, or one that a thread
has handled. -/
theorem step_history (h : DispatchInv ths isCmd s opened) {e : DispatchEvent μ}
    (hv : s.step ths isCmd e = some v) :
    (v.dispatched = s.dispatched ∧ v.log = s.log ∧
        ∀ sn ∈ s.dispatched, v.messages sn = s.messages sn) ∨
      (∃ sn, e = .dispatchPacket sn ∧ sn ∉ s.dispatched ∧ v.dispatched = s.dispatched ++ [sn] ∧
        v.log = s.log ∧ v.messages = s.messages) ∨
      ∃ t sn msg, e = .processPacket t ∧ v.dispatched = s.dispatched ∧
        v.log = s.log ++ [(t, sn, msg)] ∧ v.messages = s.messages := by
  cases e with
  | mallocPacket msg =>
    obtain rfl := Option.some.inj hv
    exact .inl ⟨rfl, rfl, fun sn hsn => Function.update_of_ne (Nat.ne_of_lt (h.old sn hsn)) ..⟩
  | dispatchPacket sn =>
    obtain ⟨-, hnew, rfl⟩ := DispatchState.of_dispatchPacket hv
    exact .inr (.inl ⟨sn, rfl, hnew, rfl, rfl, rfl⟩)
  | swapPackets =>
    obtain ⟨mgr, -, rfl⟩ := Option.map_eq_some_iff.1 hv
    exact .inl ⟨rfl, rfl, fun _ _ => rfl⟩
  | nextPacket =>
    obtain ⟨_, _, _, -, -, -, rfl⟩ := DispatchState.of_nextPacket hv
    exact .inl ⟨rfl, rfl, fun _ _ => rfl⟩
  | addPacketToList =>
    obtain ⟨_, _, _, _, _, -, -, -, rfl⟩ := DispatchState.of_addPacketToList hv
    exact .inl ⟨rfl, rfl, fun _ _ => rfl⟩
  | openRef =>
    obtain ⟨_, _, _, -, -, -, rfl⟩ := DispatchState.of_openRef hv
    exact .inl ⟨rfl, rfl, fun _ _ => rfl⟩
  | clearPackets =>
    obtain ⟨mgr, -, rfl⟩ := Option.map_eq_some_iff.1 hv
    exact .inl ⟨rfl, rfl, fun _ _ => rfl⟩
  | swapMessages t =>
    obtain ⟨l, -, rfl⟩ := Option.map_eq_some_iff.1 hv
    exact .inl ⟨rfl, rfl, fun _ _ => rfl⟩
  | processPacket t =>
    obtain ⟨sn, l, p, -, -, rfl⟩ := DispatchState.of_processPacket hv
    exact .inr (.inr ⟨t, sn, p.msg, rfl, rfl, rfl, rfl⟩)
  | clearMessages t =>
    obtain ⟨l, -, rfl⟩ := Option.map_eq_some_iff.1 hv
    exact .inl ⟨rfl, rfl, fun _ _ => rfl⟩
  | poolSwap =>
    obtain rfl := Option.some.inj hv
    exact .inl ⟨rfl, rfl, fun _ _ => rfl⟩
  | freeObject sn =>
    obtain ⟨p, -, -, rfl⟩ := DispatchState.of_freeObject hv
    exact .inl ⟨rfl, rfl, fun _ _ => rfl⟩

/-! ### What the invariant says -/

/-- The packet at the place of the loop, and the packets behind it. -/
theorem current_append_queued (h : DispatchInv ths isCmd s opened) :
    s.current.toList ++ s.queued = s.mgr.pending := by
  unfold DispatchState.queued
  cases hwork : s.work with
  | none =>
    rw [DispatchState.current_of_none hwork]
    rfl
  | some ts =>
    obtain ⟨sn, rest, hahead, -⟩ := h.working ts hwork
    rw [DispatchState.current_of_some hwork hahead]
    simp [PacketList.pending, hahead]

/-- A thread that is to get the packet at the place of the loop is one of its threads. -/
theorem mem_assigned_of_remaining (h : DispatchInv ths isCmd s opened) {t sn : ℕ}
    (hcurrent : s.current = some sn) (hremains : t ∈ s.remaining) : t ∈ s.assigned sn := by
  unfold DispatchState.remaining at hremains
  cases hwork : s.work with
  | none =>
    rw [DispatchState.current_of_none hwork] at hcurrent
    cases hcurrent
  | some ts =>
    rw [hwork] at hremains
    obtain ⟨a, rest, hahead, hsuffix⟩ := h.working ts hwork
    rw [DispatchState.current_of_some hwork hahead] at hcurrent
    obtain rfl := Option.some.inj hcurrent
    exact hsuffix.subset hremains

/-- **The threads of a packet** have got it, or are just going to. -/
theorem mem_assigned_iff (h : DispatchInv ths isCmd s opened) {t sn : ℕ}
    (hbegun : sn ∈ opened ∨ s.current = some sn) :
    t ∈ s.assigned sn ↔ sn ∈ s.handed t ∨ (s.current = some sn ∧ t ∈ s.remaining) := by
  constructor
  · intro ht
    rw [h.handed]
    rcases hbegun with ho | hc
    · exact .inl (List.mem_append_left _ (List.mem_filter.2 ⟨ho, decide_eq_true ht⟩))
    · by_cases hremains : t ∈ s.remaining
      · exact .inr ⟨hc, hremains⟩
      · refine .inl (List.mem_append_right _ ?_)
        rw [DispatchState.given_of_some hc, if_pos ⟨ht, hremains⟩]
        exact List.mem_singleton_self _
  · rintro (hmem | ⟨hc, hremains⟩)
    · exact (h.of_mem_handed hmem).2
    · exact h.mem_assigned_of_remaining hc hremains

/-- **A thread that gets every packet** has handled, or is going to handle, all that was
dispatched. -/
theorem processed_append_waiting (h : DispatchInv ths isCmd s opened) {t : ℕ}
    (ht : ths.IsShared t) : s.processed t ++ s.waiting t = s.dispatched := by
  have hassigned : ∀ sn, sn ∈ opened ∨ s.current = some sn → t ∈ s.assigned sn := by
    intro sn hbegun
    have hmem : sn ∈ s.dispatched := by
      rw [h.dispatched]
      rcases hbegun with ho | hc
      · exact List.mem_append_left _ ho
      · exact List.mem_append_right _ (DispatchState.current_mem hc)
    obtain ⟨msg, hmsg⟩ := Option.isSome_iff_exists.1 (h.made sn hmem)
    exact (h.targets sn msg hbegun hmsg).shared t ht
  have hfilter : (opened.filter fun sn => t ∈ s.assigned sn) = opened :=
    List.filter_eq_self.2 fun sn ho => decide_eq_true (hassigned sn (.inl ho))
  have hgiven : s.given t ++ (if t ∈ s.remaining then s.current.toList else []) =
      s.current.toList := by
    cases hcurrent : s.current with
    | none =>
      rw [DispatchState.given_of_none hcurrent]
      simp
    | some sn =>
      rw [DispatchState.given_of_some hcurrent]
      by_cases hremains : t ∈ s.remaining
      · rw [if_neg fun hboth => hboth.2 hremains, if_pos hremains]
        rfl
      · rw [if_pos ⟨hassigned sn (.inr hcurrent), hremains⟩, if_neg hremains]
        rfl
  calc s.processed t ++ s.waiting t
      = s.handed t ++ (if t ∈ s.remaining then s.current.toList else []) ++ s.queued := by
        unfold DispatchState.waiting DispatchState.handed
        simp only [List.append_assoc]
    _ = opened ++ (s.given t ++ (if t ∈ s.remaining then s.current.toList else [])) ++
          s.queued := by rw [h.handed, hfilter, List.append_assoc opened]
    _ = opened ++ s.mgr.pending := by
        rw [hgiven, List.append_assoc, h.current_append_queued]
    _ = s.dispatched := h.dispatched.symm

/-- **The loops go on**: no thread, and not the manager, comes to a packet that is back in the
pool. -/
theorem goesOn (h : DispatchInv ths isCmd s opened) :
    (∀ t, (s.lists t).ahead ≠ [] → (s.processPacket t).isSome = true) ∧
      (s.mgr.ahead ≠ [] → ((s.nextPacket ths isCmd).isSome || s.addPacketToList.isSome ||
        s.openRef.isSome) = true) := by
  constructor
  · intro t hahead
    obtain ⟨sn, rest, hlist⟩ := List.exists_cons_of_ne_nil hahead
    have hused := h.held t sn (by
      unfold DispatchState.pending PacketList.pending
      rw [hlist]
      exact List.mem_append_left _ (List.mem_cons_self ..))
    obtain ⟨p, hp⟩ := Option.isSome_iff_exists.1 hused
    unfold DispatchState.processPacket PacketList.next
    rw [hlist]
    simp only [hp]
    rfl
  · intro hahead
    obtain ⟨sn, rest, hlist⟩ := List.exists_cons_of_ne_nil hahead
    have hused := h.inUse sn (by
      unfold PacketList.pending
      rw [hlist]
      exact List.mem_append_left _ (List.mem_cons_self ..))
    obtain ⟨p, hp⟩ := Option.isSome_iff_exists.1 hused
    cases hwork : s.work with
    | none => simp [DispatchState.nextPacket, hwork, hlist, hp]
    | some ts =>
      cases ts with
      | nil => simp [DispatchState.openRef, PacketList.next, hwork, hlist, hp]
      | cons t ts => simp [DispatchState.addPacketToList, hwork, hlist, hp]

end DispatchInv

/-- **Every packet is handled once**, and kept until then. -/
structure DispatchedOnce (ths : Threads) (isCmd : μ → Bool) (s : DispatchState μ) : Prop where
  /-- A thread handles packets in the order of dispatch, and none of them twice. -/
  ordered : ∀ t, (s.processed t ++ s.pending t).Sublist s.dispatched ∧
    (s.processed t ++ s.pending t).Nodup
  /-- It handles what was dispatched. -/
  content : ∀ e ∈ s.log, s.messages e.2.1 = some e.2.2
  /-- The main thread and those of shared collectors handle all packets. -/
  shared : ∀ t, ths.IsShared t → s.processed t ++ s.waiting t = s.dispatched
  /-- One thread of an exclusive collector handles a packet, once the loop of the manager has come
  to it. -/
  exclusive : ∀ c ∈ ths.collectors, c.exclusive = true → ∀ sn ∈ s.dispatched, ∀ msg,
    s.messages sn = some msg → isCmd msg = false → sn ∈ s.queued ∨
      ∃ t ∈ c.threads, (sn ∈ s.handed t ∨ (s.current = some sn ∧ t ∈ s.remaining)) ∧
        ∀ t' ∈ c.threads, sn ∈ s.handed t' ∨ (s.current = some sn ∧ t' ∈ s.remaining) → t' = t
  /-- No packet is back in the pool that a loop will come to. -/
  kept : (∀ t, ∀ sn ∈ s.pending t, (s.packets sn).isSome = true) ∧
    ∀ sn ∈ s.mgr.pending, (s.packets sn).isSome = true
  /-- Behind the loop of the manager, and all threads, a packet can go back. -/
  back : ∀ sn ∈ s.dispatched, sn ∉ s.mgr.pending → (∀ t, sn ∉ s.pending t) →
    ∀ p, s.packets sn = some p → p.canBack2Pool = true
  /-- The loops go on until there is nothing left to handle. -/
  goesOn : (∀ t, (s.lists t).ahead ≠ [] → (s.processPacket t).isSome = true) ∧
    (s.mgr.ahead ≠ [] → ((s.nextPacket ths isCmd).isSome || s.addPacketToList.isSome ||
      s.openRef.isSome) = true)

/-- **Every packet is handled once**, in the order of dispatch in each thread, and kept until then,
in every run of the process. -/
theorem dispatchedOnce_run {ths : Threads} {isCmd : μ → Bool} {es : List (DispatchEvent μ)}
    {s : DispatchState μ} (hrun : (dispatchSystem ths isCmd).Run es s) :
    DispatchedOnce ths isCmd s := by
  obtain ⟨opened, h⟩ := DispatchInv.run hrun
  refine
    { ordered := fun t => ⟨h.handed_sublist t, h.handed_nodup t⟩
      content := h.logged
      shared := fun t ht => h.processed_append_waiting ht
      exclusive := fun c hc hexclusive sn hsn msg hmsg hcmd => ?_
      kept := ⟨h.held, h.inUse⟩
      back := fun sn hsn hmgr hthreads p hp => ?_
      goesOn := h.goesOn }
  · rw [h.dispatched, ← h.current_append_queued] at hsn
    rcases List.mem_append.1 hsn with ho | hrest
    · obtain ⟨t, ht, hmem, honly⟩ := (h.targets sn msg (.inl ho) hmsg).exclusive hcmd c hc hexclusive
      exact .inr ⟨t, ht, (h.mem_assigned_iff (.inl ho)).1 hmem, fun t' ht' hgets =>
        honly t' ht' ((h.mem_assigned_iff (.inl ho)).2 hgets)⟩
    · rcases List.mem_append.1 hrest with hc' | hq
      · have hcurrent : s.current = some sn := Option.mem_toList.1 hc'
        obtain ⟨t, ht, hmem, honly⟩ :=
          (h.targets sn msg (.inr hcurrent) hmsg).exclusive hcmd c hc hexclusive
        exact .inr ⟨t, ht, (h.mem_assigned_iff (.inr hcurrent)).1 hmem, fun t' ht' hgets =>
          honly t' ht' ((h.mem_assigned_iff (.inr hcurrent)).2 hgets)⟩
      · exact .inl hq
  · have ho : sn ∈ opened := by
      rw [h.dispatched] at hsn
      exact (List.mem_append.1 hsn).resolve_right hmgr
    have hzero : s.holders ths sn = 0 :=
      List.countP_eq_zero.2 fun t _ ht => hthreads t (of_decide_eq_true ht)
    have href := h.ref sn p hp
    unfold RefPacket.canBack2Pool
    rw [(h.isOpen sn p hp).2 ho, href, hzero]
    rfl

/-! ### Examples -/

/-- A main thread, one thread of a shared collector, and two of an exclusive one. -/
def Threads.four : Threads where
  main := 0
  collectors := [⟨false, [1], by decide⟩, ⟨true, [2, 3], by decide⟩]
  nodup := by decide

/-- Two packets are made, dispatched, and given to the threads that get them. -/
def dispatchTwo : List (DispatchEvent Bool) :=
  [.mallocPacket false, .mallocPacket false, .dispatchPacket 1, .dispatchPacket 0, .swapPackets] ++
    [.nextPacket, .addPacketToList, .addPacketToList, .addPacketToList, .openRef] ++
    [.nextPacket, .addPacketToList, .addPacketToList, .addPacketToList, .openRef] ++
    [.clearPackets]

/-- A thread works its list off. -/
def workOff (t n : ℕ) : List (DispatchEvent Bool) :=
  .swapMessages t :: List.replicate n (.processPacket t) ++ [.clearMessages t]

/-- The second packet was dispatched first; each of the exclusive threads gets one of the two. -/
theorem dispatchedOnce_two : ∃ s : DispatchState Bool,
    (dispatchSystem .four id).Run
      (dispatchTwo ++ workOff 1 2 ++ workOff 3 1 ++ workOff 2 1 ++ workOff 0 2) s ∧
    DispatchedOnce .four id s ∧
    (s.processed 0, s.processed 1, s.processed 2, s.processed 3) = ([1, 0], [1, 0], [1], [0]) := by
  have hrun : (Transition.System.execute (DispatchState.step .four id) (fun _ _ => True) .start
      (dispatchTwo ++ workOff 1 2 ++ workOff 3 1 ++ workOff 2 1 ++ workOff 0 2)).map (fun s =>
        (s.processed 0, s.processed 1, s.processed 2, s.processed 3)) =
      some ([1, 0], [1, 0], [1], [0]) := by
    decide
  obtain ⟨s, hs, hprocessed⟩ := Option.map_eq_some_iff.1 hrun
  have hevents : (dispatchSystem .four id).Run
      (dispatchTwo ++ workOff 1 2 ++ workOff 3 1 ++ workOff 2 1 ++ workOff 0 2) s :=
    Transition.System.run_of_execute_true rfl hs
  exact ⟨s, hevents, dispatchedOnce_run hevents, hprocessed⟩

/-- A packet is in use as long as a list of a thread has its pointer, handled or not. -/
def KeptInLists (s : DispatchState μ) : Prop :=
  ∀ t, ∀ sn ∈ (s.lists t).reader ++ (s.lists t).writer, (s.packets sn).isSome = true

/-- The thread 1 has handled the first of two packets, and the others have handled both; the pool is
updated twice. -/
def freeEarly : List (DispatchEvent Bool) :=
  dispatchTwo ++ workOff 3 1 ++ workOff 2 1 ++ workOff 0 2 ++
    [.swapMessages 1, .processPacket 1, .poolSwap, .freeObject 1, .poolSwap]

/-- **A list keeps the pointers that its loop has passed** until the loop is over, while their
packets are back in the pool. -/
theorem not_kept_in_list : ¬ ∀ (ths : Threads) (isCmd : Bool → Bool)
    (es : List (DispatchEvent Bool)) (s : DispatchState Bool),
    (dispatchSystem ths isCmd).Run es s → KeptInLists s := by
  intro hall
  have hrun : (Transition.System.execute (DispatchState.step .four id) (fun _ _ => True) .start
      freeEarly).map (fun s => ((s.lists 1).passed, (s.packets 1).isSome)) =
      some ([1], false) := by
    decide
  obtain ⟨s, hs, hafter⟩ := Option.map_eq_some_iff.1 hrun
  obtain ⟨hpassed, hback⟩ := Prod.mk.inj hafter
  have hevents : (dispatchSystem .four id).Run freeEarly s :=
    Transition.System.run_of_execute_true rfl hs
  have hkept := hall .four id freeEarly s hevents 1 1 (by
    unfold PacketList.reader
    rw [hpassed]
    exact List.mem_append_left _ (List.mem_append_left _ (List.mem_singleton_self _)))
  rw [hback] at hkept
  cases hkept

end MmoServer
