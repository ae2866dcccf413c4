/-
**What an update of the timers does.**

`TimerComponent::Update` takes timers out of the heap as long as the first one is due, calls their
handlers and puts them back if they have calls left.  A timer that is put back is due again only if its
time wraps around, so an update ends, and it has called every timer that was due, in the order of their
times.  Where the time does wrap around it need not end.

Main definitions:

* `MmoServer.TimerComponent.round`, `MmoServer.TimerComponent.update` — a round of the loop, and the
  loop, for handlers that leave the timers alone;
* `MmoServer.TimerComponent.Valid`, `MmoServer.TimerComponent.Fits` — the timers that are meant, and
  that no time wraps around;
* `MmoServer.TimerComponent.UpdatesExactly` — what an update is for;
* `MmoServer.TimerComponent.updateSystem` — one update after the other.

Main results:

* `MmoServer.TimerComponent.exists_update` — an update ends, and does exactly that;
* `MmoServer.TimerComponent.countP_fired_le` — no timer fires more often than its total, over any
  number of updates;
* `MmoServer.TimerComponent.update_exact` — **both of them**;
* `MmoServer.TimerComponent.update_eq_none` — at the last time of all an update with an endless timer
  does not end.
-/

import MmoServer.TimerComponent
import MmoServer.Loop
import MmoServer.Transition

set_option relaxedAutoImplicit false
set_option autoImplicit false

namespace MmoServer

variable {Handler : Type}

/-! ### Timers -/

namespace Timer

/-- The time of the timer has come. -/
def isDue (timeTick : UInt64) (t : Timer Handler) : Bool := t.nextTime ≤ timeTick

/-- The timer is not at its last call. -/
def callsLeft (t : Timer Handler) : Bool :=
  t.callCountTotal = 0 ∨ t.callCountCur + 1 < t.callCountTotal

/-- The timer after a call that is not its last one. -/
def again (timeTick : UInt64) (t : Timer Handler) : Timer Handler :=
  { t with
    callCountCur := if t.callCountTotal ≠ 0 then t.callCountCur + 1 else t.callCountCur
    nextTime := addSeconds timeTick t.durationSecond }

theorem rearm_eq (timeTick : UInt64) (t : Timer Handler) :
    t.rearm timeTick = if t.callsLeft then some (t.again timeTick) else none := by
  by_cases htotal : t.callCountTotal = 0
  · simp [rearm, callsLeft, again, htotal]
  · simp [rearm, callsLeft, again, htotal]

/-- Timers with the same number and the same total. -/
def same (t u : Timer Handler) : Bool := u.sn = t.sn ∧ u.callCountTotal = t.callCountTotal

@[simp] theorem same_self (t : Timer Handler) : t.same t = true := by simp [same]

@[simp] theorem same_again (timeTick : UInt64) (t u : Timer Handler) :
    t.same (u.again timeTick) = t.same u := rfl

/-- How often a timer with an end is still called: once at least. -/
def credit (t : Timer Handler) : ℕ := max 1 (t.callCountTotal - t.callCountCur).toNat

/-- A call uses up some of the credit. -/
theorem credit_again {timeTick : UInt64} {t : Timer Handler} (htotal : 0 < t.callCountTotal)
    (hleft : t.callsLeft = true) : (t.again timeTick).credit + 1 ≤ t.credit := by
  have hcur : t.callCountCur + 1 < t.callCountTotal := by
    simp only [callsLeft, decide_eq_true_eq] at hleft
    omega
  have hne : t.callCountTotal ≠ 0 := by omega
  simp only [credit, again, if_pos hne]
  omega

theorem one_le_credit (t : Timer Handler) : 1 ≤ t.credit := le_max_left _ _

theorem credit_le {t : Timer Handler} (htotal : 0 < t.callCountTotal) (hcur : 0 ≤ t.callCountCur) :
    t.credit ≤ t.callCountTotal.toNat := by
  unfold credit
  omega

end Timer

/-- Some seconds later, where the time does not wrap around. -/
theorem toNat_addSeconds {timeTick : UInt64} {second : ℤ} (hsecond : 0 ≤ second)
    (hfits : (timeTick.toNat : ℤ) + 1000 * second < 2 ^ 64) :
    ((addSeconds timeTick second).toNat : ℤ) = timeTick.toNat + 1000 * second := by
  obtain ⟨n, rfl⟩ := Int.eq_ofNat_of_zero_le hsecond
  have hn : (UInt64.ofInt (n : ℤ)).toNat = n := by
    rw [UInt64.ofInt, UInt64.toNat_ofNat']
    omega
  have h1000 : (1000 : UInt64).toNat = 1000 := rfl
  rw [addSeconds, UInt64.toNat_add, UInt64.toNat_mul, hn, h1000]
  omega

/-! ### The loop -/

/-- An update under way: the timers in the heap, and those whose handlers were called. -/
structure Firing (Handler : Type) where
  timers : TimerComponent Handler
  fired : List (Timer Handler)

namespace TimerComponent

section Update

variable (algs : Heap.Algorithms (@compareTimer Handler))

/-- The timer is put back, unless it has had all its calls. -/
def putBack (c : TimerComponent Handler) (timeTick : UInt64) (data : Timer Handler) :
    TimerComponent Handler :=
  match data.rearm timeTick with
  | none => c
  | some data => c.insert algs data

/-- A round of the loop of `Update`.  The handler leaves the timers alone. -/
def round (timeTick : UInt64) (s : Firing Handler) : Option (Firing Handler) :=
  (s.timers.popTimeHeap algs).map fun (data, timers) =>
    { timers := timers.putBack algs timeTick data
      fired := s.fired ++ [data] }

/-- `Update`, for at most so many rounds. -/
def update (timeTick : UInt64) (fuel : ℕ) (s : Firing Handler) : Option (Firing Handler) :=
  Loop.run (fun s => s.timers.checkTime timeTick) (round algs timeTick) fuel s

/-- One update after the other, each at its own time. -/
def updateSystem (c : TimerComponent Handler) : Transition.System (Firing Handler) UInt64 where
  init s := s = ⟨c, []⟩
  step s timeTick t := ∃ fuel, update algs timeTick fuel s = some t

end Update

/-- Timers that are called again after a second at least, some number of times or without an end. -/
structure Valid (c : TimerComponent Handler) : Prop where
  duration : ∀ t ∈ c.heap, 1 ≤ t.durationSecond
  total : ∀ t ∈ c.heap, 0 ≤ t.callCountTotal
  cur : ∀ t ∈ c.heap, 0 ≤ t.callCountCur

/-- No timer that is put back has a time that wraps around. -/
def Fits (c : TimerComponent Handler) (timeTick : UInt64) : Prop :=
  ∀ t ∈ c.heap, t.isDue timeTick = true → t.callsLeft = true →
    (timeTick.toNat : ℤ) + 1000 * t.durationSecond < 2 ^ 64

/-- **What an update is for.** -/
structure UpdatesExactly (c : TimerComponent Handler) (timeTick : UInt64) (s : Firing Handler) :
    Prop where
  /-- Those that were due have fired, each of them once. -/
  fired : s.fired.Perm (c.heap.filter fun t => t.isDue timeTick)
  sorted : s.fired.Pairwise fun t u => t.nextTime ≤ u.nextTime
  /-- The others are still there, and those with calls left again. -/
  left : s.timers.heap.Perm ((c.heap.filter fun t => !t.isDue timeTick) ++
    (s.fired.filter Timer.callsLeft).map (Timer.again timeTick))
  later : ∀ t ∈ s.fired, t.callsLeft = true →
    (((t.again timeTick).nextTime.toNat : ℕ) : ℤ) = timeTick.toNat + 1000 * t.durationSecond

variable {algs : Heap.Algorithms (@compareTimer Handler)} {c : TimerComponent Handler}
  {timeTick : UInt64} {s s' : Firing Handler}

/-! ### One round -/

/-- The first timer is the one with the next call. -/
theorem nextTime_le {a : Timer Handler} {l : List (Timer Handler)} (h : c.heap = a :: l)
    {t : Timer Handler} (ht : t ∈ c.heap) : a.nextTime ≤ t.nextTime := by
  have hheap : Heap.IsHeap compareTimer (a :: l) := h ▸ c.isHeap
  have hmem : t ∈ a :: l := h ▸ ht
  have hirrefl : ∀ t : Timer Handler, ¬ compareTimer t t := fun t => UInt64.lt_irrefl t.nextTime
  have htrans : ∀ t u v : Timer Handler, ¬ compareTimer t u → ¬ compareTimer u v →
      ¬ compareTimer t v := fun t u v htu huv =>
    UInt64.not_lt.2 (UInt64.le_trans (UInt64.not_lt.1 htu) (UInt64.not_lt.1 huv))
  exact UInt64.not_lt.1 (hheap.not_comp_head hirrefl htrans hmem)

theorem heap_putBack_perm (algs : Heap.Algorithms (@compareTimer Handler))
    (c : TimerComponent Handler) (timeTick : UInt64) (data : Timer Handler) :
    (c.putBack algs timeTick data).heap.Perm
      (c.heap ++ ([data].filter Timer.callsLeft).map (Timer.again timeTick)) := by
  unfold putBack
  rw [Timer.rearm_eq]
  cases hleft : data.callsLeft with
  | true => simpa [hleft] using heap_insert_perm algs c (data.again timeTick)
  | false => simp [hleft]

/-- **A round of the loop**: the timer with the next call is taken out, and put back. -/
theorem exists_round (algs : Heap.Algorithms (@compareTimer Handler))
    (h : s.timers.checkTime timeTick = true) :
    ∃ (data : Timer Handler) (rest : TimerComponent Handler),
      round algs timeTick s = some ⟨rest.putBack algs timeTick data, s.fired ++ [data]⟩ ∧
        s.timers.heap.Perm (data :: rest.heap) ∧ data.isDue timeTick = true ∧
        ∀ t ∈ s.timers.heap, data.nextTime ≤ t.nextTime := by
  unfold checkTime at h
  cases hheap : s.timers.heap with
  | nil => simp [hheap] at h
  | cons data l =>
    obtain ⟨rest, hpop, hperm⟩ := popTimeHeap_eq algs hheap
    refine ⟨data, rest, by rw [round, hpop]; rfl, (hperm.cons data).symm, ?_, ?_⟩
    · simpa [hheap, Timer.isDue] using h
    · intro t ht
      exact nextTime_le hheap (hheap ▸ ht)

/-- Where the loop ends no timer is due. -/
theorem not_isDue_of_checkTime (h : c.checkTime timeTick = false) {t : Timer Handler}
    (ht : t ∈ c.heap) : t.isDue timeTick = false := by
  unfold checkTime at h
  cases hheap : c.heap with
  | nil =>
    rw [hheap] at ht
    cases ht
  | cons data l =>
    have hdata : timeTick < data.nextTime := by simpa [hheap] using h
    have hlt : timeTick < t.nextTime := UInt64.lt_of_lt_of_le hdata (nextTime_le hheap ht)
    simpa [Timer.isDue] using hlt

/-! ### The whole loop -/

/-- What holds before every round. -/
structure Underway (c : TimerComponent Handler) (timeTick : UInt64) (s : Firing Handler) : Prop where
  due : (s.fired ++ s.timers.heap.filter fun t => t.isDue timeTick).Perm
    (c.heap.filter fun t => t.isDue timeTick)
  left : (s.timers.heap.filter fun t => !t.isDue timeTick).Perm
    ((c.heap.filter fun t => !t.isDue timeTick) ++
      (s.fired.filter Timer.callsLeft).map (Timer.again timeTick))
  sorted : s.fired.Pairwise fun t u => t.nextTime ≤ u.nextTime
  before : ∀ t ∈ s.fired, ∀ u ∈ s.timers.heap, u.isDue timeTick = true → t.nextTime ≤ u.nextTime

theorem underway_start (c : TimerComponent Handler) (timeTick : UInt64) :
    Underway c timeTick ⟨c, []⟩ where
  due := .refl _
  left := by simp
  sorted := .nil
  before t ht := by cases ht

/-- A timer that is put back is not due. -/
theorem not_isDue_again (hvalid : c.Valid) (hfits : c.Fits timeTick) {t : Timer Handler}
    (ht : t ∈ c.heap) (hdue : t.isDue timeTick = true) (hleft : t.callsLeft = true) :
    (t.again timeTick).isDue timeTick = false := by
  have hduration := hvalid.duration t ht
  have hnext := toNat_addSeconds (by omega) (hfits t ht hdue hleft)
  have hlt : timeTick < addSeconds timeTick t.durationSecond := by
    rw [UInt64.lt_iff_toNat_lt]
    omega
  simpa [Timer.isDue, Timer.again] using hlt

/-- **A round keeps it, and one timer less is due.** -/
theorem Underway.round (hvalid : c.Valid) (hfits : c.Fits timeTick) (h : Underway c timeTick s)
    (hcheck : s.timers.checkTime timeTick = true) :
    ∃ t, TimerComponent.round algs timeTick s = some t ∧ Underway c timeTick t ∧
      (t.timers.heap.filter fun t => t.isDue timeTick).length <
        (s.timers.heap.filter fun t => t.isDue timeTick).length := by
  obtain ⟨data, rest, hround, hperm, hdue, hfirst⟩ := exists_round algs hcheck
  have hput := heap_putBack_perm algs rest timeTick data
  have hmem : data ∈ c.heap := by
    have hfilter : data ∈ s.timers.heap.filter fun t => t.isDue timeTick :=
      List.mem_filter.2 ⟨hperm.mem_iff.2 (.head _), hdue⟩
    exact (List.mem_filter.1 (h.due.mem_iff.1 (List.mem_append_right _ hfilter))).1
  -- what is put back is not due
  have hagain : ∀ u ∈ ([data].filter Timer.callsLeft).map (Timer.again timeTick),
      u.isDue timeTick = false := by
    intro u hu
    obtain ⟨v, hv, rfl⟩ := List.mem_map.1 hu
    obtain ⟨hv, hleft⟩ := List.mem_filter.1 hv
    obtain rfl := List.mem_singleton.1 hv
    exact not_isDue_again hvalid hfits hmem hdue hleft
  have hnone : (([data].filter Timer.callsLeft).map (Timer.again timeTick)).filter
      (fun t => t.isDue timeTick) = [] :=
    List.filter_eq_nil_iff.2 fun u hu => by simp [hagain u hu]
  have hall : (([data].filter Timer.callsLeft).map (Timer.again timeTick)).filter
      (fun t => !t.isDue timeTick) = ([data].filter Timer.callsLeft).map (Timer.again timeTick) :=
    List.filter_eq_self.2 fun u hu => by simp [hagain u hu]
  have hbefore : (s.timers.heap.filter fun t => t.isDue timeTick).Perm
      (data :: rest.heap.filter fun t => t.isDue timeTick) := by
    have := hperm.filter fun t => t.isDue timeTick
    rwa [List.filter_cons_of_pos hdue] at this
  have hafter : ((rest.putBack algs timeTick data).heap.filter fun t => t.isDue timeTick).Perm
      (rest.heap.filter fun t => t.isDue timeTick) := by
    have := hput.filter fun t => t.isDue timeTick
    rwa [List.filter_append, hnone, List.append_nil] at this
  refine ⟨_, hround, ⟨?_, ?_, ?_, ?_⟩, ?_⟩
  · refine .trans ?_ h.due
    rw [List.append_assoc]
    exact (hafter.cons data).append_left s.fired |>.trans (hbefore.symm.append_left s.fired)
  · have hkept : (s.timers.heap.filter fun t => !t.isDue timeTick).Perm
        (rest.heap.filter fun t => !t.isDue timeTick) := by
      have := hperm.filter fun t => !t.isDue timeTick
      rwa [List.filter_cons_of_neg (by simp [hdue])] at this
    have hnew := hput.filter fun t => !t.isDue timeTick
    rw [List.filter_append, hall] at hnew
    rw [List.filter_append, List.map_append, ← List.append_assoc]
    exact hnew.trans ((hkept.symm.trans h.left).append_right _)
  · rw [List.pairwise_append]
    refine ⟨h.sorted, List.pairwise_singleton _ _, fun t ht u hu => ?_⟩
    obtain rfl := List.mem_singleton.1 hu
    exact h.before t ht u (hperm.mem_iff.2 (.head _)) hdue
  · intro t ht u hu hudue
    have hrest : u ∈ s.timers.heap := by
      have : u ∈ rest.heap.filter fun t => t.isDue timeTick :=
        hafter.mem_iff.1 (List.mem_filter.2 ⟨hu, hudue⟩)
      exact hperm.mem_iff.2 (.tail _ (List.mem_filter.1 this).1)
    rcases List.mem_append.1 ht with ht | ht
    · exact h.before t ht u hrest hudue
    · obtain rfl := List.mem_singleton.1 ht
      exact hfirst u hrest
  · rw [hafter.length_eq, hbefore.length_eq]
    exact Nat.lt_succ_self _

/-- **An update ends, after as many rounds as timers were due, and does what it is for.** -/
theorem exists_update (algs : Heap.Algorithms (@compareTimer Handler)) (hvalid : c.Valid)
    (hfits : c.Fits timeTick) :
    ∃ s, update algs timeTick (c.heap.filter fun t => t.isDue timeTick).length ⟨c, []⟩ = some s ∧
      UpdatesExactly c timeTick s := by
  have hbody : ∀ s : Firing Handler, Underway c timeTick s → s.timers.checkTime timeTick = true →
      ∃ t, round algs timeTick s = some t ∧ Underway c timeTick t ∧
        (t.timers.heap.filter fun t => t.isDue timeTick).length <
          (s.timers.heap.filter fun t => t.isDue timeTick).length :=
    fun s hs hcheck => hs.round hvalid hfits hcheck
  obtain ⟨s, hs, hinv, hcheck⟩ := Loop.exists_run hbody (underway_start c timeTick)
  have hnone : s.timers.heap.filter (fun t => t.isDue timeTick) = [] :=
    List.filter_eq_nil_iff.2 fun t ht => by simp [not_isDue_of_checkTime hcheck ht]
  have hall : s.timers.heap.filter (fun t => !t.isDue timeTick) = s.timers.heap :=
    List.filter_eq_self.2 fun t ht => by simp [not_isDue_of_checkTime hcheck ht]
  have hfired : s.fired.Perm (c.heap.filter fun t => t.isDue timeTick) := by
    have := hinv.due
    rwa [hnone, List.append_nil] at this
  refine ⟨s, hs, hfired, hinv.sorted, hall ▸ hinv.left, fun t ht hleft => ?_⟩
  obtain ⟨htc, hdue⟩ := List.mem_filter.1 (hfired.mem_iff.1 ht)
  have hduration := hvalid.duration t htc
  exact toNat_addSeconds (by omega) (hfits t htc hdue hleft)

/-! ### Timers stay as they are meant -/

theorem Valid.insert (hvalid : c.Valid) {data : Timer Handler} (hduration : 1 ≤ data.durationSecond)
    (htotal : 0 ≤ data.callCountTotal) (hcur : 0 ≤ data.callCountCur) :
    (c.insert algs data).Valid where
  duration t ht := (mem_insert.1 ht).elim (hvalid.duration t) fun h => h ▸ hduration
  total t ht := (mem_insert.1 ht).elim (hvalid.total t) fun h => h ▸ htotal
  cur t ht := (mem_insert.1 ht).elim (hvalid.cur t) fun h => h ▸ hcur

/-- A new timer has had no calls. -/
theorem Valid.add (hvalid : c.Valid) {total durations : ℤ} (hduration : 1 ≤ durations)
    (htotal : 0 ≤ total) (g : Global) (immediateDo : Bool) (immediateDoDelaySecond : ℤ)
    (handler : Handler) :
    (c.add algs g total durations immediateDo immediateDoDelaySecond handler).2.2.Valid :=
  hvalid.insert hduration htotal le_rfl

theorem Valid.round (hvalid : s.timers.Valid) (h : TimerComponent.round algs timeTick s = some s') :
    s'.timers.Valid := by
  obtain ⟨⟨data, rest⟩, hpop, rfl⟩ := Option.map_eq_some_iff.1 h
  have hperm := perm_of_popTimeHeap hpop
  have hfirst : data ∈ s.timers.heap := hperm.mem_iff.2 (.head _)
  have hmem : ∀ t ∈ rest.heap, t ∈ s.timers.heap := fun t ht => hperm.mem_iff.2 (.tail _ ht)
  have hrest : rest.Valid :=
    ⟨fun t ht => hvalid.duration t (hmem t ht), fun t ht => hvalid.total t (hmem t ht),
      fun t ht => hvalid.cur t (hmem t ht)⟩
  have hcur := hvalid.cur data hfirst
  simp only [putBack, Timer.rearm_eq]
  cases data.callsLeft with
  | false => exact hrest
  | true =>
    refine hrest.insert (hvalid.duration data hfirst) (hvalid.total data hfirst) ?_
    simp only [Timer.again]
    split
    · omega
    · exact hcur

/-- An update keeps the timers as they are meant. -/
theorem Valid.update (hvalid : s.timers.Valid) {fuel : ℕ}
    (h : TimerComponent.update algs timeTick fuel s = some s') : s'.timers.Valid := by
  have hround : ∀ u v : Firing Handler, u.timers.Valid →
      TimerComponent.round algs timeTick u = some v → v.timers.Valid := fun u v hu hv => hu.round hv
  exact Loop.run_invariant hround hvalid h

/-! ### How often a timer fires -/

/-- How often the timers of a heap that are the same as `t` are still called. -/
def credits (t : Timer Handler) (l : List (Timer Handler)) : ℕ :=
  (l.map fun u => if t.same u then u.credit else 0).sum

theorem credits_cons (t u : Timer Handler) (l : List (Timer Handler)) :
    credits t (u :: l) = (if t.same u then u.credit else 0) + credits t l := rfl

theorem credits_append (t : Timer Handler) (l l' : List (Timer Handler)) :
    credits t (l ++ l') = credits t l + credits t l' := by
  rw [credits, List.map_append, List.sum_append]
  rfl

theorem credits_perm (t : Timer Handler) {l l' : List (Timer Handler)} (h : l.Perm l') :
    credits t l = credits t l' :=
  (h.map _).sum_nat

/-- A call costs the credit of one. -/
theorem credits_again (timeTick : UInt64) {t : Timer Handler} (htotal : 0 < t.callCountTotal)
    (data : Timer Handler) :
    credits t (([data].filter Timer.callsLeft).map (Timer.again timeTick)) +
      [data].countP t.same ≤ credits t [data] := by
  cases hsame : t.same data with
  | false =>
    cases hleft : data.callsLeft with
    | true => simp [credits, hsame, hleft]
    | false => simp [credits, hsame, hleft]
  | true =>
    have hdata : 0 < data.callCountTotal := by
      simp only [Timer.same, decide_eq_true_eq] at hsame
      rw [hsame.2]
      exact htotal
    cases hleft : data.callsLeft with
    | true => simpa [credits, hsame, hleft] using Timer.credit_again hdata hleft
    | false => simpa [credits, hsame, hleft] using data.one_le_credit

/-- **A round costs as much credit as timers fire.** -/
theorem round_credits {t : Timer Handler} (htotal : 0 < t.callCountTotal)
    (h : round algs timeTick s = some s') :
    s'.fired.countP t.same + credits t s'.timers.heap ≤
      s.fired.countP t.same + credits t s.timers.heap := by
  obtain ⟨⟨data, rest⟩, hpop, rfl⟩ := Option.map_eq_some_iff.1 h
  have hput := credits_perm t (heap_putBack_perm algs rest timeTick data)
  have hbefore := credits_perm t (perm_of_popTimeHeap hpop)
  have hcall := credits_again timeTick htotal data
  have hone : credits t [data] = if t.same data then data.credit else 0 := by simp [credits]
  rw [credits_append] at hput
  rw [credits_cons] at hbefore
  rw [List.countP_append, hput, hbefore]
  omega

/-- At the start each timer has its total as credit, at most. -/
theorem credits_le (hvalid : c.Valid) {t : Timer Handler} (htotal : 0 < t.callCountTotal) :
    credits t c.heap ≤ c.heap.countP t.same * t.callCountTotal.toNat := by
  have hcur := hvalid.cur
  revert hcur
  -- over the timers of any list
  induction c.heap with
  | nil => exact fun _ => Nat.zero_le _
  | cons u l ih =>
    intro hcur
    have hrest := ih fun v hv => hcur v (.tail _ hv)
    rw [credits_cons, List.countP_cons]
    cases hsame : t.same u with
    | false => simpa using hrest
    | true =>
      have heq : u.callCountTotal = t.callCountTotal := by
        simp only [Timer.same, decide_eq_true_eq] at hsame
        exact hsame.2
      have hu := Timer.credit_le (heq ▸ htotal) (hcur u (.head _))
      rw [heq] at hu
      rw [if_pos rfl, if_pos rfl, Nat.succ_mul]
      omega

/-- **No timer fires more often than its total**, over any number of updates. -/
theorem countP_fired_le (hvalid : c.Valid) {ticks : List UInt64}
    (hrun : (updateSystem algs c).Run ticks s) {t : Timer Handler} (htotal : 0 < t.callCountTotal) :
    s.fired.countP t.same ≤ c.heap.countP t.same * t.callCountTotal.toNat := by
  have hinv : s.fired.countP t.same + credits t s.timers.heap ≤ credits t c.heap := by
    have hround : ∀ (tick : UInt64) (s s' : Firing Handler),
        s.fired.countP t.same + credits t s.timers.heap ≤ credits t c.heap →
          round algs tick s = some s' →
            s'.fired.countP t.same + credits t s'.timers.heap ≤ credits t c.heap :=
      fun tick s s' hs h => (round_credits htotal h).trans hs
    refine hrun.invariant (p := fun s =>
      s.fired.countP t.same + credits t s.timers.heap ≤ credits t c.heap) ?_ ?_
    · rintro s rfl
      simp
    · rintro s tick s' hs ⟨fuel, hfuel⟩
      exact Loop.run_invariant (hround tick) hs hfuel
  exact (Nat.le_add_right _ _).trans (hinv.trans (credits_le hvalid htotal))

/-- **What an update of the timers does**, where no time wraps around; and over any number of updates
the timers with the same number and total fire as often as their totals allow, at most. -/
theorem update_exact (algs : Heap.Algorithms (@compareTimer Handler)) (c : TimerComponent Handler)
    (hvalid : c.Valid) :
    (∀ timeTick, c.Fits timeTick → ∃ fuel s, update algs timeTick fuel ⟨c, []⟩ = some s ∧
      UpdatesExactly c timeTick s) ∧
    ∀ ticks s, (updateSystem algs c).Run ticks s → ∀ t ∈ c.heap, 0 < t.callCountTotal →
      s.fired.countP t.same ≤ c.heap.countP t.same * t.callCountTotal.toNat := by
  refine ⟨fun timeTick hfits => ?_, fun ticks s hrun t _ htotal => countP_fired_le hvalid hrun htotal⟩
  obtain ⟨s, hs, hexact⟩ := exists_update algs hvalid hfits
  exact ⟨_, s, hs, hexact⟩

/-- Timers that are kept sorted by their times. -/
def sortedByTime : Heap.Algorithms (@compareTimer Handler) :=
  .sorted fun t : Timer Handler => t.nextTime.toNat

/-- A timer of two calls, five seconds apart, and an endless one that is due first. -/
def twoTimers : TimerComponent Unit :=
  (empty.insert sortedByTime ⟨1000, (), 5, 2, 0, 1⟩).insert sortedByTime ⟨500, (), 1, 0, 0, 2⟩

theorem twoTimers_heap : twoTimers.heap = [⟨500, (), 1, 0, 0, 2⟩, ⟨1000, (), 5, 2, 0, 1⟩] := rfl

theorem twoTimers_valid : twoTimers.Valid where
  duration := by simp [twoTimers_heap]
  total := by simp [twoTimers_heap]
  cur := by simp [twoTimers_heap]

theorem twoTimers_fits : twoTimers.Fits 1000 := by
  intro t ht _ _
  rw [twoTimers_heap] at ht
  rcases List.mem_cons.1 ht with rfl | ht
  · decide
  · obtain rfl := List.mem_singleton.1 ht
    decide

theorem twoTimers_update :
    ∃ s, (updateSystem sortedByTime twoTimers).Run [1000] s ∧ UpdatesExactly twoTimers 1000 s ∧
      s.fired.countP (Timer.same ⟨1000, (), 5, 2, 0, 1⟩) ≤ 2 := by
  have hexact := update_exact sortedByTime twoTimers twoTimers_valid
  obtain ⟨fuel, s, hs, hupdate⟩ := hexact.1 1000 twoTimers_fits
  have hrun : (updateSystem sortedByTime twoTimers).Run [1000] s :=
    .step (.init rfl) ⟨fuel, hs⟩
  refine ⟨s, hrun, hupdate, ?_⟩
  exact hexact.2 _ s hrun ⟨1000, (), 5, 2, 0, 1⟩ (by simp [twoTimers_heap]) (by decide)

/-! ### A time that wraps around -/

/-- At the last time of all every timer is due. -/
theorem checkTime_last {t : Timer Handler} (ht : t ∈ c.heap) : c.checkTime (-1) = true := by
  have hlast : (-1 : UInt64).toNat = 2 ^ 64 - 1 := rfl
  unfold checkTime
  cases hheap : c.heap with
  | nil =>
    rw [hheap] at ht
    cases ht
  | cons a l =>
    have hlt := UInt64.toNat_lt a.nextTime
    refine decide_eq_true (UInt64.le_iff_toNat_le.2 ?_)
    rw [hlast]
    omega

/-- **An update with an endless timer does not end then.** -/
theorem update_eq_none (algs : Heap.Algorithms (@compareTimer Handler)) {t : Timer Handler}
    (ht : t ∈ c.heap) (hendless : t.callCountTotal = 0) (fuel : ℕ) :
    update algs (-1) fuel ⟨c, []⟩ = none := by
  have hcond : ∀ s : Firing Handler, (∃ t ∈ s.timers.heap, t.callCountTotal = 0) →
      s.timers.checkTime (-1) = true := by
    rintro s ⟨u, hu, -⟩
    exact checkTime_last hu
  have hbody : ∀ s s' : Firing Handler, (∃ t ∈ s.timers.heap, t.callCountTotal = 0) →
      round algs (-1) s = some s' → ∃ t ∈ s'.timers.heap, t.callCountTotal = 0 := by
    rintro s s' ⟨u, hu, htotal⟩ hround
    obtain ⟨data, rest, hround', hperm, -, -⟩ := exists_round algs (hcond s ⟨u, hu, htotal⟩)
    obtain rfl := Option.some.inj (hround'.symm.trans hround)
    have hput := heap_putBack_perm algs rest (-1) data
    rcases List.mem_cons.1 (hperm.mem_iff.1 hu) with rfl | hrest
    · have hleft : u.callsLeft = true := by simp [Timer.callsLeft, htotal]
      refine ⟨u.again (-1), hput.mem_iff.2 (List.mem_append_right _ ?_), htotal⟩
      exact List.mem_map_of_mem (List.mem_filter.2 ⟨.head _, hleft⟩)
    · exact ⟨u, hput.mem_iff.2 (List.mem_append_left _ hrest), htotal⟩
  exact Loop.run_eq_none hcond hbody fuel ⟨t, ht, hendless⟩

theorem not_update_exact :
    ¬ ∀ (c : TimerComponent Unit) (timeTick : UInt64), c.Valid →
      ∃ fuel s, update sortedByTime timeTick fuel ⟨c, []⟩ = some s ∧ UpdatesExactly c timeTick s := by
  intro h
  obtain ⟨fuel, s, hs, -⟩ := h twoTimers (-1) twoTimers_valid
  have hendless : (⟨500, (), 1, 0, 0, 2⟩ : Timer Unit) ∈ twoTimers.heap := by simp [twoTimers_heap]
  rw [update_eq_none sortedByTime hendless rfl] at hs
  cases hs

end TimerComponent

end MmoServer
