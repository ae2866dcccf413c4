/-
**Serial numbers.**

`Global::GenerateSN` packs the time, in units of 1024 milliseconds, the id of the app, and a ticket
of 16 bits that goes up by one with every call.  The ticket starts again at zero when its bits are
used up, whatever the time is then.  So the numbers of a process differ from each other as long as no
65536 calls fall into the same unit of time.

Main definitions:

* `MmoServer.Global`, `MmoServer.GlobalEvent`, `MmoServer.globalSystem` — the time and the ticket of
  a process, and its runs;
* `MmoServer.snWindow` — the unit of time in a serial number;
* `MmoServer.getAppIdFromSN`, `MmoServer.generateSnOfInt` — the id of the app, as the `int` that it is.

Main results:

* `MmoServer.generateSn_inj` — **which calls return the same number**;
* `MmoServer.serials_nodup_iff` — **the numbers of a run differ from each other** exactly if no call
  falls into the unit of time of the 65536th call before it;
* `MmoServer.not_serials_nodup` — 65537 calls in the same millisecond;
* `MmoServer.serial_layout` — **the app is in the number**, and the numbers of two apps are different.
-/

import MmoServer.CreateWorld
import MmoServer.Wire

set_option relaxedAutoImplicit false
set_option autoImplicit false

namespace MmoServer

/-! ### The numbers -/

/-- The unit of time in a serial number. -/
def snWindow (timeTick : UInt64) : UInt64 := (timeTick >>> 10) <<< 26

theorem generateSn_eq (timeTick appId : UInt64) (snTicket : UInt16) :
    generateSn timeTick appId snTicket =
      snWindow timeTick + (appId <<< 16) + snTicket.toUInt64 := rfl

/-- The unit of time stands above the ticket. -/
theorem toNat_snWindow_mod (timeTick : UInt64) : (snWindow timeTick).toNat % 65536 = 0 := by
  have h26 : (26 : UInt64).toNat % 64 = 26 := rfl
  simp only [snWindow, UInt64.toNat_shiftLeft, Nat.shiftLeft_eq, h26]
  omega

/-- **Which calls of a process return the same number**. -/
theorem generateSn_inj (t u appId : UInt64) (k l : UInt16) :
    generateSn t appId k = generateSn u appId l ↔ snWindow t = snWindow u ∧ k = l := by
  constructor
  · intro h
    have hk : k.toUInt64.toNat < 65536 := by simpa using UInt16.toNat_lt k
    have hl : l.toUInt64.toNat < 65536 := by simpa using UInt16.toNat_lt l
    have ht := toNat_snWindow_mod t
    have hu := toNat_snWindow_mod u
    have hwt := UInt64.toNat_lt (snWindow t)
    have hwu := UInt64.toNat_lt (snWindow u)
    have hsum : snWindow t + k.toUInt64 = snWindow u + l.toUInt64 := by
      have hswap : ∀ a b c : UInt64, a + b + c = a + c + b := fun a b c => by
        rw [UInt64.add_assoc, UInt64.add_comm b, ← UInt64.add_assoc]
      rw [generateSn_eq, generateSn_eq, hswap, hswap (snWindow u)] at h
      exact (UInt64.add_left_inj _).1 h
    have hnat := congrArg UInt64.toNat hsum
    rw [UInt64.toNat_add, UInt64.toNat_add] at hnat
    refine ⟨UInt64.toNat_inj.1 (by omega), UInt16.toNat_inj.1 ?_⟩
    have hkl : k.toUInt64.toNat = l.toUInt64.toNat := by omega
    simpa using hkl
  · rintro ⟨hwindow, rfl⟩
    rw [generateSn_eq, generateSn_eq, hwindow]

/-- For the times of the next eight thousand years, a unit of time is that of one window of 1024
milliseconds. -/
theorem snWindow_inj {t u : UInt64} (ht : t.toNat < 2 ^ 48) (hu : u.toNat < 2 ^ 48) :
    snWindow t = snWindow u ↔ t >>> 10 = u >>> 10 := by
  constructor
  · intro h
    have h10 : (10 : UInt64).toNat % 64 = 10 := rfl
    have h26 : (26 : UInt64).toNat % 64 = 26 := rfl
    have hnat := congrArg UInt64.toNat h
    apply UInt64.toNat_inj.1
    simp only [snWindow, UInt64.toNat_shiftLeft, UInt64.toNat_shiftRight, Nat.shiftLeft_eq,
      Nat.shiftRight_eq_div_pow, h10, h26] at hnat ⊢
    omega
  · intro h
    rw [snWindow, snWindow, h]

/-! ### The process -/

/-- `Global`: the time, the app, and the ticket of the next number.  The last field is the history:
the calls of `GenerateSN`, each with its time and its result. -/
structure Global where
  timeTick : UInt64
  appId : UInt64
  snTicket : UInt16
  calls : List (UInt64 × UInt64)

/-- What a process does with it. -/
inductive GlobalEvent
  /-- `UpdateTime`, at the given time. -/
  | updateTime (now : UInt64)
  /-- `GenerateSN`. -/
  | generateSn
  deriving DecidableEq

namespace Global

/-- The state at the start. -/
def start (timeTick appId : UInt64) : Global := ⟨timeTick, appId, 1, []⟩

/-- `Global::UpdateTime`. -/
def updateTime (g : Global) (now : UInt64) : Global := { g with timeTick := now }

/-- `Global::GenerateSN`. -/
def generateSN (g : Global) : UInt64 × Global :=
  let ret := MmoServer.generateSn g.timeTick g.appId g.snTicket
  (ret, { g with snTicket := g.snTicket + 1, calls := g.calls ++ [(g.timeTick, ret)] })

/-- One step. -/
def step (g : Global) : GlobalEvent → Option Global
  | .updateTime now => some (g.updateTime now)
  | .generateSn => some g.generateSN.2

/-- The serial numbers that were returned. -/
def serials (g : Global) : List UInt64 := g.calls.map Prod.snd

/-- The times at which they were. -/
def ticks (g : Global) : List UInt64 := g.calls.map Prod.fst

/-- The time does not go back. -/
def Forward (g : Global) : GlobalEvent → Prop
  | .updateTime now => g.timeTick ≤ now
  | .generateSn => True

instance (g : Global) (e : GlobalEvent) : Decidable (g.Forward e) := by
  unfold Forward
  cases e <;> infer_instance

end Global

/-- The runs of a process. -/
def globalSystem (appId : UInt64) : Transition.System Global GlobalEvent :=
  Transition.System.ofFun (fun g => ∃ timeTick, g = .start timeTick appId) Global.step

/-! ### The invariant -/

/-- The ticket counts the calls, and the times of the calls go forward. -/
structure Global.Invariant (appId : UInt64) (g : Global) : Prop where
  app : g.appId = appId
  ticket : g.snTicket = UInt16.ofNat (g.calls.length + 1)
  numbers : ∀ i t sn, g.calls[i]? = some (t, sn) →
    sn = MmoServer.generateSn t appId (UInt16.ofNat (i + 1))
  forward : g.ticks.Pairwise (· ≤ ·)
  past : ∀ t ∈ g.ticks, t ≤ g.timeTick

namespace Global.Invariant

variable {appId : UInt64} {g v : Global}

theorem start (timeTick : UInt64) : Global.Invariant appId (.start timeTick appId) where
  app := rfl
  ticket := rfl
  numbers := by simp [Global.start]
  forward := by simp [Global.start, ticks]
  past := by simp [Global.start, ticks]

theorem updateTime (h : Global.Invariant appId g) {now : UInt64} (hnow : g.timeTick ≤ now) :
    Global.Invariant appId (g.updateTime now) :=
  { h with past := fun t ht => UInt64.le_trans (h.past t ht) hnow }

theorem generateSN (h : Global.Invariant appId g) : Global.Invariant appId g.generateSN.2 where
  app := h.app
  ticket := by
    have hticket := h.ticket
    simp only [Global.generateSN, List.length_append, List.length_singleton] at hticket ⊢
    rw [hticket, UInt16.ofNat_add (g.calls.length + 1) 1]
    rfl
  numbers := by
    intro i t sn hi
    simp only [Global.generateSN, List.getElem?_append] at hi
    split at hi
    · exact h.numbers i t sn hi
    · obtain ⟨hlast, heq⟩ := List.getElem?_eq_some_iff.1 hi
      have hi : i = g.calls.length := by simp at hlast; omega
      subst hi
      simp only [Nat.sub_self, List.getElem_singleton, Prod.mk.injEq] at heq
      obtain ⟨rfl, rfl⟩ := heq
      rw [h.app, h.ticket]
  forward := by
    simp only [Global.generateSN, ticks, List.map_append, List.pairwise_append]
    refine ⟨h.forward, by simp, ?_⟩
    intro t ht u hu
    obtain rfl : u = g.timeTick := by simpa using hu
    exact h.past t ht
  past := by
    intro t ht
    simp only [Global.generateSN, ticks, List.map_append, List.mem_append] at ht
    rcases ht with ht | ht
    · exact h.past t ht
    · obtain rfl : t = g.timeTick := by simpa using ht
      exact UInt64.le_refl _

/-- **Every run** in which the time goes forward. -/
theorem run {es : List GlobalEvent}
    (hrun : ((globalSystem appId).restrict Global.Forward).Run es g) :
    Global.Invariant appId g := by
  induction hrun with
  | init h =>
      obtain ⟨timeTick, rfl⟩ := h
      exact start timeTick
  | @step _ s v e _ h ih =>
      obtain ⟨hforward, hstep⟩ := h
      cases e with
      | updateTime now =>
          obtain rfl := Option.some.inj hstep
          exact ih.updateTime hforward
      | generateSn =>
          obtain rfl := Option.some.inj hstep
          exact ih.generateSN

end Global.Invariant

/-! ### Uniqueness -/

section

variable {appId : UInt64} {g : Global}

/-- Two calls have the same ticket if a multiple of 65536 lies between them. -/
theorem ofNat_ticket_inj (i j : ℕ) :
    UInt16.ofNat (i + 1) = UInt16.ofNat (j + 1) ↔ i % 65536 = j % 65536 := by
  rw [← UInt16.toNat_inj, UInt16.toNat_ofNat', UInt16.toNat_ofNat']
  constructor
  · intro h
    omega
  · intro h
    omega

theorem Global.getElem?_ticks {i : ℕ} {t : UInt64} :
    g.ticks[i]? = some t ↔ ∃ sn, g.calls[i]? = some (t, sn) := by
  simp [ticks, Option.map_eq_some_iff]

/-- **When two calls return the same number.** -/
theorem Global.Invariant.serials_eq_iff (h : Global.Invariant appId g) {i j : ℕ} {t u : UInt64}
    (hi : g.ticks[i]? = some t) (hj : g.ticks[j]? = some u) :
    g.serials[i]? = g.serials[j]? ↔ snWindow t = snWindow u ∧ i % 65536 = j % 65536 := by
  obtain ⟨sn, hcall⟩ := Global.getElem?_ticks.1 hi
  obtain ⟨sn', hcall'⟩ := Global.getElem?_ticks.1 hj
  have hsn := h.numbers i t sn hcall
  have hsn' := h.numbers j u sn' hcall'
  simp only [Global.serials, List.getElem?_map, hcall, hcall', Option.map_some, Option.some.injEq]
  rw [hsn, hsn', generateSn_inj, ofNat_ticket_inj]

theorem Global.Invariant.ticks_le (h : Global.Invariant appId g) {i j : ℕ} {t u : UInt64}
    (hij : i < j) (hi : g.ticks[i]? = some t) (hj : g.ticks[j]? = some u) : t ≤ u := by
  obtain ⟨hlt, rfl⟩ := List.getElem?_eq_some_iff.1 hi
  obtain ⟨hlt', rfl⟩ := List.getElem?_eq_some_iff.1 hj
  exact List.pairwise_iff_getElem.1 h.forward i j hlt hlt' hij

/-- Two calls return different numbers, unless a multiple of 65536 calls lies between them and the
unit of time is the same. -/
theorem Global.Invariant.nodup_iff (h : Global.Invariant appId g) :
    g.serials.Nodup ↔ ∀ (i j : ℕ) (t u : UInt64), i < j → g.ticks[i]? = some t →
      g.ticks[j]? = some u → i % 65536 = j % 65536 → snWindow t ≠ snWindow u := by
  rw [List.nodup_iff_getElem?_ne_getElem?]
  constructor
  · intro hne i j t u hij hi hj hmod hwindow
    have hlt : j < g.serials.length := by
      have := (List.getElem?_eq_some_iff.1 hj).1
      simpa [Global.serials, Global.ticks] using this
    exact hne i j hij hlt ((h.serials_eq_iff hi hj).2 ⟨hwindow, hmod⟩)
  · intro hne i j hij hlt heq
    have hltj : j < g.ticks.length := by simpa [Global.serials, Global.ticks] using hlt
    have hi := List.getElem?_eq_getElem (Nat.lt_trans hij hltj)
    have hj := List.getElem?_eq_getElem hltj
    obtain ⟨hwindow, hmod⟩ := (h.serials_eq_iff hi hj).1 heq
    exact hne i j _ _ hij hi hj hmod hwindow

/-- The windows between two that are the same are the same. -/
theorem shiftRight_eq_of_le {t u v : UInt64} (htu : t ≤ u) (huv : u ≤ v)
    (h : t >>> 10 = v >>> 10) : t >>> 10 = u >>> 10 := by
  have h10 : (10 : UInt64).toNat % 64 = 10 := rfl
  have hnat := congrArg UInt64.toNat h
  have htu := UInt64.le_iff_toNat_le.1 htu
  have huv := UInt64.le_iff_toNat_le.1 huv
  apply UInt64.toNat_inj.1
  simp only [UInt64.toNat_shiftRight, Nat.shiftRight_eq_div_pow, h10] at hnat ⊢
  omega

/-- **The serial numbers of a process** differ from each other exactly if two calls between which
there is a multiple of 65536 are never in the same unit of time; for times below `2 ^ 48`, if no call
is in the window of 1024 milliseconds of the 65536th call before it. -/
theorem serials_nodup_iff {es : List GlobalEvent}
    (hrun : ((globalSystem appId).restrict Global.Forward).Run es g) :
    (g.serials.Nodup ↔ ∀ (i j : ℕ) (t u : UInt64), i < j → g.ticks[i]? = some t →
      g.ticks[j]? = some u → i % 65536 = j % 65536 → snWindow t ≠ snWindow u) ∧
    (g.timeTick.toNat < 2 ^ 48 → (g.serials.Nodup ↔ ∀ (i : ℕ) (t u : UInt64),
      g.ticks[i]? = some t → g.ticks[i + 65536]? = some u → t >>> 10 ≠ u >>> 10)) := by
  have h := Global.Invariant.run hrun
  refine ⟨h.nodup_iff, fun htime => ?_⟩
  have hlt : ∀ {i : ℕ} {t : UInt64}, g.ticks[i]? = some t → t.toNat < 2 ^ 48 := by
    intro i t ht
    have hle := UInt64.le_iff_toNat_le.1 (h.past t (List.mem_of_getElem? ht))
    omega
  rw [h.nodup_iff]
  constructor
  · intro hne i t u hi hj hwindow
    exact hne i (i + 65536) t u (by omega) hi hj (by omega)
      ((snWindow_inj (hlt hi) (hlt hj)).2 hwindow)
  · intro hne i j t u hij hi hj hmod hwindow
    -- the 65536th call behind the first one is not behind the second one
    have hsame := (snWindow_inj (hlt hi) (hlt hj)).1 hwindow
    have hltj := (List.getElem?_eq_some_iff.1 hj).1
    have hm : g.ticks[i + 65536]? = some (g.ticks.get ⟨i + 65536, by omega⟩) :=
      List.getElem?_eq_getElem (by omega)
    rcases Nat.lt_or_ge (i + 65536) j with hbefore | hbehind
    · exact hne i t _ hi hm (shiftRight_eq_of_le (h.ticks_le (by omega) hi hm)
        (h.ticks_le hbefore hm hj) hsame)
    · obtain rfl : j = i + 65536 := by omega
      exact hne i t u hi hj hsame

end

/-! ### The app in a number -/

/-- `Global::GetAppIdFromSN`. -/
def getAppIdFromSN (sn : UInt64) : Int32 := (appIdFromSn sn).toUInt32.toInt32

/-- An app id, which is an `int`, in the arithmetic of 64 bits. -/
def appIdOfInt (appId : Int32) : UInt64 := appId.toInt64.toUInt64

/-- `Global::GenerateSN`, with the id as the `int` that it is: it is shifted, and then converted. -/
def generateSnOfInt (timeTick : UInt64) (appId : Int32) (snTicket : UInt16) : UInt64 :=
  ((timeTick >>> 10) <<< 26) + (appId <<< 16).toInt64.toUInt64 + snTicket.toUInt64

section

variable {appId : Int32}

/-- The bits of an id. -/
theorem toNat_toBitVec_of_appId (hpos : 0 ≤ appId) (hlt : appId < 1024) :
    appId.toBitVec.toNat < 1024 := by
  have hpos : 0 ≤ appId.toBitVec.toInt := Int32.le_iff_toInt_le.1 hpos
  have hlt : appId.toBitVec.toInt < 1024 := Int32.lt_iff_toInt_lt.1 hlt
  rw [BitVec.toInt_eq_toNat_cond] at hpos hlt
  have hbits := appId.toBitVec.isLt
  split at hpos <;> omega

/-- An `int` that is not negative has the same bits in 64 bits. -/
theorem toNat_toInt64_toUInt64 {value : Int32} (h : value.toBitVec.toNat < 2 ^ 31) :
    value.toInt64.toUInt64.toNat = value.toBitVec.toNat := by
  have hmsb : value.toBitVec.msb = false := BitVec.msb_eq_false_iff_two_mul_lt.2 (by omega)
  change (value.toBitVec.signExtend 64).toNat = value.toBitVec.toNat
  rw [BitVec.signExtend_eq_setWidth_of_msb_false hmsb, BitVec.toNat_setWidth,
    Nat.mod_eq_of_lt (by omega)]

/-- An id that has its place in a number: it does not change when it is converted, and the shift does not
reach the sign. -/
theorem appIdOfInt_spec (hpos : 0 ≤ appId) (hlt : appId < 1024) :
    appIdOfInt appId < maxAppId ∧ (appIdOfInt appId).toUInt32.toInt32 = appId ∧
      (appId <<< 16).toInt64.toUInt64 = appIdOfInt appId <<< 16 := by
  have hid := toNat_toBitVec_of_appId hpos hlt
  have hwide : (appIdOfInt appId).toNat = appId.toBitVec.toNat := toNat_toInt64_toUInt64 (by omega)
  refine ⟨UInt64.lt_iff_toNat_lt.2 ?_, Wire.toInt32_ofInt32 appId, UInt64.toNat_inj.1 ?_⟩
  · rw [hwide]
    exact hid
  · have hshift : (appId <<< 16).toBitVec.toNat = appId.toBitVec.toNat * 65536 := by
      change (appId.toBitVec <<< 16).toNat = _
      rw [BitVec.toNat_shiftLeft, Nat.shiftLeft_eq]
      omega
    have h16 : (16 : UInt64).toNat % 64 = 16 := rfl
    rw [toNat_toInt64_toUInt64 (by omega), hshift, UInt64.toNat_shiftLeft, hwide, h16, Nat.shiftLeft_eq]
    omega

/-- The number, in the arithmetic of 64 bits. -/
theorem generateSnOfInt_eq (timeTick : UInt64) (snTicket : UInt16) (hpos : 0 ≤ appId)
    (hlt : appId < 1024) :
    generateSnOfInt timeTick appId snTicket = generateSn timeTick (appIdOfInt appId) snTicket := by
  rw [generateSnOfInt, (appIdOfInt_spec hpos hlt).2.2]
  rfl

/-- **The app of a number.** -/
theorem getAppIdFromSN_generateSn (timeTick : UInt64) (snTicket : UInt16) (hpos : 0 ≤ appId)
    (hlt : appId < 1024) :
    getAppIdFromSN (generateSn timeTick (appIdOfInt appId) snTicket) = appId := by
  obtain ⟨hid, hback, -⟩ := appIdOfInt_spec hpos hlt
  rw [getAppIdFromSN, appIdFromSn_generateSn timeTick snTicket hid, hback]

end

/-- Every number of a process was made with its id, at some time and with some ticket. -/
theorem Global.eq_generateSn_of_mem_serials {appId : UInt64} {es : List GlobalEvent} {g : Global}
    (hrun : (globalSystem appId).Run es g) :
    g.appId = appId ∧ ∀ sn ∈ g.serials, ∃ timeTick snTicket,
      sn = MmoServer.generateSn timeTick appId snTicket := by
  refine hrun.invariant (p := fun g => g.appId = appId ∧ ∀ sn ∈ g.serials, ∃ timeTick snTicket,
    sn = MmoServer.generateSn timeTick appId snTicket) ?_ ?_
  · rintro g ⟨timeTick, rfl⟩
    exact ⟨rfl, by simp [Global.start, Global.serials]⟩
  · rintro g e v ⟨happ, hserials⟩ hstep
    cases e with
    | updateTime now =>
      obtain rfl := Option.some.inj hstep
      exact ⟨happ, hserials⟩
    | generateSn =>
      obtain rfl := Option.some.inj hstep
      refine ⟨happ, fun sn hsn => ?_⟩
      have hcalls : g.generateSN.2.serials = g.serials ++ [g.generateSN.1] := by
        simp [Global.generateSN, Global.serials]
      rw [hcalls] at hsn
      rcases List.mem_append.1 hsn with hold | hnew
      · exact hserials sn hold
      · exact ⟨g.timeTick, g.snTicket, by rw [List.mem_singleton.1 hnew, ← happ]; rfl⟩

/-- **The next number of a process** has its id, whatever has happened. -/
theorem Global.generateSN_of_run {appId : Int32} (hpos : 0 ≤ appId) (hlt : appId < 1024) {es : List GlobalEvent}
    {g : Global} (hrun : (globalSystem (appIdOfInt appId)).Run es g) :
    g.generateSN.1 = generateSnOfInt g.timeTick appId g.snTicket ∧ getAppIdFromSN g.generateSN.1 = appId := by
  have hnumber : g.generateSN.1 = MmoServer.generateSn g.timeTick (appIdOfInt appId) g.snTicket := by
    rw [← (eq_generateSn_of_mem_serials hrun).1]
    rfl
  rw [hnumber]
  exact ⟨(generateSnOfInt_eq g.timeTick g.snTicket hpos hlt).symm,
    getAppIdFromSN_generateSn g.timeTick g.snTicket hpos hlt⟩

/-- **The layout of serial numbers**: the app id comes back from a number, at any time and with any ticket; so it does
from the next number of a process that has the id, in every state that it can reach; and what one process returns next
is never what a process with another id returns next, nor are the numbers that they have returned the same, whatever
their clocks do. -/
theorem serial_layout :
    (∀ (timeTick : UInt64) (appId : Int32) (snTicket : UInt16), 0 ≤ appId → appId < 1024 →
      getAppIdFromSN (generateSnOfInt timeTick appId snTicket) = appId) ∧
    (∀ appId : Int32, 0 ≤ appId → appId < 1024 → ∀ (es : List GlobalEvent) (g : Global),
      (globalSystem (appIdOfInt appId)).Run es g →
        g.generateSN.1 = generateSnOfInt g.timeTick appId g.snTicket ∧ getAppIdFromSN g.generateSN.1 = appId) ∧
    ∀ appId appId' : Int32, 0 ≤ appId → appId < 1024 → 0 ≤ appId' → appId' < 1024 →
      appId ≠ appId' → ∀ (es es' : List GlobalEvent) (g g' : Global),
        (globalSystem (appIdOfInt appId)).Run es g → (globalSystem (appIdOfInt appId')).Run es' g' →
          g.generateSN.1 ≠ g'.generateSN.1 ∧ ∀ sn ∈ g.serials, sn ∉ g'.serials := by
  refine ⟨fun timeTick appId snTicket hpos hlt => ?_, fun appId hpos hlt es g hrun =>
    Global.generateSN_of_run hpos hlt hrun, ?_⟩
  · rw [generateSnOfInt_eq timeTick snTicket hpos hlt]
    exact getAppIdFromSN_generateSn timeTick snTicket hpos hlt
  · intro appId appId' hpos hlt hpos' hlt' hne es es' g g' hrun hrun'
    constructor
    · intro heq
      have hid := (Global.generateSN_of_run hpos hlt hrun).2
      rw [heq, (Global.generateSN_of_run hpos' hlt' hrun').2] at hid
      exact hne hid.symm
    · intro sn hsn hsn'
      obtain ⟨timeTick, snTicket, rfl⟩ := (Global.eq_generateSn_of_mem_serials hrun).2 sn hsn
      obtain ⟨timeTick', snTicket', heq⟩ := (Global.eq_generateSn_of_mem_serials hrun').2 _ hsn'
      have hid := getAppIdFromSN_generateSn timeTick snTicket hpos hlt
      rw [heq, getAppIdFromSN_generateSn timeTick' snTicket' hpos' hlt'] at hid
      exact hne hid.symm

/-- The app id comes back from the next number of a process, and two processes at the same time return different
ones. -/
theorem serial_layout_three : ∃ g g' : Global,
    (globalSystem (appIdOfInt 3)).Run [.updateTime 1700000000000, .generateSn] g ∧
      (globalSystem (appIdOfInt 4)).Run [.updateTime 1700000000000, .generateSn] g' ∧
      getAppIdFromSN g.generateSN.1 = 3 ∧ g.generateSN.1 ≠ g'.generateSN.1 ∧
      g.serials = [111411200000196609] ∧ 111411200000196609 ∉ g'.serials := by
  have hrun : (globalSystem (appIdOfInt 3)).Run [.updateTime 1700000000000, .generateSn] _ :=
    Transition.System.run_of_execute_true ⟨0, rfl⟩ rfl
  have hrun' : (globalSystem (appIdOfInt 4)).Run [.updateTime 1700000000000, .generateSn] _ :=
    Transition.System.run_of_execute_true ⟨0, rfl⟩ rfl
  obtain ⟨hnext, hothers⟩ :=
    serial_layout.2.2 3 4 (by decide) (by decide) (by decide) (by decide) (by decide) _ _ _ _ hrun hrun'
  refine ⟨_, _, hrun, hrun', (serial_layout.2.1 3 (by decide) (by decide) _ _ hrun).2, hnext, ?_, ?_⟩
  · decide
  · exact hothers _ (by decide)

/-! ### Two runs -/

/-- Two calls in a millisecond, and one in a later one. -/
def threeCalls : List GlobalEvent :=
  [.updateTime 1700000000000, .generateSn, .generateSn, .updateTime 1700000000001, .generateSn]

/-- The numbers of a short run differ from each other. -/
theorem serials_nodup_three : ∃ g : Global,
    ((globalSystem 3).restrict Global.Forward).Run threeCalls g ∧ g.serials.length = 3 ∧
      g.serials.Nodup := by
  have hrun : (Transition.System.execute Global.step Global.Forward (.start 0 3) threeCalls).map
      Global.ticks = some [1700000000000, 1700000000000, 1700000000001] := by
    decide
  obtain ⟨g, hg, hticks⟩ := Option.map_eq_some_iff.1 hrun
  have hevents : ((globalSystem 3).restrict Global.Forward).Run threeCalls g :=
    Transition.System.run_of_execute ⟨0, rfl⟩ hg
  have hlength : g.serials.length = 3 := by
    have := congrArg List.length hticks
    simpa [Global.ticks, Global.serials] using this
  refine ⟨g, hevents, hlength, (serials_nodup_iff hevents).1.2 ?_⟩
  intro i j t u hij hi hj hmod
  have hlt := (List.getElem?_eq_some_iff.1 hj).1
  rw [hticks] at hlt
  simp at hlt
  omega

/-- Any number of calls at the same time. -/
theorem run_replicate (appId timeTick : UInt64) (n : ℕ) : ∃ g : Global,
    ((globalSystem appId).restrict Global.Forward).Run (List.replicate n .generateSn) g ∧
      g.timeTick = timeTick ∧ g.ticks = List.replicate n timeTick := by
  induction n with
  | zero => exact ⟨.start timeTick appId, Transition.System.Run.init ⟨timeTick, rfl⟩, rfl, rfl⟩
  | succ n ih =>
      obtain ⟨g, hrun, htime, hticks⟩ := ih
      refine ⟨g.generateSN.2, ?_, htime, ?_⟩
      · rw [List.replicate_succ']
        exact hrun.step ⟨trivial, rfl⟩
      · have hthen : g.generateSN.2.ticks = g.ticks ++ [g.timeTick] := by
          simp [Global.generateSN, Global.ticks]
        rw [hthen, htime, hticks, List.replicate_succ']

/-- **65537 calls in one millisecond** do not return different numbers. -/
theorem not_serials_nodup : ¬ ∀ (appId : UInt64) (es : List GlobalEvent) (g : Global),
    ((globalSystem appId).restrict Global.Forward).Run es g → g.serials.Nodup := by
  intro hall
  obtain ⟨g, hrun, -, hticks⟩ := run_replicate 1 1700000000000 65537
  refine (Global.Invariant.run hrun).nodup_iff.1 (hall 1 _ g hrun) 0 65536 1700000000000
    1700000000000 (by omega) ?_ ?_ rfl rfl
  · rw [hticks, List.getElem?_replicate_of_lt (by omega)]
  · rw [hticks, List.getElem?_replicate_of_lt (by omega)]

end MmoServer
