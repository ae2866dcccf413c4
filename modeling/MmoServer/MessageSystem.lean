/-
**Which callback a packet goes to.**

The components of a thread register callbacks for messages, and a default callback for what no other
one accepts.  The tables of the message system know a component by its serial number only; a world and
its proxy have the same one if they live in one process.

Components are numbered, and so are callbacks, in the order in which they were registered.

Main definitions:

* `MmoServer.MessageSystem` — the tables, and their operations;
* `MmoServer.CallbackHistory`, `MmoServer.CallbackEvent`, `MmoServer.callbackSystem` — a thread, with
  the registrations whose component was not removed;
* `MmoServer.CallbackHistory.Delivers` — every packet goes to the callbacks that are registered for
  it;
* `MmoServer.NumberFree` — a component that registers, or is removed, does not share its serial
  number.

Main results:

* `MmoServer.CallbackInv.step` — **what one step keeps**;
* `MmoServer.delivers_run` — **every packet** goes to the callbacks that are registered for it, in
  every run of components that do not share a serial number where it matters;
* `MmoServer.not_delivers_run` — a component silences another one that has its serial number.
-/

import MmoServer.OrdMap
import MmoServer.Packet
import MmoServer.Transition
import Mathlib.Data.List.Perm.Basic

set_option relaxedAutoImplicit false
set_option autoImplicit false

namespace MmoServer

open Std

/-! ### The tables -/

/-- `IMessageCallBack`: its number, and whether it is a `MessageCallBackFilter`. -/
structure MessageCallBack where
  number : ℕ
  filter : Bool
  deriving DecidableEq

/-- `ProcessPacket` returns whether the callback has handled the packet; one with a filter does so if
that finds an object. -/
def MessageCallBack.processPacket (found : ℕ → Bool) (cb : MessageCallBack) : Bool :=
  if cb.filter then found cb.number else true

/-- `MessageSystem`. -/
structure MessageSystem where
  callbacks : ExtTreeMap ℤ (ExtTreeMap UInt64 MessageCallBack compare) compare
  /-- A pointer may be null. -/
  defaultCallbacks : ExtTreeMap UInt64 (Option MessageCallBack) compare

/-- The number in the `Entity` tag; a packet that has none is for no entity, and so is one with the
number zero. -/
def Packet.entitySn (p : Packet) : UInt64 :=
  match p.tagKey.getTagValue .entity with
  | none => 0
  | some v => v.keyInt64

namespace MessageSystem

/-- A message system without callbacks. -/
def empty : MessageSystem := ⟨∅, ∅⟩

/-- `_callbacks[msgId]`, or an empty map. -/
def sub (m : MessageSystem) (msgId : ℤ) : ExtTreeMap UInt64 MessageCallBack compare :=
  m.callbacks[msgId]?.getD ∅

/-- `RegisterFunction` and `RegisterFunctionFilter`, of a component with the given serial number. -/
def registerFunction (m : MessageSystem) (sn : UInt64) (msgId : ℤ) (cb : MessageCallBack) :
    MessageSystem :=
  { m with callbacks := m.callbacks.insert msgId ((m.sub msgId).insertIfNew sn cb) }

/-- `RegisterDefaultFunction`. -/
def registerDefaultFunction (m : MessageSystem) (sn : UInt64) (cb : MessageCallBack) :
    MessageSystem :=
  { m with defaultCallbacks := m.defaultCallbacks.insertIfNew sn (some cb) }

/-- `RemoveFunction`. -/
def removeFunction (m : MessageSystem) (sn : UInt64) : MessageSystem where
  callbacks := m.callbacks.map fun _ pSub => pSub.erase sn
  defaultCallbacks := m.defaultCallbacks.erase sn

/-- The callbacks that `Update` calls for a packet before the default one. -/
def called (m : MessageSystem) (p : Packet) : List MessageCallBack :=
  if p.entitySn > 0 then (m.sub p.msgId.number)[p.entitySn]?.toList
  else OrdMap.values (m.sub p.msgId.number)

/-- The default callback that it looks for, if none of them has handled the packet.  In a process that
has the world and its proxy, a packet for the world has no default callback. -/
def asksDefault (found : ℕ → Bool) (p : Packet) (called : List MessageCallBack) : Bool :=
  !called.any (MessageCallBack.processPacket found) && decide (p.entitySn > 0) &&
    (p.tagKey.getTagValue .toWorld).isNone

/-- The default callback of a serial number, if there is one, and it is not null. -/
def defaultOf (m : MessageSystem) (sn : UInt64) : Option MessageCallBack :=
  m.defaultCallbacks[sn]?.join

/-- `Update`, for one packet: the callbacks that are called, and the tables then.  Where there is no
default callback, the table has a null pointer from then on. -/
def update (m : MessageSystem) (found : ℕ → Bool) (p : Packet) :
    List MessageCallBack × MessageSystem :=
  if asksDefault found p (m.called p) then
    (m.called p ++ (m.defaultOf p.entitySn).toList,
      { m with defaultCallbacks := m.defaultCallbacks.insertIfNew p.entitySn none })
  else (m.called p, m)

theorem sub_registerFunction (m : MessageSystem) (sn : UInt64) (msgId : ℤ) (cb : MessageCallBack)
    (k : ℤ) : (m.registerFunction sn msgId cb).sub k =
      if msgId = k then (m.sub msgId).insertIfNew sn cb else m.sub k := by
  by_cases hk : msgId = k
  · simp [sub, registerFunction, hk]
  · simp [sub, registerFunction, hk, OrdMap.getElem?_insert]

/-- A registration whose place is free. -/
theorem getElem?_sub_registerFunction {m : MessageSystem} {sn : UInt64} {msgId : ℤ}
    (hfree : (m.sub msgId)[sn]? = none) (cb : MessageCallBack) (k : ℤ) (n : UInt64) :
    ((m.registerFunction sn msgId cb).sub k)[n]? =
      if msgId = k ∧ sn = n then some cb else (m.sub k)[n]? := by
  rw [sub_registerFunction]
  by_cases hk : msgId = k
  · subst hk
    simp [OrdMap.getElem?_insertIfNew_of_none hfree]
  · simp [hk]

theorem getElem?_sub_removeFunction (m : MessageSystem) (sn : UInt64) (k : ℤ) (n : UInt64) :
    ((m.removeFunction sn).sub k)[n]? = if sn = n then none else (m.sub k)[n]? := by
  have hempty : (∅ : ExtTreeMap UInt64 MessageCallBack compare)[n]? = none := by simp
  cases hsub : m.callbacks[k]? with
  | none => simp [sub, removeFunction, hsub]
  | some pSub => simp [sub, removeFunction, hsub, OrdMap.getElem?_erase]

theorem defaultOf_registerDefaultFunction {m : MessageSystem} {sn : UInt64}
    (hfree : m.defaultCallbacks[sn]? = none) (cb : MessageCallBack) (n : UInt64) :
    (m.registerDefaultFunction sn cb).defaultOf n =
      if sn = n then some cb else m.defaultOf n := by
  simp only [defaultOf, registerDefaultFunction, OrdMap.getElem?_insertIfNew_of_none hfree]
  split <;> rfl

theorem defaultOf_removeFunction (m : MessageSystem) (sn n : UInt64) :
    (m.removeFunction sn).defaultOf n = if sn = n then none else m.defaultOf n := by
  simp only [defaultOf, removeFunction, OrdMap.getElem?_erase]
  split <;> rfl

/-- **A packet** only leaves null pointers. -/
theorem defaultOf_update (m : MessageSystem) (found : ℕ → Bool) (p : Packet) (n : UInt64) :
    (m.update found p).2.defaultOf n = m.defaultOf n := by
  unfold update
  split
  · simp only [defaultOf, OrdMap.getElem?_insertIfNew]
    split
    · rename_i hn
      obtain ⟨rfl, hnone⟩ := hn
      simp [hnone]
    · rfl
  · rfl

theorem sub_update (m : MessageSystem) (found : ℕ → Bool) (p : Packet) (k : ℤ) :
    (m.update found p).2.sub k = m.sub k := by
  unfold update
  split <;> rfl

end MessageSystem

/-! ### A thread -/

/-- A registration, for a message or as the default one. -/
structure MsgRegistration where
  component : ℕ
  msgId : Option ℤ
  callback : MessageCallBack
  deriving DecidableEq

/-- The message system of a thread.  The last two fields are the history: the number of callbacks, and
the registrations of the components that were not removed. -/
structure CallbackHistory where
  system : MessageSystem
  created : ℕ
  live : List MsgRegistration

/-- What the components of a thread do, and what is done with packets. -/
inductive CallbackEvent
  /-- `RegisterFunction`, or `RegisterFunctionFilter`. -/
  | registerFunction (component : ℕ) (msgId : ℤ) (filter : Bool)
  /-- `RegisterDefaultFunction`. -/
  | registerDefaultFunction (component : ℕ)
  /-- `RemoveFunction`. -/
  | removeFunction (component : ℕ)
  /-- `Update`, for one packet; the filters of some callbacks find an object. -/
  | update (found : ℕ → Bool) (p : Packet)

namespace CallbackHistory

/-- A thread without components. -/
def start : CallbackHistory := ⟨.empty, 0, []⟩

/-- One step.  Every component has a serial number. -/
def step (sn : ℕ → UInt64) (h : CallbackHistory) : CallbackEvent → Option CallbackHistory
  | .registerFunction component msgId filter =>
    some
      { system := h.system.registerFunction (sn component) msgId ⟨h.created, filter⟩
        created := h.created + 1
        live := h.live ++ [⟨component, some msgId, ⟨h.created, filter⟩⟩] }
  | .registerDefaultFunction component =>
    some
      { system := h.system.registerDefaultFunction (sn component) ⟨h.created, false⟩
        created := h.created + 1
        live := h.live ++ [⟨component, none, ⟨h.created, false⟩⟩] }
  | .removeFunction component =>
    some
      { h with
        system := h.system.removeFunction (sn component)
        live := h.live.filter fun r => r.component ≠ component }
  | .update found p => some { h with system := (h.system.update found p).2 }

/-- The callbacks that are registered for a packet: for its message, and for its entity if it has
one. -/
def registered (sn : ℕ → UInt64) (h : CallbackHistory) (p : Packet) : List MessageCallBack :=
  (h.live.filter fun r => r.msgId = some ↑p.msgId.number ∧
    (p.entitySn > 0 → sn r.component = p.entitySn)).map MsgRegistration.callback

/-- The default callbacks of an entity. -/
def defaults (sn : ℕ → UInt64) (h : CallbackHistory) (entitySn : UInt64) : List MessageCallBack :=
  (h.live.filter fun r => r.msgId = none ∧ sn r.component = entitySn).map MsgRegistration.callback

/-- **The callbacks that a packet should go to**: those that are registered for it, and the default
one of its entity, if none of them accepts it.  What is for a world has no default callback. -/
def expected (sn : ℕ → UInt64) (h : CallbackHistory) (found : ℕ → Bool) (p : Packet) :
    List MessageCallBack :=
  if (∃ cb ∈ h.registered sn p, cb.processPacket found = true) ∨ ¬ p.entitySn > 0 ∨
      (p.tagKey.getTagValue .toWorld).isSome then h.registered sn p
  else h.registered sn p ++ h.defaults sn p.entitySn

/-- **Every packet** goes to the callbacks that it should go to, once to each. -/
def Delivers (sn : ℕ → UInt64) (h : CallbackHistory) : Prop :=
  ∀ (found : ℕ → Bool) (p : Packet), (h.system.update found p).1.Perm (h.expected sn found p)

end CallbackHistory

/-- The runs of a thread whose components have the given serial numbers. -/
def callbackSystem (sn : ℕ → UInt64) : Transition.System CallbackHistory CallbackEvent :=
  Transition.System.ofFun (fun h => h = .start) (CallbackHistory.step sn)

/-- **A serial number is free for what is done with it.**  A component registers for a message for
which none with its serial number is registered; it registers its default callback while the table has
no entry for its serial number, not even a null pointer; it is removed while no other one that has its
serial number is registered for anything. -/
def NumberFree (sn : ℕ → UInt64) (h : CallbackHistory) : CallbackEvent → Prop
  | .registerFunction component msgId _ =>
    ∀ r ∈ h.live, r.msgId = some msgId → sn r.component ≠ sn component
  | .registerDefaultFunction component => h.system.defaultCallbacks[sn component]? = none
  | .removeFunction component =>
    ∀ r ∈ h.live, sn r.component = sn component → r.component = component
  | .update _ _ => True

instance (sn : ℕ → UInt64) (h : CallbackHistory) (e : CallbackEvent) :
    Decidable (NumberFree sn h e) := by
  cases e <;> simp only [NumberFree] <;> infer_instance

/-! ### The invariant -/

/-- The tables have the registrations. -/
structure CallbackInv (sn : ℕ → UInt64) (h : CallbackHistory) : Prop where
  called : ∀ (msgId : ℤ) (n : UInt64) (cb : MessageCallBack), (h.system.sub msgId)[n]? = some cb ↔
    ∃ c, sn c = n ∧ ⟨c, some msgId, cb⟩ ∈ h.live
  default : ∀ (n : UInt64) (cb : MessageCallBack), h.system.defaultOf n = some cb ↔
    ∃ c, sn c = n ∧ ⟨c, none, cb⟩ ∈ h.live
  old : ∀ r ∈ h.live, r.callback.number < h.created
  nodup : (h.live.map MsgRegistration.callback).Nodup

namespace CallbackInv

variable {sn : ℕ → UInt64} {h v : CallbackHistory}

theorem start : CallbackInv sn .start where
  called := by simp [CallbackHistory.start, MessageSystem.empty, MessageSystem.sub]
  default := by simp [CallbackHistory.start, MessageSystem.empty, MessageSystem.defaultOf]
  old := by simp [CallbackHistory.start]
  nodup := by simp [CallbackHistory.start]

/-- A callback that is created is new. -/
theorem old_append (hinv : CallbackInv sn h) (component : ℕ) (msgId : Option ℤ) (filter : Bool) :
    ∀ r ∈ h.live ++ [⟨component, msgId, ⟨h.created, filter⟩⟩],
      r.callback.number < h.created + 1 := by
  intro r hr
  rcases List.mem_append.1 hr with hr | hr
  · exact Nat.lt_succ_of_lt (hinv.old r hr)
  · obtain rfl := List.mem_singleton.1 hr
    exact Nat.lt_succ_self _

theorem nodup_append (hinv : CallbackInv sn h) (component : ℕ) (msgId : Option ℤ)
    (filter : Bool) : ((h.live ++ [(⟨component, msgId, ⟨h.created, filter⟩⟩ : MsgRegistration)]).map
      MsgRegistration.callback).Nodup := by
  rw [List.map_append, List.nodup_append]
  refine ⟨hinv.nodup, by simp, ?_⟩
  intro cb hcb cb' hcb' heq
  obtain rfl : cb' = (⟨h.created, filter⟩ : MessageCallBack) := by simpa using hcb'
  obtain ⟨r, hr, rfl⟩ := List.mem_map.1 hcb
  exact absurd (hinv.old r hr) (by simp [heq])

theorem registerFunction (hinv : CallbackInv sn h) {component : ℕ} {msgId : ℤ} {filter : Bool}
    (hfree : NumberFree sn h (.registerFunction component msgId filter))
    (hv : h.step sn (.registerFunction component msgId filter) = some v) : CallbackInv sn v := by
  obtain rfl := Option.some.inj hv
  have hplace : (h.system.sub msgId)[sn component]? = none := by
    rw [Option.eq_none_iff_forall_ne_some]
    intro cb hcb
    obtain ⟨c, hc, hmem⟩ := (hinv.called msgId (sn component) cb).1 hcb
    exact hfree _ hmem rfl hc
  refine ⟨?_, ?_, hinv.old_append component _ filter, hinv.nodup_append component _ filter⟩
  · intro k n cb
    rw [MessageSystem.getElem?_sub_registerFunction hplace]
    simp only [List.mem_append, List.mem_singleton, MsgRegistration.mk.injEq, Option.some.injEq]
    by_cases hk : msgId = k ∧ sn component = n
    · obtain ⟨rfl, rfl⟩ := hk
      simp only [and_self, if_true, Option.some.injEq]
      constructor
      · rintro rfl
        exact ⟨component, rfl, .inr ⟨rfl, trivial, rfl⟩⟩
      · rintro ⟨c, hc, hmem | ⟨-, -, rfl⟩⟩
        · exact absurd hc (hfree _ hmem rfl)
        · rfl
    · rw [if_neg hk, hinv.called k n cb]
      constructor
      · rintro ⟨c, hc, hmem⟩
        exact ⟨c, hc, .inl hmem⟩
      · rintro ⟨c, hc, hmem | ⟨rfl, rfl, -⟩⟩
        · exact ⟨c, hc, hmem⟩
        · exact absurd ⟨rfl, hc⟩ hk
  · intro n cb
    refine (hinv.default n cb).trans ?_
    simp

theorem registerDefaultFunction (hinv : CallbackInv sn h) {component : ℕ}
    (hfree : NumberFree sn h (.registerDefaultFunction component))
    (hv : h.step sn (.registerDefaultFunction component) = some v) : CallbackInv sn v := by
  obtain rfl := Option.some.inj hv
  have hnone : h.system.defaultOf (sn component) = none := by
    have hentry : h.system.defaultCallbacks[sn component]? = none := hfree
    simp [MessageSystem.defaultOf, hentry]
  refine ⟨?_, ?_, hinv.old_append component _ false, hinv.nodup_append component _ false⟩
  · intro k n cb
    refine (hinv.called k n cb).trans ?_
    simp
  · intro n cb
    rw [MessageSystem.defaultOf_registerDefaultFunction hfree]
    simp only [List.mem_append, List.mem_singleton, MsgRegistration.mk.injEq, true_and]
    by_cases hn : sn component = n
    · subst hn
      simp only [if_true, Option.some.injEq]
      constructor
      · rintro rfl
        exact ⟨component, rfl, .inr ⟨rfl, rfl⟩⟩
      · rintro ⟨c, hc, hmem | ⟨-, rfl⟩⟩
        · have hthere := (hinv.default (sn component) cb).2 ⟨c, hc, hmem⟩
          simp [hnone] at hthere
        · rfl
    · rw [if_neg hn, hinv.default n cb]
      constructor
      · rintro ⟨c, hc, hmem⟩
        exact ⟨c, hc, .inl hmem⟩
      · rintro ⟨c, hc, hmem | ⟨rfl, -⟩⟩
        · exact ⟨c, hc, hmem⟩
        · exact absurd hc hn

/-- The registrations of a serial number are those of the component that is removed. -/
theorem exists_removed_iff {component : ℕ}
    (hfree : NumberFree sn h (.removeFunction component)) (msgId : Option ℤ) (n : UInt64)
    (cb : MessageCallBack) : (∃ c, sn c = n ∧ ⟨c, msgId, cb⟩ ∈ h.live.filter
      fun r => decide (r.component ≠ component)) ↔
        sn component ≠ n ∧ ∃ c, sn c = n ∧ ⟨c, msgId, cb⟩ ∈ h.live := by
  constructor
  · rintro ⟨c, hc, hmem⟩
    obtain ⟨hmem, hne⟩ := List.mem_filter.1 hmem
    refine ⟨?_, c, hc, hmem⟩
    rintro rfl
    exact of_decide_eq_true hne (hfree _ hmem hc)
  · rintro ⟨hn, c, hc, hmem⟩
    refine ⟨c, hc, List.mem_filter.2 ⟨hmem, decide_eq_true ?_⟩⟩
    rintro rfl
    exact hn hc

theorem removeFunction (hinv : CallbackInv sn h) {component : ℕ}
    (hfree : NumberFree sn h (.removeFunction component))
    (hv : h.step sn (.removeFunction component) = some v) : CallbackInv sn v := by
  obtain rfl := Option.some.inj hv
  have hsub := List.filter_sublist (l := h.live) (p := fun r => decide (r.component ≠ component))
  refine ⟨?_, ?_, fun r hr => hinv.old r (hsub.subset hr), hinv.nodup.sublist (hsub.map _)⟩
  · intro k n cb
    rw [MessageSystem.getElem?_sub_removeFunction, exists_removed_iff hfree,
      ← hinv.called k n cb]
    by_cases hn : sn component = n
    · simp [hn]
    · simp [hn]
  · intro n cb
    rw [MessageSystem.defaultOf_removeFunction, exists_removed_iff hfree,
      ← hinv.default n cb]
    by_cases hn : sn component = n
    · simp [hn]
    · simp [hn]

/-- **One step** of components that do not share a serial number where it matters. -/
theorem step (hinv : CallbackInv sn h) {e : CallbackEvent} (hfree : NumberFree sn h e)
    (hv : h.step sn e = some v) : CallbackInv sn v := by
  cases e with
  | registerFunction component msgId filter => exact hinv.registerFunction hfree hv
  | registerDefaultFunction component => exact hinv.registerDefaultFunction hfree hv
  | removeFunction component => exact hinv.removeFunction hfree hv
  | update found p =>
      obtain rfl := Option.some.inj hv
      refine ⟨fun k n cb => ?_, fun n cb => ?_, hinv.old, hinv.nodup⟩
      · rw [MessageSystem.sub_update]
        exact hinv.called k n cb
      · rw [MessageSystem.defaultOf_update]
        exact hinv.default n cb

/-! ### What a packet reaches -/

/-- Two components do not have the same callback. -/
theorem eq_of_callback (hinv : CallbackInv sn h) {r r' : MsgRegistration} (hr : r ∈ h.live)
    (hr' : r' ∈ h.live) (hcb : r.callback = r'.callback) : r = r' :=
  List.inj_on_of_nodup_map hinv.nodup hr hr' hcb

theorem called_perm (hinv : CallbackInv sn h) (p : Packet) :
    (h.system.called p).Perm (h.registered sn p) := by
  have hregistered : (h.registered sn p).Nodup :=
    hinv.nodup.sublist (List.filter_sublist.map _)
  have hmem : ∀ cb, cb ∈ h.registered sn p ↔ ∃ c, (p.entitySn > 0 → sn c = p.entitySn) ∧
      ⟨c, some ↑p.msgId.number, cb⟩ ∈ h.live := by
    intro cb
    simp only [CallbackHistory.registered, List.mem_map, List.mem_filter, decide_eq_true_eq]
    constructor
    · rintro ⟨⟨c, msgId, cb⟩, ⟨hr, rfl, hsn⟩, rfl⟩
      exact ⟨c, hsn, hr⟩
    · rintro ⟨c, hsn, hr⟩
      exact ⟨_, ⟨hr, rfl, hsn⟩, rfl⟩
  unfold MessageSystem.called
  split
  · -- the callback of the entity
    rename_i hentity
    refine (List.perm_ext_iff_of_nodup ?_ hregistered).2 fun cb => ?_
    · cases (h.system.sub p.msgId.number)[p.entitySn]? <;> simp
    · rw [Option.mem_toList, hinv.called, hmem]
      simp [hentity]
  · -- the callbacks of all components
    rename_i hentity
    refine (List.perm_ext_iff_of_nodup ?_ hregistered).2 fun cb => ?_
    · refine OrdMap.nodup_values fun k l cb hk hl => ?_
      obtain ⟨c, rfl, hc⟩ := (hinv.called _ k cb).1 hk
      obtain ⟨c', rfl, hc'⟩ := (hinv.called _ l cb).1 hl
      rw [(MsgRegistration.mk.inj (hinv.eq_of_callback hc hc' rfl)).1]
    · rw [OrdMap.mem_values, hmem]
      simp [hentity, hinv.called]

theorem defaultOf_perm (hinv : CallbackInv sn h) (n : UInt64) :
    (h.system.defaultOf n).toList.Perm (h.defaults sn n) := by
  have hdefaults : (h.defaults sn n).Nodup := hinv.nodup.sublist (List.filter_sublist.map _)
  refine (List.perm_ext_iff_of_nodup ?_ hdefaults).2 fun cb => ?_
  · cases h.system.defaultOf n <;> simp
  · rw [Option.mem_toList, hinv.default]
    simp only [CallbackHistory.defaults, List.mem_map, List.mem_filter, decide_eq_true_eq]
    constructor
    · rintro ⟨c, hsn, hr⟩
      exact ⟨_, ⟨hr, rfl, hsn⟩, rfl⟩
    · rintro ⟨⟨c, msgId, cb⟩, ⟨hr, rfl, hsn⟩, rfl⟩
      exact ⟨c, hsn, hr⟩

/-- **Every packet** goes to the callbacks that it should go to. -/
theorem delivers (hinv : CallbackInv sn h) : h.Delivers sn := by
  intro found p
  have hcalled := hinv.called_perm p
  have hany : (h.system.called p).any (MessageCallBack.processPacket found) = true ↔
      ∃ cb ∈ h.registered sn p, cb.processPacket found = true := by
    simp [List.any_eq_true, hcalled.mem_iff]
  unfold MessageSystem.update CallbackHistory.expected
  by_cases hasks : MessageSystem.asksDefault found p (h.system.called p) = true
  · obtain ⟨⟨hnot, hentity⟩, hworld⟩ : ((h.system.called p).any
        (MessageCallBack.processPacket found) = false ∧ p.entitySn > 0) ∧
          (p.tagKey.getTagValue .toWorld).isNone = true := by
      simpa [MessageSystem.asksDefault] using hasks
    have hno : ¬ ∃ cb ∈ h.registered sn p, cb.processPacket found = true := by
      rw [← hany, hnot]
      simp
    rw [if_pos hasks, if_neg]
    · exact hcalled.append (hinv.defaultOf_perm p.entitySn)
    · rintro (haccepted | hentity' | hworld')
      · exact hno haccepted
      · exact hentity' hentity
      · simp [Option.isNone_iff_eq_none.1 hworld] at hworld'
  · rw [if_neg hasks, if_pos]
    · exact hcalled
    · by_contra hall
      obtain ⟨hnone, hentity, hworld⟩ := not_or.1 hall |>.imp_right not_or.1
      rw [← hany, Bool.not_eq_true] at hnone
      exact hasks (by simp_all [MessageSystem.asksDefault])

end CallbackInv

/-- **Every packet** goes to the callbacks that are registered for it, in every run of components that
do not share a serial number where it matters. -/
theorem delivers_run {sn : ℕ → UInt64} {es : List CallbackEvent} {h : CallbackHistory}
    (hrun : ((callbackSystem sn).restrict (NumberFree sn)).Run es h) : h.Delivers sn := by
  have hinv : CallbackInv sn h := by
    induction hrun with
    | init h =>
        obtain rfl : _ = CallbackHistory.start := h
        exact .start
    | step _ h ih => exact ih.step h.1 h.2
  exact hinv.delivers

/-! ### A world and its proxy -/

/-- A packet of a message, for an entity or for none. -/
def packetOf (msgId : MsgId) (entitySn : UInt64) : Packet :=
  { Packet.create with
    msgId := msgId
    tagKey := if entitySn = 0 then .clear else TagKey.clear.addTagInt .entity entitySn }

/-- A world and its proxy, which have the serial numbers 1 and 2, register; the world is removed after
a packet. -/
def registerApart : List CallbackEvent :=
  [.registerFunction 1 10 false, .registerFunction 2 10 false, .registerFunction 2 1110 true,
    .registerDefaultFunction 2, .update (fun _ => false) (packetOf .miTeleport 1),
    .removeFunction 1]

/-- A disconnect goes to the proxy then; and what its filter does not accept, to its default
callback. -/
theorem delivers_registerApart : ∃ h,
    ((callbackSystem UInt64.ofNat).restrict (NumberFree UInt64.ofNat)).Run registerApart h ∧
      h.expected UInt64.ofNat (fun _ => false) (packetOf .miNetworkDisconnect 0) = [⟨1, false⟩] ∧
      h.expected UInt64.ofNat (fun _ => false) (packetOf .miTeleport 2) = [⟨2, true⟩, ⟨3, false⟩] ∧
      h.Delivers UInt64.ofNat := by
  have hrun : (Transition.System.execute (CallbackHistory.step UInt64.ofNat)
      (NumberFree UInt64.ofNat) .start registerApart).map (fun h =>
        (h.expected UInt64.ofNat (fun _ => false) (packetOf .miNetworkDisconnect 0),
          h.expected UInt64.ofNat (fun _ => false) (packetOf .miTeleport 2))) =
      some ([⟨1, false⟩], [⟨2, true⟩, ⟨3, false⟩]) := by
    decide
  obtain ⟨h, hh, hexpected⟩ := Option.map_eq_some_iff.1 hrun
  have hevents : ((callbackSystem UInt64.ofNat).restrict (NumberFree UInt64.ofNat)).Run
      registerApart h := Transition.System.run_of_execute rfl hh
  obtain ⟨hdisconnect, hteleport⟩ := Prod.mk.inj hexpected
  exact ⟨h, hevents, hdisconnect, hteleport, delivers_run hevents⟩

/-- A world and its proxy, which have the same serial number, register for the same message. -/
def registerShared : List CallbackEvent :=
  [.registerFunction 1 10 false, .registerFunction 2 10 false]

/-- **The second of them** does not get any packet. -/
theorem not_delivers_run : ¬ ∀ (sn : ℕ → UInt64) (es : List CallbackEvent) (h : CallbackHistory),
    (callbackSystem sn).Run es h → h.Delivers sn := by
  intro hall
  have hrun : (Transition.System.execute (CallbackHistory.step fun _ => 7) (fun _ _ => True) .start
      registerShared).map (fun h =>
        ((h.system.update (fun _ => false) (packetOf .miNetworkDisconnect 0)).1,
          h.expected (fun _ => 7) (fun _ => false) (packetOf .miNetworkDisconnect 0))) =
      some ([⟨0, false⟩], [⟨0, false⟩, ⟨1, false⟩]) := by
    decide
  obtain ⟨h, hh, hreached⟩ := Option.map_eq_some_iff.1 hrun
  have hevents : (callbackSystem fun _ => 7).Run registerShared h :=
    Transition.System.run_of_execute_true rfl hh
  have hperm := hall (fun _ => 7) registerShared h hevents (fun _ => false)
    (packetOf .miNetworkDisconnect 0)
  obtain ⟨hcode, hspec⟩ := Prod.mk.inj hreached
  rw [hcode, hspec] at hperm
  exact absurd hperm.length_eq (by decide)

end MmoServer
