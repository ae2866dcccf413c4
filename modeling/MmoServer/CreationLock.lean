/-
**The locks of the component factories.**

All threads create components with the same factories, one for every list of types of arguments, and each
factory has a mutex.  `ComponentFactory::Create` locks it by hand: where it finds the class it unlocks
before it calls the function that was registered, and where it does not it returns with the mutex locked.

Threads take steps in any order.  A handler that gets as far as `Create` has to lock the mutex first, and
then looks for the class; `Regist` has the mutex for itself while it runs.  `AddSystem`, the handler of
`MI_CreateSystem`, creates with the factory for no arguments.

Main definitions:

* `MmoServer.FactoryState`, `MmoServer.FactoryState.step` — the factories and the threads that use them;
* `MmoServer.FactoryState.Registered` — a mutex is locked for a class that the factory has;
* `MmoServer.FactoryState.Usable` — a mutex is free again when the handler returns, and the components of
  registered classes are created.

Main results:

* `MmoServer.FactoryState.completes` — a handler can go on to its end;
* `MmoServer.FactoryState.creates_of_steps` — and when it has come there, whatever else happened, it has
  created the component;
* `MmoServer.usable_run` — **the factories remain usable exactly as long as every class is found**;
* `MmoServer.FactoryState.holder_stuck` — otherwise a mutex stays locked for good;
* `MmoServer.not_usable` — a request for a class that was never registered.
-/

import MmoServer.CreateComponent
import MmoServer.Transition

set_option relaxedAutoImplicit false
set_option autoImplicit false

namespace MmoServer

/-! ### Threads and mutexes -/

/-- A call of `ComponentFactory::Create`, from its start to its return. -/
structure CreateCall where
  className : List UInt8
  sn : UInt64
  args : List ComponentArg
  locked : Bool

/-- The factory that is called. -/
def CreateCall.kinds (call : CreateCall) : List ArgKind :=
  call.args.map ComponentArg.kind

/-- The factories, which thread has locked the mutex of which one, the threads that are in `Create`, and
what was created. -/
structure FactoryState (Thread : Type) where
  factories : ComponentFactories
  holder : List ArgKind → Option Thread
  calls : Thread → Option CreateCall
  created : List (Thread × CreatedComponent)

/-- A thread starts with a packet, `MI_CreateComponent` or `MI_CreateSystem`; it locks the mutex; it looks
for the class and leaves `Create`; or it registers a class. -/
inductive FactoryEvent (Thread : Type)
  | handleCreateComponent (th : Thread) (proto : CreateComponentProto)
  | addSystem (th : Thread) (name : List UInt8)
  | lock (th : Thread)
  | find (th : Thread)
  | regist (th : Thread) (kinds : List ArgKind) (className : List UInt8)

namespace FactoryState

variable {Thread : Type} [DecidableEq Thread]

/-- The thread starts a call of `Create`. -/
def enter (s : FactoryState Thread) (th : Thread) (className : List UInt8) (sn : UInt64)
    (args : List ComponentArg) : FactoryState Thread :=
  { s with calls := Function.update s.calls th (some ⟨className, sn, args, false⟩) }

/-- `_lock.lock()`. -/
def lock (s : FactoryState Thread) (th : Thread) (call : CreateCall) : FactoryState Thread :=
  { s with
    holder := Function.update s.holder call.kinds (some th)
    calls := Function.update s.calls th (some { call with locked := true }) }

/-- The class is found: `_lock.unlock()`, and the function that was registered for it. -/
def create (s : FactoryState Thread) (th : Thread) (call : CreateCall) : FactoryState Thread :=
  { s with
    holder := Function.update s.holder call.kinds none
    calls := Function.update s.calls th none
    created := s.created ++ [(th, ⟨call.className, call.sn, call.args⟩)] }

/-- The class is not found: `return nullptr`. -/
def giveUp (s : FactoryState Thread) (th : Thread) : FactoryState Thread :=
  { s with calls := Function.update s.calls th none }

/-- One step of a thread.  A thread that waits for a mutex does not take one. -/
def step (s : FactoryState Thread) : FactoryEvent Thread → Option (FactoryState Thread)
  | .handleCreateComponent th proto =>
    if (s.calls th).isNone then
      match proto.request with
      -- the handler only logs an error
      | none => some s
      | some args => some (s.enter th proto.className proto.sn args)
    else none
  | .addSystem th name => if (s.calls th).isNone then some (s.enter th name 0 []) else none
  | .lock th =>
    (s.calls th).bind fun call =>
      if call.locked = false ∧ (s.holder call.kinds).isNone then some (s.lock th call) else none
  | .find th =>
    (s.calls th).bind fun call =>
      if call.locked then
        if s.factories.isRegisted call.kinds call.className then some (s.create th call)
        -- `Create` returns without `unlock`
        else some (s.giveUp th)
      else none
  | .regist th kinds className =>
    if (s.calls th).isNone ∧ (s.holder kinds).isNone then
      some { s with factories := s.factories.regist kinds className }
    else none

/-- A server that starts: no mutex is locked. -/
def Initial (s : FactoryState Thread) : Prop :=
  (∀ kinds, s.holder kinds = none) ∧ (∀ th, s.calls th = none) ∧ s.created = []

/-- All orders of steps of all threads. -/
def system (Thread : Type) [DecidableEq Thread] :
    Transition.System (FactoryState Thread) (FactoryEvent Thread) :=
  .ofFun Initial step

/-- A mutex is locked only for a class that the factory has. -/
def Registered (s : FactoryState Thread) : FactoryEvent Thread → Prop
  | .lock th => ∀ call, s.calls th = some call → s.factories.isRegisted call.kinds call.className = true
  | _ => True

instance (s : FactoryState Thread) (e : FactoryEvent Thread) : Decidable (s.Registered e) :=
  match e with
  | .lock th => inferInstanceAs (Decidable (∀ call ∈ s.calls th,
      s.factories.isRegisted call.kinds call.className = true))
  | .handleCreateComponent .. | .addSystem .. | .find _ | .regist .. => .isTrue trivial

/-- **The factories are usable.**  A mutex is locked only by a thread that gives it back with its next step,
the one with which `Create` returns.  And a thread that is handed a packet for a class that is registered
can go on to the end of the handler, and has created the component once it is there, whatever the other
threads do. -/
structure Usable (s : FactoryState Thread) : Prop where
  released : ∀ kinds th, s.holder kinds = some th →
    ∃ t, s.step (.find th) = some t ∧ t.holder kinds = none ∧ t.calls th = none
  completes : ∀ th proto component, s.calls th = none →
    s.factories.handleCreateComponent proto = some component →
      ∃ es t, (.handleCreateComponent th proto :: es).foldlM step s = some t ∧ t.calls th = none
  creates : ∀ th proto component, s.calls th = none →
    s.factories.handleCreateComponent proto = some component →
      ∀ es t, (.handleCreateComponent th proto :: es).foldlM step s = some t → t.calls th = none →
        (th, component) ∈ t.created.drop s.created.length

/-! ### What one step does -/

/-- What a step can do. -/
inductive Steps (s : FactoryState Thread) : FactoryEvent Thread → FactoryState Thread → Prop
  | refuse {th : Thread} {proto : CreateComponentProto} :
      Steps s (.handleCreateComponent th proto) s
  | enter {e : FactoryEvent Thread} {th : Thread} {className : List UInt8} {sn : UInt64}
      {args : List ComponentArg} (hidle : s.calls th = none) (hstart : ∀ th', e ≠ .lock th' ∧ e ≠ .find th') :
      Steps s e (s.enter th className sn args)
  | lock {th : Thread} {call : CreateCall} (hcall : s.calls th = some call) (hopen : call.locked = false)
      (hfree : s.holder call.kinds = none) : Steps s (.lock th) (s.lock th call)
  | create {th : Thread} {call : CreateCall} (hcall : s.calls th = some call) (hlocked : call.locked = true)
      (hfound : s.factories.isRegisted call.kinds call.className = true) :
      Steps s (.find th) (s.create th call)
  | giveUp {th : Thread} {call : CreateCall} (hcall : s.calls th = some call) (hlocked : call.locked = true)
      (hfound : s.factories.isRegisted call.kinds call.className = false) : Steps s (.find th) (s.giveUp th)
  | regist {th : Thread} {kinds : List ArgKind} {className : List UInt8} (hfree : s.holder kinds = none) :
      Steps s (.regist th kinds className) { s with factories := s.factories.regist kinds className }

theorem steps_of_step {s t : FactoryState Thread} {e : FactoryEvent Thread} (h : s.step e = some t) :
    Steps s e t := by
  cases e with
  | handleCreateComponent th proto =>
    simp only [step] at h
    split at h
    · rename_i hidle
      split at h
      · cases h
        exact .refuse
      · cases h
        exact .enter (Option.isNone_iff_eq_none.1 hidle) fun _ => ⟨nofun, nofun⟩
    · cases h
  | addSystem th name =>
    simp only [step] at h
    split at h
    · rename_i hidle
      cases h
      exact .enter (Option.isNone_iff_eq_none.1 hidle) fun _ => ⟨nofun, nofun⟩
    · cases h
  | lock th =>
    obtain ⟨call, hcall, h⟩ := Option.bind_eq_some_iff.1 h
    split at h
    · rename_i hopen
      cases h
      exact .lock hcall hopen.1 (Option.isNone_iff_eq_none.1 hopen.2)
    · cases h
  | find th =>
    obtain ⟨call, hcall, h⟩ := Option.bind_eq_some_iff.1 h
    split at h
    · rename_i hlocked
      split at h
      · rename_i hfound
        cases h
        exact .create hcall hlocked hfound
      · rename_i hfound
        cases h
        exact .giveUp hcall hlocked (Bool.not_eq_true _ ▸ hfound)
    · cases h
  | regist th kinds className =>
    simp only [step] at h
    split at h
    · rename_i hidle
      cases h
      exact .regist (Option.isNone_iff_eq_none.1 hidle.2)
    · cases h

/-! Which thread and which factory a step is about. -/

@[simp] theorem enter_calls_self (s : FactoryState Thread) (th : Thread) (className : List UInt8)
    (sn : UInt64) (args : List ComponentArg) :
    (s.enter th className sn args).calls th = some ⟨className, sn, args, false⟩ :=
  Function.update_self ..

theorem enter_calls_of_ne {th th' : Thread} (hne : th' ≠ th) (s : FactoryState Thread)
    (className : List UInt8) (sn : UInt64) (args : List ComponentArg) :
    (s.enter th className sn args).calls th' = s.calls th' :=
  Function.update_of_ne hne ..

@[simp] theorem lock_calls_self (s : FactoryState Thread) (th : Thread) (call : CreateCall) :
    (s.lock th call).calls th = some { call with locked := true } :=
  Function.update_self ..

theorem lock_calls_of_ne {th th' : Thread} (hne : th' ≠ th) (s : FactoryState Thread) (call : CreateCall) :
    (s.lock th call).calls th' = s.calls th' :=
  Function.update_of_ne hne ..

@[simp] theorem lock_holder_self (s : FactoryState Thread) (th : Thread) (call : CreateCall) :
    (s.lock th call).holder call.kinds = some th :=
  Function.update_self ..

theorem lock_holder_of_ne {kinds : List ArgKind} {call : CreateCall} (hne : kinds ≠ call.kinds)
    (s : FactoryState Thread) (th : Thread) : (s.lock th call).holder kinds = s.holder kinds :=
  Function.update_of_ne hne ..

@[simp] theorem create_calls_self (s : FactoryState Thread) (th : Thread) (call : CreateCall) :
    (s.create th call).calls th = none :=
  Function.update_self ..

theorem create_calls_of_ne {th th' : Thread} (hne : th' ≠ th) (s : FactoryState Thread) (call : CreateCall) :
    (s.create th call).calls th' = s.calls th' :=
  Function.update_of_ne hne ..

@[simp] theorem create_holder_self (s : FactoryState Thread) (th : Thread) (call : CreateCall) :
    (s.create th call).holder call.kinds = none :=
  Function.update_self ..

theorem create_holder_of_ne {kinds : List ArgKind} {call : CreateCall} (hne : kinds ≠ call.kinds)
    (s : FactoryState Thread) (th : Thread) : (s.create th call).holder kinds = s.holder kinds :=
  Function.update_of_ne hne ..

@[simp] theorem giveUp_calls_self (s : FactoryState Thread) (th : Thread) : (s.giveUp th).calls th = none :=
  Function.update_self ..

theorem giveUp_calls_of_ne {th th' : Thread} (hne : th' ≠ th) (s : FactoryState Thread) :
    (s.giveUp th).calls th' = s.calls th' :=
  Function.update_of_ne hne ..

/-- A class stays registered. -/
theorem Steps.isRegisted_mono {s t : FactoryState Thread} {e : FactoryEvent Thread} (h : Steps s e t)
    {kinds : List ArgKind} {className : List UInt8}
    (hreg : s.factories.isRegisted kinds className = true) :
    t.factories.isRegisted kinds className = true := by
  cases h with
  | regist hfree => exact ComponentFactories.isRegisted_regist_of hreg
  | _ => exact hreg

/-! ### A call on its way -/

/-- A thread in `Create` for a class that is registered, or that has come back with the component since
`count` of them had been created. -/
def Creating (th : Thread) (component : CreatedComponent) (count : ℕ) (s : FactoryState Thread) : Prop :=
  count ≤ s.created.length ∧
    ((∃ locked, s.calls th = some ⟨component.className, component.sn, component.args, locked⟩ ∧
        s.factories.isRegisted (component.args.map ComponentArg.kind) component.className = true) ∨
      (th, component) ∈ s.created.drop count)

/-- No step of any thread loses the component. -/
theorem Creating.step {th : Thread} {component : CreatedComponent} {count : ℕ} {s t : FactoryState Thread}
    {e : FactoryEvent Thread} (h : Creating th component count s) (hstep : s.step e = some t) :
    Creating th component count t := by
  have hsteps := steps_of_step hstep
  obtain ⟨hcount, ⟨locked, hcall, hreg⟩ | hmem⟩ := h
  · have hreg' := hsteps.isRegisted_mono hreg
    cases hsteps with
    | refuse => exact ⟨hcount, .inl ⟨locked, hcall, hreg⟩⟩
    | @enter _ th' _ _ _ hidle _ =>
      have hne : th ≠ th' := by
        rintro rfl
        rw [hidle] at hcall
        cases hcall
      exact ⟨hcount, .inl ⟨locked, (enter_calls_of_ne hne ..).trans hcall, hreg'⟩⟩
    | @lock th' call hcall' hopen hfree =>
      by_cases hth : th = th'
      · subst hth
        obtain rfl := Option.some.inj (hcall.symm.trans hcall')
        exact ⟨hcount, .inl ⟨true, lock_calls_self .., hreg'⟩⟩
      · exact ⟨hcount, .inl ⟨locked, (lock_calls_of_ne hth ..).trans hcall, hreg'⟩⟩
    | @create th' call hcall' hlocked hfound =>
      have hlen : (s.create th' call).created.length = s.created.length + 1 := List.length_append
      refine ⟨by omega, ?_⟩
      by_cases hth : th = th'
      · subst hth
        obtain rfl := Option.some.inj (hcall.symm.trans hcall')
        refine .inr ?_
        show _ ∈ (s.created ++ [_]).drop count
        rw [List.drop_append_of_le_length hcount]
        exact List.mem_append_right _ (List.mem_singleton.2 rfl)
      · exact .inl ⟨locked, (create_calls_of_ne hth ..).trans hcall, hreg'⟩
    | @giveUp th' call hcall' hlocked hfound =>
      have hth : th ≠ th' := by
        rintro rfl
        obtain rfl := Option.some.inj (hcall.symm.trans hcall')
        exact absurd hreg (Bool.not_eq_true _ ▸ hfound)
      exact ⟨hcount, .inl ⟨locked, (giveUp_calls_of_ne hth ..).trans hcall, hreg'⟩⟩
    | regist hfree => exact ⟨hcount, .inl ⟨locked, hcall, hreg'⟩⟩
  · cases hsteps with
    | @create th' call hcall' hlocked hfound =>
      have hlen : (s.create th' call).created.length = s.created.length + 1 := List.length_append
      refine ⟨by omega, .inr ?_⟩
      show _ ∈ (s.created ++ [_]).drop count
      rw [List.drop_append_of_le_length hcount]
      exact List.mem_append_left _ hmem
    | _ => exact ⟨hcount, .inr hmem⟩

/-- What no step loses is there after any number of steps. -/
theorem foldlM_invariant {q : FactoryState Thread → Prop}
    (hstep : ∀ s e t, q s → s.step e = some t → q t) {es : List (FactoryEvent Thread)}
    {s t : FactoryState Thread} (hs : q s) (h : es.foldlM step s = some t) : q t := by
  induction es generalizing s with
  | nil =>
    obtain rfl := Option.some.inj h
    exact hs
  | cons e es ih =>
    obtain ⟨u, hu, ht⟩ := Option.bind_eq_some_iff.1 ((List.foldlM_cons ..).symm.trans h)
    exact ih (hstep s e u hs hu) ht

/-- What the handler of a packet does first, where the packet is for a class that is registered. -/
theorem step_handleCreateComponent {s : FactoryState Thread} {th : Thread} {proto : CreateComponentProto}
    {component : CreatedComponent} (hidle : s.calls th = none)
    (hcreates : s.factories.handleCreateComponent proto = some component) :
    s.step (.handleCreateComponent th proto) =
        some (s.enter th component.className component.sn component.args) ∧
      s.factories.isRegisted (component.args.map ComponentArg.kind) component.className = true := by
  obtain ⟨args, hargs, hcreate⟩ := Option.bind_eq_some_iff.1 hcreates
  split at hcreate
  · rename_i hreg
    cases hcreate
    refine ⟨?_, hreg⟩
    simp only [step, hidle, Option.isNone_none, if_true, hargs]
  · cases hcreate

/-- **The component is created** by the time the handler has come to its end, whatever happened meanwhile. -/
theorem creates_of_steps {s t : FactoryState Thread} {th : Thread} {proto : CreateComponentProto}
    {component : CreatedComponent} {es : List (FactoryEvent Thread)} (hidle : s.calls th = none)
    (hcreates : s.factories.handleCreateComponent proto = some component)
    (h : (.handleCreateComponent th proto :: es).foldlM step s = some t) (hend : t.calls th = none) :
    (th, component) ∈ t.created.drop s.created.length := by
  obtain ⟨hfirst, hreg⟩ := step_handleCreateComponent hidle hcreates
  rw [List.foldlM_cons, hfirst] at h
  have hstart : Creating th component s.created.length
      (s.enter th component.className component.sn component.args) :=
    ⟨le_rfl, .inl ⟨false, enter_calls_self .., hreg⟩⟩
  obtain ⟨-, ⟨locked, hcall, -⟩ | hmem⟩ := foldlM_invariant (fun _ _ _ => Creating.step) hstart h
  · rw [hend] at hcall
    cases hcall
  · exact hmem

/-! ### Who has locked what -/

/-- A mutex is locked by the thread that is in `Create` with it, for a class that is registered. -/
structure Locked (s : FactoryState Thread) : Prop where
  caller : ∀ kinds th, s.holder kinds = some th →
    ∃ call, s.calls th = some call ∧ call.locked = true ∧ call.kinds = kinds
  holds : ∀ th call, s.calls th = some call → call.locked = true → s.holder call.kinds = some th
  found : ∀ th call, s.calls th = some call → call.locked = true →
    s.factories.isRegisted call.kinds call.className = true

omit [DecidableEq Thread] in
theorem Locked.of_initial {s : FactoryState Thread} (h : s.Initial) : s.Locked where
  caller kinds th hheld := by
    rw [h.1 kinds] at hheld
    cases hheld
  holds th call hcall _ := by
    rw [h.2.1 th] at hcall
    cases hcall
  found th call hcall _ := by
    rw [h.2.1 th] at hcall
    cases hcall

theorem Locked.enter {s : FactoryState Thread} (h : s.Locked) {th : Thread} (hidle : s.calls th = none)
    (className : List UInt8) (sn : UInt64) (args : List ComponentArg) :
    (s.enter th className sn args).Locked where
  caller kinds th' hheld := by
    obtain ⟨call, hcall, hlocked⟩ := h.caller kinds th' hheld
    have hne : th' ≠ th := by
      rintro rfl
      rw [hidle] at hcall
      cases hcall
    exact ⟨call, (enter_calls_of_ne hne ..).trans hcall, hlocked⟩
  holds th' call hcall hlocked := by
    by_cases hth : th' = th
    · subst hth
      obtain rfl := Option.some.inj ((enter_calls_self ..).symm.trans hcall)
      cases hlocked
    · exact h.holds th' call ((enter_calls_of_ne hth ..).symm.trans hcall) hlocked
  found th' call hcall hlocked := by
    by_cases hth : th' = th
    · subst hth
      obtain rfl := Option.some.inj ((enter_calls_self ..).symm.trans hcall)
      cases hlocked
    · exact h.found th' call ((enter_calls_of_ne hth ..).symm.trans hcall) hlocked

theorem Locked.lock {s : FactoryState Thread} (h : s.Locked) {th : Thread} {call : CreateCall}
    (hcall : s.calls th = some call) (hopen : call.locked = false) (hfree : s.holder call.kinds = none)
    (hreg : s.factories.isRegisted call.kinds call.className = true) : (s.lock th call).Locked where
  caller kinds th' hheld := by
    by_cases hkinds : kinds = call.kinds
    · subst hkinds
      obtain rfl := Option.some.inj ((lock_holder_self ..).symm.trans hheld)
      exact ⟨_, lock_calls_self .., rfl, rfl⟩
    · obtain ⟨call', hcall', hlocked, hkinds'⟩ :=
        h.caller kinds th' ((lock_holder_of_ne hkinds ..).symm.trans hheld)
      have hne : th' ≠ th := by
        rintro rfl
        obtain rfl := Option.some.inj (hcall.symm.trans hcall')
        rw [hopen] at hlocked
        cases hlocked
      exact ⟨call', (lock_calls_of_ne hne ..).trans hcall', hlocked, hkinds'⟩
  holds th' call' hcall' hlocked := by
    by_cases hth : th' = th
    · subst hth
      obtain rfl := Option.some.inj ((lock_calls_self ..).symm.trans hcall')
      exact lock_holder_self ..
    · have hheld := h.holds th' call' ((lock_calls_of_ne hth ..).symm.trans hcall') hlocked
      have hne : call'.kinds ≠ call.kinds := by
        intro heq
        rw [heq, hfree] at hheld
        cases hheld
      exact (lock_holder_of_ne hne ..).trans hheld
  found th' call' hcall' hlocked := by
    by_cases hth : th' = th
    · subst hth
      obtain rfl := Option.some.inj ((lock_calls_self ..).symm.trans hcall')
      exact hreg
    · exact h.found th' call' ((lock_calls_of_ne hth ..).symm.trans hcall') hlocked

theorem Locked.create {s : FactoryState Thread} (h : s.Locked) {th : Thread} {call : CreateCall}
    (hcall : s.calls th = some call) (hlocked : call.locked = true) : (s.create th call).Locked where
  caller kinds th' hheld := by
    have hkinds : kinds ≠ call.kinds := by
      rintro rfl
      rw [create_holder_self] at hheld
      cases hheld
    obtain ⟨call', hcall', hlocked', hkinds'⟩ :=
      h.caller kinds th' ((create_holder_of_ne hkinds ..).symm.trans hheld)
    have hne : th' ≠ th := by
      rintro rfl
      obtain rfl := Option.some.inj (hcall.symm.trans hcall')
      exact hkinds hkinds'.symm
    exact ⟨call', (create_calls_of_ne hne ..).trans hcall', hlocked', hkinds'⟩
  holds th' call' hcall' hlocked' := by
    have hne : th' ≠ th := by
      rintro rfl
      rw [create_calls_self] at hcall'
      cases hcall'
    have hheld := h.holds th' call' ((create_calls_of_ne hne ..).symm.trans hcall') hlocked'
    have hkinds : call'.kinds ≠ call.kinds := by
      intro heq
      rw [heq, h.holds th call hcall hlocked] at hheld
      exact hne (Option.some.inj hheld).symm
    exact (create_holder_of_ne hkinds ..).trans hheld
  found th' call' hcall' hlocked' := by
    have hne : th' ≠ th := by
      rintro rfl
      rw [create_calls_self] at hcall'
      cases hcall'
    exact h.found th' call' ((create_calls_of_ne hne ..).symm.trans hcall') hlocked'

/-- A step under the condition keeps the locks in order. -/
theorem Locked.step {s t : FactoryState Thread} {e : FactoryEvent Thread} (h : s.Locked)
    (hreg : s.Registered e) (hstep : s.step e = some t) : t.Locked := by
  cases steps_of_step hstep with
  | refuse => exact h
  | enter hidle _ => exact h.enter hidle _ _ _
  | lock hcall hopen hfree => exact h.lock hcall hopen hfree (hreg _ hcall)
  | create hcall hlocked _ => exact h.create hcall hlocked
  | giveUp hcall hlocked hfound =>
    have htrue := h.found _ _ hcall hlocked
    rw [hfound] at htrue
    cases htrue
  | regist _ =>
    refine ⟨h.caller, h.holds, fun th call hcall hlocked => ?_⟩
    exact ComponentFactories.isRegisted_regist_of (h.found th call hcall hlocked)

/-! ### Runs -/

/-- A thread that has locked a mutex for a class that is registered gives it back. -/
theorem step_find {s : FactoryState Thread} {th : Thread} {call : CreateCall}
    (hcall : s.calls th = some call) (hlocked : call.locked = true)
    (hreg : s.factories.isRegisted call.kinds call.className = true) :
    s.step (.find th) = some (s.create th call) := by
  simp only [step, hcall, Option.bind_some, hlocked, if_true, hreg]

/-- A thread that finds its mutex free comes to its end in two steps. -/
theorem lock_find {s : FactoryState Thread} {th : Thread} {call : CreateCall}
    (hcall : s.calls th = some call) (hopen : call.locked = false) (hfree : s.holder call.kinds = none)
    (hreg : s.factories.isRegisted call.kinds call.className = true) :
    ∃ t, [.lock th, .find th].foldlM step s = some t ∧ t.calls th = none := by
  have hlock : s.step (.lock th) = some (s.lock th call) := by
    simp only [step, hcall, Option.bind_some, hopen, hfree, Option.isNone_none, and_self, if_true]
  have hfind := step_find (lock_calls_self s th call) rfl hreg
  refine ⟨_, ?_, create_calls_self (s.lock th call) th { call with locked := true }⟩
  rw [List.foldlM_cons, hlock]
  show [FactoryEvent.find th].foldlM step (s.lock th call) = _
  rw [List.foldlM_cons, hfind]
  rfl

/-- **A handler can go on to its end**, after the thread that has locked the mutex, if one has. -/
theorem Locked.completes {s : FactoryState Thread} (h : s.Locked) {th : Thread}
    {proto : CreateComponentProto} {component : CreatedComponent} (hidle : s.calls th = none)
    (hcreates : s.factories.handleCreateComponent proto = some component) :
    ∃ es t, (.handleCreateComponent th proto :: es).foldlM FactoryState.step s = some t ∧
      t.calls th = none := by
  obtain ⟨hfirst, hreg⟩ := step_handleCreateComponent hidle hcreates
  have hcall := enter_calls_self s th component.className component.sn component.args
  cases hheld : s.holder (component.args.map ComponentArg.kind) with
  | none =>
    obtain ⟨t, ht, hend⟩ := lock_find hcall rfl hheld hreg
    refine ⟨[.lock th, .find th], t, ?_, hend⟩
    rw [List.foldlM_cons, hfirst]
    exact ht
  | some th' =>
    have hentered := h.enter hidle component.className component.sn component.args
    obtain ⟨call', hcall', hlocked', hkinds'⟩ := hentered.caller _ th' hheld
    have hfind := step_find hcall' hlocked' (hentered.found th' call' hcall' hlocked')
    have hne : th ≠ th' := by
      rintro rfl
      obtain rfl := Option.some.inj (hcall.symm.trans hcall')
      cases hlocked'
    have hfree := create_holder_self (s.enter th component.className component.sn component.args) th' call'
    rw [hkinds'] at hfree
    obtain ⟨t, ht, hend⟩ := lock_find ((create_calls_of_ne hne _ call').trans hcall) rfl hfree hreg
    refine ⟨.find th' :: [.lock th, .find th], t, ?_, hend⟩
    rw [List.foldlM_cons, hfirst]
    show (FactoryEvent.find th' :: _).foldlM FactoryState.step _ = _
    rw [List.foldlM_cons, hfind]
    exact ht

theorem Locked.usable {s : FactoryState Thread} (h : s.Locked) : s.Usable where
  released kinds th hheld := by
    obtain ⟨call, hcall, hlocked, rfl⟩ := h.caller kinds th hheld
    exact ⟨_, step_find hcall hlocked (h.found th call hcall hlocked), create_holder_self ..,
      create_calls_self ..⟩
  completes _ _ _ hidle hcreates := h.completes hidle hcreates
  creates _ _ _ hidle hcreates _ _ hsteps hend := creates_of_steps hidle hcreates hsteps hend

/-- After a step the factories are usable only if the step met the condition. -/
theorem Usable.registered {s t : FactoryState Thread} {e : FactoryEvent Thread} (h : t.Usable)
    (hstep : s.step e = some t) : s.Registered e := by
  cases steps_of_step hstep with
  | @lock th call hcall hopen hfree =>
    intro call' hcall'
    obtain rfl := Option.some.inj (hcall.symm.trans hcall')
    obtain ⟨u, hu, hreleased, -⟩ := h.released call.kinds th (lock_holder_self ..)
    cases steps_of_step hu with
    | create hcall'' _ hfound =>
      obtain rfl := Option.some.inj ((lock_calls_self ..).symm.trans hcall'')
      exact hfound
    | giveUp _ _ _ =>
      have hheld : (s.lock th call).holder call.kinds = none := hreleased
      rw [lock_holder_self] at hheld
      cases hheld
    | enter _ hstart => exact absurd rfl (hstart th).2
  | enter _ hstart =>
    cases e with
    | lock th => exact absurd rfl (hstart th).1
    | _ => trivial
  | _ => trivial

/-- A mutex that is locked by a thread that is elsewhere. -/
def Stuck (kinds : List ArgKind) (th : Thread) (s : FactoryState Thread) : Prop :=
  s.holder kinds = some th ∧ ∀ th' call, s.calls th' = some call → call.kinds = kinds → call.locked = false

/-- Nobody unlocks it, and no component is created with its factory. -/
theorem Stuck.step {kinds : List ArgKind} {th : Thread} {s t : FactoryState Thread}
    {e : FactoryEvent Thread} (h : s.Stuck kinds th) (hstep : s.step e = some t) :
    t.Stuck kinds th ∧ ∀ made ∈ t.created, made ∉ s.created → made.2.args.map ComponentArg.kind ≠ kinds := by
  obtain ⟨hheld, hopen⟩ := h
  cases steps_of_step hstep with
  | refuse => exact ⟨⟨hheld, hopen⟩, fun made hmade hnew => absurd hmade hnew⟩
  | @enter _ th' _ _ _ hidle _ =>
    refine ⟨⟨hheld, fun th'' call hcall hkinds => ?_⟩, fun made hmade hnew => absurd hmade hnew⟩
    by_cases hth : th'' = th'
    · subst hth
      obtain rfl := Option.some.inj ((enter_calls_self ..).symm.trans hcall)
      rfl
    · exact hopen th'' call ((enter_calls_of_ne hth ..).symm.trans hcall) hkinds
  | @lock th' call' hcall' hopen' hfree =>
    have hne : kinds ≠ call'.kinds := by
      rintro rfl
      rw [hheld] at hfree
      cases hfree
    refine ⟨⟨(lock_holder_of_ne hne ..).trans hheld, fun th'' call hcall hkinds => ?_⟩,
      fun made hmade hnew => absurd hmade hnew⟩
    by_cases hth : th'' = th'
    · subst hth
      obtain rfl := Option.some.inj ((lock_calls_self ..).symm.trans hcall)
      exact absurd hkinds.symm hne
    · exact hopen th'' call ((lock_calls_of_ne hth ..).symm.trans hcall) hkinds
  | @create th' call' hcall' hlocked' hfound =>
    have hne : kinds ≠ call'.kinds := by
      rintro rfl
      rw [hopen th' call' hcall' rfl] at hlocked'
      cases hlocked'
    refine ⟨⟨(create_holder_of_ne hne ..).trans hheld, fun th'' call hcall hkinds => ?_⟩,
      fun made hmade hnew => ?_⟩
    · by_cases hth : th'' = th'
      · subst hth
        rw [create_calls_self] at hcall
        cases hcall
      · exact hopen th'' call ((create_calls_of_ne hth ..).symm.trans hcall) hkinds
    · obtain hold | hlast := List.mem_append.1 hmade
      · exact absurd hold hnew
      · obtain rfl := List.mem_singleton.1 hlast
        exact Ne.symm hne
  | @giveUp th' _ _ _ _ =>
    refine ⟨⟨hheld, fun th'' call hcall hkinds => ?_⟩, fun made hmade hnew => absurd hmade hnew⟩
    by_cases hth : th'' = th'
    · subst hth
      rw [giveUp_calls_self] at hcall
      cases hcall
    · exact hopen th'' call ((giveUp_calls_of_ne hth ..).symm.trans hcall) hkinds
  | regist _ => exact ⟨⟨hheld, hopen⟩, fun made hmade hnew => absurd hmade hnew⟩

/-- **A class that is not found blocks its factory for good.**  Whatever is done from there on, the mutex
stays locked, and no component is created from arguments of these types. -/
theorem holder_stuck {s t : FactoryState Thread} {th : Thread} {call : CreateCall} (h : s.Locked)
    (hcall : s.calls th = some call)
    (hfound : s.factories.isRegisted call.kinds call.className = false) {es : List (FactoryEvent Thread)}
    (hsteps : (.lock th :: .find th :: es).foldlM FactoryState.step s = some t) :
    t.holder call.kinds = some th ∧
      ∀ made ∈ t.created, made ∉ s.created → made.2.args.map ComponentArg.kind ≠ call.kinds := by
  obtain ⟨u, hu, hrest⟩ := Option.bind_eq_some_iff.1 ((List.foldlM_cons ..).symm.trans hsteps)
  obtain ⟨v, hv, hafter⟩ := Option.bind_eq_some_iff.1 ((List.foldlM_cons ..).symm.trans hrest)
  cases steps_of_step hu with
  | enter _ hstart => exact absurd rfl (hstart th).1
  | lock hcall' _ hfree =>
    obtain rfl := Option.some.inj (hcall.symm.trans hcall')
    cases steps_of_step hv with
    | enter _ hstart => exact absurd rfl (hstart th).2
    | create hcall'' _ hfound' =>
      obtain rfl := Option.some.inj ((lock_calls_self ..).symm.trans hcall'')
      exact absurd hfound' (Bool.not_eq_true _ ▸ hfound)
    | giveUp _ _ _ =>
      have hstuck : ((s.lock th call).giveUp th).Stuck call.kinds th := by
        refine ⟨lock_holder_self .., fun th' call' hcall' hkinds => ?_⟩
        by_cases hth : th' = th
        · subst hth
          rw [giveUp_calls_self] at hcall'
          cases hcall'
        · -- a second thread with this mutex would have kept the first one from locking it
          have hcalls : s.calls th' = some call' :=
            (lock_calls_of_ne hth ..).symm.trans ((giveUp_calls_of_ne hth ..).symm.trans hcall')
          refine Bool.not_eq_true _ ▸ fun hlocked => ?_
          have hheld := h.holds th' call' hcalls hlocked
          rw [hkinds, hfree] at hheld
          cases hheld
      let q := fun t : FactoryState Thread => t.Stuck call.kinds th ∧
        ∀ made ∈ t.created, made ∉ s.created → made.2.args.map ComponentArg.kind ≠ call.kinds
      have hq : q t := by
        refine foldlM_invariant (q := q) (fun u e v hq hstep => ?_)
          ⟨hstuck, fun made hmade hnew => absurd hmade hnew⟩ hafter
        obtain ⟨hstuck', hnone⟩ := hq.1.step hstep
        refine ⟨hstuck', fun made hmade hnew => ?_⟩
        by_cases hold : made ∈ u.created
        · exact hq.2 made hold hnew
        · exact hnone made hmade hold
      exact ⟨hq.1.1, hq.2⟩

end FactoryState

/-- **When the component factories remain usable.**  As long as each mutex is locked for a class that is
registered they are, and the first step that does not meet this ends it. -/
theorem usable_run {Thread : Type} [DecidableEq Thread] {es : List (FactoryEvent Thread)}
    {s : FactoryState Thread}
    (hrun : ((FactoryState.system Thread).restrict FactoryState.Registered).Run es s) :
    s.Usable ∧ ∀ e t, s.step e = some t → (t.Usable ↔ s.Registered e) := by
  refine Transition.System.Run.restrict_exact (p := FactoryState.Locked)
    (fun _ hinit => .of_initial hinit) (fun _ h => h.usable) (fun s e t h hstep => ?_) hrun
  exact ⟨⟨fun husable => husable.registered hstep, fun hreg => (h.step hreg hstep).usable⟩,
    fun hreg => h.step hreg hstep⟩

/-- The start of a server that has registered `classes` for no arguments. -/
def startState (classes : List (List UInt8)) : FactoryState (Fin 2) where
  factories := ⟨fun kinds => if kinds = [] then classes else []⟩
  holder _ := none
  calls _ := none
  created := []

theorem initial_startState (classes : List (List UInt8)) : (startState classes).Initial :=
  ⟨fun _ => rfl, fun _ => rfl, rfl⟩

/-- A thread handles a packet for a class without arguments. -/
def handles (th : Fin 2) (className : List UInt8) : List (FactoryEvent (Fin 2)) :=
  [.handleCreateComponent th ⟨2, className, false, [], 7⟩, .lock th, .find th]

/-- Two threads create a component of the same class, one after the other. -/
theorem exists_usable : ∃ s, ((FactoryState.system (Fin 2)).restrict FactoryState.Registered).Run
    (handles 0 [65] ++ handles 1 [65]) s ∧ s.Usable := by
  have hsome : (Transition.System.execute FactoryState.step FactoryState.Registered (startState [[65]])
      (handles 0 [65] ++ handles 1 [65])).isSome = true := by
    decide +kernel
  obtain ⟨s, hs⟩ := Option.isSome_iff_exists.1 hsome
  have hrun := Transition.System.run_of_execute (initial_startState [[65]]) hs
  exact ⟨s, hrun, (usable_run hrun).1⟩

/-- **A request for a class that was never registered** keeps the mutex. -/
theorem not_usable : ¬ ∀ (es : List (FactoryEvent (Fin 2))) (s : FactoryState (Fin 2)),
    (FactoryState.system (Fin 2)).Run es s → s.Usable := by
  intro h
  have hends : (Transition.System.execute FactoryState.step (fun _ _ => True) (startState [[65]])
      (handles 0 [66])).map (fun s => (s.holder [], (s.step (.find 0)).isNone)) = some (some 0, true) := by
    decide +kernel
  obtain ⟨s, hs, hend⟩ := Option.map_eq_some_iff.1 hends
  have hrun := Transition.System.run_of_execute_true (initial_startState [[65]]) hs
  obtain ⟨hheld, hnone⟩ := Prod.mk.inj hend
  obtain ⟨t, ht, -⟩ := (h _ s hrun).released [] 0 hheld
  rw [ht] at hnone
  cases hnone

end MmoServer
