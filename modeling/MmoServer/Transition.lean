/-
**Labelled transition systems and their runs.**

A system is a set of initial states and a labelled step relation; what happens during a run is the
list of its labels.  This module has the rules by which a property of one step becomes a property
of every run, over arbitrary types of states and labels.

Main definitions:

* `Transition.System` — initial states and labelled steps;
* `Transition.System.Run` — the runs of a system, with their labels;
* `Transition.System.restrict` — the runs whose every step meets a condition;
* `Transition.System.ofFun`, `Transition.System.execute` — the system of a partial function, and
  its execution on a list of labels;
* `Transition.System.Simulates` — every step of one system is a step of another.

Main results:

* `Transition.System.Run.invariant` — **what every step preserves holds after every run**;
* `Transition.System.Run.invariant_trace` — the same for a relation between the labels so far and
  the state;
* `Transition.System.Run.of_restrict` — a restricted run is a run;
* `Transition.System.Run.restrict_invariant` — the invariant rule for steps that meet a condition;
* `Transition.System.Run.restrict_exact` — **an exact condition** for a property of the states;
* `Transition.System.run_of_execute` — an execution is a run;
* `Transition.System.Simulates.run` — **simulation of runs**.
-/

import Mathlib.Data.List.Basic

set_option relaxedAutoImplicit false
set_option autoImplicit false

namespace Transition

/-- A transition system with labelled steps. -/
structure System (State Event : Type*) where
  init : State → Prop
  step : State → Event → State → Prop

namespace System

variable {State State' Event : Type*}

/-! ### Runs -/

/-- The runs of a system.  The labels stand in the order in which the steps were taken. -/
inductive Run (S : System State Event) : List Event → State → Prop
  | init {s : State} : S.init s → Run S [] s
  | step {es : List Event} {s t : State} {e : Event} :
      Run S es s → S.step s e t → Run S (es ++ [e]) t

variable {S : System State Event}

/-- **The trace rule.**  A relation between labels and state that holds at the start and survives
each step holds after every run. -/
theorem Run.invariant_trace {p : List Event → State → Prop} (hinit : ∀ s, S.init s → p [] s)
    (hstep : ∀ es s e t, p es s → S.step s e t → p (es ++ [e]) t) {es : List Event} {s : State}
    (hrun : S.Run es s) : p es s := by
  induction hrun with
  | init h => exact hinit _ h
  | step _ h ih => exact hstep _ _ _ _ ih h

/-- **The invariant rule.** -/
theorem Run.invariant {p : State → Prop} (hinit : ∀ s, S.init s → p s)
    (hstep : ∀ s e t, p s → S.step s e t → p t) {es : List Event} {s : State}
    (hrun : S.Run es s) : p s :=
  hrun.invariant_trace (p := fun _ s => p s) hinit fun _ => hstep

/-! ### Conditions on the steps -/

/-- The system whose steps are those of `S` that meet `guard`, a condition on the state before
the step and the label. -/
def restrict (S : System State Event) (guard : State → Event → Prop) : System State Event where
  init := S.init
  step s e t := guard s e ∧ S.step s e t

theorem Run.of_restrict {guard : State → Event → Prop} {es : List Event} {s : State}
    (hrun : (S.restrict guard).Run es s) : S.Run es s := by
  induction hrun with
  | init h => exact Run.init h
  | step _ h ih => exact Run.step ih h.2

/-- A run under a condition is a run under a weaker one. -/
theorem Run.restrict_mono {guard guard' : State → Event → Prop}
    (hguard : ∀ s e, guard s e → guard' s e) {es : List Event} {s : State}
    (hrun : (S.restrict guard).Run es s) : (S.restrict guard').Run es s := by
  induction hrun with
  | init h => exact Run.init h
  | step _ h ih => exact Run.step ih ⟨hguard _ _ h.1, h.2⟩

/-- **The invariant rule for steps that meet a condition.** -/
theorem Run.restrict_invariant {guard : State → Event → Prop} {p : State → Prop}
    (hinit : ∀ s, S.init s → p s)
    (hstep : ∀ s e t, p s → guard s e → S.step s e t → p t) {es : List Event} {s : State}
    (hrun : (S.restrict guard).Run es s) : p s := by
  refine Run.invariant (S := S.restrict guard) hinit (fun s e t hs h => ?_) hrun
  exact hstep s e t hs h.1 h.2

/-- **An exact condition.**  If a property follows from an invariant, and a step meets the condition
exactly if it keeps the property, which is enough for the invariant, then the property holds after
every run under the condition, and the first step that does not meet it breaks the property. -/
theorem Run.restrict_exact {guard : State → Event → Prop} {p q : State → Prop}
    (hinit : ∀ s, S.init s → p s) (hq : ∀ s, p s → q s)
    (hstep : ∀ s e t, p s → S.step s e t → (q t ↔ guard s e) ∧ (guard s e → p t))
    {es : List Event} {s : State} (hrun : (S.restrict guard).Run es s) :
    q s ∧ ∀ e t, S.step s e t → (q t ↔ guard s e) := by
  have hp : p s := hrun.restrict_invariant hinit fun s e t hs hguard h =>
    (hstep s e t hs h).2 hguard
  exact ⟨hq s hp, fun e t h => (hstep s e t hp h).1⟩

/-! ### Execution -/

/-- The system whose steps are those of a partial function. -/
def ofFun (init : State → Prop) (f : State → Event → Option State) : System State Event where
  init := init
  step s e t := f s e = some t

/-- Take steps with the given labels, as long as they meet `guard`. -/
def execute (f : State → Event → Option State) (guard : State → Event → Prop)
    [∀ s e, Decidable (guard s e)] : State → List Event → Option State
  | s, [] => some s
  | s, e :: es => if guard s e then (f s e).bind fun t => execute f guard t es else none

/-- An execution continues a run. -/
theorem Run.execute {init : State → Prop} {f : State → Event → Option State}
    {guard : State → Event → Prop} [∀ s e, Decidable (guard s e)] {es es' : List Event}
    {s t : State} (hrun : ((ofFun init f).restrict guard).Run es s)
    (h : execute f guard s es' = some t) :
    ((ofFun init f).restrict guard).Run (es ++ es') t := by
  induction es' generalizing es s with
  | nil =>
    obtain rfl := Option.some.inj h
    rw [List.append_nil]
    exact hrun
  | cons e es' ih =>
    unfold System.execute at h
    split at h
    · rename_i hguard
      obtain ⟨u, hu, ht⟩ := Option.bind_eq_some_iff.1 h
      have hthen := ih (hrun.step ⟨hguard, hu⟩) ht
      rw [List.append_assoc] at hthen
      exact hthen
    · cases h

/-- **An execution is a run.** -/
theorem run_of_execute {init : State → Prop} {f : State → Event → Option State}
    {guard : State → Event → Prop} [∀ s e, Decidable (guard s e)] {es : List Event} {s t : State}
    (hinit : init s) (h : execute f guard s es = some t) :
    ((ofFun init f).restrict guard).Run es t := by
  have hstart : ((ofFun init f).restrict guard).Run [] s := Run.init hinit
  exact hstart.execute h

/-- An execution whose events are not restricted. -/
theorem run_of_execute_true {init : State → Prop} {f : State → Event → Option State} {es : List Event}
    {s t : State} (hinit : init s) (h : execute f (fun _ _ => True) s es = some t) : (ofFun init f).Run es t :=
  (run_of_execute hinit h).of_restrict

/-! ### Simulation -/

/-- Every step of `S` is a step of `T` with the same label, between related states. -/
structure Simulates (S : System State Event) (T : System State' Event)
    (R : State → State' → Prop) : Prop where
  init : ∀ s, S.init s → ∃ s', T.init s' ∧ R s s'
  step : ∀ s s' e t, R s s' → S.step s e t → ∃ t', T.step s' e t' ∧ R t t'

/-- **Simulation.**  A run of the simulated system is, label for label, a run of the other. -/
theorem Simulates.run {T : System State' Event} {R : State → State' → Prop}
    (h : S.Simulates T R) {es : List Event} {s : State} (hrun : S.Run es s) :
    ∃ s', T.Run es s' ∧ R s s' := by
  induction hrun with
  | init hs =>
    obtain ⟨s', hs', hR⟩ := h.init _ hs
    exact ⟨s', Run.init hs', hR⟩
  | step _ hst ih =>
    obtain ⟨s', hrun', hR⟩ := ih
    obtain ⟨t', ht', hR'⟩ := h.step _ _ _ _ hR hst
    exact ⟨t', Run.step hrun' ht', hR'⟩

end System

end Transition
