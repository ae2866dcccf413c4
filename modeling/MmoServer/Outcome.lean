/-
**Handlers that send, and may crash.**

The handler of a message changes the state of its component, and sends messages on the way.  It may
read through a null pointer; what it had sent by then is under way, and there is no component any
more.  This module has the outcomes of such handlers, over arbitrary types of states and messages,
and the rules by which a property of the parts becomes one of the whole.

Main definitions:

* `Handler.Outcome` — what was sent, and the state, if there is one;
* `Handler.Outcome.andThen`, `Handler.forEach` — one handler after another, and a loop;
* `Handler.Outcome.Meets` — a property of all that is sent, and of the state;
* `Handler.Outcome.Ends` — a relation between what is sent and the state.

Main results:

* `Handler.Outcome.Meets.andThen`, `Handler.Outcome.Ends.andThen` — **the rules of sequence**;
* `Handler.meets_forEach`, `Handler.ends_forEach` — **the rules of the loop**, with an invariant;
* `Handler.runs_forEach` — the loop, if no round crashes.
-/

import Mathlib.Data.List.Basic

set_option relaxedAutoImplicit false
set_option autoImplicit false

namespace Handler

/-- What a handler has sent, and the state behind it; no state if it crashed. -/
structure Outcome (σ μ : Type*) where
  sent : List μ
  state : Option σ

variable {σ μ α : Type*}

namespace Outcome

/-- Nothing is sent. -/
def pure (s : σ) : Outcome σ μ := ⟨[], some s⟩

/-- Some messages are sent. -/
def send (sent : List μ) (s : σ) : Outcome σ μ := ⟨sent, some s⟩

/-- The handler reads through a null pointer, after some messages. -/
def crash (sent : List μ) : Outcome σ μ := ⟨sent, none⟩

/-- One handler after another. -/
def andThen (o : Outcome σ μ) (f : σ → Outcome σ μ) : Outcome σ μ :=
  match o.state with
  | none => o
  | some s => ⟨o.sent ++ (f s).sent, (f s).state⟩

/-- Every message has one property, and the state, if there is one, another. -/
def Meets (o : Outcome σ μ) (Q : μ → Prop) (P : σ → Prop) : Prop :=
  (∀ m ∈ o.sent, Q m) ∧ ∀ s, o.state = some s → P s

/-- What was sent, and the state, if there is one, are related. -/
def Ends (o : Outcome σ μ) (P : List μ → σ → Prop) : Prop :=
  ∀ s, o.state = some s → P o.sent s

end Outcome

/-- A handler for each element of a list, in the order of the list. -/
def forEach (f : α → σ → Outcome σ μ) : List α → σ → Outcome σ μ
  | [], s => Outcome.pure s
  | a :: as, s => (f a s).andThen (forEach f as)

/-! ### The rules -/

namespace Outcome

@[simp] theorem andThen_pure (s : σ) (f : σ → Outcome σ μ) : (pure s).andThen f = f s := rfl

variable {Q : μ → Prop} {P R : σ → Prop}

theorem meets_pure {s : σ} (h : P s) : (pure s : Outcome σ μ).Meets Q P := by
  refine ⟨fun m hm => ?_, fun t ht => ?_⟩
  · cases hm
  · rw [← Option.some.inj ht]
    exact h

theorem meets_send {sent : List μ} {s : σ} (hsent : ∀ m ∈ sent, Q m) (h : P s) :
    (send sent s).Meets Q P := by
  refine ⟨hsent, fun t ht => ?_⟩
  rw [← Option.some.inj ht]
  exact h

theorem meets_crash {sent : List μ} (hsent : ∀ m ∈ sent, Q m) :
    (crash sent : Outcome σ μ).Meets Q P := by
  refine ⟨hsent, fun t ht => ?_⟩
  cases ht

/-- **Sequence.** -/
theorem Meets.andThen {o : Outcome σ μ} {f : σ → Outcome σ μ} (ho : o.Meets Q P)
    (hf : ∀ s, P s → (f s).Meets Q R) : (o.andThen f).Meets Q R := by
  unfold Outcome.andThen
  cases hs : o.state with
  | none =>
    refine ⟨ho.1, fun t ht => ?_⟩
    rw [hs] at ht
    cases ht
  | some s =>
    have hthen := hf s (ho.2 s hs)
    refine ⟨fun m hm => ?_, hthen.2⟩
    rcases List.mem_append.1 hm with hfirst | hsecond
    · exact ho.1 m hfirst
    · exact hthen.1 m hsecond

theorem Meets.mono {o : Outcome σ μ} {Q' : μ → Prop} (ho : o.Meets Q P)
    (hsent : ∀ m, Q m → Q' m) (hstate : ∀ s, P s → R s) : o.Meets Q' R :=
  ⟨fun m hm => hsent m (ho.1 m hm), fun s hs => hstate s (ho.2 s hs)⟩

end Outcome

/-- **The loop.**  What one round keeps, the loop keeps. -/
theorem meets_forEach {f : α → σ → Outcome σ μ} {Q : μ → Prop} {P : σ → Prop} {as : List α}
    (hf : ∀ a ∈ as, ∀ s, P s → (f a s).Meets Q P) {s : σ} (h : P s) :
    (forEach f as s).Meets Q P := by
  induction as generalizing s with
  | nil => exact Outcome.meets_pure h
  | cons a as ih =>
    refine (hf a (List.mem_cons_self ..) s h).andThen fun t ht => ?_
    exact ih (fun b hb => hf b (List.mem_cons_of_mem _ hb)) ht

/-! ### The rules for relations -/

namespace Outcome

variable {P R : List μ → σ → Prop}

theorem ends_pure {s : σ} (h : P [] s) : (pure s : Outcome σ μ).Ends P := by
  intro t ht
  obtain rfl := Option.some.inj ht
  exact h

theorem ends_send {sent : List μ} {s : σ} (h : P sent s) : (send sent s).Ends P := by
  intro t ht
  obtain rfl := Option.some.inj ht
  exact h

/-- There is no state behind a crash. -/
theorem ends_crash {sent : List μ} : (crash sent : Outcome σ μ).Ends P := by
  intro t ht
  cases ht

theorem Ends.mono {o : Outcome σ μ} (ho : o.Ends P) (h : ∀ sent s, P sent s → R sent s) :
    o.Ends R :=
  fun s hs => h o.sent s (ho s hs)

/-- **Sequence.**  The second handler starts with what the first one has sent. -/
theorem Ends.andThen {o : Outcome σ μ} {f : σ → Outcome σ μ} (ho : o.Ends P)
    (hf : ∀ sent s, P sent s → (f s).Ends fun more t => R (sent ++ more) t) :
    (o.andThen f).Ends R := by
  intro t ht
  unfold Outcome.andThen at ht ⊢
  cases hs : o.state with
  | none =>
    simp only [hs] at ht
    cases ht
  | some s =>
    simp only [hs] at ht ⊢
    exact hf o.sent s (ho s hs) t ht

end Outcome

/-- **The loop.**  What one round keeps, whatever was sent before it, the loop keeps. -/
theorem ends_forEach {f : α → σ → Outcome σ μ} {P : List μ → σ → Prop} {as : List α}
    (hf : ∀ a ∈ as, ∀ sent s, P sent s → (f a s).Ends fun more t => P (sent ++ more) t)
    {sent : List μ} {s : σ} (h : P sent s) :
    (forEach f as s).Ends fun more t => P (sent ++ more) t := by
  induction as generalizing sent s with
  | nil =>
    refine Outcome.ends_pure ?_
    rw [List.append_nil]
    exact h
  | cons a as ih =>
    refine (hf a (List.mem_cons_self ..) sent s h).andThen fun more t ht => ?_
    refine (ih (fun b hb => hf b (List.mem_cons_of_mem _ hb)) ht).mono fun rest u hu => ?_
    rw [← List.append_assoc]
    exact hu

/-! ### Loops without a crash -/

/-- **The loop, if no round crashes.**  What a round makes stays, and the loop sends what the rounds send. -/
theorem runs_forEach {ν : Type*} {f : α → σ → Outcome σ μ} (P : σ → Prop) (Q : α → σ → Prop)
    (kind : μ → Option ν) (g : α → List ν) {as : List α}
    (hf : ∀ a ∈ as, ∀ s, P s → ∃ t, (f a s).state = some t ∧ P t ∧ Q a t ∧ (∀ b, Q b s → Q b t) ∧
      (f a s).sent.filterMap kind = g a) {s : σ} (h : P s) :
    ∃ t, (forEach f as s).state = some t ∧ P t ∧ (∀ a ∈ as, Q a t) ∧ (∀ b, Q b s → Q b t) ∧
      (forEach f as s).sent.filterMap kind = as.flatMap g := by
  induction as generalizing s with
  | nil => exact ⟨s, rfl, h, fun a ha => (List.not_mem_nil ha).elim, fun b hb => hb, rfl⟩
  | cons a as ih =>
    obtain ⟨t, ht, hP, hQ, hkeeps, hsent⟩ := hf a List.mem_cons_self s h
    obtain ⟨u, hu, hP', hall, hkeeps', hsent'⟩ := ih (fun b hb => hf b (List.mem_cons_of_mem _ hb)) hP
    unfold forEach Outcome.andThen
    simp only [ht]
    refine ⟨u, hu, hP', fun b hb => ?_, fun b hb => hkeeps' b (hkeeps b hb), ?_⟩
    · rcases List.mem_cons.1 hb with rfl | hlater
      · exact hkeeps' b hQ
      · exact hall b hlater
    · rw [List.filterMap_append, hsent, hsent', List.flatMap_cons]

end Handler
