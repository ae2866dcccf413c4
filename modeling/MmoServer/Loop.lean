/-
**Loops that may not end.**

A `while` loop of a program is run for a number of rounds that is given from outside; the result is
`none` if the body fails, or if the rounds do not suffice.  So a loop ends when some number of
rounds gives a result, and the result does not depend on the number.

Main definitions:

* `Loop.run` — a loop, for at most so many rounds;
* `Loop.Reaches` — the states that a loop comes to before a round, whether it ends or not.

Main results:

* `Loop.run_mono` — **more rounds do not change a result**;
* `Loop.run_invariant` — what the body keeps holds at the end;
* `Loop.Reaches.invariant` — and before every round;
* `Loop.exists_run` — **termination**: a loop whose body keeps an invariant and decreases a measure
  ends, and the invariant holds at its end;
* `Loop.run_eq_none` — **divergence**: a loop whose body keeps an invariant under which the
  condition holds does not end.
-/

import Mathlib.Data.Nat.Notation

set_option relaxedAutoImplicit false
set_option autoImplicit false

namespace Loop

variable {σ : Type*} {cond : σ → Bool} {body : σ → Option σ}

/-- `while (cond) body;`, run for at most so many rounds. -/
def run (cond : σ → Bool) (body : σ → Option σ) : ℕ → σ → Option σ
  | 0, s => if cond s then none else some s
  | fuel + 1, s => if cond s then (body s).bind (run cond body fuel) else some s

theorem run_of_not (fuel : ℕ) {s : σ} (h : cond s = false) : run cond body fuel s = some s := by
  cases fuel with
  | zero => exact if_neg (by rw [h]; exact Bool.false_ne_true)
  | succ fuel => exact if_neg (by rw [h]; exact Bool.false_ne_true)

theorem run_succ_of (fuel : ℕ) {s t : σ} (h : cond s = true) (hbody : body s = some t) :
    run cond body (fuel + 1) s = run cond body fuel t := by
  rw [run, if_pos h, hbody, Option.bind_some]

/-- A loop whose body fails in its first round has no result. -/
theorem run_of_body_none (fuel : ℕ) {s : σ} (h : cond s = true) (hbody : body s = none) :
    run cond body fuel s = none := by
  cases fuel with
  | zero => exact if_pos h
  | succ fuel => rw [run, if_pos h, hbody, Option.bind_none]

/-- One more round does not change a result. -/
theorem run_succ {fuel : ℕ} {s t : σ} (h : run cond body fuel s = some t) :
    run cond body (fuel + 1) s = some t := by
  induction fuel generalizing s with
  | zero =>
    cases hc : cond s with
    | true => rw [run, if_pos hc] at h; cases h
    | false =>
      rw [run_of_not 0 hc] at h
      rw [run_of_not 1 hc, h]
  | succ fuel ih =>
    cases hc : cond s with
    | true =>
      cases hb : body s with
      | none => rw [run, if_pos hc, hb] at h; cases h
      | some u =>
        rw [run_succ_of fuel hc hb] at h
        rw [run_succ_of (fuel + 1) hc hb]
        exact ih h
    | false =>
      rw [run_of_not _ hc] at h
      rw [run_of_not _ hc, h]

/-- **More rounds do not change a result.** -/
theorem run_mono {fuel fuel' : ℕ} (hle : fuel ≤ fuel') {s t : σ}
    (h : run cond body fuel s = some t) : run cond body fuel' s = some t := by
  induction hle with
  | refl => exact h
  | step _ ih => exact run_succ ih

/-- What the body keeps holds at the end of the loop. -/
theorem run_invariant {inv : σ → Prop} (hbody : ∀ s t, inv s → body s = some t → inv t)
    {fuel : ℕ} {s t : σ} (h : inv s) (hrun : run cond body fuel s = some t) : inv t := by
  induction fuel generalizing s with
  | zero =>
    cases hc : cond s with
    | true => rw [run, if_pos hc] at hrun; cases hrun
    | false =>
      rw [run_of_not 0 hc] at hrun
      exact Option.some.inj hrun ▸ h
  | succ fuel ih =>
    cases hc : cond s with
    | true =>
      cases hb : body s with
      | none =>
        rw [run_of_body_none _ hc hb] at hrun
        cases hrun
      | some u =>
        rw [run_succ_of fuel hc hb] at hrun
        exact ih (hbody s u h hb) hrun
    | false =>
      rw [run_of_not _ hc] at hrun
      exact Option.some.inj hrun ▸ h

/-- **Termination.**  The body keeps `inv` and decreases `measure` while the condition holds. -/
theorem exists_run {inv : σ → Prop} {measure : σ → ℕ}
    (hbody : ∀ s, inv s → cond s = true → ∃ t, body s = some t ∧ inv t ∧ measure t < measure s)
    {s : σ} (h : inv s) :
    ∃ t, run cond body (measure s) s = some t ∧ inv t ∧ cond t = false := by
  suffices haux : ∀ n s, inv s → measure s ≤ n →
      ∃ t, run cond body n s = some t ∧ inv t ∧ cond t = false from haux _ s h (Nat.le_refl _)
  intro n
  induction n with
  | zero =>
    intro s hs hn
    cases hc : cond s with
    | true =>
      obtain ⟨t, -, -, hlt⟩ := hbody s hs hc
      omega
    | false => exact ⟨s, run_of_not 0 hc, hs, hc⟩
  | succ n ih =>
    intro s hs hn
    cases hc : cond s with
    | true =>
      obtain ⟨t, ht, hinv, hlt⟩ := hbody s hs hc
      obtain ⟨u, hu, hinvu, hcu⟩ := ih t hinv (by omega)
      exact ⟨u, by rw [run_succ_of n hc ht]; exact hu, hinvu, hcu⟩
    | false => exact ⟨s, run_of_not _ hc, hs, hc⟩

/-- **Divergence.**  The body keeps `inv`, or fails, and the condition holds as long as `inv`
does. -/
theorem run_eq_none {inv : σ → Prop} (hcond : ∀ s, inv s → cond s = true)
    (hbody : ∀ s t, inv s → body s = some t → inv t) (fuel : ℕ) {s : σ} (h : inv s) :
    run cond body fuel s = none := by
  induction fuel generalizing s with
  | zero => exact if_pos (hcond s h)
  | succ fuel ih =>
    rw [run, if_pos (hcond s h)]
    cases hb : body s with
    | none => rfl
    | some t => exact ih (hbody s t h hb)

/-- What a loop comes to: the state before each of its rounds, and the one at its end. -/
inductive Reaches (cond : σ → Bool) (body : σ → Option σ) (s : σ) : σ → Prop
  | refl : Reaches cond body s s
  | round {t u : σ} : Reaches cond body s t → cond t = true → body t = some u → Reaches cond body s u

/-- What the body keeps holds before every round. -/
theorem Reaches.invariant {inv : σ → Prop} (hbody : ∀ s t, inv s → body s = some t → inv t)
    {s t : σ} (h : inv s) (hreaches : Reaches cond body s t) : inv t := by
  induction hreaches with
  | refl => exact h
  | round _ _ hround ih => exact hbody _ _ ih hround

end Loop
