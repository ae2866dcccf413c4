/-
**Fair runs, and what they come to.**

The labels of a system may belong to processes.  A process is enabled if it can take a step; in a fair run every
process, again and again, takes a step or is not enabled.  A state that does not go on is a part of a run as
well, so that runs can be infinite although the system comes to an end.

Main definitions:

* `Transition.System.Enabled` — a process can take a step;
* `Transition.System.FairRun` — the infinite runs in which no enabled process waits for ever.

Main results:

* `Transition.System.FairRun.eventually` — **progress by a rank**: as long as the goal is not reached, a helpful
  process is enabled, its steps lower the rank, and the steps of the others do that or let it stay helpful;
* `Transition.System.exists_fairRun_of_execute` — an execution to a state in which no process is enabled is the
  beginning of a fair run.
-/

import Mathlib.Order.WellFounded
import MmoServer.Transition

set_option relaxedAutoImplicit false
set_option autoImplicit false

namespace Transition

namespace System

variable {State Event Proc : Type*}

/-! ### Fairness -/

/-- A process can take a step. -/
def Enabled (S : System State Event) (proc : Event → Option Proc) (p : Proc) (s : State) : Prop :=
  ∃ e t, proc e = some p ∧ S.step s e t

/-- **A fair run.**  It begins behind some steps; each of its states is the last one, or comes from it by a
step; and every process, again and again, takes a step or is not enabled. -/
structure FairRun (S : System State Event) (proc : Event → Option Proc) (x : ℕ → State) : Prop where
  start : ∃ es, S.Run es (x 0)
  steps : ∀ n, x (n + 1) = x n ∨ ∃ e, S.step (x n) e (x (n + 1))
  fair : ∀ p n, ∃ m, n ≤ m ∧
    ((∃ e, proc e = some p ∧ S.step (x m) e (x (m + 1))) ∨ ¬ S.Enabled proc p (x m))

variable {S : System State Event} {proc : Event → Option Proc} {x : ℕ → State}

/-- Every state of it is one behind a run. -/
theorem FairRun.run (h : S.FairRun proc x) (n : ℕ) : ∃ es, S.Run es (x n) := by
  induction n with
  | zero => exact h.start
  | succ n ih =>
    obtain ⟨es, hrun⟩ := ih
    rcases h.steps n with heq | ⟨e, hstep⟩
    · rw [heq]
      exact ⟨es, hrun⟩
    · exact ⟨es ++ [e], hrun.step hstep⟩

/-- What steps preserve holds from a state on. -/
theorem FairRun.invariant {p : State → Prop} (h : S.FairRun proc x)
    (hstep : ∀ s e t, p s → S.step s e t → p t) {n : ℕ} (hn : p (x n)) (k : ℕ) : p (x (n + k)) := by
  induction k with
  | zero => exact hn
  | succ k ih =>
    rcases h.steps (n + k) with heq | ⟨e, he⟩
    · rw [← Nat.add_assoc, heq]
      exact ih
    · exact hstep _ _ _ ih he

/-! ### Progress -/

section

variable {Rank : Type*} [Preorder Rank] {inv goal : State → Prop} {rank : State → Rank} {helpful : State → Proc}

/-- What a step does as long as the goal is not reached: it reaches the goal, lowers the rank, or is one of a
process that is not the helpful one, which stays so. -/
def Ranked (S : System State Event) (proc : Event → Option Proc) (goal : State → Prop) (rank : State → Rank)
    (helpful : State → Proc) (s : State) : Prop :=
  ∀ e t, S.step s e t → goal t ∨ rank t < rank s ∨
    rank t = rank s ∧ helpful t = helpful s ∧ proc e ≠ some (helpful s)

/-- The rank stays as it is, and the helpful process helpful, until one of them is lower. -/
theorem FairRun.stays (h : S.FairRun proc x) {n : ℕ} (hinv : ∀ k, inv (x (n + k)))
    (hranked : ∀ s, inv s → ¬ goal s → S.Ranked proc goal rank helpful s)
    (hno : ∀ k, ¬ goal (x (n + k))) (hlow : ∀ k, ¬ rank (x (n + k)) < rank (x n)) (k : ℕ) :
    rank (x (n + k)) = rank (x n) ∧ helpful (x (n + k)) = helpful (x n) := by
  induction k with
  | zero => exact ⟨rfl, rfl⟩
  | succ k ih =>
    obtain ⟨hrank, hhelpful⟩ := ih
    rcases h.steps (n + k) with heq | ⟨e, he⟩
    · rw [← Nat.add_assoc, heq]
      exact ⟨hrank, hhelpful⟩
    · rcases hranked _ (hinv k) (hno k) e _ he with hgoal | hlt | ⟨hsame, hstill, -⟩
      · exact absurd hgoal (hno (k + 1))
      · exact absurd (hrank ▸ hlt) (hlow (k + 1))
      · exact ⟨hsame.trans hrank, hstill.trans hhelpful⟩

/-- **Progress by a rank.**  If, as long as the goal is not reached, some process is enabled that lowers the rank
by its step, and the steps of the others lower it too or let that process stay the helpful one, then a fair run
reaches the goal. -/
theorem FairRun.eventually [WellFoundedLT Rank] (h : S.FairRun proc x) (inv goal : State → Prop)
    (rank : State → Rank) (helpful : State → Proc) (hstart : inv (x 0))
    (hinv : ∀ s e t, inv s → S.step s e t → inv t)
    (henabled : ∀ s, inv s → ¬ goal s → S.Enabled proc (helpful s) s)
    (hranked : ∀ s, inv s → ¬ goal s → S.Ranked proc goal rank helpful s) : ∃ n, goal (x n) := by
  have hall : ∀ n, inv (x n) := fun n => by
    simpa using h.invariant hinv (n := 0) hstart n
  by_contra hnone
  have hno : ∀ n, ¬ goal (x n) := fun n hgoal => hnone ⟨n, hgoal⟩
  -- the rank of some state is lower than that of any other: the rank cannot go down from there
  have hlower : ∀ r n, rank (x n) = r → False := by
    intro r
    induction r using WellFoundedLT.induction with
    | _ r ih =>
      rintro n rfl
      have hstays := h.stays (n := n) (fun k => hall _) hranked (fun k => hno _)
        fun k hlt => ih _ hlt (n + k) rfl
      obtain ⟨m, hle, hact⟩ := h.fair (helpful (x n)) n
      obtain ⟨k, rfl⟩ := Nat.exists_eq_add_of_le hle
      obtain ⟨hrank, hhelpful⟩ := hstays k
      rcases hact with ⟨e, hproc, hstep⟩ | hnot
      · rcases hranked _ (hall _) (hno _) e _ hstep with hgoal | hlt | ⟨-, -, hne⟩
        · exact hno _ hgoal
        · exact ih _ (hrank ▸ hlt) (n + k + 1) rfl
        · exact hne (hhelpful ▸ hproc)
      · exact hnot (hhelpful ▸ henabled _ (hall _) (hno _))
  exact hlower _ 0 rfl

end

/-! ### Runs that come to an end -/

/-- **A state in which no process is enabled**, for ever. -/
theorem fairRun_of_halt {es : List Event} {s : State} (hrun : S.Run es s) (hhalt : ∀ p, ¬ S.Enabled proc p s) :
    S.FairRun proc fun _ => s where
  start := ⟨es, hrun⟩
  steps := fun _ => .inl rfl
  fair := fun p n => ⟨n, le_rfl, .inr (hhalt p)⟩

/-- A step in front of a fair run. -/
theorem FairRun.cons {es : List Event} {s : State} {e : Event} (h : S.FairRun proc x) (hrun : S.Run es s)
    (hstep : S.step s e (x 0)) : S.FairRun proc fun n => n.casesOn s x where
  start := ⟨es, hrun⟩
  steps := by
    intro n
    cases n with
    | zero => exact .inr ⟨e, hstep⟩
    | succ n => exact h.steps n
  fair := by
    intro p n
    obtain ⟨m, hle, hm⟩ := h.fair p (n - 1)
    exact ⟨m + 1, by omega, hm⟩

/-- An execution in two parts. -/
theorem execute_append (f : State → Event → Option State) (es es' : List Event) (s : State) :
    execute f (fun _ _ => True) s (es ++ es') =
      (execute f (fun _ _ => True) s es).bind fun t => execute f (fun _ _ => True) t es' := by
  induction es generalizing s with
  | nil => rfl
  | cons e es ih =>
    simp only [List.cons_append, execute, if_true, Option.bind_assoc]
    exact Option.bind_congr fun t _ => ih t

/-- **An execution to a state in which no process is enabled** is the beginning of a fair run. -/
theorem exists_fairRun_of_execute {init : State → Prop} {f : State → Event → Option State} {es es' : List Event}
    {s t : State} (hrun : (ofFun init f).Run es s) (h : execute f (fun _ _ => True) s es' = some t)
    (hhalt : ∀ p, ¬ (ofFun init f).Enabled proc p t) : ∃ x, (ofFun init f).FairRun proc x ∧ x 0 = s := by
  induction es' generalizing es s with
  | nil =>
    obtain rfl := Option.some.inj h
    exact ⟨fun _ => s, fairRun_of_halt hrun hhalt, rfl⟩
  | cons e es' ih =>
    unfold execute at h
    rw [if_pos trivial] at h
    obtain ⟨u, hu, ht⟩ := Option.bind_eq_some_iff.1 h
    obtain ⟨x, hx, rfl⟩ := ih (hrun.step hu) ht
    exact ⟨fun n => n.casesOn s x, hx.cons hrun hu, rfl⟩

end System

end Transition
