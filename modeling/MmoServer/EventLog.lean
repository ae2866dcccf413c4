/-
**What a log says since some event.**

A log grows at its end.  This module has two properties of logs over an arbitrary type of entries, in the
words of the temporal operator "since": some entry was shown since the last mark, and whatever was shown
since the last mark was answered afterwards.

Main definitions:

* `EventLog.Since` — what a log has behind an entry;
* `EventLog.ShownSince` — an entry was shown, and no mark stands behind it;
* `EventLog.Answered` — behind each entry that was shown since the last mark stands an answer.

Main results:

* `EventLog.since_append` — **how a log grows**;
* `EventLog.ShownSince.append`, `EventLog.shownSince_of_mem` — the rules for what was shown;
* `EventLog.Answered.append`, `EventLog.answered_of_mark`, `EventLog.answered_of_answer` — the rules for
  what was answered.
-/

import Mathlib.Data.List.Basic

set_option relaxedAutoImplicit false
set_option autoImplicit false

namespace EventLog

variable {α : Type*}

/-- `after` is what the log has behind an occurrence of `m`. -/
def Since (log : List α) (m : α) (after : List α) : Prop := ∃ before, log = before ++ m :: after

/-- Some entry was shown, and no mark stands behind it. -/
def ShownSince (mark shown : α → Prop) (log : List α) : Prop :=
  ∃ m after, Since log m after ∧ shown m ∧ ∀ x ∈ after, ¬ mark x

/-- Behind each entry that was shown since the last mark stands an answer. -/
def Answered (mark shown answer : α → Prop) (log : List α) : Prop :=
  ∀ m after, Since log m after → shown m → (∀ x ∈ after, ¬ mark x) → ∃ x ∈ after, answer x

variable {mark shown answer : α → Prop} {log more after : List α} {m : α}

theorem Since.mem (h : Since log m after) : m ∈ log := by
  obtain ⟨before, rfl⟩ := h
  exact List.mem_append_right before (.head after)

theorem since_of_mem (h : m ∈ log) : ∃ after, Since log m after ∧ ∀ x ∈ after, x ∈ log := by
  obtain ⟨before, after, rfl⟩ := List.append_of_mem h
  exact ⟨after, ⟨before, rfl⟩, fun x hx => List.mem_append_right before (.tail m hx)⟩

/-- **How a log grows.**  An entry is an old one, with what is new behind it, or a new one. -/
theorem since_append :
    Since (log ++ more) m after ↔
      (∃ old, Since log m old ∧ after = old ++ more) ∨ Since more m after := by
  constructor
  · rintro ⟨before, hsplit⟩
    rcases List.append_eq_append_iff.1 hsplit with ⟨rest, rfl, hmore⟩ | ⟨rest, hlog, hafter⟩
    · exact .inr ⟨rest, hmore⟩
    · cases rest with
      | nil => exact .inr ⟨[], hafter.symm⟩
      | cons a rest =>
        obtain ⟨rfl, rfl⟩ := List.cons.inj hafter
        exact .inl ⟨rest, ⟨before, hlog⟩, rfl⟩
  · rintro (⟨old, ⟨before, rfl⟩, rfl⟩ | ⟨before, rfl⟩)
    · exact ⟨before, by rw [List.append_assoc, List.cons_append]⟩
    · exact ⟨log ++ before, (List.append_assoc log before _).symm⟩

/-! ### What was shown -/

/-- What was shown stays so without a mark. -/
theorem ShownSince.append (h : ShownSince mark shown log) (hmore : ∀ x ∈ more, ¬ mark x) :
    ShownSince mark shown (log ++ more) := by
  obtain ⟨m, after, hsince, hshown, hafter⟩ := h
  refine ⟨m, after ++ more, since_append.2 (.inl ⟨after, hsince, rfl⟩), hshown, fun x hx => ?_⟩
  rcases List.mem_append.1 hx with hold | hnew
  · exact hafter x hold
  · exact hmore x hnew

/-- What is shown now. -/
theorem shownSince_of_mem (hm : m ∈ more) (hshown : shown m) (hmore : ∀ x ∈ more, ¬ mark x) :
    ShownSince mark shown (log ++ more) := by
  obtain ⟨after, hsince, hafter⟩ := since_of_mem hm
  exact ⟨m, after, since_append.2 (.inr hsince), hshown, fun x hx => hmore x (hafter x hx)⟩

/-- **What was shown** was shown before, and is shown still, or it is shown now. -/
theorem shownSince_append :
    ShownSince mark shown (log ++ more) ↔
      (ShownSince mark shown log ∧ ∀ x ∈ more, ¬ mark x) ∨ ShownSince mark shown more := by
  constructor
  · rintro ⟨m, after, hsince, hshown, hafter⟩
    rcases since_append.1 hsince with ⟨old, hold, rfl⟩ | hnew
    · refine .inl ⟨⟨m, old, hold, hshown, fun x hx => hafter x (List.mem_append_left more hx)⟩, fun x hx => ?_⟩
      exact hafter x (List.mem_append_right old hx)
    · exact .inr ⟨m, after, hnew, hshown, hafter⟩
  · rintro (⟨h, hmore⟩ | ⟨m, after, hsince, hshown, hafter⟩)
    · exact h.append hmore
    · exact ⟨m, after, since_append.2 (.inr hsince), hshown, hafter⟩

/-- What a log shows it has. -/
theorem ShownSince.exists_mem (h : ShownSince mark shown log) : ∃ x ∈ log, shown x := by
  obtain ⟨m, after, hsince, hshown, -⟩ := h
  exact ⟨m, hsince.mem, hshown⟩

/-! ### What was answered -/

theorem answered_nil : Answered mark shown answer [] := by
  intro m after hsince
  cases hsince.mem

/-- Nothing is shown. -/
theorem Answered.append (h : Answered mark shown answer log) (hmore : ∀ x ∈ more, ¬ shown x) :
    Answered mark shown answer (log ++ more) := by
  intro m after hsince hshown hafter
  rcases since_append.1 hsince with ⟨old, hold, rfl⟩ | hnew
  · obtain ⟨x, hx, hanswer⟩ := h m old hold hshown fun x hx => hafter x (List.mem_append_left more hx)
    exact ⟨x, List.mem_append_left more hx, hanswer⟩
  · exact absurd hshown (hmore m hnew.mem)

/-- Nothing is shown, and a mark ends what there was. -/
theorem answered_of_mark (hm : m ∈ more) (hmark : mark m) (hmore : ∀ x ∈ more, ¬ shown x) :
    Answered mark shown answer (log ++ more) := by
  intro m' after hsince hshown hafter
  rcases since_append.1 hsince with ⟨old, hold, rfl⟩ | hnew
  · exact absurd hmark (hafter m (List.mem_append_right old hm))
  · exact absurd hshown (hmore m' hnew.mem)

/-- Nothing is shown, and what there was is answered. -/
theorem answered_of_answer (hm : m ∈ more) (hanswer : answer m) (hmore : ∀ x ∈ more, ¬ shown x) :
    Answered mark shown answer (log ++ more) := by
  intro m' after hsince hshown hafter
  rcases since_append.1 hsince with ⟨old, hold, rfl⟩ | hnew
  · exact ⟨m, List.mem_append_right old hm, hanswer⟩
  · exact absurd hshown (hmore m' hnew.mem)

end EventLog
