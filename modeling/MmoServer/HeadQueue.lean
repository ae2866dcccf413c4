/-
**A queue whose first one takes what is offered.**

Some wait in a queue, in a fixed order.  There are offers, and each of those who wait becomes ready at some
time.  An offer always goes to the first one of the queue, whether it holds an offer already or not; the
first one leaves as soon as it holds a valid offer and is ready.

When there are as many offers as are waiting, everyone is served exactly if no offer comes too early: each
must find that those before were ready.

Main definitions:

* `HeadQueue.Event`, `HeadQueue.State`, `HeadQueue.step`, `HeadQueue.run` — the queue;
* `HeadQueue.matched` — how many have been served, with the one that holds a valid offer;
* `HeadQueue.InTurn` — **no offer is too early, and all are valid**.

Main results:

* `HeadQueue.Inv.run` — what holds after every run;
* `HeadQueue.inTurn_of_matched`, `HeadQueue.matched_of_inTurn` — an offer is lost for good exactly if it is not
  in turn;
* `HeadQueue.waiting_eq_nil_iff` — **everyone is served** exactly if all offers are in turn.
-/

import Mathlib.Data.List.Induction
import Mathlib.Data.List.Nodup

set_option relaxedAutoImplicit false
set_option autoImplicit false

namespace HeadQueue

/-! ### The queue -/

/-- What can happen. -/
inductive Event (α β : Type*)
  | offer (b : β)
  | ready (a : α)

/-- Who waits, what the first one holds, who is ready, and who was served with what. -/
structure State (α β : Type*) where
  waiting : List α
  held : Option β
  ready : List α
  served : List (α × β)

section

variable {α β : Type*}

/-- All wait. -/
def start (xs : List α) : State α β := ⟨xs, none, [], []⟩

/-- The offers among some events. -/
def offers (es : List (Event α β)) : List β :=
  es.filterMap fun e => match e with
    | .offer b => some b
    | .ready _ => none

/-- Who becomes ready in some events. -/
def readies (es : List (Event α β)) : List α :=
  es.filterMap fun e => match e with
    | .offer _ => none
    | .ready a => some a

variable [DecidableEq α] (valid : β → Bool)

/-- The first one leaves if it can. -/
def settle (s : State α β) : State α β :=
  match s.waiting, s.held with
  | a :: rest, some b =>
    if a ∈ s.ready ∧ valid b = true then ⟨rest, none, s.ready, s.served ++ [(a, b)]⟩ else s
  | _, _ => s

/-- One step.  An offer is lost when no one waits. -/
def step (s : State α β) : Event α β → State α β
  | .offer b => if s.waiting = [] then s else settle valid { s with held := some b }
  | .ready a => settle valid { s with ready := s.ready ++ [a] }

/-- All steps. -/
def run (s : State α β) (es : List (Event α β)) : State α β := es.foldl (step valid) s

/-- How many have been served, with the one that holds a valid offer. -/
def matched (s : State α β) : ℕ := s.served.length + if s.held.any valid then 1 else 0

/-- **All offers are valid, and none is too early**: as many as there were offers before, from the front of
the queue, are ready by then. -/
def InTurn (xs : List α) (es : List (Event α β)) : Prop :=
  ∀ before b after, es = before ++ .offer b :: after →
    valid b = true ∧ ∀ x ∈ xs.take (offers before).length, x ∈ readies before

end

section

variable {α β : Type*}

@[simp] theorem offers_append (es es' : List (Event α β)) : offers (es ++ es') = offers es ++ offers es' :=
  List.filterMap_append ..

@[simp] theorem readies_append (es es' : List (Event α β)) :
    readies (es ++ es') = readies es ++ readies es' :=
  List.filterMap_append ..

@[simp] theorem offers_offer (b : β) : offers [(.offer b : Event α β)] = [b] := rfl

@[simp] theorem offers_ready (a : α) : offers [(.ready a : Event α β)] = [] := rfl

@[simp] theorem readies_offer (b : β) : readies [(.offer b : Event α β)] = [] := rfl

@[simp] theorem readies_ready (a : α) : readies [(.ready a : Event α β)] = [a] := rfl

variable {valid : β → Bool} {xs : List α}

/-- One more event is in turn if it is no offer, or one that is in turn. -/
theorem inTurn_append_singleton {es : List (Event α β)} {e : Event α β} :
    InTurn valid xs (es ++ [e]) ↔ InTurn valid xs es ∧ ∀ b, e = .offer b →
      valid b = true ∧ ∀ x ∈ xs.take (offers es).length, x ∈ readies es := by
  constructor
  · intro h
    refine ⟨fun before b after heq => h before b (after ++ [e]) ?_, fun b heq => h es b [] ?_⟩
    · rw [heq, List.append_assoc, List.cons_append]
    · rw [heq]
  · rintro ⟨hes, he⟩ before b after heq
    rcases List.eq_nil_or_concat after with rfl | ⟨after', c, rfl⟩
    · obtain ⟨rfl, hlast⟩ := List.append_inj' heq rfl
      exact he b (List.cons.inj hlast).1
    · rw [List.concat_eq_append, ← List.cons_append, ← List.append_assoc] at heq
      exact hes before b after' (List.append_inj' heq rfl).1

/-! ### What holds after every run -/

/-- Who was served was in front, with some of the offers, and was ready. -/
structure Queued (xs : List α) (es : List (Event α β)) (s : State α β) : Prop where
  queue : s.served.map Prod.fst ++ s.waiting = xs
  offered : (s.served.map Prod.snd ++ s.held.toList).Sublist (offers es)
  ready_eq : s.ready = readies es
  served_ready : ∀ a ∈ s.served.map Prod.fst, a ∈ s.ready
  held_of_nil : s.waiting = [] → s.held = none

section

variable {es : List (Event α β)} {s : State α β}

theorem Queued.length_add (h : Queued xs es s) : s.served.length + s.waiting.length = xs.length := by
  rw [← h.queue, List.length_append, List.length_map]

theorem Queued.take_served (h : Queued xs es s) : xs.take s.served.length = s.served.map Prod.fst := by
  rw [← h.queue, ← List.length_map (f := Prod.fst), List.take_left]

/-- The first one who waits is next to those who were served. -/
theorem Queued.mem_take (h : Queued xs es s) {a : α} {rest : List α} (hwaiting : s.waiting = a :: rest) :
    a ∈ xs.take (s.served.length + 1) := by
  rw [← h.queue, hwaiting, List.take_append]
  simp

end

/-- Between the steps, the first one who waits does not hold a valid offer and is ready. -/
structure Inv (valid : β → Bool) (xs : List α) (es : List (Event α β)) (s : State α β) : Prop
    extends Queued xs es s where
  unsettled : ∀ a rest b, s.waiting = a :: rest → s.held = some b → valid b = true → a ∉ s.ready

/-! ### One step -/

variable [DecidableEq α]

theorem run_append_singleton (s : State α β) (es : List (Event α β)) (e : Event α β) :
    run valid s (es ++ [e]) = step valid (run valid s es) e := by
  unfold run
  rw [List.foldl_append]
  rfl

/-- Leaving the queue does not change who is matched. -/
theorem matched_settle (s : State α β) : matched valid (settle valid s) = matched valid s := by
  unfold settle
  split
  · rename_i a rest b hwaiting hheld
    split
    · rename_i hleaves
      simp [matched, hheld, hleaves.2]
    · rfl
  · rfl

theorem matched_ready (s : State α β) (a : α) :
    matched valid (step valid s (.ready a)) = matched valid s :=
  matched_settle _

theorem step_offer_of_nil {s : State α β} (hwaiting : s.waiting = []) (b : β) :
    step valid s (.offer b) = s := if_pos hwaiting

theorem step_offer {s : State α β} (hwaiting : s.waiting ≠ []) (b : β) :
    step valid s (.offer b) = settle valid { s with held := some b } := if_neg hwaiting

/-- An offer to the first one: whatever it held before is lost. -/
theorem matched_offer {s : State α β} (hwaiting : s.waiting ≠ []) (b : β) :
    matched valid (step valid s (.offer b)) = s.served.length + if valid b = true then 1 else 0 := by
  rw [step_offer hwaiting, matched_settle]
  rfl

/-- The first one leaves if it can, and then the next one holds nothing. -/
theorem Queued.settle {es : List (Event α β)} {s : State α β} (h : Queued xs es s) :
    Inv valid xs es (settle valid s) := by
  unfold HeadQueue.settle
  split
  · rename_i a rest b hwaiting hheld
    split
    · rename_i hleaves
      refine ⟨⟨?_, ?_, h.ready_eq, ?_, fun _ => rfl⟩, ?_⟩
      · rw [← h.queue, hwaiting]
        simp
      · have hoffered := h.offered
        rw [hheld] at hoffered
        simpa using hoffered
      · intro x hx
        simp only [List.map_append, List.mem_append, List.map_cons, List.map_nil, List.mem_singleton] at hx
        rcases hx with hold | rfl
        · exact h.served_ready x hold
        · exact hleaves.1
      · intro x r c _ hc
        cases hc
    · rename_i hstays
      refine ⟨h, fun x r c hx hc hvalid hready => ?_⟩
      rw [hwaiting] at hx
      rw [hheld] at hc
      obtain ⟨rfl, -⟩ := List.cons.inj hx
      obtain rfl := Option.some.inj hc
      exact hstays ⟨hready, hvalid⟩
  · rename_i hnone
    refine ⟨h, fun a rest b hwaiting hheld => ?_⟩
    exact absurd hheld (hnone a rest b hwaiting)

/-- **One step.** -/
theorem Inv.step {es : List (Event α β)} {s : State α β} (h : Inv valid xs es s) (e : Event α β) :
    Inv valid xs (es ++ [e]) (step valid s e) := by
  cases e with
  | offer b =>
    have hready : s.ready = readies (es ++ [.offer b]) := by
      rw [readies_append, readies_offer, List.append_nil]
      exact h.ready_eq
    by_cases hwaiting : s.waiting = []
    · rw [step_offer_of_nil hwaiting]
      refine ⟨⟨h.queue, ?_, hready, h.served_ready, h.held_of_nil⟩, h.unsettled⟩
      rw [offers_append]
      exact h.offered.trans (List.sublist_append_left _ _)
    · rw [step_offer hwaiting]
      refine Queued.settle ⟨h.queue, ?_, hready, h.served_ready, fun hnil => absurd hnil hwaiting⟩
      rw [offers_append, offers_offer]
      exact ((List.sublist_append_left _ _).trans h.offered).append (List.Sublist.refl [b])
  | ready a =>
    refine Queued.settle ⟨h.queue, ?_, ?_, ?_, h.held_of_nil⟩
    · rw [offers_append, offers_ready, List.append_nil]
      exact h.offered
    · rw [readies_append, readies_ready, h.ready_eq]
    · intro x hx
      exact List.mem_append_left _ (h.served_ready x hx)

/-- **All steps.** -/
theorem Inv.run (xs : List α) (es : List (Event α β)) : Inv valid xs es (run valid (start xs) es) := by
  induction es using List.reverseRecOn with
  | nil =>
    refine ⟨⟨rfl, List.Sublist.refl [], rfl, fun a ha => ?_, fun _ => rfl⟩, fun a rest b _ hheld => ?_⟩
    · cases ha
    · cases hheld
  | append_singleton es e ih =>
    rw [run_append_singleton]
    exact ih.step e

/-! ### Offers in turn -/

/-- No one is matched without an offer. -/
theorem matched_le (es : List (Event α β)) :
    matched valid (run valid (start xs) es) ≤ (offers es).length := by
  induction es using List.reverseRecOn with
  | nil => exact Nat.le_refl 0
  | append_singleton es e ih =>
    rw [run_append_singleton, offers_append, List.length_append]
    cases e with
    | ready a =>
      rw [matched_ready]
      exact Nat.le_trans ih (Nat.le_add_right _ _)
    | offer b =>
      rw [offers_offer, List.length_singleton]
      by_cases hwaiting : (run valid (start xs) es).waiting = []
      · rw [step_offer_of_nil hwaiting]
        exact Nat.le_trans ih (Nat.le_add_right _ _)
      · rw [matched_offer hwaiting]
        unfold matched at ih
        split <;> omega

/-- If every offer has matched someone, all of them were in turn. -/
theorem inTurn_of_matched {es : List (Event α β)}
    (h : matched valid (run valid (start xs) es) = (offers es).length) : InTurn valid xs es := by
  induction es using List.reverseRecOn with
  | nil =>
    intro before b after heq
    simp at heq
  | append_singleton es e ih =>
    have hinv : Inv valid xs es (run valid (start xs) es) := Inv.run xs es
    have hle : matched valid (run valid (start xs) es) ≤ (offers es).length := matched_le es
    rw [run_append_singleton, offers_append, List.length_append] at h
    rw [inTurn_append_singleton]
    cases e with
    | ready a =>
      rw [matched_ready] at h
      refine ⟨ih h, fun b heq => ?_⟩
      cases heq
    | offer b =>
      rw [offers_offer, List.length_singleton] at h
      have hwaiting : (run valid (start xs) es).waiting ≠ [] := by
        intro hnil
        rw [step_offer_of_nil hnil] at h
        omega
      rw [matched_offer hwaiting] at h
      have hserved : (run valid (start xs) es).served.length ≤
          matched valid (run valid (start xs) es) := Nat.le_add_right _ _
      have hvalid : valid b = true := by
        by_contra hinvalid
        rw [if_neg hinvalid] at h
        omega
      rw [if_pos hvalid] at h
      refine ⟨ih (by omega), fun c heq => ?_⟩
      obtain rfl := Event.offer.inj heq
      refine ⟨hvalid, fun x hx => ?_⟩
      -- the first ones of the queue were served, one for each offer
      have hcount : (offers es).length = (run valid (start xs) es).served.length := by omega
      rw [hcount, hinv.take_served] at hx
      rw [← hinv.ready_eq]
      exact hinv.served_ready x hx

/-- If all offers are in turn, and there are not more than are waiting, every offer matches someone. -/
theorem matched_of_inTurn {es : List (Event α β)} (h : InTurn valid xs es)
    (hle : (offers es).length ≤ xs.length) :
    matched valid (run valid (start xs) es) = (offers es).length := by
  induction es using List.reverseRecOn with
  | nil => rfl
  | append_singleton es e ih =>
    obtain ⟨hes, he⟩ := inTurn_append_singleton.1 h
    rw [offers_append, List.length_append] at hle
    have hinv : Inv valid xs es (run valid (start xs) es) := Inv.run xs es
    have hmatched := ih hes (by omega)
    rw [run_append_singleton, offers_append, List.length_append]
    cases e with
    | ready a =>
      rw [matched_ready]
      exact hmatched
    | offer b =>
      rw [offers_offer, List.length_singleton] at hle ⊢
      obtain ⟨hvalid, hready⟩ := he b rfl
      have hxs := hinv.length_add
      -- the first one does not hold a valid offer: it is among those that are ready
      have hfree : (run valid (start xs) es).held.any valid = false := by
        by_contra hany
        rw [Bool.not_eq_false] at hany
        obtain ⟨c, hheld, hc⟩ := (Option.any_eq_true _ _).1 hany
        cases hwaiting : (run valid (start xs) es).waiting with
        | nil =>
          rw [hinv.held_of_nil hwaiting] at hheld
          cases hheld
        | cons a rest =>
          refine hinv.unsettled a rest c hwaiting hheld hc ?_
          rw [hinv.ready_eq]
          refine hready a ?_
          have hcount : (offers es).length = (run valid (start xs) es).served.length + 1 := by
            rw [← hmatched, matched, hany, if_pos rfl]
          rw [hcount]
          exact hinv.mem_take hwaiting
      have hserved : (run valid (start xs) es).served.length = (offers es).length := by
        rw [← hmatched, matched, hfree]
        rfl
      have hwaiting : (run valid (start xs) es).waiting ≠ [] := by
        intro hnil
        rw [hnil, List.length_nil] at hxs
        omega
      rw [matched_offer hwaiting, if_pos hvalid, hserved]

/-- **Everyone is served** exactly if all offers are in turn, when there are as many as are waiting, and
everyone becomes ready. -/
theorem waiting_eq_nil_iff {es : List (Event α β)} (hcount : (offers es).length = xs.length)
    (hready : ∀ x ∈ xs, x ∈ readies es) :
    (run valid (start xs) es).waiting = [] ↔ InTurn valid xs es := by
  have hinv : Inv valid xs es (run valid (start xs) es) := Inv.run xs es
  have hxs := hinv.length_add
  constructor
  · intro hnil
    rw [hnil, List.length_nil] at hxs
    have hle : matched valid (run valid (start xs) es) ≤ (offers es).length := matched_le es
    have hserved : (run valid (start xs) es).served.length ≤
        matched valid (run valid (start xs) es) := Nat.le_add_right _ _
    exact inTurn_of_matched (by omega)
  · intro hturn
    have hmatched := matched_of_inTurn hturn (Nat.le_of_eq hcount)
    by_contra hne
    obtain ⟨a, rest, hwaiting⟩ := List.exists_cons_of_ne_nil hne
    rw [hwaiting, List.length_cons] at hxs
    unfold matched at hmatched
    cases hheld : (run valid (start xs) es).held with
    | none =>
      rw [hheld] at hmatched
      simp at hmatched
      omega
    | some b =>
      rw [hheld] at hmatched
      by_cases hvalid : valid b = true
      · refine hinv.unsettled a rest b hwaiting hheld hvalid ?_
        rw [hinv.ready_eq]
        exact hready a (List.mem_of_mem_take (hinv.mem_take hwaiting))
      · simp [hvalid] at hmatched
        omega

/-- Who was served was served once, in the order of the queue. -/
theorem served_of_waiting_nil {es : List (Event α β)} (h : (run valid (start xs) es).waiting = []) :
    (run valid (start xs) es).served.map Prod.fst = xs := by
  have hinv : Inv valid xs es (run valid (start xs) es) := Inv.run xs es
  have hqueue := hinv.queue
  rw [h, List.append_nil] at hqueue
  exact hqueue

/-- No two are served with the same offer. -/
theorem nodup_served {es : List (Event α β)} (h : (offers es).Nodup) :
    ((run valid (start xs) es).served.map Prod.snd).Nodup :=
  h.sublist ((List.sublist_append_left _ _).trans (Inv.run xs es).offered)

end

end HeadQueue
