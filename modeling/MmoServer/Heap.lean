/-
**Heaps in a vector.**

A vector is a heap with respect to a comparison if no element compares below the one at its parent's
place.  The algorithms that make a vector a heap, that take in a new last element and that move the first
one to the end, may leave the elements in any order that is one; this module has what they promise, over
an arbitrary type and comparison, and that a sorted vector keeps these promises.

Main definitions:

* `Heap.IsHeap` — the order of a heap;
* `Heap.Algorithms` — the three algorithms, with what they promise;
* `Heap.Algorithms.sorted` — the algorithms that sort.

Main results:

* `Heap.mem_makeHeap`, `Heap.mem_pushHeap` — nothing is lost, and nothing added;
* `Heap.IsHeap.not_comp_head` — **no element compares below the first one**;
* `Heap.isHeap_of_pairwise` — **a sorted vector is a heap**.
-/

import Mathlib.Data.List.Sort

set_option relaxedAutoImplicit false
set_option autoImplicit false

namespace Heap

variable {α β : Type*}

/-- No element compares below the one at its parent's place. -/
def IsHeap (comp : α → α → Prop) (l : List α) : Prop :=
  ∀ (i : ℕ) (a b : α), l[(i - 1) / 2]? = some a → l[i]? = some b → ¬ comp a b

/-- `make_heap`, `push_heap` and `pop_heap` over a whole vector. -/
structure Algorithms (comp : α → α → Prop) where
  makeHeap : List α → List α
  pushHeap : List α → List α
  popHeap : List α → List α
  makeHeap_perm : ∀ l, (makeHeap l).Perm l
  isHeap_makeHeap : ∀ l, IsHeap comp (makeHeap l)
  pushHeap_perm : ∀ l, (pushHeap l).Perm l
  isHeap_pushHeap : ∀ l a, IsHeap comp l → IsHeap comp (pushHeap (l ++ [a]))
  popHeap_eq : ∀ a l, IsHeap comp (a :: l) →
    ∃ rest, popHeap (a :: l) = rest ++ [a] ∧ rest.Perm l ∧ IsHeap comp rest

variable {comp : α → α → Prop}

theorem isHeap_nil : IsHeap comp [] := by
  intro i a b ha
  rw [List.getElem?_nil] at ha
  cases ha

theorem mem_makeHeap (algs : Algorithms comp) {l : List α} {a : α} :
    a ∈ algs.makeHeap l ↔ a ∈ l :=
  (algs.makeHeap_perm l).mem_iff

theorem mem_pushHeap (algs : Algorithms comp) {l : List α} {a : α} :
    a ∈ algs.pushHeap l ↔ a ∈ l :=
  (algs.pushHeap_perm l).mem_iff

/-- **No element of a heap compares below the first one.** -/
theorem IsHeap.not_comp_head (hirrefl : ∀ a, ¬ comp a a)
    (htrans : ∀ a b c, ¬ comp a b → ¬ comp b c → ¬ comp a c) {a : α} {l : List α}
    (h : IsHeap comp (a :: l)) {b : α} (hb : b ∈ a :: l) : ¬ comp a b := by
  obtain ⟨i, hi⟩ := List.mem_iff_getElem?.1 hb
  clear hb
  -- from an element to the one at its parent's place, up to the first one
  induction i using Nat.strong_induction_on generalizing b with
  | _ i ih =>
    rcases Nat.eq_zero_or_pos i with rfl | hpos
    · obtain rfl := Option.some.inj hi
      exact hirrefl a
    · have hlen : i < (a :: l).length := (List.getElem?_eq_some_iff.1 hi).1
      have hparent : (a :: l)[(i - 1) / 2]? = some ((a :: l)[(i - 1) / 2]) :=
        List.getElem?_eq_getElem (by omega)
      exact htrans a _ b (ih ((i - 1) / 2) (by omega) hparent) (h i _ b hparent hi)

/-! ### Sorted vectors -/

/-- **A sorted vector is a heap.** -/
theorem isHeap_of_pairwise {l : List α} (hirrefl : ∀ a, ¬ comp a a)
    (h : l.Pairwise fun a b => ¬ comp a b) : IsHeap comp l := by
  intro i a b ha hb
  rcases Nat.eq_zero_or_pos i with rfl | hpos
  · obtain rfl := Option.some.inj (ha.symm.trans hb)
    exact hirrefl a
  · obtain ⟨hi, rfl⟩ := List.getElem?_eq_some_iff.1 ha
    obtain ⟨hj, rfl⟩ := List.getElem?_eq_some_iff.1 hb
    exact List.pairwise_iff_getElem.1 h _ _ hi hj (by omega)

variable [LinearOrder β]

/-- Sort by a key: the least key comes first. -/
def sortBy (key : α → β) (l : List α) : List α := l.insertionSort fun a b => key a ≤ key b

theorem isHeap_sortBy (key : α → β) (l : List α) :
    IsHeap (fun a b => key b < key a) (sortBy key l) := by
  have : Std.Total fun a b : α => key a ≤ key b := ⟨fun a b => le_total (key a) (key b)⟩
  have : IsTrans α fun a b => key a ≤ key b := ⟨fun a b c => le_trans⟩
  refine isHeap_of_pairwise (fun a => lt_irrefl _) ?_
  refine List.Pairwise.imp (fun hab => not_lt.2 hab) ?_
  exact List.pairwise_insertionSort (fun a b => key a ≤ key b) l

/-- The algorithms that sort by a key. -/
def Algorithms.sorted (key : α → β) : Algorithms fun a b : α => key b < key a where
  makeHeap := sortBy key
  pushHeap := sortBy key
  popHeap
    | [] => []
    | a :: l => sortBy key l ++ [a]
  makeHeap_perm := List.perm_insertionSort _
  isHeap_makeHeap := isHeap_sortBy key
  pushHeap_perm := List.perm_insertionSort _
  isHeap_pushHeap l a _ := isHeap_sortBy key (l ++ [a])
  popHeap_eq _ l _ :=
    ⟨sortBy key l, rfl, List.perm_insertionSort _ l, isHeap_sortBy key l⟩

end Heap
