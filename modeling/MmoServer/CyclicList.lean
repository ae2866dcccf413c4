/-
**Reading and writing a list in a circle.**

A ring buffer keeps its bytes in a list of fixed length and reads them in a circle: after the last
cell comes the first one again.  This module develops the two operations a ring needs, over an
arbitrary type of cells, and the equations that relate them.

Main definitions:

* `CyclicList.window` — the `n` cells that follow position `i` in the circle;
* `CyclicList.overwrite` — replacing the cells from position `i` on by those of another list;
* `CyclicList.cyclicWrite` — the same in a circle, in one piece or in two.

Main results:

* `CyclicList.window_of_le`, `CyclicList.window_of_wrap` — a window is one piece of the list, or
  the tail followed by a part of the head;
* `CyclicList.take_window`, `CyclicList.drop_window` — the two halves of a window are windows;
* `CyclicList.window_cyclicWrite` — **writing behind a window appends to it**: as long as the new
  cells do not run into the front of the window, its old cells are untouched.
-/

import Mathlib.Data.List.Rotate

set_option relaxedAutoImplicit false
set_option autoImplicit false

namespace CyclicList

variable {α : Type*}

/-! ### Windows -/

/-- The `n` cells that follow position `i`, read in a circle. -/
def window (l : List α) (i n : ℕ) : List α := (l.rotate i).take n

@[simp] theorem window_zero (l : List α) (i : ℕ) : window l i 0 = [] := rfl

theorem length_window {l : List α} {i n : ℕ} (h : n ≤ l.length) : (window l i n).length = n := by
  simp [window, h]

/-- A window that does not reach the end of the list is one piece of it. -/
theorem window_of_le {l : List α} {i n : ℕ} (h : i + n ≤ l.length) :
    window l i n = (l.drop i).take n := by
  have hn : n ≤ (l.drop i).length := by rw [List.length_drop]; omega
  rw [window, List.rotate_eq_drop_append_take (by omega), List.take_append_of_le_length hn]

/-- A window that runs over the end of the list is the tail and then a part of the head. -/
theorem window_of_wrap {l : List α} {i n : ℕ} (hi : i ≤ l.length) (h : l.length ≤ i + n)
    (hn : n ≤ l.length) : window l i n = l.drop i ++ l.take (i + n - l.length) := by
  have hlen : (l.drop i).length ≤ n := by rw [List.length_drop]; omega
  rw [window, List.rotate_eq_drop_append_take hi, List.take_append,
    List.take_of_length_le hlen, List.take_take, List.length_drop]
  congr 2
  omega

/-- The cell at distance `k` from the front of a window. -/
theorem getElem?_window {l : List α} {i n k : ℕ} (hi : i < l.length) (hn : n ≤ l.length)
    (hk : k < n) :
    (window l i n)[k]? = if i + k < l.length then l[i + k]? else l[i + k - l.length]? := by
  rw [window, List.getElem?_take_of_lt hk, List.getElem?_rotate (by omega)]
  split
  · rename_i h
    rw [Nat.add_comm k i, Nat.mod_eq_of_lt h]
  · rename_i h
    rw [Nat.add_comm k i, Nat.mod_eq_sub_mod (by omega), Nat.mod_eq_of_lt (by omega)]

/-- The front of a window is a window. -/
theorem take_window (l : List α) (i : ℕ) {m n : ℕ} (h : m ≤ n) :
    (window l i n).take m = window l i m := by
  rw [window, window, List.take_take, Nat.min_eq_left h]

/-- The rest of a window, past a front that does not reach the end of the list. -/
theorem drop_window_of_lt {l : List α} {i m n : ℕ} (him : i + m < l.length) (hm : m ≤ n)
    (hn : n ≤ l.length) : (window l i n).drop m = window l (i + m) (n - m) := by
  refine List.ext_getElem? fun k => ?_
  rcases Nat.lt_or_ge k (n - m) with hk | hk
  · rw [List.getElem?_drop, getElem?_window (by omega) hn (by omega),
      getElem?_window him (by omega) hk, ← Nat.add_assoc]
  · rw [List.getElem?_eq_none, List.getElem?_eq_none]
    · rw [length_window (by omega)]; exact hk
    · rw [List.length_drop, length_window hn]; exact hk

/-- The rest of a window, past a front that reaches the end of the list. -/
theorem drop_window_of_ge {l : List α} {i m n : ℕ} (hi : i < l.length) (him : l.length ≤ i + m)
    (hm : m ≤ n) (hn : n ≤ l.length) :
    (window l i n).drop m = window l (i + m - l.length) (n - m) := by
  refine List.ext_getElem? fun k => ?_
  rcases Nat.lt_or_ge k (n - m) with hk | hk
  · rw [List.getElem?_drop, getElem?_window hi hn (by omega),
      getElem?_window (by omega) (by omega) hk, if_neg (by omega), if_pos (by omega)]
    congr 1
    omega
  · rw [List.getElem?_eq_none, List.getElem?_eq_none]
    · rw [length_window (by omega)]; exact hk
    · rw [List.length_drop, length_window hn]; exact hk

/-! ### Writing -/

/-- The cells from position `i` on replaced by those of `s`. -/
def overwrite (l : List α) (i : ℕ) (s : List α) : List α :=
  l.take i ++ s ++ l.drop (i + s.length)

theorem length_overwrite {l s : List α} {i : ℕ} (h : i + s.length ≤ l.length) :
    (overwrite l i s).length = l.length := by
  simp only [overwrite, List.length_append, List.length_take, List.length_drop]
  omega

theorem getElem?_overwrite {l s : List α} {i : ℕ} (h : i + s.length ≤ l.length) (k : ℕ) :
    (overwrite l i s)[k]? = if i ≤ k ∧ k < i + s.length then s[k - i]? else l[k]? := by
  have hti : (l.take i).length = i := by rw [List.length_take]; omega
  rcases Nat.lt_or_ge k i with hk | hk
  · rw [if_neg (by omega), overwrite, List.append_assoc,
      List.getElem?_append_left (by rw [hti]; exact hk), List.getElem?_take_of_lt hk]
  · rw [overwrite, List.append_assoc, List.getElem?_append_right (by rw [hti]; exact hk), hti]
    rcases Nat.lt_or_ge k (i + s.length) with hs | hs
    · rw [if_pos ⟨hk, hs⟩, List.getElem?_append_left (by omega)]
    · rw [if_neg (by omega), List.getElem?_append_right (by omega), List.getElem?_drop]
      congr 1
      omega

/-- Writing `s` from position `i` on, in a circle: what does not fit before the end of the list
goes to its front. -/
def cyclicWrite (l : List α) (i : ℕ) (s : List α) : List α :=
  if l.length - i < s.length then
    overwrite (overwrite l i (s.take (l.length - i))) 0 (s.drop (l.length - i))
  else overwrite l i s

theorem length_cyclicWrite {l s : List α} {i : ℕ} (hi : i ≤ l.length)
    (hs : s.length ≤ l.length) : (cyclicWrite l i s).length = l.length := by
  unfold cyclicWrite
  split
  · have h₁ : i + (s.take (l.length - i)).length ≤ l.length := by
      rw [List.length_take]; omega
    rw [length_overwrite, length_overwrite h₁]
    rw [length_overwrite h₁, List.length_drop]
    omega
  · exact length_overwrite (by omega)

theorem getElem?_cyclicWrite {l s : List α} {i : ℕ} (hi : i < l.length)
    (hs : s.length ≤ l.length) {k : ℕ} (hk : k < l.length) :
    (cyclicWrite l i s)[k]? =
      if i ≤ k ∧ k < i + s.length then s[k - i]?
      else if k + l.length < i + s.length then s[k + l.length - i]? else l[k]? := by
  unfold cyclicWrite
  split
  · rename_i hw
    have h₁ : (s.take (l.length - i)).length = l.length - i := by
      rw [List.length_take]; omega
    have h₂ : (s.drop (l.length - i)).length = s.length - (l.length - i) := List.length_drop ..
    have hl₁ : (overwrite l i (s.take (l.length - i))).length = l.length :=
      length_overwrite (by omega)
    rw [getElem?_overwrite (by omega), getElem?_overwrite (by omega), h₁, h₂]
    by_cases hfront : k + l.length < i + s.length
    · rw [if_pos (by omega), if_neg (by omega), if_pos hfront, List.getElem?_drop]
      congr 1
      omega
    · rw [if_neg (by omega)]
      by_cases hik : i ≤ k
      · rw [if_pos (by omega), if_pos (by omega), List.getElem?_take_of_lt (by omega)]
      · rw [if_neg (by omega), if_neg (by omega), if_neg hfront]
  · rename_i hw
    rw [getElem?_overwrite (by omega)]
    by_cases hik : i ≤ k ∧ k < i + s.length
    · rw [if_pos hik, if_pos hik]
    · rw [if_neg hik, if_neg hik, if_neg (by omega)]

/-- **Writing behind a window appends to it.**  The position `e` is the one behind the window of
`n` cells from `i` on; the new cells may run over the end of the list, but not into the window. -/
theorem window_cyclicWrite {l s : List α} {i n e : ℕ} (hi : i < l.length)
    (hn : n + s.length ≤ l.length)
    (he : e < l.length)
    (hine : (i + n < l.length ∧ e = i + n) ∨ (l.length ≤ i + n ∧ e + l.length = i + n)) :
    window (cyclicWrite l e s) i (n + s.length) = window l i n ++ s := by
  have hlen : (cyclicWrite l e s).length = l.length := length_cyclicWrite (by omega) (by omega)
  refine List.ext_getElem? fun k => ?_
  rcases Nat.lt_or_ge k (n + s.length) with hk | hk
  · rw [getElem?_window (by omega) (by omega) hk, hlen]
    rcases Nat.lt_or_ge k n with hkn | hkn
    · -- an old cell: the write does not touch it
      rw [List.getElem?_append_left (by rw [length_window (by omega)]; exact hkn),
        getElem?_window hi (by omega) hkn]
      split
      · rename_i h
        rw [getElem?_cyclicWrite he (by omega) h, if_neg (by omega), if_neg (by omega)]
      · rename_i h
        rw [getElem?_cyclicWrite he (by omega) (by omega), if_neg (by omega), if_neg (by omega)]
    · -- a new cell
      rw [List.getElem?_append_right (by rw [length_window (by omega)]; exact hkn),
        length_window (by omega)]
      split
      · rename_i h
        rw [getElem?_cyclicWrite he (by omega) h, if_pos (by omega)]
        congr 1
        omega
      · rename_i h
        rw [getElem?_cyclicWrite he (by omega) (by omega)]
        rcases hine with ⟨_, rfl⟩ | ⟨_, hine⟩
        · rw [if_neg (by omega), if_pos (by omega)]
          congr 1
          omega
        · rw [if_pos (by omega)]
          congr 1
          omega
  · rw [List.getElem?_eq_none, List.getElem?_eq_none]
    · rw [List.length_append, length_window (by omega)]; exact hk
    · rw [length_window (by omega)]; exact hk

end CyclicList
