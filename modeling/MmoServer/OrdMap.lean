/-
**Ordered maps and their first match.**

A `std::map` is a map whose keys are ordered, and a search by `std::find_if` runs through it in
the order of the keys.  The map itself is the one of the standard library; this module adds the
search, and states insertion and removal with the equality of keys.

Main definitions:

* `OrdMap.findIf` — the first entry that satisfies a condition;
* `OrdMap.eraseIf` — what a loop leaves that removes the first match until there is none;
* `OrdMap.insertAll` — inserting the entries of another map, without replacement;
* `OrdMap.values` — the values;
* `OrdMap.Indexes` — a map takes the keys of a list to their places.

Main results:

* `OrdMap.getElem?_insert`, `OrdMap.getElem?_erase` — insertion and removal change one key;
* `OrdMap.size_erase_lt` — removal of an entry makes the map smaller;
* `OrdMap.findIf_eq_none`, `OrdMap.findIf_some`, `OrdMap.findIf_first` — the search is complete and
  sound, and finds the first one;
* `OrdMap.getElem?_eraseIf` — exactly the matches are removed;
* `OrdMap.getElem?_insertAll` — the entries that are there stay;
* `OrdMap.nodup_values` — a map without two keys of one value has none of them twice;
* `OrdMap.Indexes.append` — a new key at the end of the list.
-/

import Mathlib.Data.List.Nodup

set_option relaxedAutoImplicit false
set_option autoImplicit false

namespace OrdMap

open Std

variable {κ α : Type*} {cmp : κ → κ → Ordering}

/-- `std::find_if`: the first entry, in the order of the keys, that satisfies the condition. -/
def findIf [TransCmp cmp] (m : ExtTreeMap κ α cmp) (p : κ → α → Bool) : Option (κ × α) :=
  m.toList.find? fun e => p e.1 e.2

/-- A loop of `std::find_if` and `erase`: all entries that satisfy the condition are removed, one
after the other. -/
def eraseIf [TransCmp cmp] (m : ExtTreeMap κ α cmp) (p : κ → α → Bool) : ExtTreeMap κ α cmp :=
  (m.toList.filter fun e => p e.1 e.2).foldl (fun m e => m.erase e.1) m

variable [TransCmp cmp] [LawfulEqCmp cmp] {m : ExtTreeMap κ α cmp}

/-- Whether all entries have a property is decided by looking at them. -/
instance decidableForall {p : κ → α → Prop} [∀ k v, Decidable (p k v)] :
    Decidable (∀ (k : κ) (v : α), m[k]? = some v → p k v) :=
  decidable_of_iff (∀ e ∈ m.toList, p e.1 e.2)
    ⟨fun h k v hv => h (k, v) (ExtTreeMap.mem_toList_iff_getElem?_eq_some.2 hv),
      fun h e he => h e.1 e.2 (ExtTreeMap.mem_toList_iff_getElem?_eq_some.1 he)⟩

theorem getElem?_insert [DecidableEq κ] (m : ExtTreeMap κ α cmp) (k a : κ) (v : α) :
    (m.insert k v)[a]? = if k = a then some v else m[a]? := by
  rw [ExtTreeMap.getElem?_insert]
  by_cases h : k = a
  · rw [if_pos h, if_pos (LawfulEqCmp.compare_eq_iff_eq.2 h)]
  · rw [if_neg h, if_neg fun he => h (LawfulEqCmp.compare_eq_iff_eq.1 he)]

theorem getElem?_erase [DecidableEq κ] (m : ExtTreeMap κ α cmp) (k a : κ) :
    (m.erase k)[a]? = if k = a then none else m[a]? := by
  rw [ExtTreeMap.getElem?_erase]
  by_cases h : k = a
  · rw [if_pos h, if_pos (LawfulEqCmp.compare_eq_iff_eq.2 h)]
  · rw [if_neg h, if_neg fun he => h (LawfulEqCmp.compare_eq_iff_eq.1 he)]

/-- An entry after an insertion is the new one, or an old one of another key. -/
theorem of_getElem?_insert [DecidableEq κ] {k a : κ} {v u : α}
    (h : (m.insert k v)[a]? = some u) : (k = a ∧ v = u) ∨ (k ≠ a ∧ m[a]? = some u) := by
  rw [getElem?_insert] at h
  by_cases hk : k = a
  · rw [if_pos hk] at h
    exact .inl ⟨hk, Option.some.inj h⟩
  · rw [if_neg hk] at h
    exact .inr ⟨hk, h⟩

/-- An entry after a removal is an old one of another key. -/
theorem of_getElem?_erase [DecidableEq κ] {k a : κ} {u : α} (h : (m.erase k)[a]? = some u) :
    k ≠ a ∧ m[a]? = some u := by
  rw [getElem?_erase] at h
  by_cases hk : k = a
  · rw [if_pos hk] at h
    cases h
  · rw [if_neg hk] at h
    exact ⟨hk, h⟩

/-- Removing an entry makes the map smaller. -/
theorem size_erase_lt {k : κ} {v : α} (h : m[k]? = some v) : (m.erase k).size < m.size := by
  have hpos : 0 < m.size := by
    rw [← ExtTreeMap.length_toList]
    exact List.length_pos_of_mem (ExtTreeMap.mem_toList_iff_getElem?_eq_some.2 h)
  have hmem : m.contains k = true := by
    rw [ExtTreeMap.contains_eq_isSome_getElem?, h]
    rfl
  rw [ExtTreeMap.size_erase, if_pos hmem]
  omega

/-- What was found is in the map, and satisfies the condition. -/
theorem findIf_some {p : κ → α → Bool} {k : κ} {v : α} (h : findIf m p = some (k, v)) :
    m[k]? = some v ∧ p k v = true :=
  ⟨ExtTreeMap.mem_toList_iff_getElem?_eq_some.1 (List.mem_of_find?_eq_some h), by
    simpa using List.find?_some h⟩

/-- What was found stands in front of all other entries that satisfy the condition. -/
theorem findIf_first {p : κ → α → Bool} {k k' : κ} {v v' : α} (h : findIf m p = some (k, v))
    (hk' : m[k']? = some v') (hp : p k' v' = true) : k = k' ∨ cmp k k' = .lt := by
  obtain ⟨-, before, behind, hlist, hbefore⟩ := List.find?_eq_some_iff_append.1 h
  have hmem := ExtTreeMap.mem_toList_iff_getElem?_eq_some.2 hk'
  have hordered := ExtTreeMap.ordered_keys_toList (t := m)
  rw [hlist] at hmem hordered
  rcases List.mem_append.1 hmem with hfirst | hrest
  · have hnot := hbefore _ hfirst
    simp [hp] at hnot
  · rcases List.mem_cons.1 hrest with heq | hbehind
    · exact .inl (congrArg Prod.fst heq).symm
    · exact .inr ((List.pairwise_cons.1 (List.pairwise_append.1 hordered).2.1).1 _ hbehind)

/-- Nothing is found exactly if no entry satisfies the condition. -/
theorem findIf_eq_none {p : κ → α → Bool} :
    findIf m p = none ↔ ∀ k v, m[k]? = some v → p k v = false := by
  unfold findIf
  rw [List.find?_eq_none]
  constructor
  · intro h k v hv
    exact Bool.eq_false_iff.2 (h (k, v) (ExtTreeMap.mem_toList_iff_getElem?_eq_some.2 hv))
  · rintro h ⟨k, v⟩ hmem
    exact Bool.eq_false_iff.1 (h k v (ExtTreeMap.mem_toList_iff_getElem?_eq_some.1 hmem))

/-- A key is gone after a list of keys was removed exactly if it is in the list. -/
theorem getElem?_foldl_erase [DecidableEq κ] (l : List (κ × α)) (m : ExtTreeMap κ α cmp) (k : κ) :
    (l.foldl (fun m e => m.erase e.1) m)[k]? = if k ∈ l.map Prod.fst then none else m[k]? := by
  induction l generalizing m with
  | nil => simp
  | cons e l ih =>
    rw [List.foldl_cons, ih, getElem?_erase, List.map_cons]
    by_cases hl : k ∈ l.map Prod.fst
    · rw [if_pos hl, if_pos (List.mem_cons_of_mem _ hl)]
    · by_cases he : e.1 = k
      · rw [if_neg hl, if_pos he, if_pos (List.mem_cons.2 (.inl he.symm))]
      · rw [if_neg hl, if_neg he, if_neg fun hmem =>
          (List.mem_cons.1 hmem).elim (fun hk => he hk.symm) hl]

/-- **Exactly the matches are removed.** -/
theorem getElem?_eraseIf (m : ExtTreeMap κ α cmp) (p : κ → α → Bool) (k : κ) :
    (eraseIf m p)[k]? = m[k]?.filter fun v => !p k v := by
  classical
  have hmem : k ∈ (m.toList.filter fun e => p e.1 e.2).map Prod.fst ↔
      ∃ v, m[k]? = some v ∧ p k v = true := by
    simp only [List.mem_map, List.mem_filter]
    constructor
    · rintro ⟨e, ⟨he, hp⟩, rfl⟩
      exact ⟨e.2, ExtTreeMap.mem_toList_iff_getElem?_eq_some.1 he, hp⟩
    · rintro ⟨v, hv, hp⟩
      exact ⟨(k, v), ⟨ExtTreeMap.mem_toList_iff_getElem?_eq_some.2 hv, hp⟩, rfl⟩
  unfold eraseIf
  rw [getElem?_foldl_erase]
  cases hk : m[k]? with
  | none =>
    rw [hk] at hmem
    rw [if_neg fun h => by obtain ⟨v, hv, -⟩ := hmem.1 h; cases hv]
    rfl
  | some v =>
    rw [hk] at hmem
    cases hp : p k v with
    | true =>
      rw [if_pos (hmem.2 ⟨v, rfl, hp⟩)]
      rw [Option.filter_some, hp]
      rfl
    | false =>
      have hnot : ¬ ∃ u, some v = some u ∧ p k u = true := by
        rintro ⟨u, hu, hpu⟩
        rw [← Option.some.inj hu, hp] at hpu
        cases hpu
      rw [if_neg fun h => hnot (hmem.1 h), Option.filter_some, hp]
      rfl

/-! ### Insertion without replacement -/

/-- `insert` and `emplace` of one entry: an entry of the key that is there stays. -/
theorem getElem?_insertIfNew [DecidableEq κ] (m : ExtTreeMap κ α cmp) (k a : κ) (v : α) :
    (m.insertIfNew k v)[a]? = if k = a ∧ m[k]? = none then some v else m[a]? := by
  have hmem : m[k]? = none ↔ k ∉ m := by
    rw [← Option.not_isSome_iff_eq_none, ExtTreeMap.isSome_getElem?_iff_mem]
  rw [ExtTreeMap.getElem?_insertIfNew]
  simp only [LawfulEqCmp.compare_eq_iff_eq, hmem]

/-- A new key. -/
theorem getElem?_insertIfNew_of_none [DecidableEq κ] {k : κ} (hk : m[k]? = none) (a : κ) (v : α) :
    (m.insertIfNew k v)[a]? = if k = a then some v else m[a]? := by
  simp [getElem?_insertIfNew, hk]

/-- `insert` of all entries of another map: the entries that are there stay. -/
def insertAll (m n : ExtTreeMap κ α cmp) : ExtTreeMap κ α cmp :=
  n.toList.foldl (fun m e => m.insertIfNew e.1 e.2) m

theorem getElem?_foldl_insertIfNew [DecidableEq κ] (l : List (κ × α)) (m : ExtTreeMap κ α cmp)
    (k : κ) : (l.foldl (fun m e => m.insertIfNew e.1 e.2) m)[k]? =
      m[k]?.or ((l.find? fun e => e.1 = k).map Prod.snd) := by
  induction l generalizing m with
  | nil => simp
  | cons e l ih =>
    rw [List.foldl_cons, ih, getElem?_insertIfNew, List.find?_cons]
    by_cases he : e.1 = k
    · subst he
      cases hm : m[e.1]? with
      | none => simp
      | some v => simp
    · simp [he]

theorem getElem?_insertAll [DecidableEq κ] (m n : ExtTreeMap κ α cmp) (k : κ) :
    (insertAll m n)[k]? = m[k]?.or n[k]? := by
  have hfind : (n.toList.find? fun e => e.1 = k).map Prod.snd = n[k]? := by
    cases hfound : n.toList.find? fun e => e.1 = k with
    | some e =>
      have he := List.mem_of_find?_eq_some hfound
      obtain rfl : e.1 = k := by simpa using List.find?_some hfound
      exact (ExtTreeMap.mem_toList_iff_getElem?_eq_some.1 he).symm
    | none =>
      cases hk : n[k]? with
      | none => rfl
      | some v =>
        have hmem := ExtTreeMap.mem_toList_iff_getElem?_eq_some.2 hk
        simpa using List.find?_eq_none.1 hfound (k, v) hmem
  rw [insertAll, getElem?_foldl_insertIfNew, hfind]

/-! ### The values of a map -/

/-- The values, in the order of their keys. -/
def values (m : ExtTreeMap κ α cmp) : List α := m.toList.map Prod.snd

@[simp]
theorem mem_values {v : α} : v ∈ values m ↔ ∃ k : κ, m[k]? = some v := by
  simp [values, ExtTreeMap.mem_toList_iff_getElem?_eq_some]

/-- No value is there twice, if no two keys have the same one. -/
theorem nodup_values (h : ∀ (k l : κ) (v : α), m[k]? = some v → m[l]? = some v → k = l) :
    (values m).Nodup := by
  have hdistinct : m.toList.Nodup := by
    refine (ExtTreeMap.distinct_keys_toList (t := m)).imp fun hne heq => ?_
    exact hne (LawfulEqCmp.compare_eq_iff_eq.2 (congrArg Prod.fst heq))
  refine hdistinct.map_on fun a ha b hb heq => ?_
  have hk := h a.1 b.1 a.2 (ExtTreeMap.mem_toList_iff_getElem?_eq_some.1 ha)
    (heq ▸ ExtTreeMap.mem_toList_iff_getElem?_eq_some.1 hb)
  exact Prod.ext hk heq

/-! ### Maps to the places of a list -/

/-- The map takes every key of the list to its place, and no other key anywhere. -/
def Indexes (m : ExtTreeMap κ ℕ cmp) (keys : List κ) : Prop :=
  ∀ (k : κ) (i : ℕ), m[k]? = some i ↔ keys[i]? = some k

namespace Indexes

variable {m : ExtTreeMap κ ℕ cmp} {keys : List κ}

omit [LawfulEqCmp cmp] in
theorem nil : Indexes (∅ : ExtTreeMap κ ℕ cmp) [] := by
  intro k i
  simp

omit [LawfulEqCmp cmp] in
theorem getElem?_eq_none (h : Indexes m keys) {k : κ} : m[k]? = none ↔ k ∉ keys := by
  rw [Option.eq_none_iff_forall_ne_some, List.mem_iff_getElem?, not_exists]
  exact forall_congr' fun i => not_congr (h k i)

/-- A new key at the end of the list. -/
theorem append [DecidableEq κ] (h : Indexes m keys) {k : κ} (hk : k ∉ keys) :
    Indexes (m.insert k keys.length) (keys ++ [k]) := by
  intro a i
  rw [getElem?_insert]
  have hlt : ∀ {b : κ} {j : ℕ}, keys[j]? = some b → j < keys.length := fun hb =>
    (List.getElem?_eq_some_iff.1 hb).1
  by_cases hi : i < keys.length
  · rw [List.getElem?_append_left hi, ← h a i]
    by_cases ha : k = a
    · rw [if_pos ha]
      constructor
      · intro hlen
        exact absurd (Option.some.inj hlen) (by omega)
      · intro hmem
        exact absurd (List.mem_of_getElem? ((h a i).1 hmem)) (ha ▸ hk)
    · rw [if_neg ha]
  · rw [List.getElem?_append_right (by omega)]
    by_cases ha : k = a
    · rw [if_pos ha, ha, List.getElem?_singleton, Option.some.injEq]
      constructor
      · intro hlen
        rw [if_pos (by omega)]
      · intro hsome
        by_contra hne
        rw [if_neg (by omega)] at hsome
        cases hsome
    · rw [if_neg ha]
      constructor
      · intro hmem
        exact absurd (hlt ((h a i).1 hmem)) hi
      · intro hsome
        have hmem := List.mem_of_getElem? hsome
        rw [List.mem_singleton] at hmem
        exact absurd hmem.symm ha

omit [LawfulEqCmp cmp] in
/-- The keys are distinct. -/
theorem inj (h : Indexes m keys) {k : κ} {i j : ℕ} (hi : keys[i]? = some k)
    (hj : keys[j]? = some k) : i = j := by
  have h₁ := (h k i).2 hi
  rw [(h k j).2 hj] at h₁
  exact (Option.some.inj h₁).symm

end Indexes

end OrdMap
