/-
**The components of a class.**

A component that is added waits for the next swap before it is among the objects, and a component that is
removed stays there until then.  A swap gives the removed ones back to their pool one after the other; each of
them may ask for the removal of others, which are given back in the same swap.

Main definitions:

* `MmoServer.ComponentCollections` — the collection, with `removeLoop` and `swap`;
* `MmoServer.CollectionEntry`, `MmoServer.standing` — what happens to a collection, and the component that
  stands under a serial number behind it;
* `MmoServer.CollectionHistory`, `MmoServer.CollectionEvent` — a collection with its history;
* `MmoServer.SwapSound` — what a swap does;
* `MmoServer.CollectionSound` — the collection is the map that its history tells of, and each swap does its work.

Main results:

* `MmoServer.ComponentCollections.removeLoop_spec` — **what a swap gives back**;
* `MmoServer.collectionSound_run` — **every run** refines the map.
-/

import MmoServer.OrdMap
import MmoServer.Transition

set_option relaxedAutoImplicit false
set_option autoImplicit false

namespace MmoServer

open Std Transition

/-! ### The history -/

/-- What happens to a collection: a component is added, a removal is requested, a component is given back to its
pool, where it finds components by their serial numbers, and a swap ends. -/
inductive CollectionEntry (α : Type)
  | added (sn : UInt64) (obj : α)
  | requested (sn : UInt64)
  | recycled (sn : UInt64) (obj : α) (get : UInt64 → Option α)
  | swapped

section

variable {α : Type}

/-- What an entry does to the component under a serial number, and to whether its removal is requested. -/
def CollectionEntry.apply (sn : UInt64) (st : Option (α × Bool)) : CollectionEntry α → Option (α × Bool)
  | .added k obj => if k = sn then some (obj, false) else st
  | .requested k => if k = sn then st.map fun r => (r.1, true) else st
  | .recycled k _ _ => if k = sn then none else st
  | .swapped => st

/-- **The component under a serial number**: the last one that was added and has not been given back since,
and whether its removal was requested since. -/
def standing (log : List (CollectionEntry α)) (sn : UInt64) : Option (α × Bool) :=
  log.foldl (CollectionEntry.apply sn) none

/-- The component under a serial number. -/
def found (log : List (CollectionEntry α)) (sn : UInt64) : Option α := (standing log sn).map Prod.fst

/-- The entry adds a component under a serial number. -/
def CollectionEntry.adds (sn : UInt64) : CollectionEntry α → Bool
  | .added k _ => k = sn
  | .requested _ | .recycled _ _ _ | .swapped => false

/-- The entry gives a component under a serial number back. -/
def CollectionEntry.recycles (sn : UInt64) : CollectionEntry α → Bool
  | .recycled k _ _ => k = sn
  | .added _ _ | .requested _ | .swapped => false

theorem standing_nil (sn : UInt64) : standing ([] : List (CollectionEntry α)) sn = none := rfl

theorem standing_append (log : List (CollectionEntry α)) (e : CollectionEntry α) (sn : UInt64) :
    standing (log ++ [e]) sn = e.apply sn (standing log sn) := by
  simp [standing]

end

/-! ### The collection -/

/-- `ComponentCollections`. -/
structure ComponentCollections (α : Type) where
  objs : ExtTreeMap UInt64 α compare
  addObjs : ExtTreeMap UInt64 α compare
  removeObjs : List UInt64

namespace ComponentCollections

variable {α : Type}

/-- An empty collection. -/
def empty : ComponentCollections α := ⟨∅, ∅, []⟩

/-- `Get`.  For zero it is whichever component comes first. -/
def get (c : ComponentCollections α) (sn : UInt64) : Option α :=
  if sn = 0 then (c.objs.toList.head?.or c.addObjs.toList.head?).map Prod.snd
  else c.objs[sn]?.or c.addObjs[sn]?

/-- `Add`. -/
def add (c : ComponentCollections α) (sn : UInt64) (obj : α) : ComponentCollections α :=
  if c.objs[sn]?.isSome ∨ c.addObjs[sn]?.isSome then c
  else { c with addObjs := c.addObjs.insert sn obj }

/-- `Remove`. -/
def remove (c : ComponentCollections α) (sn : UInt64) : ComponentCollections α :=
  { c with removeObjs := c.removeObjs ++ [sn] }

/-- The loop of `Swap` over the serial numbers to remove.  `ComponentBackToPool` is called while its component
is still there, and what it asks for goes to the end of the list that is walked. -/
def removeLoop (backToPool : ExtTreeMap UInt64 α compare → α → List UInt64) (removeObjs : List UInt64)
    (objs : ExtTreeMap UInt64 α compare) (log : List (CollectionEntry α)) :
    ExtTreeMap UInt64 α compare × List (CollectionEntry α) :=
  match removeObjs with
  | [] => (objs, log)
  | sn :: rest =>
    match _h : objs[sn]? with
    | none => removeLoop backToPool rest objs log
    | some obj =>
      let requests := backToPool objs obj
      removeLoop backToPool (rest ++ requests) (objs.erase sn)
        (log ++ .recycled sn obj (fun k => objs[k]?) :: requests.map .requested)
  termination_by (objs.size, removeObjs.length)
  decreasing_by
  · exact Prod.Lex.right _ (Nat.lt_succ_self rest.length)
  · exact Prod.Lex.left _ _ (OrdMap.size_erase_lt ‹_›)

/-- `Swap`, with what happens in it. -/
def swap (backToPool : ExtTreeMap UInt64 α compare → α → List UInt64) (c : ComponentCollections α)
    (log : List (CollectionEntry α)) : ComponentCollections α × List (CollectionEntry α) :=
  let r := removeLoop backToPool c.removeObjs (OrdMap.insertAll c.objs c.addObjs) log
  (⟨r.1, ∅, []⟩, r.2)

end ComponentCollections

/-- A collection with its history. -/
structure CollectionHistory (α : Type) where
  collection : ComponentCollections α
  log : List (CollectionEntry α)

/-- The operations of a collection. -/
inductive CollectionEvent (α : Type)
  | add (sn : UInt64) (obj : α)
  | remove (sn : UInt64)
  /-- `Swap`, with what `ComponentBackToPool` asks for. -/
  | swap (backToPool : ExtTreeMap UInt64 α compare → α → List UInt64)

namespace CollectionHistory

variable {α : Type}

/-- One operation. -/
def step (h : CollectionHistory α) : CollectionEvent α → Option (CollectionHistory α)
  | .add sn obj => some ⟨h.collection.add sn obj, h.log ++ [.added sn obj]⟩
  | .remove sn => some ⟨h.collection.remove sn, h.log ++ [.requested sn]⟩
  | .swap backToPool =>
    let r := h.collection.swap backToPool h.log
    some ⟨r.1, r.2 ++ [.swapped]⟩

/-- The collections, from the empty one. -/
def system : System (CollectionHistory α) (CollectionEvent α) := .ofFun (· = ⟨.empty, []⟩) step

/-- A component that is added has a serial number that is not zero, and under which no component stands. -/
def Fresh (h : CollectionHistory α) : CollectionEvent α → Prop
  | .add sn _ => sn ≠ 0 ∧ standing h.log sn = none
  | .remove _ | .swap _ => True

end CollectionHistory

/-- **What a swap does**, with what the callbacks ask for. -/
structure SwapSound {α : Type} (backToPool : ExtTreeMap UInt64 α compare → α → List UInt64)
    (h t : CollectionHistory α) : Prop where
  /-- No component is left whose removal was requested before the swap or in it. -/
  done : ∀ (sn : UInt64) (obj : α), standing t.log sn ≠ some (obj, true)
  /-- Each component whose removal was requested before is given back once, and is not found any more. -/
  given : ∀ (sn : UInt64) (obj : α), standing h.log sn = some (obj, true) →
    t.log.countP (CollectionEntry.recycles sn) = h.log.countP (CollectionEntry.recycles sn) + 1 ∧
      (sn ≠ 0 → t.collection.get sn = none)
  /-- What its callback asks for is requested right behind each component that is given back. -/
  asked : ∀ (l : List (CollectionEntry α)) (sn : UInt64) (obj : α) (get : UInt64 → Option α), h.log <+: l →
    l ++ [.recycled sn obj get] <+: t.log → ∃ objs : ExtTreeMap UInt64 α compare, (∀ k, objs[k]? = get k) ∧
      l ++ .recycled sn obj get :: (backToPool objs obj).map .requested <+: t.log

/-- **The collection is the map of its history**, and each swap does its work. -/
structure CollectionSound {α : Type} (h : CollectionHistory α) : Prop where
  /-- It finds the components that were added and have not been given back. -/
  get : ∀ sn, sn ≠ 0 → h.collection.get sn = found h.log sn
  /-- A component that is given back stands there, its removal has been requested, and it finds the others. -/
  recycled : ∀ (l : List (CollectionEntry α)) (sn : UInt64) (obj : α) (get : UInt64 → Option α),
    l ++ [.recycled sn obj get] <+: h.log →
      found l sn = some obj ∧ .requested sn ∈ l ∧ ∀ k, get k = found l k
  /-- A component that was added is still there, or was given back once. -/
  once : ∀ sn, h.log.countP (CollectionEntry.adds sn) =
    h.log.countP (CollectionEntry.recycles sn) + (if (standing h.log sn).isSome then 1 else 0)
  /-- No component is behind a swap if its removal was requested before the end of it. -/
  swapped : ∀ (l : List (CollectionEntry α)), l ++ [.swapped] <+: h.log →
    ∀ (sn : UInt64) (obj : α), standing l sn ≠ some (obj, true)
  /-- The next swap does its work. -/
  swap : ∀ (backToPool : ExtTreeMap UInt64 α compare → α → List UInt64) (t : CollectionHistory α),
    h.step (.swap backToPool) = some t → SwapSound backToPool h t

/-! ### What holds of a history -/

section

variable {α : Type} {log : List (CollectionEntry α)} {sn : UInt64} {obj : α}

/-- What holds of a history, whatever the collection is. -/
structure LogSound (log : List (CollectionEntry α)) : Prop where
  recycled : ∀ (l : List (CollectionEntry α)) (sn : UInt64) (obj : α) (get : UInt64 → Option α),
    l ++ [.recycled sn obj get] <+: log → found l sn = some obj ∧ .requested sn ∈ l ∧ ∀ k, get k = found l k
  once : ∀ sn, log.countP (CollectionEntry.adds sn) =
    log.countP (CollectionEntry.recycles sn) + (if (standing log sn).isSome then 1 else 0)
  swapped : ∀ (l : List (CollectionEntry α)), l ++ [.swapped] <+: log →
    ∀ (sn : UInt64) (obj : α), standing l sn ≠ some (obj, true)

theorem found_append_requested (k : UInt64) : found (log ++ [.requested k]) sn = found log sn := by
  rw [found, standing_append, CollectionEntry.apply]
  split
  · cases hst : standing log sn <;> simp [found, hst]
  · rfl

/-- The entries of a history that is longer by one. -/
theorem concat_prefix {e x : CollectionEntry α} {l : List (CollectionEntry α)} (h : l ++ [x] <+: log ++ [e]) :
    l ++ [x] <+: log ∨ l = log ∧ x = e := by
  rcases List.prefix_concat_iff.1 h with heq | hprefix
  · obtain ⟨rfl, hx⟩ := List.append_inj' heq rfl
    exact .inr ⟨rfl, List.singleton_inj.1 hx⟩
  · exact .inl hprefix

namespace LogSound

theorem nil : LogSound ([] : List (CollectionEntry α)) where
  recycled := fun l sn obj get h => absurd (List.prefix_nil.1 h) (by simp)
  once := fun sn => rfl
  swapped := fun l h => absurd (List.prefix_nil.1 h) (by simp)

/-- A component is added. -/
theorem added (h : LogSound log) (hfresh : standing log sn = none) (obj : α) :
    LogSound (log ++ [.added sn obj]) where
  recycled := by
    intro l k obj' get hl
    rcases concat_prefix hl with hl | ⟨-, hx⟩
    · exact h.recycled l k obj' get hl
    · cases hx
  once := by
    intro k
    have hcount := h.once k
    rw [List.countP_append, List.countP_append, standing_append, hcount]
    by_cases heq : sn = k
    · subst heq
      simp [CollectionEntry.adds, CollectionEntry.recycles, CollectionEntry.apply, hfresh]
    · simp [CollectionEntry.adds, CollectionEntry.recycles, CollectionEntry.apply, heq]
  swapped := by
    intro l hl
    rcases concat_prefix hl with hl | ⟨-, hx⟩
    · exact h.swapped l hl
    · cases hx

/-- A removal is requested. -/
theorem requested (h : LogSound log) (sn : UInt64) : LogSound (log ++ [.requested sn]) where
  recycled := by
    intro l k obj' get hl
    rcases concat_prefix hl with hl | ⟨-, hx⟩
    · exact h.recycled l k obj' get hl
    · cases hx
  once := by
    intro k
    have hsome : (CollectionEntry.apply k (standing log k) (.requested sn)).isSome =
        (standing log k).isSome := by
      rw [CollectionEntry.apply]
      split <;> simp
    rw [List.countP_append, List.countP_append, standing_append, hsome, h.once k]
    rfl
  swapped := by
    intro l hl
    rcases concat_prefix hl with hl | ⟨-, hx⟩
    · exact h.swapped l hl
    · cases hx

/-- A component is given back. -/
theorem give (h : LogSound log) (hfound : found log sn = some obj) (hasked : .requested sn ∈ log)
    {get : UInt64 → Option α} (hget : ∀ k, get k = found log k) :
    LogSound (log ++ [.recycled sn obj get]) where
  recycled := by
    intro l k obj' get' hl
    rcases concat_prefix hl with hl | ⟨rfl, hx⟩
    · exact h.recycled l k obj' get' hl
    · obtain ⟨rfl, rfl, rfl⟩ := CollectionEntry.recycled.inj hx
      exact ⟨hfound, hasked, hget⟩
  once := by
    intro k
    have hcount := h.once k
    rw [List.countP_append, List.countP_append, standing_append, hcount]
    by_cases heq : sn = k
    · subst heq
      obtain ⟨st, hst, -⟩ := Option.map_eq_some_iff.1 hfound
      simp [CollectionEntry.adds, CollectionEntry.recycles, CollectionEntry.apply, hst]
    · simp [CollectionEntry.adds, CollectionEntry.recycles, CollectionEntry.apply, heq]
  swapped := by
    intro l hl
    rcases concat_prefix hl with hl | ⟨-, hx⟩
    · exact h.swapped l hl
    · cases hx

/-- A swap ends. -/
theorem swap (h : LogSound log) (hdone : ∀ (sn : UInt64) (obj : α), standing log sn ≠ some (obj, true)) :
    LogSound (log ++ [.swapped]) where
  recycled := by
    intro l k obj' get hl
    rcases concat_prefix hl with hl | ⟨-, hx⟩
    · exact h.recycled l k obj' get hl
    · cases hx
  once := by
    intro k
    rw [List.countP_append, List.countP_append, standing_append, h.once k]
    rfl
  swapped := by
    intro l hl
    rcases concat_prefix hl with hl | ⟨rfl, -⟩
    · exact h.swapped l hl
    · exact hdone

end LogSound

/-- What the loop of a swap finds: the objects are those of the history, and the removals that are still to be
done are on the list. -/
structure LoopInv (removeObjs : List UInt64) (objs : ExtTreeMap UInt64 α compare)
    (log : List (CollectionEntry α)) : Prop where
  sound : LogSound log
  objs : ∀ sn, objs[sn]? = found log sn
  pending : ∀ (sn : UInt64) (obj : α), standing log sn = some (obj, true) → sn ∈ removeObjs
  asked : ∀ sn ∈ removeObjs, .requested sn ∈ log

namespace LoopInv

variable {objs : ExtTreeMap UInt64 α compare} {rest : List UInt64}

/-- A removal that was requested comes to the end of the list. -/
theorem request (h : LoopInv rest objs log) (sn : UInt64) :
    LoopInv (rest ++ [sn]) objs (log ++ [.requested sn]) where
  sound := h.sound.requested sn
  objs k := (h.objs k).trans (found_append_requested sn).symm
  pending := by
    intro k obj hk
    rw [standing_append, CollectionEntry.apply] at hk
    split at hk
    · rename_i heq
      exact List.mem_append_right _ (by simp [heq])
    · exact List.mem_append_left _ (h.pending k obj hk)
  asked := by
    intro k hk
    rcases List.mem_append.1 hk with hk | hk
    · exact List.mem_append_left _ (h.asked k hk)
    · obtain rfl := List.mem_singleton.1 hk
      exact List.mem_append_right _ (List.mem_singleton.2 rfl)

theorem requests (requests : List UInt64) (h : LoopInv rest objs log) :
    LoopInv (rest ++ requests) objs (log ++ requests.map .requested) := by
  induction requests generalizing rest log with
  | nil => simpa using h
  | cons sn requests ih =>
    have hnext := ih (h.request sn)
    simpa using hnext

/-- A serial number without a component is passed over. -/
theorem skip (h : LoopInv (sn :: rest) objs log) (hnone : objs[sn]? = none) : LoopInv rest objs log where
  sound := h.sound
  objs := h.objs
  pending := by
    intro k obj hk
    rcases List.mem_cons.1 (h.pending k obj hk) with rfl | hmem
    · rw [h.objs, found, hk] at hnone
      cases hnone
    · exact hmem
  asked k hk := h.asked k (List.mem_cons_of_mem _ hk)

/-- A component is given back. -/
theorem give (h : LoopInv (sn :: rest) objs log) (hobj : objs[sn]? = some obj) :
    LoopInv rest (objs.erase sn) (log ++ [.recycled sn obj fun k => objs[k]?]) where
  sound := h.sound.give ((h.objs sn).symm.trans hobj) (h.asked sn List.mem_cons_self) h.objs
  objs := by
    intro k
    rw [found, standing_append, OrdMap.getElem?_erase, CollectionEntry.apply]
    split
    · rfl
    · exact h.objs k
  pending := by
    intro k obj' hk
    rw [standing_append, CollectionEntry.apply] at hk
    split at hk
    · cases hk
    · rename_i hne
      exact (List.mem_cons.1 (h.pending k obj' hk)).resolve_left fun heq => hne heq.symm
  asked k hk := List.mem_append_left _ (h.asked k (List.mem_cons_of_mem _ hk))

end LoopInv

/-- **What a swap gives back.**  Behind its loop the objects are those of the history, and no removal is left
to be done. -/
theorem ComponentCollections.removeLoop_spec (backToPool : ExtTreeMap UInt64 α compare → α → List UInt64)
    (removeObjs : List UInt64) (objs : ExtTreeMap UInt64 α compare) (log : List (CollectionEntry α))
    (h : LoopInv removeObjs objs log) :
    LoopInv [] (removeLoop backToPool removeObjs objs log).1 (removeLoop backToPool removeObjs objs log).2 := by
  -- the induction follows the loop: the objects become fewer, or the list becomes shorter
  fun_induction removeLoop backToPool removeObjs objs log with
  | case1 objs log => exact h
  | case2 objs log sn rest hnone ih => exact ih (h.skip hnone)
  | case3 objs log sn rest obj hobj requests ih =>
    have hnext := (h.give hobj).requests requests
    rw [List.append_assoc, List.singleton_append] at hnext
    exact ih hnext

/-- The entries of a loop, which adds no components: what a component's callback asks for is requested right behind
it. -/
inductive LoopLog (backToPool : ExtTreeMap UInt64 α compare → α → List UInt64) : List (CollectionEntry α) → Prop
  | nil : LoopLog backToPool []
  | give (objs : ExtTreeMap UInt64 α compare) (sn : UInt64) (obj : α) {rest : List (CollectionEntry α)}
      (h : LoopLog backToPool rest) : LoopLog backToPool
        (.recycled sn obj (fun k => objs[k]?) :: (backToPool objs obj).map .requested ++ rest)

/-- A loop appends such entries. -/
theorem ComponentCollections.loopLog_removeLoop (backToPool : ExtTreeMap UInt64 α compare → α → List UInt64)
    (removeObjs : List UInt64) (objs : ExtTreeMap UInt64 α compare) (log : List (CollectionEntry α)) :
    ∃ made, (removeLoop backToPool removeObjs objs log).2 = log ++ made ∧ LoopLog backToPool made := by
  fun_induction removeLoop backToPool removeObjs objs log with
  | case1 objs log => exact ⟨[], (List.append_nil log).symm, .nil⟩
  | case2 objs log sn rest hnone ih => exact ih
  | case3 objs log sn rest obj hobj requests ih =>
    obtain ⟨made, hmade, hlog⟩ := ih
    exact ⟨_, by rw [hmade, List.append_assoc], .give objs sn obj hlog⟩

namespace LoopLog

variable {backToPool : ExtTreeMap UInt64 α compare → α → List UInt64} {made : List (CollectionEntry α)}

theorem adds_eq_false (h : LoopLog backToPool made) : ∀ e ∈ made, CollectionEntry.adds sn e = false := by
  induction h with
  | nil => exact fun e he => absurd he List.not_mem_nil
  | give objs k obj _ ih =>
    intro e he
    rcases List.mem_append.1 he with he | he
    · rcases List.mem_cons.1 he with rfl | he
      · rfl
      · obtain ⟨k', -, rfl⟩ := List.mem_map.1 he
        rfl
    · exact ih e he

/-- What is requested right behind a component that is given back. -/
theorem requested_of_recycled (h : LoopLog backToPool made) {l : List (CollectionEntry α)}
    {get : UInt64 → Option α} (hl : l ++ [.recycled sn obj get] <+: made) :
    ∃ objs : ExtTreeMap UInt64 α compare, (∀ k, objs[k]? = get k) ∧
      l ++ .recycled sn obj get :: (backToPool objs obj).map .requested <+: made := by
  induction h generalizing l with
  | nil => exact absurd (List.prefix_nil.1 hl) (by simp)
  | @give objs k obj' rest _ ih =>
    cases l with
    | nil =>
      obtain ⟨rfl, rfl, rfl⟩ := CollectionEntry.recycled.inj (List.cons_prefix_cons.1 hl).1
      exact ⟨objs, fun k => rfl, List.prefix_append _ _⟩
    | cons e l =>
      obtain ⟨rfl, hrest⟩ := List.cons_prefix_cons.1 hl
      -- the entry is none of the requests, and so it is behind them
      obtain ⟨l', rfl⟩ : (backToPool objs obj').map .requested <+: l := by
        refine (List.prefix_or_prefix_of_prefix (List.prefix_append _ rest) hrest).elim (fun hfront => ?_) fun hback => ?_
        · rcases List.prefix_concat_iff.1 hfront with heq | hfront
          · have hmem : CollectionEntry.recycled sn obj get ∈ (backToPool objs obj').map CollectionEntry.requested := by
              rw [heq]
              exact List.mem_append_right _ (List.mem_singleton_self _)
            obtain ⟨k', -, hk'⟩ := List.mem_map.1 hmem
            cases hk'
          · exact hfront
        · have hmem : CollectionEntry.recycled sn obj get ∈ (backToPool objs obj').map CollectionEntry.requested :=
            hback.subset (List.mem_append_right _ (List.mem_singleton_self _))
          obtain ⟨k', -, hk'⟩ := List.mem_map.1 hmem
          cases hk'
      have hbehind : (backToPool objs obj').map .requested ++ (l' ++ [.recycled sn obj get]) <+:
          (backToPool objs obj').map .requested ++ rest := by
        rw [← List.append_assoc]
        exact hrest
      obtain ⟨objs', hget, hfront⟩ := ih ((List.prefix_append_right_inj _).1 hbehind)
      refine ⟨objs', hget, ?_⟩
      rw [List.cons_append, List.cons_append, List.cons_prefix_cons, List.append_assoc, List.prefix_append_right_inj]
      exact ⟨rfl, hfront⟩

end LoopLog

/-- A component whose removal was requested stays so while nothing is added, until it is given back. -/
theorem standing_append_of_requested {made : List (CollectionEntry α)}
    (hst : standing log sn = none ∨ standing log sn = some (obj, true))
    (hadds : ∀ e ∈ made, CollectionEntry.adds sn e = false) :
    standing (log ++ made) sn = none ∨ standing (log ++ made) sn = some (obj, true) := by
  induction made generalizing log with
  | nil =>
    rw [List.append_nil]
    exact hst
  | cons e made ih =>
    rw [← List.singleton_append, ← List.append_assoc]
    refine ih ?_ fun e' he' => hadds e' (List.mem_cons_of_mem e he')
    rw [standing_append]
    cases e with
    | added k obj' =>
      have hne : k ≠ sn := by simpa [CollectionEntry.adds] using hadds _ List.mem_cons_self
      rw [CollectionEntry.apply, if_neg hne]
      exact hst
    | requested k =>
      rw [CollectionEntry.apply]
      split
      · rcases hst with hst | hst
        · exact .inl (by rw [hst]; rfl)
        · exact .inr (by rw [hst]; rfl)
      · exact hst
    | recycled k obj' get =>
      rw [CollectionEntry.apply]
      split
      · exact .inl rfl
      · exact hst
    | swapped => exact hst

/-- What holds of a collection and its history. -/
structure CollectionInv (h : CollectionHistory α) : Prop where
  sound : LogSound h.log
  objs : ∀ sn, h.collection.objs[sn]?.or h.collection.addObjs[sn]? = found h.log sn
  pending : ∀ (sn : UInt64) (obj : α), standing h.log sn = some (obj, true) → sn ∈ h.collection.removeObjs
  asked : ∀ sn ∈ h.collection.removeObjs, .requested sn ∈ h.log

namespace CollectionInv

variable {h : CollectionHistory α}

theorem start : CollectionInv (⟨.empty, []⟩ : CollectionHistory α) where
  sound := .nil
  objs sn := by simp [ComponentCollections.empty, found, standing_nil]
  pending sn obj hst := by cases hst
  asked sn hsn := by cases hsn

theorem add (hinv : CollectionInv h) (hfresh : standing h.log sn = none) (obj : α) :
    CollectionInv ⟨h.collection.add sn obj, h.log ++ [.added sn obj]⟩ := by
  have hnone : h.collection.objs[sn]?.or h.collection.addObjs[sn]? = none := by
    rw [hinv.objs, found, hfresh]
    rfl
  obtain ⟨hobjs, hadds⟩ := Option.or_eq_none_iff.1 hnone
  have hadd : h.collection.add sn obj =
      { h.collection with addObjs := h.collection.addObjs.insert sn obj } := by
    rw [ComponentCollections.add, if_neg (by simp [hobjs, hadds])]
  rw [hadd]
  refine { sound := hinv.sound.added hfresh obj, objs := fun k => ?_, pending := fun k obj' hk => ?_, asked := ?_ }
  · have hk := hinv.objs k
    rw [found, standing_append, CollectionEntry.apply, OrdMap.getElem?_insert]
    split
    · rename_i heq
      subst heq
      simp [hobjs]
    · exact hk
  · rw [standing_append, CollectionEntry.apply] at hk
    split at hk
    · cases hk
    · exact hinv.pending k obj' hk
  · exact fun k hk => List.mem_append_left _ (hinv.asked k hk)

theorem remove (hinv : CollectionInv h) (sn : UInt64) :
    CollectionInv ⟨h.collection.remove sn, h.log ++ [.requested sn]⟩ := by
  refine { sound := hinv.sound.requested sn, objs := fun k => ?_, pending := fun k obj hk => ?_, asked := ?_ }
  · rw [found_append_requested]
    exact hinv.objs k
  · rw [standing_append, CollectionEntry.apply] at hk
    split at hk
    · rename_i heq
      exact List.mem_append_right _ (by simp [heq])
    · exact List.mem_append_left _ (hinv.pending k obj hk)
  · intro k hk
    rcases List.mem_append.1 hk with hk | hk
    · exact List.mem_append_left _ (hinv.asked k hk)
    · obtain rfl := List.mem_singleton.1 hk
      exact List.mem_append_right _ (List.mem_singleton.2 rfl)

/-- The loop of a swap leaves no removal to be done. -/
theorem loop (hinv : CollectionInv h) (backToPool : ExtTreeMap UInt64 α compare → α → List UInt64) :
    LoopInv [] (h.collection.swap backToPool h.log).1.objs (h.collection.swap backToPool h.log).2 :=
  ComponentCollections.removeLoop_spec backToPool _ _ _
    { sound := hinv.sound
      objs := fun k => by rw [OrdMap.getElem?_insertAll, hinv.objs]
      pending := hinv.pending
      asked := hinv.asked }

theorem swap (hinv : CollectionInv h) (backToPool : ExtTreeMap UInt64 α compare → α → List UInt64) :
    CollectionInv ⟨(h.collection.swap backToPool h.log).1, (h.collection.swap backToPool h.log).2 ++ [.swapped]⟩ := by
  have hdone := hinv.loop backToPool
  have hnone : ∀ (sn : UInt64) (obj : α), standing (h.collection.swap backToPool h.log).2 sn ≠ some (obj, true) :=
    fun sn obj hst => absurd (hdone.pending sn obj hst) List.not_mem_nil
  refine { sound := hdone.sound.swap hnone, objs := fun k => ?_, pending := fun k obj hk => ?_, asked := nofun }
  · have hk := hdone.objs k
    simp only [ComponentCollections.swap, ExtTreeMap.getElem?_empty, Option.or_none, found, standing_append]
    exact hk
  · rw [standing_append] at hk
    exact absurd hk (hnone k obj)

/-- It finds the components of its history. -/
theorem get (hinv : CollectionInv h) (hsn : sn ≠ 0) : h.collection.get sn = found h.log sn := by
  rw [ComponentCollections.get, if_neg hsn]
  exact hinv.objs sn

/-- **A swap does its work.** -/
theorem swapSound (hinv : CollectionInv h) (backToPool : ExtTreeMap UInt64 α compare → α → List UInt64)
    {t : CollectionHistory α} (hstep : h.step (.swap backToPool) = some t) : SwapSound backToPool h t := by
  obtain rfl := Option.some.inj hstep
  have hafter := hinv.swap backToPool
  obtain ⟨made, hmade, hloop⟩ := ComponentCollections.loopLog_removeLoop backToPool h.collection.removeObjs
    (OrdMap.insertAll h.collection.objs h.collection.addObjs) h.log
  have hlog : (h.collection.swap backToPool h.log).2 = h.log ++ made := hmade
  have hdone : ∀ (sn : UInt64) (obj : α),
      standing ((h.collection.swap backToPool h.log).2 ++ [.swapped]) sn ≠ some (obj, true) :=
    fun sn obj hst => absurd (hafter.pending sn obj hst) List.not_mem_nil
  refine { done := hdone, given := fun sn obj hst => ?_, asked := fun l sn obj get hl hrecycled => ?_ }
  · have hnone : standing ((h.collection.swap backToPool h.log).2 ++ [.swapped]) sn = none := by
      have hrest := standing_append_of_requested (.inr hst) hloop.adds_eq_false
      rw [← hlog] at hrest
      have hswapped := hdone sn obj
      rw [standing_append] at hswapped ⊢
      exact hrest.resolve_right hswapped
    constructor
    · have honce := hafter.sound.once sn
      have hadds : (h.log ++ made ++ [CollectionEntry.swapped]).countP (CollectionEntry.adds sn) =
          h.log.countP (CollectionEntry.adds sn) := by
        rw [List.countP_append, List.countP_append, Nat.add_assoc, Nat.add_eq_left, Nat.add_eq_zero_iff]
        exact ⟨List.countP_eq_zero.2 fun e he => by rw [hloop.adds_eq_false e he]; exact Bool.false_ne_true, rfl⟩
      simp only [hnone, Option.isSome_none, Bool.false_eq_true, if_false, Nat.add_zero] at honce
      rw [← honce, hlog, hadds, hinv.sound.once sn, hst]
      rfl
    · intro hsn
      rw [hafter.get hsn, found, hnone]
      rfl
  · obtain ⟨l', rfl⟩ := hl
    rw [hlog, List.append_assoc, List.append_assoc, List.prefix_append_right_inj] at hrecycled
    rcases concat_prefix hrecycled with hrecycled | ⟨-, hx⟩
    · obtain ⟨objs, hget, hfront⟩ := hloop.requested_of_recycled hrecycled
      refine ⟨objs, hget, ?_⟩
      rw [hlog, List.append_assoc, List.append_assoc, List.prefix_append_right_inj]
      exact hfront.trans (List.prefix_append _ _)
    · cases hx

end CollectionInv

end

/-- **Every run** refines the map of its history. -/
theorem collectionSound_run {α : Type} {es : List (CollectionEvent α)} {h : CollectionHistory α}
    (hrun : (CollectionHistory.system.restrict CollectionHistory.Fresh).Run es h) : CollectionSound h := by
  have hinv : CollectionInv h := by
    refine hrun.restrict_invariant ?_ ?_
    · rintro s rfl
      exact .start
    · intro s e t hs hfresh ht
      cases e with
      | add sn obj =>
        obtain rfl := Option.some.inj ht
        exact hs.add hfresh.2 obj
      | remove sn =>
        obtain rfl := Option.some.inj ht
        exact hs.remove sn
      | swap backToPool =>
        obtain rfl := Option.some.inj ht
        exact hs.swap backToPool
  exact { get := fun sn hsn => hinv.get hsn, recycled := hinv.sound.recycled, once := hinv.sound.once,
          swapped := hinv.sound.swapped, swap := fun backToPool t ht => hinv.swapSound backToPool ht }

/-- The first component takes the second one with it. -/
def cascade (_ : ExtTreeMap UInt64 ℕ compare) (obj : ℕ) : List UInt64 := if obj = 10 then [2, 1] else []

/-- The first component is given back once, and is not found any more. -/
theorem collectionSound_cascade : ∃ h : CollectionHistory ℕ,
    (CollectionHistory.system.restrict CollectionHistory.Fresh).Run
      [.add 1 10, .add 2 20, .remove 1, .swap cascade] h ∧ CollectionSound h ∧
    h.log.countP (CollectionEntry.recycles 1) = 1 ∧ h.collection.get 1 = none := by
  have hstart : (CollectionHistory.system.restrict CollectionHistory.Fresh).Run [] (⟨.empty, []⟩ :
      CollectionHistory ℕ) := .init rfl
  have hone : (CollectionHistory.system.restrict CollectionHistory.Fresh).Run [.add 1 10]
      ⟨.add .empty 1 10, [.added 1 10]⟩ := hstart.step ⟨⟨by decide, rfl⟩, rfl⟩
  have htwo : (CollectionHistory.system.restrict CollectionHistory.Fresh).Run [.add 1 10, .add 2 20]
      ⟨(ComponentCollections.empty.add 1 10).add 2 20, [.added 1 10, .added 2 20]⟩ :=
    hone.step ⟨⟨by decide, rfl⟩, rfl⟩
  have hremove : (CollectionHistory.system.restrict CollectionHistory.Fresh).Run
      [.add 1 10, .add 2 20, .remove 1] ⟨((ComponentCollections.empty.add 1 10).add 2 20).remove 1,
        [.added 1 10, .added 2 20, .requested 1]⟩ := htwo.step ⟨True.intro, rfl⟩
  obtain ⟨h, hstep⟩ : ∃ h, CollectionHistory.step ⟨((ComponentCollections.empty.add 1 10).add 2 20).remove 1,
      [.added 1 10, .added 2 20, .requested 1]⟩ (.swap cascade) = some h := ⟨_, rfl⟩
  have hrun : (CollectionHistory.system.restrict CollectionHistory.Fresh).Run
      [.add 1 10, .add 2 20, .remove 1, .swap cascade] h := hremove.step ⟨True.intro, hstep⟩
  obtain ⟨hgiven, hget⟩ := ((collectionSound_run hremove).swap cascade h hstep).given 1 10 rfl
  exact ⟨h, hrun, collectionSound_run hrun, hgiven, hget (by decide)⟩

end MmoServer
