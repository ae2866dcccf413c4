/-
**Pools of objects.**

Every entity and every packet comes from a pool.  An object that was given back waits in a queue, with
the serial number zero; one that is handed out gets a new serial number, and stands under it in a
cache.  What is handed out and what is given back is noted first, and the cache changes when the pool
is updated, once per frame.

Objects are the numbers of their creation.

Main definitions:

* `MmoServer.CacheRefresh` — the cache, with what was noted since the last update;
* `MmoServer.ObjectPool`, `MmoServer.PoolEvent`, `MmoServer.poolSystem` — a pool, and its runs;
* `MmoServer.PoolSound` — no object is lost, and none is used twice.

Main results:

* `MmoServer.CacheRefresh.getElem?_swap`, `MmoServer.CacheRefresh.mem_recycled` — what an update
  leaves, and what it gives back;
* `MmoServer.ObjectPool.Doubled.update` — **what is given back twice** is given back once;
* `MmoServer.ObjectPool.Removing.update` — **what is given back** is in the queue behind an update;
* `MmoServer.poolSound_run` — **every run** of a pool whose serial numbers differ from each other.
-/

import MmoServer.OrdMap
import MmoServer.Transition
import Mathlib.Logic.Function.Basic

set_option relaxedAutoImplicit false
set_option autoImplicit false

namespace MmoServer

open Std

/-! ### The cache -/

/-- `CacheRefresh`: the objects, those that were added, and the serial numbers of those that were
removed. -/
structure CacheRefresh (α : Type) where
  objs : ExtTreeMap UInt64 α compare
  adds : ExtTreeMap UInt64 α compare
  removes : List UInt64

namespace CacheRefresh

variable {α : Type}

/-- An empty cache. -/
def empty : CacheRefresh α := ⟨∅, ∅, []⟩

/-- `AddObj`. -/
def addObj (c : CacheRefresh α) (sn : UInt64) (obj : α) : CacheRefresh α :=
  { c with adds := c.adds.insertIfNew sn obj }

/-- `RemoveObj`. -/
def removeObj (c : CacheRefresh α) (sn : UInt64) : CacheRefresh α :=
  { c with removes := c.removes ++ [sn] }

/-- `CanSwap`. -/
def canSwap (c : CacheRefresh α) : Bool := !c.adds.isEmpty || !c.removes.isEmpty

/-- The loop over the serial numbers that were removed, with the objects that it gives back. -/
def removeLoop : List UInt64 → ExtTreeMap UInt64 α compare → ExtTreeMap UInt64 α compare × List α
  | [], m => (m, [])
  | sn :: rest, m =>
    match m[sn]? with
    | none => removeLoop rest m
    | some obj => ((removeLoop rest (m.erase sn)).1, obj :: (removeLoop rest (m.erase sn)).2)

/-- `Swap`, with the list of what it recycles. -/
def swap (c : CacheRefresh α) : CacheRefresh α × List α :=
  let r := removeLoop c.removes (OrdMap.insertAll c.objs c.adds)
  (⟨r.1, ∅, []⟩, r.2)

/-- An object stands under a serial number, or was added under it. -/
def Holds (c : CacheRefresh α) (sn : UInt64) (obj : α) : Prop :=
  c.objs[sn]? = some obj ∨ c.adds[sn]? = some obj

theorem getElem?_removeLoop (l : List UInt64) (m : ExtTreeMap UInt64 α compare) (k : UInt64) :
    (removeLoop l m).1[k]? = if k ∈ l then none else m[k]? := by
  induction l generalizing m with
  | nil => simp [removeLoop]
  | cons sn l ih =>
      cases hsn : m[sn]? with
      | none =>
          simp only [removeLoop, hsn, ih, List.mem_cons]
          by_cases hk : k = sn
          · simp [hk, hsn]
          · simp [hk]
      | some obj =>
          simp only [removeLoop, hsn, ih, List.mem_cons, OrdMap.getElem?_erase]
          by_cases hk : k = sn
          · simp [hk]
          · simp [hk, Ne.symm hk]

/-- The loop gives back what it removes. -/
theorem mem_removeLoop (l : List UInt64) (m : ExtTreeMap UInt64 α compare) (obj : α) :
    obj ∈ (removeLoop l m).2 ↔ ∃ sn ∈ l, m[sn]? = some obj := by
  induction l generalizing m with
  | nil => simp [removeLoop]
  | cons sn l ih =>
      simp only [List.mem_cons, exists_eq_or_imp]
      cases hsn : m[sn]? with
      | none => simp [removeLoop, hsn, ih]
      | some obj' =>
          simp only [removeLoop, hsn, ih, List.mem_cons, OrdMap.getElem?_erase]
          constructor
          · rintro (rfl | ⟨k, hk, hobj⟩)
            · exact .inl rfl
            · by_cases hne : sn = k
              · simp [hne] at hobj
              · exact .inr ⟨k, hk, by simpa [hne] using hobj⟩
          · rintro (hobj | ⟨k, hk, hobj⟩)
            · exact .inl (Option.some.inj hobj).symm
            · by_cases hne : sn = k
              · subst hne
                exact .inl (Option.some.inj (hobj.symm.trans hsn))
              · exact .inr ⟨k, hk, by simpa [hne] using hobj⟩

/-- It gives nothing back twice, if nothing stands under two serial numbers. -/
theorem nodup_removeLoop (l : List UInt64) (m : ExtTreeMap UInt64 α compare)
    (h : ∀ (k k' : UInt64) (obj : α), m[k]? = some obj → m[k']? = some obj → k = k') :
    (removeLoop l m).2.Nodup := by
  induction l generalizing m with
  | nil => simp [removeLoop]
  | cons sn l ih =>
      cases hsn : m[sn]? with
      | none =>
          simp only [removeLoop, hsn]
          exact ih m h
      | some obj =>
          simp only [removeLoop, hsn, List.nodup_cons, mem_removeLoop]
          constructor
          · rintro ⟨k, -, hk⟩
            obtain ⟨hne, hk⟩ := OrdMap.of_getElem?_erase hk
            exact hne (h sn k obj hsn hk)
          · refine ih _ fun k k' obj' hk hk' => ?_
            exact h k k' obj' (OrdMap.of_getElem?_erase hk).2 (OrdMap.of_getElem?_erase hk').2

theorem removeLoop_append (A B : List UInt64) (m : ExtTreeMap UInt64 α compare) :
    removeLoop (A ++ B) m = ((removeLoop B (removeLoop A m).1).1,
      (removeLoop A m).2 ++ (removeLoop B (removeLoop A m).1).2) := by
  induction A generalizing m with
  | nil => simp [removeLoop]
  | cons sn A ih =>
      cases hsn : m[sn]? with
      | none => simp [removeLoop, hsn, ih]
      | some obj => simp [removeLoop, hsn, ih]

/-- **A serial number that was removed before** is not found again. -/
theorem removeLoop_again {A B : List UInt64} {sn : UInt64} (hsn : sn ∈ A)
    (m : ExtTreeMap UInt64 α compare) : removeLoop (A ++ sn :: B) m = removeLoop (A ++ B) m := by
  have hnone : (removeLoop A m).1[sn]? = none := by rw [getElem?_removeLoop, if_pos hsn]
  have hskip : removeLoop (sn :: B) (removeLoop A m).1 = removeLoop B (removeLoop A m).1 := by
    rw [removeLoop, hnone]
  rw [removeLoop_append, removeLoop_append A B, hskip]

/-- **What an update leaves.** -/
theorem getElem?_swap (c : CacheRefresh α) (sn : UInt64) :
    c.swap.1.objs[sn]? = if sn ∈ c.removes then none else c.objs[sn]?.or c.adds[sn]? := by
  simp only [swap, getElem?_removeLoop, OrdMap.getElem?_insertAll]

/-- **What it gives back.** -/
theorem mem_recycled (c : CacheRefresh α) (obj : α) :
    obj ∈ c.swap.2 ↔ ∃ sn ∈ c.removes, (c.objs[sn]?.or c.adds[sn]?) = some obj := by
  simp only [swap, mem_removeLoop, OrdMap.getElem?_insertAll]

/-- An addition under a serial number that is new. -/
theorem holds_addObj {c : CacheRefresh α} {sn : UInt64} (hnew : ∀ obj, ¬ c.Holds sn obj) (obj : α)
    (k : UInt64) (a : α) : (c.addObj sn obj).Holds k a ↔ c.Holds k a ∨ (k = sn ∧ a = obj) := by
  have hnone : c.adds[sn]? = none :=
    Option.eq_none_iff_forall_ne_some.2 fun a ha => hnew a (.inr ha)
  simp only [Holds, addObj, OrdMap.getElem?_insertIfNew_of_none hnone]
  by_cases hk : sn = k
  · subst hk
    simp [hnone, eq_comm]
  · simp [hk, Ne.symm hk]

end CacheRefresh

/-! ### The pool -/

/-- `DynamicObjectPool`, with the serial numbers of its objects. -/
structure ObjectPool where
  created : ℕ
  sns : ℕ → UInt64
  free : List ℕ
  objInUse : CacheRefresh ℕ

/-- The operations of a pool. -/
inductive PoolEvent
  /-- `MallocObject`, with the serial number that it is given, and the one that would be generated. -/
  | mallocObject (sn generated : UInt64)
  /-- `FreeObject`. -/
  | freeObject (obj : ℕ)
  /-- `Update`. -/
  | update
  deriving DecidableEq

namespace ObjectPool

/-- A pool at the start. -/
def empty : ObjectPool := ⟨0, fun _ => 0, [], .empty⟩

/-- The first part of `MallocObject`: new objects, if no object is free; one of a class that has only
one object, and otherwise fifty. -/
def refill (single : Bool) (p : ObjectPool) : ObjectPool :=
  if p.free.isEmpty then
    let objs := List.range' p.created (if single then 1 else 50)
    { p with
      created := p.created + (if single then 1 else 50)
      sns := fun obj => if obj ∈ objs then 0 else p.sns obj
      free := objs }
  else p

/-- `MallocObject`, with the object. -/
def mallocObject (single : Bool) (p : ObjectPool) (sn generated : UInt64) :
    Option (ℕ × ObjectPool) :=
  match (p.refill single).free with
  | [] => none
  | obj :: rest =>
    let sn := if sn = 0 then generated else sn
    some (obj, { p.refill single with
      sns := Function.update (p.refill single).sns obj sn
      free := rest
      objInUse := (p.refill single).objInUse.addObj sn obj })

/-- `FreeObject`. -/
def freeObject (p : ObjectPool) (obj : ℕ) : ObjectPool :=
  if p.sns obj = 0 then p else { p with objInUse := p.objInUse.removeObj (p.sns obj) }

/-- `Update`. -/
def update (p : ObjectPool) : ObjectPool :=
  if p.objInUse.canSwap then
    { p with
      sns := fun obj => if obj ∈ p.objInUse.swap.2 then 0 else p.sns obj
      free := p.free ++ p.objInUse.swap.2
      objInUse := p.objInUse.swap.1 }
  else p

/-- One operation.  Only an object that was created is given back. -/
def step (single : Bool) (p : ObjectPool) : PoolEvent → Option ObjectPool
  | .mallocObject sn generated => (p.mallocObject single sn generated).map Prod.snd
  | .freeObject obj => if obj < p.created then some (p.freeObject obj) else none
  | .update => some p.update

/-- Several operations. -/
def runs (single : Bool) : ObjectPool → List PoolEvent → Option ObjectPool
  | p, [] => some p
  | p, e :: es => (p.step single e).bind fun q => runs single q es

/-- An object is in use. -/
def InUse (p : ObjectPool) (obj : ℕ) : Prop := ∃ sn, p.objInUse.Holds sn obj

end ObjectPool

/-- The history of a pool. -/
inductive PoolEntry
  /-- An object was handed out, with a serial number. -/
  | handed (obj : ℕ) (sn : UInt64)
  /-- An object was given back. -/
  | freed (obj : ℕ)
  /-- The pool was updated. -/
  | updated
  deriving DecidableEq

/-- A pool with its history. -/
structure PoolHistory where
  pool : ObjectPool
  log : List PoolEntry

namespace PoolHistory

/-- The pool at the start. -/
def start : PoolHistory := ⟨.empty, []⟩

/-- One operation. -/
def step (single : Bool) (h : PoolHistory) : PoolEvent → Option PoolHistory
  | .mallocObject sn generated =>
    (h.pool.mallocObject single sn generated).map fun r =>
      ⟨r.2, h.log ++ [.handed r.1 (if sn = 0 then generated else sn)]⟩
  | .freeObject obj => ((h.pool.step single (.freeObject obj))).map fun p =>
      ⟨p, h.log ++ [.freed obj]⟩
  | .update => some ⟨h.pool.update, h.log ++ [.updated]⟩

/-- The serial numbers that were handed out. -/
def serials (h : PoolHistory) : List UInt64 :=
  h.log.filterMap fun
    | .handed _ sn => some sn
    | _ => none

end PoolHistory

/-- The runs of a pool. -/
def poolSystem (single : Bool) : Transition.System PoolHistory PoolEvent :=
  Transition.System.ofFun (fun h => h = .start) (PoolHistory.step single)

/-- An object was given back, and the pool was updated behind that. -/
def Returned (obj : ℕ) (l : List PoolEntry) : Prop :=
  ∃ a b, l = a ++ b ∧ .freed obj ∈ a ∧ .updated ∈ b

/-- **No object is lost, and none is used twice.** -/
structure PoolSound (single : Bool) (h : PoolHistory) : Prop where
  /-- The queue and the two parts of the cache have every object that was created, once. -/
  once : (h.pool.free ++ OrdMap.values h.pool.objInUse.objs ++
    OrdMap.values h.pool.objInUse.adds).Perm (List.range h.pool.created)
  /-- The objects in the queue have no serial number. -/
  zero : ∀ obj ∈ h.pool.free, h.pool.sns obj = 0
  /-- An object that is handed out again was given back, and the pool updated then. -/
  returned : ∀ l obj sn l' sn' l'',
    h.log = l ++ .handed obj sn :: l' ++ .handed obj sn' :: l'' → Returned obj l'
  /-- Giving an object back twice before the next update is giving it back once. -/
  again : ∀ obj, h.pool.InUse obj → ∀ es es', .update ∉ es → .update ∉ es' →
    h.pool.runs single (.freeObject obj :: es ++ .freeObject obj :: es' ++ [.update]) =
      h.pool.runs single (.freeObject obj :: es ++ es' ++ [.update])
  /-- An object that is given back with its serial number is in the queue behind the next update. -/
  freed : ∀ obj, h.pool.InUse obj → h.pool.sns obj ≠ 0 → ∀ es p, .update ∉ es →
    h.pool.runs single (.freeObject obj :: es ++ [.update]) = some p → obj ∈ p.free

/-! ### The invariant -/

/-- The invariant of a pool. -/
structure PoolInv (h : PoolHistory) : Prop where
  queued : ∀ obj ∈ h.pool.free, obj < h.pool.created ∧ h.pool.sns obj = 0 ∧ ¬ h.pool.InUse obj
  nodup : h.pool.free.Nodup
  held : ∀ sn obj, h.pool.objInUse.Holds sn obj →
    obj < h.pool.created ∧ h.pool.sns obj = sn ∧ sn ∈ h.serials
  apart : ∀ sn : UInt64, h.pool.objInUse.objs[sn]? ≠ none → h.pool.objInUse.adds[sn]? = none
  all : ∀ obj, obj < h.pool.created → obj ∈ h.pool.free ∨ h.pool.InUse obj
  removed : ∀ sn ∈ h.pool.objInUse.removes, sn ∈ h.serials
  /-- Only an object that was created was handed out. -/
  old : ∀ obj sn, .handed obj sn ∈ h.log → obj < h.pool.created
  /-- What is removed from the cache was given back. -/
  given : ∀ sn ∈ h.pool.objInUse.removes, ∀ obj, h.pool.objInUse.Holds sn obj → ∀ l k l',
    h.log = l ++ .handed obj k :: l' → .freed obj ∈ l'
  /-- An object in the queue was given back, and the pool updated. -/
  back : ∀ obj ∈ h.pool.free, ∀ l k l', h.log = l ++ .handed obj k :: l' → Returned obj l'
  returned : ∀ l obj sn l' sn' l'',
    h.log = l ++ .handed obj sn :: l' ++ .handed obj sn' :: l'' → Returned obj l'

theorem Returned.append {obj : ℕ} {l : List PoolEntry} (h : Returned obj l) (m : List PoolEntry) :
    Returned obj (l ++ m) := by
  obtain ⟨a, b, rfl, hfreed, hupdated⟩ := h
  exact ⟨a, b ++ m, by simp, hfreed, List.mem_append_left _ hupdated⟩

/-- Where a list stands in one that has another entry at its end. -/
theorem append_cons_eq_append_singleton {α : Type} {l l' L : List α} {x y : α}
    (h : L ++ [y] = l ++ x :: l') :
    (L = l ∧ y = x ∧ l' = []) ∨ ∃ m, l' = m ++ [y] ∧ L = l ++ x :: m := by
  rcases List.eq_nil_or_concat l' with rfl | ⟨m, z, rfl⟩
  · obtain ⟨rfl, hlast⟩ := List.append_inj' h rfl
    exact .inl ⟨rfl, (List.cons.inj hlast).1, rfl⟩
  · rw [List.concat_eq_append] at h ⊢
    rw [← List.cons_append, ← List.append_assoc] at h
    obtain ⟨rfl, hlast⟩ := List.append_inj' h rfl
    obtain rfl := List.singleton_inj.1 hlast
    exact .inr ⟨m, rfl, rfl⟩

namespace PoolInv

variable {single : Bool} {h v : PoolHistory}

theorem start : PoolInv .start where
  queued := by simp [PoolHistory.start, ObjectPool.empty]
  nodup := by simp [PoolHistory.start, ObjectPool.empty]
  held := by simp [PoolHistory.start, ObjectPool.empty, CacheRefresh.empty, CacheRefresh.Holds]
  apart := by simp [PoolHistory.start, ObjectPool.empty, CacheRefresh.empty]
  all := by simp [PoolHistory.start, ObjectPool.empty]
  removed := by simp [PoolHistory.start, ObjectPool.empty, CacheRefresh.empty]
  old := by simp [PoolHistory.start]
  given := by simp [PoolHistory.start, ObjectPool.empty, CacheRefresh.empty]
  back := by simp [PoolHistory.start, ObjectPool.empty]
  returned := by simp [PoolHistory.start]

/-- **No object is lost.** -/
theorem once (hinv : PoolInv h) :
    (h.pool.free ++ OrdMap.values h.pool.objInUse.objs ++
      OrdMap.values h.pool.objInUse.adds).Perm (List.range h.pool.created) := by
  have hobjs : (OrdMap.values h.pool.objInUse.objs).Nodup :=
    OrdMap.nodup_values fun k l obj hk hl => by
      rw [← (hinv.held k obj (.inl hk)).2.1, (hinv.held l obj (.inl hl)).2.1]
  have hadds : (OrdMap.values h.pool.objInUse.adds).Nodup :=
    OrdMap.nodup_values fun k l obj hk hl => by
      rw [← (hinv.held k obj (.inr hk)).2.1, (hinv.held l obj (.inr hl)).2.1]
  refine (List.perm_ext_iff_of_nodup ?_ List.nodup_range).2 ?_
  · refine List.nodup_append.2 ⟨List.nodup_append.2 ⟨hinv.nodup, hobjs, ?_⟩, hadds, ?_⟩
    · rintro obj hfree _ hmem rfl
      obtain ⟨sn, hsn⟩ := OrdMap.mem_values.1 hmem
      exact (hinv.queued obj hfree).2.2 ⟨sn, .inl hsn⟩
    · rintro obj hmem _ hmem' rfl
      obtain ⟨sn, hsn⟩ := OrdMap.mem_values.1 hmem'
      rcases List.mem_append.1 hmem with hfree | hmem
      · exact (hinv.queued obj hfree).2.2 ⟨sn, .inr hsn⟩
      · obtain ⟨k, hk⟩ := OrdMap.mem_values.1 hmem
        obtain rfl : k = sn := by
          rw [← (hinv.held k obj (.inl hk)).2.1, (hinv.held sn obj (.inr hsn)).2.1]
        rw [hinv.apart k (by simp [hk])] at hsn
        cases hsn
  · intro obj
    simp only [List.mem_append, OrdMap.mem_values, List.mem_range]
    constructor
    · rintro ((hfree | ⟨sn, hsn⟩) | ⟨sn, hsn⟩)
      · exact (hinv.queued obj hfree).1
      · exact (hinv.held sn obj (.inl hsn)).1
      · exact (hinv.held sn obj (.inr hsn)).1
    · intro hlt
      rcases hinv.all obj hlt with hfree | ⟨sn, hsn | hsn⟩
      · exact .inl (.inl hfree)
      · exact .inl (.inr ⟨sn, hsn⟩)
      · exact .inr ⟨sn, hsn⟩

/-- An object that has a serial number is in use. -/
theorem holds_of_sn (hinv : PoolInv h) {obj : ℕ} (hlt : obj < h.pool.created)
    (hsn : h.pool.sns obj ≠ 0) : h.pool.objInUse.Holds (h.pool.sns obj) obj := by
  rcases hinv.all obj hlt with hfree | ⟨sn, hheld⟩
  · exact absurd (hinv.queued obj hfree).2.1 hsn
  · rw [(hinv.held sn obj hheld).2.1]
    exact hheld

/-- There is a free object behind the first part of `MallocObject`. -/
theorem free_refill (p : ObjectPool) : (p.refill single).free ≠ [] := by
  unfold ObjectPool.refill
  split
  · cases single <;> simp [List.range'_eq_nil_iff]
  · rename_i hfree
    simpa using hfree

/-- New objects are free, and were never handed out. -/
theorem refill (hinv : PoolInv h) : PoolInv { h with pool := h.pool.refill single } := by
  unfold ObjectPool.refill
  split
  · have hnew : ∀ obj ∈ List.range' h.pool.created (if single then 1 else 50),
        h.pool.created ≤ obj ∧ obj < h.pool.created + (if single then 1 else 50) := by
      intro obj hobj
      simpa using List.mem_range'_1.1 hobj
    have hold : ∀ obj, obj < h.pool.created →
        obj ∉ List.range' h.pool.created (if single then 1 else 50) := by
      intro obj hlt hobj
      have := (hnew obj hobj).1
      omega
    refine { hinv with
      queued := fun obj hobj => ⟨(hnew obj hobj).2, if_pos hobj, ?_⟩
      nodup := List.nodup_range' ..
      held := fun sn obj hheld => ?_
      all := fun obj hlt => ?_
      old := fun obj sn hlog => Nat.lt_of_lt_of_le (hinv.old obj sn hlog) (Nat.le_add_right ..)
      back := fun obj hobj l k l' hlog => ?_ }
    · rintro ⟨sn, hheld⟩
      exact hold obj (hinv.held sn obj hheld).1 hobj
    · obtain ⟨hlt, hsn, hserial⟩ := hinv.held sn obj hheld
      exact ⟨Nat.lt_of_lt_of_le hlt (Nat.le_add_right ..), (if_neg (hold obj hlt)).trans hsn, hserial⟩
    · rename_i hempty
      by_cases hlt' : obj < h.pool.created
      · rcases hinv.all obj hlt' with hfree | hheld
        · rw [List.isEmpty_iff.1 hempty] at hfree
          cases hfree
        · exact .inr hheld
      · refine .inl (List.mem_range'_1.2 ⟨by omega, hlt⟩)
    · have hlog' : h.log = l ++ PoolEntry.handed obj k :: l' := hlog
      exact absurd hobj (hold obj (hinv.old obj k (by simp [hlog'])))
  · exact hinv

/-- **An object is handed out**, with a serial number that is new. -/
theorem handOut (hinv : PoolInv h) {obj : ℕ} {rest : List ℕ} {sn : UInt64}
    (hfree : h.pool.free = obj :: rest) (hnew : sn ∉ h.serials) :
    PoolInv ⟨{ h.pool with
      sns := Function.update h.pool.sns obj sn
      free := rest
      objInUse := h.pool.objInUse.addObj sn obj }, h.log ++ [PoolEntry.handed obj sn]⟩ := by
  have hnot : ∀ a, ¬ h.pool.objInUse.Holds sn a := fun a ha => hnew (hinv.held sn a ha).2.2
  obtain ⟨hlt, -, hout⟩ := hinv.queued obj (by simp [hfree])
  have hne : ∀ {k : UInt64} {a : ℕ}, h.pool.objInUse.Holds k a → a ≠ obj := by
    rintro k a ha rfl
    exact hout ⟨k, ha⟩
  have hnodup := hinv.nodup
  rw [hfree] at hnodup
  obtain ⟨hrest, hnodup⟩ := List.nodup_cons.1 hnodup
  have hserials : ({ h with log := h.log ++ [PoolEntry.handed obj sn] } : PoolHistory).serials =
      h.serials ++ [sn] := by
    simp [PoolHistory.serials]
  have hback := hinv.back obj (by simp [hfree])
  constructor
  · intro a ha
    obtain ⟨halt, hasn, haout⟩ := hinv.queued a (by simp [hfree, ha])
    have hane : a ≠ obj := by
      rintro rfl
      exact hrest ha
    refine ⟨halt, by simp [Function.update_of_ne hane, hasn], ?_⟩
    rintro ⟨k, hk⟩
    rcases (CacheRefresh.holds_addObj hnot obj k a).1 hk with hk | ⟨-, rfl⟩
    · exact haout ⟨k, hk⟩
    · exact hane rfl
  · exact hnodup
  · intro k a hk
    rcases (CacheRefresh.holds_addObj hnot obj k a).1 hk with hk | ⟨rfl, rfl⟩
    · obtain ⟨halt, hasn, haserial⟩ := hinv.held k a hk
      exact ⟨halt, by simp [Function.update_of_ne (hne hk), hasn], by
        show k ∈ ({ h with log := h.log ++ [PoolEntry.handed obj sn] } : PoolHistory).serials
        simp [hserials, haserial]⟩
    · exact ⟨hlt, by simp, by
        show k ∈ ({ h with log := h.log ++ [PoolEntry.handed a k] } : PoolHistory).serials
        simp [hserials]⟩
  · intro k hk
    have hadds := hinv.apart k hk
    have hkne : k ≠ sn := by
      rintro rfl
      obtain ⟨a, ha⟩ := Option.ne_none_iff_exists'.1 hk
      exact hnot a (.inl ha)
    simp [CacheRefresh.addObj, OrdMap.getElem?_insertIfNew, hadds, Ne.symm hkne]
  · intro a halt
    by_cases ha : a = obj
    · exact .inr ⟨sn, (CacheRefresh.holds_addObj hnot obj sn a).2 (.inr ⟨rfl, ha⟩)⟩
    · rcases hinv.all a halt with hq | ⟨k, hk⟩
      · rw [hfree] at hq
        exact .inl ((List.mem_cons.1 hq).resolve_left ha)
      · exact .inr ⟨k, (CacheRefresh.holds_addObj hnot obj k a).2 (.inl hk)⟩
  · intro k hk
    show k ∈ ({ h with log := h.log ++ [PoolEntry.handed obj sn] } : PoolHistory).serials
    simp [hserials, hinv.removed k hk]
  · intro a k ha
    rcases List.mem_append.1 ha with ha | ha
    · exact hinv.old a k ha
    · obtain ⟨rfl, -⟩ : a = obj ∧ k = sn := by simpa using ha
      exact hlt
  · intro k hk a ha l i l' hlog
    rcases (CacheRefresh.holds_addObj hnot obj k a).1 ha with ha | ⟨rfl, rfl⟩
    · rcases append_cons_eq_append_singleton hlog with ⟨-, heq, -⟩ | ⟨m, rfl, hm⟩
      · cases heq
        exact absurd rfl (hne ha)
      · exact List.mem_append_left _ (hinv.given k hk a ha l i m hm)
    · exact absurd (hinv.removed k hk) hnew
  · intro a ha l i l' hlog
    rcases append_cons_eq_append_singleton hlog with ⟨-, heq, -⟩ | ⟨m, rfl, hm⟩
    · cases heq
      exact absurd ha hrest
    · exact (hinv.back a (by simp [hfree, ha]) l i m hm).append _
  · intro l a k l' k' l'' hlog
    rcases append_cons_eq_append_singleton hlog with ⟨hl, heq, -⟩ | ⟨m, rfl, hm⟩
    · cases heq
      exact hback l k l' hl
    · exact hinv.returned l a k l' k' m hm

/-- **An object is given back.** -/
theorem freeObject (hinv : PoolInv h) {obj : ℕ} (hlt : obj < h.pool.created) :
    PoolInv ⟨h.pool.freeObject obj, h.log ++ [PoolEntry.freed obj]⟩ := by
  have hserials :
      ({ h with log := h.log ++ [PoolEntry.freed obj] } : PoolHistory).serials = h.serials := by
    simp [PoolHistory.serials]
  -- what does not depend on the serial numbers that are removed
  have hsame : PoolInv { h with log := h.log ++ [PoolEntry.freed obj] } := by
    refine { hinv with
      held := fun k a hk => ?_
      removed := fun k hk => ?_
      old := fun a k ha => ?_
      given := fun k hk a ha l i l' hlog => ?_
      back := fun a ha l i l' hlog => ?_
      returned := fun l a k l' k' l'' hlog => ?_ }
    · rw [hserials]
      exact hinv.held k a hk
    · rw [hserials]
      exact hinv.removed k hk
    · exact hinv.old a k (by simpa using ha)
    · obtain ⟨m, rfl, hm⟩ : ∃ m, l' = m ++ [PoolEntry.freed obj] ∧
          h.log = l ++ PoolEntry.handed a i :: m := by
        simpa using append_cons_eq_append_singleton hlog
      exact List.mem_append_left _ (hinv.given k hk a ha l i m hm)
    · obtain ⟨m, rfl, hm⟩ : ∃ m, l' = m ++ [PoolEntry.freed obj] ∧
          h.log = l ++ PoolEntry.handed a i :: m := by
        simpa using append_cons_eq_append_singleton hlog
      exact (hinv.back a ha l i m hm).append _
    · obtain ⟨m, rfl, hm⟩ : ∃ m, l'' = m ++ [PoolEntry.freed obj] ∧
          h.log = l ++ PoolEntry.handed a k :: l' ++ PoolEntry.handed a k' :: m := by
        simpa using append_cons_eq_append_singleton hlog
      exact hinv.returned l a k l' k' m hm
  unfold ObjectPool.freeObject
  split
  · exact hsame
  · rename_i hsn
    have hholds := hinv.holds_of_sn hlt hsn
    refine { hsame with
      removed := fun k hk => ?_
      given := fun k hk a ha l i l' hlog => ?_ }
    · rcases List.mem_append.1 hk with hk | hk
      · exact hsame.removed k hk
      · obtain rfl : k = h.pool.sns obj := by simpa using hk
        exact (hsame.held _ obj hholds).2.2
    · rcases List.mem_append.1 hk with hk | hk
      · exact hsame.given k hk a ha l i l' hlog
      · -- the object itself
        obtain rfl : k = h.pool.sns obj := by simpa using hk
        have ha : h.pool.objInUse.Holds (h.pool.sns obj) a := ha
        have haobj : a = obj := by
          rcases ha with ha | ha
          · rcases hholds with ho | ho
            · exact Option.some.inj (ha.symm.trans ho)
            · rw [hinv.apart _ (by simp [ha])] at ho
              cases ho
          · rcases hholds with ho | ho
            · rw [hinv.apart _ (by simp [ho])] at ha
              cases ha
            · exact Option.some.inj (ha.symm.trans ho)
        obtain ⟨m, rfl, -⟩ : ∃ m, l' = m ++ [PoolEntry.freed obj] ∧
            h.log = l ++ PoolEntry.handed a i :: m := by
          simpa using append_cons_eq_append_singleton hlog
        simp [haobj]

/-- What the cache holds under a serial number is one object. -/
theorem or_eq_some_iff (hinv : PoolInv h) {sn : UInt64} {obj : ℕ} :
    (h.pool.objInUse.objs[sn]?.or h.pool.objInUse.adds[sn]?) = some obj ↔
      h.pool.objInUse.Holds sn obj := by
  unfold CacheRefresh.Holds
  cases hobjs : h.pool.objInUse.objs[sn]? with
  | none => simp
  | some a => simp [hinv.apart sn (by simp [hobjs])]

/-- **The pool is updated.** -/
theorem update (hinv : PoolInv h) : PoolInv ⟨h.pool.update, h.log ++ [PoolEntry.updated]⟩ := by
  have hserials :
      ({ h with log := h.log ++ [PoolEntry.updated] } : PoolHistory).serials = h.serials := by
    simp [PoolHistory.serials]
  have hcons : ∀ {l l' : List PoolEntry} {a : ℕ} {k : UInt64},
      h.log ++ [PoolEntry.updated] = l ++ PoolEntry.handed a k :: l' →
        ∃ m, l' = m ++ [PoolEntry.updated] ∧ h.log = l ++ PoolEntry.handed a k :: m :=
    fun hlog => by simpa using append_cons_eq_append_singleton hlog
  have hreturned : ∀ l a k l' k' l'',
      h.log ++ [PoolEntry.updated] = l ++ PoolEntry.handed a k :: l' ++ PoolEntry.handed a k' :: l'' →
        Returned a l' := by
    intro l a k l' k' l'' hlog
    obtain ⟨m, -, hm⟩ := hcons hlog
    exact hinv.returned l a k l' k' m hm
  have hold : ∀ a k, PoolEntry.handed a k ∈ h.log ++ [PoolEntry.updated] → a < h.pool.created :=
    fun a k ha => hinv.old a k (by simpa using ha)
  have hback : ∀ a ∈ h.pool.free, ∀ l k l',
      h.log ++ [PoolEntry.updated] = l ++ PoolEntry.handed a k :: l' → Returned a l' := by
    intro a ha l k l' hlog
    obtain ⟨m, rfl, hm⟩ := hcons hlog
    exact (hinv.back a ha l k m hm).append _
  unfold ObjectPool.update
  split
  · -- what is recycled was in the cache
    have hrecycled : ∀ obj, obj ∈ h.pool.objInUse.swap.2 ↔
        ∃ sn ∈ h.pool.objInUse.removes, h.pool.objInUse.Holds sn obj := by
      intro obj
      simp only [CacheRefresh.mem_recycled, hinv.or_eq_some_iff]
    have hholds : ∀ sn obj, h.pool.objInUse.swap.1.Holds sn obj ↔
        sn ∉ h.pool.objInUse.removes ∧ h.pool.objInUse.Holds sn obj := by
      intro sn obj
      rw [← hinv.or_eq_some_iff]
      simp only [CacheRefresh.Holds, CacheRefresh.getElem?_swap]
      have hadds : h.pool.objInUse.swap.1.adds[sn]? = none := by simp [CacheRefresh.swap]
      rw [hadds]
      by_cases hsn : sn ∈ h.pool.objInUse.removes
      · simp [hsn]
      · simp [hsn]
    have hkept : ∀ {sn : UInt64} {obj : ℕ}, h.pool.objInUse.swap.1.Holds sn obj →
        obj ∉ h.pool.objInUse.swap.2 := by
      intro sn obj hheld hmem
      obtain ⟨hnot, hheld⟩ := (hholds sn obj).1 hheld
      obtain ⟨k, hk, hheld'⟩ := (hrecycled obj).1 hmem
      rw [← (hinv.held sn obj hheld).2.1, (hinv.held k obj hheld').2.1] at hnot
      exact hnot hk
    constructor
    · intro obj hobj
      rcases List.mem_append.1 hobj with hfree | hmem
      · obtain ⟨hlt, hsn, hout⟩ := hinv.queued obj hfree
        refine ⟨hlt, by simp [hsn], ?_⟩
        rintro ⟨k, hk⟩
        exact hout ⟨k, ((hholds k obj).1 hk).2⟩
      · obtain ⟨sn, -, hheld⟩ := (hrecycled obj).1 hmem
        refine ⟨(hinv.held sn obj hheld).1, if_pos hmem, ?_⟩
        rintro ⟨k, hk⟩
        exact hkept hk hmem
    · refine List.nodup_append.2 ⟨hinv.nodup, ?_, ?_⟩
      · refine CacheRefresh.nodup_removeLoop _ _ fun k k' obj hk hk' => ?_
        rw [OrdMap.getElem?_insertAll, hinv.or_eq_some_iff] at hk hk'
        rw [← (hinv.held k obj hk).2.1, (hinv.held k' obj hk').2.1]
      · rintro obj hfree _ hmem rfl
        obtain ⟨sn, -, hheld⟩ := (hrecycled obj).1 hmem
        exact (hinv.queued obj hfree).2.2 ⟨sn, hheld⟩
    · intro sn obj hheld
      have hnot := hkept hheld
      obtain ⟨hlt, hsn, hserial⟩ := hinv.held sn obj ((hholds sn obj).1 hheld).2
      refine ⟨hlt, (if_neg hnot).trans hsn, ?_⟩
      show sn ∈ ({ h with log := h.log ++ [PoolEntry.updated] } : PoolHistory).serials
      rw [hserials]
      exact hserial
    · intro sn _
      simp [CacheRefresh.swap]
    · intro obj hlt
      rcases hinv.all obj hlt with hfree | ⟨sn, hheld⟩
      · exact .inl (List.mem_append_left _ hfree)
      · by_cases hsn : sn ∈ h.pool.objInUse.removes
        · exact .inl (List.mem_append_right _ ((hrecycled obj).2 ⟨sn, hsn, hheld⟩))
        · exact .inr ⟨sn, (hholds sn obj).2 ⟨hsn, hheld⟩⟩
    · intro sn hsn
      simp [CacheRefresh.swap] at hsn
    · exact hold
    · intro sn hsn
      simp [CacheRefresh.swap] at hsn
    · intro obj hobj l k l' hlog
      rcases List.mem_append.1 hobj with hfree | hmem
      · exact hback obj hfree l k l' hlog
      · obtain ⟨sn, hsn, hheld⟩ := (hrecycled obj).1 hmem
        obtain ⟨m, rfl, hm⟩ := hcons hlog
        exact ⟨m, [.updated], rfl, hinv.given sn hsn obj hheld l k m hm, by simp⟩
    · exact hreturned
  · -- nothing was noted
    refine { hinv with
      held := fun sn obj hheld => ?_
      removed := fun sn hsn => ?_
      old := hold
      given := fun sn hsn obj hheld l k l' hlog => ?_
      back := hback
      returned := hreturned }
    · rw [hserials]
      exact hinv.held sn obj hheld
    · rw [hserials]
      exact hinv.removed sn hsn
    · obtain ⟨m, rfl, hm⟩ := hcons hlog
      exact List.mem_append_left _ (hinv.given sn hsn obj hheld l k m hm)

end PoolInv

/-! ### Giving back twice -/

namespace ObjectPool

variable {single : Bool} {p q : ObjectPool} {obj : ℕ} {sn : UInt64}

theorem runs_append (p : ObjectPool) (es es' : List PoolEvent) :
    p.runs single (es ++ es') = (p.runs single es).bind fun q => q.runs single es' := by
  induction es generalizing p with
  | nil => rfl
  | cons e es ih =>
      simp only [List.cons_append, runs]
      cases p.step single e with
      | none => rfl
      | some q => exact ih q

/-- Handing out does not look at the cache. -/
theorem refill_withCache (p : ObjectPool) (c : CacheRefresh ℕ) :
    ({ p with objInUse := c } : ObjectPool).refill single =
      { p.refill single with objInUse := c } := by
  unfold refill
  split <;> rfl

theorem objInUse_refill (p : ObjectPool) : (p.refill single).objInUse = p.objInUse := by
  unfold refill
  split <;> rfl

/-- What `MallocObject` does. -/
theorem of_mallocObject {generated : UInt64} {r : ℕ × ObjectPool}
    (hr : p.mallocObject single sn generated = some r) : ∃ rest,
      (p.refill single).free = r.1 :: rest ∧ r.2 = { p.refill single with
        sns := Function.update (p.refill single).sns r.1 (if sn = 0 then generated else sn)
        free := rest
        objInUse := (p.refill single).objInUse.addObj (if sn = 0 then generated else sn) r.1 } := by
  unfold mallocObject at hr
  split at hr
  · cases hr
  · rename_i a rest hfree
    obtain rfl := Option.some.inj hr
    exact ⟨rest, hfree, rfl⟩

/-- **`MallocObject` returns an object.** -/
theorem isSome_mallocObject (p : ObjectPool) (sn generated : UInt64) :
    (p.mallocObject single sn generated).isSome = true := by
  have hne : (p.refill single).free ≠ [] := PoolInv.free_refill p
  obtain ⟨obj, rest, hfree⟩ := List.exists_cons_of_ne_nil hne
  simp [mallocObject, hfree]

/-- An object that was given back since the last update. -/
structure Given (obj : ℕ) (sn : UInt64) (p : ObjectPool) : Prop where
  created : obj < p.created
  out : obj ∉ p.free
  same : p.sns obj = sn
  removed : sn ≠ 0 → sn ∈ p.objInUse.removes

/-- It stays so until the next update. -/
theorem Given.step (h : Given obj sn p) {e : PoolEvent} (he : e ≠ .update)
    (hq : p.step single e = some q) : Given obj sn q := by
  cases e with
  | mallocObject k generated =>
      obtain ⟨r, hr, rfl⟩ := Option.map_eq_some_iff.1 hq
      obtain ⟨rest, hfree, hr⟩ := of_mallocObject hr
      have hrefill : Given obj sn (p.refill single) := by
        unfold refill
        split
        · have hnot : obj ∉ List.range' p.created (if single then 1 else 50) := by
            intro hobj
            have := (List.mem_range'_1.1 hobj).1
            have := h.created
            omega
          exact ⟨Nat.lt_of_lt_of_le h.created (Nat.le_add_right ..), hnot, (if_neg hnot).trans h.same,
            h.removed⟩
        · exact h
      have hne : obj ≠ r.1 := by
        rintro rfl
        exact hrefill.out (by simp [hfree])
      rw [hr]
      refine ⟨hrefill.created, fun hmem => hrefill.out ?_, ?_, hrefill.removed⟩
      · rw [hfree]
        exact List.mem_cons_of_mem _ hmem
      · exact (Function.update_of_ne hne ..).trans hrefill.same
  | freeObject a =>
      obtain ⟨-, hq⟩ := Option.ite_none_right_eq_some.1 hq
      obtain rfl := Option.some.inj hq
      unfold freeObject
      split
      · exact h
      · exact ⟨h.created, h.out, h.same, fun hsn => List.mem_append_left _ (h.removed hsn)⟩
  | update => exact absurd rfl he

/-- The pools differ in a serial number that was removed once more. -/
def Doubled (sn : UInt64) (p q : ObjectPool) : Prop :=
  ∃ A B, sn ∈ A ∧ q.objInUse.removes = A ++ B ∧
    p = { q with objInUse := { q.objInUse with removes := A ++ sn :: B } }

/-- **What is given back twice** is given back once. -/
theorem Doubled.update (h : Doubled sn p q) : p.update = q.update := by
  obtain ⟨A, B, hsn, hremoves, rfl⟩ := h
  have hswap : CacheRefresh.swap { q.objInUse with removes := A ++ sn :: B } =
      q.objInUse.swap := by
    simp only [CacheRefresh.swap, hremoves, CacheRefresh.removeLoop_again hsn]
  have hA : A ≠ [] := List.ne_nil_of_mem hsn
  have hcan : q.objInUse.canSwap = true := by simp [CacheRefresh.canSwap, hremoves, hA]
  have hcan' : CacheRefresh.canSwap { q.objInUse with removes := A ++ sn :: B } = true := by
    simp [CacheRefresh.canSwap]
  simp only [ObjectPool.update, hcan, hcan', if_true, hswap]

/-- Operations before the update do not see the difference. -/
theorem Doubled.runs (h : Doubled sn p q) (es : List PoolEvent) (hes : .update ∉ es) :
    p.runs single (es ++ [.update]) = q.runs single (es ++ [.update]) := by
  induction es generalizing p q with
  | nil => simp [ObjectPool.runs, step, h.update]
  | cons e es ih =>
      have hrest : .update ∉ es := fun hmem => hes (List.mem_cons_of_mem _ hmem)
      obtain ⟨A, B, hsn, hremoves, rfl⟩ := h
      simp only [List.cons_append, ObjectPool.runs]
      cases e with
      | mallocObject k generated =>
          simp only [step, mallocObject, refill_withCache]
          cases hfree : (q.refill single).free with
          | nil => rfl
          | cons a rest =>
              refine ih ⟨A, B, hsn, ?_, ?_⟩ hrest
              · simp [CacheRefresh.addObj, objInUse_refill, hremoves]
              · simp [CacheRefresh.addObj, objInUse_refill]
      | freeObject a =>
          simp only [step]
          by_cases ha : a < q.created
          · rw [if_pos ha, if_pos ha]
            refine ih ?_ hrest
            unfold freeObject
            by_cases hzero : q.sns a = 0
            · rw [if_pos hzero, if_pos hzero]
              exact ⟨A, B, hsn, hremoves, rfl⟩
            · rw [if_neg hzero, if_neg hzero]
              exact ⟨A, B ++ [q.sns a], hsn, by simp [CacheRefresh.removeObj, hremoves],
                by simp [CacheRefresh.removeObj]⟩
          · rw [if_neg ha, if_neg ha]
      | update => exact absurd (List.mem_cons_self ..) hes

/-- **Giving an object back twice before the next update** has the effect of giving it back once. -/
theorem runs_freeObject_again (hlt : obj < p.created) (hout : obj ∉ p.free)
    (es es' : List PoolEvent) (hes : .update ∉ es) (hes' : .update ∉ es') :
    p.runs single (.freeObject obj :: es ++ .freeObject obj :: es' ++ [.update]) =
      p.runs single (.freeObject obj :: es ++ es' ++ [.update]) := by
  have hgiven : Given obj (p.sns obj) (p.freeObject obj) := by
    unfold freeObject
    split
    · rename_i hzero
      exact ⟨hlt, hout, rfl, fun hne => absurd hzero hne⟩
    · exact ⟨hlt, hout, rfl, fun _ => by simp [CacheRefresh.removeObj]⟩
  have hrun : ∀ (q : ObjectPool) (es : List PoolEvent), Given obj (p.sns obj) q →
      .update ∉ es → ∀ v, q.runs single es = some v → Given obj (p.sns obj) v := by
    intro q es
    induction es generalizing q with
    | nil =>
        intro hq _ v hv
        obtain rfl := Option.some.inj hv
        exact hq
    | cons e es ih =>
        intro hq hes v hv
        obtain ⟨u, hu, hv⟩ := Option.bind_eq_some_iff.1 hv
        refine ih u (hq.step (fun he => hes (by simp [he])) hu) (fun hmem => hes ?_) v hv
        exact List.mem_cons_of_mem _ hmem
  have hfirst : p.step single (.freeObject obj) = some (p.freeObject obj) := if_pos hlt
  simp only [List.cons_append, List.append_assoc, runs, hfirst, Option.bind_some]
  rw [runs_append _ es, runs_append _ es]
  cases hv : (p.freeObject obj).runs single es with
  | none => rfl
  | some v =>
      have h := hrun _ es hgiven hes v hv
      have hagain : v.step single (.freeObject obj) = some (v.freeObject obj) := if_pos h.created
      simp only [Option.bind_some, runs, hagain]
      by_cases hzero : p.sns obj = 0
      · have hnothing : v.freeObject obj = v := if_pos (h.same.trans hzero)
        rw [hnothing]
      · have hdoubled : Doubled (p.sns obj) (v.freeObject obj) v := by
          refine ⟨v.objInUse.removes, [], h.removed hzero, by simp, ?_⟩
          unfold freeObject
          rw [h.same, if_neg hzero]
          rfl
        exact hdoubled.runs es' hes'

/-! ### What giving back achieves -/

/-- The cache has the object under this serial number, which is to be removed. -/
def Removing (sn : UInt64) (obj : ℕ) (p : ObjectPool) : Prop :=
  sn ∈ p.objInUse.removes ∧ (p.objInUse.objs[sn]?.or p.objInUse.adds[sn]?) = some obj

/-- It stays so until the next update: an addition does not replace what is there. -/
theorem Removing.step (h : Removing sn obj p) {e : PoolEvent} (he : e ≠ .update)
    (hq : p.step single e = some q) : Removing sn obj q := by
  cases e with
  | mallocObject k generated =>
      obtain ⟨r, hr, rfl⟩ := Option.map_eq_some_iff.1 hq
      obtain ⟨rest, -, hr⟩ := of_mallocObject hr
      obtain ⟨hremoved, hheld⟩ := h
      have hcache : r.2.objInUse = p.objInUse.addObj (if k = 0 then generated else k) r.1 := by
        rw [hr]
        exact congrArg (fun c : CacheRefresh ℕ => c.addObj _ r.1) (objInUse_refill p)
      refine ⟨by rw [hcache]; exact hremoved, ?_⟩
      rw [hcache]
      simp only [CacheRefresh.addObj]
      cases hobjs : p.objInUse.objs[sn]? with
      | some a => rwa [hobjs] at hheld
      | none =>
          rw [hobjs, Option.none_or] at hheld
          have hthere : ¬ ((if k = 0 then generated else k) = sn ∧
              p.objInUse.adds[if k = 0 then generated else k]? = none) := by
            rintro ⟨rfl, hnone⟩
            rw [hheld] at hnone
            cases hnone
          rw [Option.none_or, OrdMap.getElem?_insertIfNew, if_neg hthere, hheld]
  | freeObject a =>
      obtain ⟨-, hq⟩ := Option.ite_none_right_eq_some.1 hq
      obtain rfl := Option.some.inj hq
      unfold freeObject
      split
      · exact h
      · exact ⟨List.mem_append_left _ h.1, h.2⟩
  | update => exact absurd rfl he

/-- **The update puts it into the queue.** -/
theorem Removing.update (h : Removing sn obj p) : obj ∈ p.update.free := by
  have hcan : p.objInUse.canSwap = true := by
    have hne := List.ne_nil_of_mem h.1
    simp [CacheRefresh.canSwap, hne]
  rw [ObjectPool.update, if_pos hcan]
  exact List.mem_append_right _ ((CacheRefresh.mem_recycled _ _).2 ⟨sn, h.1, h.2⟩)

theorem Removing.runs (h : Removing sn obj p) {es : List PoolEvent} (hes : .update ∉ es)
    (hq : p.runs single (es ++ [.update]) = some q) : obj ∈ q.free := by
  induction es generalizing p with
  | nil =>
      obtain rfl : p.update = q := by
        simpa [ObjectPool.runs, ObjectPool.step] using hq
      exact h.update
  | cons e es ih =>
      obtain ⟨v, hv, hq⟩ := Option.bind_eq_some_iff.1 hq
      refine ih (h.step (fun he => hes (by simp [he])) hv) (fun hmem => hes ?_) hq
      exact List.mem_cons_of_mem _ hmem

end ObjectPool

/-! ### Every run -/

/-- **The invariant of every run** in which no serial number is handed out twice. -/
theorem PoolInv.run {single : Bool} {es : List PoolEvent} {h : PoolHistory}
    (hrun : (poolSystem single).Run es h) (hserials : h.serials.Nodup) : PoolInv h := by
  induction hrun with
  | init hstart =>
      obtain rfl := hstart
      exact .start
  | @step _ s v e _ hstep ih =>
      cases e with
      | mallocObject k generated =>
          obtain ⟨r, hr, rfl⟩ := Option.map_eq_some_iff.1 hstep
          obtain ⟨rest, hfree, hr⟩ := ObjectPool.of_mallocObject hr
          have hsplit : (s.serials ++ [if k = 0 then generated else k]).Nodup := by
            simpa [PoolHistory.serials] using hserials
          obtain ⟨hs, -, hnew⟩ := List.nodup_append.1 hsplit
          have hnew : (if k = 0 then generated else k) ∉ s.serials := fun hmem =>
            hnew _ hmem _ (List.mem_singleton_self _) rfl
          rw [hr]
          exact (ih hs).refill.handOut hfree hnew
      | freeObject obj =>
          obtain ⟨p, hp, rfl⟩ := Option.map_eq_some_iff.1 hstep
          obtain ⟨hlt, hp⟩ := Option.ite_none_right_eq_some.1 hp
          obtain rfl := Option.some.inj hp
          exact (ih (by simpa [PoolHistory.serials] using hserials)).freeObject hlt
      | update =>
          obtain rfl := Option.some.inj hstep
          exact (ih (by simpa [PoolHistory.serials] using hserials)).update

/-- **No object is lost, and none is used twice**, in every run of a pool whose serial numbers differ
from each other. -/
theorem poolSound_run {single : Bool} {es : List PoolEvent} {h : PoolHistory}
    (hrun : (poolSystem single).Run es h) (hserials : h.serials.Nodup) : PoolSound single h := by
  have hinv := PoolInv.run hrun hserials
  refine ⟨hinv.once, fun obj hobj => (hinv.queued obj hobj).2.1, hinv.returned, ?_, ?_⟩
  · rintro obj ⟨sn, hheld⟩ es' es'' hes' hes''
    refine ObjectPool.runs_freeObject_again (hinv.held sn obj hheld).1 (fun hfree => ?_) es' es''
      hes' hes''
    exact (hinv.queued obj hfree).2.2 ⟨sn, hheld⟩
  · rintro obj ⟨sn, hheld⟩ hne es' p hes' hp
    obtain ⟨hlt, rfl, -⟩ := hinv.held sn obj hheld
    obtain ⟨q, hq, hp⟩ := Option.bind_eq_some_iff.1 hp
    obtain rfl := Option.some.inj ((if_pos hlt).symm.trans hq)
    -- its serial number is noted for the next update
    have hremoving : ObjectPool.Removing (h.pool.sns obj) obj (h.pool.freeObject obj) := by
      rw [ObjectPool.freeObject, if_neg hne]
      exact ⟨by simp [CacheRefresh.removeObj], hinv.or_eq_some_iff.2 hheld⟩
    exact hremoving.runs hes' hp

/-! ### A run -/

/-- The only object of a class is handed out, given back twice in the same frame, and handed out
again. -/
def handOutTwice : List PoolEvent :=
  [.mallocObject 0 7, .freeObject 0, .freeObject 0, .update, .mallocObject 0 8]

/-- It has been handed out with two serial numbers, and is in use once. -/
theorem poolSound_handOutTwice : ∃ h : PoolHistory, (poolSystem true).Run handOutTwice h ∧
    h.serials = [7, 8] ∧ PoolSound true h := by
  have hrun : (Transition.System.execute (PoolHistory.step true) (fun _ _ => True) .start
      handOutTwice).map PoolHistory.serials = some [7, 8] := by
    decide
  obtain ⟨h, hh, hserials⟩ := Option.map_eq_some_iff.1 hrun
  have hevents : (poolSystem true).Run handOutTwice h :=
    Transition.System.run_of_execute_true rfl hh
  exact ⟨h, hevents, hserials,
    poolSound_run hevents (by rw [hserials]; decide)⟩

end MmoServer
