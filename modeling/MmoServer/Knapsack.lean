/-
**The items of a player, in memory and in its record.**

A world keeps the items of a player three times: in the record that the player was loaded from, in
a vector, and in a map from the serial numbers to the places in the vector.  An update of an item
changes the vector, and a save copies the record, brings the copy up to date with the vector, and
marks every item that it brought up to date by a zero in place of its serial number.

Main definitions:

* `MmoServer.ItemData`, `MmoServer.PlayerProto` — an item, and the record of a player;
* `MmoServer.PlayerComponentDetail` — the vector and the map, with `parserFromProto` and
  `serializeToProto`;
* `MmoServer.PlayerData.updateKnapItem`, `MmoServer.PlayerData.serializeToProto` — the operations;
* `MmoServer.Knapsack` — what the items of a player are: a list with distinct serial numbers;
* `MmoServer.PlayerComponentDetail.Holds` — the vector and the map hold a knapsack;
* `MmoServer.SavesExactly` — what a save should write.

Main results:

* `MmoServer.foldlM_saveItem` — what the loop of a save does;
* `MmoServer.PlayerData.run_holds` — the vector and the map hold the knapsack after every run;
* `MmoServer.saves_exactly_iff` — **when a save writes what it should**.
-/

import MmoServer.OrdMap
import Mathlib.Data.List.Nodup

set_option relaxedAutoImplicit false
set_option autoImplicit false

namespace MmoServer

open Std

/-! ### Items and records -/

/-- `ItemType`.  A record may carry any number of the enumeration's underlying type. -/
structure ItemType where
  value : Int32
  deriving DecidableEq

/-- `KnapType`. -/
structure KnapType where
  value : Int32
  deriving DecidableEq

/-- An item that lies in the world. -/
def KnapType.world : KnapType := ⟨0⟩

/-- An item in the bag. -/
def KnapType.bag : KnapType := ⟨1⟩

/-- `ItemData`.  The message has the same fields, and is converted by copying them. -/
structure ItemData where
  sn : UInt64
  itemType : ItemType
  id : Int32
  knapType : KnapType
  index : Int32
  deriving DecidableEq

/-- An item in the place of another one. -/
def ItemData.place (e item : ItemData) : ItemData :=
  { e with knapType := item.knapType, index := item.index }

/-- An item that a save has marked. -/
def ItemData.marked (e : ItemData) : ItemData := { e with sn := 0 }

/-- `Proto.PlayerBase`. -/
structure PlayerBase where
  gender : Int32
  level : Int32
  xp : Int32
  hp : Int32
  mp : Int32
  atk : Int32
  def' : Int32

/-- `Proto.PlayerKnap`. -/
structure PlayerKnap where
  gold : Int32
  items : List ItemData

/-- `Proto.Player`, as far as the component reads and writes it. -/
structure PlayerProto where
  base : PlayerBase
  knap : PlayerKnap

/-! ### The component -/

/-- `PlayerComponentDetail`. -/
structure PlayerComponentDetail where
  gender : Int32
  lv : Int32
  xp : Int32
  hp : Int32
  mp : Int32
  atk : Int32
  def' : Int32
  gold : Int32
  knap : List ItemData
  idxMap : ExtTreeMap UInt64 ℕ compare

namespace PlayerComponentDetail

/-- An item at the end of the vector; the map keeps the place that a serial number has already. -/
def addItem (c : PlayerComponentDetail) (item : ItemData) : PlayerComponentDetail :=
  { c with
    idxMap :=
      match c.idxMap[item.sn]? with
      | some _ => c.idxMap
      | none => c.idxMap.insert item.sn c.knap.length
    knap := c.knap ++ [item] }

/-- A new component, with the basic data of a record. -/
def ofBase (proto : PlayerProto) : PlayerComponentDetail where
  gender := proto.base.gender
  lv := proto.base.level
  xp := proto.base.xp
  hp := proto.base.hp
  mp := proto.base.mp
  atk := proto.base.atk
  def' := proto.base.def'
  gold := proto.knap.gold
  knap := []
  idxMap := ∅

/-- `ParserFromProto`, for a new component. -/
def parserFromProto (proto : PlayerProto) : PlayerComponentDetail :=
  proto.knap.items.foldl addItem (ofBase proto)

/-- `Player::UpdateKnapItem`; nothing if it reads outside of the vector. -/
def updateKnapItem (c : PlayerComponentDetail) (item : ItemData) : Option PlayerComponentDetail :=
  match c.idxMap[item.sn]? with
  | some idx =>
    match c.knap[idx]? with
    | none => none
    | some e => some { c with knap := c.knap.set idx (e.place item) }
  | none => some (c.addItem item)

/-- The state of the first loop of a save. -/
structure SaveState where
  oldItems : List ItemData
  knap : List ItemData
  rmvSns : List UInt64

/-- The first loop of a save, for one item of the record. -/
def saveItem (idxMap : ExtTreeMap UInt64 ℕ compare) (s : SaveState) (old : ItemData) :
    Option SaveState :=
  match idxMap[old.sn]? with
  | none => some { s with oldItems := s.oldItems ++ [old] }
  | some idx =>
    match s.knap[idx]? with
    | none => none
    | some e =>
      if e.knapType = KnapType.world then
        some { s with oldItems := s.oldItems ++ [old], rmvSns := s.rmvSns ++ [e.sn] }
      else
        some { s with oldItems := s.oldItems ++ [old.place e], knap := s.knap.set idx e.marked }

/-- The second loop: the first item of each serial number is erased. -/
def eraseItems (items : List ItemData) (rmvSns : List UInt64) : List ItemData :=
  rmvSns.foldl (fun items sn => items.eraseP fun item => item.sn = sn) items

/-- `SerializeToProto`: the record, and the component; nothing if it reads outside of the vector. -/
def serializeToProto (c : PlayerComponentDetail) (proto : PlayerProto) :
    Option (PlayerProto × PlayerComponentDetail) :=
  (proto.knap.items.foldlM (saveItem c.idxMap) ⟨[], c.knap, []⟩).map fun s =>
    ({ base :=
        { proto.base with
          level := c.lv, xp := c.xp, hp := c.hp, mp := c.mp, atk := c.atk, def' := c.def' }
       knap :=
        { gold := c.gold
          items := eraseItems s.oldItems s.rmvSns ++ s.knap.filter fun item => item.sn ≠ 0 } },
      { c with knap := s.knap })

end PlayerComponentDetail

/-! ### The player -/

/-- `Player`, with the record that it was loaded from. -/
structure PlayerData where
  player : PlayerProto
  detail : PlayerComponentDetail

/-- What is done to the items of a player. -/
inductive KnapOp
  | updateKnapItem (item : ItemData)
  | save

namespace PlayerData

/-- A player that enters a world. -/
def load (player : PlayerProto) : PlayerData :=
  ⟨player, PlayerComponentDetail.parserFromProto player⟩

/-- `Player::UpdateKnapItem`. -/
def updateKnapItem (p : PlayerData) (item : ItemData) : Option PlayerData :=
  (p.detail.updateKnapItem item).map fun detail => { p with detail := detail }

/-- `Player::SerializeToProto`: the saved record starts as a copy of the loaded one. -/
def serializeToProto (p : PlayerData) : Option (PlayerProto × PlayerData) :=
  (p.detail.serializeToProto p.player).map fun r => (r.1, { p with detail := r.2 })

/-- One operation. -/
def apply (p : PlayerData) : KnapOp → Option PlayerData
  | .updateKnapItem item => p.updateKnapItem item
  | .save => p.serializeToProto.map Prod.snd

/-- A run of operations. -/
def run (p : PlayerData) (ops : List KnapOp) : Option PlayerData := ops.foldlM apply p

end PlayerData

/-! ### What the items are -/

/-- **A knapsack**: items with distinct serial numbers. -/
structure Knapsack where
  items : List ItemData
  nodup : (items.map ItemData.sn).Nodup

/-- The items, after the one with a serial number has got a new place. -/
def placeItem (item : ItemData) (items : List ItemData) : List ItemData :=
  items.map fun e => if e.sn = item.sn then e.place item else e

theorem map_sn_placeItem (item : ItemData) (items : List ItemData) :
    (placeItem item items).map ItemData.sn = items.map ItemData.sn := by
  unfold placeItem
  rw [List.map_map]
  refine List.map_congr_left fun e _ => ?_
  simp only [Function.comp]
  split <;> rfl

namespace Knapsack

/-- An item gets a new place, or is added. -/
def update (k : Knapsack) (item : ItemData) : Knapsack :=
  if h : item.sn ∈ k.items.map ItemData.sn then
    ⟨placeItem item k.items, by rw [map_sn_placeItem]; exact k.nodup⟩
  else
    ⟨k.items ++ [item], by
      rw [List.map_append, List.nodup_append]
      refine ⟨k.nodup, List.nodup_cons.2 ⟨List.not_mem_nil, List.nodup_nil⟩, ?_⟩
      intro sn hsn sn' hsn' heq
      rw [List.map_singleton, List.mem_singleton] at hsn'
      exact h (hsn' ▸ heq ▸ hsn)⟩

/-- One operation: a save changes no item. -/
def apply (k : Knapsack) : KnapOp → Knapsack
  | .updateKnapItem item => k.update item
  | .save => k

/-- A run of operations. -/
def run (k : Knapsack) (ops : List KnapOp) : Knapsack := ops.foldl apply k

/-- The items that belong into the record. -/
def kept (k : Knapsack) : List ItemData := k.items.filter fun e => e.knapType ≠ KnapType.world

end Knapsack

/-- **What a save should write**: exactly the items of the knapsack that do not lie in the world,
each once. -/
def SavesExactly (p : PlayerData) (k : Knapsack) : Prop :=
  ∃ saved q, p.serializeToProto = some (saved, q) ∧ saved.knap.items.Perm k.kept

/-! ### The loops of a save -/

/-- An item of the record, after the first loop has seen its item in the vector. -/
def refresh (old e : ItemData) : ItemData := if e.knapType = KnapType.world then old else old.place e

/-- An item of the vector, after the first loop has seen it. -/
def markKept (e : ItemData) : ItemData := if e.knapType = KnapType.world then e else e.marked

/-- The serial numbers that the first loop collects. -/
def removedSns (knap : List ItemData) : List UInt64 :=
  (knap.filter fun e => e.knapType = KnapType.world).map ItemData.sn

/-- **The first loop**: it goes through the beginning of the vector, in step with the record. -/
theorem foldlM_saveItem (idxMap : ExtTreeMap UInt64 ℕ compare) (loaded : List ItemData) :
    ∀ (front knap old : List ItemData) (rmv : List UInt64),
      (∀ (i : ℕ) (item : ItemData), loaded[i]? = some item →
        idxMap[item.sn]? = some (front.length + i)) →
      loaded.length ≤ knap.length →
      loaded.foldlM (PlayerComponentDetail.saveItem idxMap) ⟨old, front ++ knap, rmv⟩ =
        some ⟨old ++ List.zipWith refresh loaded knap,
          front ++ ((knap.take loaded.length).map markKept ++ knap.drop loaded.length),
          rmv ++ removedSns (knap.take loaded.length)⟩ := by
  induction loaded with
  | nil =>
    intro front knap old rmv _ _
    simp [removedSns]
  | cons item loaded ih =>
    intro front knap old rmv hidx hlen
    cases knap with
    | nil => simp at hlen
    | cons e knap =>
      have hfirst : idxMap[item.sn]? = some front.length := hidx 0 item rfl
      have hget : (front ++ e :: knap)[front.length]? = some e := by simp
      have hset : (front ++ e :: knap).set front.length e.marked =
          (front ++ [e.marked]) ++ knap := by simp
      have hsplit : front ++ e :: knap = (front ++ [e]) ++ knap := by simp
      have hrest : ∀ (f : ItemData) (i : ℕ) (item' : ItemData), loaded[i]? = some item' →
          idxMap[item'.sn]? = some ((front ++ [f]).length + i) := by
        intro f i item' hitem
        rw [List.length_append, List.length_singleton, Nat.add_assoc, Nat.add_comm 1 i]
        exact hidx (i + 1) item' hitem
      have hlen' : loaded.length ≤ knap.length := Nat.le_of_succ_le_succ hlen
      rw [List.foldlM_cons, PlayerComponentDetail.saveItem, hfirst]
      simp only [hget]
      by_cases hworld : e.knapType = KnapType.world
      · -- the item lies in the world
        rw [if_pos hworld, hsplit]
        refine (ih (front ++ [e]) knap (old ++ [item]) (rmv ++ [e.sn]) (hrest e) hlen').trans ?_
        simp [refresh, markKept, removedSns, hworld]
      · -- the item is brought up to date and marked
        rw [if_neg hworld, hset]
        refine (ih (front ++ [e.marked]) knap (old ++ [item.place e]) rmv (hrest _) hlen').trans ?_
        simp [refresh, markKept, removedSns, hworld]

theorem mem_of_mem_eraseItems {rmvSns : List UInt64} {item : ItemData} {items : List ItemData}
    (h : item ∈ PlayerComponentDetail.eraseItems items rmvSns) : item ∈ items := by
  induction rmvSns generalizing items with
  | nil => exact h
  | cons sn rmvSns ih => exact List.mem_of_mem_eraseP (ih h)

/-- The second loop keeps the items whose serial numbers are not collected. -/
theorem mem_eraseItems {rmvSns : List UInt64} {item : ItemData} {items : List ItemData}
    (h : item ∈ items) (hsn : item.sn ∉ rmvSns) :
    item ∈ PlayerComponentDetail.eraseItems items rmvSns := by
  induction rmvSns generalizing items with
  | nil => exact h
  | cons sn rmvSns ih =>
    rw [List.mem_cons, not_or] at hsn
    refine ih ?_ hsn.2
    rwa [List.mem_eraseP_of_neg]
    simpa using hsn.1

/-! ### The representation -/

/-- **The vector and the map hold a knapsack**: the map leads to the places of the items, the
vector has them there, those of the record may be marked, and an update has changed nothing of
those but their places. -/
structure PlayerComponentDetail.Holds (c : PlayerComponentDetail) (loaded : List ItemData)
    (k : Knapsack) : Prop where
  indexes : OrdMap.Indexes c.idxMap (k.items.map ItemData.sn)
  length_eq : c.knap.length = k.items.length
  knap : ∀ (i : ℕ) (e a : ItemData), c.knap[i]? = some e → k.items[i]? = some a →
    e = a ∨ (i < loaded.length ∧ e = a.marked)
  loaded : ∀ (i : ℕ) (item : ItemData), loaded[i]? = some item →
    ∃ a, k.items[i]? = some a ∧ a = item.place a

/-- A new item at the end of the vector. -/
theorem PlayerComponentDetail.indexes_addItem {c : PlayerComponentDetail} {keys : List UInt64}
    (h : OrdMap.Indexes c.idxMap keys) (hlen : c.knap.length = keys.length) {item : ItemData}
    (hnew : item.sn ∉ keys) : OrdMap.Indexes (c.addItem item).idxMap (keys ++ [item.sn]) := by
  unfold addItem
  rw [h.getElem?_eq_none.2 hnew, hlen]
  exact h.append hnew

theorem PlayerComponentDetail.foldl_addItem {items : List ItemData} :
    ∀ {c : PlayerComponentDetail}, OrdMap.Indexes c.idxMap (c.knap.map ItemData.sn) →
      ((c.knap ++ items).map ItemData.sn).Nodup →
      (items.foldl addItem c).knap = c.knap ++ items ∧
        OrdMap.Indexes (items.foldl addItem c).idxMap ((c.knap ++ items).map ItemData.sn) := by
  induction items with
  | nil =>
    intro c h _
    rw [List.append_nil]
    exact ⟨rfl, h⟩
  | cons item items ih =>
    intro c h hnodup
    have hsplit : c.knap ++ item :: items = (c.addItem item).knap ++ items := by
      simp [addItem]
    have hnew : item.sn ∉ c.knap.map ItemData.sn := by
      intro hmem
      rw [List.map_append, List.map_cons, List.nodup_append] at hnodup
      exact hnodup.2.2 item.sn hmem item.sn List.mem_cons_self rfl
    have hadd := indexes_addItem h (by simp) hnew
    have hkeys : c.knap.map ItemData.sn ++ [item.sn] = (c.addItem item).knap.map ItemData.sn := by
      simp [addItem]
    rw [hkeys] at hadd
    rw [hsplit] at hnodup ⊢
    exact ih hadd hnodup

/-- A loaded player holds the items of its record. -/
theorem PlayerComponentDetail.parserFromProto_holds (proto : PlayerProto)
    (h : (proto.knap.items.map ItemData.sn).Nodup) :
    (parserFromProto proto).Holds proto.knap.items ⟨proto.knap.items, h⟩ := by
  obtain ⟨hknap, hindexes⟩ := foldl_addItem (c := ofBase proto) OrdMap.Indexes.nil h
  have hnil : (ofBase proto).knap = [] := rfl
  rw [hnil, List.nil_append] at hknap hindexes
  refine ⟨hindexes, ?_, ?_, ?_⟩
  · rw [parserFromProto, hknap]
  · intro i e a he ha
    rw [parserFromProto, hknap, ha] at he
    exact Or.inl (Option.some.inj he).symm
  · intro i item hitem
    exact ⟨item, hitem, rfl⟩

/-- The item at the place of a serial number is the only one that gets a new place. -/
theorem getElem?_placeItem {k : Knapsack} {idx : ℕ} {item : ItemData}
    (hidx : (k.items.map ItemData.sn)[idx]? = some item.sn) (i : ℕ) :
    (placeItem item k.items)[i]? =
      if i = idx then k.items[i]?.map fun a => a.place item else k.items[i]? := by
  unfold placeItem
  rw [List.getElem?_map]
  cases ha : k.items[i]? with
  | none => simp
  | some a =>
    have hsn : (k.items.map ItemData.sn)[i]? = some a.sn := by
      rw [List.getElem?_map, ha]
      rfl
    have hiff : a.sn = item.sn ↔ i = idx := by
      constructor
      · intro heq
        rw [heq] at hsn
        exact (List.getElem?_inj (List.getElem?_eq_some_iff.1 hsn).1 k.nodup).1 (hsn.trans hidx.symm)
      · rintro rfl
        rw [hidx] at hsn
        exact (Option.some.inj hsn).symm
    by_cases hi : i = idx
    · simp [hi, hiff.2 hi]
    · have hne : ¬ a.sn = item.sn := fun heq => hi (hiff.1 heq)
      simp [hi, hne]

/-- An update of the player updates the knapsack. -/
theorem PlayerComponentDetail.Holds.updateKnapItem {c : PlayerComponentDetail}
    {loaded : List ItemData} {k : Knapsack} (h : c.Holds loaded k) (item : ItemData) :
    ∃ d, c.updateKnapItem item = some d ∧ d.Holds loaded (k.update item) := by
  unfold PlayerComponentDetail.updateKnapItem Knapsack.update
  cases hidx : c.idxMap[item.sn]? with
  | none =>
    have hnew := h.indexes.getElem?_eq_none.1 hidx
    refine ⟨c.addItem item, rfl, ?_⟩
    rw [dif_neg hnew]
    have hlen : c.knap.length = (k.items.map ItemData.sn).length := by
      rw [List.length_map, h.length_eq]
    refine ⟨?_, ?_, ?_, ?_⟩
    · rw [List.map_append]
      exact indexes_addItem h.indexes hlen hnew
    · simp [addItem, h.length_eq]
    · intro i e a he ha
      simp only [addItem] at he ha
      by_cases hi : i < k.items.length
      · rw [List.getElem?_append_left (h.length_eq ▸ hi)] at he
        rw [List.getElem?_append_left hi] at ha
        exact h.knap i e a he ha
      · rw [List.getElem?_append_right (by rw [h.length_eq]; omega), h.length_eq] at he
        rw [List.getElem?_append_right (by omega), he] at ha
        exact Or.inl (Option.some.inj ha)
    · intro i p hp
      obtain ⟨a, ha, heq⟩ := h.loaded i p hp
      refine ⟨a, ?_, heq⟩
      rw [List.getElem?_append_left (List.getElem?_eq_some_iff.1 ha).1, ha]
  | some idx =>
    have hplace := (h.indexes item.sn idx).1 hidx
    have hmem : item.sn ∈ k.items.map ItemData.sn := List.mem_of_getElem? hplace
    have hlt : idx < c.knap.length := by
      have := (List.getElem?_eq_some_iff.1 hplace).1
      rwa [List.length_map, ← h.length_eq] at this
    have hget : c.knap[idx]? = some c.knap[idx] := List.getElem?_eq_getElem hlt
    rw [dif_pos hmem]
    simp only [hget]
    refine ⟨_, rfl, ?_, ?_, ?_, ?_⟩
    · simp only [map_sn_placeItem]
      exact h.indexes
    · simp [placeItem, h.length_eq]
    · intro i e a he ha
      simp only at he ha
      rw [getElem?_placeItem hplace] at ha
      by_cases hi : i = idx
      · subst hi
        rw [List.getElem?_set_self hlt] at he
        rw [if_pos rfl] at ha
        obtain ⟨b, hb, rfl⟩ := Option.map_eq_some_iff.1 ha
        obtain rfl := Option.some.inj he
        rcases h.knap i _ b hget hb with hsame | ⟨hi, hmarked⟩
        · rw [hsame]
          exact Or.inl rfl
        · rw [hmarked]
          exact Or.inr ⟨hi, rfl⟩
      · rw [List.getElem?_set_ne (Ne.symm hi)] at he
        rw [if_neg hi] at ha
        exact h.knap i e a he ha
    · intro i p hp
      obtain ⟨a, ha, heq⟩ := h.loaded i p hp
      simp only
      rw [getElem?_placeItem hplace]
      by_cases hi : i = idx
      · rw [if_pos hi, ha]
        refine ⟨a.place item, rfl, ?_⟩
        rw [heq]
        rfl
      · rw [if_neg hi]
        exact ⟨a, ha, heq⟩

/-! ### A save -/

/-- The vector after a save of a record with `n` items. -/
def markFront (n : ℕ) (knap : List ItemData) : List ItemData :=
  (knap.take n).map markKept ++ knap.drop n

theorem getElem?_markFront {n : ℕ} {knap : List ItemData} (hn : n ≤ knap.length) (i : ℕ) :
    (markFront n knap)[i]? = if i < n then knap[i]?.map markKept else knap[i]? := by
  have hlen : ((knap.take n).map markKept).length = n := by simp [hn]
  unfold markFront
  by_cases hi : i < n
  · rw [if_pos hi, List.getElem?_append_left (by omega), List.getElem?_map,
      List.getElem?_take_of_lt hi]
  · rw [if_neg hi, List.getElem?_append_right (by omega), hlen, List.getElem?_drop,
      Nat.add_sub_cancel' (by omega)]

/-- The items that a save writes. -/
def savedItems (loaded knap : List ItemData) : List ItemData :=
  PlayerComponentDetail.eraseItems (List.zipWith refresh loaded knap)
      (removedSns (knap.take loaded.length)) ++
    (markFront loaded.length knap).filter fun item => item.sn ≠ 0

namespace PlayerComponentDetail.Holds

variable {c : PlayerComponentDetail} {loaded : List ItemData} {k : Knapsack}

/-- The serial number of an item of the record is that of the item in its place. -/
theorem sn_loaded (h : c.Holds loaded k) {i : ℕ} {item a : ItemData} (hi : loaded[i]? = some item)
    (ha : k.items[i]? = some a) : a.sn = item.sn := by
  obtain ⟨b, hb, heq⟩ := h.loaded i item hi
  obtain rfl : b = a := Option.some.inj (hb.symm.trans ha)
  rw [heq]
  rfl

theorem length_loaded_le (h : c.Holds loaded k) : loaded.length ≤ c.knap.length := by
  rw [h.length_eq]
  by_contra hlt
  obtain ⟨a, ha, -⟩ := h.loaded k.items.length _ (List.getElem?_eq_getElem (by omega))
  exact absurd (List.getElem?_eq_some_iff.1 ha).1 (Nat.lt_irrefl _)

/-- **A save** never leaves the vector, writes the saved items, and keeps the knapsack. -/
theorem serializeToProto (h : c.Holds loaded k) {proto : PlayerProto}
    (hproto : proto.knap.items = loaded) :
    ∃ saved d, c.serializeToProto proto = some (saved, d) ∧
      saved.knap.items = savedItems loaded c.knap ∧ d.Holds loaded k := by
  have hidx : ∀ (i : ℕ) (item : ItemData), loaded[i]? = some item →
      c.idxMap[item.sn]? = some (([] : List ItemData).length + i) := by
    intro i item hi
    obtain ⟨a, ha, -⟩ := h.loaded i item hi
    rw [List.length_nil, Nat.zero_add, h.indexes item.sn i, List.getElem?_map, ha,
      Option.map_some, h.sn_loaded hi ha]
  have hle := h.length_loaded_le
  have hloop := foldlM_saveItem c.idxMap loaded [] c.knap [] [] hidx hle
  rw [List.nil_append, List.nil_append, List.nil_append, List.nil_append] at hloop
  unfold PlayerComponentDetail.serializeToProto
  rw [hproto, hloop]
  refine ⟨_, _, rfl, rfl, h.indexes, ?_, ?_, h.loaded⟩
  · have hlen := h.length_eq
    simp only [List.length_append, List.length_map, List.length_take, List.length_drop]
    omega
  · intro i e a he ha
    have he' : (markFront loaded.length c.knap)[i]? = some e := he
    rw [getElem?_markFront hle] at he'
    by_cases hi : i < loaded.length
    · rw [if_pos hi] at he'
      obtain ⟨b, hb, rfl⟩ := Option.map_eq_some_iff.1 he'
      unfold markKept
      rcases h.knap i b a hb ha with rfl | ⟨-, rfl⟩
      · by_cases hworld : b.knapType = KnapType.world
        · rw [if_pos hworld]
          exact Or.inl rfl
        · rw [if_neg hworld]
          exact Or.inr ⟨hi, rfl⟩
      · refine Or.inr ⟨hi, ?_⟩
        split <;> rfl
    · rw [if_neg hi] at he'
      exact h.knap i e a he' ha

end PlayerComponentDetail.Holds

/-! ### Runs -/

namespace PlayerData

variable {p : PlayerData} {k : Knapsack}

/-- **One operation** does not fail, keeps the loaded record, and acts on the knapsack. -/
theorem apply_holds (h : p.detail.Holds p.player.knap.items k) (op : KnapOp) :
    ∃ q, p.apply op = some q ∧ q.player = p.player ∧
      q.detail.Holds p.player.knap.items (k.apply op) := by
  cases op with
  | updateKnapItem item =>
    obtain ⟨d, hd, hholds⟩ := h.updateKnapItem item
    refine ⟨{ p with detail := d }, ?_, rfl, hholds⟩
    rw [apply, updateKnapItem, hd]
    rfl
  | save =>
    obtain ⟨saved, d, hd, -, hholds⟩ := h.serializeToProto rfl
    refine ⟨{ p with detail := d }, ?_, rfl, hholds⟩
    rw [apply, serializeToProto, hd]
    rfl

/-- **A run** does not fail, keeps the loaded record, and acts on the knapsack. -/
theorem run_holds (h : p.detail.Holds p.player.knap.items k) (ops : List KnapOp) :
    ∃ q, p.run ops = some q ∧ q.player = p.player ∧
      q.detail.Holds p.player.knap.items (k.run ops) := by
  induction ops generalizing p k with
  | nil => exact ⟨p, rfl, rfl, h⟩
  | cons op ops ih =>
    obtain ⟨q, hq, hplayer, hholds⟩ := apply_holds h op
    rw [← hplayer] at hholds
    obtain ⟨r, hr, hplayer', hholds'⟩ := ih hholds
    refine ⟨r, ?_, hplayer'.trans hplayer, hplayer ▸ hholds'⟩
    rw [run, List.foldlM_cons, hq]
    exact hr

end PlayerData

/-! ### When a save writes what it should -/

namespace PlayerComponentDetail.Holds

variable {c : PlayerComponentDetail} {loaded : List ItemData} {k : Knapsack}

/-- The place of an item does not depend on the marks. -/
theorem knapType_eq (h : c.Holds loaded k) {i : ℕ} {e a : ItemData} (he : c.knap[i]? = some e)
    (ha : k.items[i]? = some a) : e.knapType = a.knapType ∧ e.index = a.index := by
  rcases h.knap i e a he ha with rfl | ⟨-, rfl⟩
  · exact ⟨rfl, rfl⟩
  · exact ⟨rfl, rfl⟩

theorem exists_knap (h : c.Holds loaded k) {i : ℕ} {a : ItemData} (ha : k.items[i]? = some a) :
    ∃ e, c.knap[i]? = some e := by
  have hlt := (List.getElem?_eq_some_iff.1 ha).1
  rw [← h.length_eq] at hlt
  exact ⟨c.knap[i], List.getElem?_eq_getElem hlt⟩

theorem exists_of_mem_take {l : List ItemData} {n : ℕ} {a : ItemData} (h : a ∈ l.take n) :
    ∃ i < n, l[i]? = some a := by
  obtain ⟨i, hi⟩ := List.mem_iff_getElem?.1 h
  have hlt : i < n := by
    have := (List.getElem?_eq_some_iff.1 hi).1
    rw [List.length_take] at this
    omega
  rw [List.getElem?_take_of_lt hlt] at hi
  exact ⟨i, hlt, hi⟩

/-- The first loop brings the record up to date, if none of its items lies in the world. -/
theorem zipWith_refresh (h : c.Holds loaded k)
    (hkept : ∀ (i : ℕ) (a : ItemData), i < loaded.length → k.items[i]? = some a →
      a.knapType ≠ KnapType.world) :
    List.zipWith refresh loaded c.knap = k.items.take loaded.length := by
  refine List.ext_getElem? fun i => ?_
  rw [List.getElem?_zipWith]
  cases hi : loaded[i]? with
  | none =>
    have hlen := List.getElem?_eq_none_iff.1 hi
    rw [List.getElem?_take_eq_none hlen]
  | some item =>
    have hlt := (List.getElem?_eq_some_iff.1 hi).1
    obtain ⟨a, ha, heq⟩ := h.loaded i item hi
    obtain ⟨e, he⟩ := h.exists_knap ha
    obtain ⟨htype, hindex⟩ := h.knapType_eq he ha
    rw [List.getElem?_take_of_lt hlt, ha, he]
    simp only [refresh]
    rw [htype, if_neg (hkept i a hlt ha), heq]
    simp only [ItemData.place, htype, hindex]

/-- If the items in the world are those without a serial number, a save writes the others. -/
theorem savedItems_eq (h : c.Holds loaded k)
    (hloaded : ∀ item ∈ loaded, item.sn ≠ 0)
    (hiff : ∀ a ∈ k.items, a.sn = 0 ↔ a.knapType = KnapType.world) :
    savedItems loaded c.knap = k.kept := by
  have hle := h.length_loaded_le
  have hkept : ∀ (i : ℕ) (a : ItemData), i < loaded.length → k.items[i]? = some a →
      a.knapType ≠ KnapType.world := by
    intro i a hi ha hworld
    have hget := List.getElem?_eq_getElem hi
    have hsn := h.sn_loaded hget ha
    rw [(hiff a (List.mem_of_getElem? ha)).2 hworld] at hsn
    exact hloaded _ (List.mem_of_getElem? hget) hsn.symm
  -- nothing was collected, and the front is marked
  have hfront : ∀ e ∈ c.knap.take loaded.length, e.knapType ≠ KnapType.world := by
    intro e he
    obtain ⟨i, hlt, hget⟩ := exists_of_mem_take he
    have hlt' : i < k.items.length := by
      rw [← h.length_eq]
      omega
    have ha := List.getElem?_eq_getElem hlt'
    rw [(h.knapType_eq hget ha).1]
    exact hkept i _ hlt ha
  have hrmv : removedSns (c.knap.take loaded.length) = [] := by
    unfold removedSns
    rw [List.map_eq_nil_iff, List.filter_eq_nil_iff]
    intro e he
    rw [decide_eq_true_iff]
    exact hfront e he
  have hmarked : ((c.knap.take loaded.length).map markKept).filter
      (fun item => decide (item.sn ≠ 0)) = [] := by
    rw [List.filter_eq_nil_iff]
    intro e he
    obtain ⟨b, hb, rfl⟩ := List.mem_map.1 he
    simp [markKept, hfront b hb, ItemData.marked]
  -- behind the record the vector is the knapsack
  have hback : c.knap.drop loaded.length = k.items.drop loaded.length := by
    refine List.ext_getElem? fun i => ?_
    rw [List.getElem?_drop, List.getElem?_drop]
    cases ha : k.items[loaded.length + i]? with
    | none =>
      rw [List.getElem?_eq_none_iff] at ha ⊢
      rwa [h.length_eq]
    | some a =>
      obtain ⟨e, he⟩ := h.exists_knap ha
      rcases h.knap _ e a he ha with rfl | ⟨hlt, -⟩
      · exact he
      · omega
  unfold savedItems
  rw [hrmv, h.zipWith_refresh hkept, markFront, List.filter_append, hmarked, hback]
  have hsplit : k.kept = (k.items.take loaded.length).filter (fun e => e.knapType ≠ KnapType.world) ++
      (k.items.drop loaded.length).filter (fun e => e.knapType ≠ KnapType.world) := by
    rw [← List.filter_append, List.take_append_drop]
    rfl
  rw [hsplit]
  congr 1
  · refine Eq.symm (List.filter_eq_self.2 ?_)
    intro a ha
    obtain ⟨i, hlt, hget⟩ := exists_of_mem_take ha
    rw [decide_eq_true_iff]
    exact hkept i a hlt hget
  · rw [List.nil_append]
    refine List.filter_congr fun a ha => ?_
    rw [decide_eq_decide]
    exact not_congr (hiff a (List.mem_of_mem_drop ha))

/-- A save writes no item without a serial number. -/
theorem sn_ne_zero_of_mem_savedItems (hloaded : ∀ item ∈ loaded, item.sn ≠ 0) {item : ItemData}
    (hitem : item ∈ savedItems loaded c.knap) : item.sn ≠ 0 := by
  rcases List.mem_append.1 hitem with hold | hnew
  · obtain ⟨i, hi⟩ := List.mem_iff_getElem?.1 (mem_of_mem_eraseItems hold)
    obtain ⟨old, e, hget, -, rfl⟩ := List.getElem?_zipWith_eq_some.1 hi
    have hsn := hloaded old (List.mem_of_getElem? hget)
    unfold refresh
    split
    · exact hsn
    · exact hsn
  · exact of_decide_eq_true (List.mem_filter.1 hnew).2

/-- **An item that lies in the world survives a save**: it is left in the record if an earlier save
has marked it, and added to it otherwise. -/
theorem exists_mem_savedItems (h : c.Holds loaded k) {a : ItemData} (ha : a ∈ k.items)
    (hworld : a.knapType = KnapType.world) (hsn : a.sn ≠ 0) :
    ∃ item ∈ savedItems loaded c.knap, item.sn = a.sn := by
  obtain ⟨i, hi⟩ := List.mem_iff_getElem?.1 ha
  obtain ⟨e, he⟩ := h.exists_knap hi
  have htype := (h.knapType_eq he hi).1.trans hworld
  have hle := h.length_loaded_le
  rcases h.knap i e a he hi with rfl | ⟨hlt, rfl⟩
  · -- the vector has the serial number
    refine ⟨e, List.mem_append_right _ (List.mem_filter.2 ⟨?_, by simpa using hsn⟩), rfl⟩
    refine List.mem_of_getElem? (i := i) ?_
    rw [getElem?_markFront hle, he]
    split
    · simp [markKept, htype]
    · rfl
  · -- the record has it, and it is not collected
    have hold := List.getElem?_eq_getElem hlt
    have hsame := h.sn_loaded hold hi
    refine ⟨loaded[i], List.mem_append_left _ (mem_eraseItems ?_ ?_), hsame.symm⟩
    · refine List.mem_of_getElem? (i := i) ?_
      rw [List.getElem?_zipWith, hold, he]
      simp [refresh, htype]
    · intro hmem
      obtain ⟨b, hb, hbsn⟩ := List.mem_map.1 hmem
      obtain ⟨j, -, hj⟩ := exists_of_mem_take (List.mem_filter.1 hb).1
      have hjlt := (List.getElem?_eq_some_iff.1 hj).1
      rw [h.length_eq] at hjlt
      have haj := List.getElem?_eq_getElem hjlt
      rcases h.knap j b _ hj haj with hb' | ⟨-, hb'⟩
      · -- then it is the item itself, which has no serial number in the vector
        have hkeys : (k.items.map ItemData.sn)[j]? = some a.sn := by
          rw [List.getElem?_map, haj, Option.map_some, ← hb', hbsn, hsame]
        have hkeyi : (k.items.map ItemData.sn)[i]? = some a.sn := by
          rw [List.getElem?_map, hi, Option.map_some]
        obtain rfl := h.indexes.inj hkeys hkeyi
        rw [hj] at he
        rw [Option.some.inj he] at hbsn
        exact hsn (hsame.trans hbsn.symm)
      · rw [hb'] at hbsn
        exact hsn (hsame.trans hbsn.symm)

/-- If a save writes what it should, the items in the world are those without a serial number. -/
theorem world_iff_of_perm (h : c.Holds loaded k) (hloaded : ∀ item ∈ loaded, item.sn ≠ 0)
    (hperm : (savedItems loaded c.knap).Perm k.kept) {a : ItemData} (ha : a ∈ k.items) :
    a.sn = 0 ↔ a.knapType = KnapType.world := by
  constructor
  · intro hsn
    by_contra hworld
    have hkept : a ∈ k.kept := List.mem_filter.2 ⟨ha, by simpa using hworld⟩
    exact sn_ne_zero_of_mem_savedItems hloaded (hperm.mem_iff.2 hkept) hsn
  · intro hworld
    by_contra hsn
    obtain ⟨item, hitem, heq⟩ := h.exists_mem_savedItems ha hworld hsn
    obtain ⟨hmem, hkept⟩ := List.mem_filter.1 (hperm.mem_iff.1 hitem)
    obtain rfl := List.inj_on_of_nodup_map k.nodup hmem ha heq
    exact of_decide_eq_true hkept hworld

end PlayerComponentDetail.Holds

/-- A save of a player writes what it should exactly if the items in the world are those without a
serial number. -/
theorem PlayerData.savesExactly_iff {p : PlayerData} {k : Knapsack}
    (h : p.detail.Holds p.player.knap.items k)
    (hloaded : ∀ item ∈ p.player.knap.items, item.sn ≠ 0) :
    SavesExactly p k ↔ ∀ a ∈ k.items, a.sn = 0 ↔ a.knapType = KnapType.world := by
  obtain ⟨saved, d, hd, hitems, -⟩ := h.serializeToProto rfl
  have hsave : p.serializeToProto = some (saved, { p with detail := d }) := by
    rw [PlayerData.serializeToProto, hd]
    rfl
  constructor
  · rintro ⟨saved', q, hq, hperm⟩ a ha
    obtain ⟨rfl, -⟩ := Prod.mk.inj (Option.some.inj (hsave.symm.trans hq))
    rw [hitems] at hperm
    exact h.world_iff_of_perm hloaded hperm ha
  · intro hiff
    refine ⟨saved, _, hsave, ?_⟩
    rw [hitems, h.savedItems_eq hloaded hiff]

/-- **After every run of updates and saves**, a save writes exactly the items that do not lie in
the world if and only if these are the items with a serial number. -/
theorem saves_exactly_iff (player : PlayerProto)
    (hnodup : (player.knap.items.map ItemData.sn).Nodup)
    (hloaded : ∀ item ∈ player.knap.items, item.sn ≠ 0) (ops : List KnapOp) :
    ∃ p, (PlayerData.load player).run ops = some p ∧
      (SavesExactly p (Knapsack.run ⟨player.knap.items, hnodup⟩ ops) ↔
        ∀ a ∈ (Knapsack.run ⟨player.knap.items, hnodup⟩ ops).items,
          a.sn = 0 ↔ a.knapType = KnapType.world) := by
  obtain ⟨p, hrun, hplayer, hholds⟩ := PlayerData.run_holds (p := PlayerData.load player)
    (PlayerComponentDetail.parserFromProto_holds player hnodup) ops
  rw [← hplayer] at hholds
  refine ⟨p, hrun, PlayerData.savesExactly_iff hholds ?_⟩
  rw [hplayer]
  exact hloaded

/-- A potion with the serial number 7. -/
def potion (knapType : KnapType) : ItemData := ⟨7, ⟨1⟩, 1, knapType, 0⟩

/-- A player with a potion in its bag. -/
def PlayerProto.withPotion : PlayerProto where
  base := ⟨0, 1, 0, 999, 999, 10, 0⟩
  knap := ⟨500, [potion KnapType.bag]⟩

theorem PlayerProto.nodup_withPotion :
    (PlayerProto.withPotion.knap.items.map ItemData.sn).Nodup := by decide

theorem PlayerProto.sn_withPotion : ∀ item ∈ PlayerProto.withPotion.knap.items, item.sn ≠ 0 := by
  decide

/-- The potion is saved where it was moved to, after an earlier save. -/
theorem saves_exactly_equip :
    ∃ p, (PlayerData.load PlayerProto.withPotion).run
        [.save, .updateKnapItem (potion ⟨2⟩)] = some p ∧
      SavesExactly p ⟨[potion ⟨2⟩], by decide⟩ := by
  obtain ⟨p, hrun, hiff⟩ := saves_exactly_iff PlayerProto.withPotion PlayerProto.nodup_withPotion
    PlayerProto.sn_withPotion [.save, .updateKnapItem (potion ⟨2⟩)]
  exact ⟨p, hrun, hiff.2 (by decide)⟩

/-- **A potion that is dropped** after a save is in the next saved record. -/
theorem not_saves_exactly_dropped :
    ¬ ∀ (player : PlayerProto) (hnodup : (player.knap.items.map ItemData.sn).Nodup),
      (∀ item ∈ player.knap.items, item.sn ≠ 0) → ∀ (ops : List KnapOp) (p : PlayerData),
        (PlayerData.load player).run ops = some p →
          SavesExactly p (Knapsack.run ⟨player.knap.items, hnodup⟩ ops) := by
  intro hall
  obtain ⟨p, hrun, hplayer, hholds⟩ := PlayerData.run_holds
    (p := PlayerData.load PlayerProto.withPotion)
    (PlayerComponentDetail.parserFromProto_holds PlayerProto.withPotion PlayerProto.nodup_withPotion)
    [.save, .updateKnapItem (potion KnapType.world)]
  have hsaves := hall _ PlayerProto.nodup_withPotion PlayerProto.sn_withPotion _ p hrun
  rw [← hplayer] at hholds
  have hiff := (PlayerData.savesExactly_iff hholds
    (by rw [hplayer]; exact PlayerProto.sn_withPotion)).1 hsaves
  exact absurd ((hiff (potion KnapType.world) (by decide)).2 rfl) (by decide)

end MmoServer
