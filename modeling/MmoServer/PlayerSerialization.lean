/-
**Whether saving a player changes it.**

`Player::SerializeToProto` is called for players that go on playing: when they are saved, and when they ask for
another world.  The component of the items marks each item of the loaded record that it has written, by a zero
in place of the serial number in the vector that the players are shown.  So a call changes the player, unless
every item of the record lies in the world.

Main definitions:

* `MmoServer.SpacePlayer` — a player in a space process, with its two components;
* `MmoServer.PlayerComponentDetail.Indexed` — the index invariant;
* `MmoServer.SpacePlayer.ReadOnly` — any number of calls leave the player as it was;
* `MmoServer.SpacePlayer.MarksNothing` — when a call marks no item.

Main results:

* `MmoServer.PlayerComponentDetail.foldlM_saveItem_marks` — what the loop of a save marks, for any record;
* `MmoServer.readOnly_iff` — **when saving is read-only**;
* `MmoServer.not_readOnly_potion` — a potion in the bag.
-/

import MmoServer.Knapsack
import MmoServer.PlayerComponentLastMap

set_option relaxedAutoImplicit false
set_option autoImplicit false

namespace MmoServer

open Std

/-! ### The player -/

/-- `Proto::Player`: what the two components of a player write, each its own part. -/
structure PlayerMessage (Pos : Type) where
  data : PlayerProto
  places : PlacesProto Pos

/-- `Player` in a space process: its items and its places, each with the part of `_player` that they were
loaded from. -/
structure SpacePlayer (Pos : Type) where
  items : PlayerData
  places : PlayerPlaces Pos

namespace SpacePlayer

variable {Pos : Type}

/-- A player that has been loaded. -/
def load (worlds : ResourceWorldMgr) (initPosition : ℤ → Pos) (curWorldId : ℤ) (player : PlayerMessage Pos) :
    SpacePlayer Pos :=
  ⟨.load player.data, .awake worlds initPosition curWorldId player.places⟩

/-- `Player::UpdateKnapItem`. -/
def updateKnapItem (p : SpacePlayer Pos) (item : ItemData) : Option (SpacePlayer Pos) :=
  (p.items.updateKnapItem item).map fun items => { p with items := items }

/-- One item after the other. -/
def updateKnapItems (p : SpacePlayer Pos) (updates : List ItemData) : Option (SpacePlayer Pos) :=
  updates.foldlM updateKnapItem p

/-- `Player::GetPlayerKnap`: the reply. -/
def getPlayerKnap (p : SpacePlayer Pos) : PlayerKnap := ⟨p.items.detail.gold, p.items.detail.knap⟩

/-- `Player::SerializeToProto`: the components write into a copy of `_player`, one after the other; the order
does not matter. -/
def serializeToProto (p : SpacePlayer Pos) : Option (PlayerMessage Pos × SpacePlayer Pos) :=
  p.items.serializeToProto.map fun r => (⟨r.1, p.places.saved⟩, { p with items := r.2 })

/-- What is left of a player behind some calls. -/
def serializeTimes : ℕ → SpacePlayer Pos → Option (SpacePlayer Pos)
  | 0, p => some p
  | n + 1, p => p.serializeToProto.bind fun r => serializeTimes n r.2

end SpacePlayer

/-- **The index invariant**: the map leads every serial number to an item that has it. -/
def PlayerComponentDetail.Indexed (c : PlayerComponentDetail) : Prop :=
  ∀ sn idx, c.idxMap[sn]? = some idx → ∃ e : ItemData, c.knap[idx]? = some e ∧ e.sn = sn

/-- **Saving is read-only**: behind any number of calls the next one gives what the first one gives, the reply
with the items is the same, and the index invariant holds. -/
def SpacePlayer.ReadOnly {Pos : Type} (p : SpacePlayer Pos) : Prop :=
  ∀ n, ∃ q, p.serializeTimes n = some q ∧
    (∃ saved r r', p.serializeToProto = some (saved, r) ∧ q.serializeToProto = some (saved, r')) ∧
    q.getPlayerKnap = p.getPlayerKnap ∧ q.items.detail.Indexed

/-- Every item of the loaded record that has a serial number lies in the world by now. -/
def SpacePlayer.MarksNothing {Pos : Type} (p : SpacePlayer Pos) : Prop :=
  ∀ old ∈ p.items.player.knap.items, old.sn ≠ 0 → ∀ idx e, p.items.detail.idxMap[old.sn]? = some idx →
    p.items.detail.knap[idx]? = some e → e.knapType = KnapType.world

/-! ### What the loop of a save marks -/

/-- The vector with marks at some places. -/
def markAt (marks : List ℕ) (knap : List ItemData) : List ItemData :=
  knap.mapIdx fun i e => if i ∈ marks then markKept e else e

theorem getElem?_markAt (marks : List ℕ) (knap : List ItemData) (i : ℕ) :
    (markAt marks knap)[i]? = knap[i]?.map fun e => if i ∈ marks then markKept e else e :=
  List.getElem?_mapIdx

theorem markAt_nil (knap : List ItemData) : markAt [] knap = knap := by
  refine List.ext_getElem? fun i => ?_
  rw [getElem?_markAt]
  simp

/-- A mark does not change where an item lies. -/
theorem knapType_markKept (e : ItemData) : (markKept e).knapType = e.knapType := by
  unfold markKept
  split <;> rfl

theorem marked_markKept {e : ItemData} (h : e.knapType ≠ KnapType.world) :
    (markKept e).marked = markKept e := by
  rw [markKept, if_neg h]
  rfl

namespace PlayerComponentDetail

variable {c : PlayerComponentDetail}

/-- One more item of the record. -/
theorem set_markAt {marks : List ℕ} {knap : List ItemData} {idx : ℕ} {e : ItemData}
    (he : knap[idx]? = some e) (hkept : e.knapType ≠ KnapType.world) :
    (markAt marks knap).set idx (if idx ∈ marks then markKept e else e).marked = markAt (marks ++ [idx]) knap := by
  have hlt := (List.getElem?_eq_some_iff.1 he).1
  have hmark : (if idx ∈ marks then markKept e else e).marked = markKept e := by
    split
    · exact marked_markKept hkept
    · rw [markKept, if_neg hkept]
  refine List.ext_getElem? fun i => ?_
  rw [List.getElem?_set, getElem?_markAt, getElem?_markAt, hmark]
  by_cases hi : idx = i
  · subst hi
    rw [if_pos rfl, he]
    simp [markAt, hlt]
  · have hi' : i ≠ idx := fun h => hi h.symm
    simp [hi, hi']

/-- An item that lies in the world is not marked. -/
theorem markAt_world {marks : List ℕ} {knap : List ItemData} {idx : ℕ} {e : ItemData}
    (he : knap[idx]? = some e) (hworld : e.knapType = KnapType.world) :
    markAt marks knap = markAt (marks ++ [idx]) knap := by
  refine List.ext_getElem? fun i => ?_
  rw [getElem?_markAt, getElem?_markAt]
  by_cases hi : i = idx
  · subst hi
    rw [he]
    simp [markKept, hworld]
  · simp [hi]

/-- **The loop of a save** marks the items to which the serial numbers of the record lead. -/
theorem foldlM_saveItem_marks (h : c.Indexed) (record : List ItemData)
    (hrecord : ∀ old ∈ record, ∃ idx, c.idxMap[old.sn]? = some idx) (marks : List ℕ) (old : List ItemData)
    (rmv : List UInt64) :
    ∃ old' rmv', record.foldlM (saveItem c.idxMap) ⟨old, markAt marks c.knap, rmv⟩ =
      some ⟨old', markAt (marks ++ record.filterMap fun item => c.idxMap[item.sn]?) c.knap, rmv'⟩ := by
  induction record generalizing marks old rmv with
  | nil => exact ⟨old, rmv, by simp⟩
  | cons item record ih =>
    obtain ⟨⟨idx, hidx⟩, hrest⟩ := List.forall_mem_cons.1 hrecord
    obtain ⟨e, he, -⟩ := h item.sn idx hidx
    have hget : (markAt marks c.knap)[idx]? = some (if idx ∈ marks then markKept e else e) := by
      rw [getElem?_markAt, he]
      rfl
    have htype : (if idx ∈ marks then markKept e else e).knapType = e.knapType := by
      split
      · exact knapType_markKept e
      · rfl
    have happend : marks ++ (item :: record).filterMap (fun item => c.idxMap[item.sn]?) =
        (marks ++ [idx]) ++ record.filterMap fun item => c.idxMap[item.sn]? := by
      simp [hidx]
    rw [List.foldlM_cons, saveItem, hidx, happend]
    simp only [hget, htype]
    by_cases hworld : e.knapType = KnapType.world
    · rw [if_pos hworld, markAt_world he hworld]
      exact ih hrest (marks ++ [idx]) _ _
    · rw [if_neg hworld, set_markAt he hworld]
      exact ih hrest (marks ++ [idx]) _ _

/-! ### The players that are reached -/

/-- A new item at the end of the vector. -/
theorem Indexed.addItem (h : c.Indexed) (item : ItemData) : (c.addItem item).Indexed := by
  intro sn idx hidx
  have hold : c.idxMap[sn]? = some idx →
      ∃ e : ItemData, (c.addItem item).knap[idx]? = some e ∧ e.sn = sn := by
    intro hidx
    obtain ⟨e, he, hsn⟩ := h sn idx hidx
    exact ⟨e, (List.getElem?_append_left (List.getElem?_eq_some_iff.1 he).1).trans he, hsn⟩
  rw [PlayerComponentDetail.addItem] at hidx
  cases hitem : c.idxMap[item.sn]? with
  | some place =>
    simp only [hitem] at hidx
    exact hold hidx
  | none =>
    simp only [hitem] at hidx
    by_cases hsn : item.sn = sn
    · rw [hsn, ExtTreeMap.getElem?_insert_self] at hidx
      obtain rfl := Option.some.inj hidx
      exact ⟨item, List.getElem?_concat_length, hsn⟩
    · rw [ExtTreeMap.getElem?_insert, if_neg (by simpa using hsn)] at hidx
      exact hold hidx

theorem getElem?_idxMap_addItem {sn : UInt64} {idx : ℕ} (h : c.idxMap[sn]? = some idx) (item : ItemData) :
    (c.addItem item).idxMap[sn]? = some idx := by
  rw [PlayerComponentDetail.addItem]
  cases hitem : c.idxMap[item.sn]? with
  | some place => simpa only [hitem] using h
  | none =>
    have hne : item.sn ≠ sn := by
      rintro rfl
      cases hitem.symm.trans h
    simp only
    rw [ExtTreeMap.getElem?_insert, if_neg (by simpa using hne)]
    exact h

theorem getElem?_idxMap_addItem_self (c : PlayerComponentDetail) (item : ItemData) :
    ∃ idx, (c.addItem item).idxMap[item.sn]? = some idx := by
  rw [PlayerComponentDetail.addItem]
  cases hitem : c.idxMap[item.sn]? with
  | some place => exact ⟨place, hitem⟩
  | none => exact ⟨_, ExtTreeMap.getElem?_insert_self⟩

/-- What a player has between two updates: the index invariant, and all items of the record. -/
structure Reached (c : PlayerComponentDetail) (record : List ItemData) : Prop where
  indexed : c.Indexed
  record : ∀ old ∈ record, ∃ idx, c.idxMap[old.sn]? = some idx

theorem Reached.foldl_addItem {record : List ItemData} (h : c.Reached record) (items : List ItemData) :
    (items.foldl PlayerComponentDetail.addItem c).Reached (record ++ items) := by
  induction items generalizing c record with
  | nil => simpa using h
  | cons item items ih =>
    have hitem : (c.addItem item).Reached (record ++ [item]) := by
      refine ⟨h.indexed.addItem item, fun old hold => ?_⟩
      rcases List.mem_append.1 hold with hold | hold
      · obtain ⟨idx, hidx⟩ := h.record old hold
        exact ⟨idx, getElem?_idxMap_addItem hidx item⟩
      · obtain rfl := List.mem_singleton.1 hold
        exact getElem?_idxMap_addItem_self c old
    have hrest := ih hitem
    rwa [List.append_assoc] at hrest

/-- **A loaded player**, whatever the record is. -/
theorem reached_parserFromProto (proto : PlayerProto) : (parserFromProto proto).Reached proto.knap.items := by
  have hbase : (ofBase proto).Reached [] := ⟨fun sn idx hidx => ?_, List.forall_mem_nil _⟩
  · exact hbase.foldl_addItem proto.knap.items
  · rw [ofBase, ExtTreeMap.getElem?_empty] at hidx
    cases hidx

/-- **An update** does not fail. -/
theorem Reached.updateKnapItem {record : List ItemData} (h : c.Reached record) (item : ItemData) :
    ∃ d, c.updateKnapItem item = some d ∧ d.Reached record := by
  rw [PlayerComponentDetail.updateKnapItem]
  cases hidx : c.idxMap[item.sn]? with
  | none =>
    refine ⟨c.addItem item, rfl, h.indexed.addItem item, fun old hold => ?_⟩
    obtain ⟨idx, hold⟩ := h.record old hold
    exact ⟨idx, getElem?_idxMap_addItem hold item⟩
  | some idx =>
    obtain ⟨e, he, hsn⟩ := h.indexed item.sn idx hidx
    simp only [he]
    refine ⟨_, rfl, fun sn i hi => ?_, h.record⟩
    obtain ⟨e', he', hsn'⟩ := h.indexed sn i hi
    by_cases hsame : i = idx
    · subst hsame
      cases he.symm.trans he'
      exact ⟨e.place item, List.getElem?_set_self (List.getElem?_eq_some_iff.1 he).1, hsn'⟩
    · exact ⟨e', (List.getElem?_set_ne (Ne.symm hsame)).trans he', hsn'⟩

/-- **A save** of a player that is reached. -/
theorem Reached.serializeToProto {proto : PlayerProto} (h : c.Reached proto.knap.items) :
    ∃ saved, c.serializeToProto proto = some (saved,
      { c with knap := markAt (proto.knap.items.filterMap fun item => c.idxMap[item.sn]?) c.knap }) := by
  obtain ⟨old, rmv, hloop⟩ := foldlM_saveItem_marks h.indexed proto.knap.items h.record [] [] []
  rw [markAt_nil, List.nil_append] at hloop
  rw [PlayerComponentDetail.serializeToProto, hloop]
  exact ⟨_, rfl⟩

end PlayerComponentDetail

namespace SpacePlayer

variable {Pos : Type} {p : SpacePlayer Pos}

theorem reached_updateKnapItems (h : p.items.detail.Reached p.items.player.knap.items) (updates : List ItemData) :
    ∃ q, p.updateKnapItems updates = some q ∧ q.items.player = p.items.player ∧
      q.items.detail.Reached q.items.player.knap.items := by
  induction updates generalizing p with
  | nil => exact ⟨p, rfl, rfl, h⟩
  | cons item updates ih =>
    obtain ⟨d, hd, hreached⟩ := h.updateKnapItem item
    have hone : p.updateKnapItem item = some { p with items := { p.items with detail := d } } := by
      rw [updateKnapItem, PlayerData.updateKnapItem, hd]
      rfl
    obtain ⟨q, hq, hplayer, hq'⟩ := ih (p := { p with items := { p.items with detail := d } }) hreached
    refine ⟨q, ?_, hplayer, hq'⟩
    rw [updateKnapItems, List.foldlM_cons, hone]
    exact hq

/-! ### When saving is read-only -/

/-- The places that a save marks. -/
def marks (p : SpacePlayer Pos) : List ℕ :=
  p.items.player.knap.items.filterMap fun item => p.items.detail.idxMap[item.sn]?

/-- The player behind a call. -/
def marked (p : SpacePlayer Pos) : SpacePlayer Pos :=
  { p with items := { p.items with
      detail := { p.items.detail with knap := markAt p.marks p.items.detail.knap } } }

theorem serializeToProto_eq (h : p.items.detail.Reached p.items.player.knap.items) :
    ∃ saved, p.serializeToProto = some (saved, p.marked) := by
  obtain ⟨saved, hsaved⟩ := h.serializeToProto
  refine ⟨⟨saved, p.places.saved⟩, ?_⟩
  rw [serializeToProto, PlayerData.serializeToProto, hsaved]
  rfl

/-- A call that marks nothing leaves the player as it was. -/
theorem marked_eq (h : p.items.detail.Reached p.items.player.knap.items) (hmarks : p.MarksNothing) :
    p.marked = p := by
  have hknap : markAt p.marks p.items.detail.knap = p.items.detail.knap := by
    refine List.ext_getElem? fun i => ?_
    rw [getElem?_markAt]
    cases he : p.items.detail.knap[i]? with
    | none => rfl
    | some e =>
      refine congrArg some ?_
      dsimp only
      split
      · rename_i hi
        obtain ⟨old, hold, hidx⟩ := List.mem_filterMap.1 hi
        obtain ⟨e', he', hsn⟩ := h.indexed old.sn i hidx
        cases he.symm.trans he'
        rw [markKept]
        split
        · rfl
        -- an item without a serial number stays without one
        · rename_i hkept
          have hzero : old.sn = 0 := by_contra fun hne => hkept (hmarks old hold hne i e hidx he)
          rw [ItemData.marked, ← hzero, ← hsn]
      · rfl
  rw [marked, hknap]

theorem serializeTimes_eq {saved : PlayerMessage Pos} (h : p.serializeToProto = some (saved, p)) (n : ℕ) :
    p.serializeTimes n = some p := by
  induction n with
  | zero => rfl
  | succ n ih => rw [serializeTimes, h, Option.bind_some, ih]

/-- **Saving is read-only** if no item of the record has a serial number and lies elsewhere than in the world. -/
theorem readOnly_of_marksNothing (h : p.items.detail.Reached p.items.player.knap.items)
    (hmarks : p.MarksNothing) : p.ReadOnly := by
  obtain ⟨saved, hsaved⟩ := serializeToProto_eq h
  rw [marked_eq h hmarks] at hsaved
  exact fun n => ⟨p, serializeTimes_eq hsaved n, ⟨saved, p, p, hsaved, hsaved⟩, rfl, h.indexed⟩

/-- **Otherwise one call breaks the index invariant**: an item is marked to which its serial number leads. -/
theorem marksNothing_of_indexed (hindexed : p.marked.items.detail.Indexed) : p.MarksNothing := by
  intro old hold hne idx e hidx he
  by_contra hkept
  obtain ⟨e', he', hsn⟩ := hindexed old.sn idx hidx
  have hmark : idx ∈ p.marks := List.mem_filterMap.2 ⟨old, hold, hidx⟩
  have hget : (markAt p.marks p.items.detail.knap)[idx]? = some (markKept e) := by
    rw [getElem?_markAt, he, Option.map_some, if_pos hmark]
  cases hget.symm.trans he'
  rw [markKept, if_neg hkept] at hsn
  exact hne hsn.symm

theorem readOnly_iff_marksNothing (h : p.items.detail.Reached p.items.player.knap.items) :
    p.ReadOnly ↔ p.MarksNothing := by
  refine ⟨fun hreadOnly => ?_, readOnly_of_marksNothing h⟩
  obtain ⟨saved, hsaved⟩ := serializeToProto_eq h
  obtain ⟨q, hq, -, -, hindexed⟩ := hreadOnly 1
  rw [serializeTimes, hsaved, Option.bind_some, serializeTimes] at hq
  obtain rfl := Option.some.inj hq
  exact marksNothing_of_indexed hindexed

theorem reached_load (worlds : ResourceWorldMgr) (initPosition : ℤ → Pos) (curWorldId : ℤ)
    (player : PlayerMessage Pos) :
    (load worlds initPosition curWorldId player).items.detail.Reached
      (load worlds initPosition curWorldId player).items.player.knap.items :=
  PlayerComponentDetail.reached_parserFromProto player.data

end SpacePlayer

/-- **When saving a player is read-only**, whatever it was loaded from and whatever items it has got since: if
every item of the record that has a serial number lies in the world by now, and not otherwise. -/
theorem readOnly_iff {Pos : Type} (worlds : ResourceWorldMgr) (initPosition : ℤ → Pos) (curWorldId : ℤ)
    (player : PlayerMessage Pos) (updates : List ItemData) :
    ∃ p, (SpacePlayer.load worlds initPosition curWorldId player).updateKnapItems updates = some p ∧
      (p.ReadOnly ↔ p.MarksNothing) := by
  obtain ⟨p, hp, -, hreached⟩ :=
    SpacePlayer.reached_updateKnapItems (SpacePlayer.reached_load worlds initPosition curWorldId player) updates
  exact ⟨p, hp, SpacePlayer.readOnly_iff_marksNothing hreached⟩

/-- A player with a potion in its bag, in no place. -/
def PlayerMessage.withPotion : PlayerMessage Unit where
  data := .withPotion
  places := ⟨1, [], ⟨0, 0, ()⟩, ⟨0, 0, ()⟩⟩

/-- **A potion in the bag** is marked when the player is saved. -/
theorem not_readOnly_potion : ¬ ∀ (Pos : Type) (worlds : ResourceWorldMgr) (initPosition : ℤ → Pos)
    (curWorldId : ℤ) (player : PlayerMessage Pos) (updates : List ItemData) (p : SpacePlayer Pos),
    (SpacePlayer.load worlds initPosition curWorldId player).updateKnapItems updates = some p → p.ReadOnly := by
  intro hall
  have hreached := SpacePlayer.reached_load (⟨fun _ => none, 0⟩ : ResourceWorldMgr) (fun _ => ()) 0 .withPotion
  have hreadOnly := hall Unit ⟨fun _ => none, 0⟩ (fun _ => ()) 0 .withPotion [] _ rfl
  have hmarks := (SpacePlayer.readOnly_iff_marksNothing hreached).1 hreadOnly
  have hold : potion KnapType.bag ∈ PlayerProto.withPotion.knap.items := List.mem_cons_self
  obtain ⟨idx, hidx⟩ := hreached.record _ hold
  obtain ⟨e, he, -⟩ := hreached.indexed _ idx hidx
  have hworld := hmarks _ hold (by decide) idx e hidx he
  -- the potion is the only item of the vector
  have hmem : e ∈ [potion KnapType.bag] := List.mem_of_getElem? he
  rw [List.mem_singleton.1 hmem] at hworld
  exact absurd hworld (by decide)

end MmoServer
