/-
**Where a player was last.**

A player has two places: the public world in which it was last, and the dungeon in which it was last.  A
world that it enters overwrites one of them.  The data of the player take both along, to the process of the
next world, and into the database.  Which of the two was entered last is not among them.

Main definitions:

* `MmoServer.PlayerComponentLastMap` — the component, with `parserFromProto`, `enterWorld` and
  `serializeToProto`;
* `MmoServer.LastMapEvent`, `MmoServer.PlayerPlaces.run` — worlds that are entered, and processes that are
  left;
* `MmoServer.enteredWorlds`, `MmoServer.lastPublicId`, `MmoServer.lastDungeonSn` — what the places should be
  about;
* `MmoServer.PlayerPlaces.Inv` — the invariant.

Main results:

* `MmoServer.PlayerComponentLastMap.toLastMap_parserFromProto` — what the lobby looks at;
* `MmoServer.PlayerPlaces.Inv.load_saved` — **what was saved is loaded**;
* `MmoServer.PlayerPlaces.run_tracks` — **the two places behind every run**.
-/

import MmoServer.Lobby

set_option relaxedAutoImplicit false
set_option autoImplicit false

namespace MmoServer

/-! ### The component -/

/-- `LastWorld`, with the position in it. -/
structure LastPlace (Pos : Type) extends LastWorld where
  position : Pos

/-- `Proto::LastWorld`, whose serial number has a sign. -/
structure LastWorldProto (Pos : Type) where
  worldId : ℤ
  worldSn : Int64
  position : Pos

/-- `Proto::Player`, as far as it is about places. -/
structure PlacesProto (Pos : Type) where
  sn : UInt64
  name : List UInt8
  lastWorld : LastWorldProto Pos
  lastDungeon : LastWorldProto Pos

/-- `PlayerComponentLastMap`. -/
structure PlayerComponentLastMap (Pos : Type) where
  pPublic : Option (LastPlace Pos)
  pDungeon : Option (LastPlace Pos)
  curWorldId : ℤ

section

variable {Pos : Type}

/-- `LastWorld::LastWorld`. -/
def LastPlace.ofProto (proto : LastWorldProto Pos) : LastPlace Pos where
  worldId := proto.worldId
  worldSn := proto.worldSn.toUInt64
  position := proto.position

/-- `LastWorld::SerializeToProto`. -/
def LastPlace.serializeToProto (place : LastPlace Pos) : LastWorldProto Pos where
  worldId := place.worldId
  worldSn := place.worldSn.toInt64
  position := place.position

/-- The data, as the lobby looks at them. -/
def PlacesProto.record (proto : PlacesProto Pos) : PlayerRecord where
  sn := proto.sn
  name := proto.name
  lastWorld := (LastPlace.ofProto proto.lastWorld).toLastWorld
  lastDungeon := (LastPlace.ofProto proto.lastDungeon).toLastWorld

namespace PlayerComponentLastMap

/-- A component from the pool: the id of the current world is that of its last player. -/
def pooled (curWorldId : ℤ) : PlayerComponentLastMap Pos := ⟨none, none, curWorldId⟩

/-- `ParserFromProto`. -/
def parserFromProto (worlds : ResourceWorldMgr) (initPosition : ℤ → Pos) (proto : PlacesProto Pos)
    (c : PlayerComponentLastMap Pos) : PlayerComponentLastMap Pos :=
  { c with
    pPublic := some
      (if (worlds.getResource proto.lastWorld.worldId).isSome then LastPlace.ofProto proto.lastWorld
      else ⟨⟨worlds.initMap, 0⟩, initPosition worlds.initMap⟩)
    pDungeon :=
      if (worlds.getResource proto.lastDungeon.worldId).isSome then
        some (LastPlace.ofProto proto.lastDungeon)
      else c.pDungeon }

/-- `SerializeToProto`: a place that is not there leaves the data as they are. -/
def serializeToProto (c : PlayerComponentLastMap Pos) (proto : PlacesProto Pos) : PlacesProto Pos :=
  { proto with
    lastWorld := (c.pPublic.map LastPlace.serializeToProto).getD proto.lastWorld
    lastDungeon := (c.pDungeon.map LastPlace.serializeToProto).getD proto.lastDungeon }

/-- `EnterDungeon`: a dungeon with the same serial number is left as it is. -/
def enterDungeon (place : LastPlace Pos) (c : PlayerComponentLastMap Pos) : PlayerComponentLastMap Pos :=
  match c.pDungeon with
  | none => { c with pDungeon := some place }
  | some last => if last.worldSn ≠ place.worldSn then { c with pDungeon := some place } else c

/-- `EnterWorld`.  An unknown world is a null pointer, and so is a place that is not there. -/
def enterWorld (worlds : ResourceWorldMgr) (initPosition : ℤ → Pos) (world : LastWorld)
    (c : PlayerComponentLastMap Pos) : Option (PlayerComponentLastMap Pos) :=
  match worlds.getResource world.worldId with
  | none => none
  | some .publicWorld =>
    c.pPublic.map fun last =>
      { c with
        curWorldId := world.worldId
        pPublic := some
          (if last.worldId = world.worldId then ⟨world, last.position⟩
          else ⟨world, initPosition world.worldId⟩) }
  | some _ =>
    some (enterDungeon ⟨world, initPosition world.worldId⟩ { c with curWorldId := world.worldId })

/-- Both places, as the lobby looks at them. -/
def toLastMap (c : PlayerComponentLastMap Pos) : Option LastMap :=
  c.pPublic.map fun last => ⟨last.toLastWorld, c.pDungeon.map LastPlace.toLastWorld⟩

end PlayerComponentLastMap

end

/-! ### A player that goes through worlds -/

/-- What happens to a player. -/
inductive LastMapEvent
  /-- It enters a world. -/
  | enterWorld (world : LastWorld)
  /-- Its data go to another process, to a component from the pool there. -/
  | syncPlayer (curWorldId : ℤ)

/-- The data that came with a player, and its component. -/
structure PlayerPlaces (Pos : Type) where
  proto : PlacesProto Pos
  component : PlayerComponentLastMap Pos

section

variable {Pos : Type} (worlds : ResourceWorldMgr) (initPosition : ℤ → Pos)

namespace PlayerPlaces

/-- A player that has come with some data. -/
def awake (curWorldId : ℤ) (proto : PlacesProto Pos) : PlayerPlaces Pos :=
  ⟨proto, (PlayerComponentLastMap.pooled curWorldId).parserFromProto worlds initPosition proto⟩

/-- `Player::SerializeToProto`. -/
def saved (s : PlayerPlaces Pos) : PlacesProto Pos := s.component.serializeToProto s.proto

/-- One step. -/
def step (s : PlayerPlaces Pos) : LastMapEvent → Option (PlayerPlaces Pos)
  | .enterWorld world =>
    (s.component.enterWorld worlds initPosition world).map fun c => { s with component := c }
  | .syncPlayer curWorldId => some (awake worlds initPosition curWorldId s.saved)

/-- All steps. -/
def run (s : PlayerPlaces Pos) (es : List LastMapEvent) : Option (PlayerPlaces Pos) :=
  es.foldlM (step worlds initPosition) s

end PlayerPlaces

end

/-! ### What the places should be about -/

/-- The worlds that are entered. -/
def enteredWorlds (es : List LastMapEvent) : List LastWorld :=
  es.filterMap fun e => match e with
    | .enterWorld world => some world
    | .syncPlayer _ => none

/-- A public world. -/
def ResourceWorldMgr.isPublic (worlds : ResourceWorldMgr) (world : LastWorld) : Bool :=
  worlds.getResource world.worldId = some .publicWorld

/-- The public world that was entered last, or that from before. -/
def lastPublicId (worlds : ResourceWorldMgr) (before : LastMap) (es : List LastMapEvent) : ℤ :=
  match ((enteredWorlds es).filter worlds.isPublic).getLast? with
  | none => before.lastPublicMap.worldId
  | some world => world.worldId

/-- The dungeon that was entered last, or that from before, if there is one. -/
def lastDungeonSn (worlds : ResourceWorldMgr) (before : LastMap) (es : List LastMapEvent) :
    Option UInt64 :=
  match ((enteredWorlds es).filter fun world => !worlds.isPublic world).getLast? with
  | none => before.lastDungeon.map LastWorld.worldSn
  | some world => some world.worldSn

@[simp] theorem enteredWorlds_append (es es' : List LastMapEvent) :
    enteredWorlds (es ++ es') = enteredWorlds es ++ enteredWorlds es' :=
  List.filterMap_append ..

@[simp] theorem enteredWorlds_enterWorld (world : LastWorld) :
    enteredWorlds [.enterWorld world] = [world] := rfl

@[simp] theorem enteredWorlds_syncPlayer (curWorldId : ℤ) :
    enteredWorlds [.syncPlayer curWorldId] = [] := rfl

/-- Another world at the end of a list is the last one of its kind, and not of the other. -/
theorem getLast?_filter_append {α : Type} (p : α → Bool) (as : List α) (a : α) :
    ((as ++ [a]).filter p).getLast? = if p a = true then some a else (as.filter p).getLast? := by
  rw [List.filter_append]
  cases h : p a with
  | true => simp [h]
  | false => simp [h]

/-! ### What is saved is loaded -/

section

variable {Pos : Type} {worlds : ResourceWorldMgr} {initPosition : ℤ → Pos}

@[simp] theorem LastPlace.ofProto_serializeToProto (place : LastPlace Pos) :
    LastPlace.ofProto place.serializeToProto = place := by
  simp [LastPlace.ofProto, LastPlace.serializeToProto]

/-- **What the lobby looks at**, in a component from the pool. -/
theorem PlayerComponentLastMap.toLastMap_parserFromProto (proto : PlacesProto Pos) (curWorldId : ℤ) :
    ((pooled curWorldId).parserFromProto worlds initPosition proto).toLastMap =
      some (LastMap.parserFromProto worlds proto.record) := by
  unfold parserFromProto toLastMap LastMap.parserFromProto
  simp only [Option.map_some, Option.some.injEq, LastMap.mk.injEq]
  refine ⟨?_, ?_⟩
  · change LastPlace.toLastWorld (if _ then _ else _) = _
    rw [apply_ite LastPlace.toLastWorld]
    rfl
  · rw [apply_ite (Option.map LastPlace.toLastWorld)]
    rfl

namespace PlayerPlaces

/-- The world of each place is known, and a dungeon that is not there is not known. -/
structure Inv (worlds : ResourceWorldMgr) (s : PlayerPlaces Pos) : Prop where
  pPublic : ∃ place, s.component.pPublic = some place ∧
    ((worlds.getResource place.worldId).isSome = true ∨ place.toLastWorld = ⟨worlds.initMap, 0⟩)
  pDungeon : ∀ place, s.component.pDungeon = some place → (worlds.getResource place.worldId).isSome = true
  lastDungeon : s.component.pDungeon = none → worlds.getResource s.proto.lastDungeon.worldId = none

theorem inv_awake (curWorldId : ℤ) (proto : PlacesProto Pos) :
    (awake worlds initPosition curWorldId proto).Inv worlds where
  pPublic := by
    refine ⟨_, rfl, ?_⟩
    split
    · rename_i hknown
      exact Or.inl hknown
    · exact Or.inr rfl
  pDungeon := by
    intro place hplace
    simp only [awake, PlayerComponentLastMap.parserFromProto] at hplace
    split at hplace
    · rename_i hknown
      rw [← Option.some.inj hplace]
      exact hknown
    · cases hplace
  lastDungeon := by
    intro hnone
    simp only [awake, PlayerComponentLastMap.parserFromProto] at hnone
    split at hnone
    · cases hnone
    · rename_i hunknown
      exact Option.not_isSome_iff_eq_none.1 hunknown

/-- **What was saved is loaded.** -/
theorem Inv.load_saved {s : PlayerPlaces Pos} (h : s.Inv worlds) :
    some (LastMap.parserFromProto worlds s.saved.record) = s.component.toLastMap := by
  obtain ⟨place, hplace, hknown⟩ := h.pPublic
  unfold PlayerComponentLastMap.toLastMap LastMap.parserFromProto saved
    PlayerComponentLastMap.serializeToProto PlacesProto.record
  simp only [hplace, Option.map_some, Option.getD_some, LastPlace.ofProto_serializeToProto,
    Option.some.injEq, LastMap.mk.injEq]
  refine ⟨?_, ?_⟩
  · rcases hknown with hsome | hinit
    · rw [if_pos hsome]
    · rw [hinit]
      exact ite_self _
  · cases hdungeon : s.component.pDungeon with
    | none =>
      simp only [Option.map_none, Option.getD_none]
      refine if_neg ?_
      rw [show (LastPlace.ofProto s.proto.lastDungeon).worldId = s.proto.lastDungeon.worldId from rfl,
        h.lastDungeon hdungeon]
      exact Bool.false_ne_true
    | some dungeon =>
      simp only [Option.map_some, Option.getD_some, LastPlace.ofProto_serializeToProto]
      exact if_pos (h.pDungeon dungeon hdungeon)

/-! ### The two places behind a run -/

/-- The places of a player are about the last worlds of some events. -/
structure Tracks (worlds : ResourceWorldMgr) (before : LastMap) (es : List LastMapEvent)
    (s : PlayerPlaces Pos) : Prop extends Inv worlds s where
  tracks : ∃ places, s.component.toLastMap = some places ∧
    places.lastPublicMap.worldId = lastPublicId worlds before es ∧
    places.lastDungeon.map LastWorld.worldSn = lastDungeonSn worlds before es

theorem run_append (s : PlayerPlaces Pos) (es : List LastMapEvent) (e : LastMapEvent) :
    run worlds initPosition s (es ++ [e]) =
      (run worlds initPosition s es).bind fun t => step worlds initPosition t e := by
  unfold run
  rw [List.foldlM_append]
  refine congrArg _ (funext fun t => ?_)
  simp

/-- A player that has come with some data. -/
theorem tracks_awake (curWorldId : ℤ) (proto : PlacesProto Pos) :
    (awake worlds initPosition curWorldId proto).Tracks worlds
      (LastMap.parserFromProto worlds proto.record) [] where
  toInv := inv_awake curWorldId proto
  tracks := ⟨_, PlayerComponentLastMap.toLastMap_parserFromProto proto curWorldId, rfl, rfl⟩

/-- **Another process**: nothing is lost on the way. -/
theorem Tracks.syncPlayer {before : LastMap} {es : List LastMapEvent} {s : PlayerPlaces Pos}
    (h : s.Tracks worlds before es) (curWorldId : ℤ) :
    (awake worlds initPosition curWorldId s.saved).Tracks worlds before
      (es ++ [.syncPlayer curWorldId]) where
  toInv := inv_awake curWorldId s.saved
  tracks := by
    obtain ⟨places, hplaces, hpublic, hdungeon⟩ := h.tracks
    refine ⟨places, ?_, ?_, ?_⟩
    · rw [← hplaces, ← h.load_saved]
      exact PlayerComponentLastMap.toLastMap_parserFromProto s.saved curWorldId
    · simp [hpublic, lastPublicId]
    · simp [hdungeon, lastDungeonSn]

/-- **A public world** overwrites the public place. -/
theorem Tracks.enterPublic {before : LastMap} {es : List LastMapEvent} {s : PlayerPlaces Pos}
    (h : s.Tracks worlds before es) {world : LastWorld}
    (hpublic : worlds.getResource world.worldId = some .publicWorld) :
    ∃ t, step worlds initPosition s (.enterWorld world) = some t ∧
      t.Tracks worlds before (es ++ [.enterWorld world]) := by
  obtain ⟨places, hplaces, -, hdungeon⟩ := h.tracks
  obtain ⟨last, hlast, -⟩ := h.pPublic
  have hkind : worlds.isPublic world = true := decide_eq_true hpublic
  simp only [step, PlayerComponentLastMap.enterWorld, hpublic, hlast, Option.map_some]
  refine ⟨_, rfl, ⟨⟨_, rfl, Or.inl ?_⟩, h.pDungeon, h.lastDungeon⟩, _, rfl, ?_, ?_⟩
  · split <;> exact hpublic ▸ rfl
  · rw [lastPublicId, enteredWorlds_append, enteredWorlds_enterWorld, getLast?_filter_append,
      if_pos hkind]
    split <;> rfl
  · rw [lastDungeonSn, enteredWorlds_append, enteredWorlds_enterWorld, getLast?_filter_append, hkind]
    simp only [PlayerComponentLastMap.toLastMap, hlast, Option.map_some, Option.some.injEq] at hplaces
    rw [← hplaces] at hdungeon
    exact hdungeon

/-- **A dungeon** overwrites the dungeon, unless it is the same. -/
theorem Tracks.enterDungeon {before : LastMap} {es : List LastMapEvent} {s : PlayerPlaces Pos}
    (h : s.Tracks worlds before es) {world : LastWorld}
    (hkind : worlds.getResource world.worldId = some .dungeon) :
    ∃ t, step worlds initPosition s (.enterWorld world) = some t ∧
      t.Tracks worlds before (es ++ [.enterWorld world]) := by
  obtain ⟨places, hplaces, hpublic, -⟩ := h.tracks
  have hother : worlds.isPublic world = false := decide_eq_false (by rw [hkind]; simp)
  -- the dungeon afterwards
  obtain ⟨dungeon, hdungeon, hsn, hknown⟩ : ∃ dungeon,
      PlayerComponentLastMap.enterDungeon ⟨world, initPosition world.worldId⟩
        { s.component with curWorldId := world.worldId } =
          { s.component with curWorldId := world.worldId, pDungeon := some dungeon } ∧
      dungeon.worldSn = world.worldSn ∧ (worlds.getResource dungeon.worldId).isSome = true := by
    unfold PlayerComponentLastMap.enterDungeon
    cases hlast : s.component.pDungeon with
    | none => exact ⟨_, rfl, rfl, hkind ▸ rfl⟩
    | some last =>
      by_cases hsame : last.worldSn = world.worldSn
      · refine ⟨last, ?_, hsame, h.pDungeon last hlast⟩
        simp only [ne_eq, hsame, not_true_eq_false, if_false, ← hlast]
      · refine ⟨_, if_pos hsame, rfl, hkind ▸ rfl⟩
  simp only [step, PlayerComponentLastMap.enterWorld, hkind, hdungeon, Option.map_some]
  obtain ⟨last, hlast, hcases⟩ := h.pPublic
  refine ⟨_, rfl, ⟨⟨last, hlast, hcases⟩, fun place hplace => ?_, fun hnone => ?_⟩,
    ⟨last.toLastWorld, some dungeon.toLastWorld⟩, ?_, ?_, ?_⟩
  · exact Option.some.inj hplace ▸ hknown
  · cases hnone
  · simp [PlayerComponentLastMap.toLastMap, hlast]
  · rw [lastPublicId, enteredWorlds_append, enteredWorlds_enterWorld, getLast?_filter_append, hother]
    simp only [PlayerComponentLastMap.toLastMap, hlast, Option.map_some, Option.some.injEq] at hplaces
    rw [← hplaces] at hpublic
    exact hpublic
  · rw [lastDungeonSn, enteredWorlds_append, enteredWorlds_enterWorld, getLast?_filter_append, hother]
    simp [hsn]

/-- **The two places behind every run**, through public worlds and dungeons. -/
theorem run_tracks (curWorldId : ℤ) (proto : PlacesProto Pos) {es : List LastMapEvent}
    (hes : ∀ world ∈ enteredWorlds es, worlds.getResource world.worldId = some .publicWorld ∨
      worlds.getResource world.worldId = some .dungeon) :
    ∃ t, run worlds initPosition (awake worlds initPosition curWorldId proto) es = some t ∧
      t.Tracks worlds (LastMap.parserFromProto worlds proto.record) es := by
  induction es using List.reverseRecOn with
  | nil => exact ⟨_, rfl, tracks_awake curWorldId proto⟩
  | append_singleton es e ih =>
    obtain ⟨t, ht, htracks⟩ := ih fun world hworld => hes world (by simp [hworld])
    rw [run_append, ht]
    cases e with
    | syncPlayer cur => exact ⟨_, rfl, htracks.syncPlayer cur⟩
    | enterWorld world =>
      rcases hes world (by simp) with hpublic | hdungeon
      · exact htracks.enterPublic hpublic
      · exact htracks.enterDungeon hdungeon

end PlayerPlaces

end

end MmoServer
