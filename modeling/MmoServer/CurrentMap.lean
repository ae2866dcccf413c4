/-
**Where a player is.**

`GetCur` takes the public place of a player if that is the world which was entered last, going by the id, and
the dungeon otherwise.  `EnterWorld` writes one of the two places, and leaves a dungeon that has the serial
number already as it is.  What is read and what was written agree as long as the public place is always a
public world, and a serial number is that of one world.

Main definitions:

* `MmoServer.PlayerComponentLastMap.getCur` — the current place;
* `MmoServer.SerialsUnique` — a serial number is that of one world;
* `MmoServer.PlayerPlaces.Placed` — the invariant;
* `MmoServer.PlayerPlaces.Entered` — what holds behind a call.

Main results:

* `MmoServer.PlayerPlaces.Placed.enterWorld` — **the world that was entered** is the current one;
* `MmoServer.PlayerPlaces.Placed.reparse` — **both places come back**;
* `MmoServer.current_run` — the same after every call of every run.
-/

import MmoServer.PlayerComponentLastMap

set_option relaxedAutoImplicit false
set_option autoImplicit false

namespace MmoServer

variable {Pos : Type} {worlds : ResourceWorldMgr} {initPosition : ℤ → Pos}

/-! ### The current place -/

/-- `GetCur`. -/
def PlayerComponentLastMap.getCur (c : PlayerComponentLastMap Pos) : Option (LastPlace Pos) :=
  c.pPublic.bind fun last => if last.worldId = c.curWorldId then some last else c.pDungeon

/-- The dungeon in the data of a player, if there is one. -/
def PlacesProto.storedDungeon (worlds : ResourceWorldMgr) (proto : PlacesProto Pos) : List LastWorld :=
  if (worlds.getResource proto.lastDungeon.worldId).isSome then
    [(LastPlace.ofProto proto.lastDungeon).toLastWorld]
  else []

/-- A serial number is that of one world. -/
def SerialsUnique (places : List LastWorld) : Prop :=
  ∀ v ∈ places, ∀ w ∈ places, v.worldSn = w.worldSn → v.worldId = w.worldId

theorem SerialsUnique.eq {places : List LastWorld} (h : SerialsUnique places) {v w : LastWorld}
    (hv : v ∈ places) (hw : w ∈ places) (hsn : v.worldSn = w.worldSn) : v = w := by
  obtain ⟨id, sn⟩ := v
  obtain ⟨id', sn'⟩ := w
  obtain rfl : id = id' := h _ hv _ hw hsn
  obtain rfl : sn = sn' := hsn
  rfl

theorem SerialsUnique.subset {places places' : List LastWorld} (h : SerialsUnique places)
    (hsub : places' ⊆ places) : SerialsUnique places' :=
  fun v hv w hw => h v (hsub hv) w (hsub hw)

/-! ### The invariant -/

namespace PlayerPlaces

/-- The public place is a public world, and the dungeon is one of some worlds. -/
structure Placed (worlds : ResourceWorldMgr) (seen : List LastWorld) (s : PlayerPlaces Pos) : Prop
    extends Inv worlds s where
  publicWorld : ∀ place, s.component.pPublic = some place →
    worlds.getResource place.worldId = some .publicWorld
  seenDungeon : ∀ place, s.component.pDungeon = some place → place.toLastWorld ∈ seen

/-- A player whose data are about no other kind of world. -/
theorem placed_awake (hinit : worlds.getResource worlds.initMap = some .publicWorld)
    (curWorldId : ℤ) {proto : PlacesProto Pos}
    (hstored : ∀ type, worlds.getResource proto.lastWorld.worldId = some type → type = .publicWorld) :
    (awake worlds initPosition curWorldId proto).Placed worlds (proto.storedDungeon worlds) where
  toInv := inv_awake curWorldId proto
  publicWorld := by
    intro place hplace
    obtain rfl := Option.some.inj hplace
    split
    · rename_i hknown
      obtain ⟨type, htype⟩ := Option.isSome_iff_exists.1 hknown
      rw [← hstored type htype]
      exact htype
    · exact hinit
  seenDungeon := by
    intro place hplace
    simp only [awake, PlayerComponentLastMap.parserFromProto] at hplace
    rw [PlacesProto.storedDungeon]
    split at hplace
    · rename_i hknown
      rw [if_pos hknown, ← Option.some.inj hplace]
      exact List.mem_singleton_self _
    · cases hplace

/-- **Both places come back** when the component is saved and parsed again, here or elsewhere. -/
theorem Placed.reparse {seen : List LastWorld} {s : PlayerPlaces Pos} (h : s.Placed worlds seen)
    {c : PlayerComponentLastMap Pos} (hc : c.pDungeon = none ∨ c.pDungeon = s.component.pDungeon) :
    (c.parserFromProto worlds initPosition s.saved).pPublic = s.component.pPublic ∧
      (c.parserFromProto worlds initPosition s.saved).pDungeon = s.component.pDungeon := by
  obtain ⟨place, hplace, -⟩ := h.pPublic
  have hpublic : (worlds.getResource place.serializeToProto.worldId).isSome = true :=
    h.publicWorld place hplace ▸ rfl
  unfold PlayerComponentLastMap.parserFromProto saved PlayerComponentLastMap.serializeToProto
  constructor
  · simp only [hplace, Option.map_some, Option.getD_some, if_pos hpublic,
      LastPlace.ofProto_serializeToProto]
  · cases hdungeon : s.component.pDungeon with
    | none =>
      have hunknown := h.lastDungeon hdungeon
      have hnone : c.pDungeon = none := hc.elim id fun heq => heq.trans hdungeon
      simp [hunknown, hnone]
    | some dungeon =>
      have hknown : (worlds.getResource dungeon.serializeToProto.worldId).isSome = true :=
        h.pDungeon dungeon hdungeon
      simp [hknown]

/-- `EnterDungeon` writes the dungeon, or has nothing to write. -/
theorem enterDungeon_eq (c : PlayerComponentLastMap Pos) (place : LastPlace Pos)
    (hsame : ∀ last, c.pDungeon = some last → last.worldSn = place.worldSn →
      last.toLastWorld = place.toLastWorld) :
    ∃ dungeon, PlayerComponentLastMap.enterDungeon place c = { c with pDungeon := some dungeon } ∧
      dungeon.toLastWorld = place.toLastWorld := by
  unfold PlayerComponentLastMap.enterDungeon
  cases hlast : c.pDungeon with
  | none => exact ⟨place, rfl, rfl⟩
  | some last =>
    by_cases hsn : last.worldSn = place.worldSn
    · refine ⟨last, ?_, hsame last hlast hsn⟩
      simp only [ne_eq, hsn, not_true_eq_false, if_false, ← hlast]
    · exact ⟨place, if_pos hsn, rfl⟩

/-- What holds behind a call: the world that was entered is the current one. -/
structure Entered (worlds : ResourceWorldMgr) (seen : List LastWorld) (world : LastWorld)
    (t : PlayerPlaces Pos) : Prop where
  placed : t.Placed worlds (seen ++ [world])
  current : ∃ cur, t.component.getCur = some cur ∧ cur.toLastWorld = world

theorem Placed.seen_append {seen : List LastWorld} {s : PlayerPlaces Pos} (h : s.Placed worlds seen)
    (world : LastWorld) (place : LastPlace Pos) (hplace : s.component.pDungeon = some place) :
    place.toLastWorld ∈ seen ++ [world] :=
  List.mem_append_left _ (h.seenDungeon place hplace)

/-- The public place is written, whatever is kept of it. -/
theorem Placed.enterPublic {seen : List LastWorld} {s : PlayerPlaces Pos} (h : s.Placed worlds seen)
    {world : LastWorld} (htype : worlds.getResource world.worldId = some .publicWorld) :
    ∃ t, step worlds initPosition s (.enterWorld world) = some t ∧ t.Entered worlds seen world := by
  obtain ⟨last, hlast, -⟩ := h.pPublic
  obtain ⟨place, hplace, hworld⟩ : ∃ place : LastPlace Pos,
      (if last.worldId = world.worldId then ⟨world, last.position⟩
        else ⟨world, initPosition world.worldId⟩) = place ∧ place.toLastWorld = world := by
    refine ⟨_, rfl, ?_⟩
    split <;> rfl
  have hid : place.worldId = world.worldId := congrArg LastWorld.worldId hworld
  have hown : ∀ p, some place = some p → worlds.getResource p.worldId = some .publicWorld := by
    rintro p heq
    rw [← Option.some.inj heq, hid]
    exact htype
  simp only [step, PlayerComponentLastMap.enterWorld, htype, hlast, Option.map_some, hplace]
  refine ⟨_, rfl, ⟨⟨⟨place, rfl, .inl ?_⟩, h.pDungeon, h.lastDungeon⟩, hown, h.seen_append world⟩,
    place, ?_, hworld⟩
  · rw [hown place rfl]
    rfl
  · exact if_pos hid

/-- The dungeon is written, or is this one already. -/
theorem Placed.enterOther {seen : List LastWorld} {s : PlayerPlaces Pos} (h : s.Placed worlds seen)
    {world : LastWorld} {type : ResourceWorldType} (htype : worlds.getResource world.worldId = some type)
    (hpublic : type ≠ .publicWorld) (hunique : SerialsUnique (seen ++ [world])) :
    ∃ t, step worlds initPosition s (.enterWorld world) = some t ∧ t.Entered worlds seen world := by
  obtain ⟨last, hlast, hcases⟩ := h.pPublic
  obtain ⟨dungeon, hdungeon, hworld⟩ := enterDungeon_eq
    { s.component with curWorldId := world.worldId } ⟨world, initPosition world.worldId⟩
    fun old hold hsn => hunique.eq (h.seen_append world old hold) (by simp) hsn
  have hid : dungeon.worldId = world.worldId := congrArg LastWorld.worldId hworld
  have hstep : step worlds initPosition s (.enterWorld world) = some { s with
      component := { s.component with curWorldId := world.worldId, pDungeon := some dungeon } } := by
    cases type with
    | publicWorld => exact absurd rfl hpublic
    | login | roles => simp only [step, PlayerComponentLastMap.enterWorld, htype, hdungeon, Option.map_some]
    | dungeon => simp only [step, PlayerComponentLastMap.enterWorld, htype, hdungeon, Option.map_some]
  -- the public place is another world
  have hother : last.worldId ≠ world.worldId := by
    intro heq
    have hlastType := h.publicWorld last hlast
    rw [heq, htype] at hlastType
    exact hpublic (Option.some.inj hlastType)
  refine ⟨_, hstep, ⟨⟨⟨last, hlast, hcases⟩, ?_, ?_⟩, h.publicWorld, ?_⟩, dungeon, ?_, hworld⟩
  · rintro p heq
    rw [← Option.some.inj heq, hid, htype]
    rfl
  · exact fun heq => absurd heq (Option.some_ne_none dungeon)
  · rintro p heq
    rw [← Option.some.inj heq, hworld]
    simp
  · simp [PlayerComponentLastMap.getCur, hlast, hother]

/-- **The world that was entered** is the current one. -/
theorem Placed.enterWorld {seen : List LastWorld} {s : PlayerPlaces Pos} (h : s.Placed worlds seen)
    {world : LastWorld} (hknown : worlds.getResource world.worldId ≠ none)
    (hunique : SerialsUnique (seen ++ [world])) :
    ∃ t, step worlds initPosition s (.enterWorld world) = some t ∧ t.Entered worlds seen world := by
  obtain ⟨type, htype⟩ := Option.ne_none_iff_exists'.1 hknown
  by_cases hpublic : type = .publicWorld
  · exact h.enterPublic (hpublic ▸ htype)
  · exact h.enterOther htype hpublic hunique

/-- Nothing changes on the way to another process. -/
theorem Placed.syncPlayer {seen : List LastWorld} {s : PlayerPlaces Pos} (h : s.Placed worlds seen)
    (curWorldId : ℤ) : (awake worlds initPosition curWorldId s.saved).Placed worlds seen := by
  obtain ⟨hpublic, hdungeon⟩ : _ ∧ _ := h.reparse (c := .pooled curWorldId) (.inl rfl)
  exact {
    inv_awake curWorldId s.saved with
    publicWorld := fun place hplace => h.publicWorld place (hpublic.symm.trans hplace)
    seenDungeon := fun place hplace => h.seenDungeon place (hdungeon.symm.trans hplace) }

variable (initPosition) in
/-- **Every run** keeps the invariant. -/
theorem run_placed (hinit : worlds.getResource worlds.initMap = some .publicWorld) (curWorldId : ℤ)
    {proto : PlacesProto Pos}
    (hstored : ∀ type, worlds.getResource proto.lastWorld.worldId = some type → type = .publicWorld)
    {es : List LastMapEvent}
    (hknown : ∀ world ∈ enteredWorlds es, worlds.getResource world.worldId ≠ none)
    (hunique : SerialsUnique (proto.storedDungeon worlds ++ enteredWorlds es)) :
    ∃ t, run worlds initPosition (awake worlds initPosition curWorldId proto) es = some t ∧
      t.Placed worlds (proto.storedDungeon worlds ++ enteredWorlds es) := by
  induction es using List.reverseRecOn with
  | nil =>
    refine ⟨_, rfl, ?_⟩
    simpa [enteredWorlds] using placed_awake hinit curWorldId hstored
  | append_singleton es e ih =>
    rw [enteredWorlds_append, ← List.append_assoc] at hunique
    obtain ⟨t, ht, hplaced⟩ := ih (fun world hworld => hknown world (by simp [hworld]))
      (hunique.subset (List.subset_append_left _ _))
    rw [run_append, ht, Option.bind_some, enteredWorlds_append, ← List.append_assoc]
    cases e with
    | syncPlayer cur =>
      refine ⟨_, rfl, ?_⟩
      simpa using hplaced.syncPlayer cur
    | enterWorld world =>
      obtain ⟨u, hu, hentered⟩ := hplaced.enterWorld (hknown world (by simp)) hunique
      exact ⟨u, hu, hentered.placed⟩

end PlayerPlaces

variable (initPosition) in
/-- **The current world after every call**: for data whose public world is absent or public, and worlds that
are known and have serial numbers of their own, `GetCur` is about the world that was entered last, and both
places come back when they are saved and parsed again, by the same component or by another one. -/
theorem current_run (hinit : worlds.getResource worlds.initMap = some .publicWorld) (curWorldId : ℤ)
    {proto : PlacesProto Pos}
    (hstored : ∀ type, worlds.getResource proto.lastWorld.worldId = some type → type = .publicWorld)
    {es : List LastMapEvent}
    (hknown : ∀ world ∈ enteredWorlds es, worlds.getResource world.worldId ≠ none)
    (hunique : SerialsUnique (proto.storedDungeon worlds ++ enteredWorlds es))
    {before : List LastMapEvent} {world : LastWorld} (hcall : before ++ [.enterWorld world] <+: es) :
    ∃ t, PlayerPlaces.run worlds initPosition (.awake worlds initPosition curWorldId proto)
        (before ++ [.enterWorld world]) = some t ∧
      (∃ cur, t.component.getCur = some cur ∧ cur.worldId = world.worldId ∧
        cur.worldSn = world.worldSn) ∧
      ∀ c : PlayerComponentLastMap Pos, (∃ id, c = .pooled id) ∨ c = t.component →
        (c.parserFromProto worlds initPosition t.saved).pPublic = t.component.pPublic ∧
        (c.parserFromProto worlds initPosition t.saved).pDungeon = t.component.pDungeon := by
  obtain ⟨rest, rfl⟩ := hcall
  simp only [enteredWorlds_append, enteredWorlds_enterWorld] at hknown hunique
  have hunique : SerialsUnique (proto.storedDungeon worlds ++ enteredWorlds before ++ [world]) :=
    hunique.subset (by simp)
  obtain ⟨s, hs, hplaced⟩ := PlayerPlaces.run_placed initPosition hinit curWorldId hstored
    (fun w hw => hknown w (by simp [hw])) (hunique.subset (List.subset_append_left _ _))
  obtain ⟨t, ht, hthen, cur, hcur, rfl⟩ := hplaced.enterWorld (hknown world (by simp)) hunique
  refine ⟨t, ?_, ⟨cur, hcur, rfl, rfl⟩, fun c hc => hthen.reparse ?_⟩
  · rw [PlayerPlaces.run_append, hs]
    exact ht
  · rcases hc with ⟨id, rfl⟩ | rfl
    · exact .inl rfl
    · exact .inr rfl

/-- A public world and a dungeon. -/
def twoWorlds : ResourceWorldMgr :=
  ⟨fun id => if id = 1 then some .publicWorld else if id = 2 then some .dungeon else none, 1⟩

/-- The data of a new player. -/
def newPlaces : PlacesProto Unit := ⟨5, [], ⟨0, 0, ()⟩, ⟨0, 0, ()⟩⟩

/-- A new player that enters the public world, and then the dungeon, is in the dungeon. -/
theorem current_run_dungeon : ∃ t, PlayerPlaces.run twoWorlds (fun _ => ())
    (.awake twoWorlds (fun _ => ()) 0 newPlaces)
      [.enterWorld ⟨1, 10⟩, .enterWorld ⟨2, 20⟩] = some t ∧
    ∃ cur, t.component.getCur = some cur ∧ cur.worldId = 2 ∧ cur.worldSn = 20 := by
  have hstored : ∀ type, twoWorlds.getResource newPlaces.lastWorld.worldId = some type →
      type = .publicWorld := by
    simp [twoWorlds, newPlaces]
  have hentered : enteredWorlds [.enterWorld ⟨1, 10⟩, .enterWorld ⟨2, 20⟩] = [⟨1, 10⟩, ⟨2, 20⟩] := rfl
  have hknown : ∀ world ∈ enteredWorlds [.enterWorld ⟨1, 10⟩, .enterWorld ⟨2, 20⟩],
      twoWorlds.getResource world.worldId ≠ none := by
    simp [hentered, twoWorlds]
  have hunique : SerialsUnique (newPlaces.storedDungeon twoWorlds ++
      enteredWorlds [.enterWorld ⟨1, 10⟩, .enterWorld ⟨2, 20⟩]) := by
    simp [hentered, SerialsUnique, PlacesProto.storedDungeon, twoWorlds, newPlaces]
  have hcall : [LastMapEvent.enterWorld ⟨1, 10⟩] ++ [.enterWorld ⟨2, 20⟩] <+:
      [.enterWorld ⟨1, 10⟩, .enterWorld ⟨2, 20⟩] := List.prefix_refl _
  obtain ⟨t, ht, hcur, -⟩ := current_run (fun _ => ()) rfl 0 hstored hknown hunique hcall
  exact ⟨t, ht, hcur⟩

end MmoServer
