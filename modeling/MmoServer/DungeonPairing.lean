/-
**Players that go to a dungeon at the same time.**

Each of them has asked for a dungeon of its own.  The space processes announce the dungeons that they
have created, with the resource of the world and a serial number, but not with the player that asked; and
the world of each player sends the player's data.  An announcement goes to the first player that waits for
the resource, in the order of the serial numbers of the players.

Main definitions:

* `MmoServer.TeleportTable.waitingFor` — who waits for a world;
* `MmoServer.PairingEvent`, `MmoServer.runPairing` — announcements and data, handled one after the other;
* `MmoServer.Pairing` — as many announcements as players that wait, and the data of each of them;
* `MmoServer.Paired` — **everyone is teleported once**, to a world of its own;
* `MmoServer.QueuedAs` — how a table stands for a queue.

Main results:

* `MmoServer.QueuedAs.check` — `Check` lets the first one leave the queue, if it can;
* `MmoServer.Pairing.run` — **the handlers simulate the queue**;
* `MmoServer.paired_iff` — **when everyone gets a dungeon**.
-/

import MmoServer.HeadQueue
import MmoServer.TeleportSafety

set_option relaxedAutoImplicit false
set_option autoImplicit false

namespace MmoServer

open Std

/-! ### Who waits, and who was teleported -/

/-- Who waits for a world, in the order of the table. -/
def TeleportTable.waitingFor (t : TeleportTable) (worldId : ℤ) : List UInt64 :=
  (t.objects.toList.filter fun e => e.2.targetWorldId = worldId).map Prod.fst

theorem TeleportTable.mem_waitingFor {t : TeleportTable} {worldId : ℤ} {sn : UInt64} :
    sn ∈ t.waitingFor worldId ↔ ∃ obj, t.objects[sn]? = some obj ∧ obj.targetWorldId = worldId := by
  simp [TeleportTable.waitingFor, ExtTreeMap.mem_toList_iff_getElem?_eq_some]

theorem TeleportTable.pairwise_waitingFor (t : TeleportTable) (worldId : ℤ) :
    (t.waitingFor worldId).Pairwise (· < ·) := by
  unfold TeleportTable.waitingFor
  rw [List.pairwise_map]
  exact ((ExtTreeMap.ordered_keys_toList (t := t.objects)).filter _).imp Std.compare_eq_lt.1

/-- The player and the world of a teleport. -/
def TeleportMsg.teleported : TeleportMsg → Option (UInt64 × UInt64)
  | .teleport _ _ _ playerSn targetWorldSn => some (playerSn, targetWorldSn)
  | .reqEnterDungeon _ _ _ _ => none

/-- The teleports so far. -/
def TeleportState.teleports (s : TeleportState) : List (UInt64 × UInt64) :=
  s.sent.filterMap TeleportMsg.teleported

/-- The world that a player has, if its flag is raised. -/
def TeleportObject.world (obj : TeleportObject) : Option UInt64 :=
  if obj.flagWorld.isCompleted then some obj.flagWorld.value else none

/-- `Check` teleports a player that has both, if the world has a serial number. -/
def TeleportObject.Goes (obj : TeleportObject) : Prop :=
  obj.flagPlayerSync.isCompleted = true ∧ ∃ worldSn, obj.world = some worldSn ∧ worldSn ≠ 0

/-! ### The events -/

/-- What the proxy handles; the rest of the process is as it is then. -/
inductive PairingEvent
  /-- A dungeon of the world is announced. -/
  | createWorldProxy (w : TeleportContext) (worldSn : UInt64)
  /-- `S2G_SyncPlayer` of a player. -/
  | syncPlayer (w : TeleportContext) (playerSn : UInt64)

namespace PairingEvent

/-- What the handler of an event reads. -/
def context : PairingEvent → TeleportContext
  | createWorldProxy w _ => w
  | syncPlayer w _ => w

/-- An announcement is offered to the first one, and the data of a player makes it ready. -/
def toQueue : PairingEvent → HeadQueue.Event UInt64 UInt64
  | createWorldProxy _ worldSn => .offer worldSn
  | syncPlayer _ playerSn => .ready playerSn

end PairingEvent

section

variable (worldType : ℤ → Option ResourceWorldType) (worldId : ℤ)

/-- An event is handled. -/
def pairingStep (s : TeleportState) : PairingEvent → Option TeleportState
  | .createWorldProxy w worldSn => handleBroadcastCreateWorldProxy 0 worldType w worldId worldSn s
  | .syncPlayer w playerSn => broadcastSyncPlayer w playerSn s

/-- Events are handled one after the other. -/
def runPairing (s : TeleportState) (es : List PairingEvent) : Option TeleportState :=
  es.foldlM (pairingStep worldType worldId) s

/-- **What is handled**: the players that wait for a dungeon have neither world nor data; as many different dungeons
are announced, and the data of each of the players comes once.  Whoever still waits is a player of the proxy. -/
structure Pairing (teamMap : UInt64 → Option (Option ℕ)) (s : TeleportState) (es : List PairingEvent) :
    Prop where
  dungeon : worldType worldId = some .dungeon
  waiting : ∀ (sn : UInt64) (obj : TeleportObject), s.table.objects[sn]? = some obj →
    obj.targetWorldId = worldId → obj.world = none ∧ obj.flagPlayerSync.isCompleted = false
  sent : s.sent = []
  held : ∀ (before : List PairingEvent) (e : PairingEvent) (rest : List PairingEvent) (t : TeleportState),
    es = before ++ e :: rest → runPairing worldType worldId s before = some t →
      ∀ sn ∈ t.table.waitingFor worldId, (e.context.players.getPlayerBySn sn).isSome = true
  teamMap : ∀ e ∈ es, e.context.teamMap = teamMap
  length_worlds : (HeadQueue.offers (es.map PairingEvent.toQueue)).length =
    (s.table.waitingFor worldId).length
  nodup_worlds : (HeadQueue.offers (es.map PairingEvent.toQueue)).Nodup
  syncs : (HeadQueue.readies (es.map PairingEvent.toQueue)).Perm (s.table.waitingFor worldId)

/-- **Everyone is teleported once, to a world of its own**, and no one is left. -/
def Paired (s : TeleportState) (es : List PairingEvent) : Prop :=
  ∃ t, runPairing worldType worldId s es = some t ∧ t.table.waitingFor worldId = [] ∧
    (t.teleports.map Prod.fst).Perm (s.table.waitingFor worldId) ∧ (t.teleports.map Prod.snd).Nodup

end

/-- The serial number of a world is not zero. -/
def validWorld (worldSn : UInt64) : Bool := worldSn ≠ 0

/-! ### `Check` -/

section

variable {w : TeleportContext} {worldId : ℤ}

/-- **`Check`** of a player of the proxy whose team is no null pointer. -/
theorem teleportCheck_goes {obj : TeleportObject}
    (hheld : (w.players.getPlayerBySn obj.playerSn).isSome = true)
    (hteam : w.teamMap obj.playerSn ≠ some none) (u : TeleportState) :
    (obj.Goes → ∃ worldSn t, obj.world = some worldSn ∧ (teleportCheck w obj u).map Prod.snd = some t ∧
        t.table = u.table.erase obj.playerSn ∧ t.teleports = u.teleports ++ [(obj.playerSn, worldSn)]) ∧
      (¬ obj.Goes → (teleportCheck w obj u).map Prod.snd = some u) := by
  unfold teleportCheck TeleportObject.Goes TeleportObject.world
  cases obj.flagPlayerSync.isCompleted with
  | false => simp
  | true =>
    cases obj.flagWorld.isCompleted with
    | false => simp
    | true =>
      by_cases hzero : obj.flagWorld.value = 0
      · simp [hzero]
      · obtain ⟨player, hplayer⟩ := Option.isSome_iff_exists.1 hheld
        have hsn := (PlayerCollector.getPlayerBySn_some hplayer).2
        have hasked : (askMembers w u.teams player obj.targetWorldId obj.flagWorld.value).isSome =
            true := (askMembers_isSome u.teams player).2 (by rw [hsn]; exact hteam)
        obtain ⟨asked, hasked⟩ := Option.isSome_iff_exists.1 hasked
        refine ⟨fun _ => ⟨obj.flagWorld.value, ?_⟩, fun hnot => absurd ⟨rfl, _, rfl, hzero⟩ hnot⟩
        simp only [Bool.not_true, Bool.or_self, Bool.false_eq_true, if_false, hzero, hplayer, hasked,
          Option.map_some]
        refine ⟨_, if_true .., rfl, by rw [hsn], ?_⟩
        -- the members of the team are asked, and no one else is teleported
        have hnone : asked.filterMap TeleportMsg.teleported = [] := by
          unfold askMembers at hasked
          split at hasked
          · rw [← Option.some.inj hasked]
            rfl
          · cases hasked
          · split at hasked
            · rw [← Option.some.inj hasked, List.filterMap_map]
              exact List.filterMap_eq_nil_iff.2 fun sn _ => rfl
            · rw [← Option.some.inj hasked]
              rfl
        unfold TeleportState.teleports
        rw [List.filterMap_append, List.filterMap_append, hnone, List.append_nil, ← hsn]
        rfl

end

/-- `Check` removes the player that it is about, or no one. -/
theorem teleportCheck_table {w : TeleportContext} {obj : TeleportObject} {u t : TeleportState} {b : Bool}
    (h : teleportCheck w obj u = some (b, t)) :
    t.table = u.table ∨ (obj.world ≠ none ∧ t.table = u.table.erase obj.playerSn) := by
  unfold teleportCheck at h
  split at h
  · obtain ⟨-, rfl⟩ := Prod.mk.inj (Option.some.inj h)
    exact .inl rfl
  · rename_i hflags
    split at h
    · obtain ⟨-, rfl⟩ := Prod.mk.inj (Option.some.inj h)
      exact .inl rfl
    · cases hplayer : w.players.getPlayerBySn obj.playerSn with
      | none =>
        rw [hplayer] at h
        cases h
      | some player =>
        rw [hplayer] at h
        obtain ⟨asked, -, heq⟩ := Option.map_eq_some_iff.1 h
        obtain ⟨-, rfl⟩ := Prod.mk.inj heq
        refine .inr ⟨?_, by rw [(PlayerCollector.getPlayerBySn_some hplayer).2]⟩
        unfold TeleportObject.world
        simp only [Bool.or_eq_true, Bool.not_eq_true', not_or, Bool.not_eq_false] at hflags
        rw [if_pos hflags.2]
        exact Option.some_ne_none _

/-- **The handling of a dungeon**, when someone is found: the entry of its team is read first. -/
theorem handleDungeon_some {w : TeleportContext} {worldId : ℤ} {s : TeleportState} {sn : UInt64}
    {obj : TeleportObject} (hfind : s.table.findTarget worldId = some (sn, obj)) (worldSn : UInt64) :
    (w.teamMap sn = some none ∧ handleDungeon w worldId worldSn s = none) ∨
      (w.teamMap sn ≠ some none ∧ ∃ teams, handleDungeon w worldId worldSn s =
        arrive w worldSn obj { s with teams := teams }) := by
  unfold handleDungeon
  rw [hfind]
  cases hentry : w.teamMap sn with
  | none => exact .inr ⟨(fun h => by cases h), s.teams, by simp [hentry]⟩
  | some pointer =>
    cases pointer with
    | none => exact .inl ⟨rfl, by simp [hentry]⟩
    | some team => exact .inr ⟨(fun h => by cases h), _, by simp only [hentry]; rfl⟩

/-- An object is written, and checked: whoever has no world stays in the table. -/
theorem stays_of_check {w : TeleportContext} {obj o : TeleportObject} {u t : TeleportState} {x : UInt64}
    {teams : ℕ → GameTeam} (hx : u.table.objects[x]? = some o) (hworld : o.world = none)
    (hown : obj.playerSn = x → obj.targetWorldId = o.targetWorldId ∧ obj.world = none)
    (h : (teleportCheck w obj ⟨u.table.insert obj, teams, u.sent⟩).map Prod.snd = some t) :
    ∃ o', t.table.objects[x]? = some o' ∧ o'.targetWorldId = o.targetWorldId ∧ o'.world = none := by
  obtain ⟨⟨b, t'⟩, hcheck, rfl⟩ := Option.map_eq_some_iff.1 h
  by_cases heq : obj.playerSn = x
  · obtain ⟨htarget, hnone⟩ := hown heq
    rcases teleportCheck_table hcheck with htable | ⟨hsome, -⟩
    · exact ⟨obj, by rw [htable, TeleportTable.getElem?_insert, if_pos heq], htarget, hnone⟩
    · exact absurd hnone hsome
  · rcases teleportCheck_table hcheck with htable | ⟨-, htable⟩
    · exact ⟨o, by rw [htable, TeleportTable.getElem?_insert, if_neg heq, hx], rfl, hworld⟩
    · exact ⟨o, by rw [htable, TeleportTable.getElem?_erase, if_neg heq, TeleportTable.getElem?_insert,
        if_neg heq, hx], rfl, hworld⟩

/-- An object is written, and checked: nobody else waits. -/
theorem waitingFor_of_check {w : TeleportContext} {worldId : ℤ} {obj old : TeleportObject} {u t : TeleportState}
    {teams : ℕ → GameTeam} (hold : u.table.objects[obj.playerSn]? = some old)
    (htarget : obj.targetWorldId = old.targetWorldId)
    (h : (teleportCheck w obj ⟨u.table.insert obj, teams, u.sent⟩).map Prod.snd = some t) {sn : UInt64}
    (hsn : sn ∈ t.table.waitingFor worldId) : sn ∈ u.table.waitingFor worldId := by
  obtain ⟨⟨b, t'⟩, hcheck, rfl⟩ := Option.map_eq_some_iff.1 h
  obtain ⟨o, ho, hto⟩ := TeleportTable.mem_waitingFor.1 hsn
  have hwritten : (u.table.insert obj).objects[sn]? = some o := by
    rcases teleportCheck_table hcheck with htable | ⟨-, htable⟩
    · rw [htable] at ho
      exact ho
    · rw [htable] at ho
      exact (OrdMap.of_getElem?_erase ho).2
  rw [TeleportTable.getElem?_insert] at hwritten
  by_cases heq : obj.playerSn = sn
  · rw [if_pos heq] at hwritten
    obtain rfl := Option.some.inj hwritten
    exact TeleportTable.mem_waitingFor.2 ⟨old, heq ▸ hold, htarget.symm.trans hto⟩
  · rw [if_neg heq] at hwritten
    exact TeleportTable.mem_waitingFor.2 ⟨o, hwritten, hto⟩

/-- **Nobody joins**: whoever waits behind an event has waited before it. -/
theorem waitingFor_of_step {worldType : ℤ → Option ResourceWorldType} {worldId : ℤ}
    (hdungeon : worldType worldId = some .dungeon) {u t : TeleportState} {e : PairingEvent}
    (h : pairingStep worldType worldId u e = some t) {sn : UInt64} (hsn : sn ∈ t.table.waitingFor worldId) :
    sn ∈ u.table.waitingFor worldId := by
  cases e with
  | createWorldProxy w worldSn =>
    simp only [pairingStep, handleBroadcastCreateWorldProxy, hdungeon] at h
    cases hfind : u.table.findTarget worldId with
    | none =>
      rw [handleDungeon, hfind] at h
      obtain rfl := Option.some.inj h
      exact hsn
    | some found =>
      obtain ⟨a, obj⟩ := found
      obtain ⟨hobj, -, hown⟩ := TeleportTable.findTarget_some hfind
      obtain ⟨-, hnull⟩ | ⟨-, teams, hdungeons⟩ := handleDungeon_some hfind worldSn
      · rw [hnull] at h
        cases h
      · rw [hdungeons] at h
        have hkept : u.table.objects[(obj.setWorld worldSn).playerSn]? = some obj := by
          rw [TeleportObject.setWorld_playerSn, hown]
          exact hobj
        exact waitingFor_of_check hkept rfl h hsn
  | syncPlayer w playerSn =>
    simp only [pairingStep, broadcastSyncPlayer] at h
    cases hfind : OrdMap.findIf u.table.objects fun _ obj => decide (obj.playerSn = playerSn) with
    | none =>
      rw [hfind] at h
      obtain rfl := Option.some.inj h
      exact hsn
    | some found =>
      obtain ⟨a, obj⟩ := found
      rw [hfind] at h
      have hobj := (OrdMap.findIf_some hfind).1
      have hkept : u.table.objects[obj.setSync.playerSn]? = some obj := by
        rw [show obj.setSync.playerSn = a from u.table.playerSn_eq a obj hobj]
        exact hobj
      exact waitingFor_of_check hkept rfl h hsn

/-! ### The table as a queue -/

/-- **A table stands for a queue**: whoever waits for the world is in the queue, the first one holds its world, and
those who were served are gone. -/
structure QueuedAs (worldId : ℤ) (t : TeleportState) (s : HeadQueue.State UInt64 UInt64) : Prop where
  sorted : s.waiting.Pairwise (· < ·)
  waiting : ∀ sn ∈ s.waiting, ∃ obj, t.table.objects[sn]? = some obj ∧ obj.targetWorldId = worldId ∧
    (obj.flagPlayerSync.isCompleted = true ↔ sn ∈ s.ready) ∧
      obj.world = if s.waiting.head? = some sn then s.held else none
  target : ∀ sn obj, t.table.objects[sn]? = some obj → obj.targetWorldId = worldId → sn ∈ s.waiting
  served : ∀ p ∈ s.served, t.table.objects[p.1]? = none
  teleports : t.teleports = s.served

section

variable {w : TeleportContext} {worldId : ℤ} {t u : TeleportState} {s : HeadQueue.State UInt64 UInt64}

/-- The first one is found. -/
theorem QueuedAs.findTarget (h : QueuedAs worldId t s) {a : UInt64} {rest : List UInt64}
    (hwaiting : s.waiting = a :: rest) : ∃ obj, t.table.findTarget worldId = some (a, obj) := by
  have hsorted := h.sorted
  rw [hwaiting] at hsorted
  obtain ⟨obj, hobj, htarget, -⟩ := h.waiting a (by rw [hwaiting]; exact List.mem_cons_self)
  cases hfind : t.table.findTarget worldId with
  | none => exact absurd htarget (TeleportTable.findTarget_eq_none.1 hfind a obj hobj)
  | some e =>
    obtain ⟨k, v⟩ := e
    obtain ⟨hk, hv, -⟩ := TeleportTable.findTarget_some hfind
    have hmem := h.target k v hk hv
    rw [hwaiting] at hmem
    rcases List.mem_cons.1 hmem with rfl | hlater
    · exact ⟨v, rfl⟩
    · have hbefore : a < k := (List.pairwise_cons.1 hsorted).1 k hlater
      rcases OrdMap.findIf_first hfind hobj (decide_eq_true htarget) with rfl | hlt
      · exact absurd hbefore (UInt64.lt_irrefl _)
      · exact absurd (UInt64.lt_trans hbefore (Std.compare_eq_lt.1 hlt)) (UInt64.lt_irrefl _)

/-- **`Check` lets the first one leave**, if it can; and it is about the first one, if that can leave. -/
theorem QueuedAs.check (h : QueuedAs worldId u s) {obj : TeleportObject}
    (hobj : u.table.objects[obj.playerSn]? = some obj) (hmem : obj.playerSn ∈ s.waiting)
    (hheld : (w.players.getPlayerBySn obj.playerSn).isSome = true)
    (hteam : w.teamMap obj.playerSn ≠ some none)
    (hfirst : ∀ a rest b, s.waiting = a :: rest → s.held = some b → validWorld b = true → a ∈ s.ready →
      a = obj.playerSn) :
    ∃ t, (teleportCheck w obj u).map Prod.snd = some t ∧
      QueuedAs worldId t (HeadQueue.settle validWorld s) := by
  obtain ⟨hgoes, hstays⟩ := teleportCheck_goes hheld hteam u
  obtain ⟨found, hfound, -, hready, hworld⟩ := h.waiting _ hmem
  obtain rfl : obj = found := Option.some.inj (hobj.symm.trans hfound)
  by_cases hgo : obj.Goes
  · obtain ⟨worldSn, t, hw, hcheck, htable, hteleports⟩ := hgoes hgo
    obtain ⟨hsync, b, hb, hvalid⟩ := hgo
    rw [hworld] at hw hb
    -- only the first one has a world
    have hhead : s.waiting.head? = some obj.playerSn := by
      by_contra hnot
      rw [if_neg hnot] at hw
      cases hw
    rw [if_pos hhead] at hw hb
    obtain rfl : b = worldSn := Option.some.inj (hb.symm.trans hw)
    obtain ⟨rest, hwaiting⟩ : ∃ rest, s.waiting = obj.playerSn :: rest := by
      cases hcons : s.waiting with
      | nil =>
        rw [hcons] at hhead
        cases hhead
      | cons a rest =>
        rw [hcons] at hhead
        exact ⟨rest, by rw [Option.some.inj hhead]⟩
    have hsettle : HeadQueue.settle validWorld s =
        ⟨rest, none, s.ready, s.served ++ [(obj.playerSn, b)]⟩ := by
      unfold HeadQueue.settle
      rw [hwaiting, hw]
      exact if_pos ⟨hready.1 hsync, decide_eq_true hvalid⟩
    have hsorted := h.sorted
    rw [hwaiting] at hsorted
    obtain ⟨hlater, hrest⟩ := List.pairwise_cons.1 hsorted
    rw [hsettle]
    refine ⟨t, hcheck, hrest, fun sn hsn => ?_, fun sn o ho htarget => ?_, fun p hp => ?_, ?_⟩
    · have hne : obj.playerSn ≠ sn := fun heq => absurd (hlater sn hsn) (heq ▸ UInt64.lt_irrefl _)
      obtain ⟨o, ho, htarget, hsynced, hown⟩ := h.waiting sn (by rw [hwaiting]; exact List.mem_cons_of_mem _ hsn)
      rw [htable, TeleportTable.getElem?_erase, if_neg hne]
      rw [hwaiting, List.head?_cons, if_neg fun heq => hne (Option.some.inj heq)] at hown
      exact ⟨o, ho, htarget, hsynced, by rw [hown, ite_self]⟩
    · rw [htable] at ho
      obtain ⟨hne, hold⟩ := OrdMap.of_getElem?_erase ho
      have hin := h.target sn o hold htarget
      rw [hwaiting] at hin
      exact (List.mem_cons.1 hin).resolve_left fun heq => hne heq.symm
    · rw [htable, TeleportTable.getElem?_erase]
      split
      · rfl
      · rename_i hne
        rcases List.mem_append.1 hp with hold | hnew
        · exact h.served p hold
        · rw [List.mem_singleton.1 hnew] at hne
          exact absurd rfl hne
    · rw [hteleports, h.teleports]
  · refine ⟨u, hstays hgo, ?_⟩
    -- no one can leave: it would be this one
    have hsettle : HeadQueue.settle validWorld s = s := by
      unfold HeadQueue.settle
      split
      · rename_i a rest b hwaiting hb
        refine if_neg fun hleaves => hgo ?_
        obtain rfl := hfirst a rest b hwaiting hb hleaves.2 hleaves.1
        refine ⟨hready.2 hleaves.1, b, ?_, of_decide_eq_true hleaves.2⟩
        rw [hworld, hwaiting, List.head?_cons, if_pos rfl, hb]
      · rfl
    rw [hsettle]
    exact h

/-- The object of someone who waits is written: what the others have stays as it is. -/
theorem QueuedAs.insert (h : QueuedAs worldId t s) {obj : TeleportObject} (hmem : obj.playerSn ∈ s.waiting)
    (htarget : obj.targetWorldId = worldId) {held : Option UInt64} {ready : List UInt64}
    (hsync : obj.flagPlayerSync.isCompleted = true ↔ obj.playerSn ∈ ready)
    (hworld : obj.world = if s.waiting.head? = some obj.playerSn then held else none)
    (hothers : ∀ sn ∈ s.waiting, sn ≠ obj.playerSn →
      (sn ∈ ready ↔ sn ∈ s.ready) ∧ (s.waiting.head? = some sn → held = s.held))
    (teams : ℕ → GameTeam) :
    QueuedAs worldId ⟨t.table.insert obj, teams, t.sent⟩ ⟨s.waiting, held, ready, s.served⟩ := by
  refine ⟨h.sorted, fun sn hsn => ?_, fun sn o ho hto => ?_, fun p hp => ?_, h.teleports⟩
  · simp only [TeleportTable.getElem?_insert]
    by_cases heq : obj.playerSn = sn
    · subst heq
      exact ⟨obj, if_pos rfl, htarget, hsync, hworld⟩
    · obtain ⟨o, ho, hto, hready, hown⟩ := h.waiting sn hsn
      obtain ⟨hsame, hheld⟩ := hothers sn hsn fun hsym => heq hsym.symm
      refine ⟨o, by rw [if_neg heq]; exact ho, hto, hready.trans hsame.symm, ?_⟩
      rw [hown]
      by_cases hhead : s.waiting.head? = some sn
      · rw [if_pos hhead, if_pos hhead, hheld hhead]
      · rw [if_neg hhead, if_neg hhead]
  · simp only [TeleportTable.getElem?_insert] at ho
    by_cases heq : obj.playerSn = sn
    · exact heq ▸ hmem
    · rw [if_neg heq] at ho
      exact h.target sn o ho hto
  · simp only [TeleportTable.getElem?_insert]
    have hgone := h.served p hp
    by_cases heq : obj.playerSn = p.1
    · obtain ⟨o, ho, -⟩ := h.waiting _ hmem
      rw [heq, hgone] at ho
      cases ho
    · rw [if_neg heq]
      exact hgone

/-- **An announcement is an offer.** -/
theorem QueuedAs.createWorldProxy {worldType : ℤ → Option ResourceWorldType}
    (hdungeon : worldType worldId = some .dungeon) (h : QueuedAs worldId t s)
    (hheld : ∀ sn ∈ s.waiting, (w.players.getPlayerBySn sn).isSome = true)
    (hteam : ∀ sn ∈ s.waiting, w.teamMap sn ≠ some none) (worldSn : UInt64) :
    ∃ t', pairingStep worldType worldId t (.createWorldProxy w worldSn) = some t' ∧
      QueuedAs worldId t' (HeadQueue.step validWorld s (.offer worldSn)) := by
  simp only [pairingStep, handleBroadcastCreateWorldProxy, hdungeon]
  cases hwaiting : s.waiting with
  | nil =>
    rw [HeadQueue.step_offer_of_nil hwaiting]
    have hnone : t.table.findTarget worldId = none := by
      rw [TeleportTable.findTarget_eq_none]
      intro sn obj hobj htarget
      have hin := h.target sn obj hobj htarget
      rw [hwaiting] at hin
      cases hin
    refine ⟨t, ?_, h⟩
    unfold handleDungeon
    rw [hnone]
  | cons a rest =>
    have hne : s.waiting ≠ [] := by
      rw [hwaiting]
      exact List.cons_ne_nil a rest
    have hmem : a ∈ s.waiting := by
      rw [hwaiting]
      exact List.mem_cons_self
    obtain ⟨obj, hfind⟩ := h.findTarget hwaiting
    obtain ⟨hobj, htarget, hsn⟩ := TeleportTable.findTarget_some hfind
    obtain ⟨found, hfound, -, hready, -⟩ := h.waiting a hmem
    obtain rfl : obj = found := Option.some.inj (hobj.symm.trans hfound)
    rw [HeadQueue.step_offer hne]
    obtain ⟨teams, hdungeons⟩ := ((handleDungeon_some hfind worldSn).resolve_left
      fun hnull => hteam a hmem hnull.1).2
    rw [hdungeons]
    have hraised : (obj.setWorld worldSn).playerSn ∈ s.waiting := by
      rw [TeleportObject.setWorld_playerSn, hsn]
      exact hmem
    have hqueued : QueuedAs worldId ⟨t.table.insert (obj.setWorld worldSn), teams, t.sent⟩
        ⟨s.waiting, some worldSn, s.ready, s.served⟩ := by
      refine h.insert hraised htarget ?_ ?_ (fun sn _ hother => ⟨Iff.rfl, fun hhead => ?_⟩) teams
      · rw [TeleportObject.setWorld_playerSn, hsn]
        exact hready
      · rw [TeleportObject.setWorld_playerSn, hsn, hwaiting, List.head?_cons, if_pos rfl]
        rfl
      · rw [hwaiting, List.head?_cons, Option.some.injEq] at hhead
        rw [TeleportObject.setWorld_playerSn, hsn] at hother
        exact absurd hhead.symm hother
    refine hqueued.check ((TeleportTable.getElem?_insert ..).trans (if_pos rfl)) hraised ?_ ?_
      fun b r c hb _ _ _ => ?_
    · rw [TeleportObject.setWorld_playerSn, hsn]
      exact hheld a hmem
    · rw [TeleportObject.setWorld_playerSn, hsn]
      exact hteam a hmem
    · rw [TeleportObject.setWorld_playerSn, hsn]
      exact (List.cons.inj (hb.symm.trans hwaiting)).1

/-- **The data of a player makes it ready.** -/
theorem QueuedAs.syncPlayer {xs : List UInt64} {es : List (HeadQueue.Event UInt64 UInt64)} (h : QueuedAs worldId t s)
    (hinv : HeadQueue.Inv validWorld xs es s)
    (hheld : ∀ sn ∈ s.waiting, (w.players.getPlayerBySn sn).isSome = true)
    (hteam : ∀ sn ∈ s.waiting, w.teamMap sn ≠ some none) {playerSn : UInt64} (hplayer : playerSn ∈ xs) :
    ∃ t', broadcastSyncPlayer w playerSn t = some t' ∧
      QueuedAs worldId t' (HeadQueue.step validWorld s (.ready playerSn)) := by
  -- the first one could leave only if its own data has come
  have hfirst : ∀ a rest b, s.waiting = a :: rest → s.held = some b → validWorld b = true →
      a ∈ s.ready ++ [playerSn] → a = playerSn := by
    intro a rest b hwaiting hb hvalid hready
    rcases List.mem_append.1 hready with hold | hnew
    · exact absurd hold (hinv.unsettled a rest b hwaiting hb hvalid)
    · exact List.mem_singleton.1 hnew
  simp only [broadcastSyncPlayer, HeadQueue.step]
  by_cases hmem : playerSn ∈ s.waiting
  · obtain ⟨obj, hobj, htarget, -, hworld⟩ := h.waiting playerSn hmem
    have hsn : obj.playerSn = playerSn := t.table.playerSn_eq playerSn obj hobj
    have hfind : OrdMap.findIf t.table.objects (fun _ obj => decide (obj.playerSn = playerSn)) =
        some (playerSn, obj) := by
      cases hfound : OrdMap.findIf t.table.objects fun _ obj => decide (obj.playerSn = playerSn) with
      | none => exact absurd (decide_eq_true hsn) (by rw [OrdMap.findIf_eq_none.1 hfound _ _ hobj]; simp)
      | some e =>
        obtain ⟨k, v⟩ := e
        obtain ⟨hk, hv⟩ := OrdMap.findIf_some hfound
        obtain rfl : k = playerSn := (t.table.playerSn_eq k v hk).symm.trans (of_decide_eq_true hv)
        rw [Option.some.inj (hk.symm.trans hobj)]
    rw [hfind]
    have hraised : obj.setSync.playerSn ∈ s.waiting := hsn ▸ hmem
    have hqueued : QueuedAs worldId ⟨t.table.insert obj.setSync, t.teams, t.sent⟩
        ⟨s.waiting, s.held, s.ready ++ [playerSn], s.served⟩ := by
      refine h.insert hraised htarget ?_ (hsn ▸ hworld)
        (fun sn _ hother => ⟨?_, fun _ => rfl⟩) t.teams
      · exact iff_of_true rfl (List.mem_append_right _ (List.mem_singleton.2 hsn))
      · have hne : sn ≠ playerSn := fun heq => hother (heq.trans hsn.symm)
        simp [hne]
    refine hqueued.check ((TeleportTable.getElem?_insert ..).trans (if_pos rfl)) hraised
      (hsn ▸ hheld _ hmem) (hsn ▸ hteam _ hmem) fun a rest b hwaiting hb hvalid hready => ?_
    exact (hfirst a rest b hwaiting hb hvalid hready).trans hsn.symm
  · -- the player was served, and is gone
    have hserved : playerSn ∈ s.served.map Prod.fst := by
      rw [← hinv.queue] at hplayer
      exact (List.mem_append.1 hplayer).resolve_right hmem
    obtain ⟨p, hp, rfl⟩ := List.mem_map.1 hserved
    have hgone := h.served p hp
    have hfind : OrdMap.findIf t.table.objects (fun _ obj => decide (obj.playerSn = p.1)) = none := by
      rw [OrdMap.findIf_eq_none]
      intro k v hk
      refine decide_eq_false fun heq => ?_
      rw [← heq, t.table.playerSn_eq k v hk, hk] at hgone
      cases hgone
    rw [hfind]
    have hsettle : HeadQueue.settle validWorld { s with ready := s.ready ++ [p.1] } =
        { s with ready := s.ready ++ [p.1] } := by
      unfold HeadQueue.settle
      split
      · rename_i a rest b hwaiting hb
        refine if_neg fun hleaves => hmem ?_
        rw [← hfirst a rest b hwaiting hb hleaves.2 hleaves.1, show s.waiting = a :: rest from hwaiting]
        exact List.mem_cons_self
      · rfl
    rw [hsettle]
    refine ⟨t, rfl, h.sorted, fun sn hsn => ?_, h.target, h.served, h.teleports⟩
    obtain ⟨obj, hobj, htarget, hready, hworld⟩ := h.waiting sn hsn
    have hne : sn ≠ p.1 := fun heq => hmem (heq ▸ hsn)
    refine ⟨obj, hobj, htarget, hready.trans ?_, hworld⟩
    simp [hne]

end

/-! ### When everyone gets a dungeon -/

section

variable {worldType : ℤ → Option ResourceWorldType} {worldId : ℤ}
  {teamMap : UInt64 → Option (Option ℕ)} {s : TeleportState} {es : List PairingEvent}

theorem runPairing_append (s : TeleportState) (es : List PairingEvent) (e : PairingEvent) :
    runPairing worldType worldId s (es ++ [e]) =
      (runPairing worldType worldId s es).bind fun t => pairingStep worldType worldId t e := by
  unfold runPairing
  rw [List.foldlM_append]
  refine congrArg _ (funext fun t => ?_)
  simp

/-- At the start, everyone who waits is in the queue. -/
theorem Pairing.queuedAs (h : Pairing worldType worldId teamMap s es) :
    QueuedAs worldId s (HeadQueue.start (s.table.waitingFor worldId)) where
  sorted := s.table.pairwise_waitingFor worldId
  waiting := by
    intro sn hsn
    obtain ⟨obj, hobj, htarget⟩ := TeleportTable.mem_waitingFor.1 hsn
    obtain ⟨hworld, hsync⟩ := h.waiting sn obj hobj htarget
    refine ⟨obj, hobj, htarget, iff_of_false ?_ (by simp [HeadQueue.start]), ?_⟩
    · rw [hsync]
      exact Bool.false_ne_true
    · rw [hworld]
      exact (ite_self _).symm
  target := fun sn obj hobj htarget => TeleportTable.mem_waitingFor.2 ⟨obj, hobj, htarget⟩
  served := by
    intro p hp
    cases hp
  teleports := by
    unfold TeleportState.teleports
    rw [h.sent]
    rfl

/-- **The handlers simulate the queue.** -/
theorem Pairing.run (h : Pairing worldType worldId teamMap s es)
    (hteam : ∀ sn ∈ s.table.waitingFor worldId, teamMap sn ≠ some none) :
    ∃ t, runPairing worldType worldId s es = some t ∧ QueuedAs worldId t
      (HeadQueue.run validWorld (HeadQueue.start (s.table.waitingFor worldId))
        (es.map PairingEvent.toQueue)) := by
  -- the events so far are the first of all events
  suffices hfirst : ∀ es' rest : List PairingEvent, es = es' ++ rest →
      ∃ t, runPairing worldType worldId s es' = some t ∧ QueuedAs worldId t
        (HeadQueue.run validWorld (HeadQueue.start (s.table.waitingFor worldId))
          (es'.map PairingEvent.toQueue)) from hfirst es [] (List.append_nil es).symm
  intro es'
  induction es' using List.reverseRecOn with
  | nil => exact fun _ _ => ⟨s, rfl, h.queuedAs⟩
  | append_singleton es' e ih =>
    intro rest hes
    rw [List.append_assoc, List.singleton_append] at hes
    obtain ⟨t, ht, hqueued⟩ := ih (e :: rest) hes
    have he : e ∈ es := hes ▸ List.mem_append_right _ List.mem_cons_self
    have hinv : HeadQueue.Inv validWorld (s.table.waitingFor worldId) (es'.map PairingEvent.toQueue) _ :=
      HeadQueue.Inv.run (s.table.waitingFor worldId) (es'.map PairingEvent.toQueue)
    have hwaiting : ∀ sn ∈ (HeadQueue.run validWorld (HeadQueue.start (s.table.waitingFor worldId))
        (es'.map PairingEvent.toQueue)).waiting, sn ∈ s.table.waitingFor worldId := by
      intro sn hsn
      rw [← hinv.queue]
      exact List.mem_append_right _ hsn
    have hheld : ∀ sn ∈ (HeadQueue.run validWorld (HeadQueue.start (s.table.waitingFor worldId))
        (es'.map PairingEvent.toQueue)).waiting, (e.context.players.getPlayerBySn sn).isSome = true := by
      intro sn hsn
      obtain ⟨obj, hobj, htarget, -⟩ := hqueued.waiting sn hsn
      exact h.held es' e rest t hes ht sn (TeleportTable.mem_waitingFor.2 ⟨obj, hobj, htarget⟩)
    have hteams := fun sn hsn => h.teamMap e he ▸ hteam sn (hwaiting sn hsn)
    rw [runPairing_append, ht, List.map_append, List.map_singleton, HeadQueue.run_append_singleton]
    cases e with
    | createWorldProxy w worldSn => exact hqueued.createWorldProxy h.dungeon hheld hteams worldSn
    | syncPlayer w playerSn =>
      refine hqueued.syncPlayer hinv hheld hteams (h.syncs.mem_iff.1 ?_)
      exact List.mem_filterMap.2 ⟨_, List.mem_map.2 ⟨_, he, rfl⟩, rfl⟩

/-- **A null pointer for a team**: whoever has one is never teleported. -/
theorem Pairing.stays (h : Pairing worldType worldId teamMap s es) {x : UInt64}
    (hx : x ∈ s.table.waitingFor worldId) (hnull : teamMap x = some none) {t : TeleportState}
    (ht : runPairing worldType worldId s es = some t) : x ∈ t.table.waitingFor worldId := by
  suffices hprefix : ∀ (es' : List PairingEvent) (t : TeleportState), (∀ e ∈ es', e ∈ es) →
      runPairing worldType worldId s es' = some t → ∃ obj, t.table.objects[x]? = some obj ∧
        obj.targetWorldId = worldId ∧ obj.world = none by
    obtain ⟨obj, hobj, htarget, -⟩ := hprefix es t (fun _ he => he) ht
    exact TeleportTable.mem_waitingFor.2 ⟨obj, hobj, htarget⟩
  intro es'
  induction es' using List.reverseRecOn with
  | nil =>
    intro t _ ht
    obtain rfl := Option.some.inj ht
    obtain ⟨obj, hobj, htarget⟩ := TeleportTable.mem_waitingFor.1 hx
    exact ⟨obj, hobj, htarget, (h.waiting x obj hobj htarget).1⟩
  | append_singleton es' e ih =>
    intro t hmem ht
    rw [runPairing_append] at ht
    obtain ⟨u, hu, hstep⟩ := Option.bind_eq_some_iff.1 ht
    have hwaits := ih u (fun e' he' => hmem e' (List.mem_append_left _ he')) hu
    have hcontext := h.teamMap e (hmem e (List.mem_append_right _ List.mem_cons_self))
    obtain ⟨o, ho, htarget, hworld⟩ := hwaits
    cases e with
    | createWorldProxy w worldSn =>
      simp only [pairingStep, handleBroadcastCreateWorldProxy, h.dungeon] at hstep
      cases hfind : u.table.findTarget worldId with
      | none =>
        unfold handleDungeon at hstep
        rw [hfind] at hstep
        obtain rfl := Option.some.inj hstep
        exact ⟨o, ho, htarget, hworld⟩
      | some entry =>
        obtain ⟨sn, obj⟩ := entry
        obtain ⟨-, -, hsn⟩ := TeleportTable.findTarget_some hfind
        rcases handleDungeon_some hfind worldSn with ⟨-, hcrash⟩ | ⟨hentry, teams, hdungeons⟩
        · rw [hcrash] at hstep
          cases hstep
        · rw [hdungeons] at hstep
          obtain ⟨o', ho', htarget', hworld'⟩ := stays_of_check ho hworld (fun heq => by
            -- the null pointer would have been read
            rw [TeleportObject.setWorld_playerSn, hsn] at heq
            rw [heq, show w.teamMap = teamMap from hcontext] at hentry
            exact absurd hnull hentry) hstep
          exact ⟨o', ho', htarget'.trans htarget, hworld'⟩
    | syncPlayer w playerSn =>
      simp only [pairingStep, broadcastSyncPlayer] at hstep
      cases hfind : OrdMap.findIf u.table.objects fun _ obj => decide (obj.playerSn = playerSn) with
      | none =>
        rw [hfind] at hstep
        obtain rfl := Option.some.inj hstep
        exact ⟨o, ho, htarget, hworld⟩
      | some entry =>
        obtain ⟨k, obj⟩ := entry
        rw [hfind] at hstep
        obtain ⟨hk, -⟩ := OrdMap.findIf_some hfind
        obtain ⟨o', ho', htarget', hworld'⟩ := stays_of_check ho hworld (fun heq => by
          -- it is the same object, with its other flag
          have hkx : k = x := (u.table.playerSn_eq k obj hk).symm.trans heq
          rw [hkx, ho] at hk
          obtain rfl := Option.some.inj hk
          exact ⟨rfl, hworld⟩) hstep
        exact ⟨o', ho', htarget'.trans htarget, hworld'⟩

/-- **When everyone gets a dungeon.**  No serial number of a dungeon is zero, no one has a null pointer for a team,
and whenever a dungeon is announced, the data of as many players as dungeons were announced before has come, from
the front of the table. -/
theorem paired_iff (h : Pairing worldType worldId teamMap s es) :
    Paired worldType worldId s es ↔ (∀ sn ∈ s.table.waitingFor worldId, teamMap sn ≠ some none) ∧
      HeadQueue.InTurn validWorld (s.table.waitingFor worldId) (es.map PairingEvent.toQueue) := by
  have hready : ∀ x ∈ s.table.waitingFor worldId,
      x ∈ HeadQueue.readies (es.map PairingEvent.toQueue) := fun x hx => h.syncs.mem_iff.2 hx
  have hqueue : HeadQueue.InTurn validWorld (s.table.waitingFor worldId) (es.map PairingEvent.toQueue) ↔ _ :=
    (HeadQueue.waiting_eq_nil_iff h.length_worlds hready).symm
  rw [hqueue]
  constructor
  · rintro ⟨t, ht, hnone, -⟩
    have hteam : ∀ sn ∈ s.table.waitingFor worldId, teamMap sn ≠ some none := by
      intro sn hsn hnull
      have hstays := h.stays hsn hnull ht
      rw [hnone] at hstays
      cases hstays
    obtain ⟨t', ht', hqueued⟩ := h.run hteam
    obtain rfl : t = t' := Option.some.inj (ht.symm.trans ht')
    refine ⟨hteam, List.eq_nil_iff_forall_not_mem.2 fun sn hsn => ?_⟩
    obtain ⟨obj, hobj, htarget, -⟩ := hqueued.waiting sn hsn
    have hmem := TeleportTable.mem_waitingFor.2 ⟨obj, hobj, htarget⟩
    rw [hnone] at hmem
    cases hmem
  · rintro ⟨hteam, hnil⟩
    obtain ⟨t, ht, hqueued⟩ := h.run hteam
    refine ⟨t, ht, List.eq_nil_iff_forall_not_mem.2 fun sn hsn => ?_, ?_, ?_⟩
    · obtain ⟨obj, hobj, htarget⟩ := TeleportTable.mem_waitingFor.1 hsn
      have hin := hqueued.target sn obj hobj htarget
      rw [hnil] at hin
      cases hin
    · rw [hqueued.teleports, HeadQueue.served_of_waiting_nil hnil]
    · rw [hqueued.teleports]
      exact HeadQueue.nodup_served h.nodup_worlds

end

/-! ### Two players -/

/-- A proxy with two players, whose serial numbers are 1 and 2. -/
def TeleportContext.pair : TeleportContext where
  sn := 1
  players := (PlayerCollector.empty.insert
    { Player.awake ⟨⟨5, .tcpListen⟩, TagKey.clear⟩ [97] with playerSn := 1 }).insert
    { Player.awake ⟨⟨6, .tcpListen⟩, TagKey.clear⟩ [98] with playerSn := 2 }
  teamMap := fun _ => none
  isExistDungeon := fun _ => false
  allPlayers := PlayerCollector.empty

/-- Both wait for a dungeon of the world 3, and for their data. -/
def TeleportState.pair : TeleportState where
  table := (TeleportTable.empty.insert ⟨⟨.waiting, 0⟩, ⟨.waiting, false⟩, 3, 1⟩).insert
    ⟨⟨.waiting, 0⟩, ⟨.waiting, false⟩, 3, 2⟩
  teams := fun _ => ⟨0, 0, []⟩
  sent := []

theorem TeleportState.pair_waitingFor : TeleportState.pair.table.waitingFor 3 = [1, 2] := by decide

/-- No one else waits later. -/
theorem TeleportState.run_pair {es : List PairingEvent} {t : TeleportState}
    (ht : runPairing (fun _ => some .dungeon) 3 TeleportState.pair es = some t) {sn : UInt64}
    (hsn : sn ∈ t.table.waitingFor 3) : sn = 1 ∨ sn = 2 := by
  induction es using List.reverseRecOn generalizing t with
  | nil =>
    obtain rfl := Option.some.inj ht
    rw [TeleportState.pair_waitingFor] at hsn
    simpa using hsn
  | append_singleton es e ih =>
    rw [runPairing_append] at ht
    obtain ⟨u, hu, hstep⟩ := Option.bind_eq_some_iff.1 ht
    exact ih hu (waitingFor_of_step rfl hstep hsn)

theorem TeleportState.pair_objects {sn : UInt64} {obj : TeleportObject}
    (h : TeleportState.pair.table.objects[sn]? = some obj) :
    obj.world = none ∧ obj.flagPlayerSync.isCompleted = false := by
  unfold TeleportState.pair at h
  rw [TeleportTable.getElem?_insert] at h
  split at h
  · rw [← Option.some.inj h]
    exact ⟨rfl, rfl⟩
  · rw [TeleportTable.getElem?_insert] at h
    split at h
    · rw [← Option.some.inj h]
      exact ⟨rfl, rfl⟩
    · have hempty : TeleportTable.empty.objects[sn]? = none := ExtTreeMap.getElem?_empty
      rw [hempty] at h
      cases h

/-- Two dungeons are announced, and the data of both comes, in some order. -/
theorem TeleportState.pairing_pair {es : List PairingEvent}
    (hcontext : ∀ e ∈ es, e.context = TeleportContext.pair)
    (hworlds : HeadQueue.offers (es.map PairingEvent.toQueue) = [5, 6])
    (hsyncs : HeadQueue.readies (es.map PairingEvent.toQueue) = [1, 2]) :
    Pairing (fun _ => some .dungeon) 3 (fun _ => none) TeleportState.pair es where
  dungeon := rfl
  waiting := fun _ _ hobj _ => TeleportState.pair_objects hobj
  sent := rfl
  held := by
    intro before e rest t hes ht sn hsn
    rw [hcontext e (hes ▸ List.mem_append_right _ List.mem_cons_self)]
    rcases TeleportState.run_pair ht hsn with rfl | rfl
    · decide
    · decide
  teamMap := by
    intro e he
    rw [hcontext e he]
    rfl
  length_worlds := by
    rw [hworlds, TeleportState.pair_waitingFor]
    rfl
  nodup_worlds := by
    rw [hworlds]
    decide
  syncs := by
    rw [hsyncs, TeleportState.pair_waitingFor]

/-- The data of the first one comes before the second dungeon is announced: everyone is teleported. -/
theorem paired_in_turn :
    Paired (fun _ => some .dungeon) 3 TeleportState.pair
      [.createWorldProxy .pair 5, .syncPlayer .pair 1, .createWorldProxy .pair 6, .syncPlayer .pair 2] := by
  refine (paired_iff (TeleportState.pairing_pair ?_ rfl rfl)).2 ⟨fun _ _ hnull => ?_, ?_⟩
  · simp [PairingEvent.context]
  · cases hnull
  · rw [TeleportState.pair_waitingFor]
    exact HeadQueue.inTurn_of_matched (by decide)

/-- **Both dungeons are announced first**: the second one replaces the first one, and the second player is left
for ever. -/
theorem not_paired_announced_first :
    ¬ ∀ (worldType : ℤ → Option ResourceWorldType) (worldId : ℤ) (teamMap : UInt64 → Option (Option ℕ))
      (s : TeleportState) (es : List PairingEvent),
        Pairing worldType worldId teamMap s es → Paired worldType worldId s es := by
  intro hall
  obtain ⟨t, ht, hnone, -⟩ := hall (fun _ => some .dungeon) 3 (fun _ => none) TeleportState.pair
    [.createWorldProxy .pair 5, .createWorldProxy .pair 6, .syncPlayer .pair 1, .syncPlayer .pair 2]
    (TeleportState.pairing_pair (by simp [PairingEvent.context]) rfl rfl)
  have hrun : (runPairing (fun _ => some .dungeon) 3 TeleportState.pair
      [.createWorldProxy .pair 5, .createWorldProxy .pair 6, .syncPlayer .pair 1, .syncPlayer .pair 2]).map
        (fun t => t.table.waitingFor 3) = some [2] := by decide
  rw [ht, Option.map_some, hnone] at hrun
  cases hrun

end MmoServer
