/-
**Players that wait for a teleport.**

A proxy of a world keeps a table of the players that are leaving it.  Such a player waits for two
things: the proxy of the target world, and its own data from the real world.  Each of them raises
one flag, and when both are raised the player is teleported and leaves the table.  When a proxy of
a public world is announced, a loop handles one waiting player after the other, until a search of
the table finds no more players for that world.

Main definitions:

* `MmoServer.TeleportObject`, `MmoServer.TeleportTable` — a waiting player, and the table, with the
  invariant that a player stands under its own serial number;
* `MmoServer.teleportCheck` — `WorldComponentTeleport::Check`;
* `MmoServer.handlePublic`, `MmoServer.handleBroadcastCreateWorldProxy` — the loop, and the handler;
* `MmoServer.Ready` — what makes `Check` remove a waiting player.

Main results:

* `MmoServer.step_public` — one round of the loop removes a waiting player if it is ready, and
  leaves all players in the table otherwise;
* `MmoServer.handlePublic_of_ready`, `MmoServer.handlePublic_of_not_ready` — termination and
  divergence of the loop;
* `MmoServer.handleBroadcast_iff` — **the loop does what it should exactly if all are ready**.
-/

import MmoServer.Loop
import MmoServer.PlayerCollector

set_option relaxedAutoImplicit false
set_option autoImplicit false

namespace MmoServer

open Std

/-! ### The table -/

/-- `TeleportFlagType`. -/
inductive TeleportFlagType
  | none | waiting | completed
  deriving DecidableEq

/-- `TeleportFlag`. -/
structure TeleportFlag (α : Type) where
  flag : TeleportFlagType
  value : α
  deriving DecidableEq

/-- `SetValue`. -/
def TeleportFlag.setValue {α : Type} (value : α) : TeleportFlag α := ⟨.completed, value⟩

/-- `IsCompleted`. -/
def TeleportFlag.isCompleted {α : Type} (f : TeleportFlag α) : Bool := f.flag = .completed

/-- `TeleportObject`: a player that waits. -/
structure TeleportObject where
  flagWorld : TeleportFlag UInt64
  flagPlayerSync : TeleportFlag Bool
  targetWorldId : ℤ
  playerSn : UInt64
  deriving DecidableEq

/-- `FlagWorld.SetValue`. -/
def TeleportObject.setWorld (worldSn : UInt64) (obj : TeleportObject) : TeleportObject :=
  { obj with flagWorld := TeleportFlag.setValue worldSn }

@[simp]
theorem TeleportObject.setWorld_playerSn (worldSn : UInt64) (obj : TeleportObject) :
    (obj.setWorld worldSn).playerSn = obj.playerSn := rfl

/-- `_objects`: the players that wait, under their serial numbers. -/
structure TeleportTable where
  objects : ExtTreeMap UInt64 TeleportObject compare
  playerSn_eq : ∀ (sn : UInt64) (obj : TeleportObject), objects[sn]? = some obj → obj.playerSn = sn

namespace TeleportTable

/-- The table of a new proxy. -/
def empty : TeleportTable := ⟨∅, by simp⟩

/-- Put a waiting player under its serial number. -/
def insert (t : TeleportTable) (obj : TeleportObject) : TeleportTable where
  objects := t.objects.insert obj.playerSn obj
  playerSn_eq := by
    intro sn o ho
    rw [OrdMap.getElem?_insert] at ho
    by_cases h : obj.playerSn = sn
    · rw [if_pos h] at ho
      rw [← Option.some.inj ho, h]
    · rw [if_neg h] at ho
      exact t.playerSn_eq sn o ho

/-- Remove a waiting player. -/
def erase (t : TeleportTable) (playerSn : UInt64) : TeleportTable where
  objects := t.objects.erase playerSn
  playerSn_eq := by
    intro sn o ho
    rw [OrdMap.getElem?_erase] at ho
    by_cases h : playerSn = sn
    · rw [if_pos h] at ho
      cases ho
    · rw [if_neg h] at ho
      exact t.playerSn_eq sn o ho

/-- The first player that waits for a world, in the order of the serial numbers. -/
def findTarget (t : TeleportTable) (worldId : ℤ) : Option (UInt64 × TeleportObject) :=
  OrdMap.findIf t.objects fun _ obj => obj.targetWorldId = worldId

end TeleportTable

/-! ### The handler -/

/-- `ResourceWorldType`. -/
inductive ResourceWorldType
  | login | roles | publicWorld | dungeon
  deriving DecidableEq

/-- `GameTeam`, with what the handler reads and writes. -/
structure GameTeam where
  dungeonId : ℤ
  dungeonSn : UInt64
  members : List UInt64

/-- The proxy of a world, and what the handler reads elsewhere.  The teams are objects that their
members' entries in `teamMap` point to; an entry may be a null pointer, because reading the map
with `[]` makes one. -/
structure TeleportContext where
  sn : UInt64
  players : PlayerCollector
  teamMap : UInt64 → Option (Option ℕ)
  isExistDungeon : UInt64 → Bool
  allPlayers : PlayerCollector

/-- What the handler sends. -/
inductive TeleportMsg
  /-- `MI_Teleport`, with the socket of the player, to the proxy of the target world. -/
  | teleport (socketKey : SocketKey) (lastWorldSn : UInt64) (account : List UInt8)
      (playerSn targetWorldSn : UInt64)
  /-- `C2C_ReqEnterDungeon`, to the socket of a member, or to everyone if it has none. -/
  | reqEnterDungeon (socketKey : Option SocketKey) (worldId : ℤ) (worldSn : UInt64)
      (sender : List UInt8)

/-- What the handler changes. -/
structure TeleportState where
  table : TeleportTable
  teams : ℕ → GameTeam
  sent : List TeleportMsg

/-- `WorldProxyHelp::Teleport`. -/
def teleportMsg (player : Player) (lastWorldSn targetWorldSn : UInt64) : TeleportMsg :=
  .teleport player.socketKey lastWorldSn (cStr player.account) player.playerSn targetWorldSn

/-- The members of the team of a player are asked to follow it into its dungeon; nothing if the
pointer to the team is null. -/
def askMembers (w : TeleportContext) (teams : ℕ → GameTeam) (player : Player) (worldId : ℤ)
    (worldSn : UInt64) : Option (List TeleportMsg) :=
  match w.teamMap player.playerSn with
  | none => some []
  | some none => none
  | some (some team) =>
    if (teams team).dungeonId = worldId ∧ w.isExistDungeon worldSn = true then
      some (((teams team).members.filter (· ≠ player.playerSn)).map fun sn =>
        .reqEnterDungeon ((w.allPlayers.getPlayerBySn sn).map fun p => p.socketKey) worldId worldSn
          player.name)
    else some []

/-- `WorldComponentTeleport::Check`: the result, and the state; nothing if it reads through a null
pointer. -/
def teleportCheck (w : TeleportContext) (obj : TeleportObject) (s : TeleportState) :
    Option (Bool × TeleportState) :=
  if !obj.flagPlayerSync.isCompleted || !obj.flagWorld.isCompleted then some (false, s)
  else if obj.flagWorld.value = 0 then some (false, s)
  else
    match w.players.getPlayerBySn obj.playerSn with
    | none => none
    | some player =>
      (askMembers w s.teams player obj.targetWorldId obj.flagWorld.value).map fun asked =>
        (true,
          { s with
            table := s.table.erase player.playerSn
            sent := s.sent ++ [teleportMsg player w.sn obj.flagWorld.value] ++ asked })

/-- Raise the flag of the world, and check. -/
def arrive (w : TeleportContext) (worldSn : UInt64) (obj : TeleportObject) (s : TeleportState) :
    Option TeleportState :=
  (teleportCheck w (obj.setWorld worldSn)
    { s with table := s.table.insert (obj.setWorld worldSn) }).map Prod.snd

/-- The condition of the loop: the search finds a player. -/
def hasTarget (worldId : ℤ) (s : TeleportState) : Bool := (s.table.findTarget worldId).isSome

/-- The body of the loop. -/
def publicBody (w : TeleportContext) (worldId : ℤ) (worldSn : UInt64) (s : TeleportState) :
    Option TeleportState :=
  match s.table.findTarget worldId with
  | none => none
  | some (_, obj) => arrive w worldSn obj s

/-- The `do ... while (true)` loop for a public world, which the failing search leaves. -/
def handlePublic (fuel : ℕ) (w : TeleportContext) (worldId : ℤ) (worldSn : UInt64)
    (s : TeleportState) : Option TeleportState :=
  Loop.run (hasTarget worldId) (publicBody w worldId worldSn) fuel s

/-- The handling of a dungeon, for the first player that waits for it. -/
def handleDungeon (w : TeleportContext) (worldId : ℤ) (worldSn : UInt64) (s : TeleportState) :
    Option TeleportState :=
  match s.table.findTarget worldId with
  | none => some s
  | some (sn, obj) => do
    let teams ←
      match w.teamMap sn with
      | none => some s.teams
      | some none => none
      | some (some team) => some (Function.update s.teams team
          { s.teams team with dungeonSn := worldSn, dungeonId := worldId })
    arrive w worldSn obj { s with teams := teams }

/-- `WorldComponentTeleport::HandleBroadcastCreateWorldProxy`.  The type of a world is a resource;
an unknown world is a null pointer. -/
def handleBroadcastCreateWorldProxy (fuel : ℕ) (worldType : ℤ → Option ResourceWorldType)
    (w : TeleportContext) (worldId : ℤ) (worldSn : UInt64) (s : TeleportState) :
    Option TeleportState :=
  match worldType worldId with
  | none => none
  | some .publicWorld => handlePublic fuel w worldId worldSn s
  | some .dungeon => handleDungeon w worldId worldSn s
  | some .login | some .roles => some s

/-! ### What the handler should do -/

/-- The entry of a waiting player after the announcement of a world: its flag is raised if it waits
for that world, and it is gone if its data had arrived. -/
def announced (worldId : ℤ) (worldSn : UInt64) (obj : TeleportObject) : Option TeleportObject :=
  if obj.targetWorldId = worldId then
    if obj.flagPlayerSync.isCompleted then none
    else some (obj.setWorld worldSn)
  else some obj

/-- **The loop ends**, and every entry is as it should be. -/
def HandlesBroadcast (worldType : ℤ → Option ResourceWorldType) (w : TeleportContext) (worldId : ℤ)
    (worldSn : UInt64) (s : TeleportState) : Prop :=
  ∃ (fuel : ℕ) (t : TeleportState),
    handleBroadcastCreateWorldProxy fuel worldType w worldId worldSn s = some t ∧
    ∀ sn : UInt64, t.table.objects[sn]? = s.table.objects[sn]?.bind (announced worldId worldSn)

/-- What makes `Check` remove a player that waits for the announced world. -/
def Ready (w : TeleportContext) (worldSn : UInt64) (obj : TeleportObject) : Prop :=
  obj.flagPlayerSync.isCompleted = true ∧ worldSn ≠ 0 ∧
    (w.players.getPlayerBySn obj.playerSn).isSome = true ∧ w.teamMap obj.playerSn ≠ some none

/-! ### The table -/

namespace TeleportTable

theorem findTarget_some {t : TeleportTable} {worldId : ℤ} {sn : UInt64} {obj : TeleportObject}
    (h : t.findTarget worldId = some (sn, obj)) :
    t.objects[sn]? = some obj ∧ obj.targetWorldId = worldId ∧ obj.playerSn = sn := by
  obtain ⟨hmem, htarget⟩ := OrdMap.findIf_some h
  exact ⟨hmem, of_decide_eq_true htarget, t.playerSn_eq sn obj hmem⟩

theorem findTarget_eq_none {t : TeleportTable} {worldId : ℤ} :
    t.findTarget worldId = none ↔ ∀ (sn : UInt64) (obj : TeleportObject),
      t.objects[sn]? = some obj → obj.targetWorldId ≠ worldId := by
  unfold findTarget
  rw [OrdMap.findIf_eq_none]
  constructor
  · intro h sn obj hobj
    exact of_decide_eq_false (h sn obj hobj)
  · intro h sn obj hobj
    exact decide_eq_false (h sn obj hobj)

theorem getElem?_insert (t : TeleportTable) (obj : TeleportObject) (sn : UInt64) :
    (t.insert obj).objects[sn]? = if obj.playerSn = sn then some obj else t.objects[sn]? :=
  OrdMap.getElem?_insert _ _ _ _

theorem getElem?_erase (t : TeleportTable) (playerSn sn : UInt64) :
    (t.erase playerSn).objects[sn]? = if playerSn = sn then none else t.objects[sn]? :=
  OrdMap.getElem?_erase _ _ _

end TeleportTable

/-! ### One round -/

section

variable {w : TeleportContext} {worldId : ℤ} {worldSn : UInt64}

/-- The members are asked unless the pointer to the team is null. -/
theorem askMembers_isSome (teams : ℕ → GameTeam) (player : Player) :
    (askMembers w teams player worldId worldSn).isSome = true ↔
      w.teamMap player.playerSn ≠ some none := by
  unfold askMembers
  cases w.teamMap player.playerSn with
  | none => simp
  | some pointer =>
    cases pointer with
    | none => simp
    | some team =>
      simp only
      split <;> simp

/-- `Check`, when the flag of the world has just been raised. -/
theorem teleportCheck_setWorld (obj : TeleportObject) (s : TeleportState) :
    teleportCheck w (obj.setWorld worldSn) s =
      if obj.flagPlayerSync.isCompleted = false then some (false, s)
      else if worldSn = 0 then some (false, s)
      else
        match w.players.getPlayerBySn obj.playerSn with
        | none => none
        | some player =>
          (askMembers w s.teams player obj.targetWorldId worldSn).map fun asked =>
            (true,
              { s with
                table := s.table.erase player.playerSn
                sent := s.sent ++ [teleportMsg player w.sn worldSn] ++ asked }) := by
  have hworld : (obj.setWorld worldSn).flagWorld.isCompleted = true := rfl
  have hplayer : (obj.setWorld worldSn).flagPlayerSync = obj.flagPlayerSync := rfl
  unfold teleportCheck
  rw [hworld, hplayer]
  cases obj.flagPlayerSync.isCompleted with
  | false => rfl
  | true => rfl

/-- `Check` behind the flag of the world: it removes a ready player, and it does not remove another
one. -/
theorem teleportCheck_raised (obj : TeleportObject) (s : TeleportState) :
    (Ready w worldSn obj ∧ ∃ sent : List TeleportMsg, teleportCheck w (obj.setWorld worldSn) s =
        some (true, { s with table := s.table.erase obj.playerSn, sent := sent })) ∨
      (¬ Ready w worldSn obj ∧ (teleportCheck w (obj.setWorld worldSn) s = some (false, s) ∨
        teleportCheck w (obj.setWorld worldSn) s = none)) := by
  rw [teleportCheck_setWorld]
  cases hsync : obj.flagPlayerSync.isCompleted with
  | false =>
    refine Or.inr ⟨fun h => ?_, Or.inl (if_pos rfl)⟩
    have hcompleted := h.1
    rw [hsync] at hcompleted
    cases hcompleted
  | true =>
    rw [if_neg (fun h => Bool.false_ne_true h.symm)]
    by_cases hsn : worldSn = 0
    · exact Or.inr ⟨fun h => h.2.1 hsn, Or.inl (if_pos hsn)⟩
    rw [if_neg hsn]
    cases hplayer : w.players.getPlayerBySn obj.playerSn with
    | none =>
      refine Or.inr ⟨fun h => ?_, Or.inr rfl⟩
      have hheld := h.2.2.1
      rw [hplayer] at hheld
      cases hheld
    | some player =>
      obtain ⟨-, hplayerSn⟩ := PlayerCollector.getPlayerBySn_some hplayer
      have hask : (askMembers w s.teams player obj.targetWorldId worldSn).isSome = true ↔
          w.teamMap player.playerSn ≠ some none := askMembers_isSome s.teams player
      rw [hplayerSn] at hask
      cases hasked : askMembers w s.teams player obj.targetWorldId worldSn with
      | none =>
        rw [hasked] at hask
        refine Or.inr ⟨fun h => absurd (hask.2 h.2.2.2) Bool.false_ne_true, Or.inr ?_⟩
        simp only [hasked, Option.map_none]
      | some asked =>
        rw [hasked] at hask
        refine Or.inl ⟨⟨hsync, hsn, by rw [hplayer]; rfl, hask.1 rfl⟩,
          s.sent ++ [teleportMsg player w.sn worldSn] ++ asked, ?_⟩
        simp only [hasked, Option.map_some, hplayerSn]

/-- A ready player is teleported, and leaves the table. -/
theorem arrive_of_ready {obj : TeleportObject} (s : TeleportState) (h : Ready w worldSn obj) :
    ∃ t, arrive w worldSn obj s = some t ∧ ∀ sn, t.table.objects[sn]? =
      if obj.playerSn = sn then none else s.table.objects[sn]? := by
  unfold arrive
  rcases teleportCheck_raised obj { s with
    table := s.table.insert (obj.setWorld worldSn) } with
    ⟨-, sent, hcheck⟩ | ⟨hnot, -⟩
  · refine ⟨_, by rw [hcheck]; rfl, fun sn => ?_⟩
    simp only
    rw [TeleportTable.getElem?_erase, TeleportTable.getElem?_insert,
      TeleportObject.setWorld_playerSn]
    by_cases hsn : obj.playerSn = sn
    · rw [if_pos hsn, if_pos hsn]
    · rw [if_neg hsn, if_neg hsn, if_neg hsn]
  · exact absurd h hnot

/-- A player that is not ready stays in the table, or the handler reads through a null pointer. -/
theorem arrive_of_not_ready {obj : TeleportObject} {s t : TeleportState}
    (h : ¬ Ready w worldSn obj) (ht : arrive w worldSn obj s = some t) :
    t.table = s.table.insert (obj.setWorld worldSn) := by
  unfold arrive at ht
  rcases teleportCheck_raised obj { s with
    table := s.table.insert (obj.setWorld worldSn) } with
    ⟨hready, -⟩ | ⟨-, hkept | hnull⟩
  · exact absurd hready h
  · rw [hkept] at ht
    rw [← Option.some.inj ht]
  · rw [hnull] at ht
    cases ht

/-- **One round of the loop**: what the search finds waits for the world, and is removed if it is
ready, and kept otherwise. -/
theorem step_public {s t : TeleportState} (h : publicBody w worldId worldSn s = some t) :
    ∃ sn obj, s.table.objects[sn]? = some obj ∧ obj.targetWorldId = worldId ∧ obj.playerSn = sn ∧
      ((Ready w worldSn obj ∧ ∀ k, t.table.objects[k]? =
          if sn = k then none else s.table.objects[k]?) ∨
        (¬ Ready w worldSn obj ∧ ∀ k, t.table.objects[k]? =
          if sn = k then some (obj.setWorld worldSn)
          else s.table.objects[k]?)) := by
  unfold publicBody at h
  cases hf : s.table.findTarget worldId with
  | none => rw [hf] at h; cases h
  | some e =>
    obtain ⟨sn, obj⟩ := e
    rw [hf] at h
    obtain ⟨hmem, htarget, hsn⟩ := TeleportTable.findTarget_some hf
    refine ⟨sn, obj, hmem, htarget, hsn, ?_⟩
    by_cases hready : Ready w worldSn obj
    · obtain ⟨t', ht', htable⟩ := arrive_of_ready s hready
      obtain rfl : t' = t := Option.some.inj (ht'.symm.trans h)
      exact Or.inl ⟨hready, hsn ▸ htable⟩
    · refine Or.inr ⟨hready, fun k => ?_⟩
      rw [arrive_of_not_ready hready h, TeleportTable.getElem?_insert,
        TeleportObject.setWorld_playerSn, hsn]

/-! ### The loop -/

/-- **Divergence.**  A player that waits for the world and is not ready keeps the loop running. -/
theorem handlePublic_of_not_ready {s : TeleportState} {sn : UInt64} {obj : TeleportObject}
    (hobj : s.table.objects[sn]? = some obj) (htarget : obj.targetWorldId = worldId)
    (hready : ¬ Ready w worldSn obj) (fuel : ℕ) : handlePublic fuel w worldId worldSn s = none := by
  -- someone who is not ready waits for the world
  let inv : TeleportState → Prop := fun s => ∃ (sn : UInt64) (obj : TeleportObject),
    s.table.objects[sn]? = some obj ∧ obj.targetWorldId = worldId ∧ ¬ Ready w worldSn obj
  have hinv : inv s := ⟨sn, obj, hobj, htarget, hready⟩
  refine Loop.run_eq_none ?_ ?_ fuel hinv
  · rintro s ⟨sn, obj, hobj, htarget, -⟩
    rw [hasTarget, Option.isSome_iff_ne_none]
    intro hnone
    exact TeleportTable.findTarget_eq_none.1 hnone sn obj hobj htarget
  · rintro s t ⟨sn, obj, hobj, htarget, hready⟩ hbody
    obtain ⟨sn₁, obj₁, hobj₁, htarget₁, -, ⟨hready₁, htable⟩ | ⟨hready₁, htable⟩⟩ :=
      step_public hbody
    · -- another player was removed
      have hne : ¬ sn₁ = sn := by
        rintro rfl
        rw [hobj₁] at hobj
        exact hready (Option.some.inj hobj ▸ hready₁)
      exact ⟨sn, obj, by rw [htable, if_neg hne, hobj], htarget, hready⟩
    · -- the player that was found stays
      exact ⟨sn₁, obj₁.setWorld worldSn, by rw [htable, if_pos rfl], htarget₁, hready₁⟩

/-- **Termination.**  If everyone who waits for the world is ready, the loop removes them and
nothing else. -/
theorem handlePublic_of_ready {s : TeleportState}
    (hready : ∀ (sn : UInt64) (obj : TeleportObject), s.table.objects[sn]? = some obj →
      obj.targetWorldId = worldId → Ready w worldSn obj) :
    ∃ (fuel : ℕ) (t : TeleportState), handlePublic fuel w worldId worldSn s = some t ∧
      ∀ sn : UInt64, t.table.objects[sn]? = s.table.objects[sn]?.bind (announced worldId worldSn) := by
  -- what was removed so far waited for the world
  let inv : TeleportState → Prop := fun t => ∀ sn : UInt64,
    t.table.objects[sn]? = s.table.objects[sn]? ∨ (t.table.objects[sn]? = none ∧
      ∃ obj : TeleportObject, s.table.objects[sn]? = some obj ∧ obj.targetWorldId = worldId)
  have hbody : ∀ t, inv t → hasTarget worldId t = true → ∃ u,
      publicBody w worldId worldSn t = some u ∧ inv u ∧
        u.table.objects.size < t.table.objects.size := by
    intro t hinv hcond
    obtain ⟨⟨sn, obj⟩, hf⟩ := Option.isSome_iff_exists.1 hcond
    obtain ⟨hmem, htarget, hsn⟩ := TeleportTable.findTarget_some hf
    have hold : s.table.objects[sn]? = some obj := by
      rcases hinv sn with hsame | ⟨hnone, -⟩
      · rw [← hsame, hmem]
      · rw [hnone] at hmem
        cases hmem
    obtain ⟨u, hu, htable⟩ := arrive_of_ready t (hready sn obj hold htarget)
    rw [hsn] at htable
    have herase : u.table.objects = t.table.objects.erase sn :=
      ExtTreeMap.ext_getElem? fun k => by rw [htable, OrdMap.getElem?_erase]
    refine ⟨u, by rw [publicBody, hf]; exact hu, fun k => ?_, ?_⟩
    · rw [htable]
      by_cases hk : sn = k
      · rw [if_pos hk]
        exact Or.inr ⟨rfl, obj, hk ▸ hold, htarget⟩
      · rw [if_neg hk]
        exact hinv k
    · rw [herase]
      exact OrdMap.size_erase_lt hmem
  obtain ⟨t, hrun, hinv, hend⟩ := Loop.exists_run hbody (s := s) fun sn => Or.inl rfl
  refine ⟨_, t, hrun, fun sn => ?_⟩
  have hnone : t.table.findTarget worldId = none := by
    rw [← Option.not_isSome_iff_eq_none]
    exact Bool.eq_false_iff.1 hend
  cases hs : s.table.objects[sn]? with
  | none =>
    rcases hinv sn with hsame | ⟨-, obj, hobj, -⟩
    · rw [hsame, hs]
      rfl
    · rw [hs] at hobj
      cases hobj
  | some obj =>
    rw [Option.bind_some]
    by_cases htarget : obj.targetWorldId = worldId
    · rw [announced, if_pos htarget, if_pos (hready sn obj hs htarget).1]
      rcases hinv sn with hsame | ⟨hgone, -⟩
      · rw [hs] at hsame
        exact absurd htarget (TeleportTable.findTarget_eq_none.1 hnone sn obj hsame)
      · exact hgone
    · rw [announced, if_neg htarget]
      rcases hinv sn with hsame | ⟨-, obj', hobj', htarget'⟩
      · rw [hsame, hs]
      · rw [hs] at hobj'
        exact absurd (Option.some.inj hobj' ▸ htarget') htarget

/-! ### The handler -/

/-- The loop does not do what it should if someone is not ready. -/
theorem not_handlesBroadcast {worldType : ℤ → Option ResourceWorldType} {s : TeleportState}
    (hpublic : worldType worldId = some .publicWorld) {sn : UInt64} {obj : TeleportObject}
    (hobj : s.table.objects[sn]? = some obj) (htarget : obj.targetWorldId = worldId)
    (hready : ¬ Ready w worldSn obj) : ¬ HandlesBroadcast worldType w worldId worldSn s := by
  rintro ⟨fuel, t, hrun, -⟩
  unfold handleBroadcastCreateWorldProxy at hrun
  rw [hpublic] at hrun
  simp only at hrun
  rw [handlePublic_of_not_ready hobj htarget hready] at hrun
  cases hrun

/-- **The announcement of a public world is handled as it should be exactly if everyone who waits
for that world is ready.** -/
theorem handleBroadcast_iff {worldType : ℤ → Option ResourceWorldType} (s : TeleportState)
    (hpublic : worldType worldId = some .publicWorld) :
    HandlesBroadcast worldType w worldId worldSn s ↔
      ∀ (sn : UInt64) (obj : TeleportObject), s.table.objects[sn]? = some obj →
        obj.targetWorldId = worldId → Ready w worldSn obj := by
  constructor
  · intro h sn obj hobj htarget
    by_contra hready
    exact not_handlesBroadcast hpublic hobj htarget hready h
  · intro hready
    obtain ⟨fuel, t, hrun, htable⟩ := handlePublic_of_ready (s := s) hready
    refine ⟨fuel, t, ?_, htable⟩
    unfold handleBroadcastCreateWorldProxy
    rw [hpublic]
    exact hrun

end

/-- A proxy with one player, whose serial number is 7. -/
def TeleportContext.single : TeleportContext where
  sn := 1
  players := PlayerCollector.empty.insert
    { Player.awake ⟨⟨5, .tcpListen⟩, TagKey.clear⟩ [97] with playerSn := 7 }
  teamMap := fun _ => none
  isExistDungeon := fun _ => false
  allPlayers := PlayerCollector.empty

/-- The player waits for the world 3 and for its data, of which the latter may have arrived. -/
def TeleportState.single (flagPlayerSync : TeleportFlag Bool) : TeleportState where
  table := TeleportTable.empty.insert ⟨⟨.waiting, 0⟩, flagPlayerSync, 3, 7⟩
  teams := fun _ => ⟨0, 0, []⟩
  sent := []

theorem TeleportState.single_objects (flagPlayerSync : TeleportFlag Bool) (sn : UInt64) :
    (TeleportState.single flagPlayerSync).table.objects[sn]? =
      if 7 = sn then some ⟨⟨.waiting, 0⟩, flagPlayerSync, 3, 7⟩ else none := by
  have h := TeleportTable.getElem?_insert TeleportTable.empty
    ⟨⟨.waiting, 0⟩, flagPlayerSync, 3, 7⟩ sn
  have hempty : TeleportTable.empty.objects[sn]? = none := ExtTreeMap.getElem?_empty
  rwa [hempty] at h

/-- A proxy with the players 7 and 8. -/
def TeleportContext.both : TeleportContext where
  sn := 1
  players := (PlayerCollector.empty.insert
    { Player.awake ⟨⟨5, .tcpListen⟩, TagKey.clear⟩ [97] with playerSn := 7 }).insert
      { Player.awake ⟨⟨6, .tcpListen⟩, TagKey.clear⟩ [98] with playerSn := 8 }
  teamMap := fun _ => none
  isExistDungeon := fun _ => false
  allPlayers := PlayerCollector.empty

/-- Both wait for the world 3, and the data of both has arrived. -/
def TeleportState.both : TeleportState where
  table := (TeleportTable.empty.insert ⟨⟨.waiting, 0⟩, ⟨.completed, true⟩, 3, 7⟩).insert
    ⟨⟨.waiting, 0⟩, ⟨.completed, true⟩, 3, 8⟩
  teams := fun _ => ⟨0, 0, []⟩
  sent := []

/-- Both are teleported. -/
theorem handlesBroadcast_both :
    HandlesBroadcast (fun _ => some .publicWorld) TeleportContext.both 3 9 TeleportState.both := by
  refine (handleBroadcast_iff _ rfl).2 fun sn obj hobj _ => ?_
  have hempty : TeleportTable.empty.objects[sn]? = none := ExtTreeMap.getElem?_empty
  rw [TeleportState.both, TeleportTable.getElem?_insert, TeleportTable.getElem?_insert, hempty] at hobj
  split at hobj
  · obtain rfl := Option.some.inj hobj
    exact ⟨rfl, by decide +kernel, by decide +kernel, by decide +kernel⟩
  · split at hobj
    · obtain rfl := Option.some.inj hobj
      exact ⟨rfl, by decide +kernel, by decide +kernel, by decide +kernel⟩
    · cases hobj

/-- **A player whose data has not arrived** keeps the loop running, and the game thread with it. -/
theorem not_handlesBroadcast_waiting :
    ¬ ∀ (worldType : ℤ → Option ResourceWorldType) (w : TeleportContext) (worldId : ℤ)
      (worldSn : UInt64) (s : TeleportState), worldType worldId = some .publicWorld →
        HandlesBroadcast worldType w worldId worldSn s := by
  intro hall
  have hobj := TeleportState.single_objects ⟨.waiting, false⟩ 7
  rw [if_pos rfl] at hobj
  refine not_handlesBroadcast rfl hobj rfl (fun hready => ?_)
    (hall (fun _ => some .publicWorld) TeleportContext.single 3 9
      (TeleportState.single ⟨.waiting, false⟩) rfl)
  cases hready.1

end MmoServer
