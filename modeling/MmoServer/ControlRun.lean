/-
**Who moves an NPC.**

The player that an NPC has as its linker moves it.  A player that leaves is told that it is not the linker any more,
and the nearest one that it is; and the first one that asks what an NPC without a linker does becomes its linker.
When a game process disconnects, its players stay the linkers that they were; a player that enters may get the object
of such a one, and moves the NPC without being told.

Main definitions:

* `MmoServer.NpcWorld.notes`, `MmoServer.ControlRun` — what an event sends about an NPC, and the runs of a world with
  all that was sent;
* `MmoServer.NpcWorld.NpcMoves`, `MmoServer.NpcWorld.Steps` — what an event does to an NPC, and to the world;
* `MmoServer.NpcWorld.KeepsLinkers` — the steps that make nobody the linker unasked;
* `MmoServer.NpcWorld.Controlled` — what holds of an NPC and of all that was sent about it.

Main results:

* `MmoServer.NpcWorld.step_steps` — **one event**;
* `MmoServer.control_run` — **an NPC that lives is moved by one player** at most, while nobody gets the object of a
  linker, and the first one that does moves it untold;
* `MmoServer.hp_run` — **the hp are known** to everybody who has listened, up to the births.
-/

import MmoServer.NpcControl

set_option relaxedAutoImplicit false
set_option autoImplicit false

namespace MmoServer

open Transition

/-! ### What a world sends about its NPCs -/

/-- What `PlayerDisappear` sends about an NPC, in the world without the player: `SetLinkPlayer` tells it that it is
not the linker any more, and the nearest player is told that it is. -/
def NpcObject.disappearNotes {fl : NpcFloats} (left : NpcWorld fl) (player : PlayerRef) (o : NpcObject fl) :
    List NpcNote :=
  if o.npc.linker = some player then
    .reqLinkPlayer player false ::
      match left.getNearestPlayer o.npc.currPos with
      | none => []
      | some target => [.reqLinkPlayer target true]
  else []

namespace NpcWorld

variable {fl : NpcFloats} (algs : Heap.Algorithms BtEvent.less)

/-- What is sent about an NPC when a player leaves. -/
def disappearNotes (w : NpcWorld fl) (sn : UInt64) (i : ℕ) : List NpcNote :=
  match w.npcs[i]? with
  | none => []
  | some npc =>
    npc.object.disappearNotes { w with playerMgr := w.playerMgr.removePlayerBySn sn } (w.ref sn)

/-- What a message of a client sends about an NPC, but for the answers to one player. -/
def clientNotes (w : NpcWorld fl) (outside : Outside fl) (sn : UInt64) (msg : ClientMsg fl) (i : ℕ) : List NpcNote :=
  match msg with
  | .syncBtAction id =>
    match w.npcById id with
    | none => []
    | some npc =>
      if id.toNat = i ∧ npc.object.npc.linker = none then [.reqLinkPlayer (w.ref sn) true] else []
  | .playerAtkEvent targetSn =>
    if w.Held targetSn ∨ targetSn = 0 then []
    else
      match w.npcBySn targetSn with
      | none => []
      | some (j, npc, w) =>
        if j = i then
          [.syncNpcProps (npc.object.getDamage algs (w.ref sn) (w.bodies sn).detail.atk.toInt outside.rolls).1.npc.hp]
        else []
  | .playerMove _ _ | .npcMove _ _ _ | .syncNpcPos _ _ | .updateKnapItem _ | .updateKnapGold _ | .getPlayerKnap
  | .syncPlayerPos _ | .syncPlayerCmd _ _ _ | .reqSyncPlayer _ | .reqNpcInfo _ | .npcAtkEvent _ => []

/-- What an event sends about an NPC. -/
def notes (w : NpcWorld fl) (e : WorldEvent fl) (i : ℕ) : List NpcNote :=
  match e with
  | .networkDisconnect _ identify =>
    match (identify.tagKey.getTagValue .player).bind fun value => w.playerMgr.getPlayerBySn value.keyInt64 with
    | none => []
    | some player => w.disappearNotes player.playerSn i
  | .removePlayer _ identify playerSn =>
    match World.getPlayer w.playerMgr identify with
    | none => []
    | some player => if playerSn ≠ player.playerSn then [] else w.disappearNotes player.playerSn i
  | .client outside identify msg =>
    match World.getPlayer w.playerMgr identify with
    | none => []
    | some player => w.clientNotes algs outside player.playerSn msg i
  | .updateNpc j timeTick roll =>
    if j = i then
      match (w.npcs[i]?).bind fun npc => npc.object.update algs (w.surroundings timeTick roll) with
      | none => []
      | some (_, notes) => notes
    else []
  | .syncPlayer _ _ _ _ | .requestSyncPlayer _ _ | .syncAppear | .updateCmd _ _ | .moveNpc _ _ | .movePlayer _ _
  | .enterElsewhere => []

/-- The object of the pool that an entering player gets. -/
def takes (w : NpcWorld fl) : WorldEvent fl → Option PlayerRef
  | .syncPlayer _ proto _ object => if w.Held proto.playerSn then none else object
  | .networkDisconnect _ _ | .removePlayer _ _ _ | .requestSyncPlayer _ _ | .client _ _ _ | .syncAppear
  | .updateNpc _ _ _ | .updateCmd _ _ | .moveNpc _ _ | .movePlayer _ _ | .enterElsewhere => none

/-- **The steps that make nobody the linker unasked**: no entering player gets the object of one that has left and is
the linker of an NPC still. -/
def KeepsLinkers (w : NpcWorld fl) (e : WorldEvent fl) : Prop :=
  ∀ p ∈ w.takes e, ∀ npc ∈ w.npcs, npc.object.npc.linker ≠ some p

instance (w : NpcWorld fl) (e : WorldEvent fl) : Decidable (w.KeepsLinkers e) :=
  inferInstanceAs (Decidable (∀ p ∈ w.takes e, ∀ npc ∈ w.npcs, npc.object.npc.linker ≠ some p))

/-- The players of the world. -/
def refs (w : NpcWorld fl) : List PlayerRef := w.players.map fun player => w.ref player.playerSn

/-- A message leaves the tree of an NPC as it is, and tells of no behaviour. -/
structure Passed (w : NpcWorld fl) (o o' : NpcObject fl) (notes : List NpcNote) : Prop where
  root : o'.root = o.root
  curAct : o'.curAct = o.curAct
  initHp : o'.npc.initHp = o.npc.initHp
  passes : NpcEnv.Passes w.refs o.npc o'.npc notes
  silent : ∀ id code playerSn, .syncBtAction id code playerSn ∉ notes

/-- What an event does to an NPC, with what it sends about it: an entering player may get an object of the pool. -/
inductive NpcMoves (w t : NpcWorld fl) (object : Option PlayerRef) (o : NpcObject fl) :
    List NpcNote → NpcObject fl → Prop
  | updates {timeTick : UInt64} {roll : Fin 4} {notes : List NpcNote} {o' : NpcObject fl}
      (update : o.update algs (w.surroundings timeTick roll) = some (o', notes)) : NpcMoves w t object o notes o'
  | passes {notes : List NpcNote} {o' : NpcObject fl} (passed : w.Passed o o' notes) : NpcMoves w t object o notes o'
  | disappears {left : NpcWorld fl} {sn : UInt64} (held : w.Held sn) (gone : ¬ t.Holds (w.ref sn))
      (nearest : ∀ pos, ∀ p ∈ left.getNearestPlayer pos, w.Holds p) :
      NpcMoves w t object o (o.disappearNotes left (w.ref sn)) (o.playerDisappear algs left (w.ref sn))
  | renews {player : PlayerRef} : NpcMoves w t object o [] (o.renewed object player)

variable {algs} {w t u : NpcWorld fl}

/-- Nothing is sent. -/
theorem Passed.still {o o' : NpcObject fl} (root : o'.root = o.root) (curAct : o'.curAct = o.curAct)
    (initHp : o'.npc.initHp = o.npc.initHp) (linker : o'.npc.linker = o.npc.linker) (hp : o'.npc.hp = o.npc.hp) :
    w.Passed o o' [] :=
  ⟨root, curAct, initHp, .still linker hp, fun _ _ _ hmem => by cases hmem⟩

theorem mem_refs {p : PlayerRef} : p ∈ w.refs ↔ w.Holds p := by
  constructor
  · exact @holds_of_mem_surroundings fl w 0 Npc.firstPoint p
  · rintro ⟨hheld, hentry⟩
    obtain ⟨player, hplayer⟩ := Option.isSome_iff_exists.1 hheld
    have hsn := PlayerManager.getPlayerBySn_some hplayer
    refine List.mem_map.2 ⟨player, SpaceWorld.mem_players.2 (by rw [hsn]; exact hplayer), ?_⟩
    rw [hsn, ref, hentry]

/-! ### What becomes of the NPCs -/

/-- No player enters the worlds of the thread, and the NPCs stay as they are. -/
structure Apart (w t : NpcWorld fl) : Prop where
  entries : t.entries = w.entries
  npcs : t.npcs = w.npcs

theorem Apart.trans (h : w.Apart t) (h' : t.Apart u) : w.Apart u := ⟨h'.1.trans h.1, h'.2.trans h.2⟩

theorem changeCmd_apart {pools : Pools fl} {self : PlayerRef} {new : Option (CommandKind fl)}
    (h : w.changeCmd pools self new = some t) : w.Apart t := by
  obtain ⟨u, hu, ht⟩ := changeCmd_cases h
  obtain rfl | ⟨sn, move, rfl⟩ := hu
  · obtain rfl | rfl := ht
    · exact ⟨rfl, rfl⟩
    · exact ⟨rfl, rfl⟩
  · obtain rfl | rfl := ht
    · exact ⟨rfl, rfl⟩
    · exact ⟨rfl, rfl⟩

theorem npcBySn_apart {sn : UInt64} {i : ℕ} {npc : WorldNpc fl} (h : w.npcBySn sn = some (i, npc, t)) :
    w.Apart t := by
  rw [npcBySn, npcIdx] at h
  cases hidx : w.npcIdxMap[sn]? with
  | some j =>
    simp only [hidx] at h
    obtain ⟨npc', -, heq⟩ := Option.map_eq_some_iff.1 h
    obtain ⟨rfl, rfl, rfl⟩ := heq
    exact ⟨rfl, rfl⟩
  | none =>
    simp only [hidx] at h
    obtain ⟨npc', -, heq⟩ := Option.map_eq_some_iff.1 h
    obtain ⟨rfl, rfl, rfl⟩ := heq
    exact ⟨rfl, rfl⟩

theorem getDamageByPlayer_apart {outside : Outside fl} {sn atker : UInt64}
    (h : w.getDamageByPlayer outside sn atker = some t) : w.Apart t := by
  rw [getDamageByPlayer] at h
  obtain ⟨u, hu, h⟩ := Option.bind_eq_some_iff.1 h
  split at h
  · obtain rfl := Option.some.inj h
    split at hu
    · exact ⟨(changeCmd_apart hu).entries, (changeCmd_apart hu).npcs⟩
    · obtain rfl := Option.some.inj hu
      exact ⟨rfl, rfl⟩
  · cases h

theorem getDamageByNpc_apart {outside : Outside fl} {sn : UInt64} {enemy : Npc fl}
    (h : w.getDamageByNpc outside sn enemy = some t) : w.Apart t := by
  rw [getDamageByNpc] at h
  dsimp only at h
  split at h
  · obtain rfl := Option.some.inj h
    exact ⟨rfl, rfl⟩
  · cases h

/-- What a message of a client does to an NPC. -/
def ClientMoves (w t : NpcWorld fl) (notes : ℕ → List NpcNote) : Prop :=
  t.entries = w.entries ∧ ∀ i npc', t.npcs[i]? = some npc' → ∃ npc, w.npcs[i]? = some npc ∧
    w.Passed npc.object npc'.object (notes i)

theorem Apart.clientMoves (h : w.Apart t) : w.ClientMoves t fun _ => [] := by
  exact ⟨h.entries, fun i npc' hnpc' => ⟨npc', h.npcs ▸ hnpc', .still rfl rfl rfl rfl rfl⟩⟩

/-- An NPC that is written keeps its tree. -/
theorem setNpc_clientMoves {j : ℕ} {f : WorldNpc fl → WorldNpc fl} {notes : ℕ → List NpcNote} (h : w.Apart u)
    (hset : ∀ npc, w.npcs[j]? = some npc → w.Passed npc.object (f npc).object (notes j))
    (hothers : ∀ i, i ≠ j → notes i = []) : w.ClientMoves (u.setNpc j f) notes := by
  refine ⟨h.entries, fun i npc' hnpc' => ?_⟩
  have hget : (u.npcs.modify j f)[i]? = some npc' := hnpc'
  rw [h.npcs, List.getElem?_modify] at hget
  obtain ⟨npc, hnpc, rfl⟩ := Option.map_eq_some_iff.1 hget
  refine ⟨npc, hnpc, ?_⟩
  by_cases hij : j = i
  · subst hij
    rw [if_pos rfl]
    exact hset npc hnpc
  · rw [if_neg hij, hothers i (Ne.symm hij)]
    exact .still rfl rfl rfl rfl rfl

/-- **A hit** takes hp and sends what is left. -/
theorem damageNpc_clientMoves {outside : Outside fl} {j : ℕ} {npc : WorldNpc fl} {attacker : UInt64}
    {notes : ℕ → List NpcNote} (hapart : w.Apart u) (hnpc : u.npcs[j]? = some npc)
    (h : u.damageNpc algs outside j npc attacker = some t)
    (hnotes : notes j = [.syncNpcProps (npc.object.getDamage algs (u.ref attacker)
      (u.bodies attacker).detail.atk.toInt outside.rolls).1.npc.hp]) (hothers : ∀ i, i ≠ j → notes i = []) : w.ClientMoves t notes := by
  rw [damageNpc] at h
  obtain ⟨⟨object, rewards⟩, hdamage⟩ : ∃ res, npc.object.getDamage algs (u.ref attacker)
      (u.bodies attacker).detail.atk.toInt outside.rolls = res := ⟨_, rfl⟩
  rw [hdamage] at h hnotes
  have hobject : object.root = npc.object.root ∧ object.curAct = npc.object.curAct ∧
      object.npc.initHp = npc.object.npc.initHp ∧ object.npc.linker = npc.object.npc.linker := by
    rw [NpcObject.getDamage, Prod.mk.injEq] at hdamage
    obtain ⟨rfl, -⟩ := hdamage
    split <;> exact ⟨rfl, rfl, rfl, rfl⟩
  have hset : w.ClientMoves (u.setNpc j fun npc => { npc with object := object }) notes := by
    refine setNpc_clientMoves hapart (fun old hold => ?_) hothers
    obtain rfl := Option.some.inj (hnpc.symm.trans (hapart.npcs ▸ hold))
    obtain ⟨hroot, hcur, hinit, hlinker⟩ := hobject
    rw [hnotes]
    exact ⟨hroot, hcur, hinit, .heals hlinker, fun _ _ _ hmem => by cases List.mem_singleton.1 hmem⟩
  cases rewards with
  | none =>
    obtain rfl := Option.some.inj h
    exact hset
  | some list =>
    obtain ⟨v, hreset, rfl⟩ := Option.map_eq_some_iff.1 h
    obtain ⟨hentries, hnpcs⟩ := changeCmd_apart hreset
    refine ⟨hentries.trans hset.1, fun i npc' hnpc' => hset.2 i npc' ?_⟩
    exact hnpcs ▸ hnpc'

theorem makeCmd_apart {type : CmdType} {targetSn : UInt64} {point : Vector3 fl.toFloatOps} {kind : CommandKind fl}
    (h : w.makeCmd type targetSn point = some (kind, t)) : w.Apart t := by
  cases type with
  | none | move | pick | teleport =>
    cases h
    exact ⟨rfl, rfl⟩
  | attack =>
    obtain ⟨⟨i, npc, u⟩, hnpc, heq⟩ := Option.map_eq_some_iff.1 h
    cases heq
    exact npcBySn_apart hnpc
  | observe | pvp =>
    rw [makeCmd] at h
    split at h
    · cases h
      exact ⟨rfl, rfl⟩
    · cases h

theorem handleSyncNpcPos_clientMoves {npcSn : UInt64} {pos : Vector3 fl.toFloatOps}
    (h : w.handleSyncNpcPos npcSn pos = some t) : w.ClientMoves t fun _ => [] := by
  obtain ⟨⟨i, npc, u⟩, hnpc, rfl⟩ := Option.map_eq_some_iff.1 h
  refine setNpc_clientMoves (npcBySn_apart hnpc) (fun old _ => ?_) fun _ _ => rfl
  exact .still rfl rfl rfl rfl rfl

/-- **A message of a player** moves no NPC but the one that it hits, or asks about. -/
theorem handleFrom_clientMoves {outside : Outside fl} {sn : UInt64} {msg : ClientMsg fl} (hsn : w.Held sn)
    (h : w.handleFrom algs outside sn msg = some t) : w.ClientMoves t (w.clientNotes algs outside sn msg) := by
  cases msg with
  | playerMove sn' points =>
    obtain rfl := Option.some.inj h
    exact Apart.clientMoves ⟨rfl, rfl⟩
  | npcMove npcSn running points =>
    obtain ⟨⟨i, npc, u⟩, hnpc, rfl⟩ := Option.map_eq_some_iff.1 h
    refine setNpc_clientMoves (npcBySn_apart hnpc) (fun old _ => ?_) fun _ _ => rfl
    exact .still rfl rfl rfl rfl rfl
  | syncNpcPos npcSn pos => exact handleSyncNpcPos_clientMoves h
  | updateKnapItem item =>
    obtain ⟨detail, -, rfl⟩ := Option.map_eq_some_iff.1 h
    exact Apart.clientMoves ⟨rfl, rfl⟩
  | updateKnapGold gold =>
    obtain rfl := Option.some.inj h
    exact Apart.clientMoves ⟨rfl, rfl⟩
  | getPlayerKnap =>
    obtain rfl := Option.some.inj h
    exact Apart.clientMoves ⟨rfl, rfl⟩
  | syncPlayerPos pos =>
    obtain rfl := Option.some.inj h
    exact Apart.clientMoves ⟨rfl, rfl⟩
  | syncPlayerCmd type targetSn point =>
    rw [handleFrom, handleSyncPlayerCmd] at h
    split at h
    · obtain rfl := Option.some.inj h
      exact Apart.clientMoves ⟨rfl, rfl⟩
    · obtain ⟨⟨kind, u⟩, hmake, hchange⟩ := Option.bind_eq_some_iff.1 h
      exact ((makeCmd_apart hmake).trans (changeCmd_apart hchange)).clientMoves
  | reqSyncPlayer playerSn =>
    rw [handleFrom, handleReqSyncPlayer] at h
    split at h
    · obtain rfl := Option.some.inj h
      exact Apart.clientMoves ⟨rfl, rfl⟩
    · cases h
  | reqNpcInfo npcId =>
    obtain ⟨npc, -, rfl⟩ := Option.map_eq_some_iff.1 h
    exact Apart.clientMoves ⟨rfl, rfl⟩
  | syncBtAction id =>
    obtain ⟨npc, hnpc, rfl⟩ := Option.map_eq_some_iff.1 h
    have hget : w.npcs[id.toNat]? = some npc := by
      rw [npcById] at hnpc
      split at hnpc
      · cases hnpc
      · exact hnpc
    cases hlinker : npc.object.npc.linker with
    | some old =>
      have hnotes : w.clientNotes algs outside sn (.syncBtAction id) = fun _ => [] := by
        funext i
        simp only [clientNotes, hnpc, hlinker, reduceCtorEq, and_false, if_false]
      rw [hnotes]
      exact Apart.clientMoves ⟨rfl, rfl⟩
    | none =>
      refine setNpc_clientMoves ⟨rfl, rfl⟩ (fun old hold => ?_) fun i hi => ?_
      · obtain rfl := Option.some.inj (hget.symm.trans hold)
        simp only [clientNotes, hnpc, hlinker, and_self, if_true]
        exact ⟨rfl, rfl, rfl, .links (mem_refs.2 (holds_ref.2 hsn)) hlinker rfl rfl,
          fun _ _ _ hmem => by cases List.mem_singleton.1 hmem⟩
      · simp only [clientNotes, hnpc, hlinker, and_true, if_neg (Ne.symm hi)]
  | playerAtkEvent targetSn =>
    rw [handleFrom, handlePlayerAtkEvent] at h
    by_cases htarget : w.Held targetSn
    · have hnotes : w.clientNotes algs outside sn (.playerAtkEvent targetSn) = fun _ => [] := by
        funext i
        simp only [clientNotes, htarget, true_or, if_true]
      rw [if_pos htarget] at h
      rw [hnotes]
      exact (getDamageByPlayer_apart h).clientMoves
    · rw [if_neg htarget] at h
      by_cases hzero : targetSn = 0
      · have hnotes : w.clientNotes algs outside sn (.playerAtkEvent targetSn) = fun _ => [] := by
          funext i
          simp only [clientNotes, hzero, or_true, if_true]
        rw [if_neg (not_not.2 hzero)] at h
        obtain rfl := Option.some.inj h
        rw [hnotes]
        exact Apart.clientMoves ⟨rfl, rfl⟩
      · rw [if_pos hzero] at h
        obtain ⟨⟨j, npc, u⟩, hnpc, hdamage⟩ := Option.bind_eq_some_iff.1 h
        refine damageNpc_clientMoves (npcBySn_apart hnpc) (npcBySn_eq hnpc).2.1 hdamage ?_ fun i hi => ?_
        · simp only [clientNotes, htarget, hzero, or_self, if_false, hnpc, if_true]
        · simp only [clientNotes, htarget, hzero, or_self, if_false, hnpc, if_neg (Ne.symm hi)]
  | npcAtkEvent npcSn =>
    obtain ⟨⟨i, npc, u⟩, hnpc, hdamage⟩ := Option.bind_eq_some_iff.1 h
    exact ((npcBySn_apart hnpc).trans (getDamageByNpc_apart hdamage)).clientMoves

/-- **A message of a client.** -/
theorem handle_clientMoves {outside : Outside fl} {identify : NetIdentify} {msg : ClientMsg fl}
    (h : w.handle algs outside identify msg = some t) :
    w.ClientMoves t (w.notes algs (.client outside identify msg)) := by
  rw [handle.eq_def] at h
  cases hplayer : World.getPlayer w.playerMgr identify with
  | some player =>
    have hnotes : w.notes algs (.client outside identify msg) = w.clientNotes algs outside player.playerSn msg := by
      funext i
      simp only [notes, hplayer]
    simp only [hplayer] at h
    rw [hnotes]
    exact handleFrom_clientMoves (held_getPlayer hplayer) h
  | none =>
    have hnotes : w.notes algs (.client outside identify msg) = fun _ => [] := by
      funext i
      simp only [notes, hplayer]
    simp only [hplayer] at h
    rw [hnotes]
    split at h
    · exact handleSyncNpcPos_clientMoves h
    · obtain rfl := Option.some.inj h
      exact Apart.clientMoves ⟨rfl, rfl⟩

/-- What becomes of every NPC. -/
def Moved (algs : Heap.Algorithms BtEvent.less) (w t : NpcWorld fl) (object : Option PlayerRef)
    (notes : ℕ → List NpcNote) : Prop :=
  ∀ i npc', t.npcs[i]? = some npc' →
    ∃ npc, w.npcs[i]? = some npc ∧ w.NpcMoves algs t object npc.object (notes i) npc'.object

variable {object : Option PlayerRef}

theorem ClientMoves.moved {notes : ℕ → List NpcNote} (h : w.ClientMoves t notes) : w.Moved algs t object notes := by
  intro i npc' hnpc'
  obtain ⟨npc, hnpc, hpassed⟩ := h.2 i npc' hnpc'
  exact ⟨npc, hnpc, .passes hpassed⟩

theorem updateNpc_moved {i : ℕ} {timeTick : UInt64} {roll : Fin 4}
    (h : w.updateNpc algs i timeTick roll = some t) :
    t.entries = w.entries ∧ w.Moved algs t object (w.notes algs (.updateNpc i timeTick roll)) := by
  obtain ⟨npc, hnpc, h⟩ := Option.bind_eq_some_iff.1 h
  obtain ⟨⟨object, sent⟩, hupdate, rfl⟩ := Option.map_eq_some_iff.1 h
  refine ⟨rfl, fun j npc' hnpc' => ?_⟩
  have hget : (w.npcs.modify i fun npc => { npc with object := object })[j]? = some npc' := hnpc'
  rw [List.getElem?_modify] at hget
  obtain ⟨old, hold, rfl⟩ := Option.map_eq_some_iff.1 hget
  refine ⟨old, hold, ?_⟩
  by_cases hij : i = j
  · subst hij
    obtain rfl := Option.some.inj (hnpc.symm.trans hold)
    have hnotes : w.notes algs (.updateNpc i timeTick roll) i = sent := by
      simp only [notes, if_true, hnpc, Option.bind_some, hupdate]
    rw [hnotes, if_pos rfl]
    exact .updates hupdate
  · have hnotes : w.notes algs (.updateNpc i timeTick roll) j = [] := by
      simp only [notes, if_neg hij]
    rw [hnotes, if_neg hij]
    exact .passes (.still rfl rfl rfl rfl rfl)

/-- What the NPCs see when a player disappears does not depend on its command. -/
theorem Recommands.getNearestPlayer_eq {sn : UInt64} {cmd : CmdObject fl} (h : w.Recommands t sn cmd)
    (pos : Vector3 fl.toFloatOps) : t.getNearestPlayer pos = w.getNearestPlayer pos := by
  have hplayers : t.players = w.players := by rw [SpaceWorld.players, SpaceWorld.players, h.world]
  have hbodies : t.bodies = w.bodies := congrArg SpaceWorld.bodies h.world
  have href : t.ref = w.ref := by
    funext sn'
    rw [ref, ref, h.entry]
  rw [getNearestPlayer, getNearestPlayer, surroundings, surroundings, hplayers, hbodies, href]

/-- **A player disappears.** -/
theorem playerDisappear_moved {pools : Pools fl} {sn : UInt64} (hheld : w.Held sn)
    (h : ({ w with playerMgr := w.playerMgr.removePlayerBySn sn } : NpcWorld fl).playerDisappear algs pools
      (w.ref sn) = some t) :
    t.entries = w.entries ∧ (∀ p, t.Holds p → w.Holds p) ∧ w.Moved algs t object (w.disappearNotes sn) := by
  have hleft := without_removePlayerBySn w sn
  obtain ⟨left, hleftEq⟩ : ∃ left : NpcWorld fl, left = { w with playerMgr := w.playerMgr.removePlayerBySn sn } :=
    ⟨_, rfl⟩
  rw [← hleftEq] at h hleft
  obtain ⟨u, hreset, rfl⟩ := Option.map_eq_some_iff.1 h
  have hrec := changeCmd_recommands hreset
  have hheld' : ∀ p, u.Holds p ↔ p ≠ w.ref sn ∧ w.Holds p := by
    intro p
    rw [← hleft.holds_iff_ne, Holds, Holds, Held, Held, hrec.world, hrec.entry]
  refine ⟨?_, fun p hp => ((hheld' p).1 hp).2, fun i npc' hnpc' => ?_⟩
  · exact (changeCmd_apart hreset).entries.trans (by rw [hleftEq])
  · have hget : (u.npcs.map fun npc => { npc with object := npc.object.playerDisappear algs u (w.ref sn) })[i]? =
        some npc' := hnpc'
    rw [List.getElem?_map, hrec.npcs, hleft.npcs] at hget
    obtain ⟨npc, hnpc, rfl⟩ := Option.map_eq_some_iff.1 hget
    have hnotes : w.disappearNotes sn i = npc.object.disappearNotes u (w.ref sn) := by
      rw [NpcObject.disappearNotes, hrec.getNearestPlayer_eq, hleftEq]
      simp only [disappearNotes, hnpc, NpcObject.disappearNotes]
    refine ⟨npc, hnpc, ?_⟩
    rw [hnotes]
    refine .disappears hheld (fun hhere => ((hheld' _).1 hhere).1 rfl) fun pos p hp => ?_
    exact ((hheld' p).1 (pointsHere_getNearestPlayer u pos p hp)).2

/-- What an event leaves of a world: who is there was there before, or is the one that enters. -/
structure Steps (algs : Heap.Algorithms BtEvent.less) (w t : NpcWorld fl) (object : Option PlayerRef)
    (notes : ℕ → List NpcNote) : Prop where
  entries : w.entries ≤ t.entries
  holds : ∀ p, t.Holds p → w.Holds p ∨ p.entry = w.entries ∧ w.entries < t.entries
  moved : w.Moved algs t object notes

theorem Apart.moved (h : w.Apart t) : w.Moved algs t object fun _ => [] := h.clientMoves.moved

theorem handleSyncPlayer_steps {identify : NetIdentify} {proto : SyncPlayer fl.toFloatOps} {cmd : CmdObject fl}
    (h : w.handleSyncPlayer identify proto cmd object = some t) :
    w.Steps algs t (w.takes (.syncPlayer identify proto cmd object)) fun _ => [] := by
  have hcases := handleSyncPlayer_cases h
  rw [handleSyncPlayer] at h
  split at h
  · obtain rfl := Option.some.inj h
    exact ⟨le_rfl, fun p hp => .inl hp, Apart.moved ⟨rfl, rfl⟩⟩
  · rename_i hfree
    have hentered := hcases.resolve_left fun hknown => hfree hknown.1
    split at h
    · obtain ⟨world, -, rfl⟩ := Option.map_eq_some_iff.1 h
      refine ⟨Nat.le_succ _, fun p hp => ?_, fun i npc' hnpc' => ?_⟩
      · by_cases hsn : p.sn = proto.playerSn
        · have hentry := hp.2
          rw [hentered.extras, hsn, Function.update_self] at hentry
          exact .inr ⟨hentry.symm, Nat.lt_succ_self _⟩
        · have hentry := hp.2
          rw [hentered.extras, Function.update_of_ne hsn] at hentry
          exact .inl ⟨((hentered.held _).1 hp.1).resolve_left hsn, hentry⟩
      · rw [List.getElem?_map] at hnpc'
        obtain ⟨npc, hnpc, rfl⟩ := Option.map_eq_some_iff.1 hnpc'
        rw [takes, if_neg hfree]
        exact ⟨npc, hnpc, .renews⟩
    · cases h

theorem handleNetworkDisconnect_steps {pools : Pools fl} {identify : NetIdentify}
    (h : w.handleNetworkDisconnect algs pools identify = some t) :
    w.Steps algs t object (w.notes algs (.networkDisconnect pools identify)) := by
  have hcases := handleNetworkDisconnect_cases h
  rw [handleNetworkDisconnect] at h
  obtain ⟨world, hworld, h⟩ := Option.bind_eq_some_iff.1 h
  dsimp only at h
  rw [SpaceWorld.handleNetworkDisconnect] at hworld
  cases hplayer : (identify.tagKey.getTagValue .player).bind fun value =>
      w.playerMgr.getPlayerBySn value.keyInt64 with
  | some player =>
    have hnotes : w.notes algs (.networkDisconnect pools identify) = w.disappearNotes player.playerSn := by
      funext i
      simp only [notes, hplayer]
    obtain ⟨value, hvalue, hget⟩ := Option.bind_eq_some_iff.1 hplayer
    have hsn := PlayerManager.getPlayerBySn_some hget
    simp only [hvalue, hget] at hworld
    obtain rfl := Option.some.inj hworld
    simp only [hplayer, ← hsn] at h
    have hheld : w.Held player.playerSn := by
      rw [Held, hsn, hget]
      rfl
    obtain ⟨hentries, hholds, hmoved⟩ := playerDisappear_moved hheld h
    rw [hnotes]
    exact ⟨hentries.ge, fun p hp => .inl (hholds p hp), hmoved⟩
  | none =>
    have hnotes : w.notes algs (.networkDisconnect pools identify) = fun _ => [] := by
      funext i
      simp only [notes, hplayer]
    have hholds : ∀ p, t.Holds p → w.Holds p := by
      intro p hp
      rcases hcases with ⟨value, hvalue, hgone | ⟨hheld, -⟩⟩ | ⟨-, hsame | ⟨-, hcut⟩⟩
      · exact hgone.2 ▸ hp
      · rw [hvalue, Option.bind_some] at hplayer
        rw [Held, hplayer] at hheld
        cases hheld
      · exact hsame.2 ▸ hp
      · exact (hcut.holds_iff.1 hp).2
    simp only [hplayer] at h
    obtain rfl := Option.some.inj h
    rw [hnotes]
    exact ⟨le_rfl, fun p hp => .inl (hholds p hp), Apart.moved ⟨rfl, rfl⟩⟩

theorem handleG2SRemovePlayer_steps {pools : Pools fl} {identify : NetIdentify} {playerSn : UInt64}
    (h : w.handleG2SRemovePlayer algs pools identify playerSn = some t) :
    w.Steps algs t object (w.notes algs (.removePlayer pools identify playerSn)) := by
  rw [handleG2SRemovePlayer] at h
  obtain ⟨world, hworld, h⟩ := Option.bind_eq_some_iff.1 h
  dsimp only at h
  rw [SpaceWorld.handleG2SRemovePlayer] at hworld
  cases hplayer : World.getPlayer w.playerMgr identify with
  | none =>
    have hnotes : w.notes algs (.removePlayer pools identify playerSn) = fun _ => [] := by
      funext i
      simp only [notes, hplayer]
    simp only [hplayer] at hworld h
    obtain rfl := Option.some.inj hworld
    obtain rfl := Option.some.inj h
    rw [hnotes]
    exact ⟨le_rfl, fun p hp => .inl hp, Apart.moved ⟨rfl, rfl⟩⟩
  | some player =>
    simp only [hplayer] at hworld h
    by_cases hsn : playerSn = player.playerSn
    · subst hsn
      have hnotes : w.notes algs (.removePlayer pools identify player.playerSn) =
          w.disappearNotes player.playerSn := by
        funext i
        simp only [notes, hplayer, ne_eq, not_true_eq_false, if_false]
      simp only [ne_eq, not_true_eq_false, if_false] at hworld h
      obtain rfl := Option.some.inj hworld
      obtain ⟨hentries, hholds, hmoved⟩ := playerDisappear_moved (held_getPlayer hplayer) h
      rw [hnotes]
      exact ⟨hentries.ge, fun p hp => .inl (hholds p hp), hmoved⟩
    · have hnotes : w.notes algs (.removePlayer pools identify playerSn) = fun _ => [] := by
        funext i
        simp only [notes, hplayer, ne_eq, hsn, not_false_eq_true, if_true]
      rw [if_pos hsn] at hworld h
      obtain rfl := Option.some.inj hworld
      obtain rfl := Option.some.inj h
      rw [hnotes]
      exact ⟨le_rfl, fun p hp => .inl hp, Apart.moved ⟨rfl, rfl⟩⟩

/-- **One event.** -/
theorem step_steps {e : WorldEvent fl} (h : w.step algs e = some t) :
    w.Steps algs t (w.takes e) (w.notes algs e) := by
  have hapart : w.Apart t → e.entersOrLeaves = false → w.notes algs e = (fun _ => []) →
      w.Steps algs t (w.takes e) (w.notes algs e) := by
    intro happart he hnotes
    rw [hnotes]
    exact ⟨happart.entries.ge, fun p hp => .inl ((step_quiet he h).holds_iff.1 hp), happart.moved⟩
  cases e with
  | syncPlayer identify proto cmd object => exact handleSyncPlayer_steps h
  | networkDisconnect pools identify => exact handleNetworkDisconnect_steps h
  | removePlayer pools identify playerSn => exact handleG2SRemovePlayer_steps h
  | client outside identify msg =>
    have hmoves := handle_clientMoves h
    exact ⟨hmoves.1.ge, fun p hp => .inl ((handle_quiet h).holds_iff.1 hp), hmoves.moved⟩
  | updateNpc i timeTick roll =>
    obtain ⟨hentries, hmoved⟩ := updateNpc_moved h
    exact ⟨hentries.ge, fun p hp => .inl ((updateNpc_quiet h).holds_iff.1 hp), hmoved⟩
  | moveNpc i timeElapsed =>
    obtain rfl := Option.some.inj h
    have hmoves : w.ClientMoves (w.moveNpc i timeElapsed) fun _ => [] :=
      setNpc_clientMoves ⟨rfl, rfl⟩ (fun npc _ => .still rfl rfl rfl rfl rfl) fun _ _ => rfl
    exact ⟨le_rfl, fun p hp => .inl ((step_quiet (e := .moveNpc i timeElapsed) rfl h).holds_iff.1 hp), hmoves.moved⟩
  | requestSyncPlayer identify record =>
    refine hapart ?_ rfl rfl
    rw [step, handleRequestSyncPlayer] at h
    split at h
    · obtain rfl := Option.some.inj h
      exact ⟨rfl, rfl⟩
    · obtain ⟨saved, -, rfl⟩ := Option.map_eq_some_iff.1 h
      exact ⟨rfl, rfl⟩
  | syncAppear =>
    refine hapart ?_ rfl rfl
    obtain rfl := Option.some.inj h
    exact ⟨rfl, rfl⟩
  | updateCmd pools sn =>
    refine hapart ?_ rfl rfl
    rw [step] at h
    split at h
    · rw [updateCmd] at h
      split at h
      · obtain rfl := Option.some.inj h
        exact ⟨rfl, rfl⟩
      · obtain ⟨finish, -, h⟩ := Option.bind_eq_some_iff.1 h
        split at h
        · exact changeCmd_apart h
        · obtain rfl := Option.some.inj h
          exact ⟨rfl, rfl⟩
    · cases h
  | movePlayer sn timeElapsed =>
    refine hapart ?_ rfl rfl
    rw [step] at h
    split at h
    · obtain rfl := Option.some.inj h
      rw [movePlayer]
      split <;> exact ⟨rfl, rfl⟩
    · cases h
  | enterElsewhere =>
    obtain rfl := Option.some.inj h
    refine ⟨Nat.le_succ _, fun p hp => .inl hp, fun i npc' hnpc' => ⟨npc', hnpc', ?_⟩⟩
    exact .passes (.still rfl rfl rfl rfl rfl)

/-! ### The invariant of an NPC -/

/-- What holds of an NPC and of all that was sent about it. -/
structure Controlled (w : NpcWorld fl) (o : NpcObject fl) (log : List NpcNote) : Prop where
  round : RewardState.GoesRound o.root
  told : LinkerTold o.npc log
  sole : lifePhase o.root ≠ .birth → Sole w.Holds o.npc log
  /-- Whoever was told anything has entered, and whoever was told that it is not the linker has left. -/
  sent : ∀ p linker, .reqLinkPlayer p linker ∈ log → p.entry < w.entries ∧ (linker = false → ¬ w.Holds p)

/-- Players that enter were told nothing yet. -/
theorem Controlled.enters {o : NpcObject fl} {log : List NpcNote} (h : w.Controlled o log)
    (hentries : w.entries ≤ t.entries)
    (hholds : ∀ p, t.Holds p → w.Holds p ∨ p.entry = w.entries ∧ w.entries < t.entries) : t.Controlled o log := by
  have hold : ∀ p linker, .reqLinkPlayer p linker ∈ log → t.Holds p → w.Holds p := by
    intro p linker hmem hp
    refine (hholds p hp).resolve_right fun hnew => ?_
    have hlt := (h.sent p linker hmem).1
    omega
  refine ⟨h.round, h.told, fun hphase p hp htold => ?_, fun p linker hmem => ?_⟩
  · obtain ⟨note, hmem, rfl⟩ := htold.exists_mem
    exact h.sole hphase p (hold p true hmem hp) htold
  · obtain ⟨hlt, hfalse⟩ := h.sent p linker hmem
    exact ⟨hlt.trans_le hentries, fun hno hp => hfalse hno (hold p linker hmem hp)⟩

/-- An NPC that a player leaves keeps its tree. -/
theorem root_playerDisappear (algs : Heap.Algorithms BtEvent.less) (w : NpcWorld fl) (o : NpcObject fl)
    (p : PlayerRef) : (o.playerDisappear algs w p).root = o.root := by
  rw [NpcObject.playerDisappear]
  split_ifs <;> rfl

/-- **A linker that leaves** is told so, and the nearest player takes its place. -/
theorem Controlled.disappears {left : NpcWorld fl} {o : NpcObject fl} {log : List NpcNote} {sn : UInt64}
    (h : t.Controlled o log) (hheld : (w.ref sn).entry < t.entries) (hgone : ¬ t.Holds (w.ref sn))
    (hnear : ∀ pos, ∀ p ∈ left.getNearestPlayer pos, p.entry < t.entries) :
    t.Controlled (o.playerDisappear algs left (w.ref sn)) (log ++ o.disappearNotes left (w.ref sn)) := by
  have hroot := root_playerDisappear algs left o (w.ref sn)
  have hlinker := (npc_playerDisappear algs left o (w.ref sn)).2
  by_cases hown : o.npc.linker = some (w.ref sn)
  · rw [if_pos hown] at hlinker
    have hnotes : o.disappearNotes left (w.ref sn) = .reqLinkPlayer (w.ref sn) false ::
        ((left.getNearestPlayer o.npc.currPos).map fun p => NpcNote.reqLinkPlayer p true).toList := by
      rw [NpcObject.disappearNotes, if_pos hown]
      cases left.getNearestPlayer o.npc.currPos <;> rfl
    have hmem : ∀ p, .reqLinkPlayer p true ∈ o.disappearNotes left (w.ref sn) ↔
        left.getNearestPlayer o.npc.currPos = some p := by
      intro p
      rw [hnotes]
      simp
    refine ⟨hroot ▸ h.round, fun p hp => ?_, fun hphase p hp htold => ?_, fun p linker hsent => ?_⟩
    · have hp' : left.getNearestPlayer o.npc.currPos = some p := hlinker.symm.trans hp
      rw [hnotes, hp']
      refine EventLog.shownSince_append.2 (.inr ⟨_, [], ⟨[.reqLinkPlayer (w.ref sn) false], rfl⟩, rfl,
        List.forall_mem_nil _⟩)
    · rcases EventLog.shownSince_append.1 htold with ⟨hold, -⟩ | hnew
      · have hlinked := h.sole (hroot ▸ hphase) p hp hold
        obtain rfl := Option.some.inj (hown.symm.trans hlinked)
        exact absurd hp hgone
      · obtain ⟨note, hin, rfl⟩ := hnew.exists_mem
        exact hlinker.trans ((hmem p).1 hin)
    · rcases List.mem_append.1 hsent with hold | hnew
      · exact h.sent p linker hold
      · cases linker with
        | true => exact ⟨hnear _ p ((hmem p).1 hnew), fun hno => by cases hno⟩
        | false =>
          have hp : p = w.ref sn := by
            rw [hnotes] at hnew
            simpa using hnew
          rw [hp]
          exact ⟨hheld, fun _ => hgone⟩
  · have hnotes : o.disappearNotes left (w.ref sn) = [] := by rw [NpcObject.disappearNotes, if_neg hown]
    rw [if_neg hown] at hlinker
    rw [hnotes, List.append_nil]
    refine ⟨hroot ▸ h.round, fun p hp => h.told p (hlinker ▸ hp), fun hphase p hp htold => ?_, h.sent⟩
    exact hlinker.trans (h.sole (hroot ▸ hphase) p hp htold)

/-- An object that no linker had is taken. -/
theorem Controlled.renews {o : NpcObject fl} {log : List NpcNote} {player : PlayerRef} (h : t.Controlled o log)
    (hkeeps : ∀ p ∈ object, o.npc.linker ≠ some p) : t.Controlled (o.renewed object player) log := by
  have hlinker : (o.renewed object player).npc.linker = o.npc.linker := by
    refine if_neg ?_
    rintro ⟨hsome, heq⟩
    obtain ⟨p, hp⟩ := Option.isSome_iff_exists.1 hsome
    exact hkeeps p (heq ▸ hp) hp
  refine ⟨h.round, fun p hp => h.told p (hlinker ▸ hp), fun hphase p hp htold => ?_, h.sent⟩
  exact hlinker.trans (h.sole hphase p hp htold)

/-- **One event**, and one NPC, whose linker is no player that has left and whose object is taken. -/
theorem Controlled.npcMoves {o o' : NpcObject fl} {log notes : List NpcNote} (h : t.Controlled o log)
    (hpast : ∀ p, w.Holds p → p.entry < t.entries) (hkeeps : ∀ p ∈ object, o.npc.linker ≠ some p)
    (hmoves : w.NpcMoves algs t object o notes o') : t.Controlled o' (log ++ notes) := by
  have hplayers : ∀ p ∈ w.refs, p.entry < t.entries ∧ (true = false → ¬ t.Holds p) :=
    fun p hp => ⟨hpast p (mem_refs.1 hp), fun hno => by cases hno⟩
  have hsent := @lasts_sent fl w.refs (fun p linker => p.entry < t.entries ∧ (linker = false → ¬ t.Holds p)) hplayers
  cases hmoves with
  | updates update =>
    refine ⟨NpcObject.update_goesRound update h.round, ?_, fun hphase => ?_, ?_⟩
    · exact NpcObject.update_lasts update (lasts_linkerTold _) lastsBirths_linkerTold h.told
    · exact NpcObject.update_lives update h.round (lasts_sole _ t.Holds) (sole_born t.Holds) hphase h.sole
    · exact NpcObject.update_lasts update hsent (fun _ _ _ _ _ _ hlog => hlog) h.sent
  | passes passed =>
    obtain ⟨root, -, initHp, passes, -⟩ := passed
    refine ⟨root ▸ h.round, lasts_linkerTold _ initHp passes h.told, fun hphase => ?_, ?_⟩
    · exact lasts_sole _ t.Holds initHp passes (h.sole (root ▸ hphase))
    · exact hsent initHp passes h.sent
  | disappears held gone nearest =>
    exact h.disappears (hpast _ (holds_ref.2 held)) gone fun pos p hp => hpast p (nearest pos p hp)
  | renews =>
    rw [List.append_nil]
    exact h.renews hkeeps

/-- **A linker's object that is taken** makes the player that enters the linker, and nobody is told. -/
theorem linker_of_not_keepsLinkers {e : WorldEvent fl} (hstep : w.step algs e = some t) (hnot : ¬ w.KeepsLinkers e) :
    w.notes algs e = (fun _ => []) ∧ ∃ (i : ℕ) (npc' : WorldNpc fl) (p : PlayerRef),
      t.npcs[i]? = some npc' ∧ npc'.object.npc.linker = some p ∧ p.entry = w.entries := by
  simp only [KeepsLinkers, not_forall, not_not] at hnot
  obtain ⟨p, hp, npc, hnpc, hlinker⟩ := hnot
  obtain ⟨i, hi⟩ := List.mem_iff_getElem?.1 hnpc
  cases e with
  | networkDisconnect | removePlayer | requestSyncPlayer | client | syncAppear | updateNpc | updateCmd | moveNpc
  | movePlayer | enterElsewhere => cases hp
  | syncPlayer identify proto cmd object =>
    obtain ⟨hfree, hobject⟩ := Option.ite_none_left_eq_some.1 hp
    have hentered := (handleSyncPlayer_cases hstep).resolve_left fun hknown => hfree hknown.1
    have hnpc' : t.npcs[i]? =
        some { npc with object := npc.object.renewed object ⟨proto.playerSn, w.entries⟩ } := by
      rw [hentered.npcs, List.getElem?_map, hi]
      rfl
    refine ⟨rfl, i, _, ⟨proto.playerSn, w.entries⟩, hnpc', ?_, rfl⟩
    show PlayerRef.renewed object _ npc.object.npc.linker = _
    rw [hlinker]
    exact if_pos ⟨rfl, hobject.symm⟩

end NpcWorld

/-! ### The runs of a world -/

/-- A world, with all that was sent about each of its NPCs. -/
structure ControlRun (fl : NpcFloats) where
  world : NpcWorld fl
  logs : ℕ → List NpcNote

namespace ControlRun

variable {fl : NpcFloats} (algs : Heap.Algorithms BtEvent.less)

/-- One event, and what it sends. -/
def step (s : ControlRun fl) (e : WorldEvent fl) : Option (ControlRun fl) :=
  (s.world.step algs e).map fun world => ⟨world, fun i => s.logs i ++ s.world.notes algs e i⟩

/-- The runs of a world. -/
def system : System (ControlRun fl) (WorldEvent fl) :=
  .ofFun (fun s => s.world.Awakes ∧ s.logs = fun _ => []) (step algs)

/-- The runs from a moment on, with what is sent from then on. -/
def systemFrom (w : NpcWorld fl) : System (ControlRun fl) (WorldEvent fl) :=
  .ofFun (fun s => s = ⟨w, fun _ => []⟩) (step algs)

variable {algs} {s s' : ControlRun fl}

/-- What holds of every run. -/
structure Invariant (s : ControlRun fl) : Prop where
  present : ∀ p, s.world.Holds p → p.entry < s.world.entries
  npcs : ∀ i npc, s.world.npcs[i]? = some npc → s.world.Controlled npc.object (s.logs i)

/-- A new NPC has no linker, and is to be born. -/
theorem controlled_awake (w : NpcWorld fl) (npc : Npc fl) (config : BtConfig) (rolls : ℕ → Fin 4)
    (hlinker : npc.linker = none) : w.Controlled (.awake npc config rolls) [] := by
  have hkinds : ∀ kind ∈ config.nodes.filterMap BtActKind.ofName,
      kind.eventId.isBehaviour ∧ kind ≠ .birth := by
    intro kind hkind
    obtain ⟨name, -, hname⟩ := List.mem_filterMap.1 hkind
    exact ofName_isBehaviour hname
  have hroot := lifeRoot_parseTree rolls 0 hkinds
  refine ⟨.inr ⟨_, 0, .birth, 0, Nat.zero_lt_succ _, hroot⟩, fun p hp => ?_, fun hphase => ?_,
    fun p linker hmem => ?_⟩
  · rw [(NpcWorld.awake_pointers npc config rolls).2, hlinker] at hp
    cases hp
  · exact absurd hroot.lifePhase_eq hphase
  · cases hmem

/-- The NPCs of a new world are new. -/
theorem object_awake {w : NpcWorld fl} (h : w.Awakes) {npc : WorldNpc fl} (hnpc : npc ∈ w.npcs) :
    ∃ (npc₀ : Npc fl) (config : BtConfig) (rolls : ℕ → Fin 4),
      npc.object = .awake npc₀ config rolls ∧ npc₀.linker = none := by
  obtain ⟨empty, config, cfgs, hempty, -, -, rfl⟩ := h.npcs
  have hnpcs : ∀ (cfgs : List (UInt64 × ResourceNpc fl × (ℕ → Fin 4))) (u : NpcWorld fl),
      (∀ npc ∈ u.npcs, ∃ cfg : UInt64 × ResourceNpc fl × (ℕ → Fin 4),
        npc.object = .awake (.awake cfg.1 cfg.2.1) config cfg.2.2) →
      ∀ npc ∈ (cfgs.foldl (NpcWorld.addNpc config) u).npcs, ∃ cfg : UInt64 × ResourceNpc fl × (ℕ → Fin 4),
        npc.object = .awake (.awake cfg.1 cfg.2.1) config cfg.2.2 := by
    intro cfgs
    induction cfgs with
    | nil => exact fun u hu => hu
    | cons cfg cfgs ih =>
      refine fun u hu => ih _ fun npc hnpc => ?_
      obtain hnpc | hnpc := List.mem_append.1 hnpc
      · exact hu npc hnpc
      · obtain rfl := List.mem_singleton.1 hnpc
        exact ⟨cfg, rfl⟩
  obtain ⟨cfg, hcfg⟩ := hnpcs cfgs empty (fun npc hnpc => by rw [hempty] at hnpc; cases hnpc) npc hnpc
  exact ⟨_, config, cfg.2.2, hcfg, rfl⟩

theorem invariant_init {w : NpcWorld fl} (h : w.Awakes) : Invariant ⟨w, fun _ => []⟩ := by
  refine ⟨fun p hp => ?_, fun i npc hnpc => ?_⟩
  · have hheld := hp.1
    rw [NpcWorld.Held, h.players] at hheld
    cases hheld
  · obtain ⟨npc₀, config, rolls, hobject, hlinker⟩ := object_awake h (List.mem_of_getElem? hnpc)
    rw [hobject]
    exact controlled_awake _ npc₀ config rolls hlinker

theorem step_cases {e : WorldEvent fl} (h : s.step algs e = some s') :
    s.world.Steps algs s'.world (s.world.takes e) (s.world.notes algs e) ∧
      s'.logs = fun i => s.logs i ++ s.world.notes algs e i := by
  obtain ⟨world, hworld, rfl⟩ := Option.map_eq_some_iff.1 h
  exact ⟨NpcWorld.step_steps hworld, rfl⟩

theorem Invariant.step {e : WorldEvent fl} (h : s.Invariant) (hkeeps : s.world.KeepsLinkers e)
    (hstep : s.step algs e = some s') : s'.Invariant := by
  obtain ⟨hsteps, hlogs⟩ := step_cases hstep
  refine ⟨fun p hp => ?_, fun i npc' hnpc' => ?_⟩
  · rcases hsteps.holds p hp with hold | ⟨hnew, hlt⟩
    · exact (h.present p hold).trans_le hsteps.entries
    · exact hnew ▸ hlt
  · obtain ⟨npc, hnpc, hmoves⟩ := hsteps.moved i npc' hnpc'
    rw [hlogs]
    have hentered := (h.npcs i npc hnpc).enters hsteps.entries hsteps.holds
    exact hentered.npcMoves (fun p hp => (h.present p hp).trans_le hsteps.entries)
      (fun p hp => hkeeps p hp npc (List.mem_of_getElem? hnpc)) hmoves

/-- **An NPC that lives is moved by one player** at most.  Its linker was told so last; of the players of the world
nobody else was told so since the last end of a birth or beginning of a death; and whoever was told that it is not
the linker any more has left. -/
def MovedByOne (s : ControlRun fl) : Prop :=
  ∀ i npc, s.world.npcs[i]? = some npc → LinkerTold npc.object.npc (s.logs i) ∧
    (lifePhase npc.object.root ≠ .birth → Sole s.world.Holds npc.object.npc (s.logs i)) ∧
      ∀ p, .reqLinkPlayer p false ∈ s.logs i → ¬ s.world.Holds p

theorem Invariant.movedByOne (h : s.Invariant) : s.MovedByOne := fun i npc hnpc =>
  ⟨(h.npcs i npc hnpc).told, (h.npcs i npc hnpc).sole, fun p hp => ((h.npcs i npc hnpc).sent p false hp).2 rfl⟩

/-- **One step**, exactly: who gets the object of a linker is the linker, and was never told so. -/
theorem Invariant.movedByOne_iff {e : WorldEvent fl} (h : s.Invariant) (hstep : s.step algs e = some s') :
    s'.MovedByOne ↔ s.world.KeepsLinkers e := by
  refine ⟨fun hmoved => ?_, fun hkeeps => (h.step hkeeps hstep).movedByOne⟩
  by_contra hnot
  obtain ⟨world, hworld, rfl⟩ := Option.map_eq_some_iff.1 hstep
  obtain ⟨hnotes, i, npc', p, hnpc', hlinker, hentry⟩ := NpcWorld.linker_of_not_keepsLinkers hworld hnot
  obtain ⟨npc, hnpc, -⟩ := (NpcWorld.step_steps hworld).moved i npc' hnpc'
  have htold := (hmoved i npc' hnpc').1 p hlinker
  simp only [hnotes, List.append_nil] at htold
  obtain ⟨note, hmem, rfl⟩ := htold.exists_mem
  exact hentry.not_lt ((h.npcs i npc hnpc).sent p true hmem).1

end ControlRun

/-- **An NPC that lives is moved by one player** at most, in every run in which no entering player gets the object of
one that has left and is the linker of an NPC still; and it is so behind the next event exactly if that one is such an
event too. -/
theorem control_run {fl : NpcFloats} {algs : Heap.Algorithms BtEvent.less} {es : List (WorldEvent fl)}
    {s : ControlRun fl}
    (hrun : ((ControlRun.system algs).restrict fun s => s.world.KeepsLinkers).Run es s) :
    s.MovedByOne ∧ ∀ e s', (ControlRun.system algs).step s e s' → (s'.MovedByOne ↔ s.world.KeepsLinkers e) := by
  refine hrun.restrict_exact (p := ControlRun.Invariant) (fun s hs => ?_) (fun s hs => hs.movedByOne)
    fun s e s' hs hstep => ⟨hs.movedByOne_iff hstep, fun hkeeps => hs.step hkeeps hstep⟩
  obtain ⟨hawakes, hlogs⟩ := hs
  obtain ⟨world, logs⟩ := s
  obtain rfl : logs = fun _ => [] := hlogs
  exact ControlRun.invariant_init hawakes

/-- Two players enter, a skeleton is born and takes the nearest one as its linker, which leaves; a third one enters with
the object that was given back, and the second one hits the skeleton. -/
def handsOver : List (WorldEvent .int) :=
  [.syncPlayer (fromSocket 5) (traveller 7) ⟨none, none⟩ none,
    .syncPlayer (fromSocket 6) (traveller 8) ⟨none, none⟩ none,
    .updateNpc 0 1 Npc.firstPoint, .updateNpc 0 3000 Npc.firstPoint, .networkDisconnect noHeirs (toPlayer 7),
    .syncPlayer (fromSocket 5) (traveller 9) ⟨none, none⟩ (some ⟨7, 0⟩),
    .updateNpc 0 3001 Npc.firstPoint, .client noTeams (fromSocket 6) (.playerAtkEvent 1)]

/-- What was sent about the skeleton then. -/
def handsOverLog : List NpcNote :=
  [.born, .reqLinkPlayer ⟨7, 0⟩ true, .syncBtAction .patrol 0 0, .reqLinkPlayer ⟨7, 0⟩ false,
    .reqLinkPlayer ⟨8, 1⟩ true, .syncNpcProps 90]

theorem execute_handsOver : ∃ (s : ControlRun .int) (npc : WorldNpc .int),
    System.execute (ControlRun.step sortedEvents) (fun s => s.world.KeepsLinkers) ⟨graveyard, fun _ => []⟩ handsOver =
        some s ∧
      s.logs 0 = handsOverLog ∧ s.world.npcs[0]? = some npc ∧ npc.object.npc.hp = 90 := by
  have hrun : (System.execute (ControlRun.step sortedEvents) (fun s => s.world.KeepsLinkers)
      ⟨graveyard, fun _ => []⟩ handsOver).map (fun s => (decide (s.logs 0 = handsOverLog),
        (s.world.npcs[0]?).map fun npc => npc.object.npc.hp)) = some (true, some 90) := by
    decide +kernel
  obtain ⟨s, hs, hfacts⟩ := Option.map_eq_some_iff.1 hrun
  obtain ⟨hlog, hnpc⟩ := Prod.mk.inj hfacts
  obtain ⟨npc, hnpc, hhp⟩ := Option.map_eq_some_iff.1 hnpc
  exact ⟨s, npc, hs, of_decide_eq_true hlog, hnpc, hhp⟩

theorem control_handsOver : ∃ s : ControlRun .int,
    ((ControlRun.system sortedEvents).restrict fun s => s.world.KeepsLinkers).Run handsOver s ∧
      s.logs 0 = handsOverLog ∧ s.MovedByOne ∧ ∀ e s', (ControlRun.system sortedEvents).step s e s' →
        (s'.MovedByOne ↔ s.world.KeepsLinkers e) := by
  obtain ⟨s, npc, hs, hlog, -, -⟩ := execute_handsOver
  have hrun : ((ControlRun.system sortedEvents).restrict fun s => s.world.KeepsLinkers).Run handsOver s :=
    System.run_of_execute ⟨graveyard_awakes, rfl⟩ hs
  exact ⟨s, hrun, hlog, control_run hrun⟩

/-- What a listener knows of the hp goes on, whatever moves the NPC. -/
theorem NpcWorld.NpcMoves.toldHp {fl : NpcFloats} {algs : Heap.Algorithms BtEvent.less} {w t : NpcWorld fl}
    {object : Option PlayerRef} {o o' : NpcObject fl} {log notes : List NpcNote} {hp : ℤ}
    (h : w.NpcMoves algs t object o notes o')
    (hlog : o.npc.hp = MmoServer.toldHp o.npc.initHp log hp) :
    o'.npc.hp = MmoServer.toldHp o'.npc.initHp (log ++ notes) hp := by
  cases h with
  | updates update => exact NpcObject.update_lasts update (lasts_toldHp _ hp) (lastsBirths_toldHp hp) hlog
  | passes passed => exact lasts_toldHp _ hp passed.initHp passed.passes hlog
  | disappears held gone nearest =>
    rename_i left sn
    have hsame : (o.playerDisappear algs left (w.ref sn)).npc.hp = o.npc.hp ∧
        (o.playerDisappear algs left (w.ref sn)).npc.initHp = o.npc.initHp := by
      rw [NpcObject.playerDisappear]
      split_ifs <;> exact ⟨rfl, rfl⟩
    have hnone : (o.disappearNotes left (w.ref sn)).filterMap (NpcNote.hp o.npc.initHp) = [] := by
      rw [NpcObject.disappearNotes]
      split
      · cases left.getNearestPlayer o.npc.currPos <;> rfl
      · rfl
    rw [hsame.1, hsame.2, toldHp_append, ← hlog, MmoServer.toldHp, hnone]
    rfl
  | renews =>
    rw [List.append_nil]
    exact hlog

/-- **The hp are known** to everybody who knew them at some moment and has listened since: only the end of a birth,
which nobody is told, gives the NPC hp that were not sent, and then it has all of them. -/
theorem hp_run {fl : NpcFloats} {algs : Heap.Algorithms BtEvent.less} {w : NpcWorld fl} {es : List (WorldEvent fl)}
    {s : ControlRun fl} (hrun : (ControlRun.systemFrom algs w).Run es s) {i : ℕ} {npc : WorldNpc fl}
    (hnpc : s.world.npcs[i]? = some npc) :
    ∃ before, w.npcs[i]? = some before ∧
      npc.object.npc.hp = toldHp npc.object.npc.initHp (s.logs i) before.object.npc.hp := by
  have hinv : ∀ npc, s.world.npcs[i]? = some npc → ∃ before, w.npcs[i]? = some before ∧
      npc.object.npc.hp = toldHp npc.object.npc.initHp (s.logs i) before.object.npc.hp := by
    refine hrun.invariant (p := fun s : ControlRun fl => ∀ npc, s.world.npcs[i]? = some npc →
      ∃ before, w.npcs[i]? = some before ∧
        npc.object.npc.hp = toldHp npc.object.npc.initHp (s.logs i) before.object.npc.hp)
      (fun s hs npc hnpc => ?_) fun s e t hs hstep npc' hnpc' => ?_
    · obtain rfl : s = ⟨w, fun _ => []⟩ := hs
      exact ⟨npc, hnpc, rfl⟩
    · obtain ⟨hsteps, hlogs⟩ := ControlRun.step_cases hstep
      obtain ⟨npc, hnpc, hmoves⟩ := hsteps.moved i npc' hnpc'
      obtain ⟨before, hbefore, hhp⟩ := hs npc hnpc
      rw [hlogs]
      exact ⟨before, hbefore, hmoves.toldHp hhp⟩
  exact hinv npc hnpc

theorem hp_handsOver : ∃ (s : ControlRun .int) (npc : WorldNpc .int),
    (ControlRun.systemFrom sortedEvents graveyard).Run handsOver s ∧ s.logs 0 = handsOverLog ∧
      npc.object.npc.hp = 90 ∧ ∃ before, graveyard.npcs[0]? = some before ∧
        npc.object.npc.hp = toldHp npc.object.npc.initHp (s.logs 0) before.object.npc.hp := by
  obtain ⟨s, npc, hs, hlog, hnpc, hhp⟩ := execute_handsOver
  have hrun : ((ControlRun.systemFrom sortedEvents graveyard).restrict fun s => s.world.KeepsLinkers).Run handsOver s :=
    System.run_of_execute rfl hs
  exact ⟨s, npc, hrun.of_restrict, hlog, hhp, hp_run hrun.of_restrict hnpc⟩

end MmoServer
