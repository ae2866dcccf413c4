/-
**What the steps of a world leave as it was.**

Most of what happens to a world concerns one player, one NPC, or the map of the NPCs, and leads no pointer to a
player that is not there.  Players enter and leave by three messages only.

Main definitions:

* `MmoServer.NpcWorld.PointsHere`, `MmoServer.NpcWorld.KnapOk` — a pointer to a player of the world, and a map
  that leads to items;
* `MmoServer.NpcWorld.QuietStep`, `MmoServer.NpcWorld.Quiet` — changes that no player enters or leaves by;
* `MmoServer.NpcWorld.Recommands`, `MmoServer.NpcWorld.Entered`, `MmoServer.NpcWorld.Without` — one player has
  another command, one has entered, and some are gone.

Main results:

* `MmoServer.NpcWorld.changeCmd_cases` — **what a new command does**;
* `MmoServer.NpcWorld.handle_quiet` — **a message of a client** is quiet;
* `MmoServer.NpcWorld.update_npcChange` — **an update of an NPC** leads its pointers to players of the world;
* `MmoServer.NpcWorld.step_quiet` — all steps but the three are quiet;
* `MmoServer.NpcWorld.handleSyncPlayer_cases`, `MmoServer.NpcWorld.handleNetworkDisconnect_cases`,
  `MmoServer.NpcWorld.handleG2SRemovePlayer_cases` — **what the three messages do**.
-/

import MmoServer.WorldNpcs
import Mathlib.Logic.Relation

set_option relaxedAutoImplicit false
set_option autoImplicit false

namespace MmoServer

open Std Handler Transition

namespace NpcWorld

variable {fl : NpcFloats} {algs : Heap.Algorithms BtEvent.less} {w t u : NpcWorld fl}

/-! ### Steps that no player takes part in -/

/-- A pointer, if it is not null, leads to a player of the world. -/
def PointsHere (w : NpcWorld fl) (p : Option PlayerRef) : Prop := ∀ q ∈ p, w.Holds q

/-- The map of the items of a player leads to items. -/
def KnapOk (detail : PlayerComponentDetail) : Prop :=
  ∀ (sn : UInt64) (i : ℕ), detail.idxMap[sn]? = some i → i < detail.knap.length

/-- An NPC changes, but keeps its serial number, and gets no pointers but to players of the world. -/
structure NpcChange (w : NpcWorld fl) (npc npc' : Npc fl) : Prop where
  sn : npc'.sn = npc.sn
  target : npc'.target = npc.target ∨ w.PointsHere npc'.target
  linker : npc'.linker = npc.linker ∨ w.PointsHere npc'.linker

/-- One change: to the data of a player, a component of it, an NPC, the map of the NPCs, or the timer's set. -/
inductive QuietStep (w : NpcWorld fl) : NpcWorld fl → Prop
  | setBody (sn : UInt64) (f : PlayerBody fl.toFloatOps → PlayerBody fl.toFloatOps)
      (hknap : KnapOk (w.bodies sn).detail → KnapOk (f (w.bodies sn)).detail) : QuietStep w (w.setBody sn f)
  | setMove (sn : UInt64) (move : Option (MoveComponent fl.toFloatOps)) : QuietStep w (w.setMove sn move)
  | setCmd (sn : UInt64) (cmd : CmdObject fl) (hcmd : ∀ c ∈ cmd.currCmd, w.PointsHere c.target) :
      QuietStep w (w.setCmd sn cmd)
  | setNpc (i : ℕ) (f : WorldNpc fl → WorldNpc fl)
      (hnpc : ∀ npc, w.npcs[i]? = some npc → w.NpcChange npc.object.npc (f npc).object.npc) :
      QuietStep w (w.setNpc i f)
  | insertIdx (sn : UInt64) (hnone : w.npcIdxMap[sn]? = none) :
      QuietStep w { w with npcIdxMap := w.npcIdxMap.insert sn 0 }
  | setAdds (adds : ExtTreeSet UInt64 compare) : QuietStep w { w with adds := adds }
  | setEntries (entries : ℕ) : QuietStep w { w with entries := entries }

/-- Any number of them. -/
def Quiet : NpcWorld fl → NpcWorld fl → Prop := Relation.ReflTransGen QuietStep

theorem Quiet.refl (w : NpcWorld fl) : w.Quiet w := Relation.ReflTransGen.refl

theorem Quiet.trans (h : w.Quiet t) (h' : t.Quiet u) : w.Quiet u := Relation.ReflTransGen.trans h h'

theorem QuietStep.quiet (h : w.QuietStep t) : w.Quiet t := .single h

theorem QuietStep.frame (h : w.QuietStep t) :
    t.playerMgr = w.playerMgr ∧ ∀ sn, (t.extras sn).entry = (w.extras sn).entry := by
  cases h with
  | setBody | setNpc | insertIdx | setAdds | setEntries => exact ⟨rfl, fun _ => rfl⟩
  | setMove sn move | setCmd sn cmd =>
    refine ⟨rfl, fun sn' => ?_⟩
    by_cases hsn : sn' = sn
    · subst hsn
      simp [NpcWorld.setMove, NpcWorld.setCmd]
    · simp [NpcWorld.setMove, NpcWorld.setCmd, hsn]

/-- **No player enters or leaves.** -/
theorem Quiet.frame (h : w.Quiet t) :
    t.playerMgr = w.playerMgr ∧ ∀ sn, (t.extras sn).entry = (w.extras sn).entry := by
  induction h with
  | refl => exact ⟨rfl, fun _ => rfl⟩
  | tail _ hstep ih =>
    obtain ⟨hplayers, hentry⟩ := hstep.frame
    exact ⟨hplayers.trans ih.1, fun sn => (hentry sn).trans (ih.2 sn)⟩

theorem Quiet.held_iff (h : w.Quiet t) {sn : UInt64} : t.Held sn ↔ w.Held sn := by
  rw [Held, Held, h.frame.1]

theorem Quiet.holds_iff (h : w.Quiet t) {p : PlayerRef} : t.Holds p ↔ w.Holds p := by
  rw [Holds, Holds, h.held_iff, h.frame.2]

theorem Quiet.pointsHere_iff (h : w.Quiet t) {p : Option PlayerRef} : t.PointsHere p ↔ w.PointsHere p := by
  simp only [PointsHere, h.holds_iff]

theorem holds_ref {sn : UInt64} : w.Holds (w.ref sn) ↔ w.Held sn := and_iff_left rfl

theorem pointsHere_ref {sn : UInt64} (h : w.Held sn) : w.PointsHere (some (w.ref sn)) := by
  intro p hp
  obtain rfl := Option.some.inj hp
  exact holds_ref.2 h

theorem pointsHere_none : w.PointsHere none := fun _ hp => by cases hp

/-! ### Commands -/

/-- The command of one player changes, and otherwise at most some `MoveComponent`. -/
structure Recommands (w t : NpcWorld fl) (sn : UInt64) (cmd : CmdObject fl) : Prop where
  world : t.toSpaceWorld = w.toSpaceWorld
  npcs : t.npcs = w.npcs
  entry : ∀ sn', (t.extras sn').entry = (w.extras sn').entry
  cmd : ∀ sn', (t.extras sn').cmd = if sn' = sn then cmd else (w.extras sn').cmd

theorem extras_setMove (w : NpcWorld fl) (sn : UInt64) (move : Option (MoveComponent fl.toFloatOps))
    (sn' : UInt64) : ((w.setMove sn move).extras sn').entry = (w.extras sn').entry ∧
      ((w.setMove sn move).extras sn').cmd = (w.extras sn').cmd := by
  by_cases hsn : sn' = sn
  · subst hsn
    simp [setMove]
  · simp [setMove, hsn]

/-- A command that exits gives a component to somebody, or does nothing. -/
theorem exitCmd_cases {pools : Pools fl} {self : PlayerRef} {cmd : Command fl}
    (h : w.exitCmd pools self cmd = some t) : t = w ∨ ∃ sn move, t = w.setMove sn move := by
  rw [exitCmd] at h
  split at h
  · split at h
    · exact .inr ⟨_, _, (Option.some.inj h).symm⟩
    · obtain ⟨heir, -, rfl⟩ := Option.map_eq_some_iff.1 h
      split
      · exact .inr ⟨_, _, rfl⟩
      · exact .inl rfl
  all_goals exact .inl (Option.some.inj h).symm

/-- A new command that enters takes a component from its owner, or does nothing. -/
theorem enterCmd_cases (w : NpcWorld fl) (self : PlayerRef) (new : Option (CommandKind fl)) :
    w.enterCmd self new = w ∨ w.enterCmd self new = w.setMove self.sn none := by
  rw [enterCmd.eq_def]
  split
  · exact .inr rfl
  all_goals exact .inl rfl

/-- **What a new command does.** -/
theorem changeCmd_cases {pools : Pools fl} {self : PlayerRef} {new : Option (CommandKind fl)}
    (h : w.changeCmd pools self new = some t) :
    ∃ u, (u = w ∨ ∃ sn move, u = w.setMove sn move) ∧
      (t = u.setCmd self.sn ⟨(w.extras self.sn).cmd.currCmd, new.map fun kind => ⟨self, kind⟩⟩ ∨
        t = (u.setCmd self.sn ⟨(w.extras self.sn).cmd.currCmd, new.map fun kind => ⟨self, kind⟩⟩).setMove
          self.sn none) := by
  rw [changeCmd] at h
  obtain ⟨u, hexit, rfl⟩ := Option.map_eq_some_iff.1 h
  refine ⟨u, ?_, enterCmd_cases _ self new⟩
  split at hexit
  · exact .inl (Option.some.inj hexit).symm
  · exact exitCmd_cases hexit

theorem changeCmd_recommands {pools : Pools fl} {self : PlayerRef} {new : Option (CommandKind fl)}
    (h : w.changeCmd pools self new = some t) :
    w.Recommands t self.sn ⟨(w.extras self.sn).cmd.currCmd, new.map fun kind => ⟨self, kind⟩⟩ := by
  obtain ⟨u, hu, ht⟩ := changeCmd_cases h
  generalize (⟨(w.extras self.sn).cmd.currCmd, new.map fun kind => ⟨self, kind⟩⟩ : CmdObject fl) = cmd at ht
  have hrest : u.toSpaceWorld = w.toSpaceWorld ∧ u.npcs = w.npcs ∧ ∀ sn,
      (u.extras sn).entry = (w.extras sn).entry ∧ (u.extras sn).cmd = (w.extras sn).cmd := by
    obtain rfl | ⟨sn, move, rfl⟩ := hu
    · exact ⟨rfl, rfl, fun _ => ⟨rfl, rfl⟩⟩
    · exact ⟨rfl, rfl, extras_setMove w sn move⟩
  obtain ⟨hworld, hnpcs, hextras⟩ := hrest
  have hset : ∀ sn, ((u.setCmd self.sn cmd).extras sn).entry = (w.extras sn).entry ∧
      ((u.setCmd self.sn cmd).extras sn).cmd = if sn = self.sn then cmd else (w.extras sn).cmd := by
    intro sn
    by_cases hsn : sn = self.sn
    · subst hsn
      simp [setCmd, hextras]
    · simp [setCmd, hsn, hextras]
  obtain rfl | rfl := ht
  · exact ⟨hworld, hnpcs, fun sn => (hset sn).1, fun sn => (hset sn).2⟩
  · refine ⟨hworld, hnpcs, fun sn => ?_, fun sn => ?_⟩
    · exact (extras_setMove _ self.sn none sn).1.trans (hset sn).1
    · exact (extras_setMove _ self.sn none sn).2.trans (hset sn).2

theorem changeCmd_quiet {pools : Pools fl} {self : PlayerRef} {new : Option (CommandKind fl)}
    (hnew : ∀ kind ∈ new, w.PointsHere (Command.target ⟨self, kind⟩))
    (h : w.changeCmd pools self new = some t) : w.Quiet t := by
  obtain ⟨u, hu, ht⟩ := changeCmd_cases h
  have hexit : w.Quiet u := by
    obtain rfl | ⟨sn, move, rfl⟩ := hu
    · exact .refl _
    · exact (QuietStep.setMove sn move).quiet
  have hset := hexit.trans (QuietStep.quiet (.setCmd self.sn
    ⟨(w.extras self.sn).cmd.currCmd, new.map fun kind => ⟨self, kind⟩⟩ fun c hc => by
      obtain ⟨kind, hkind, rfl⟩ := Option.map_eq_some_iff.1 hc
      exact hexit.pointsHere_iff.2 (hnew kind hkind)))
  obtain rfl | rfl := ht
  · exact hset
  · exact hset.trans (QuietStep.setMove self.sn none).quiet

theorem resetCmd_quiet {pools : Pools fl} {self : PlayerRef} (h : w.resetCmd pools self = some t) :
    w.Quiet t := by
  refine changeCmd_quiet (fun kind hkind => ?_) h
  obtain rfl := Option.some.inj hkind
  exact pointsHere_none

/-! ### Items -/

theorem knapOk_addItem {detail : PlayerComponentDetail} (h : KnapOk detail) (item : ItemData) :
    KnapOk (detail.addItem item) := by
  intro sn i hi
  rw [PlayerComponentDetail.addItem, List.length_append, List.length_singleton]
  cases hitem : detail.idxMap[item.sn]? with
  | some j =>
    simp only [PlayerComponentDetail.addItem, hitem] at hi
    have := h sn i hi
    omega
  | none =>
    simp only [PlayerComponentDetail.addItem, hitem, OrdMap.getElem?_insert] at hi
    split at hi
    · have := Option.some.inj hi
      omega
    · have := h sn i hi
      omega

/-- The vector is read at places that are there, and the map still leads to items. -/
theorem knapOk_updateKnapItem {detail : PlayerComponentDetail} (h : KnapOk detail) (item : ItemData) :
    ∃ detail', detail.updateKnapItem item = some detail' ∧ KnapOk detail' := by
  cases hitem : detail.idxMap[item.sn]? with
  | none =>
    refine ⟨detail.addItem item, ?_, knapOk_addItem h item⟩
    simp only [PlayerComponentDetail.updateKnapItem, hitem]
  | some i =>
    have hlt := h item.sn i hitem
    refine ⟨{ detail with knap := detail.knap.set i (detail.knap[i].place item) }, ?_, fun sn j hj => ?_⟩
    · simp only [PlayerComponentDetail.updateKnapItem, hitem, List.getElem?_eq_getElem hlt]
    · rw [List.length_set]
      exact h sn j hj

/-- A save marks items, and keeps their places. -/
theorem foldlM_saveItem_length {idxMap : ExtTreeMap UInt64 ℕ compare} {items : List ItemData}
    {s s' : PlayerComponentDetail.SaveState}
    (h : items.foldlM (PlayerComponentDetail.saveItem idxMap) s = some s') :
    s'.knap.length = s.knap.length := by
  induction items generalizing s with
  | nil =>
    obtain rfl := Option.some.inj h
    rfl
  | cons old items ih =>
    rw [List.foldlM_cons] at h
    obtain ⟨u, hsave, hrest⟩ := Option.bind_eq_some_iff.1 h
    rw [ih hrest]
    rw [PlayerComponentDetail.saveItem] at hsave
    split at hsave
    · obtain rfl := Option.some.inj hsave
      rfl
    · split at hsave
      · cases hsave
      · split at hsave
        · obtain rfl := Option.some.inj hsave
          rfl
        · obtain rfl := Option.some.inj hsave
          exact List.length_set

theorem knapOk_serializeToProto {detail detail' : PlayerComponentDetail} (h : KnapOk detail)
    {record saved : PlayerProto} (hsave : detail.serializeToProto record = some (saved, detail')) :
    KnapOk detail' := by
  obtain ⟨s, hs, heq⟩ := Option.map_eq_some_iff.1 hsave
  obtain ⟨-, rfl⟩ := Prod.mk.inj heq
  intro sn i hi
  have hlt := h sn i hi
  rw [← foldlM_saveItem_length hs] at hlt
  exact hlt

theorem handleRequestSyncPlayer_quiet {identify : NetIdentify} {record : PlayerProto}
    (h : w.handleRequestSyncPlayer identify record = some t) : w.Quiet t := by
  rw [handleRequestSyncPlayer] at h
  split at h
  · obtain rfl := Option.some.inj h
    exact .refl _
  · rename_i player hplayer
    obtain ⟨⟨saved, detail⟩, hsave, rfl⟩ := Option.map_eq_some_iff.1 h
    exact (QuietStep.setBody _ _ fun hknap => knapOk_serializeToProto hknap hsave).quiet

/-! ### Messages of clients -/

/-- An NPC that is looked up is there, and the look-up is quiet. -/
theorem npcBySn_eq {sn : UInt64} {i : ℕ} {npc : WorldNpc fl} (h : w.npcBySn sn = some (i, npc, t)) :
    w.Quiet t ∧ t.npcs[i]? = some npc ∧ t.toSpaceWorld = w.toSpaceWorld ∧ t.extras = w.extras ∧
      t.npcs = w.npcs := by
  rw [npcBySn, npcIdx] at h
  cases hidx : w.npcIdxMap[sn]? with
  | some j =>
    simp only [hidx] at h
    obtain ⟨npc', hnpc, heq⟩ := Option.map_eq_some_iff.1 h
    obtain ⟨rfl, rfl, rfl⟩ := heq
    exact ⟨.refl _, hnpc, rfl, rfl, rfl⟩
  | none =>
    simp only [hidx] at h
    obtain ⟨npc', hnpc, heq⟩ := Option.map_eq_some_iff.1 h
    obtain ⟨rfl, rfl, rfl⟩ := heq
    exact ⟨(QuietStep.insertIdx sn hidx).quiet, hnpc, rfl, rfl, rfl⟩

theorem npcChange_refl (npc : Npc fl) : w.NpcChange npc npc := ⟨rfl, .inl rfl, .inl rfl⟩

/-- A change of the data of a player that does not concern its items. -/
theorem setBody_quiet (sn : UInt64) (f : PlayerBody fl.toFloatOps → PlayerBody fl.toFloatOps)
    (hknap : (f (w.bodies sn)).detail.knap = (w.bodies sn).detail.knap)
    (hidx : (f (w.bodies sn)).detail.idxMap = (w.bodies sn).detail.idxMap) : w.Quiet (w.setBody sn f) := by
  refine (QuietStep.setBody sn f fun h => ?_).quiet
  rw [KnapOk, hknap, hidx]
  exact h

theorem getDamage_npcChange (algs : Heap.Algorithms BtEvent.less) {o : NpcObject fl} {attacker : PlayerRef}
    (hattacker : w.Holds attacker) (atk : ℤ) (rolls : DropRolls) :
    w.NpcChange o.npc (o.getDamage algs attacker atk rolls).1.npc := by
  rw [NpcObject.getDamage]
  dsimp only
  split
  · refine ⟨rfl, .inr fun q hq => ?_, .inl rfl⟩
    obtain rfl := Option.some.inj hq
    exact hattacker
  · exact ⟨rfl, .inl rfl, .inl rfl⟩

theorem damageNpc_quiet {outside : Outside fl} {i : ℕ} {npc : WorldNpc fl} {attacker : UInt64}
    (hnpc : w.npcs[i]? = some npc) (hattacker : w.Held attacker)
    (h : w.damageNpc algs outside i npc attacker = some t) : w.Quiet t := by
  have hchange := getDamage_npcChange algs (o := npc.object) (holds_ref.2 hattacker)
    (w.bodies attacker).detail.atk.toInt outside.rolls
  rw [damageNpc] at h
  generalize npc.object.getDamage algs (w.ref attacker) (w.bodies attacker).detail.atk.toInt outside.rolls =
    res at h hchange
  obtain ⟨object, rewards⟩ := res
  have hset : w.Quiet (w.setNpc i fun npc => { npc with object := object }) :=
    (QuietStep.setNpc i _ fun npc' hnpc' => by
      obtain rfl := Option.some.inj (hnpc.symm.trans hnpc')
      exact hchange).quiet
  cases rewards with
  | none =>
    obtain rfl := Option.some.inj h
    exact hset
  | some list =>
    obtain ⟨u, hreset, rfl⟩ := Option.map_eq_some_iff.1 h
    exact (hset.trans (resetCmd_quiet hreset)).trans (setBody_quiet attacker _ rfl rfl)

theorem damagePlayer_quiet (w : NpcWorld fl) (sn : UInt64) (atk : ℤ) : w.Quiet (w.damagePlayer sn atk).1 := by
  rw [damagePlayer]
  exact setBody_quiet sn (fun body => { body with detail := (w.bodies sn).detail.damaged atk }) rfl rfl

theorem getDamageByPlayer_quiet {outside : Outside fl} {sn atker : UInt64}
    (h : w.getDamageByPlayer outside sn atker = some t) : w.Quiet t := by
  rw [getDamageByPlayer] at h
  have hdamage := damagePlayer_quiet w sn (w.bodies atker).detail.atk.toInt
  generalize w.damagePlayer sn (w.bodies atker).detail.atk.toInt = res at h hdamage
  obtain ⟨v, dead⟩ := res
  obtain ⟨u, hu, h⟩ := Option.bind_eq_some_iff.1 h
  split at h
  · obtain rfl := Option.some.inj h
    split at hu
    · exact hdamage.trans (resetCmd_quiet hu)
    · obtain rfl := Option.some.inj hu
      exact hdamage
  · cases h

theorem getDamageByNpc_quiet {outside : Outside fl} {sn : UInt64} {enemy : Npc fl}
    (h : w.getDamageByNpc outside sn enemy = some t) : w.Quiet t := by
  have hdamage := damagePlayer_quiet w sn enemy.atk
  rw [getDamageByNpc] at h
  dsimp only at h
  split at h
  · obtain rfl := Option.some.inj h
    exact hdamage
  · cases h

/-- The command that is made is about a player of the world, if it is about one. -/
theorem makeCmd_eq {type : CmdType} {targetSn : UInt64} {point : Vector3 fl.toFloatOps} {kind : CommandKind fl}
    (h : w.makeCmd type targetSn point = some (kind, t)) :
    w.Quiet t ∧ ∀ self, w.PointsHere (Command.target ⟨self, kind⟩) := by
  cases type with
  | none | move | pick | teleport =>
    cases h
    exact ⟨.refl _, fun _ => pointsHere_none⟩
  | attack =>
    obtain ⟨⟨i, npc, u⟩, hnpc, heq⟩ := Option.map_eq_some_iff.1 h
    cases heq
    exact ⟨(npcBySn_eq hnpc).1, fun _ => pointsHere_none⟩
  | observe | pvp =>
    rw [makeCmd] at h
    split at h
    · rename_i hheld
      cases h
      exact ⟨.refl _, fun _ => pointsHere_ref hheld⟩
    · cases h

/-- **A message of a player** is quiet. -/
theorem handleFrom_quiet {outside : Outside fl} {sn : UInt64} {msg : ClientMsg fl} (hsn : w.Held sn)
    (h : w.handleFrom algs outside sn msg = some t) : w.Quiet t := by
  cases msg with
  | playerMove sn' points =>
    obtain rfl := Option.some.inj h
    exact (QuietStep.setMove sn _).quiet
  | npcMove npcSn running points =>
    obtain ⟨⟨i, npc, u⟩, hnpc, rfl⟩ := Option.map_eq_some_iff.1 h
    refine (npcBySn_eq hnpc).1.trans (QuietStep.quiet ?_)
    exact .setNpc i _ fun npc' _ => npcChange_refl npc'.object.npc
  | syncNpcPos npcSn pos =>
    obtain ⟨⟨i, npc, u⟩, hnpc, rfl⟩ := Option.map_eq_some_iff.1 h
    refine (npcBySn_eq hnpc).1.trans (QuietStep.quiet ?_)
    exact .setNpc i _ fun npc' _ => ⟨rfl, .inl rfl, .inl rfl⟩
  | updateKnapItem item =>
    obtain ⟨detail, hdetail, rfl⟩ := Option.map_eq_some_iff.1 h
    refine (QuietStep.setBody sn _ fun hknap => ?_).quiet
    obtain ⟨detail', hdetail', hok⟩ := knapOk_updateKnapItem hknap item
    obtain rfl := Option.some.inj (hdetail.symm.trans hdetail')
    exact hok
  | updateKnapGold gold =>
    obtain rfl := Option.some.inj h
    exact setBody_quiet sn _ rfl rfl
  | getPlayerKnap =>
    obtain rfl := Option.some.inj h
    exact .refl _
  | syncPlayerPos pos =>
    obtain rfl := Option.some.inj h
    exact setBody_quiet sn _ rfl rfl
  | syncPlayerCmd type targetSn point =>
    rw [handleFrom, handleSyncPlayerCmd] at h
    split at h
    · obtain rfl := Option.some.inj h
      exact .refl _
    · obtain ⟨⟨kind, u⟩, hmake, hchange⟩ := Option.bind_eq_some_iff.1 h
      obtain ⟨hquiet, htarget⟩ := makeCmd_eq hmake
      refine hquiet.trans (changeCmd_quiet (fun kind' hkind => ?_) hchange)
      obtain rfl := Option.some.inj hkind
      exact hquiet.pointsHere_iff.2 (htarget _)
  | reqSyncPlayer playerSn =>
    rw [handleFrom, handleReqSyncPlayer] at h
    split at h
    · obtain rfl := Option.some.inj h
      exact .refl _
    · cases h
  | reqNpcInfo npcId =>
    obtain ⟨npc, -, rfl⟩ := Option.map_eq_some_iff.1 h
    exact .refl _
  | syncBtAction id =>
    obtain ⟨npc, -, rfl⟩ := Option.map_eq_some_iff.1 h
    split
    · exact .refl _
    · refine QuietStep.quiet ?_
      exact .setNpc id.toNat _ fun npc' _ => ⟨rfl, .inl rfl, .inr (pointsHere_ref hsn)⟩
  | playerAtkEvent targetSn =>
    rw [handleFrom, handlePlayerAtkEvent] at h
    split at h
    · exact getDamageByPlayer_quiet h
    · split at h
      · obtain ⟨⟨i, npc, u⟩, hnpc, hdamage⟩ := Option.bind_eq_some_iff.1 h
        obtain ⟨hquiet, hget, -⟩ := npcBySn_eq hnpc
        exact hquiet.trans (damageNpc_quiet hget (hquiet.held_iff.2 hsn) hdamage)
      · obtain rfl := Option.some.inj h
        exact setBody_quiet sn _ rfl rfl
  | npcAtkEvent npcSn =>
    obtain ⟨⟨i, npc, u⟩, hnpc, hdamage⟩ := Option.bind_eq_some_iff.1 h
    exact (npcBySn_eq hnpc).1.trans (getDamageByNpc_quiet hdamage)

theorem held_getPlayer {identify : NetIdentify} {player : Player}
    (h : World.getPlayer w.playerMgr identify = some player) : w.Held player.playerSn := by
  rw [Held, SpaceWorld.getPlayer_held h]
  rfl

theorem handle_quiet {outside : Outside fl} {identify : NetIdentify} {msg : ClientMsg fl}
    (h : w.handle algs outside identify msg = some t) : w.Quiet t := by
  rw [handle.eq_def] at h
  cases hplayer : World.getPlayer w.playerMgr identify with
  | some player =>
    simp only [hplayer] at h
    exact handleFrom_quiet (held_getPlayer hplayer) h
  | none =>
    simp only [hplayer] at h
    split at h
    · obtain ⟨⟨i, npc, u⟩, hnpc, rfl⟩ := Option.map_eq_some_iff.1 h
      refine (npcBySn_eq hnpc).1.trans (QuietStep.quiet ?_)
      exact .setNpc i _ fun npc' _ => ⟨rfl, .inl rfl, .inl rfl⟩
    · obtain rfl := Option.some.inj h
      exact .refl _

/-! ### Updates -/

/-- A search over players ends with one of them, or with what it began with. -/
theorem mem_foldl_players {β : Type*} {f : β × Option PlayerRef → PlayerRef → β × Option PlayerRef}
    (hf : ∀ acc one, (f acc one).2 = some one ∨ (f acc one).2 = acc.2) {players : List PlayerRef}
    {acc : β × Option PlayerRef} {p : PlayerRef} (h : p ∈ (players.foldl f acc).2) : p ∈ acc.2 ∨ p ∈ players := by
  induction players generalizing acc with
  | nil => exact .inl h
  | cons one players ih =>
    rcases ih h with hacc | hrest
    · rcases hf acc one with hone | hsame
      · rw [hone] at hacc
        exact .inr (List.mem_cons.2 (.inl (Option.some.inj hacc).symm))
      · rw [hsame] at hacc
        exact .inl hacc
    · exact .inr (List.mem_cons_of_mem _ hrest)

theorem getNearestPlayer_mem {sur : Surroundings fl} {pos : Vector3 fl.toFloatOps} {p : PlayerRef}
    (h : p ∈ sur.getNearestPlayer pos) : p ∈ sur.players := by
  rw [Surroundings.getNearestPlayer] at h
  refine (mem_foldl_players (fun acc one => ?_) h).resolve_left fun hnone => by cases hnone
  dsimp only
  split
  · exact .inl rfl
  · exact .inr rfl

/-- The players around an NPC are those of the world. -/
theorem holds_of_mem_surroundings {timeTick : UInt64} {roll : Fin 4} {p : PlayerRef}
    (h : p ∈ (w.surroundings timeTick roll).players) : w.Holds p := by
  obtain ⟨player, hplayer, rfl⟩ := List.mem_map.1 h
  rw [holds_ref, Held, SpaceWorld.mem_players.1 hplayer]
  rfl

theorem pointsHere_getNearestPlayer (w : NpcWorld fl) (pos : Vector3 fl.toFloatOps) :
    w.PointsHere (w.getNearestPlayer pos) :=
  fun _ hp => holds_of_mem_surroundings (getNearestPlayer_mem hp)

end NpcWorld

namespace NpcEnv

variable {fl : NpcFloats} {algs : Heap.Algorithms BtEvent.less}

/-- An NPC keeps its serial number, and a pointer that changes leads to a player around it. -/
structure PointsAround (env env' : NpcEnv fl) : Prop where
  sn : env'.npc.sn = env.npc.sn
  sur : env'.sur = env.sur
  target : env'.npc.target = env.npc.target ∨ ∀ p ∈ env'.npc.target, p ∈ env.sur.players
  linker : env'.npc.linker = env.npc.linker ∨ ∀ p ∈ env'.npc.linker, p ∈ env.sur.players

theorem PointsAround.refl (env : NpcEnv fl) : env.PointsAround env := ⟨rfl, rfl, .inl rfl, .inl rfl⟩

theorem PointsAround.trans {env₁ env₂ env₃ : NpcEnv fl} (h : env₁.PointsAround env₂)
    (h' : env₂.PointsAround env₃) : env₁.PointsAround env₃ where
  sn := h'.sn.trans h.sn
  sur := h'.sur.trans h.sur
  target := by
    rcases h'.target with htarget | htarget
    · rw [htarget]
      exact h.target
    · rw [h.sur] at htarget
      exact .inr htarget
  linker := by
    rcases h'.linker with hlinker | hlinker
    · rw [hlinker]
      exact h.linker
    · rw [h.sur] at hlinker
      exact .inr hlinker

theorem pointsAround_broadcastTarget (id : BtEventId) (env : NpcEnv fl) :
    env.PointsAround (env.broadcastTarget id) := by
  rw [broadcastTarget]
  split
  · exact .refl env
  · exact ⟨rfl, rfl, .inl rfl, .inl rfl⟩

theorem pointsAround_enter (act : BtAct) (env : NpcEnv fl) : env.PointsAround (enter act env).2 := by
  have hnone : ∀ p ∈ (none : Option PlayerRef), p ∈ env.sur.players := fun p hp => by cases hp
  rw [enter]
  cases act.kind with
  | attack | pursue =>
    have hstart : env.PointsAround { env with curAct := some act.number } := ⟨rfl, rfl, .inl rfl, .inl rfl⟩
    exact hstart.trans (pointsAround_broadcastTarget _ _)
  | birth => exact ⟨rfl, rfl, .inr hnone, .inr hnone⟩
  | death => exact ⟨rfl, rfl, .inr hnone, .inr hnone⟩
  | flee => exact ⟨rfl, rfl, .inl rfl, .inl rfl⟩
  | idle => exact ⟨rfl, rfl, .inr hnone, .inl rfl⟩
  | patrol => exact ⟨rfl, rfl, .inr hnone, .inl rfl⟩
  | sense | view => exact .refl env

theorem pointsAround_exit (act : BtAct) (env : NpcEnv fl) : env.PointsAround (exit act env).2 := by
  rw [exit]
  cases act.kind with
  | flee =>
    refine ⟨rfl, rfl, .inr fun p hp => ?_, .inl rfl⟩
    cases hp
  | attack | idle | patrol | pursue | birth | death | sense | view => exact ⟨rfl, rfl, .inl rfl, .inl rfl⟩

/-- The linker that an NPC looks for is the nearest player. -/
theorem pointsAround_viewLinker (env : NpcEnv fl) : env.PointsAround env.viewLinker := by
  rw [viewLinker]
  split
  · exact .refl env
  · have hlinker : env.PointsAround (env.setLinkPlayer (env.sur.getNearestPlayer env.npc.currPos)) := by
      rw [setLinkPlayer]
      split
      · exact ⟨rfl, rfl, .inl rfl, .inr fun p hp => NpcWorld.getNearestPlayer_mem hp⟩
      · exact ⟨rfl, rfl, .inl rfl, .inr fun p hp => NpcWorld.getNearestPlayer_mem hp⟩
    dsimp only
    split
    · exact hlinker
    · exact hlinker.trans ⟨rfl, rfl, .inl rfl, .inl rfl⟩

/-- The target that it looks for is a player that is near. -/
theorem pointsAround_viewTarget (env : NpcEnv fl) : env.PointsAround (env.viewTarget algs) := by
  rw [viewTarget]
  split
  · exact .refl env
  · dsimp only
    split
    · exact .refl env
    · rename_i player hplayer
      refine ⟨rfl, rfl, .inr fun p hp => ?_, .inl rfl⟩
      obtain rfl := Option.some.inj hp
      exact List.mem_of_find?_eq_some hplayer

theorem pointsAround_task (act : BtAct) (env : NpcEnv fl) : env.PointsAround (task algs act env).2.2 := by
  rw [task]
  cases act.kind with
  | view =>
    have hhome : ∀ env : NpcEnv fl, env.PointsAround (env.viewHome algs) := by
      intro env
      rw [viewHome]
      split
      · exact ⟨rfl, rfl, .inl rfl, .inl rfl⟩
      · exact .refl env
    exact (env.pointsAround_viewLinker.trans (pointsAround_viewTarget _)).trans (hhome _)
  | attack | birth | death | flee | idle | patrol | pursue | sense =>
    simp only [attackTask, birthTask, deathTask, fleeTask, idleTask, patrolTask, pursueTask, senseTask]
    split_ifs <;> exact ⟨rfl, rfl, .inl rfl, .inl rfl⟩

theorem keeps_pointsAround :
    (npcActions algs : BtAction BtAct (NpcEnv fl)).Keeps (fun _ => True) PointsAround where
  refl := .refl
  trans := .trans
  exit act env _ := ⟨trivial, pointsAround_exit act env⟩
  enter act env _ := ⟨trivial, pointsAround_enter act env⟩
  task act env _ := ⟨trivial, pointsAround_task act env⟩

end NpcEnv

namespace NpcWorld

variable {fl : NpcFloats} {algs : Heap.Algorithms BtEvent.less} {w t : NpcWorld fl}

/-- The events of an update. -/
theorem handleEvents_pointsAround {rounds : ℕ} {root root' : BtNode BtAct} {env env' : NpcEnv fl}
    {ids : List BtEventId} (h : NpcObject.handleEvents algs rounds root env = some (ids, root', env')) :
    env.PointsAround env' := by
  induction rounds generalizing root env ids with
  | zero =>
    obtain ⟨-, -, rfl, -⟩ | ⟨_, _, _, _, _, _, hrounds, -⟩ := handleEvents_cases h
    · exact .refl env'
    · cases hrounds
  | succ rounds ih =>
    obtain ⟨-, -, rfl, -⟩ | ⟨_, id, events, root₁, env₁, ids₁, ⟨rfl⟩, -, hhandle, hloop⟩ :=
      handleEvents_cases h
    · exact .refl env'
    · have hevent := (BtNode.handleEvent_keeps NpcEnv.keeps_pointsAround.toExitKeeps id root _ root₁ env₁ hhandle
        (BtNode.allLeaves_true root)).2
      have hpop : env.PointsAround { env with events := events } := ⟨rfl, rfl, .inl rfl, .inl rfl⟩
      exact (hpop.trans hevent).trans (ih hloop)

/-- **An update of an NPC** leads its pointers to players of the world, or leaves them. -/
theorem update_npcChange {o o' : NpcObject fl} {timeTick : UInt64} {roll : Fin 4} {notes : List NpcNote}
    (h : o.update algs (w.surroundings timeTick roll) = some (o', notes)) : w.NpcChange o.npc o'.npc := by
  have htick := (BtNode.tick_keeps NpcEnv.keeps_pointsAround o.root (o.env (w.surroundings timeTick roll))
    (BtNode.allLeaves_true o.root) : _ ∧ NpcEnv.PointsAround _ (o.root.tick (npcActions algs) _).2).2
  rw [NpcObject.update] at h
  obtain ⟨⟨ids, root, env⟩, hevents, heq⟩ := Option.map_eq_some_iff.1 h
  cases heq
  have hall := htick.trans (handleEvents_pointsAround hevents)
  refine ⟨hall.sn, hall.target.imp id fun htarget p hp => ?_, hall.linker.imp id fun hlinker p hp => ?_⟩
  · exact holds_of_mem_surroundings (htarget p hp)
  · exact holds_of_mem_surroundings (hlinker p hp)

theorem updateNpc_quiet {i : ℕ} {timeTick : UInt64} {roll : Fin 4}
    (h : w.updateNpc algs i timeTick roll = some t) : w.Quiet t := by
  obtain ⟨npc, hnpc, h⟩ := Option.bind_eq_some_iff.1 h
  obtain ⟨⟨object, notes⟩, hupdate, rfl⟩ := Option.map_eq_some_iff.1 h
  refine QuietStep.quiet (.setNpc i _ fun npc' hnpc' => ?_)
  obtain rfl := Option.some.inj (hnpc.symm.trans hnpc')
  exact update_npcChange hupdate

theorem updateCmd_quiet {pools : Pools fl} {sn : UInt64} (h : w.updateCmd pools sn = some t) : w.Quiet t := by
  rw [updateCmd] at h
  split at h
  · obtain rfl := Option.some.inj h
    exact .refl _
  · obtain ⟨finish, -, h⟩ := Option.bind_eq_some_iff.1 h
    split at h
    · exact changeCmd_quiet (fun kind hkind => by cases hkind) h
    · obtain rfl := Option.some.inj h
      exact .refl _

theorem movePlayer_quiet (w : NpcWorld fl) (sn : UInt64) (timeElapsed : fl.F) :
    w.Quiet (w.movePlayer sn timeElapsed) := by
  rw [movePlayer]
  split
  · exact .refl _
  · exact (setBody_quiet sn _ rfl rfl).trans (QuietStep.setMove sn _).quiet

/-- **All other events** are quiet. -/
theorem step_quiet {e : WorldEvent fl} (he : e.entersOrLeaves = false)
    (h : w.step algs e = some t) : w.Quiet t := by
  cases e with
  | syncPlayer | networkDisconnect | removePlayer => cases he
  | requestSyncPlayer identify record => exact handleRequestSyncPlayer_quiet h
  | client outside identify msg => exact handle_quiet h
  | syncAppear =>
    obtain rfl := Option.some.inj h
    exact QuietStep.quiet (.setAdds ∅)
  | updateNpc i timeTick roll => exact updateNpc_quiet h
  | updateCmd pools sn =>
    rw [step] at h
    split at h
    · exact updateCmd_quiet h
    · cases h
  | moveNpc i timeElapsed =>
    obtain rfl := Option.some.inj h
    exact QuietStep.quiet (.setNpc i _ fun npc _ => ⟨rfl, .inl rfl, .inl rfl⟩)
  | movePlayer sn timeElapsed =>
    rw [step] at h
    split at h
    · obtain rfl := Option.some.inj h
      exact movePlayer_quiet w sn timeElapsed
    · cases h
  | enterElsewhere =>
    obtain rfl := Option.some.inj h
    exact QuietStep.quiet (.setEntries (w.entries + 1))

/-! ### Players that enter and leave -/

/-- The socket of a player of the world is the one that was closed. -/
def Cut (w : NpcWorld fl) (identify : NetIdentify) (sn : UInt64) : Prop :=
  ∃ player, w.playerMgr.getPlayerBySn sn = some player ∧
    player.socketKey.socket = identify.socketKey.socket

/-- A player has entered, with a new entry. -/
structure Entered (w t : NpcWorld fl) (proto : SyncPlayer fl.toFloatOps) (cmd : CmdObject fl)
    (object : Option PlayerRef) : Prop where
  free : ¬ w.Held proto.playerSn
  earlier : w.Earlier cmd
  gone : w.Gone object
  held : ∀ sn, t.Held sn ↔ sn = proto.playerSn ∨ w.Held sn
  bodies : t.bodies = Function.update w.bodies proto.playerSn
    ⟨proto.name, .parserFromProto proto.player, proto.position⟩
  extras : t.extras = Function.update w.extras proto.playerSn ⟨w.entries, cmd, none⟩
  npcs : t.npcs = w.npcs.map fun npc =>
    { npc with object := npc.object.renewed object ⟨proto.playerSn, w.entries⟩ }
  npcIdxMap : t.npcIdxMap = w.npcIdxMap

/-- Pointers to players of the world stay as they are, whatever object of the pool is taken. -/
theorem Gone.renewed_eq {object p : Option PlayerRef} (h : w.Gone object) (hp : w.PointsHere p) (player : PlayerRef) :
    PlayerRef.renewed object player p = p := by
  refine if_neg ?_
  rintro ⟨hsome, rfl⟩
  obtain ⟨q, rfl⟩ := Option.isSome_iff_exists.1 hsome
  exact (h q rfl).2 (hp q rfl)

/-- Some players are no longer held. -/
structure Without (w t : NpcWorld fl) (gone : UInt64 → Prop) : Prop where
  held : ∀ sn, t.Held sn ↔ ¬ gone sn ∧ w.Held sn
  bodies : t.bodies = w.bodies
  extras : t.extras = w.extras
  npcs : t.npcs = w.npcs
  npcIdxMap : t.npcIdxMap = w.npcIdxMap

theorem handleSyncPlayer_cases {identify : NetIdentify} {proto : SyncPlayer fl.toFloatOps} {cmd : CmdObject fl}
    {object : Option PlayerRef} (h : w.handleSyncPlayer identify proto cmd object = some t) :
    w.Held proto.playerSn ∧ t = w ∨ w.Entered t proto cmd object := by
  rw [handleSyncPlayer] at h
  split at h
  · rename_i hheld
    exact .inl ⟨hheld, (Option.some.inj h).symm⟩
  · rename_i hfree
    split at h
    · rename_i hpools
      obtain ⟨world, hworld, rfl⟩ := Option.map_eq_some_iff.1 h
      have hspec := SpaceWorld.handleSyncPlayer_spec identify proto world hworld
      generalize (w.toSpaceWorld.handleSyncPlayer identify proto).sent = sent at hspec
      cases hspec with
      | known hheld => exact absurd hheld hfree
      | enters hsn hnone hplayers =>
        refine .inr ⟨hfree, hpools.1, hpools.2, fun sn => ?_, rfl, rfl, rfl, rfl⟩
        rw [Held, Held]
        dsimp only
        rw [hplayers]
        by_cases heq : proto.playerSn = sn
        · simp [heq]
        · simp [heq, Ne.symm heq]
    · cases h

/-- A player is taken out of the manager. -/
theorem without_removePlayerBySn (w : NpcWorld fl) (playerSn : UInt64) :
    w.Without { w with playerMgr := w.playerMgr.removePlayerBySn playerSn } (· = playerSn) := by
  refine ⟨fun sn => ?_, rfl, rfl, rfl, rfl⟩
  rw [Held, Held]
  dsimp only
  rw [PlayerManager.getPlayerBySn_removePlayerBySn]
  by_cases heq : playerSn = sn
  · simp [heq]
  · simp [heq, Ne.symm heq]

theorem without_removeAllPlayers (w : NpcWorld fl) (identify : NetIdentify) :
    w.Without { w with playerMgr := w.playerMgr.removeAllPlayers identify.socketKey.socket }
      (w.Cut identify) := by
  refine ⟨fun sn => ?_, rfl, rfl, rfl, rfl⟩
  have hget : (w.playerMgr.removeAllPlayers identify.socketKey.socket).getPlayerBySn sn =
      (w.playerMgr.getPlayerBySn sn).filter fun q => q.socketKey.socket ≠ identify.socketKey.socket :=
    ExtTreeMap.getElem?_filter'
  rw [Held, Held, Cut]
  dsimp only
  rw [hget]
  cases w.playerMgr.getPlayerBySn sn with
  | none => simp
  | some player => simp [Option.filter_some]

/-- What a lost connection does: nothing, or one player disappears, or the players of one socket go. -/
theorem handleNetworkDisconnect_cases {pools : Pools fl} {identify : NetIdentify}
    (h : w.handleNetworkDisconnect algs pools identify = some t) :
    (∃ value, identify.tagKey.getTagValue .player = some value ∧
      (¬ w.Held value.keyInt64 ∧ t = w ∨ w.Held value.keyInt64 ∧ ∃ left : NpcWorld fl,
        w.Without left (· = value.keyInt64) ∧
          left.playerDisappear algs pools (w.ref value.keyInt64) = some t)) ∨
      identify.tagKey.getTagValue .player = none ∧
        (identify.tagKey.getTagValue .app = none ∧ t = w ∨
          (identify.tagKey.getTagValue .app).isSome ∧ w.Without t (w.Cut identify)) := by
  rw [handleNetworkDisconnect] at h
  obtain ⟨world, hworld, h⟩ := Option.bind_eq_some_iff.1 h
  dsimp only at h
  rw [SpaceWorld.handleNetworkDisconnect] at hworld
  cases hplayer : identify.tagKey.getTagValue .player with
  | some value =>
    refine .inl ⟨value, rfl, ?_⟩
    cases hheld : w.playerMgr.getPlayerBySn value.keyInt64 with
    | none =>
      simp only [hplayer, hheld, Option.bind_some] at hworld h
      refine .inl ⟨?_, ?_⟩
      · rw [Held, hheld]
        exact Bool.false_ne_true
      · obtain rfl := Option.some.inj hworld
        exact (Option.some.inj h).symm
    | some player =>
      simp only [hplayer, hheld, Option.bind_some] at hworld h
      obtain rfl := Option.some.inj hworld
      rw [PlayerManager.getPlayerBySn_some hheld] at h
      have hhere : w.Held value.keyInt64 := by
        rw [Held, hheld]
        rfl
      exact .inr ⟨hhere, _, without_removePlayerBySn w value.keyInt64, h⟩
  | none =>
    refine .inr ⟨rfl, ?_⟩
    cases happ : identify.tagKey.getTagValue .app with
    | none =>
      simp only [hplayer, happ, Option.bind_none] at hworld h
      obtain rfl := Option.some.inj hworld
      exact .inl ⟨rfl, (Option.some.inj h).symm⟩
    | some value =>
      simp only [hplayer, happ, Option.bind_none] at hworld h
      obtain rfl := Option.some.inj hworld
      obtain rfl := Option.some.inj h
      exact .inr ⟨rfl, without_removeAllPlayers w identify⟩

/-- What the message that removes a player does: nothing, or the player disappears. -/
theorem handleG2SRemovePlayer_cases {pools : Pools fl} {identify : NetIdentify} {playerSn : UInt64}
    (h : w.handleG2SRemovePlayer algs pools identify playerSn = some t) :
    (∀ player ∈ World.getPlayer w.playerMgr identify, player.playerSn ≠ playerSn) ∧ t = w ∨
      (∃ player ∈ World.getPlayer w.playerMgr identify, player.playerSn = playerSn) ∧ w.Held playerSn ∧
        ∃ left : NpcWorld fl, w.Without left (· = playerSn) ∧
          left.playerDisappear algs pools (w.ref playerSn) = some t := by
  rw [handleG2SRemovePlayer] at h
  obtain ⟨world, hworld, h⟩ := Option.bind_eq_some_iff.1 h
  dsimp only at h
  rw [SpaceWorld.handleG2SRemovePlayer] at hworld
  cases hplayer : World.getPlayer w.playerMgr identify with
  | none =>
    simp only [hplayer] at hworld h
    obtain rfl := Option.some.inj hworld
    exact .inl ⟨fun _ hmem => (by cases hmem), (Option.some.inj h).symm⟩
  | some player =>
    simp only [hplayer] at hworld h
    by_cases hsn : playerSn = player.playerSn
    · subst hsn
      simp only [ne_eq, not_true_eq_false, if_false] at hworld h
      obtain rfl := Option.some.inj hworld
      exact .inr ⟨⟨player, rfl, rfl⟩, held_getPlayer hplayer, _, without_removePlayerBySn w player.playerSn, h⟩
    · rw [if_pos hsn] at hworld h
      obtain rfl := Option.some.inj hworld
      refine .inl ⟨fun q hq => ?_, (Option.some.inj h).symm⟩
      obtain rfl := Option.some.inj hq
      exact Ne.symm hsn

end NpcWorld

end MmoServer
