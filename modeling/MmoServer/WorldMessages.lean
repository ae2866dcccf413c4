/-
**What the messages of clients may name.**

The handlers of a world look NPCs up by a map from their serial numbers to their places, and by the places
themselves; players are looked up by their serial numbers.  The map invents the first place for a number that it
does not know, the places are not compared with the number of NPCs, and no look-up of a player is checked.

Main definitions:

* `MmoServer.NpcWorld.HasNpc` — the world has an NPC with a serial number;
* `MmoServer.NpcWorld.MapsSound` — the map of the NPCs and those of the players' items lead to what is there;
* `MmoServer.NpcWorld.CanExit` — the current command of a player can exit;
* `MmoServer.NpcWorld.Names`, `MmoServer.NpcWorld.Reads` — what a message names is there, and what its handler
  reads is there;
* `MmoServer.NpcWorld.Robust` — what should hold of a message: its handler finishes, and changes nothing for a
  message that names what is not there.

Main results:

* `MmoServer.NpcWorld.mapsSound_run` — **the maps are sound** after every run;
* `MmoServer.NpcWorld.npcBySn_of_hasNpc`, `MmoServer.NpcWorld.npcBySn_of_not_hasNpc` — an NPC that is there is
  found, and **one that is not there is taken for the first one**;
* `MmoServer.messages_run` — **a handler finishes** exactly if what it reads is there, and is robust if the
  message names what is there;
* `MmoServer.not_robust` — a number that no NPC has moves the first NPC.
-/

import MmoServer.StalePointers

set_option relaxedAutoImplicit false
set_option autoImplicit false

namespace MmoServer

open Std Handler Transition

/-- `NoneCommand`. -/
def Command.idle {fl : NpcFloats} (cmd : Command fl) : Bool :=
  match cmd.kind with
  | .none => true
  | .move _ | .attack _ | .pick _ _ | .teleport _ | .observe _ | .pvp _ => false

/-- The position of an NPC, its hp, its pointers and its path. -/
def WorldNpc.state {fl : NpcFloats} (npc : WorldNpc fl) :
    Vector3 fl.toFloatOps × ℤ × Option PlayerRef × Option PlayerRef × MoveComponent fl.toFloatOps :=
  (npc.object.npc.currPos, npc.object.npc.hp, npc.object.npc.target, npc.object.npc.linker, npc.move)

namespace NpcWorld

variable {fl : NpcFloats}

/-- The world has an NPC with the serial number. -/
def HasNpc (w : NpcWorld fl) (sn : UInt64) : Prop := ∃ npc ∈ w.npcs, npc.object.npc.sn = sn

instance (w : NpcWorld fl) (sn : UInt64) : Decidable (w.HasNpc sn) :=
  inferInstanceAs (Decidable (∃ npc ∈ w.npcs, npc.object.npc.sn = sn))

/-- **The maps are sound.**  The map of the NPCs leads each of them to its place, and every other number that it
has to the first place; the maps of the players' items lead to items. -/
structure MapsSound (w : NpcWorld fl) : Prop where
  npcs : ∀ (i : ℕ) (npc : WorldNpc fl), w.npcs[i]? = some npc → w.npcIdxMap[npc.object.npc.sn]? = some i
  invented : ∀ (sn : UInt64) (i : ℕ), w.npcIdxMap[sn]? = some i → w.HasNpc sn ∨ i = 0
  items : ∀ sn, w.Held sn → KnapOk (w.bodies sn).detail

variable {algs : Heap.Algorithms BtEvent.less} {w t : NpcWorld fl}

/-! ### The maps -/

/-- The serial numbers of the NPCs. -/
def sns (w : NpcWorld fl) : List UInt64 := w.npcs.map fun npc => npc.object.npc.sn

theorem hasNpc_iff {sn : UInt64} : w.HasNpc sn ↔ sn ∈ w.sns := by
  rw [sns, List.mem_map, HasNpc]

theorem getElem?_sns {i : ℕ} {sn : UInt64} :
    w.sns[i]? = some sn ↔ ∃ npc, w.npcs[i]? = some npc ∧ npc.object.npc.sn = sn := by
  rw [sns, List.getElem?_map, Option.map_eq_some_iff]

/-- The numbers of the NPCs and the map are all that the soundness of the map is about. -/
theorem MapsSound.congr (h : w.MapsSound) (hsns : t.sns = w.sns) (hidx : t.npcIdxMap = w.npcIdxMap)
    (hitems : ∀ sn, t.Held sn → KnapOk (t.bodies sn).detail) : t.MapsSound := by
  refine ⟨fun i npc hnpc => ?_, fun sn i hi => ?_, hitems⟩
  · have hsn : w.sns[i]? = some npc.object.npc.sn := by
      rw [← hsns]
      exact getElem?_sns.2 ⟨npc, hnpc, rfl⟩
    obtain ⟨old, hold, heq⟩ := getElem?_sns.1 hsn
    rw [hidx, ← heq]
    exact h.npcs i old hold
  · rw [hasNpc_iff, hsns, ← hasNpc_iff]
    rw [hidx] at hi
    exact h.invented sn i hi

theorem QuietStep.mapsSound (hstep : w.QuietStep t) (h : w.MapsSound) : t.MapsSound := by
  have hheld : ∀ sn, t.Held sn → w.Held sn := fun sn => hstep.quiet.held_iff.1
  cases hstep with
  | setMove | setCmd | setAdds | setEntries => exact h.congr rfl rfl h.items
  | setBody sn f hknap =>
    refine h.congr rfl rfl fun sn' hsn' => ?_
    by_cases hsn : sn' = sn
    · subst hsn
      simp only [NpcWorld.setBody, Function.update_self]
      exact hknap (h.items _ (hheld _ hsn'))
    · simp only [NpcWorld.setBody, Function.update_of_ne hsn]
      exact h.items _ (hheld _ hsn')
  | setNpc i f hnpc =>
    refine h.congr (List.ext_getElem? fun j => ?_) rfl h.items
    simp only [sns, NpcWorld.setNpc, List.getElem?_map, List.getElem?_modify]
    by_cases hij : i = j
    · subst hij
      cases hget : w.npcs[i]? with
      | none => rfl
      | some npc =>
        simp only [if_true, Option.map_some]
        exact congrArg some (hnpc npc hget).sn
    · simp [hij]
  | insertIdx sn hnone =>
    refine ⟨fun i npc hnpc => ?_, fun sn' i hi => ?_, h.items⟩
    · have hget := h.npcs i npc hnpc
      rw [OrdMap.getElem?_insert, if_neg]
      · exact hget
      · rintro rfl
        rw [hnone] at hget
        cases hget
    · rw [OrdMap.getElem?_insert] at hi
      split at hi
      · exact .inr (Option.some.inj hi).symm
      · exact h.invented sn' i hi

theorem Quiet.mapsSound (hquiet : w.Quiet t) (h : w.MapsSound) : t.MapsSound := by
  induction hquiet with
  | refl => exact h
  | tail _ hstep ih => exact hstep.mapsSound ih

theorem knapOk_parserFromProto (proto : PlayerProto) : KnapOk (.parserFromProto proto) := by
  rw [PlayerComponentDetail.parserFromProto]
  refine List.foldlRecOn (motive := KnapOk) _ _ (fun sn i hi => ?_) fun detail h item _ => knapOk_addItem h item
  simp [PlayerComponentDetail.ofBase] at hi

theorem Entered.mapsSound {proto : SyncPlayer fl.toFloatOps} {cmd : CmdObject fl} {object : Option PlayerRef}
    (henter : w.Entered t proto cmd object) (h : w.MapsSound) : t.MapsSound := by
  have hsns : t.sns = w.sns := by
    rw [sns, sns, henter.npcs, List.map_map]
    rfl
  refine h.congr hsns henter.npcIdxMap fun sn hsn => ?_
  rw [henter.bodies]
  by_cases heq : sn = proto.playerSn
  · subst heq
    simp only [Function.update_self]
    exact knapOk_parserFromProto proto.player
  · rw [Function.update_of_ne heq]
    exact h.items sn (((henter.held sn).1 hsn).resolve_left heq)

theorem Without.mapsSound {gone : UInt64 → Prop} (hwithout : w.Without t gone) (h : w.MapsSound) :
    t.MapsSound := by
  refine h.congr (by rw [sns, sns, hwithout.npcs]) hwithout.npcIdxMap fun sn hsn => ?_
  rw [hwithout.bodies]
  exact h.items sn ((hwithout.held sn).1 hsn).2

theorem playerDisappear_mapsSound {pools : Pools fl} {p : PlayerRef}
    (hstep : w.playerDisappear algs pools p = some t) (h : w.MapsSound) : t.MapsSound := by
  obtain ⟨u, hreset, rfl⟩ := Option.map_eq_some_iff.1 hstep
  have hu := (resetCmd_quiet hreset).mapsSound h
  refine hu.congr ?_ rfl hu.items
  rw [sns, sns, List.map_map]
  refine List.map_congr_left fun npc _ => ?_
  dsimp only [Function.comp_apply]
  rw [NpcObject.playerDisappear]
  split_ifs <;> rfl

theorem step_mapsSound {e : WorldEvent fl} (hstep : w.step algs e = some t) (h : w.MapsSound) : t.MapsSound := by
  by_cases he : e.entersOrLeaves = false
  · exact (step_quiet he hstep).mapsSound h
  cases e with
  | requestSyncPlayer | client | syncAppear | updateNpc | updateCmd | moveNpc | movePlayer | enterElsewhere =>
    exact absurd rfl he
  | syncPlayer identify proto cmd object =>
    obtain ⟨-, rfl⟩ | henter := handleSyncPlayer_cases hstep
    · exact h
    · exact henter.mapsSound h
  | networkDisconnect pools identify =>
    obtain ⟨value, -, ⟨-, rfl⟩ | ⟨-, left, hleft, hdisappear⟩⟩ | ⟨-, ⟨-, rfl⟩ | ⟨-, hcut⟩⟩ :=
      handleNetworkDisconnect_cases hstep
    · exact h
    · exact playerDisappear_mapsSound hdisappear (hleft.mapsSound h)
    · exact h
    · exact hcut.mapsSound h
  | removePlayer pools identify playerSn =>
    obtain ⟨-, rfl⟩ | ⟨-, -, left, hleft, hdisappear⟩ := handleG2SRemovePlayer_cases hstep
    · exact h
    · exact playerDisappear_mapsSound hdisappear (hleft.mapsSound h)

/-! ### The maps of a new world -/

theorem sns_addNpc (w : NpcWorld fl) (config : BtConfig) (cfg : UInt64 × ResourceNpc fl × (ℕ → Fin 4)) :
    (addNpc config w cfg).sns = w.sns ++ [cfg.1] := by
  have hsn : (NpcObject.awake (Npc.awake cfg.1 cfg.2.1) config cfg.2.2).npc.sn = cfg.1 := by
    rw [NpcObject.awake]
    refine List.foldlRecOn (motive := fun n : Npc fl => n.sn = cfg.1) _ _ rfl fun n hn pair _ => ?_
    dsimp only
    split
    · exact hn
    · exact hn
  rw [sns, sns, addNpc, List.map_append, List.map_singleton, hsn]

/-- Each NPC of the configuration gets its place in the map. -/
theorem addNpc_indexes {w : NpcWorld fl} (h : OrdMap.Indexes w.npcIdxMap w.sns) (config : BtConfig)
    {cfg : UInt64 × ResourceNpc fl × (ℕ → Fin 4)} (hnew : cfg.1 ∉ w.sns) :
    OrdMap.Indexes (addNpc config w cfg).npcIdxMap (addNpc config w cfg).sns := by
  have hlen : w.npcs.length = w.sns.length := (List.length_map _).symm
  rw [sns_addNpc, addNpc]
  dsimp only
  rw [h.getElem?_eq_none.2 hnew, hlen]
  exact h.append hnew

theorem foldl_addNpc_indexes (config : BtConfig) {cfgs : List (UInt64 × ResourceNpc fl × (ℕ → Fin 4))}
    {w : NpcWorld fl} (h : OrdMap.Indexes w.npcIdxMap w.sns) (hnodup : (w.sns ++ cfgs.map Prod.fst).Nodup) :
    OrdMap.Indexes (cfgs.foldl (addNpc config) w).npcIdxMap (cfgs.foldl (addNpc config) w).sns := by
  induction cfgs generalizing w with
  | nil => exact h
  | cons cfg cfgs ih =>
    have hnew : cfg.1 ∉ w.sns := by
      intro hmem
      rw [List.map_cons, List.nodup_append] at hnodup
      exact hnodup.2.2 cfg.1 hmem cfg.1 List.mem_cons_self rfl
    refine ih (addNpc_indexes h config hnew) ?_
    rw [sns_addNpc, List.append_assoc]
    exact hnodup

theorem Awakes.mapsSound (h : w.Awakes) : w.MapsSound := by
  obtain ⟨empty, config, cfgs, hnpcs, hidx, hnodup, rfl⟩ := h.npcs
  have hsns : empty.sns = [] := by rw [sns, hnpcs, List.map_nil]
  have hempty : OrdMap.Indexes empty.npcIdxMap empty.sns := by
    rw [hsns, hidx]
    exact OrdMap.Indexes.nil
  rw [← List.nil_append (cfgs.map Prod.fst), ← hsns] at hnodup
  have hindexes := foldl_addNpc_indexes config hempty hnodup
  refine ⟨fun i npc hnpc => ?_, fun sn i hi => ?_, fun sn hsn => ?_⟩
  · exact (hindexes _ i).2 (getElem?_sns.2 ⟨npc, hnpc, rfl⟩)
  · exact .inl (hasNpc_iff.2 (List.mem_of_getElem? ((hindexes sn i).1 hi)))
  · rw [Held, h.players] at hsn
    cases hsn

/-- **The maps are sound** after every run. -/
theorem mapsSound_run {es : List (WorldEvent fl)} (hrun : (system algs).Run es w) : w.MapsSound :=
  hrun.invariant (p := MapsSound) (fun _ => Awakes.mapsSound) fun _ _ _ h hstep => step_mapsSound hstep h

/-! ### What is found -/

/-- An NPC that is there is found. -/
theorem npcBySn_of_hasNpc (h : w.MapsSound) {sn : UInt64} (hsn : w.HasNpc sn) :
    ∃ i npc, w.npcBySn sn = some (i, npc, w) ∧ w.npcs[i]? = some npc ∧ npc.object.npc.sn = sn := by
  obtain ⟨npc, hmem, rfl⟩ := hsn
  obtain ⟨i, hi⟩ := List.mem_iff_getElem?.1 hmem
  refine ⟨i, npc, ?_, hi, rfl⟩
  rw [npcBySn, npcIdx, h.npcs i npc hi]
  dsimp only
  rw [hi]
  rfl

/-- **One that is not there is taken for the first one.** -/
theorem npcBySn_of_not_hasNpc (h : w.MapsSound) {sn : UInt64} (hsn : ¬ w.HasNpc sn) :
    (w.npcBySn sn).map (fun one => (one.1, one.2.1)) = (w.npcs[0]?).map fun npc => (0, npc) := by
  rw [npcBySn, npcIdx]
  cases hidx : w.npcIdxMap[sn]? with
  | none => simp [Option.map_map, Function.comp_def]
  | some i =>
    obtain rfl := (h.invented sn i hidx).resolve_left hsn
    simp [Option.map_map, Function.comp_def]

/-- The NPC with a serial number, or the first one. -/
def npcOf (w : NpcWorld fl) (sn : UInt64) : Option (WorldNpc fl) :=
  (w.npcs.find? fun npc => npc.object.npc.sn = sn).or w.npcs[0]?

theorem npcBySn_npc (h : w.MapsSound) (sn : UInt64) :
    (w.npcBySn sn).map (fun one => one.2.1) = w.npcOf sn := by
  rw [npcOf]
  by_cases hsn : w.HasNpc sn
  · obtain ⟨i, npc, hfound, hi, rfl⟩ := npcBySn_of_hasNpc h hsn
    obtain ⟨other, hother⟩ := Option.isSome_iff_exists.1 (List.find?_isSome.2
      ⟨npc, List.mem_of_getElem? hi, decide_eq_true rfl⟩ :
        (w.npcs.find? fun other => other.object.npc.sn = npc.object.npc.sn).isSome = true)
    have hfind := List.find?_some hother
    have heq : other.object.npc.sn = npc.object.npc.sn := of_decide_eq_true hfind
    obtain ⟨j, hj⟩ := List.mem_iff_getElem?.1 (List.mem_of_find?_eq_some hother)
    have hij : some j = some i := by
      rw [← h.npcs j other hj, ← h.npcs i npc hi, heq]
    obtain rfl := Option.some.inj hij
    obtain rfl := Option.some.inj (hj.symm.trans hi)
    rw [hfound, hother]
    rfl
  · have hnone : (w.npcs.find? fun npc => npc.object.npc.sn = sn) = none :=
      List.find?_eq_none.2 fun npc hnpc heq => hsn ⟨npc, hnpc, of_decide_eq_true heq⟩
    have hfirst := congrArg (Option.map Prod.snd) (npcBySn_of_not_hasNpc h hsn)
    rw [hnone, Option.none_or]
    simpa [Function.comp_def] using hfirst

theorem npcBySn_isSome_iff (h : w.MapsSound) {sn : UInt64} : (w.npcBySn sn).isSome ↔ w.npcs ≠ [] := by
  by_cases hsn : w.HasNpc sn
  · obtain ⟨i, npc, hfound, hi, -⟩ := npcBySn_of_hasNpc h hsn
    rw [hfound]
    exact iff_of_true rfl (List.ne_nil_of_mem (List.mem_of_getElem? hi))
  · have hfirst := congrArg Option.isSome (npcBySn_of_not_hasNpc h hsn)
    rw [Option.isSome_map, Option.isSome_map] at hfirst
    rw [hfirst]
    cases w.npcs with
    | nil => simp
    | cons => simp

theorem npcById_isSome_iff {id : ℤ} : (w.npcById id).isSome ↔ 0 ≤ id ∧ id < w.npcs.length := by
  rw [npcById]
  split
  · rename_i hneg
    exact iff_of_false Bool.false_ne_true fun hid => by omega
  · rename_i hpos
    rw [Option.isSome_iff_ne_none, ne_eq, List.getElem?_eq_none_iff]
    omega

/-! ### What a handler reads -/

/-- The current command of a player can exit: a `NoneCommand` of a component of the pool has an owner that is here,
or whose object is someone else's now. -/
def CanExit (w : NpcWorld fl) (pools : Pools fl) (sn : UInt64) : Prop :=
  ∀ cmd ∈ (w.extras sn).cmd.currCmd, cmd.idle = true →
    cmd.owner = w.ref sn ∨ w.Holds cmd.owner ∨ (pools.heir cmd.owner).isSome

theorem exitCmd_isSome_iff {pools : Pools fl} {self : PlayerRef} {cmd : Command fl} :
    (w.exitCmd pools self cmd).isSome ↔
      (cmd.idle = true → cmd.owner = self ∨ w.Holds cmd.owner ∨ (pools.heir cmd.owner).isSome) := by
  obtain ⟨owner, kind⟩ := cmd
  rw [exitCmd.eq_def, Command.idle.eq_def]
  cases kind with
  | none =>
    dsimp only
    split
    · rename_i hhere
      exact iff_of_true rfl fun _ => hhere.imp id .inl
    · rename_i hgone
      rw [Option.isSome_map, imp_iff_right rfl, ← or_assoc, or_iff_right hgone]
  | move | attack | pick | teleport | observe | pvp => exact iff_of_true rfl fun h => by cases h

theorem changeCmd_isSome_iff {pools : Pools fl} {sn : UInt64} {new : Option (CommandKind fl)} :
    (w.changeCmd pools (w.ref sn) new).isSome ↔ w.CanExit pools sn := by
  rw [changeCmd, CanExit, Option.isSome_map]
  have hself : (w.ref sn).sn = sn := rfl
  rw [hself]
  cases hcmd : (w.extras sn).cmd.currCmd with
  | none => exact iff_of_true rfl fun cmd hmem => by cases hmem
  | some cmd =>
    dsimp only
    rw [exitCmd_isSome_iff]
    exact ⟨fun h c hc => by obtain rfl := Option.some.inj hc; exact h, fun h => h cmd rfl⟩

theorem canExit_congr (hplayers : t.playerMgr = w.playerMgr) (hextras : t.extras = w.extras) {pools : Pools fl}
    {sn : UInt64} : t.CanExit pools sn ↔ w.CanExit pools sn := by
  simp only [CanExit, Holds, Held, ref, hplayers, hextras]

theorem resetCmd_isSome_iff {pools : Pools fl} {sn : UInt64} :
    (w.resetCmd pools (w.ref sn)).isSome ↔ w.CanExit pools sn :=
  changeCmd_isSome_iff

/-- A hit takes the last hp exactly if it is not weaker. -/
theorem damaged_hp_eq_zero_iff {detail : PlayerComponentDetail} {atk : Int32} :
    (detail.damaged atk.toInt).hp = 0 ↔ detail.hp.toInt ≤ atk.toInt := by
  have hhp := detail.hp.toInt_lt
  have hatk := atk.le_toInt
  have hzero : (0 : Int32).toInt = 0 := rfl
  have hsize : ((Int32.size : ℕ) : ℤ) = 4294967296 := rfl
  rw [PlayerComponentDetail.damaged, ← Int32.toInt_inj, Int32.toInt_ofInt, hzero, Int.bmod_def, hsize]
  split
  · omega
  · omega

theorem guarded_isSome_iff {σ : Type*} {o : Option σ} {c : Prop} [Decidable c] :
    (o.bind fun s => if c then some s else none).isSome ↔ o.isSome ∧ c := by
  cases o with
  | none => simp
  | some s => by_cases hc : c <;> simp [hc]

theorem getDamageByPlayer_isSome_iff {outside : Outside fl} {sn atker : UInt64} :
    (w.getDamageByPlayer outside sn atker).isSome ↔
      ((w.bodies sn).detail.hp.toInt ≤ (w.bodies atker).detail.atk.toInt → w.CanExit outside.toPools atker) ∧
        TeamKnown outside sn := by
  rw [← damaged_hp_eq_zero_iff, getDamageByPlayer, damagePlayer]
  dsimp only
  rw [guarded_isSome_iff]
  refine and_congr_left fun _ => ?_
  by_cases hdead : ((w.bodies sn).detail.damaged (w.bodies atker).detail.atk.toInt).hp = 0
  · rw [decide_eq_true hdead, if_pos rfl, imp_iff_right hdead, resetCmd_isSome_iff]
    rfl
  · rw [decide_eq_false hdead, if_neg Bool.false_ne_true]
    exact iff_of_true rfl fun h => absurd h hdead

theorem getDamageByNpc_isSome_iff {outside : Outside fl} {sn : UInt64} {enemy : Npc fl} :
    (w.getDamageByNpc outside sn enemy).isSome ↔ TeamKnown outside sn := by
  rw [getDamageByNpc]
  dsimp only
  split
  · rename_i hteam
    exact iff_of_true rfl hteam
  · rename_i hteam
    exact iff_of_false Bool.false_ne_true hteam

theorem damageNpc_isSome_iff {outside : Outside fl} {i : ℕ} {npc : WorldNpc fl} {attacker : UInt64} :
    (w.damageNpc algs outside i npc attacker).isSome ↔
      (npc.object.npc.hp ≤ (w.bodies attacker).detail.atk.toInt → w.CanExit outside.toPools attacker) := by
  rw [damageNpc]
  have hrewards : ∀ rolls, (npc.object.getDamage algs (w.ref attacker) (w.bodies attacker).detail.atk.toInt
      rolls).2.isSome ↔ npc.object.npc.hp ≤ (w.bodies attacker).detail.atk.toInt := by
    intro rolls
    rw [NpcObject.getDamage]
    dsimp only
    split
    · exact iff_of_true rfl (by omega)
    · exact iff_of_false Bool.false_ne_true (by omega)
  rw [← hrewards outside.rolls]
  generalize npc.object.getDamage algs (w.ref attacker) (w.bodies attacker).detail.atk.toInt outside.rolls = res
  obtain ⟨object, _ | list⟩ := res
  · exact iff_of_true rfl fun h => by cases h
  · dsimp only
    rw [Option.isSome_map, resetCmd_isSome_iff]
    exact (imp_iff_right rfl).symm

/-- **What the handler of a message of a player reads is there.** -/
def ReadsFrom (w : NpcWorld fl) (outside : Outside fl) (sn : UInt64) : ClientMsg fl → Prop
  | .playerMove _ _ | .updateKnapItem _ | .updateKnapGold _ | .getPlayerKnap | .syncPlayerPos _ => True
  | .npcMove _ _ _ | .syncNpcPos _ _ => w.npcs ≠ []
  | .syncPlayerCmd type targetSn _ =>
    match CmdType.ofInt type with
    | none => True
    | some .attack => w.npcs ≠ [] ∧ w.CanExit outside.toPools sn
    | some .observe | some .pvp => w.Held targetSn ∧ w.CanExit outside.toPools sn
    | some .none | some .move | some .pick | some .teleport => w.CanExit outside.toPools sn
  | .reqSyncPlayer playerSn => w.Held playerSn
  | .reqNpcInfo id | .syncBtAction id => 0 ≤ id ∧ id < w.npcs.length
  | .playerAtkEvent targetSn =>
    if w.Held targetSn then
      ((w.bodies targetSn).detail.hp.toInt ≤ (w.bodies sn).detail.atk.toInt → w.CanExit outside.toPools sn) ∧
        TeamKnown outside targetSn
    else
      targetSn ≠ 0 → ∃ npc ∈ w.npcOf targetSn,
        npc.object.npc.hp ≤ (w.bodies sn).detail.atk.toInt → w.CanExit outside.toPools sn
  | .npcAtkEvent _ => w.npcs ≠ [] ∧ TeamKnown outside sn

theorem makeCmd_isSome_iff (h : w.MapsSound) {type : CmdType} {targetSn : UInt64}
    {point : Vector3 fl.toFloatOps} : (w.makeCmd type targetSn point).isSome ↔
      (type = .attack → w.npcs ≠ []) ∧ (type = .observe ∨ type = .pvp → w.Held targetSn) := by
  rw [makeCmd.eq_def]
  cases type with
  | none | move | pick | teleport => simp
  | attack => simp [npcBySn_isSome_iff h]
  | observe | pvp => by_cases hheld : w.Held targetSn <;> simp [hheld]

/-- Nothing that the commands are about changes when one is made. -/
theorem makeCmd_frame {type : CmdType} {targetSn : UInt64} {point : Vector3 fl.toFloatOps}
    {kind : CommandKind fl} (hmake : w.makeCmd type targetSn point = some (kind, t)) :
    t.toSpaceWorld = w.toSpaceWorld ∧ t.extras = w.extras ∧ t.npcs = w.npcs := by
  rw [makeCmd.eq_def] at hmake
  cases type with
  | none | move | pick | teleport =>
    cases hmake
    exact ⟨rfl, rfl, rfl⟩
  | attack =>
    obtain ⟨⟨i, npc, u⟩, hnpc, heq⟩ := Option.map_eq_some_iff.1 hmake
    cases heq
    exact (npcBySn_eq hnpc).2.2
  | observe | pvp =>
    dsimp only at hmake
    split at hmake
    · cases hmake
      exact ⟨rfl, rfl, rfl⟩
    · cases hmake

theorem handleFrom_isSome_iff (h : w.MapsSound) {outside : Outside fl} {sn : UInt64} (hsn : w.Held sn)
    {msg : ClientMsg fl} : (w.handleFrom algs outside sn msg).isSome ↔ w.ReadsFrom outside sn msg := by
  cases msg with
  | playerMove | updateKnapGold | getPlayerKnap | syncPlayerPos => exact iff_of_true rfl trivial
  | npcMove npcSn running points =>
    rw [handleFrom, handleNpcMove, Option.isSome_map]
    exact npcBySn_isSome_iff h
  | syncNpcPos npcSn pos =>
    rw [handleFrom, handleSyncNpcPos, Option.isSome_map]
    exact npcBySn_isSome_iff h
  | updateKnapItem item =>
    obtain ⟨detail, hdetail, -⟩ := knapOk_updateKnapItem (h.items sn hsn) item
    rw [handleFrom, handleUpdateKnapItem, hdetail]
    exact iff_of_true rfl trivial
  | syncPlayerCmd type targetSn point =>
    rw [handleFrom, handleSyncPlayerCmd, ReadsFrom]
    cases CmdType.ofInt type with
    | none => exact iff_of_true rfl trivial
    | some type =>
      have hmake : ((w.makeCmd type targetSn point).bind fun one =>
          one.2.changeCmd outside.toPools (one.2.ref sn) (some one.1)).isSome ↔
            (w.makeCmd type targetSn point).isSome ∧ w.CanExit outside.toPools sn := by
        cases hcmd : w.makeCmd type targetSn point with
        | none => simp
        | some one =>
          obtain ⟨kind, u⟩ := one
          obtain ⟨hworld, hextras, -⟩ := makeCmd_frame hcmd
          rw [Option.bind_some, changeCmd_isSome_iff, canExit_congr (by rw [hworld]) hextras]
          exact (and_iff_right rfl).symm
      refine hmake.trans ?_
      rw [makeCmd_isSome_iff h]
      cases type <;> simp
  | reqSyncPlayer playerSn =>
    rw [handleFrom, handleReqSyncPlayer, ReadsFrom]
    by_cases hheld : w.Held playerSn <;> simp [hheld]
  | reqNpcInfo id =>
    rw [handleFrom, handleReqNpcInfo, Option.isSome_map]
    exact npcById_isSome_iff
  | syncBtAction id =>
    rw [handleFrom, handleSyncBtAction, Option.isSome_map]
    exact npcById_isSome_iff
  | playerAtkEvent targetSn =>
    rw [handleFrom, handlePlayerAtkEvent, ReadsFrom]
    split
    · exact getDamageByPlayer_isSome_iff
    · split
      · rename_i hne
        rw [imp_iff_right hne, ← npcBySn_npc h]
        cases hfound : w.npcBySn targetSn with
        | none => simp
        | some one =>
          obtain ⟨i, npc, u⟩ := one
          obtain ⟨-, -, hworld, hextras, -⟩ := npcBySn_eq hfound
          rw [Option.bind_some, damageNpc_isSome_iff, canExit_congr (by rw [hworld]) hextras, hworld]
          simp
      · rename_i hzero
        exact iff_of_true rfl fun hne => absurd hne hzero
  | npcAtkEvent npcSn =>
    have hfirst : (w.npcBySn npcSn).isSome ↔ w.npcs ≠ [] := npcBySn_isSome_iff h
    rw [handleFrom, handleNpcAtkEvent, ReadsFrom, ← hfirst]
    cases w.npcBySn npcSn with
    | none => simp
    | some one =>
      obtain ⟨i, npc, u⟩ := one
      rw [Option.bind_some, getDamageByNpc_isSome_iff]
      exact (and_iff_right rfl).symm

/-- A message has a handler that is called: it comes from a player of the world, or is `C2S_SyncNpcPos`. -/
def Hears (w : NpcWorld fl) (identify : NetIdentify) : ClientMsg fl → Prop
  | .syncNpcPos _ _ => True
  | .playerMove _ _ | .npcMove _ _ _ | .updateKnapItem _ | .updateKnapGold _ | .getPlayerKnap | .syncPlayerPos _
  | .syncPlayerCmd _ _ _ | .reqSyncPlayer _ | .reqNpcInfo _ | .syncBtAction _ | .playerAtkEvent _
  | .npcAtkEvent _ => (World.getPlayer w.playerMgr identify).isSome

/-- **What the handler of a message reads is there.** -/
def Reads (w : NpcWorld fl) (outside : Outside fl) (identify : NetIdentify) (msg : ClientMsg fl) : Prop :=
  match World.getPlayer w.playerMgr identify with
  | some player => w.ReadsFrom outside player.playerSn msg
  | none => w.Hears identify msg → w.npcs ≠ []

/-- **A handler finishes** exactly if what it reads is there. -/
theorem handle_isSome_iff (h : w.MapsSound) {outside : Outside fl} {identify : NetIdentify}
    {msg : ClientMsg fl} : (w.handle algs outside identify msg).isSome ↔ w.Reads outside identify msg := by
  rw [handle.eq_def, Reads]
  cases hplayer : World.getPlayer w.playerMgr identify with
  | some player => exact handleFrom_isSome_iff h (held_getPlayer hplayer)
  | none =>
    cases msg with
    | syncNpcPos npcSn pos =>
      dsimp only
      rw [handleSyncNpcPos, Option.isSome_map, npcBySn_isSome_iff h]
      exact (imp_iff_right trivial).symm
    | playerMove | npcMove | updateKnapItem | updateKnapGold | getPlayerKnap | syncPlayerPos | syncPlayerCmd
    | reqSyncPlayer | reqNpcInfo | syncBtAction | playerAtkEvent | npcAtkEvent =>
      refine iff_of_true rfl fun hhears => ?_
      rw [Hears, hplayer] at hhears
      cases hhears

/-! ### What a message may do -/

/-- **What a message names is there.** -/
def Names (w : NpcWorld fl) : ClientMsg fl → Prop
  | .playerMove sn _ | .reqSyncPlayer sn => w.Held sn
  | .npcMove npcSn _ _ | .syncNpcPos npcSn _ | .npcAtkEvent npcSn => w.HasNpc npcSn
  | .syncPlayerCmd type targetSn _ =>
    match CmdType.ofInt type with
    | some .attack => w.HasNpc targetSn
    | some .observe | some .pvp => w.Held targetSn
    | none | some .none | some .move | some .pick | some .teleport => True
  | .reqNpcInfo id | .syncBtAction id => 0 ≤ id ∧ id < w.npcs.length
  | .playerAtkEvent targetSn => targetSn = 0 ∨ w.Held targetSn ∨ w.HasNpc targetSn
  | .updateKnapItem _ | .updateKnapGold _ | .getPlayerKnap | .syncPlayerPos _ => True

/-- The NPCs and the players are as they were. -/
structure SameState (w t : NpcWorld fl) : Prop where
  npcs : t.npcs.map WorldNpc.state = w.npcs.map WorldNpc.state
  players : ∀ sn, t.playerMgr.getPlayerBySn sn = w.playerMgr.getPlayerBySn sn
  bodies : ∀ sn, w.Held sn → t.bodies sn = w.bodies sn
  extras : ∀ sn, w.Held sn → t.extras sn = w.extras sn

/-- **A message is handled well.**  The handler finishes, and nothing changes if the message names what is not
there. -/
def Robust (algs : Heap.Algorithms BtEvent.less) (w : NpcWorld fl) (outside : Outside fl) (identify : NetIdentify)
    (msg : ClientMsg fl) : Prop :=
  ∃ t, w.handle algs outside identify msg = some t ∧ (¬ w.Names msg → w.SameState t)

/-- **The messages that are handled well.** -/
structure Minds (w : NpcWorld fl) (outside : Outside fl) (identify : NetIdentify) (msg : ClientMsg fl) : Prop where
  reads : w.Reads outside identify msg
  names : w.Hears identify msg → w.Names msg

/-- A message without a handler changes nothing. -/
theorem handle_of_not_hears {outside : Outside fl} {identify : NetIdentify} {msg : ClientMsg fl}
    (h : ¬ w.Hears identify msg) : w.handle algs outside identify msg = some w := by
  rw [handle.eq_def]
  cases hplayer : World.getPlayer w.playerMgr identify with
  | some player =>
    refine absurd ?_ h
    cases msg with
    | syncNpcPos => trivial
    | playerMove | npcMove | updateKnapItem | updateKnapGold | getPlayerKnap | syncPlayerPos | syncPlayerCmd
    | reqSyncPlayer | reqNpcInfo | syncBtAction | playerAtkEvent | npcAtkEvent =>
      rw [Hears, hplayer]
      rfl
  | none =>
    cases msg with
    | syncNpcPos => exact absurd trivial h
    | playerMove | npcMove | updateKnapItem | updateKnapGold | getPlayerKnap | syncPlayerPos | syncPlayerCmd
    | reqSyncPlayer | reqNpcInfo | syncBtAction | playerAtkEvent | npcAtkEvent => rfl

theorem MapsSound.robust (h : w.MapsSound) {outside : Outside fl} {identify : NetIdentify} {msg : ClientMsg fl}
    (hminds : w.Minds outside identify msg) : w.Robust algs outside identify msg := by
  by_cases hhears : w.Hears identify msg
  · have hsome : (w.handle algs outside identify msg).isSome := (handle_isSome_iff h).2 hminds.reads
    obtain ⟨t, ht⟩ := Option.isSome_iff_exists.1 hsome
    exact ⟨t, ht, fun hnot => absurd (hminds.names hhears) hnot⟩
  · exact ⟨w, handle_of_not_hears hhears, fun _ => ⟨rfl, fun _ => rfl, fun _ _ => rfl, fun _ _ => rfl⟩⟩

end NpcWorld

/-- **Messages of clients**, in every state of a world.  A handler finishes exactly if what it reads is there, and a
message is handled well if, besides, it names what is there, or has no handler. -/
theorem messages_run {fl : NpcFloats} {algs : Heap.Algorithms BtEvent.less} {es : List (WorldEvent fl)}
    {w : NpcWorld fl} (hrun : (NpcWorld.system algs).Run es w) (outside : Outside fl) (identify : NetIdentify)
    (msg : ClientMsg fl) :
    ((w.handle algs outside identify msg).isSome ↔ w.Reads outside identify msg) ∧
      (w.Minds outside identify msg → w.Robust algs outside identify msg) :=
  ⟨NpcWorld.handle_isSome_iff (NpcWorld.mapsSound_run hrun), (NpcWorld.mapsSound_run hrun).robust⟩

/-- The skeleton is moved by its own number. -/
theorem messages_observes : ∃ w : NpcWorld .int, (NpcWorld.system sortedEvents).Run observes w ∧
    w.Minds noTeams (fromSocket 5) (.syncNpcPos 1 Vector3.origin) ∧
      w.Robust sortedEvents noTeams (fromSocket 5) (.syncNpcPos 1 Vector3.origin) := by
  have hrun : (System.execute (NpcWorld.step sortedEvents) (fun _ _ => True) graveyard observes).map (fun w =>
      (decide (w.HasNpc 1), (World.getPlayer w.playerMgr (fromSocket 5)).isSome)) = some (true, true) := by
    decide +kernel
  obtain ⟨w, hw, hfacts⟩ := Option.map_eq_some_iff.1 hrun
  obtain ⟨hnpc, hplayer⟩ := Prod.mk.inj hfacts
  have hevents : (NpcWorld.system sortedEvents).Run observes w :=
    System.run_of_execute_true graveyard_awakes hw
  obtain ⟨player, hplayer⟩ := Option.isSome_iff_exists.1 hplayer
  obtain ⟨npc, hmem, hsn⟩ := of_decide_eq_true hnpc
  have hminds : w.Minds noTeams (fromSocket 5) (.syncNpcPos 1 Vector3.origin) := by
    refine ⟨?_, fun _ => ⟨npc, hmem, hsn⟩⟩
    rw [NpcWorld.Reads, hplayer]
    exact List.ne_nil_of_mem hmem
  exact ⟨w, hevents, hminds, (messages_run hevents noTeams (fromSocket 5) _).2 hminds⟩

/-- **A number that no NPC has** moves the skeleton. -/
theorem not_robust : ¬ ∀ (fl : NpcFloats) (algs : Heap.Algorithms BtEvent.less) (es : List (WorldEvent fl))
    (w : NpcWorld fl), (NpcWorld.system algs).Run es w → ∀ outside identify msg,
      w.Robust algs outside identify msg := by
  intro hall
  obtain ⟨t, ht, hsame⟩ := hall .int sortedEvents [] graveyard (.init graveyard_awakes) noTeams (fromSocket 5)
    (.syncNpcPos 2 Vector3.origin)
  have hmoved : (graveyard.handle sortedEvents noTeams (fromSocket 5) (.syncNpcPos 2 Vector3.origin)).map (fun t =>
      t.npcs.map fun npc => (npc.object.npc.currPos.x : ℤ)) = some [0] := by
    decide +kernel
  have hplaces : graveyard.npcs.map (fun npc => (npc.object.npc.currPos.x : ℤ)) = [-15] := by
    decide +kernel
  have hnot : ¬ graveyard.Names (.syncNpcPos 2 Vector3.origin) := by
    show ¬ graveyard.HasNpc 2
    decide +kernel
  have hstays := congrArg (List.map fun state => state.1.x) (hsame hnot).npcs
  rw [List.map_map, List.map_map] at hstays
  have hplace := Option.some.inj (hmoved.symm.trans (congrArg _ ht))
  have hcontra : ([0] : List ℤ) = [-15] := hplace.trans (hstays.trans hplaces)
  exact absurd hcontra (by decide)

end MmoServer
