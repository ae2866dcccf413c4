/-
**Pointers to players that have left.**

A world's NPCs have pointers to players, and so have the commands of its players.  A player that leaves is
forgotten by the NPCs, and its own command is reset, but the commands of the others that are about it stay as
they are.  When a game process disconnects, nothing is forgotten at all; and a player may enter with a
`CmdComponent` of the pool, which still has a command of its last owner.

Main definitions:

* `MmoServer.NpcWorld.NoStale` — what should hold: all pointers are null or lead to players of the world;
* `MmoServer.NpcWorld.Watched`, `MmoServer.NpcWorld.PointedTo` — a command of another player is about a player,
  and a pointer leads to it;
* `MmoServer.NpcWorld.KeepsPointers` — the steps that leave no such pointer.

Main results:

* `MmoServer.NpcWorld.Quiet.noStale` — **only players that enter or leave** can break it;
* `MmoServer.NpcWorld.disappear_noStale_iff` — **who leaves is forgotten** exactly if no command of another
  player is about it;
* `MmoServer.noStale_run` — **no pointer is stale** in every run of steps that meet the condition, and the
  first one that does not leaves one;
* `MmoServer.not_noStale` — an observer outlives the one it observes.
-/

import MmoServer.NpcRewards
import MmoServer.WorldFrame

set_option relaxedAutoImplicit false
set_option autoImplicit false

namespace MmoServer

open Std Handler Transition

namespace NpcWorld

variable {fl : NpcFloats}

/-- **No pointer is stale.** -/
structure NoStale (w : NpcWorld fl) : Prop where
  npcs : ∀ npc ∈ w.npcs, w.PointsHere npc.object.npc.target ∧ w.PointsHere npc.object.npc.linker
  cmds : ∀ sn, w.Held sn → ∀ c ∈ (w.extras sn).cmd.currCmd, w.PointsHere c.target

/-- The current command of another player is about the player. -/
def Watched (w : NpcWorld fl) (sn : UInt64) : Prop :=
  ∃ other, w.Held other ∧ other ≠ sn ∧ ∃ c ∈ (w.extras other).cmd.currCmd, c.target = some (w.ref sn)

/-- An NPC has a pointer, or the current command of a player that is not cut off. -/
def PointedTo (w : NpcWorld fl) (identify : NetIdentify) (p : PlayerRef) : Prop :=
  (∃ npc ∈ w.npcs, npc.object.npc.target = some p ∨ npc.object.npc.linker = some p) ∨
    ∃ sn, w.Held sn ∧ ¬ w.Cut identify sn ∧ ∃ c ∈ (w.extras sn).cmd.currCmd, c.target = some p

/-- **The steps that leave no stale pointer.**  Nobody leaves while the command of another player is about it;
no app disconnects while a pointer that stays leads to a player that goes; and nobody enters with a
command that is about a player who is not there. -/
def KeepsPointers (w : NpcWorld fl) : WorldEvent fl → Prop
  | .syncPlayer _ proto cmd _ => w.Held proto.playerSn ∨ ∀ c ∈ cmd.currCmd, w.PointsHere c.target
  | .networkDisconnect _ identify =>
    match identify.tagKey.getTagValue .player with
    | some value => ¬ w.Watched value.keyInt64
    | none =>
      (identify.tagKey.getTagValue .app).isSome → ∀ p, w.PointedTo identify p → ¬ w.Cut identify p.sn
  | .removePlayer _ identify playerSn =>
    ∀ player ∈ World.getPlayer w.playerMgr identify, player.playerSn = playerSn → ¬ w.Watched playerSn
  | .requestSyncPlayer _ _ | .client _ _ _ | .syncAppear | .updateNpc _ _ _ | .updateCmd _ _ | .moveNpc _ _
  | .movePlayer _ _ | .enterElsewhere => True

variable {algs : Heap.Algorithms BtEvent.less} {w t : NpcWorld fl}

/-! ### Steps that no player takes part in -/

theorem mem_modify {α : Type*} {l : List α} {i : ℕ} {f : α → α} {a : α} (h : a ∈ l.modify i f) :
    a ∈ l ∨ ∃ b, l[i]? = some b ∧ a = f b := by
  obtain ⟨j, hj⟩ := List.mem_iff_getElem?.1 h
  rw [List.getElem?_modify] at hj
  obtain ⟨b, hb, rfl⟩ := Option.map_eq_some_iff.1 hj
  by_cases hij : i = j
  · rw [if_pos hij]
    exact .inr ⟨b, by rw [hij, hb], rfl⟩
  · rw [if_neg hij]
    exact .inl (List.mem_of_getElem? hb)

theorem QuietStep.noStale (hstep : w.QuietStep t) (h : w.NoStale) : t.NoStale := by
  have hpoints : ∀ p, w.PointsHere p → t.PointsHere p := fun p => hstep.quiet.pointsHere_iff.2
  have hheld : ∀ sn, t.Held sn → w.Held sn := fun sn => hstep.quiet.held_iff.1
  cases hstep with
  | setBody | insertIdx | setAdds | setEntries => exact ⟨h.npcs, h.cmds⟩
  | setMove sn move =>
    refine ⟨fun npc hnpc => (h.npcs npc hnpc).imp (hpoints _) (hpoints _), fun sn' hsn' c hc => hpoints _ ?_⟩
    rw [(extras_setMove w sn move sn').2] at hc
    exact h.cmds sn' (hheld sn' hsn') c hc
  | setCmd sn cmd hcmd =>
    refine ⟨fun npc hnpc => (h.npcs npc hnpc).imp (hpoints _) (hpoints _), fun sn' hsn' c hc => hpoints _ ?_⟩
    by_cases hsn : sn' = sn
    · subst hsn
      simp only [NpcWorld.setCmd, Function.update_self] at hc
      exact hcmd c hc
    · simp only [NpcWorld.setCmd, Function.update_of_ne hsn] at hc
      exact h.cmds sn' (hheld sn' hsn') c hc
  | setNpc i f hnpc =>
    refine ⟨fun npc hmem => ?_, h.cmds⟩
    rcases mem_modify hmem with hmem | ⟨old, hold, rfl⟩
    · exact h.npcs npc hmem
    · have hchange := hnpc old hold
      obtain ⟨htarget, hlinker⟩ := h.npcs old (List.mem_of_getElem? hold)
      refine ⟨hchange.target.elim (fun heq => ?_) id, hchange.linker.elim (fun heq => ?_) id⟩
      · rw [heq]
        exact htarget
      · rw [heq]
        exact hlinker

/-- **Only players that enter or leave** can leave a stale pointer. -/
theorem Quiet.noStale (hquiet : w.Quiet t) (h : w.NoStale) : t.NoStale := by
  induction hquiet with
  | refl => exact h
  | tail _ hstep ih => exact hstep.noStale ih

/-! ### Who leaves -/

theorem playerDisappear_eq {pools : Pools fl} {p : PlayerRef} (h : w.playerDisappear algs pools p = some t) :
    ∃ u, w.Recommands u p.sn ⟨(w.extras p.sn).cmd.currCmd, some ⟨p, .none⟩⟩ ∧
      t = { u with npcs := u.npcs.map fun npc => { npc with object := npc.object.playerDisappear algs u p } } := by
  obtain ⟨u, hreset, rfl⟩ := Option.map_eq_some_iff.1 h
  exact ⟨u, changeCmd_recommands hreset, rfl⟩

/-- What becomes of the pointers of an NPC. -/
theorem npc_playerDisappear (algs : Heap.Algorithms BtEvent.less) (w : NpcWorld fl) (o : NpcObject fl)
    (p : PlayerRef) :
    (o.playerDisappear algs w p).npc.target =
        (if w.players = [] ∨ o.npc.target = some p then none else o.npc.target) ∧
      (o.playerDisappear algs w p).npc.linker =
        if o.npc.linker = some p then w.getNearestPlayer o.npc.currPos else o.npc.linker := by
  rw [NpcObject.playerDisappear]
  by_cases hnobody : w.players = [] <;> by_cases htarget : o.npc.target = some p <;>
    by_cases hlinker : o.npc.linker = some p <;> simp [hnobody, htarget, hlinker, NpcObject.addEvent]

theorem Without.holds_iff {gone : UInt64 → Prop} (h : w.Without t gone) {p : PlayerRef} :
    t.Holds p ↔ ¬ gone p.sn ∧ w.Holds p := by
  rw [Holds, Holds, h.held, h.extras, and_assoc]

/-- Everyone but the player that left is held as before. -/
theorem Without.holds_iff_ne {sn : UInt64} (h : w.Without t (· = sn)) {p : PlayerRef} :
    t.Holds p ↔ p ≠ w.ref sn ∧ w.Holds p := by
  rw [h.holds_iff]
  refine and_congr_left fun hp => not_congr ⟨fun heq => ?_, fun heq => ?_⟩
  · obtain ⟨psn, pentry⟩ := p
    obtain rfl : psn = sn := heq
    obtain rfl : (w.extras psn).entry = pentry := hp.2
    rfl
  · rw [heq]
    rfl

/-- **Who leaves is forgotten** exactly if no command of another player is about it. -/
theorem disappear_noStale_iff {left : NpcWorld fl} {pools : Pools fl} {sn : UInt64} (h : w.NoStale)
    (hleft : w.Without left (· = sn)) (hstep : left.playerDisappear algs pools (w.ref sn) = some t) :
    t.NoStale ↔ ¬ w.Watched sn := by
  obtain ⟨u, hrec, rfl⟩ := playerDisappear_eq hstep
  have hu : ∀ sn', u.Held sn' ↔ sn' ≠ sn ∧ w.Held sn' := by
    intro sn'
    rw [← hleft.held, Held, Held, hrec.world]
  have hcmd : ∀ sn', sn' ≠ sn → (u.extras sn').cmd = (w.extras sn').cmd := by
    intro sn' hne
    rw [hrec.cmd, hleft.extras]
    exact if_neg hne
  have hholds : ∀ p, u.Holds p ↔ p ≠ w.ref sn ∧ w.Holds p := by
    intro p
    rw [← hleft.holds_iff_ne, Holds, Holds, Held, Held, hrec.world, hrec.entry]
  have hpoints : ∀ p, w.PointsHere p → p ≠ some (w.ref sn) → u.PointsHere p := by
    intro p hp hne q hq
    refine (hholds q).2 ⟨fun heq => hne ?_, hp q hq⟩
    rw [← heq]
    exact hq
  constructor
  · rintro hno ⟨other, hother, hne, c, hc, htarget⟩
    rw [← hcmd other hne] at hc
    have hhere := hno.cmds other ((hu other).2 ⟨hne, hother⟩) c hc (w.ref sn) htarget
    exact ((hholds (w.ref sn)).1 hhere).1 rfl
  · intro hnot
    refine ⟨fun npc hmem => ?_, fun sn' hsn' c hc => ?_⟩
    · obtain ⟨old, hold, rfl⟩ := List.mem_map.1 hmem
      rw [hrec.npcs, hleft.npcs] at hold
      obtain ⟨htarget, hlinker⟩ := h.npcs old hold
      obtain ⟨htarget', hlinker'⟩ := npc_playerDisappear algs u old.object (w.ref sn)
      refine ⟨?_, ?_⟩
      · show u.PointsHere _
        rw [htarget']
        split
        · exact pointsHere_none
        · rename_i hne
          exact hpoints _ htarget fun heq => hne (.inr heq)
      · show u.PointsHere _
        rw [hlinker']
        split
        · exact pointsHere_getNearestPlayer u _
        · rename_i hne
          exact hpoints _ hlinker hne
    · show u.PointsHere c.target
      obtain ⟨hne, hheld'⟩ := (hu sn').1 hsn'
      have hc' : c ∈ (u.extras sn').cmd.currCmd := hc
      rw [hcmd sn' hne] at hc'
      exact hpoints _ (h.cmds sn' hheld' c hc') fun heq => hnot ⟨sn', hheld', hne, c, hc', heq⟩

/-! ### Who enters, and who is cut off -/

/-- A player that enters with a command may do so if the command is about someone who is there. -/
theorem Entered.noStale_iff {proto : SyncPlayer fl.toFloatOps} {cmd : CmdObject fl} {object : Option PlayerRef}
    (h : w.NoStale) (henter : w.Entered t proto cmd object) : t.NoStale ↔ ∀ c ∈ cmd.currCmd, w.PointsHere c.target := by
  have hextras : ∀ sn, sn ≠ proto.playerSn → t.extras sn = w.extras sn := by
    intro sn hne
    rw [henter.extras, Function.update_of_ne hne]
  have hself : t.extras proto.playerSn = ⟨w.entries, cmd, none⟩ := by
    rw [henter.extras, Function.update_self]
  have hpoints : ∀ p, w.PointsHere p → t.PointsHere p := by
    intro p hp q hq
    obtain ⟨hheld, hentry⟩ := hp q hq
    have hne : q.sn ≠ proto.playerSn := fun heq => henter.free (heq ▸ hheld)
    refine ⟨(henter.held _).2 (.inr hheld), ?_⟩
    rw [hextras _ hne]
    exact hentry
  constructor
  · intro hno c hc p hp
    have hc' : c ∈ (t.extras proto.playerSn).cmd.currCmd := by
      rw [hself]
      exact hc
    obtain ⟨hheld, hentry⟩ := hno.cmds proto.playerSn ((henter.held _).2 (.inl rfl)) c hc' p hp
    have hne : p.sn ≠ proto.playerSn := by
      intro heq
      rw [heq, hself] at hentry
      have hlt := henter.earlier c hc p hp
      rw [← hentry] at hlt
      exact lt_irrefl _ hlt
    refine ⟨((henter.held _).1 hheld).resolve_left hne, ?_⟩
    rw [hextras _ hne] at hentry
    exact hentry
  · intro hcmd
    refine ⟨fun npc hmem => ?_, fun sn hsn c hc => hpoints _ ?_⟩
    · rw [henter.npcs] at hmem
      obtain ⟨old, hold, rfl⟩ := List.mem_map.1 hmem
      obtain ⟨htarget, hlinker⟩ := h.npcs old hold
      -- nobody gets an object that a pointer leads to
      refine ⟨hpoints _ ?_, hpoints _ ?_⟩
      · show w.PointsHere (PlayerRef.renewed _ _ _)
        rw [henter.gone.renewed_eq htarget]
        exact htarget
      · show w.PointsHere (PlayerRef.renewed _ _ _)
        rw [henter.gone.renewed_eq hlinker]
        exact hlinker
    · by_cases hsn' : sn = proto.playerSn
      · rw [hsn', hself] at hc
        exact hcmd c hc
      · rw [hextras _ hsn'] at hc
        exact h.cmds sn (((henter.held _).1 hsn).resolve_left hsn') c hc

/-- When players are cut off, nothing is forgotten. -/
theorem cut_noStale_iff {identify : NetIdentify} (h : w.NoStale) (hcut : w.Without t (w.Cut identify)) :
    t.NoStale ↔ ∀ p, w.PointedTo identify p → ¬ w.Cut identify p.sn := by
  constructor
  · rintro hno p (⟨npc, hnpc, hp⟩ | ⟨sn, hsn, hstays, c, hc, hp⟩)
    · rw [← hcut.npcs] at hnpc
      obtain ⟨htarget, hlinker⟩ := hno.npcs npc hnpc
      exact (hcut.holds_iff.1 (hp.elim (htarget p) (hlinker p))).1
    · rw [← hcut.extras] at hc
      exact (hcut.holds_iff.1 (hno.cmds sn ((hcut.held sn).2 ⟨hstays, hsn⟩) c hc p hp)).1
  · intro hstays
    refine ⟨fun npc hnpc => ⟨fun p hp => ?_, fun p hp => ?_⟩, fun sn hsn c hc p hp => ?_⟩
    · rw [hcut.npcs] at hnpc
      exact hcut.holds_iff.2 ⟨hstays p (.inl ⟨npc, hnpc, .inl hp⟩), (h.npcs npc hnpc).1 p hp⟩
    · rw [hcut.npcs] at hnpc
      exact hcut.holds_iff.2 ⟨hstays p (.inl ⟨npc, hnpc, .inr hp⟩), (h.npcs npc hnpc).2 p hp⟩
    · rw [hcut.extras] at hc
      obtain ⟨hstays', hheld⟩ := (hcut.held sn).1 hsn
      exact hcut.holds_iff.2 ⟨hstays p (.inr ⟨sn, hheld, hstays', c, hc, hp⟩), h.cmds sn hheld c hc p hp⟩

/-! ### All steps -/

/-- Nobody has a command about a player that is not there. -/
theorem NoStale.not_watched (h : w.NoStale) {sn : UInt64} (hsn : ¬ w.Held sn) : ¬ w.Watched sn := by
  rintro ⟨other, hother, -, c, hc, htarget⟩
  exact hsn (h.cmds other hother c hc (w.ref sn) htarget).1

/-- **One step**, exactly. -/
theorem step_noStale_iff {e : WorldEvent fl} (h : w.NoStale) (hstep : w.step algs e = some t) :
    t.NoStale ↔ w.KeepsPointers e := by
  by_cases he : e.entersOrLeaves = false
  · have hkeeps : w.KeepsPointers e := by
      cases e with
      | syncPlayer | networkDisconnect | removePlayer => cases he
      | requestSyncPlayer | client | syncAppear | updateNpc | updateCmd | moveNpc | movePlayer
      | enterElsewhere => trivial
    exact iff_of_true ((step_quiet he hstep).noStale h) hkeeps
  cases e with
  | requestSyncPlayer | client | syncAppear | updateNpc | updateCmd | moveNpc | movePlayer | enterElsewhere =>
    exact absurd rfl he
  | syncPlayer identify proto cmd object =>
    obtain ⟨hheld, rfl⟩ | henter := handleSyncPlayer_cases hstep
    · exact iff_of_true h (.inl hheld)
    · rw [henter.noStale_iff h]
      exact (or_iff_right henter.free).symm
  | networkDisconnect pools identify =>
    rw [KeepsPointers]
    obtain ⟨value, hplayer, hvalue⟩ | ⟨hplayer, happ⟩ := handleNetworkDisconnect_cases hstep
    · simp only [hplayer]
      obtain ⟨hgone, rfl⟩ | ⟨hheld, left, hleft, hdisappear⟩ := hvalue
      · exact iff_of_true h (h.not_watched hgone)
      · exact disappear_noStale_iff h hleft hdisappear
    · simp only [hplayer]
      obtain ⟨hnone, rfl⟩ | ⟨hsome, hcut⟩ := happ
      · simp [hnone, h]
      · rw [cut_noStale_iff h hcut]
        exact (imp_iff_right hsome).symm
  | removePlayer pools identify playerSn =>
    obtain ⟨hother, rfl⟩ | ⟨⟨player, hplayer, hsn⟩, hheld, left, hleft, hdisappear⟩ :=
      handleG2SRemovePlayer_cases hstep
    · exact iff_of_true h fun player hplayer hsn => absurd hsn (hother player hplayer)
    · rw [disappear_noStale_iff h hleft hdisappear]
      exact ⟨fun hnot _ _ _ => hnot, fun hkeeps => hkeeps player hplayer hsn⟩

/-- The first patrol points of a new NPC are no pointers. -/
theorem awake_pointers (npc : Npc fl) (config : BtConfig) (rolls : ℕ → Fin 4) :
    (NpcObject.awake npc config rolls).npc.target = npc.target ∧
      (NpcObject.awake npc config rolls).npc.linker = npc.linker := by
  rw [NpcObject.awake]
  refine List.foldlRecOn (motive := fun n : Npc fl => n.target = npc.target ∧ n.linker = npc.linker) _ _
    ⟨rfl, rfl⟩ fun n hn pair _ => ?_
  dsimp only
  split
  · exact hn
  · exact hn

/-- A new world has no pointers. -/
theorem Awakes.noStale (h : w.Awakes) : w.NoStale := by
  obtain ⟨empty, config, cfgs, hempty, -, -, rfl⟩ := h.npcs
  have hnpcs : ∀ (cfgs : List (UInt64 × ResourceNpc fl × (ℕ → Fin 4))) (u : NpcWorld fl),
      (∀ npc ∈ u.npcs, npc.object.npc.target = none ∧ npc.object.npc.linker = none) →
      ∀ npc ∈ (cfgs.foldl (addNpc config) u).npcs,
        npc.object.npc.target = none ∧ npc.object.npc.linker = none := by
    intro cfgs
    induction cfgs with
    | nil => exact fun u hu => hu
    | cons cfg cfgs ih =>
      refine fun u hu => ih _ fun npc hnpc => ?_
      obtain hnpc | hnpc := List.mem_append.1 hnpc
      · exact hu npc hnpc
      · obtain rfl := List.mem_singleton.1 hnpc
        exact awake_pointers (.awake cfg.1 cfg.2.1) config cfg.2.2
  refine ⟨fun npc hnpc => ?_, fun sn hsn => ?_⟩
  · obtain ⟨htarget, hlinker⟩ := hnpcs cfgs empty (fun npc hnpc => by rw [hempty] at hnpc; cases hnpc) npc hnpc
    rw [htarget, hlinker]
    exact ⟨pointsHere_none, pointsHere_none⟩
  · rw [Held, h.players] at hsn
    cases hsn

end NpcWorld

/-- **No pointer is stale** in any run of steps that keep the pointers, and the first step that does not
leaves one that is. -/
theorem noStale_run {fl : NpcFloats} {algs : Heap.Algorithms BtEvent.less} {es : List (WorldEvent fl)}
    {w : NpcWorld fl} (hrun : ((NpcWorld.system algs).restrict NpcWorld.KeepsPointers).Run es w) :
    w.NoStale ∧ ∀ e t, (NpcWorld.system algs).step w e t → (t.NoStale ↔ w.KeepsPointers e) := by
  refine hrun.restrict_exact (p := NpcWorld.NoStale) (fun s hs => NpcWorld.Awakes.noStale hs) (fun s hs => hs)
    fun s e t hs hstep => ?_
  have hiff := NpcWorld.step_noStale_iff hs hstep
  exact ⟨hiff, hiff.2⟩

/-! ### An observer -/

namespace NpcWorld

variable {fl : NpcFloats}

theorem forall_held {w : NpcWorld fl} {P : UInt64 → Prop} :
    (∀ sn, w.Held sn → P sn) ↔ ∀ player ∈ w.players, P player.playerSn := by
  constructor
  · intro h player hplayer
    refine h player.playerSn ?_
    rw [Held, SpaceWorld.mem_players.1 hplayer]
    rfl
  · intro h sn hsn
    obtain ⟨player, hplayer⟩ := Option.isSome_iff_exists.1 hsn
    obtain rfl := PlayerManager.getPlayerBySn_some hplayer
    exact h player (SpaceWorld.mem_players.2 hplayer)

instance (w : NpcWorld fl) (sn : UInt64) : Decidable (w.Watched sn) :=
  decidable_of_iff (¬ ∀ player ∈ w.players, ¬ (player.playerSn ≠ sn ∧
      ∃ c ∈ (w.extras player.playerSn).cmd.currCmd, c.target = some (w.ref sn))) <| by
    rw [← forall_held (P := fun other =>
      ¬ (other ≠ sn ∧ ∃ c ∈ (w.extras other).cmd.currCmd, c.target = some (w.ref sn)))]
    simp only [Watched, not_forall, not_not, exists_prop]

instance (w : NpcWorld fl) (identify : NetIdentify) (sn : UInt64) : Decidable (w.Cut identify sn) :=
  inferInstanceAs (Decidable (∃ player ∈ w.playerMgr.getPlayerBySn sn,
    player.socketKey.socket = identify.socketKey.socket))

instance (w : NpcWorld fl) (identify : NetIdentify) :
    Decidable (∀ p, w.PointedTo identify p → ¬ w.Cut identify p.sn) :=
  decidable_of_iff ((∀ npc ∈ w.npcs, (∀ p ∈ npc.object.npc.target, ¬ w.Cut identify p.sn) ∧
      ∀ p ∈ npc.object.npc.linker, ¬ w.Cut identify p.sn) ∧
    ∀ player ∈ w.players, ¬ w.Cut identify player.playerSn →
      ∀ c ∈ (w.extras player.playerSn).cmd.currCmd, ∀ p ∈ c.target, ¬ w.Cut identify p.sn) <| by
    rw [← forall_held (P := fun sn => ¬ w.Cut identify sn →
      ∀ c ∈ (w.extras sn).cmd.currCmd, ∀ p ∈ c.target, ¬ w.Cut identify p.sn)]
    constructor
    · rintro ⟨hnpcs, hcmds⟩ p (⟨npc, hnpc, htarget | hlinker⟩ | ⟨sn, hsn, hstays, c, hc, htarget⟩)
      · exact (hnpcs npc hnpc).1 p htarget
      · exact (hnpcs npc hnpc).2 p hlinker
      · exact hcmds sn hsn hstays c hc p htarget
    · intro h
      refine ⟨fun npc hnpc => ⟨fun p hp => ?_, fun p hp => ?_⟩, fun sn hsn hstays c hc p hp => ?_⟩
      · exact h p (.inl ⟨npc, hnpc, .inl hp⟩)
      · exact h p (.inl ⟨npc, hnpc, .inr hp⟩)
      · exact h p (.inr ⟨sn, hsn, hstays, c, hc, hp⟩)

instance (w : NpcWorld fl) (p : Option PlayerRef) : Decidable (w.PointsHere p) :=
  inferInstanceAs (Decidable (∀ q ∈ p, w.Holds q))

instance (w : NpcWorld fl) (e : WorldEvent fl) : Decidable (w.KeepsPointers e) :=
  match e with
  | .syncPlayer _ proto cmd _ =>
    inferInstanceAs (Decidable (w.Held proto.playerSn ∨ ∀ c ∈ cmd.currCmd, w.PointsHere c.target))
  | .networkDisconnect _ identify =>
    match h : identify.tagKey.getTagValue .player with
    | some value => decidable_of_iff (¬ w.Watched value.keyInt64) (by rw [KeepsPointers, h])
    | none =>
      decidable_of_iff ((identify.tagKey.getTagValue .app).isSome →
        ∀ p, w.PointedTo identify p → ¬ w.Cut identify p.sn) (by rw [KeepsPointers, h])
  | .removePlayer _ identify playerSn =>
    inferInstanceAs (Decidable (∀ player ∈ World.getPlayer w.playerMgr identify,
      player.playerSn = playerSn → ¬ w.Watched playerSn))
  | .requestSyncPlayer _ _ | .client _ _ _ | .syncAppear | .updateNpc _ _ _ | .updateCmd _ _ | .moveNpc _ _
  | .movePlayer _ _ | .enterElsewhere => .isTrue trivial

end NpcWorld

/-- A world without NPCs. -/
def NpcWorld.bare : NpcWorld .int where
  sn := 19791873
  worldId := 1
  worldType := .publicWorld
  syncWorldTimer := 1
  syncAppearTimer := 2
  playerMgr := .empty
  bodies := fun sn => ⟨[], .parserFromProto (traveller sn).player, .origin⟩
  adds := ∅
  extras := fun _ => ⟨0, ⟨none, none⟩, none⟩
  entries := 0
  npcs := []
  npcIdxMap := ∅

/-- What makes a skeleton. -/
def skeletonResource : ResourceNpc .int := ⟨0, 1, 100, 10, lair⟩

/-- A world with a skeleton. -/
def graveyard : NpcWorld .int := NpcWorld.bare.addNpc publicConfig (1, skeletonResource, fun _ => Npc.firstPoint)

theorem graveyard_awakes : graveyard.Awakes :=
  ⟨rfl, .bare, publicConfig, [(1, skeletonResource, fun _ => Npc.firstPoint)], rfl, rfl, List.nodup_singleton _, rfl⟩

/-- Nobody gets an object of the pool. -/
def noHeirs : Pools .int := ⟨⟨NpcFloats.int.walkSpeed, [], .create _⟩, fun _ => none⟩

/-- No teams. -/
def noTeams : Outside .int := ⟨noHeirs, noDrops, fun _ => none, fun _ => false⟩

/-- A packet for a player of the world. -/
def toPlayer (playerSn : UInt64) : NetIdentify := ⟨SocketKey.none, TagKey.clear.addTagInt .player playerSn⟩

/-- Two players enter; the second one leads the skeleton, and observes the first one. -/
def observes : List (WorldEvent .int) :=
  [.syncPlayer (fromSocket 5) (traveller 7) ⟨none, none⟩ none,
    .syncPlayer (fromSocket 6) (traveller 8) ⟨none, none⟩ none,
    .client noTeams (fromSocket 6) (.syncBtAction 0), .client noTeams (fromSocket 6) (.syncPlayerCmd 5 7 lair)]

/-- When the observer leaves, the skeleton follows the other player. -/
theorem noStale_observes : ∃ w : NpcWorld .int,
    ((NpcWorld.system sortedEvents).restrict NpcWorld.KeepsPointers).Run
        (observes ++ [.networkDisconnect noHeirs (toPlayer 8)]) w ∧
      w.npcs.map (fun npc => npc.object.npc.linker) = [some (w.ref 7)] ∧
      w.NoStale ∧ ∀ e t, (NpcWorld.system sortedEvents).step w e t → (t.NoStale ↔ w.KeepsPointers e) := by
  have hrun : (System.execute (NpcWorld.step sortedEvents) NpcWorld.KeepsPointers graveyard
      (observes ++ [.networkDisconnect noHeirs (toPlayer 8)])).map (fun w =>
        decide (w.npcs.map (fun npc => npc.object.npc.linker) = [some (w.ref 7)])) = some true := by
    decide +kernel
  obtain ⟨w, hw, hlinker⟩ := Option.map_eq_some_iff.1 hrun
  have hevents : ((NpcWorld.system sortedEvents).restrict NpcWorld.KeepsPointers).Run
      (observes ++ [.networkDisconnect noHeirs (toPlayer 8)]) w := System.run_of_execute graveyard_awakes hw
  exact ⟨w, hevents, of_decide_eq_true hlinker, noStale_run hevents⟩

/-- **The observer keeps its command** when the player that it observes leaves. -/
theorem not_noStale : ¬ ∀ (fl : NpcFloats) (algs : Heap.Algorithms BtEvent.less) (es : List (WorldEvent fl))
    (w : NpcWorld fl), (NpcWorld.system algs).Run es w → w.NoStale := by
  intro hall
  have hrun : (System.execute (NpcWorld.step sortedEvents) (fun _ _ => True) graveyard
      (observes ++ [.networkDisconnect noHeirs (toPlayer 7)])).map (fun w =>
        (decide (w.Held 8), ((w.extras 8).cmd.currCmd.bind Command.target).map fun p =>
          (p, decide (w.Holds p)))) = some (true, some (⟨7, 0⟩, false)) := by
    decide +kernel
  obtain ⟨w, hw, hfacts⟩ := Option.map_eq_some_iff.1 hrun
  obtain ⟨hheld, htarget⟩ := Prod.mk.inj hfacts
  obtain ⟨p, hp, hgone⟩ := Option.map_eq_some_iff.1 htarget
  obtain ⟨cmd, hcmd, hp⟩ := Option.bind_eq_some_iff.1 hp
  obtain ⟨-, hgone⟩ := Prod.mk.inj hgone
  have hevents : (NpcWorld.system sortedEvents).Run
      (observes ++ [.networkDisconnect noHeirs (toPlayer 7)]) w := System.run_of_execute_true graveyard_awakes hw
  have hno := hall .int sortedEvents _ w hevents
  exact of_decide_eq_false hgone (hno.cmds 8 (of_decide_eq_true hheld) cmd hcmd p hp)

end MmoServer
