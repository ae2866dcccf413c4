/-
**The two indexes of a world's players over whole runs.**

The players of a world stand under their serial numbers, and under the sockets that their clients have in
the game process.  Two game processes may use the same number for different clients.  When a game process
disconnects, the players are chosen by comparing the sockets of clients with the socket of the connection
that was closed, and all sockets are forgotten.

Main definitions:

* `MmoServer.WorldPlayers` — the players of a world, with the connection that each of them came over;
* `MmoServer.WorldPlayers.Agree` — what should hold: each player is found by its serial number and by its
  socket;
* `MmoServer.WorldPlayers.Unmoved` — a removal leaves the searches for the other players as they were;
* `MmoServer.WorldPlayers.KeepsIndex` — the steps that do not break them.

Main results:

* `MmoServer.WorldPlayers.Agree.socket_inj` — players that are found have different sockets;
* `MmoServer.playerIndex_exact` — **the first step that is not allowed breaks the indexes**;
* `MmoServer.playerIndex_run` — **both indexes agree** in every run of allowed steps;
* `MmoServer.not_playerIndex` — the player of a second game process takes the socket of the first one.
-/

import MmoServer.PlayerManager
import MmoServer.Transition

set_option relaxedAutoImplicit false
set_option autoImplicit false

namespace MmoServer

open Std

/-! ### The system -/

/-- The players of a world, and for a serial number the socket of the connection over which the player
came. -/
structure WorldPlayers where
  manager : PlayerManager
  app : UInt64 → ℤ

/-- What happens to the players of a world. -/
inductive WorldPlayersEvent
  | addPlayer (playerSn worldSn : UInt64) (identify : NetIdentify)
  | removePlayerBySn (playerSn : UInt64)
  | removeAllPlayers (identify : NetIdentify)

namespace WorldPlayers

/-- A world without players. -/
def start : WorldPlayers := ⟨.empty, fun _ => 0⟩

/-- One event; nothing behind a player that cannot be set up. -/
def step (s : WorldPlayers) : WorldPlayersEvent → Option WorldPlayers
  | .addPlayer playerSn worldSn identify =>
    match s.manager.addPlayer playerSn worldSn identify with
    | none => none
    | some (m, none) => some { s with manager := m }
    | some (m, some player) =>
      some ⟨m, Function.update s.app player.playerSn identify.socketKey.socket⟩
  | .removePlayerBySn playerSn =>
    some { s with manager := s.manager.removePlayerBySn playerSn }
  | .removeAllPlayers identify =>
    some { s with manager := s.manager.removeAllPlayers identify.socketKey.socket }

/-- The system. -/
def system : Transition.System WorldPlayers WorldPlayersEvent :=
  Transition.System.ofFun (fun s => s = .start) step

/-- **Agreement.**  Each player is found by its serial number, and by its socket. -/
def Agree (s : WorldPlayers) : Prop :=
  ∀ (sn : UInt64) (player : Player), s.manager.players[sn]? = some player →
    s.manager.getPlayerBySn player.playerSn = some player ∧
      s.manager.getPlayerBySocket player.socketKey.socket = some player

/-- Both searches for a player find what they found before. -/
def SameLookUps (s t : WorldPlayers) (player : Player) : Prop :=
  t.manager.getPlayerBySn player.playerSn = s.manager.getPlayerBySn player.playerSn ∧
    t.manager.getPlayerBySocket player.socketKey.socket =
      s.manager.getPlayerBySocket player.socketKey.socket

/-- **The others are unmoved** when a player, or the players of a game process, are removed. -/
def Unmoved (s : WorldPlayers) (e : WorldPlayersEvent) (t : WorldPlayers) : Prop :=
  match e with
  | .addPlayer _ _ _ => True
  | .removePlayerBySn playerSn =>
    ∀ (sn : UInt64) (player : Player), s.manager.players[sn]? = some player →
      player.playerSn ≠ playerSn → s.SameLookUps t player
  | .removeAllPlayers identify =>
    ∀ (sn : UInt64) (player : Player), s.manager.players[sn]? = some player →
      s.app player.playerSn ≠ identify.socketKey.socket → s.SameLookUps t player

/-- **Steps that keep the indexes.**  A new player has a socket that no player has; and when a connection
is closed, all players came over it, and have its number for a socket. -/
def KeepsIndex (s : WorldPlayers) : WorldPlayersEvent → Prop
  | .addPlayer playerSn _ identify =>
    s.manager.players[playerSn]? = none → ∀ value ∈ identify.tagKey.getTagValue .socket,
      ∀ (sn : UInt64) (player : Player), s.manager.players[sn]? = some player →
        player.socketKey.socket ≠ tagSocket value.keyInt64
  | .removePlayerBySn _ => True
  | .removeAllPlayers identify =>
    ∀ (sn : UInt64) (player : Player), s.manager.players[sn]? = some player →
      player.socketKey.socket = identify.socketKey.socket ∧
        s.app player.playerSn = identify.socketKey.socket

variable {s t : WorldPlayers}

/-! ### Players that are found -/

theorem agree_start : start.Agree := by
  intro sn player h
  simp [start, PlayerManager.empty] at h

/-- The half of the agreement that the managers of all worlds have. -/
theorem agree_iff : s.Agree ↔ ∀ (sn : UInt64) (player : Player),
    s.manager.players[sn]? = some player →
      s.manager.getPlayerBySocket player.socketKey.socket = some player := by
  constructor
  · intro h sn player hp
    exact (h sn player hp).2
  · intro h sn player hp
    refine ⟨?_, h sn player hp⟩
    rw [s.manager.sn_eq sn player hp]
    exact hp

/-- Players that are found have different sockets. -/
theorem Agree.socket_inj (h : s.Agree) {a b : UInt64} {p q : Player}
    (hp : s.manager.players[a]? = some p) (hq : s.manager.players[b]? = some q)
    (hsocket : p.socketKey.socket = q.socketKey.socket) : p = q := by
  have hfound := (h a p hp).2
  rw [hsocket, (h b q hq).2] at hfound
  exact (Option.some.inj hfound).symm

/-- What `AddPlayer` does to both indexes. -/
theorem sockets_addPlayer {m n : PlayerManager} {playerSn worldSn : UInt64} {identify : NetIdentify}
    {player : Player} (h : m.addPlayer playerSn worldSn identify = some (n, some player)) :
    n.players = m.players.insert playerSn player ∧
      n.sockets = m.sockets.insert player.socketKey.socket playerSn := by
  obtain ⟨-, hsn, -, -⟩ := PlayerManager.getPlayerBySn_addPlayer h
  unfold PlayerManager.addPlayer at h
  split at h
  · split at h
    · cases h
    · obtain ⟨rfl, hq⟩ := Prod.mk.inj (Option.some.inj h)
      obtain rfl := Option.some.inj hq
      exact ⟨congrArg (m.players.insert · _) hsn, congrArg (m.sockets.insert _ ·) hsn⟩
  · simp at h

/-- A player is added with the socket of the tag. -/
theorem socket_of_addPlayer {m n : PlayerManager} {playerSn worldSn : UInt64}
    {identify : NetIdentify} {player : Player}
    (h : m.addPlayer playerSn worldSn identify = some (n, some player)) :
    ∃ value, identify.tagKey.getTagValue .socket = some value ∧
      player.socketKey.socket = tagSocket value.keyInt64 := by
  obtain ⟨hawake, -, -, -⟩ := PlayerManager.getPlayerBySn_addPlayer h
  unfold Player.awakeInWorld at hawake
  split at hawake
  · cases hawake
  · rename_i value hvalue
    exact ⟨value, hvalue, by rw [← Option.some.inj hawake]⟩

/-! ### One step -/

/-- **A new player** leaves everyone found exactly if nobody has its socket. -/
theorem Agree.addPlayer_iff (h : s.Agree) {playerSn worldSn : UInt64} {identify : NetIdentify}
    {m : PlayerManager} {player : Player} {app : UInt64 → ℤ}
    (hadd : s.manager.addPlayer playerSn worldSn identify = some (m, some player)) :
    (⟨m, app⟩ : WorldPlayers).Agree ↔ s.KeepsIndex (.addPlayer playerSn worldSn identify) := by
  obtain ⟨-, hsn, hfree, -⟩ := PlayerManager.getPlayerBySn_addPlayer hadd
  obtain ⟨hplayers, hsockets⟩ := sockets_addPlayer hadd
  obtain ⟨value, hvalue, hsocket⟩ := socket_of_addPlayer hadd
  have hother : ∀ (sn : UInt64) (q : Player), s.manager.players[sn]? = some q → playerSn ≠ sn := by
    rintro sn q hq rfl
    rw [show s.manager.players[playerSn]? = none from hfree] at hq
    cases hq
  rw [agree_iff]
  unfold PlayerManager.getPlayerBySocket PlayerManager.getPlayerBySn
  simp only [hplayers, hsockets]
  constructor
  · intro hagree _ v hv sn q hq heq
    obtain rfl := Option.some.inj (hvalue.symm.trans hv)
    have hfound := hagree sn q (by rw [OrdMap.getElem?_insert, if_neg (hother sn q hq), hq])
    rw [OrdMap.getElem?_insert, if_pos (hsocket.trans heq.symm), Option.bind_some,
      OrdMap.getElem?_insert, if_pos rfl] at hfound
    obtain rfl := Option.some.inj hfound
    exact hother sn player hq (hsn.symm.trans (s.manager.sn_eq sn player hq))
  · intro hkeeps sn q hq
    rcases OrdMap.of_getElem?_insert hq with ⟨-, rfl⟩ | ⟨-, hold⟩
    · rw [OrdMap.getElem?_insert, if_pos rfl, Option.bind_some, OrdMap.getElem?_insert, if_pos rfl]
    · have hne : player.socketKey.socket ≠ q.socketKey.socket := by
        rw [hsocket]
        exact Ne.symm (hkeeps hfree value hvalue sn q hold)
      obtain ⟨a, ha, hqa⟩ := Option.bind_eq_some_iff.1 (h sn q hold).2
      rw [OrdMap.getElem?_insert, if_neg hne, ha, Option.bind_some, OrdMap.getElem?_insert,
        if_neg (hother a q hqa)]
      exact hqa

/-- **A player that is removed** leaves everyone else found as before. -/
theorem Agree.removePlayerBySn (h : s.Agree) (playerSn : UInt64) :
    ({ s with manager := s.manager.removePlayerBySn playerSn } : WorldPlayers).Agree ∧
      s.Unmoved (.removePlayerBySn playerSn)
        { s with manager := s.manager.removePlayerBySn playerSn } := by
  have hlookUps : ∀ (sn : UInt64) (q : Player), s.manager.players[sn]? = some q →
      q.playerSn ≠ playerSn → (s.manager.removePlayerBySn playerSn).getPlayerBySn q.playerSn =
        some q ∧ (s.manager.removePlayerBySn playerSn).getPlayerBySocket q.socketKey.socket =
          some q := by
    intro sn q hq hne
    have hbySn : (s.manager.removePlayerBySn playerSn).getPlayerBySn q.playerSn = some q := by
      rw [PlayerManager.getPlayerBySn_removePlayerBySn, if_neg (Ne.symm hne)]
      exact (h sn q hq).1
    refine ⟨hbySn, ?_⟩
    obtain ⟨a, ha, hqa⟩ := Option.bind_eq_some_iff.1 (h sn q hq).2
    obtain rfl : q.playerSn = a := PlayerManager.getPlayerBySn_some hqa
    have hsocket : (s.manager.removePlayerBySn playerSn).sockets[q.socketKey.socket]? =
        some q.playerSn := by
      unfold PlayerManager.removePlayerBySn
      split
      · exact ha
      · rename_i player hplayer
        rw [OrdMap.getElem?_erase, if_neg, ha]
        intro heq
        obtain rfl := h.socket_inj hplayer hq heq
        exact hne (s.manager.sn_eq playerSn player hplayer)
    rw [PlayerManager.getPlayerBySocket, hsocket, Option.bind_some]
    exact hbySn
  constructor
  · intro sn q hq
    have hfound : (s.manager.removePlayerBySn playerSn).getPlayerBySn sn = some q := hq
    rw [PlayerManager.getPlayerBySn_removePlayerBySn] at hfound
    split at hfound
    · cases hfound
    · rename_i hsn
      refine hlookUps sn q hfound ?_
      rw [s.manager.sn_eq sn q hfound]
      exact Ne.symm hsn
  · intro sn q hq hne
    obtain ⟨hbySn, hbySocket⟩ := hlookUps sn q hq hne
    exact ⟨hbySn.trans (h sn q hq).1.symm, hbySocket.trans (h sn q hq).2.symm⟩

/-- **A game process that disconnects** leaves everyone else found as before exactly if there is nobody
else, and all clients have its number. -/
theorem Agree.removeAllPlayers_iff (h : s.Agree) (identify : NetIdentify) :
    ({ s with manager := s.manager.removeAllPlayers identify.socketKey.socket } :
        WorldPlayers).Agree ∧
      s.Unmoved (.removeAllPlayers identify)
        { s with manager := s.manager.removeAllPlayers identify.socketKey.socket } ↔
      s.KeepsIndex (.removeAllPlayers identify) := by
  have hplayers : ∀ sn : UInt64,
      (s.manager.removeAllPlayers identify.socketKey.socket).players[sn]? =
        (s.manager.players[sn]?).filter
          fun q => q.socketKey.socket ≠ identify.socketKey.socket := fun sn =>
    ExtTreeMap.getElem?_filter'
  have hsockets : ∀ socket : ℤ,
      (s.manager.removeAllPlayers identify.socketKey.socket).getPlayerBySocket socket = none :=
    fun socket => rfl
  constructor
  · rintro ⟨hagree, hunmoved⟩ sn q hq
    have hsocket : q.socketKey.socket = identify.socketKey.socket := by
      by_contra hne
      have hkept : (s.manager.removeAllPlayers identify.socketKey.socket).players[sn]? = some q := by
        rw [hplayers, hq, Option.filter_some, if_pos (decide_eq_true hne)]
      have hfound := (hagree sn q hkept).2
      rw [hsockets] at hfound
      cases hfound
    refine ⟨hsocket, ?_⟩
    by_contra hne
    have hsame := (hunmoved sn q hq hne).1
    obtain rfl := s.manager.sn_eq sn q hq
    have hgone : (s.manager.removeAllPlayers identify.socketKey.socket).getPlayerBySn q.playerSn =
        none := by
      rw [PlayerManager.getPlayerBySn, hplayers, hq, Option.filter_some, if_neg]
      simp [hsocket]
    rw [hgone, (h _ q hq).1] at hsame
    cases hsame
  · intro hkeeps
    refine ⟨fun sn q hq => ?_, fun sn q hq hne => ?_⟩
    · rw [hplayers] at hq
      obtain ⟨hheld, hne⟩ := Option.filter_eq_some_iff.1 hq
      exact absurd (hkeeps sn q hheld).1 (of_decide_eq_true hne)
    · exact absurd (hkeeps sn q hq).2 hne

/-- **One step**, exactly. -/
theorem Agree.step_iff (h : s.Agree) {e : WorldPlayersEvent} (hv : s.step e = some t) :
    t.Agree ∧ s.Unmoved e t ↔ s.KeepsIndex e := by
  cases e with
  | addPlayer playerSn worldSn identify =>
    simp only [step] at hv
    cases hadd : s.manager.addPlayer playerSn worldSn identify with
    | none =>
      rw [hadd] at hv
      cases hv
    | some r =>
      obtain ⟨m, _ | player⟩ := r
      · rw [hadd] at hv
        obtain rfl := Option.some.inj hv
        unfold PlayerManager.addPlayer at hadd
        split at hadd
        · split at hadd
          · cases hadd
          · simp at hadd
        · rename_i hheld
          obtain rfl := (Prod.mk.inj (Option.some.inj hadd)).1
          exact iff_of_true ⟨h, trivial⟩ fun hfree => absurd hfree hheld
      · rw [hadd] at hv
        obtain rfl := Option.some.inj hv
        rw [← h.addPlayer_iff hadd]
        exact and_iff_left trivial
  | removePlayerBySn playerSn =>
    obtain rfl := Option.some.inj hv
    exact iff_of_true (h.removePlayerBySn playerSn) trivial
  | removeAllPlayers identify =>
    obtain rfl := Option.some.inj hv
    exact h.removeAllPlayers_iff identify

end WorldPlayers

/-! ### Runs -/

/-- **The indexes, exactly.**  They agree in every run of steps that keep them, and the next step keeps
them, and leaves the others unmoved, exactly if it is one of these. -/
theorem playerIndex_exact {es : List WorldPlayersEvent} {s : WorldPlayers}
    (hrun : (WorldPlayers.system.restrict WorldPlayers.KeepsIndex).Run es s) :
    s.Agree ∧ ∀ e t, WorldPlayers.system.step s e t →
      (t.Agree ∧ s.Unmoved e t ↔ s.KeepsIndex e) := by
  have hagree : s.Agree := by
    refine hrun.restrict_invariant ?_ fun s e t hs hkeeps hstep => ?_
    · rintro s rfl
      exact WorldPlayers.agree_start
    · exact ((hs.step_iff hstep).2 hkeeps).1
  exact ⟨hagree, fun e t hstep => hagree.step_iff hstep⟩

/-- **Both indexes agree** in every run of steps that keep them, and a removal leaves the searches for all
other players unmoved. -/
theorem playerIndex_run {es : List WorldPlayersEvent} {s : WorldPlayers}
    (hrun : (WorldPlayers.system.restrict WorldPlayers.KeepsIndex).Run es s) :
    s.Agree ∧ ∀ e t, (WorldPlayers.system.restrict WorldPlayers.KeepsIndex).step s e t →
      s.Unmoved e t := by
  obtain ⟨hagree, hexact⟩ := playerIndex_exact hrun
  exact ⟨hagree, fun e t hstep => ((hexact e t hstep.2).2 hstep.1).2⟩

/-- A packet of a client with a player for the world, in one process with the game. -/
def entersFrom (socket : ℤ) : NetIdentify :=
  ⟨SocketKey.none, TagKey.clear.addTagInt .socket (socketTag socket)⟩

/-- Two players come, one goes, and another one comes with its socket. -/
def indexEvents : List WorldPlayersEvent :=
  [.addPlayer 7 1 (entersFrom 5), .addPlayer 8 1 (entersFrom 6), .removePlayerBySn 7,
    .addPlayer 9 1 (entersFrom 5)]

instance (s : WorldPlayers) (e : WorldPlayersEvent) : Decidable (s.KeepsIndex e) :=
  match e with
  | .addPlayer playerSn _ identify =>
    letI (value : TagValue) : Decidable (∀ (sn : UInt64) (player : Player),
        s.manager.players[sn]? = some player →
          player.socketKey.socket ≠ tagSocket value.keyInt64) := OrdMap.decidableForall
    letI : Decidable (∀ value ∈ identify.tagKey.getTagValue .socket,
        ∀ (sn : UInt64) (player : Player), s.manager.players[sn]? = some player →
          player.socketKey.socket ≠ tagSocket value.keyInt64) := Option.decidableForallMem _
    letI : Decidable (s.manager.players[playerSn]? = none) :=
      decidable_of_iff _ Option.isNone_iff_eq_none
    inferInstanceAs (Decidable (_ → _))
  | .removePlayerBySn _ => .isTrue trivial
  | .removeAllPlayers _ => OrdMap.decidableForall

theorem playerIndex_events : ∃ s,
    (WorldPlayers.system.restrict WorldPlayers.KeepsIndex).Run indexEvents s ∧
      (s.manager.getPlayerBySocket 5).map Player.playerSn = some 9 ∧ s.Agree ∧
        ∀ e t, (WorldPlayers.system.restrict WorldPlayers.KeepsIndex).step s e t →
          s.Unmoved e t := by
  have hrun : (Transition.System.execute WorldPlayers.step WorldPlayers.KeepsIndex .start
      indexEvents).map (fun s => (s.manager.getPlayerBySocket 5).map Player.playerSn) =
        some (some 9) := by
    decide
  obtain ⟨s, hs, hsocket⟩ := Option.map_eq_some_iff.1 hrun
  have hevents : (WorldPlayers.system.restrict WorldPlayers.KeepsIndex).Run indexEvents s :=
    Transition.System.run_of_execute rfl hs
  exact ⟨s, hevents, hsocket, playerIndex_run hevents⟩

/-- Two game processes have a client on socket 5 each; both players enter the world. -/
def sharedSocket : List WorldPlayersEvent :=
  [.addPlayer 7 1 (entersFrom 5), .addPlayer 8 1 (entersFrom 5)]

/-- **The second player takes the socket** of the first one. -/
theorem not_playerIndex : ¬ ∀ (es : List WorldPlayersEvent) (s : WorldPlayers),
    WorldPlayers.system.Run es s → s.Agree ∧ ∀ e t, WorldPlayers.system.step s e t →
      s.Unmoved e t := by
  intro hall
  have hrun : (Transition.System.execute WorldPlayers.step (fun _ _ => True) .start
      sharedSocket).map (fun s => ((s.manager.players[(7 : UInt64)]?).map fun p =>
        (p.playerSn, p.socketKey.socket), (s.manager.getPlayerBySocket 5).map Player.playerSn)) =
      some (some (7, 5), some 8) := by
    decide
  obtain ⟨s, hs, hfound⟩ := Option.map_eq_some_iff.1 hrun
  obtain ⟨hheld, hsocket⟩ := Prod.mk.inj hfound
  have hevents : WorldPlayers.system.Run sharedSocket s :=
    Transition.System.run_of_execute_true rfl hs
  obtain ⟨player, hplayer, hfields⟩ := Option.map_eq_some_iff.1 hheld
  obtain ⟨hsn, hnumber⟩ := Prod.mk.inj hfields
  have hself := ((hall sharedSocket s hevents).1 7 player hplayer).2
  rw [hnumber] at hself
  rw [hself, Option.map_some, hsn] at hsocket
  exact absurd hsocket (by decide)

end MmoServer
