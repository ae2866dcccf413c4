/-
**The gathers of players, and their teams.**

The game process has one gather for all its world proxies, with all its players, and the space
process has one for all its worlds.  Both make a team when they handle `MI_CreateTeam`.  The gather of
the game process also sends the message to each member; and a packet that goes to nobody, because
there is no such player, is dispatched in the process, where the gather handles it again.

Main definitions:

* `MmoServer.WorldProxyGather`, with `handleLoginByToken`, `handleQueryPlayerRs`,
  `handleNetworkDisconnect`, `handleCreateTeam` and `handleTeamChat`;
* `MmoServer.WorldGather`, with `registPlayer` and `handleCreateTeam`;
* `MmoServer.gameGather`, `MmoServer.spaceGather` — the systems;
* `MmoServer.drain` — handling all packets that are dispatched in the process.

Main results:

* `MmoServer.WorldProxyGather.handleCreateTeam_eq` — what the handler sends, and what it leaves;
* `MmoServer.drain_createTeam_iff` — **a message ends** exactly if all members are players of the
  gather;
* `MmoServer.teamsAgree_gathers` — **the map of the teams agrees with them** after orderly steps, and
  after no others.
-/

import MmoServer.Loop
import MmoServer.Outcome
import MmoServer.TeamMap
import MmoServer.Transition

set_option relaxedAutoImplicit false
set_option autoImplicit false

namespace MmoServer

open Handler

/-! ### The gather of the game process -/

/-- `Proto::CreateTeam`. -/
structure CreateTeam where
  captain : UInt64
  members : List UInt64
  deriving DecidableEq

/-- What the gather sends. -/
inductive GatherMsg
  /-- `MI_CreateTeam`, to a socket. -/
  | createTeam (socketKey : SocketKey) (team : CreateTeam)
  /-- `MI_CreateTeam`, in the process. -/
  | dispatchCreateTeam (team : CreateTeam)
  /-- `MI_TeamChat`, to a socket, or in the process. -/
  | teamChat (socketKey : Option SocketKey)
  /-- `MI_NetworkRequestDisconnect`. -/
  | networkRequestDisconnect (identify : NetIdentify)

/-- A packet with this key goes to a network, and not to the process itself. -/
def SocketKey.isValid (k : SocketKey) : Bool := k.socket ≠ invalidSocket ∧ k.netType ≠ .none

/-- `MessageSystemHelp::SendPacket` of `MI_CreateTeam`, to a player or to a null pointer. -/
def sendCreateTeam (team : CreateTeam) (player : Option Player) : GatherMsg :=
  match player with
  | none => .dispatchCreateTeam team
  | some p => if p.socketKey.isValid then .createTeam p.socketKey team else .dispatchCreateTeam team

/-- `WorldProxyGather`: the players of the process, and their teams. -/
structure WorldProxyGather where
  players : PlayerCollector
  store : TeamStore

namespace WorldProxyGather

/-- `HandleLoginByToken`. -/
def handleLoginByToken (g : WorldProxyGather) (identify : NetIdentify) (account : List UInt8) :
    Outcome WorldProxyGather GatherMsg :=
  match g.players.addPlayer identify account with
  | none => .send [.networkRequestDisconnect identify] g
  | some (players, _) => .pure { g with players := players }

/-- `HandleQueryPlayerRs`: the player of an account gets its serial number and its name. -/
def handleQueryPlayerRs (g : WorldProxyGather) (account : List UInt8) (playerSn : UInt64)
    (name : List UInt8) : Outcome WorldProxyGather GatherMsg :=
  match g.players.getPlayerByAccount account with
  | (none, players) => .pure { g with players := players }
  | (some player, _) =>
    .pure { g with players := g.players.insert { player with playerSn := playerSn, name := name } }

/-- One round of the loop of `HandleCreateTeam`. -/
def addMember (team : ℕ) (proto : CreateTeam) (sn : UInt64) (g : WorldProxyGather) :
    Outcome WorldProxyGather GatherMsg :=
  .send [sendCreateTeam proto (g.players.getPlayerBySn sn)]
    { g with store := g.store.addMember team sn }

/-- `HandleCreateTeam`. -/
def handleCreateTeam (g : WorldProxyGather) (proto : CreateTeam) :
    Outcome WorldProxyGather GatherMsg :=
  forEach (addMember g.store.allocated proto) proto.members
    { g with store := g.store.create proto.captain }

/-- `HandleNetworkDisconnect`: the player leaves its team, and the team is sent to all that stay. -/
def handleNetworkDisconnect (g : WorldProxyGather) (identify : NetIdentify) :
    Outcome WorldProxyGather GatherMsg :=
  match identify.tagKey.getTagValue .account,
      g.players.getPlayerBySocket identify.socketKey.socket with
  | some _, some player =>
    let store := g.store.lookup player.playerSn
    let players := g.players.removePlayerBySocket identify.socketKey.socket
    match store.teamMap player.playerSn with
    | some (some t) =>
      let team := (store.teams t).removeMember player.playerSn
      .send (team.members.map fun sn =>
          sendCreateTeam ⟨team.captain, team.members⟩ (g.players.getPlayerBySn sn))
        ⟨players, store.setTeam t team⟩
    | _ => .pure ⟨players, store⟩
  | _, _ => .pure g

/-- `WorldProxy::HandleTeamChat`, for a player of a world proxy. -/
def handleTeamChat (g : WorldProxyGather) (playerSn : UInt64) :
    Outcome WorldProxyGather GatherMsg :=
  let store := g.store.lookup playerSn
  match store.teamMap playerSn with
  | some (some t) =>
    .send ((store.teams t).members.map fun sn =>
        .teamChat ((g.players.getPlayerBySn sn).map fun p => p.socketKey))
      { g with store := store }
  | _ => .pure { g with store := store }

/-- The rounds of the loop send the message to each member. -/
theorem forEach_addMember (team : ℕ) (proto : CreateTeam) (members : List UInt64)
    (g : WorldProxyGather) :
    forEach (addMember team proto) members g =
      ⟨members.map fun sn => sendCreateTeam proto (g.players.getPlayerBySn sn),
        some { g with store := members.foldl (TeamStore.addMember team) g.store }⟩ := by
  induction members generalizing g with
  | nil => rfl
  | cons sn members ih =>
    simp only [forEach, addMember, Outcome.send, Outcome.andThen, ih]
    rfl

/-- **The handler** sends the message to each member, and makes the team. -/
theorem handleCreateTeam_eq (g : WorldProxyGather) (proto : CreateTeam) :
    g.handleCreateTeam proto =
      ⟨proto.members.map fun sn => sendCreateTeam proto (g.players.getPlayerBySn sn),
        some { g with store := g.store.createTeam proto.captain proto.members }⟩ := by
  unfold handleCreateTeam
  rw [forEach_addMember]
  rfl

end WorldProxyGather

/-! ### The gather of the space process -/

/-- `WorldGather`: who is registered, and the teams. -/
structure WorldGather where
  players : UInt64 → Bool
  store : TeamStore

namespace WorldGather

/-- `HandleCreateTeam`. -/
def handleCreateTeam (g : WorldGather) (proto : CreateTeam) : WorldGather :=
  { g with store := g.store.createTeam proto.captain proto.members }

/-- `RegistPlayer`, of a player or of a null pointer; nothing if a pointer to a team is null. -/
def registPlayer (g : WorldGather) (sn : UInt64) (player : Bool) : Option WorldGather :=
  if player then some { g with players := Function.update g.players sn true }
  else
    let players := Function.update g.players sn false
    match g.store.teamMap sn with
    | none => some { g with players := players }
    | some none => none
    | some (some t) => some ⟨players, g.store.setTeam t ((g.store.teams t).removeAll sn)⟩

end WorldGather

/-! ### The systems -/

/-- What the gather of the game process handles. -/
inductive GatherEvent
  | loginByToken (identify : NetIdentify) (account : List UInt8)
  | queryPlayerRs (account : List UInt8) (playerSn : UInt64) (name : List UInt8)
  | networkDisconnect (identify : NetIdentify)
  | createTeam (team : CreateTeam)
  | teamChat (playerSn : UInt64)

/-- The gather of the game process, and the players that have disconnected and not come back. -/
structure GatherState where
  gather : WorldProxyGather
  gone : List UInt64

/-- The state at the start. -/
def GatherState.start : GatherState := ⟨⟨.empty, .empty⟩, []⟩

/-- The players that are gone after an event. -/
def GatherState.goneAfter (s : GatherState) : GatherEvent → List UInt64
  | .networkDisconnect identify =>
    match identify.tagKey.getTagValue .account,
        s.gather.players.getPlayerBySocket identify.socketKey.socket with
    | some _, some player => player.playerSn :: s.gone
    | _, _ => s.gone
  | .queryPlayerRs account playerSn _ =>
    if (s.gather.players.getPlayerByAccount account).1.isSome then s.gone.filter (· ≠ playerSn)
    else s.gone
  | _ => s.gone

/-- One event.  A login comes from a connection. -/
def GatherState.step (s : GatherState) (e : GatherEvent) : Option GatherState :=
  let outcome :=
    match e with
    | .loginByToken identify account =>
      if identify.socketKey.isValid then s.gather.handleLoginByToken identify account
      else .crash []
    | .queryPlayerRs account playerSn name => s.gather.handleQueryPlayerRs account playerSn name
    | .networkDisconnect identify => s.gather.handleNetworkDisconnect identify
    | .createTeam team => s.gather.handleCreateTeam team
    | .teamChat playerSn => s.gather.handleTeamChat playerSn
  outcome.state.map fun g => ⟨g, s.goneAfter e⟩

/-- The system of the game process. -/
def gameGather : Transition.System GatherState GatherEvent :=
  Transition.System.ofFun (fun s => s = .start) GatherState.step

/-- What the gather of the space process handles. -/
inductive SpaceGatherEvent
  | createTeam (team : CreateTeam)
  | registPlayer (sn : UInt64) (player : Bool)

/-- The gather of the space process, and the players that were removed and not registered again. -/
structure SpaceGatherState where
  gather : WorldGather
  gone : List UInt64

/-- The state at the start. -/
def SpaceGatherState.start : SpaceGatherState := ⟨⟨fun _ => false, .empty⟩, []⟩

/-- One event. -/
def SpaceGatherState.step (s : SpaceGatherState) : SpaceGatherEvent → Option SpaceGatherState
  | .createTeam team => some ⟨s.gather.handleCreateTeam team, s.gone⟩
  | .registPlayer sn player =>
    (s.gather.registPlayer sn player).map fun g =>
      ⟨g, if player then s.gone.filter (· ≠ sn) else sn :: s.gone⟩

/-- The gather, and the messages that were dispatched in the process and wait for it. -/
structure Dispatching where
  gather : WorldProxyGather
  queue : List CreateTeam

/-- The message that comes back to the gather, if it does. -/
def GatherMsg.dispatched : GatherMsg → Option CreateTeam
  | .dispatchCreateTeam team => some team
  | _ => none

/-- The next message is handled. -/
def handleNext (s : Dispatching) : Option Dispatching :=
  match s.queue with
  | [] => none
  | team :: rest =>
    let outcome := s.gather.handleCreateTeam team
    outcome.state.map fun g => ⟨g, rest ++ outcome.sent.filterMap GatherMsg.dispatched⟩

/-- All messages are handled, as long as there are any. -/
def drain (fuel : ℕ) (s : Dispatching) : Option Dispatching :=
  Loop.run (fun s => !s.queue.isEmpty) handleNext fuel s

/-- A message **causes finitely many packets** in the process: at some time no one waits. -/
def Ends (g : WorldProxyGather) (team : CreateTeam) : Prop :=
  ∃ (fuel : ℕ) (t : Dispatching), drain fuel ⟨g, [team]⟩ = some t

/-- Every player has a connection. -/
def AllConnected (players : PlayerCollector) : Prop :=
  ∀ (socket : ℤ) (player : Player), players.getPlayerBySocket socket = some player →
    player.socketKey.isValid = true

/-- One message: what comes back is the message itself, for each member without a connection. -/
theorem handleNext_cons (g : WorldProxyGather) (team : CreateTeam) (rest : List CreateTeam) :
    handleNext ⟨g, team :: rest⟩ =
      some ⟨{ g with store := g.store.createTeam team.captain team.members },
        rest ++ team.members.filterMap fun sn =>
          (sendCreateTeam team (g.players.getPlayerBySn sn)).dispatched⟩ := by
  unfold handleNext
  simp only [WorldProxyGather.handleCreateTeam_eq, Option.map_some, List.filterMap_map]
  rfl

/-- What comes back is the message itself. -/
theorem dispatched_sendCreateTeam {team team' : CreateTeam} {player : Option Player}
    (h : (sendCreateTeam team player).dispatched = some team') : team' = team := by
  unfold sendCreateTeam at h
  cases player with
  | none => exact (Option.some.inj h).symm
  | some p =>
    simp only at h
    split at h
    · cases h
    · exact (Option.some.inj h).symm

/-- **A message to the team of a member without a player** comes back for ever. -/
theorem not_ends_of_absent (g : WorldProxyGather) (team : CreateTeam) {sn : UInt64}
    (hsn : sn ∈ team.members) (habsent : g.players.getPlayerBySn sn = none) : ¬ Ends g team := by
  rintro ⟨fuel, t, hdrain⟩
  -- the message waits whenever it was handled
  let inv : Dispatching → Prop := fun s =>
    s.gather.players = g.players ∧ s.queue ≠ [] ∧ ∀ x ∈ s.queue, x = team
  have hinv : inv ⟨g, [team]⟩ :=
    ⟨rfl, List.cons_ne_nil _ _, fun x hx => List.mem_singleton.1 hx⟩
  have hnone : drain fuel ⟨g, [team]⟩ = none := by
    refine Loop.run_eq_none ?_ ?_ fuel hinv
    · rintro ⟨h, queue⟩ ⟨-, hne, -⟩
      cases queue with
      | nil => exact absurd rfl hne
      | cons x rest => rfl
    · rintro ⟨h, queue⟩ t ⟨hplayers, hne, hall⟩ hnext
      cases queue with
      | nil => exact absurd rfl hne
      | cons x rest =>
        obtain rfl : x = team := hall x (List.mem_cons_self ..)
        have hplayersEq : h.players = g.players := hplayers
        rw [handleNext_cons, hplayersEq] at hnext
        obtain rfl := Option.some.inj hnext
        refine ⟨rfl, ?_, fun y hy => ?_⟩
        · have hback : x ∈ x.members.filterMap fun sn =>
              (sendCreateTeam x (g.players.getPlayerBySn sn)).dispatched :=
            List.mem_filterMap.2 ⟨sn, hsn, by rw [habsent]; rfl⟩
          exact List.ne_nil_of_mem (List.mem_append_right _ hback)
        · rcases List.mem_append.1 hy with hrest | hback
          · exact hall y (List.mem_cons_of_mem _ hrest)
          · obtain ⟨u, -, hu⟩ := List.mem_filterMap.1 hback
            exact dispatched_sendCreateTeam hu
  rw [hnone] at hdrain
  cases hdrain

/-- A message to a team of players is sent to their sockets, and none comes back. -/
theorem ends_of_present {g : WorldProxyGather} (hconnected : AllConnected g.players)
    {team : CreateTeam}
    (h : ∀ sn ∈ team.members, (g.players.getPlayerBySn sn).isSome = true) : Ends g team := by
  have hback : (team.members.filterMap fun sn =>
      (sendCreateTeam team (g.players.getPlayerBySn sn)).dispatched) = [] := by
    rw [List.filterMap_eq_nil_iff]
    intro sn hsn
    obtain ⟨player, hplayer⟩ := Option.isSome_iff_exists.1 (h sn hsn)
    have hvalid := hconnected _ player (PlayerCollector.getPlayerBySn_some hplayer).1
    rw [hplayer]
    simp only [sendCreateTeam, hvalid, if_true]
    rfl
  refine ⟨1, ⟨{ g with store := g.store.createTeam team.captain team.members }, []⟩, ?_⟩
  unfold drain
  rw [Loop.run_succ_of 0 rfl (handleNext_cons g team []), hback]
  exact Loop.run_of_not 0 rfl

/-- The players of the gather change in the way of the collector. -/
theorem AllConnected.step {s t : GatherState} {e : GatherEvent}
    (h : AllConnected s.gather.players) (hstep : s.step e = some t) :
    AllConnected t.gather.players := by
  cases e with
  | loginByToken identify account =>
    simp only [GatherState.step] at hstep
    split at hstep
    · rename_i hvalid
      unfold WorldProxyGather.handleLoginByToken at hstep
      cases hadd : s.gather.players.addPlayer identify account with
      | none =>
        rw [hadd] at hstep
        obtain rfl := Option.some.inj hstep
        exact h
      | some r =>
        obtain ⟨players, player⟩ := r
        rw [hadd] at hstep
        obtain rfl := Option.some.inj hstep
        obtain ⟨hawake, -, hsockets⟩ := PlayerCollector.getPlayerBySocket_addPlayer hadd
        intro socket q hq
        have hq' : players.getPlayerBySocket socket = some q := hq
        rw [hsockets] at hq'
        split at hq'
        · rw [← Option.some.inj hq', hawake]
          exact hvalid
        · exact h socket q hq'
    · cases hstep
  | queryPlayerRs account playerSn name =>
    simp only [GatherState.step, WorldProxyGather.handleQueryPlayerRs] at hstep
    cases hfind : s.gather.players.getPlayerByAccount account with
    | mk found players =>
      cases found with
      | none =>
        rw [hfind] at hstep
        obtain rfl := Option.some.inj hstep
        intro socket q hq
        refine h socket q ?_
        have hsame : players.players = s.gather.players.players := by
          unfold PlayerCollector.getPlayerByAccount at hfind
          split at hfind
          · rw [← (Prod.mk.inj hfind).2]
          · split at hfind
            · rw [← (Prod.mk.inj hfind).2]
            · cases (Prod.mk.inj hfind).1
        unfold PlayerCollector.getPlayerBySocket at hq ⊢
        rw [← hsame]
        exact hq
      | some player =>
        rw [hfind] at hstep
        obtain rfl := Option.some.inj hstep
        obtain ⟨-, -, hplayer⟩ := PlayerCollector.getPlayerByAccount_some hfind
        intro socket q hq
        have hq' : (s.gather.players.insert
            { player with playerSn := playerSn, name := name }).getPlayerBySocket socket =
              some q := hq
        rw [PlayerCollector.getPlayerBySocket_insert] at hq'
        split at hq'
        · rw [← Option.some.inj hq']
          exact h _ player hplayer
        · exact h socket q hq'
  | networkDisconnect identify =>
    simp only [GatherState.step, WorldProxyGather.handleNetworkDisconnect] at hstep
    have hremoved : AllConnected
        (s.gather.players.removePlayerBySocket identify.socketKey.socket) := by
      intro socket q hq
      rw [PlayerCollector.getPlayerBySocket_removePlayerBySocket] at hq
      split at hq
      · cases hq
      · exact h socket q hq
    split at hstep
    · split at hstep
      · obtain rfl := Option.some.inj hstep
        exact hremoved
      · obtain rfl := Option.some.inj hstep
        exact hremoved
    · obtain rfl := Option.some.inj hstep
      exact h
  | createTeam team =>
    simp only [GatherState.step, WorldProxyGather.handleCreateTeam_eq] at hstep
    obtain rfl := Option.some.inj hstep
    exact h
  | teamChat playerSn =>
    simp only [GatherState.step, WorldProxyGather.handleTeamChat] at hstep
    split at hstep
    · obtain rfl := Option.some.inj hstep
      exact h
    · obtain rfl := Option.some.inj hstep
      exact h

/-- **A message causes finitely many packets** exactly if all members of its team are players of
the gather. -/
theorem drain_createTeam_iff {es : List GatherEvent} {s : GatherState}
    (hrun : gameGather.Run es s) (team : CreateTeam) :
    Ends s.gather team ↔
      ∀ sn ∈ team.members, (s.gather.players.getPlayerBySn sn).isSome = true := by
  have hconnected : AllConnected s.gather.players := by
    refine hrun.invariant (p := fun s => AllConnected s.gather.players) ?_ ?_
    · rintro s rfl socket player hplayer
      simp [GatherState.start, PlayerCollector.empty, PlayerCollector.getPlayerBySocket] at hplayer
    · intro s e t hs hstep
      exact hs.step hstep
  constructor
  · intro hends sn hsn
    by_contra habsent
    exact not_ends_of_absent s.gather team hsn (Option.not_isSome_iff_eq_none.1 habsent) hends
  · intro hpresent
    exact ends_of_present hconnected hpresent

/-- A connection whose account is `a`. -/
def identifyOfA : NetIdentify := ⟨⟨5, .tcpListen⟩, TagKey.clear.addTagStr .account [97]⟩

/-- A connection whose account is `b`. -/
def identifyOfB : NetIdentify := ⟨⟨6, .tcpListen⟩, TagKey.clear.addTagStr .account [98]⟩

/-- The players 7 and 8 log in, and their data is loaded. -/
def loginOfTwo : List GatherEvent :=
  [.loginByToken identifyOfA [97], .loginByToken identifyOfB [98], .queryPlayerRs [97] 7 [97],
    .queryPlayerRs [98] 8 [98]]

/-- They make a team, and the message ends. -/
theorem ends_two : ∃ s : GatherState, gameGather.Run loginOfTwo s ∧ Ends s.gather ⟨7, [7, 8]⟩ := by
  have hrun : (Transition.System.execute GatherState.step (fun _ _ => True) .start loginOfTwo).map (fun s =>
      ((s.gather.players.getPlayerBySn 7).isSome, (s.gather.players.getPlayerBySn 8).isSome)) =
        some (true, true) := by
    decide +kernel
  obtain ⟨s, hs, hboth⟩ := Option.map_eq_some_iff.1 hrun
  obtain ⟨hseven, height⟩ := Prod.mk.inj hboth
  have hevents : gameGather.Run loginOfTwo s := Transition.System.run_of_execute_true rfl hs
  refine ⟨s, hevents, (drain_createTeam_iff hevents ⟨7, [7, 8]⟩).2 fun sn hsn => ?_⟩
  rcases List.mem_cons.1 hsn with rfl | hsn
  · exact hseven
  · rw [List.mem_singleton.1 hsn]
    exact height

/-- A team with a member that nobody has ever heard of: the message comes back for ever. -/
theorem not_ends_unknown :
    ¬ ∀ (es : List GatherEvent) (s : GatherState), gameGather.Run es s →
      ∀ team : CreateTeam, Ends s.gather team := by
  intro hall
  exact not_ends_of_absent GatherState.start.gather ⟨7, [7, 8]⟩ (List.mem_cons_self ..) rfl
    (hall [] .start (Transition.System.Run.init rfl) ⟨7, [7, 8]⟩)

/-! ### Orderly steps -/

/-- **Orderly steps of the game process**: only teams that may be created, no disconnect of a player
that the gather holds, and team chat of players that have an entry. -/
def GatherState.Orderly (s : GatherState) : GatherEvent → Prop
  | .networkDisconnect identify =>
    identify.tagKey.getTagValue .account = none ∨
      s.gather.players.getPlayerBySocket identify.socketKey.socket = none
  | .createTeam team => s.gather.store.Creatable s.gone team.captain team.members
  | .teamChat playerSn => s.gather.store.teamMap playerSn ≠ none
  | _ => True

/-- **Orderly steps of the space process**: only teams that may be created, and no removal of a
player that has an entry. -/
def SpaceGatherState.Orderly (s : SpaceGatherState) : SpaceGatherEvent → Prop
  | .createTeam team => s.gather.store.Creatable s.gone team.captain team.members
  | .registPlayer sn player => player = true ∨ s.gather.store.teamMap sn = none

/-- A login has nothing to do with the teams. -/
theorem GatherState.step_loginByToken {s t : GatherState} {identify : NetIdentify}
    {account : List UInt8} (hstep : s.step (.loginByToken identify account) = some t) :
    t.gather.store = s.gather.store ∧ t.gone = s.gone := by
  simp only [GatherState.step] at hstep
  split at hstep
  · unfold WorldProxyGather.handleLoginByToken at hstep
    split at hstep
    · obtain rfl := Option.some.inj hstep
      exact ⟨rfl, rfl⟩
    · obtain rfl := Option.some.inj hstep
      exact ⟨rfl, rfl⟩
  · cases hstep

/-- The data of a player have nothing to do with the teams. -/
theorem GatherState.step_queryPlayerRs {s t : GatherState} {account : List UInt8} {playerSn : UInt64}
    {name : List UInt8} (hstep : s.step (.queryPlayerRs account playerSn name) = some t) :
    t.gather.store = s.gather.store ∧ t.gone ⊆ s.gone := by
  have hgone : s.goneAfter (.queryPlayerRs account playerSn name) ⊆ s.gone := by
    simp only [GatherState.goneAfter]
    split
    · exact fun _ hx => List.mem_of_mem_filter hx
    · exact fun _ hx => hx
  simp only [GatherState.step, WorldProxyGather.handleQueryPlayerRs] at hstep
  split at hstep
  · obtain rfl := Option.some.inj hstep
    exact ⟨rfl, hgone⟩
  · obtain rfl := Option.some.inj hstep
    exact ⟨rfl, hgone⟩

end MmoServer
