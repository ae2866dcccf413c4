/-
**No ghosts.**

When the end of a connection has reached everyone, and no packet about its player is under way, the
player should be gone: from the lobby, from every proxy and every world, and from the locator of
sockets.  A proxy that has already handled the end of the connection still takes a player that is
teleported to it, and nobody takes that player away again; a locator that has handled it still
notes the socket; and nobody knows whose connection has ended when the network was not told the
account.  This module shows that there is no other reason.

Main definitions:

* `MmoServer.Transit.Settled`, `MmoServer.Transit.NoGhosts` — nothing is under way, and no one holds
  the player;
* `MmoServer.Transit.takes` — an entity is about to take the player;
* `MmoServer.Transit.Absent` — no one has the player, or a packet that brings it;
* `MmoServer.Transit.Orderly` — the end of the connection names the account, or the player is
  absent, and no one takes the player for whom, or for whose locator, the connection has ended;
* `MmoServer.heldAfter` — whether a world will hold the player, when it has handled what is waiting.

Main results:

* `MmoServer.Transit.Invariant.step` — what one step keeps;
* `MmoServer.noGhosts_of_orderly` — **after a run whose steps are all orderly there are no ghosts**.
-/

import MmoServer.PlayerTransit

set_option relaxedAutoImplicit false
set_option autoImplicit false

namespace MmoServer

open Std Handler

/-! ### Ghosts -/

namespace Transit

/-- The connection has ended, and every packet has been handled. -/
structure Settled (t : Transit) : Prop where
  closed : t.closedAt.isSome = true
  lobby : t.cursor .lobby = t.log.length
  locator : t.cursor .locator = t.log.length
  proxies : ∀ sn ∈ t.proxySns, (t.proxies sn).isSome = true →
    t.cursor (.proxy sn) = t.log.length
  worlds : ∀ sn ∈ t.proxySns, (t.worlds sn).isSome = true → t.toWorld sn = []

instance (t : Transit) : Decidable t.Settled :=
  -- serial numbers are checked along the list, not all of them
  haveI _hlist (p : UInt64 → Prop) [DecidablePred p] (l : List UInt64) : Decidable (∀ sn ∈ l, p sn) :=
    List.decidableBAll p l
  decidable_of_iff
    (t.closedAt.isSome = true ∧ t.cursor .lobby = t.log.length ∧ t.cursor .locator = t.log.length ∧
      (∀ sn ∈ t.proxySns, (t.proxies sn).isSome = true → t.cursor (.proxy sn) = t.log.length) ∧
      ∀ sn ∈ t.proxySns, (t.worlds sn).isSome = true → t.toWorld sn = [])
    ⟨fun ⟨h₁, h₂, h₃, h₄, h₅⟩ => ⟨h₁, h₂, h₃, h₄, h₅⟩, fun ⟨h₁, h₂, h₃, h₄, h₅⟩ =>
      ⟨h₁, h₂, h₃, h₄, h₅⟩⟩

/-- No one holds the player of the client, and its socket leads nowhere. -/
structure NoGhosts (c : TransitClient) (t : Transit) : Prop where
  held : ∀ e : TransitEntity, t.held c e = none
  worlds : ∀ (sn : UInt64) (players : PlayerManager), t.worlds sn = some players →
    players.getPlayerBySn c.playerSn = none ∧ players.getPlayerBySocket c.socket = none
  locator : t.locator.componentes c.socket = none

/-- An entity has handled the end of the connection. -/
def past (t : Transit) (e : TransitEntity) : Bool :=
  match t.closedAt with
  | none => false
  | some k => k < t.cursor e

/-- The next packet makes an entity take the player. -/
def takes (c : TransitClient) (t : Transit) : TransitEntity → Bool
  | .lobby =>
    match t.lobby, t.log[t.cursor .lobby]? with
    | some l, some m =>
      m.body.isLogin && (l.players.getPlayerBySocket c.socket).isNone && m.identify.isFor l.sn
    | _, _ => false
  | .proxy sn =>
    match t.proxies sn, t.log[t.cursor (.proxy sn)]? with
    | some w, some m =>
      m.body.isTeleport && (w.players.getPlayerBySocket c.socket).isNone && m.identify.isFor w.sn
    | _, _ => false
  | .locator => false

/-- Those who may hold a player. -/
def entities (t : Transit) : List TransitEntity := .lobby :: t.proxySns.map .proxy

/-- No one has the player, or a packet still to handle that brings it. -/
def Absent (c : TransitClient) (t : Transit) : Prop :=
  ∀ e ∈ t.entities, t.held c e = none ∧
    ∀ m ∈ t.log.drop (t.cursor e), m.body.brings e = false

instance (c : TransitClient) (t : Transit) : Decidable (t.Absent c) :=
  haveI _hnone (e : TransitEntity) : Decidable (t.held c e = none) :=
    decidable_of_iff ((t.held c e).isNone = true) Option.isNone_iff_eq_none
  List.decidableBAll _ t.entities

/-- When a step may be taken: the end of the connection names the account, or the player is absent,
and an entity takes the player only while neither it nor the locator of sockets has handled the end
of the connection. -/
def Orderly (c : TransitClient) (t : Transit) : TransitEvent → Prop
  | .disconnect account => account.isSome = true ∨ t.Absent c
  | .handle e => t.takes c e = true → t.past e = false ∧ t.past .locator = false
  | _ => True

instance (c : TransitClient) (t : Transit) : ∀ e : TransitEvent, Decidable (t.Orderly c e)
  | .disconnect account => inferInstanceAs (Decidable (account.isSome = true ∨ t.Absent c))
  | .handle e =>
    inferInstanceAs (Decidable (t.takes c e = true → t.past e = false ∧ t.past .locator = false))
  | .login _ _ _ => isTrue trivial
  | .loaded _ _ => isTrue trivial
  | .teleport _ _ => isTrue trivial
  | .createProxy _ => isTrue trivial
  | .worldHandles _ => isTrue trivial

end Transit

/-! ### What a world will hold -/

/-- Whether a world will hold the player, when it has handled the packets of a queue. -/
def heldAfter (held : Bool) (queue : List WorldMessage) : Bool :=
  queue.foldl (fun _ m => m.body.adds) held

theorem heldAfter_append (held : Bool) (queue : List WorldMessage) (m : WorldMessage) :
    heldAfter held (queue ++ [m]) = m.body.adds := by
  unfold heldAfter
  rw [List.foldl_append]
  rfl

/-- A world that holds less now does not hold more later. -/
theorem heldAfter_mono {held held' : Bool} (h : held = true → held' = true)
    {queue : List WorldMessage} (hafter : heldAfter held queue = true) :
    heldAfter held' queue = true := by
  cases queue with
  | nil => exact h hafter
  | cons m queue => exact hafter

/-! ### The invariant -/

namespace Transit

/-- The end of the connection does not name the account. -/
def Nameless (t : Transit) : Prop :=
  ∃ k ∈ t.closedAt, ∃ m : TransitMessage, t.log[k]? = some m ∧ m.Nameless

/-- What holds between the steps. -/
structure Invariant (c : TransitClient) (d : Deployment) (t : Transit) : Prop where
  log : ∀ m ∈ t.log, m.OfClient c
  /-- The packet with the end of the connection is where it was noted. -/
  closed : ∀ k ∈ t.closedAt, ∃ m : TransitMessage, t.log[k]? = some m ∧
    m.body.isDisconnect = true ∧ m.body.isLogin = false ∧ m.body.isTeleport = false
  /-- The client has sent its logins before. -/
  logins : ∀ k ∈ t.closedAt, ∀ (i : ℕ) (m : TransitMessage), t.log[i]? = some m →
    m.body.isLogin = true → i < k
  cursor : ∀ e : TransitEntity, t.cursor e ≤ t.log.length
  lobby : ∀ l : Lobby, t.lobby = some l → l.players.OnlyAt c.socket ∧
    (t.past .lobby = true → l.players.getPlayerBySocket c.socket = none)
  proxies : ∀ (sn : UInt64) (w : WorldProxy), t.proxies sn = some w →
    w.players.OnlyAt c.socket ∧
    (∀ player : Player, w.players.getPlayerBySocket c.socket = some player →
      player.playerSn = c.playerSn) ∧
    (t.past (.proxy sn) = true → w.players.getPlayerBySocket c.socket = none)
  created : ∀ sn : UInt64, sn ∉ t.proxySns →
    t.proxies sn = none ∧ t.worlds sn = none ∧ t.toWorld sn = []
  worlds : ∀ (sn : UInt64) (players : PlayerManager), t.worlds sn = some players →
    players.Tracks c ∧
    (heldAfter (players.getPlayerBySn c.playerSn).isSome (t.toWorld sn) = true →
      (t.held c (.proxy sn)).isSome = true)
  toWorld : ∀ sn : UInt64, ∀ m ∈ t.toWorld sn, m.OfClient c d
  locator : t.past .locator = true → t.locator.componentes c.socket = none
  /-- Who handles the end of the connection without the account does nothing, and need not. -/
  absent : t.Nameless → t.Absent c

section

variable {c : TransitClient} {d : Deployment} {t u : Transit}

theorem past_iff {e : TransitEntity} :
    t.past e = true ↔ ∃ k ∈ t.closedAt, k < t.cursor e := by
  unfold past
  cases t.closedAt with
  | none => simp
  | some k => simp

/-- The invariant holds at the start. -/
theorem invariant_start (sn : UInt64) : (start sn).Invariant c d where
  log := by
    intro m hm
    cases hm
  closed := by
    intro k hk
    cases hk
  logins := by
    intro k hk
    cases hk
  cursor := fun e => Nat.le_refl 0
  lobby := by
    intro l hl
    rw [← Option.some.inj hl]
    exact ⟨PlayerCollector.onlyAt_empty c.socket, fun hpast => by cases hpast⟩
  proxies := by
    intro sn w hw
    cases hw
  created := fun sn _ => ⟨rfl, rfl, rfl⟩
  worlds := by
    intro sn players hplayers
    cases hplayers
  toWorld := by
    intro sn m hm
    cases hm
  locator := by
    intro hpast
    cases hpast
  absent := by
    rintro ⟨k, hk, -⟩
    cases hk

/-- A player is held by an entity that may hold one. -/
theorem Invariant.mem_entities (h : t.Invariant c d) {e : TransitEntity} {player : Player}
    (hheld : t.held c e = some player) : e ∈ t.entities := by
  cases e with
  | lobby => exact List.mem_cons_self ..
  | proxy sn =>
    by_contra hnot
    have hnew : sn ∉ t.proxySns := fun hsn =>
      hnot (List.mem_cons_of_mem _ (List.mem_map_of_mem hsn))
    rw [held_proxy, (h.created sn hnew).1] at hheld
    cases hheld
  | locator => cases hheld

/-- Who holds the player has been told the account, when the connection has ended. -/
theorem Invariant.not_nameless (h : t.Invariant c d) {e : TransitEntity} {player : Player}
    (hheld : t.held c e = some player) : ¬ t.Nameless := by
  intro hnameless
  have hnone := (h.absent hnameless e (h.mem_entities hheld)).1
  rw [hheld] at hnone
  cases hnone

/-- No one holds the player, when the connection has ended without the account. -/
theorem Invariant.held_eq_none (h : t.Invariant c d) (hnameless : t.Nameless) (e : TransitEntity) :
    t.held c e = none := by
  cases hheld : t.held c e with
  | none => rfl
  | some player => exact absurd hnameless (h.not_nameless hheld)

theorem Invariant.lobby_absent (h : t.Invariant c d) {l : Lobby} (hl : t.lobby = some l)
    (hnameless : t.Nameless) : l.players.getPlayerBySocket c.socket = none := by
  have hheld := h.held_eq_none hnameless .lobby
  rw [held_lobby, hl] at hheld
  exact hheld

theorem Invariant.proxy_absent (h : t.Invariant c d) {sn : UInt64} {w : WorldProxy}
    (hw : t.proxies sn = some w) (hnameless : t.Nameless) :
    w.players.getPlayerBySocket c.socket = none := by
  have hheld := h.held_eq_none hnameless (.proxy sn)
  rw [held_proxy, hw] at hheld
  exact hheld

/-- An entity that is about to take the player has been told the account, when the connection has
ended. -/
theorem Invariant.not_nameless_of_brings (h : t.Invariant c d) {e : TransitEntity}
    (he : e ∈ t.entities) {m : TransitMessage} (hm : t.log[t.cursor e]? = some m)
    (hbrings : m.body.brings e = true) : ¬ t.Nameless := by
  intro hnameless
  have hwaits : m ∈ t.log.drop (t.cursor e) := by
    refine List.mem_of_getElem? (i := 0) ?_
    rw [List.getElem?_drop]
    exact hm
  rw [(h.absent hnameless e he).2 m hwaits] at hbrings
  cases hbrings

/-- The player stays absent while no one gets it, and no packet that brings it. -/
theorem Absent.mono (h : t.Absent c) (hentities : u.entities = t.entities)
    (hheld : ∀ e ∈ t.entities, t.held c e = none → u.held c e = none)
    (hwaits : ∀ e ∈ t.entities, ∀ m ∈ u.log.drop (u.cursor e),
      m ∈ t.log.drop (t.cursor e) ∨ m.body.brings e = false) : u.Absent c := by
  intro e he
  rw [hentities] at he
  refine ⟨hheld e he (h e he).1, fun m hm => ?_⟩
  rcases hwaits e he m hm with hold | hnew
  · exact (h e he).2 m hold
  · exact hnew

/-- The player stays absent when packets are dispatched that do not bring it. -/
theorem Absent.dispatch (h : t.Absent c) (hcursor : ∀ e : TransitEntity, t.cursor e ≤ t.log.length)
    {ms : List TransitMessage}
    (hms : ∀ m ∈ ms, m.body.isLogin = false ∧ m.body.isTeleport = false) :
    ({ t with log := t.log ++ ms } : Transit).Absent c := by
  refine h.mono rfl (fun e _ hheld => hheld) fun e _ m hm => ?_
  rw [List.drop_append_of_le_length (hcursor e)] at hm
  rcases List.mem_append.1 hm with hold | hnew
  · exact Or.inl hold
  · exact Or.inr (TransitBody.brings_eq_false (hms m hnew).1 (hms m hnew).2 e)

/-- **No ghosts**, when everything has settled. -/
theorem Invariant.noGhosts (h : t.Invariant c d) (hsettled : t.Settled) : t.NoGhosts c := by
  obtain ⟨k, hk⟩ := Option.isSome_iff_exists.1 hsettled.closed
  have hlt : k < t.log.length := by
    obtain ⟨m, hm, -⟩ := h.closed k hk
    exact (List.getElem?_eq_some_iff.1 hm).1
  -- everyone has handled the end of the connection
  have hpast : ∀ e : TransitEntity, t.cursor e = t.log.length → t.past e = true := by
    intro e he
    exact past_iff.2 ⟨k, hk, by rw [he]; exact hlt⟩
  have hproxy : ∀ sn : UInt64, t.held c (.proxy sn) = none := by
    intro sn
    rw [held_proxy]
    cases hw : t.proxies sn with
    | none => rfl
    | some w =>
      have hmem : sn ∈ t.proxySns := by
        by_contra hnot
        rw [(h.created sn hnot).1] at hw
        cases hw
      have hcursor := hsettled.proxies sn hmem (by rw [hw]; rfl)
      exact (h.proxies sn w hw).2.2 (hpast _ hcursor)
  refine ⟨fun e => ?_, fun sn players hplayers => ?_, h.locator (hpast _ hsettled.locator)⟩
  · cases e with
    | lobby =>
      rw [held_lobby]
      cases hl : t.lobby with
      | none => rfl
      | some l => exact (h.lobby l hl).2 (hpast _ hsettled.lobby)
    | proxy sn => exact hproxy sn
    | locator => rfl
  · obtain ⟨htracks, hheld⟩ := h.worlds sn players hplayers
    have hmem : sn ∈ t.proxySns := by
      by_contra hnot
      rw [(h.created sn hnot).2.1] at hplayers
      cases hplayers
    have hempty := hsettled.worlds sn hmem (by rw [hplayers]; rfl)
    have hnone : players.getPlayerBySn c.playerSn = none := by
      rw [← Option.not_isSome_iff_eq_none]
      intro hsome
      rw [hempty] at hheld
      have hthere := hheld hsome
      rw [hproxy sn] at hthere
      cases hthere
    exact ⟨hnone, htracks.getPlayerBySocket.trans hnone⟩

/-! ### Steps that are not handlers -/

/-- What was dispatched first stays where it is. -/
theorem Invariant.nameless_dispatch (h : t.Invariant c d) {ms : List TransitMessage}
    (hnameless : ({ t with log := t.log ++ ms } : Transit).Nameless) : t.Nameless := by
  obtain ⟨k, hk, m, hm, hname⟩ := hnameless
  obtain ⟨a, ha, -⟩ := h.closed k hk
  have hlt := (List.getElem?_eq_some_iff.1 ha).1
  exact ⟨k, hk, m, (List.getElem?_append_left hlt).symm.trans hm, hname⟩

/-- Packets are dispatched, which are no logins when the connection has ended, and no teleports when
it has ended without the account. -/
theorem Invariant.dispatch (h : t.Invariant c d) {ms : List TransitMessage}
    (hms : ∀ m ∈ ms, m.OfClient c ∧ (m.body.isLogin = true → t.closedAt = none) ∧
      (m.body.isTeleport = true → ¬ t.Nameless)) :
    ({ t with log := t.log ++ ms } : Transit).Invariant c d where
  log := by
    intro a ha
    rcases List.mem_append.1 ha with hold | hnew
    · exact h.log a hold
    · exact (hms a hnew).1
  closed := by
    intro k hk
    obtain ⟨a, ha, hbody⟩ := h.closed k hk
    have hlt := (List.getElem?_eq_some_iff.1 ha).1
    exact ⟨a, by rw [List.getElem?_append_left hlt]; exact ha, hbody⟩
  logins := by
    intro k hk i a ha hbody
    by_cases hi : i < t.log.length
    · rw [List.getElem?_append_left hi] at ha
      exact h.logins k hk i a ha hbody
    · rw [List.getElem?_append_right (Nat.le_of_not_lt hi)] at ha
      rw [(hms a (List.mem_of_getElem? ha)).2.1 hbody] at hk
      cases hk
  cursor := by
    intro e
    rw [List.length_append]
    exact Nat.le_trans (h.cursor e) (Nat.le_add_right _ _)
  lobby := h.lobby
  proxies := h.proxies
  created := h.created
  worlds := h.worlds
  toWorld := h.toWorld
  locator := h.locator
  absent := by
    intro hnameless
    have hbefore := h.nameless_dispatch hnameless
    refine (h.absent hbefore).dispatch h.cursor fun m hm => ?_
    obtain ⟨-, hlogin, hteleport⟩ := hms m hm
    refine ⟨Bool.eq_false_iff.2 fun hbody => ?_, Bool.eq_false_iff.2 fun hbody => hteleport hbody hbefore⟩
    obtain ⟨k, hk, -⟩ := hbefore
    rw [hlogin hbody] at hk
    cases hk

/-- A packet is dispatched, as above. -/
theorem Invariant.dispatchOne (h : t.Invariant c d) {m : TransitMessage} (hm : m.OfClient c)
    (hlogin : m.body.isLogin = true → t.closedAt = none)
    (hteleport : m.body.isTeleport = true → ¬ t.Nameless) :
    ({ t with log := t.log ++ [m] } : Transit).Invariant c d :=
  h.dispatch fun a ha => by
    rw [List.mem_singleton.1 ha]
    exact ⟨hm, hlogin, hteleport⟩

/-- The client sends a login. -/
theorem Invariant.login (h : t.Invariant c d) {tagKey : TagKey} {account token : List UInt8}
    (hstep : t.step c d (.login tagKey account token) = some u) : u.Invariant c d := by
  unfold step at hstep
  cases hclosed : t.closedAt with
  | some k =>
    rw [hclosed] at hstep
    cases hstep
  | none =>
    simp only [hclosed] at hstep
    obtain rfl := Option.some.inj hstep
    exact hclosed ▸ h.dispatchOne rfl (fun _ => hclosed) fun hteleport => by cases hteleport

/-- A holder teleports the player. -/
theorem Invariant.teleport (h : t.Invariant c d) {e : TransitEntity} {target : UInt64}
    (hstep : t.step c d (.teleport e target) = some u) : u.Invariant c d := by
  unfold step at hstep
  simp only at hstep
  split at hstep
  · rename_i sn players player hholder hheld
    split at hstep
    · rename_i hsn
      obtain rfl := Option.some.inj hstep
      have hnamed := h.not_nameless hheld
      have hsocket : player.socketKey.socket = c.socket := by
        unfold held at hheld
        rw [hholder] at hheld
        exact PlayerCollector.getPlayerBySocket_socket hheld
      exact h.dispatchOne ⟨hsocket, hsn⟩ (fun hlogin => by cases hlogin) fun _ => hnamed
    · cases hstep
  · cases hstep

/-- The data of the player come. -/
theorem Invariant.loaded (h : t.Invariant c d) {worlds : ResourceWorldMgr} {record : PlayerRecord}
    (hstep : t.step c d (.loaded worlds record) = some u) : u.Invariant c d := by
  unfold step at hstep
  simp only at hstep
  split at hstep
  · rename_i l player hl hheld
    split at hstep
    · obtain rfl := Option.some.inj hstep
      have hplayer : l.players.getPlayerBySocket c.socket = some player := by
        rw [held_lobby, hl] at hheld
        exact hheld
      have hsocket := PlayerCollector.getPlayerBySocket_socket hplayer
      refine ⟨h.log, h.closed, h.logins, h.cursor, fun l' hl' => ?_, h.proxies, h.created,
        h.worlds, h.toWorld, h.locator, fun hnameless => absurd hnameless (h.not_nameless hheld)⟩
      obtain rfl := Option.some.inj hl'
      refine ⟨(h.lobby l hl).1.insert hsocket, fun hpast => ?_⟩
      -- a lobby for which the connection has ended does not hold the player
      have hnone := (h.lobby l hl).2 hpast
      rw [hplayer] at hnone
      cases hnone
    · cases hstep
  · cases hstep

/-- The connection ends. -/
theorem Invariant.disconnect (h : t.Invariant c d) {account : Option (List UInt8)}
    (horderly : t.Orderly c (.disconnect account))
    (hstep : t.step c d (.disconnect account) = some u) : u.Invariant c d := by
  unfold step at hstep
  cases hclosed : t.closedAt with
  | some k =>
    rw [hclosed] at hstep
    cases hstep
  | none =>
    simp only [hclosed] at hstep
    obtain rfl := Option.some.inj hstep
    generalize hm : (⟨⟨⟨c.socket, .tcpListen⟩,
      account.elim TagKey.clear (TagKey.clear.addTagStr .account)⟩, .networkDisconnect⟩ :
        TransitMessage) = m
    have hbody : m.body = .networkDisconnect := hm ▸ rfl
    have hofClient : m.OfClient c := by
      rw [← hm]
      cases account with
      | none => exact ⟨rfl, rfl, fun _ => rfl⟩
      | some name => exact ⟨rfl, rfl, fun hname => by cases hname⟩
    have hnameless : m.Nameless → t.Absent c := by
      rw [← hm]
      intro hname
      cases account with
      | none => exact horderly.resolve_left Bool.false_ne_true
      | some name => cases hname
    have hlog := h.dispatchOne hofClient (fun hlogin => by rw [hbody] at hlogin; cases hlogin)
      fun hteleport => by rw [hbody] at hteleport; cases hteleport
    -- no one has handled it yet
    have hnot : ∀ e : TransitEntity, decide (t.log.length < t.cursor e) = false := fun e =>
      decide_eq_false (Nat.not_lt.2 (h.cursor e))
    have hlast : ∀ k ∈ some t.log.length, k = t.log.length := fun k hk => (Option.some.inj hk).symm
    have hat : (t.log ++ [m])[t.log.length]? = some m := by
      rw [List.getElem?_append_right (Nat.le_refl _), Nat.sub_self]
      rfl
    refine ⟨hlog.log, fun k hk => ?_, fun k hk i a ha hlogin => ?_, hlog.cursor,
      fun l hl => ⟨(h.lobby l hl).1, fun hpast => ?_⟩,
      fun sn w hw => ⟨(h.proxies sn w hw).1, (h.proxies sn w hw).2.1, fun hpast => ?_⟩,
      h.created, h.worlds, h.toWorld, fun hpast => ?_, fun hnameless' => ?_⟩
    · obtain rfl := hlast k hk
      exact ⟨m, hat, by rw [hbody]; exact ⟨rfl, rfl, rfl⟩⟩
    · obtain rfl := hlast k hk
      by_contra hi
      rw [List.getElem?_append_right (Nat.le_of_not_lt hi)] at ha
      obtain rfl := List.mem_singleton.1 (List.mem_of_getElem? ha)
      rw [hbody] at hlogin
      cases hlogin
    · exact absurd ((hnot .lobby).symm.trans hpast) Bool.false_ne_true
    · exact absurd ((hnot (.proxy sn)).symm.trans hpast) Bool.false_ne_true
    · exact absurd ((hnot .locator).symm.trans hpast) Bool.false_ne_true
    · obtain ⟨k, hk, a, ha, hname⟩ := hnameless'
      obtain rfl := hlast k hk
      obtain rfl := Option.some.inj (hat.symm.trans ha)
      refine (hnameless hname).dispatch h.cursor fun b hb => ?_
      obtain rfl := List.mem_singleton.1 hb
      rw [hbody]
      exact ⟨rfl, rfl⟩

/-- A proxy is made, with its world. -/
theorem Invariant.createProxy (h : t.Invariant c d) {sn : UInt64}
    (hstep : t.step c d (.createProxy sn) = some u) : u.Invariant c d := by
  unfold step at hstep
  simp only at hstep
  split at hstep
  · cases hstep
  rename_i hnew
  obtain rfl := Option.some.inj hstep
  obtain ⟨-, -, hempty⟩ := h.created sn hnew
  refine ⟨h.log, h.closed, h.logins, fun e => ?_, fun l hl => ?_, fun sn' w hw => ?_,
    fun sn' hsn' => ?_, fun sn' players hplayers => ?_, h.toWorld, fun hpast => ?_,
    fun hnameless e he => ?_⟩
  · by_cases he : e = .proxy sn
    · rw [he]
      simp only [Function.update_self]
      exact Nat.le_refl _
    · simp only [Function.update_of_ne he]
      exact h.cursor e
  · refine ⟨(h.lobby l hl).1, fun hpast => (h.lobby l hl).2 ?_⟩
    unfold past at hpast ⊢
    simpa using hpast
  · by_cases hsn : sn' = sn
    · subst hsn
      simp only [Function.update_self] at hw
      obtain rfl := Option.some.inj hw
      refine ⟨PlayerCollector.onlyAt_empty _, fun player hplayer => ?_, fun _ => rfl⟩
      cases hplayer
    · simp only [Function.update_of_ne hsn] at hw
      obtain ⟨honly, hplayer, hnone⟩ := h.proxies sn' w hw
      refine ⟨honly, hplayer, fun hpast => hnone ?_⟩
      have hne : TransitEntity.proxy sn' ≠ .proxy sn := fun heq => hsn (TransitEntity.proxy.inj heq)
      unfold past at hpast ⊢
      simpa only [Function.update_of_ne hne] using hpast
  · obtain ⟨hother, hold⟩ := not_or.1 (fun hor => hsn' (List.mem_cons.2 hor))
    simp only [Function.update_of_ne hother]
    exact h.created sn' hold
  · by_cases hsn : sn' = sn
    · subst hsn
      simp only [Function.update_self] at hplayers
      obtain rfl := Option.some.inj hplayers
      refine ⟨PlayerManager.tracks_empty c, fun hafter => ?_⟩
      simp only [hempty] at hafter
      cases hafter
    · simp only [Function.update_of_ne hsn] at hplayers
      obtain ⟨htracks, hheld⟩ := h.worlds sn' players hplayers
      refine ⟨htracks, fun hafter => ?_⟩
      have hthere := hheld hafter
      rw [held_proxy] at hthere ⊢
      simpa only [Function.update_of_ne hsn] using hthere
  · refine h.locator ?_
    unfold past at hpast ⊢
    simpa using hpast
  · by_cases hsn : e = .proxy sn
    · -- the new proxy has no players, and nothing that it has yet to handle
      subst hsn
      simp only [held_proxy, Function.update_self, List.drop_length]
      exact ⟨rfl, fun m hm => by cases hm⟩
    · have hold : e ∈ t.entities := by
        rcases List.mem_cons.1 he with rfl | he
        · exact List.mem_cons_self ..
        · exact List.mem_cons_of_mem _ ((List.mem_cons.1 he).resolve_left hsn)
      obtain ⟨hheld, hwaits⟩ := h.absent hnameless e hold
      simp only [Function.update_of_ne hsn]
      refine ⟨?_, hwaits⟩
      cases e with
      | lobby => exact hheld
      | proxy sn' =>
        have hne : sn' ≠ sn := fun heq => hsn (congrArg _ heq)
        rw [held_proxy] at hheld ⊢
        simpa only [Function.update_of_ne hne] using hheld
      | locator => rfl

/-! ### The handlers -/

/-- The packet that an entity handles may be the end of the connection. -/
theorem past_advance {e e' : TransitEntity} (hpast : (t.advance e).past e' = true) :
    t.past e' = true ∨ e' = e ∧ t.closedAt = some (t.cursor e) := by
  obtain ⟨k, hk, hlt⟩ := past_iff.1 hpast
  by_cases he : e' = e
  · subst he
    simp only [advance, Function.update_self] at hlt
    rcases Nat.lt_succ_iff_lt_or_eq.1 hlt with hbefore | hnow
    · exact Or.inl (past_iff.2 ⟨k, hk, hbefore⟩)
    · exact Or.inr ⟨rfl, hnow ▸ hk⟩
  · simp only [advance, Function.update_of_ne he] at hlt
    exact Or.inl (past_iff.2 ⟨k, hk, hlt⟩)

theorem past_advance_of_ne {e e' : TransitEntity} (he : e' ≠ e) :
    (t.advance e).past e' = t.past e' := by
  unfold past advance
  simp only [Function.update_of_ne he]

theorem mem_drop_advance {e e' : TransitEntity} {m : TransitMessage}
    (hm : m ∈ t.log.drop ((t.advance e).cursor e')) : m ∈ t.log.drop (t.cursor e') := by
  unfold advance at hm
  by_cases he : e' = e
  · subst he
    simp only [Function.update_self] at hm
    rw [← List.drop_drop] at hm
    exact List.mem_of_mem_drop hm
  · simpa only [Function.update_of_ne he] using hm

/-- What is noted as the end of the connection is that. -/
theorem Invariant.closed_at (h : t.Invariant c d) {e : TransitEntity} {m : TransitMessage}
    (hm : t.log[t.cursor e]? = some m) (hclosed : t.closedAt = some (t.cursor e)) :
    m.body.isDisconnect = true ∧ m.body.isLogin = false ∧ m.body.isTeleport = false := by
  obtain ⟨m', hm', hbody⟩ := h.closed _ hclosed
  obtain rfl := Option.some.inj (hm.symm.trans hm')
  exact hbody

/-- An entity that handles a login has not handled the end of the connection. -/
theorem Invariant.not_past_of_login (h : t.Invariant c d) {e : TransitEntity} {m : TransitMessage}
    (hm : t.log[t.cursor e]? = some m) (hlogin : m.body.isLogin = true) : t.past e = false := by
  rw [← Bool.not_eq_true]
  intro hpast
  obtain ⟨k, hk, hlt⟩ := past_iff.1 hpast
  exact absurd (h.logins k hk _ m hm hlogin) (Nat.not_lt.2 (Nat.le_of_lt hlt))

theorem Invariant.cursor_advance (h : t.Invariant c d) {e : TransitEntity} {m : TransitMessage}
    (hm : t.log[t.cursor e]? = some m) (e' : TransitEntity) :
    (t.advance e).cursor e' ≤ t.log.length := by
  unfold advance
  by_cases he : e' = e
  · subst he
    simp only [Function.update_self]
    exact (List.getElem?_eq_some_iff.1 hm).1
  · simp only [Function.update_of_ne he]
    exact h.cursor e'

/-- The locator of sockets handles a packet. -/
theorem Invariant.handleLocator (h : t.Invariant c d)
    (hstep : t.handle d .locator = some u) : u.Invariant c d := by
  unfold handle at hstep
  obtain ⟨m, hm, hstep⟩ := Option.bind_eq_some_iff.1 hstep
  have hlog := h.log m (List.mem_of_getElem? hm)
  have hkeep : ∀ locator : SocketLocator,
      ((t.advance .locator).past .locator = true → locator.componentes c.socket = none) →
      ({ t.advance .locator with locator := locator } : Transit).Invariant c d := by
    intro locator hlocator
    refine ⟨h.log, h.closed, h.logins, h.cursor_advance hm, fun l hl => ⟨(h.lobby l hl).1,
      fun hpast => (h.lobby l hl).2 ?_⟩, fun sn w hw => ⟨(h.proxies sn w hw).1,
      (h.proxies sn w hw).2.1, fun hpast => (h.proxies sn w hw).2.2 ?_⟩, h.created, h.worlds,
      h.toWorld, hlocator, fun hnameless => (h.absent hnameless).mono rfl
        (fun e _ hheld => hheld) fun e _ a ha => Or.inl (mem_drop_advance ha)⟩
    · exact (past_advance_of_ne (e := .locator) (by decide)).symm.trans hpast
    · exact (past_advance_of_ne (e := .locator) fun he => by cases he).symm.trans hpast
  simp only at hstep
  split at hstep
  · rename_i hentity hbody
    obtain rfl := Option.some.inj hstep
    refine hkeep _ fun _ => ?_
    unfold TransitMessage.OfClient at hlog
    rw [hbody] at hlog
    unfold SocketLocator.handleNetworkDisconnect SocketLocator.remove
    rw [hlog.1]
    exact Function.update_self ..
  · rename_i hother
    obtain rfl := Option.some.inj hstep
    refine hkeep _ fun hpast => ?_
    rcases past_advance hpast with hbefore | ⟨-, hnow⟩
    · exact h.locator hbefore
    · -- the end of the connection is not passed over
      exfalso
      obtain ⟨hdisconnect, -, -⟩ := h.closed_at hm hnow
      obtain ⟨identify, body⟩ := m
      cases body with
      | networkDisconnect => exact hother hlog.2.1 rfl
      | _ => cases hdisconnect

/-- The lobby handles a packet. -/
theorem Invariant.handleLobby (h : t.Invariant c d)
    (horderly : t.takes c .lobby = true → t.past .locator = false)
    (hstep : t.handle d .lobby = some u) : u.Invariant c d := by
  unfold handle at hstep
  obtain ⟨m, hm, hstep⟩ := Option.bind_eq_some_iff.1 hstep
  obtain ⟨l, hl, rfl⟩ := Option.map_eq_some_iff.1 hstep
  have hlog := h.log m (List.mem_of_getElem? hm)
  obtain ⟨honly, hnone⟩ := h.lobby l hl
  -- what must hold of the lobby and the locator behind the handler
  have hkeep : ∀ o : Outcome Lobby LobbyMsg,
      (∀ l' : Lobby, o.state = some l' → l'.players.OnlyAt c.socket ∧
        ((t.advance .lobby).past .lobby = true →
          l'.players.getPlayerBySocket c.socket = none)) →
      (t.past .locator = true →
        (o.sent.foldl LobbyMsg.register t.locator).componentes c.socket = none) →
      (t.Nameless → ∀ l' : Lobby, o.state = some l' →
        l'.players.getPlayerBySocket c.socket = none) →
      ((t.advance .lobby).afterLobby o).Invariant c d := by
    intro o hlobby hlocator hnameless
    refine ⟨h.log, h.closed, h.logins, h.cursor_advance hm, hlobby,
      fun sn w hw => ⟨(h.proxies sn w hw).1, (h.proxies sn w hw).2.1, fun hpast =>
        (h.proxies sn w hw).2.2 ?_⟩, h.created, fun sn players hplayers => ?_, h.toWorld,
      fun hpast => hlocator ?_, fun hbefore => (h.absent hbefore).mono rfl (fun e _ hheld => ?_)
        fun e _ a ha => Or.inl (mem_drop_advance ha)⟩
    · exact (past_advance_of_ne (e := .lobby) fun he => by cases he).symm.trans hpast
    · obtain ⟨htracks, hheld⟩ := h.worlds sn players hplayers
      refine ⟨htracks, fun hafter => ?_⟩
      have hthere := hheld hafter
      rw [held_proxy] at hthere ⊢
      exact hthere
    · exact (past_advance_of_ne (e := .lobby) (by decide)).symm.trans hpast
    · cases e with
      | lobby =>
        rw [held_lobby]
        cases hstate : o.state with
        | none =>
          simp only [Transit.afterLobby, hstate]
          rfl
        | some l' =>
          simp only [Transit.afterLobby, hstate]
          exact hnameless hbefore l' hstate
      | proxy sn => exact hheld
      | locator => rfl
  have htransits := Lobby.transits honly hlog
  generalize l.receiveTransit m = o at htransits ⊢
  cases htransits with
  | keeps hbody hregister =>
    refine hkeep _ (fun l' hl' => ?_) (fun hpast => ?_) fun hnameless l' hl' => ?_
    · obtain rfl := Option.some.inj hl'
      refine ⟨honly, fun hpast => ?_⟩
      rcases past_advance hpast with hbefore | ⟨-, hnow⟩
      · exact hnone hbefore
      · have hname := hbody (h.closed_at hm hnow).1
        exact h.lobby_absent hl ⟨_, hnow, m, hm, hname⟩
    · rw [hregister]
      exact h.locator hpast
    · obtain rfl := Option.some.inj hl'
      exact h.lobby_absent hl hnameless
  | takes hbody hfor hfree honly' hregister =>
    refine hkeep _ (fun l' hl' => ?_) (fun hpast => ?_) fun hnameless => ?_
    · obtain rfl := Option.some.inj hl'
      refine ⟨honly', fun hpast => ?_⟩
      exfalso
      rcases past_advance hpast with hbefore | ⟨-, hnow⟩
      · rw [h.not_past_of_login hm hbody] at hbefore
        cases hbefore
      · rw [(h.closed_at hm hnow).2.1] at hbody
        cases hbody
    · have htakes : t.takes c .lobby = true := by
        unfold takes
        simp only [hl, hm, hbody, hfree, hfor]
        rfl
      rw [horderly htakes] at hpast
      cases hpast
    · exact absurd hnameless (h.not_nameless_of_brings (List.mem_cons_self ..) hm hbody)
  | loses =>
    have hgone := PlayerCollector.getPlayerBySocket_removed l.players c.socket
    refine hkeep _ (fun l' hl' => ?_) h.locator fun _ l' hl' => ?_
    · obtain rfl := Option.some.inj hl'
      exact ⟨honly.removePlayerBySocket _, fun _ => hgone⟩
    · obtain rfl := Option.some.inj hl'
      exact hgone

/-- What must hold of a proxy, its messages and the locator behind a handler of the proxy. -/
theorem Invariant.afterProxy (h : t.Invariant c d) {sn : UInt64} {m : TransitMessage}
    (hm : t.log[t.cursor (.proxy sn)]? = some m) (hcreated : sn ∈ t.proxySns) {w' : WorldProxy}
    {sent : List ProxyMsg} (honly : w'.players.OnlyAt c.socket)
    (hplayer : ∀ player : Player, w'.players.getPlayerBySocket c.socket = some player →
      player.playerSn = c.playerSn)
    (hnone : (t.advance (.proxy sn)).past (.proxy sn) = true →
      w'.players.getPlayerBySocket c.socket = none)
    (hlog : ∀ a ∈ sent.filterMap ProxyMsg.transitMessage,
      a.OfClient c ∧ a.body.isLogin = false ∧ a.body.isTeleport = false)
    (hworld : ∀ a ∈ sent.filterMap ProxyMsg.worldMessage, a.OfClient c d)
    (hheld : ∀ players : PlayerManager, t.worlds sn = some players →
      heldAfter (players.getPlayerBySn c.playerSn).isSome
        (t.toWorld sn ++ sent.filterMap ProxyMsg.worldMessage) = true →
      (w'.players.getPlayerBySocket c.socket).isSome = true)
    (hlocator : t.past .locator = true →
      (sent.foldl ProxyMsg.register t.locator).componentes c.socket = none)
    (hnameless : t.Nameless → w'.players.getPlayerBySocket c.socket = none) :
    ((t.advance (.proxy sn)).afterProxy sn ⟨sent, some w'⟩).Invariant c d := by
  have hms : ∀ a ∈ sent.filterMap ProxyMsg.transitMessage,
      a.OfClient c ∧ (a.body.isLogin = true → t.closedAt = none) ∧
        (a.body.isTeleport = true → ¬ t.Nameless) := fun a ha =>
    ⟨(hlog a ha).1, fun hlogin => absurd ((hlog a ha).2.1.symm.trans hlogin) Bool.false_ne_true,
      fun hteleport => absurd ((hlog a ha).2.2.symm.trans hteleport) Bool.false_ne_true⟩
  have hdispatch := h.dispatch hms
  refine ⟨hdispatch.log, hdispatch.closed, hdispatch.logins, fun e => ?_,
    fun l hl => ⟨(h.lobby l hl).1, fun hpast => (h.lobby l hl).2 ?_⟩, fun sn' v hv => ?_,
    fun sn' hsn' => ?_, fun sn' players hplayers => ?_, fun sn' a ha => ?_,
    fun hpast => hlocator ?_, fun hafter => ?_⟩
  · refine Nat.le_trans (h.cursor_advance hm e) ?_
    show _ ≤ (t.log ++ _).length
    rw [List.length_append]
    exact Nat.le_add_right _ _
  · exact (past_advance_of_ne (e := .proxy sn) fun he => by cases he).symm.trans hpast
  · by_cases hsn : sn' = sn
    · subst hsn
      simp only [Transit.afterProxy, Function.update_self] at hv
      obtain rfl := Option.some.inj hv
      exact ⟨honly, hplayer, hnone⟩
    · simp only [Transit.afterProxy, Function.update_of_ne hsn] at hv
      obtain ⟨honly', hplayer', hnone'⟩ := h.proxies sn' v hv
      refine ⟨honly', hplayer', fun hpast => hnone' ?_⟩
      have hne : TransitEntity.proxy sn' ≠ .proxy sn := fun heq => hsn (TransitEntity.proxy.inj heq)
      exact (past_advance_of_ne hne).symm.trans hpast
  · have hne : sn' ≠ sn := by
      rintro rfl
      exact hsn' hcreated
    obtain ⟨hproxy, hworlds, hqueue⟩ := h.created sn' hsn'
    simp only [Transit.afterProxy, Function.update_of_ne hne]
    exact ⟨hproxy, hworlds, hqueue⟩
  · obtain ⟨htracks, hheld'⟩ := h.worlds sn' players hplayers
    refine ⟨htracks, fun hafter => ?_⟩
    rw [held_proxy]
    by_cases hsn : sn' = sn
    · subst hsn
      simp only [Transit.afterProxy, Function.update_self] at hafter ⊢
      exact hheld players hplayers hafter
    · have hthere := hheld' (by
        simpa only [Transit.afterProxy, advance, Function.update_of_ne hsn] using hafter)
      rw [held_proxy] at hthere
      simp only [Transit.afterProxy, Function.update_of_ne hsn]
      exact hthere
  · by_cases hsn : sn' = sn
    · subst hsn
      simp only [Transit.afterProxy, Function.update_self] at ha
      rcases List.mem_append.1 ha with hold | hnew
      · exact h.toWorld sn' a hold
      · exact hworld a hnew
    · simp only [Transit.afterProxy, Function.update_of_ne hsn] at ha
      exact h.toWorld sn' a ha
  · exact (past_advance_of_ne (e := .proxy sn) fun he => by cases he).symm.trans hpast
  · have hbefore := h.nameless_dispatch hafter
    refine (hdispatch.absent hafter).mono rfl (fun e _ hheld => ?_) fun e _ a ha =>
      Or.inl (mem_drop_advance (t := { t with log := t.log ++ _ }) ha)
    cases e with
    | lobby => exact hheld
    | proxy sn' =>
      rw [held_proxy] at hheld ⊢
      by_cases hsn : sn' = sn
      · subst hsn
        simp only [Transit.afterProxy, Function.update_self]
        exact hnameless hbefore
      · simp only [Transit.afterProxy, Function.update_of_ne hsn]
        exact hheld
    | locator => rfl

/-- A proxy handles a packet. -/
theorem Invariant.handleProxy (h : t.Invariant c d) {sn : UInt64}
    (horderly : t.takes c (.proxy sn) = true →
      t.past (.proxy sn) = false ∧ t.past .locator = false)
    (hstep : t.handle d (.proxy sn) = some u) : u.Invariant c d := by
  unfold handle at hstep
  obtain ⟨m, hm, hstep⟩ := Option.bind_eq_some_iff.1 hstep
  obtain ⟨w, hw, rfl⟩ := Option.map_eq_some_iff.1 hstep
  have hlog := h.log m (List.mem_of_getElem? hm)
  obtain ⟨honly, hplayer, hnone⟩ := h.proxies sn w hw
  have hcreated : sn ∈ t.proxySns := by
    by_contra hnot
    rw [(h.created sn hnot).1] at hw
    cases hw
  have htransits : w.Transits c d.app m (w.receiveTransit d.app m) :=
    WorldProxy.transits honly hlog
  generalize w.receiveTransit d.app m = o at htransits ⊢
  cases htransits with
  | keeps hbody =>
    refine h.afterProxy hm hcreated honly hplayer (fun hpast => ?_) (fun a ha => by cases ha)
      (fun a ha => by cases ha) (fun players hplayers hafter => ?_) h.locator (h.proxy_absent hw)
    · rcases past_advance hpast with hbefore | ⟨-, hnow⟩
      · exact hnone hbefore
      · rcases hbody (h.closed_at hm hnow).1 with hgone | hname
        · exact hgone
        · exact h.proxy_absent hw ⟨_, hnow, m, hm, hname⟩
    · rw [List.filterMap_nil, List.append_nil] at hafter
      have hthere := (h.worlds sn players hplayers).2 hafter
      rw [held_proxy, hw] at hthere
      exact hthere
  | takes hbody hfor hfree honly' hplayer' hsocket hsn =>
    have htakes : t.takes c (.proxy sn) = true := by
      unfold takes
      simp only [hw, hm, hbody, hfree, hfor]
      rfl
    obtain ⟨hopen, hlocator⟩ := horderly htakes
    refine h.afterProxy hm hcreated honly' (fun q hq => ?_) (fun hpast => ?_) (fun a ha => ?_)
      (fun a ha => ?_) (fun players hplayers hafter => ?_) (fun hpast => ?_) fun hnameless => ?_
    · rw [← Option.some.inj (hplayer'.symm.trans hq)]
      exact hsn
    · exfalso
      rcases past_advance hpast with hbefore | ⟨-, hnow⟩
      · rw [hopen] at hbefore
        cases hbefore
      · rw [(h.closed_at hm hnow).2.2] at hbody
        cases hbody
    · obtain rfl := List.mem_singleton.1 ha
      exact ⟨⟨rfl, rfl, rfl⟩, rfl, rfl⟩
    · obtain rfl := List.mem_singleton.1 ha
      have hbody : (WorldBody.syncPlayer c.playerSn).OfClient c := rfl
      exact w.ofClient_sendPacketToWorld c d hsocket hsn hbody rfl
    · rw [hplayer']
      rfl
    · rw [hlocator] at hpast
      cases hpast
    · have hmem : TransitEntity.proxy sn ∈ t.entities :=
        List.mem_cons_of_mem _ (List.mem_map_of_mem hcreated)
      exact absurd hnameless (h.not_nameless_of_brings hmem hm hbody)
  | loses hbody hplayer' hworld =>
    have hgone := PlayerCollector.getPlayerBySocket_removed w.players c.socket
    refine h.afterProxy hm hcreated (honly.removePlayerBySocket _) (fun q hq => ?_)
      (fun _ => hgone) (fun a ha => by cases ha) (fun a ha => ?_)
      (fun players hplayers hafter => ?_) h.locator fun _ => hgone
    · rw [hgone] at hq
      cases hq
    · obtain rfl := List.mem_singleton.1 ha
      refine w.ofClient_sendPacketToWorld c d (PlayerCollector.getPlayerBySocket_socket hplayer')
        (hplayer _ hplayer') ?_ rfl
      rcases hworld with rfl | rfl
      · trivial
      · rfl
    · exfalso
      have hadds := (heldAfter_append ..).symm.trans hafter
      rcases hworld with rfl | rfl
      · cases hadds
      · cases hadds

/-- A world handles a packet of its proxy. -/
theorem Invariant.worldHandles (h : t.Invariant c d) {sn : UInt64}
    (hstep : t.step c d (.worldHandles sn) = some u) : u.Invariant c d := by
  unfold step at hstep
  simp only at hstep
  split at hstep
  · rename_i players m rest hplayers hqueue
    obtain rfl := Option.some.inj hstep
    obtain ⟨htracks, hheld⟩ := h.worlds sn players hplayers
    have hm : m.OfClient c d := h.toWorld sn m (by rw [hqueue]; exact List.mem_cons_self ..)
    have hcreated : sn ∈ t.proxySns := by
      by_contra hnot
      rw [(h.created sn hnot).2.1] at hplayers
      cases hplayers
    refine ⟨h.log, h.closed, h.logins, h.cursor, h.lobby, h.proxies, fun sn' hsn' => ?_,
      fun sn' players' hplayers' => ?_, fun sn' a ha => ?_, h.locator, fun hnameless =>
        (h.absent hnameless).mono rfl (fun e _ hheld => hheld) fun e _ a ha => Or.inl ha⟩
    · have hne : sn' ≠ sn := by
        rintro rfl
        exact hsn' hcreated
      simp only [Function.update_of_ne hne]
      exact h.created sn' hsn'
    · by_cases hsn : sn' = sn
      · subst hsn
        simp only [Function.update_self] at hplayers' ⊢
        obtain ⟨htracks', hgone⟩ := World.process_spec htracks hm hplayers'
        refine ⟨htracks', fun hafter => ?_⟩
        have hbefore : heldAfter (players.getPlayerBySn c.playerSn).isSome (t.toWorld sn') =
            true := by
          rw [hqueue]
          change heldAfter m.body.adds rest = true
          refine heldAfter_mono (fun hsome => ?_) hafter
          by_contra hadds
          rw [hgone (Bool.eq_false_iff.2 hadds)] at hsome
          cases hsome
        have hthere := hheld hbefore
        rw [held_proxy] at hthere ⊢
        exact hthere
      · simp only [Function.update_of_ne hsn] at hplayers' ⊢
        obtain ⟨htracks', hheld'⟩ := h.worlds sn' players' hplayers'
        refine ⟨htracks', fun hafter => ?_⟩
        have hthere := hheld' hafter
        rw [held_proxy] at hthere ⊢
        exact hthere
    · by_cases hsn : sn' = sn
      · subst hsn
        simp only [Function.update_self] at ha
        exact h.toWorld sn' a (by rw [hqueue]; exact List.mem_cons_of_mem _ ha)
      · simp only [Function.update_of_ne hsn] at ha
        exact h.toWorld sn' a ha
  · cases hstep

/-- **An orderly step keeps the invariant.** -/
theorem Invariant.step (h : t.Invariant c d) {e : TransitEvent} (horderly : t.Orderly c e)
    (hstep : t.step c d e = some u) : u.Invariant c d := by
  cases e with
  | login tagKey account token => exact h.login hstep
  | loaded worlds record => exact h.loaded hstep
  | teleport e target => exact h.teleport hstep
  | disconnect account => exact h.disconnect horderly hstep
  | createProxy sn => exact h.createProxy hstep
  | handle e =>
    cases e with
    | lobby => exact h.handleLobby (fun htakes => (horderly htakes).2) hstep
    | proxy sn => exact h.handleProxy horderly hstep
    | locator => exact h.handleLocator hstep
  | worldHandles sn => exact h.worldHandles hstep

end

end Transit

/-- **No ghosts**, after a run whose steps are all orderly, when everything has settled. -/
theorem noGhosts_of_orderly {c : TransitClient} {d : Deployment} {es : List TransitEvent}
    {t : Transit} (hrun : ((Transit.system c d).restrict (Transit.Orderly c)).Run es t)
    (hsettled : t.Settled) : t.NoGhosts c := by
  have hinv : t.Invariant c d := by
    refine hrun.restrict_invariant (fun t₀ hinit => ?_) fun t₁ e t₂ h₁ horderly hstep => ?_
    · obtain ⟨sn, rfl⟩ := hinit
      exact Transit.invariant_start sn
    · exact h₁.step horderly hstep
  exact hinv.noGhosts hsettled

/-! ### Two runs -/

/-- A client with the socket 5, whose player has the serial number 7. -/
def TransitClient.five : TransitClient := ⟨5, ⟨by decide, by decide⟩, 7⟩

/-- All in one process. -/
def Deployment.one : Deployment := ⟨.allInOne, SocketKey.none, 0⟩

/-- The client logs in, its data come, and there is a proxy. -/
def arriveEvents : List TransitEvent :=
  [.login TagKey.clear [97] [116], .handle .lobby,
    .loaded ⟨fun _ => some .publicWorld, 3⟩ ⟨7, [98], ⟨3, 0⟩, ⟨0, 0⟩⟩, .createProxy 9]

/-- The player is teleported to the proxy before the connection ends. -/
def leaveEvents : List TransitEvent :=
  [.teleport .lobby 9, .handle (.proxy 9), .handle .lobby, .handle .lobby, .worldHandles 9,
    .disconnect (some [97]), .handle (.proxy 9), .handle (.proxy 9), .worldHandles 9,
    .handle .lobby, .handle .locator, .handle .locator, .handle .locator, .handle .locator]

/-- The connection ends, and the lobby teleports the player before it knows. -/
def crossEvents : List TransitEvent :=
  [.disconnect (some [97]), .teleport .lobby 9, .handle (.proxy 9), .handle (.proxy 9),
    .handle .lobby, .handle .lobby, .handle .lobby, .handle (.proxy 9), .worldHandles 9,
    .handle .locator, .handle .locator, .handle .locator, .handle .locator]

/-- A player that is teleported in time leaves no ghost. -/
theorem noGhosts_leave : ∃ t : Transit, t.log.length = 4 ∧ t.Settled ∧
    t.NoGhosts TransitClient.five := by
  have hsettled : (Transition.System.execute (Transit.step TransitClient.five Deployment.one)
      (Transit.Orderly TransitClient.five) (Transit.start 1) (arriveEvents ++ leaveEvents)).any
        (fun t => t.log.length = 4 ∧ t.Settled) = true := by
    decide
  obtain ⟨t, ht, hand⟩ := (Option.any_eq_true ..).1 hsettled
  obtain ⟨hlog, hsettled⟩ := of_decide_eq_true hand
  have hrun : ((Transit.system TransitClient.five Deployment.one).restrict
      (Transit.Orderly TransitClient.five)).Run (arriveEvents ++ leaveEvents) t :=
    Transition.System.run_of_execute ⟨1, rfl⟩ ht
  exact ⟨t, hlog, hsettled, noGhosts_of_orderly hrun hsettled⟩

/-- A client that never logs in may go without an account. -/
example : (Transition.System.execute (Transit.step TransitClient.five Deployment.one)
    (Transit.Orderly TransitClient.five) (Transit.start 1)
    [.createProxy 9, .disconnect none, .handle .lobby, .handle (.proxy 9), .handle .locator]).any
      (fun t => t.Settled) = true := by
  decide

/-- **A teleport that crosses the end of the connection** leaves a ghost with the proxy. -/
theorem not_noGhosts_cross :
    ¬ ∀ (c : TransitClient) (d : Deployment) (es : List TransitEvent) (t : Transit),
      (Transit.system c d).Run es t → t.Settled → t.NoGhosts c := by
  intro hall
  have hghost : (Transition.System.execute (Transit.step TransitClient.five Deployment.one)
      (fun _ _ => True) (Transit.start 1) (arriveEvents ++ crossEvents)).any
        (fun t => t.Settled ∧ (t.held TransitClient.five (.proxy 9)).isSome = true) = true := by
    decide
  obtain ⟨t, ht, hand⟩ := (Option.any_eq_true ..).1 hghost
  obtain ⟨hsettled, hheld⟩ := of_decide_eq_true hand
  have hrun : (Transit.system TransitClient.five Deployment.one).Run
      (arriveEvents ++ crossEvents) t := Transition.System.run_of_execute_true ⟨1, rfl⟩ ht
  rw [(hall _ _ _ t hrun hsettled).held (.proxy 9)] at hheld
  cases hheld

end MmoServer
