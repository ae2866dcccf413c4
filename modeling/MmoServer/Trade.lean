/-
**Trades between two players of a proxy.**

A proxy keeps its trades under the serial numbers of the players.  A trade is one object on the
heap with two entries of the map, one for each of its parties; when a party agrees to another trade,
the object of its older one is deleted, while the entries stay.  `emplace` keeps an entry that is
there, and reading the map with `[]` makes an entry with a null pointer.  A deleted object that is
used again is undefined behaviour, and the model has no step for it; its address may be given out
again.

Main definitions:

* `MmoServer.PlayerTrade`, `MmoServer.TradeProxy` — a trade, and the proxy with its map and heap;
* `MmoServer.TradeProxy.handleTradeRes`, `MmoServer.TradeProxy.handleUpdateTradeItem` — the handlers;
* `MmoServer.TradeProxy.step` — a message, or a change of the players;
* `MmoServer.TradeMapSound` — every entry points to a live trade of its player;
* `MmoServer.TradeStepSound` — what an agreement and a close should do to the map;
* `MmoServer.TradeProxy.Single` — the condition: one trade at a time, and no update without one.

Main results:

* `MmoServer.TradeProxy.handleUpdateTradeItem_of_live` — what an update of a live trade does;
* `MmoServer.TradeProxy.Paired.step` — **one step** keeps the two entries of each trade together;
* `MmoServer.tradeMapSound_of_single` — **the map is sound in every run that meets the condition**.
-/

import MmoServer.Knapsack
import MmoServer.Outcome
import MmoServer.Transition
import MmoServer.WorldProxy

set_option relaxedAutoImplicit false
set_option autoImplicit false

namespace MmoServer

open Handler

/-! ### Trades -/

/-- `PlayerTrade`. -/
structure PlayerTrade where
  applicant : UInt64
  responder : UInt64
  appAck : Bool
  resAck : Bool
  deriving DecidableEq

/-- `Proto::PlayerReq`. -/
structure PlayerReq where
  agree : Bool
  applicant : UInt64
  responder : UInt64
  deriving DecidableEq

/-- `Proto::UpdateTradeItem`. -/
structure UpdateTradeItem where
  sender : UInt64
  recver : UInt64
  item : Option ItemData
  gold : ℤ
  ack : Bool
  deriving DecidableEq

namespace PlayerTrade

/-- The constructor. -/
def new (applicant responder : UInt64) : PlayerTrade := ⟨applicant, responder, false, false⟩

/-- What an update does to the flags: the sender is the one that the message names. -/
def acknowledge (trade : PlayerTrade) (u : UpdateTradeItem) : PlayerTrade :=
  if u.sender = trade.applicant then { trade with appAck := u.ack }
  else if u.sender = trade.responder then { trade with resAck := u.ack }
  else trade

/-- A player is one of the two parties. -/
def HasParty (trade : PlayerTrade) (sn : UInt64) : Prop :=
  sn = trade.applicant ∨ sn = trade.responder

instance (trade : PlayerTrade) (sn : UInt64) : Decidable (trade.HasParty sn) :=
  inferInstanceAs (Decidable (_ ∨ _))

@[simp]
theorem acknowledge_applicant (trade : PlayerTrade) (u : UpdateTradeItem) :
    (trade.acknowledge u).applicant = trade.applicant := by
  unfold acknowledge
  split
  · rfl
  · split <;> rfl

@[simp]
theorem acknowledge_responder (trade : PlayerTrade) (u : UpdateTradeItem) :
    (trade.acknowledge u).responder = trade.responder := by
  unfold acknowledge
  split
  · rfl
  · split <;> rfl

/-- The parties of a trade stay. -/
theorem hasParty_acknowledge {trade : PlayerTrade} {u : UpdateTradeItem} {sn : UInt64} :
    (trade.acknowledge u).HasParty sn ↔ trade.HasParty sn := by
  simp only [HasParty, acknowledge_applicant, acknowledge_responder]

end PlayerTrade

/-! ### The proxy -/

/-- What the handlers send: to the socket of a player, or within the process if there is no such
player. -/
inductive TradeMsg
  /-- `S2C_TradeOpen`. -/
  | tradeOpen (socketKey : Option SocketKey) (applicant responder : UInt64)
  /-- `C2C_UpdateTradeItem`. -/
  | updateTradeItem (socketKey : Option SocketKey) (u : UpdateTradeItem)
  /-- `S2C_TradeClose`. -/
  | tradeClose (socketKey : Option SocketKey) (success : Bool)

/-- `WorldProxy`, with `tradeMap` and the trades on the heap. -/
structure TradeProxy extends WorldProxy where
  tradeMap : UInt64 → Option (Option ℕ)
  trades : ℕ → Option PlayerTrade

namespace TradeProxy

/-- A proxy with some players and no trade. -/
def start (w : WorldProxy) : TradeProxy := ⟨w, fun _ => none, fun _ => none⟩

/-- The socket of the player with a serial number, for a message to it. -/
def socketOf (w : TradeProxy) (sn : UInt64) : Option SocketKey :=
  (w.players.getPlayerBySn sn).map fun p => p.socketKey

/-- The object at an address is written. -/
def setTrade (w : TradeProxy) (t : ℕ) (trade : PlayerTrade) : TradeProxy :=
  { w with trades := Function.update w.trades t (some trade) }

/-- `delete`: a null pointer is ignored, and a deleted object is not deleted again. -/
def delete (w : TradeProxy) : Option ℕ → Option TradeProxy
  | none => some w
  | some t => (w.trades t).map fun _ => { w with trades := Function.update w.trades t none }

/-- `emplace`: an entry that is there stays. -/
def emplace (w : TradeProxy) (sn : UInt64) (t : ℕ) : TradeProxy :=
  { w with tradeMap := Function.update w.tradeMap sn (some ((w.tradeMap sn).getD (some t))) }

/-- Reading the map with `[]`: a new entry is a null pointer. -/
def lookup (w : TradeProxy) (sn : UInt64) : TradeProxy :=
  { w with tradeMap := Function.update w.tradeMap sn (some ((w.tradeMap sn).getD none)) }

/-- `erase`. -/
def erase (w : TradeProxy) (sn : UInt64) : TradeProxy :=
  { w with tradeMap := Function.update w.tradeMap sn none }

/-- The older trade of the applicant is deleted, or else the one of the responder. -/
def deleteOld (w : TradeProxy) (req : PlayerReq) : Option TradeProxy :=
  match w.tradeMap req.applicant with
  | some pointer => w.delete pointer
  | none =>
    match w.tradeMap req.responder with
    | some pointer => w.delete pointer
    | none => some w

/-- `WorldProxy::HandleTradeRes`.  The new trade is put at the address that `new` returns. -/
def handleTradeRes (w : TradeProxy) (req : PlayerReq) (address : ℕ) : Outcome TradeProxy TradeMsg :=
  if req.agree then
    match w.deleteOld req with
    | none => .crash []
    | some v =>
      .send [.tradeOpen (v.socketOf req.applicant) req.applicant req.responder,
          .tradeOpen (v.socketOf req.responder) req.applicant req.responder]
        (((v.setTrade address (.new req.applicant req.responder)).emplace req.responder
          address).emplace req.applicant address)
  else .pure w

/-- The rest of `HandleUpdateTradeItem`, when the flags of the trade have been set. -/
def updateTrade (w : TradeProxy) (u : UpdateTradeItem) (trade : PlayerTrade) :
    Outcome TradeProxy TradeMsg :=
  if trade.appAck && trade.resAck then
    .send [.updateTradeItem (w.socketOf u.recver) u, .tradeClose (w.socketOf trade.responder) true,
        .tradeClose (w.socketOf trade.applicant) true]
      ((w.erase trade.responder).erase trade.applicant)
  else .send [.updateTradeItem (w.socketOf u.recver) u] w

/-- `WorldProxy::HandleUpdateTradeItem`. -/
def handleUpdateTradeItem (w : TradeProxy) (player : Player) (u : UpdateTradeItem) :
    Outcome TradeProxy TradeMsg :=
  match w.tradeMap player.playerSn with
  | some (some t) =>
    match w.trades t with
    | none => .crash []
    | some trade =>
      (w.setTrade t (trade.acknowledge u)).updateTrade u (trade.acknowledge u)
  | _ => .pure (w.lookup player.playerSn)

end TradeProxy

/-! ### Runs -/

/-- What happens to a proxy: a message of a connection, with the address that `new` returns in its
handler, or a change of the players that the proxy holds. -/
inductive TradeEvent
  | tradeRes (identify : NetIdentify) (req : PlayerReq) (address : ℕ)
  | updateTradeItem (identify : NetIdentify) (u : UpdateTradeItem)
  | players (players : PlayerCollector)

namespace TradeProxy

/-- The address is free when the new trade is put there. -/
def IsFree (w : TradeProxy) (req : PlayerReq) (address : ℕ) : Bool :=
  match w.deleteOld req with
  | none => true
  | some v => (v.trades address).isNone

/-- One step.  A message of nobody is dropped before its handler. -/
def step (w : TradeProxy) : TradeEvent → Option TradeProxy
  | .tradeRes identify req address =>
    match w.getPlayer identify with
    | none => some w
    | some _ => if w.IsFree req address then (w.handleTradeRes req address).state else none
  | .updateTradeItem identify u =>
    match w.getPlayer identify with
    | none => some w
    | some player => (w.handleUpdateTradeItem player u).state
  | .players players => some { w with players := players }

end TradeProxy

/-- The runs of a proxy that starts without trades. -/
def tradeSystem : Transition.System TradeProxy TradeEvent :=
  Transition.System.ofFun (fun w => ∃ proxy : WorldProxy, w = .start proxy) TradeProxy.step

/-- **The map is sound**: every entry points to a live trade of its player. -/
def TradeMapSound (w : TradeProxy) : Prop :=
  ∀ sn pointer, w.tradeMap sn = some pointer →
    ∃ t trade, pointer = some t ∧ w.trades t = some trade ∧ trade.HasParty sn

/-- An update closes the trade that a player's entry points to. -/
def TradeProxy.Closes (w : TradeProxy) (player : Player) (u : UpdateTradeItem)
    (trade : PlayerTrade) : Prop :=
  ∃ t, w.tradeMap player.playerSn = some (some t) ∧ w.trades t = some trade ∧
    (trade.acknowledge u).appAck = true ∧ (trade.acknowledge u).resAck = true

/-- **What a step should do to the map**: behind an agreement both parties have the new trade, and
behind a close neither party has an entry. -/
def TradeStepSound (w : TradeProxy) (e : TradeEvent) (v : TradeProxy) : Prop :=
  match e with
  | .tradeRes identify req address =>
    (w.getPlayer identify).isSome = true → req.agree = true →
      v.trades address = some (.new req.applicant req.responder) ∧
        v.tradeMap req.applicant = some (some address) ∧
        v.tradeMap req.responder = some (some address)
  | .updateTradeItem identify u =>
    ∀ player trade, w.getPlayer identify = some player → w.Closes player u trade →
      v.tradeMap trade.applicant = none ∧ v.tradeMap trade.responder = none
  | .players _ => True

/-- **One trade at a time**: whoever agrees to a trade has no entry, and updates come from players
that have one. -/
def TradeProxy.Single (w : TradeProxy) : TradeEvent → Prop
  | .tradeRes identify req _ =>
    (w.getPlayer identify).isSome = true → req.agree = true →
      w.tradeMap req.applicant = none ∧ w.tradeMap req.responder = none
  | .updateTradeItem identify _ =>
    ∀ player, w.getPlayer identify = some player → w.tradeMap player.playerSn ≠ none
  | .players _ => True

instance (w : TradeProxy) (e : TradeEvent) : Decidable (w.Single e) :=
  match e with
  | .tradeRes identify req _ =>
    inferInstanceAs (Decidable ((w.getPlayer identify).isSome = true → req.agree = true →
      w.tradeMap req.applicant = none ∧ w.tradeMap req.responder = none))
  | .updateTradeItem identify _ =>
    inferInstanceAs (Decidable (∀ player ∈ w.getPlayer identify,
      w.tradeMap player.playerSn ≠ none))
  | .players _ => inferInstanceAs (Decidable True)

/-! ### What the handlers do -/

namespace TradeProxy

variable {w v : TradeProxy}

/-- Nothing is deleted if neither party has an entry. -/
theorem deleteOld_of_none {req : PlayerReq} (happ : w.tradeMap req.applicant = none)
    (hres : w.tradeMap req.responder = none) : w.deleteOld req = some w := by
  unfold deleteOld
  rw [happ, hres]

/-- The map behind an agreement of two players without an entry. -/
theorem tradeMap_emplace {applicant responder : UInt64} {address : ℕ}
    (happ : w.tradeMap applicant = none) (hres : w.tradeMap responder = none) (sn : UInt64) :
    ((w.emplace responder address).emplace applicant address).tradeMap sn =
      if sn = applicant ∨ sn = responder then some (some address) else w.tradeMap sn := by
  unfold emplace
  by_cases ha : sn = applicant
  · subst ha
    by_cases hr : sn = responder
    · subst hr
      simp [happ]
    · simp [Function.update_of_ne hr, happ]
  · by_cases hr : sn = responder
    · subst hr
      simp [Function.update_of_ne ha, hres]
    · simp [ha, hr]

/-- An agreement of two players without an entry. -/
theorem handleTradeRes_of_none {req : PlayerReq} {address : ℕ} (hagree : req.agree = true)
    (happ : w.tradeMap req.applicant = none) (hres : w.tradeMap req.responder = none)
    (hv : (w.handleTradeRes req address).state = some v) :
    v.trades = Function.update w.trades address (some (.new req.applicant req.responder)) ∧
      ∀ sn, v.tradeMap sn =
        if sn = req.applicant ∨ sn = req.responder then some (some address)
        else w.tradeMap sn := by
  unfold handleTradeRes at hv
  rw [if_pos hagree, deleteOld_of_none happ hres] at hv
  obtain rfl := Option.some.inj hv
  exact ⟨rfl, tradeMap_emplace (w := w.setTrade address _) happ hres⟩

/-- An update of a live trade writes its flags, and removes its entries if both are set. -/
theorem handleUpdateTradeItem_of_live {player : Player} {u : UpdateTradeItem} {t : ℕ}
    {trade : PlayerTrade} (hentry : w.tradeMap player.playerSn = some (some t))
    (htrade : w.trades t = some trade) :
    ∃ v, (w.handleUpdateTradeItem player u).state = some v ∧
      v.trades = Function.update w.trades t (some (trade.acknowledge u)) ∧
      ∀ sn, v.tradeMap sn =
        if (trade.acknowledge u).appAck = true ∧ (trade.acknowledge u).resAck = true ∧
          trade.HasParty sn then none
        else w.tradeMap sn := by
  unfold handleUpdateTradeItem
  rw [hentry]
  simp only [htrade]
  unfold updateTrade
  by_cases happ : (trade.acknowledge u).appAck = true
  · by_cases hres : (trade.acknowledge u).resAck = true
    · rw [if_pos (by rw [happ, hres]; rfl)]
      refine ⟨_, rfl, rfl, fun sn => ?_⟩
      simp only [erase, PlayerTrade.acknowledge_applicant, PlayerTrade.acknowledge_responder,
        Function.update_apply]
      by_cases ha : sn = trade.applicant
      · rw [if_pos ha, if_pos ⟨happ, hres, .inl ha⟩]
      · rw [if_neg ha]
        by_cases hr : sn = trade.responder
        · rw [if_pos hr, if_pos ⟨happ, hres, .inr hr⟩]
        · rw [if_neg hr, if_neg fun h => h.2.2.elim ha hr]
          rfl
    · rw [if_neg fun h => hres (Bool.and_eq_true_iff.1 h).2]
      exact ⟨_, rfl, rfl, fun sn => by rw [if_neg fun h => hres h.2.1]; rfl⟩
  · rw [if_neg fun h => happ (Bool.and_eq_true_iff.1 h).1]
    exact ⟨_, rfl, rfl, fun sn => by rw [if_neg fun h => happ h.1]; rfl⟩

/-! ### The invariant -/

/-- Every entry points to a live trade of its player, whose other party has the same entry. -/
def Paired (w : TradeProxy) : Prop :=
  ∀ sn pointer, w.tradeMap sn = some pointer →
    ∃ t trade, pointer = some t ∧ w.trades t = some trade ∧ trade.HasParty sn ∧
      ∀ p, trade.HasParty p → w.tradeMap p = some (some t)

theorem Paired.sound (h : w.Paired) : TradeMapSound w := by
  intro sn pointer hentry
  obtain ⟨t, trade, hpointer, htrade, hparty, -⟩ := h sn pointer hentry
  exact ⟨t, trade, hpointer, htrade, hparty⟩

theorem paired_start (proxy : WorldProxy) : (TradeProxy.start proxy).Paired := by
  intro sn pointer hentry
  cases hentry

/-- The trade behind an entry. -/
theorem Paired.trade (h : w.Paired) {sn : UInt64} (hsn : w.tradeMap sn ≠ none) :
    ∃ t trade, w.tradeMap sn = some (some t) ∧ w.trades t = some trade ∧ trade.HasParty sn ∧
      ∀ p, trade.HasParty p → w.tradeMap p = some (some t) := by
  obtain ⟨pointer, hentry⟩ := Option.ne_none_iff_exists'.1 hsn
  obtain ⟨t, trade, rfl, hrest⟩ := h sn pointer hentry
  exact ⟨t, trade, hentry, hrest⟩

/-- **Two players without an entry agree.** -/
theorem Paired.tradeRes (h : w.Paired) {req : PlayerReq} {address : ℕ}
    (hagree : req.agree = true) (happ : w.tradeMap req.applicant = none)
    (hres : w.tradeMap req.responder = none) (hfree : w.trades address = none)
    (hv : (w.handleTradeRes req address).state = some v) : v.Paired := by
  obtain ⟨htrades, hmap⟩ := handleTradeRes_of_none hagree happ hres hv
  intro sn pointer hentry
  rw [hmap] at hentry
  by_cases hnew : sn = req.applicant ∨ sn = req.responder
  · -- one of the two parties
    rw [if_pos hnew] at hentry
    refine ⟨address, .new req.applicant req.responder, (Option.some.inj hentry).symm, ?_, hnew, ?_⟩
    · rw [htrades, Function.update_self]
    · intro p hp
      exact (hmap p).trans (if_pos hp)
  · -- an older trade, at another address, whose parties have an entry
    rw [if_neg hnew] at hentry
    obtain ⟨t, trade, hpointer, htrade, hparty, hboth⟩ := h sn pointer hentry
    have hne : t ≠ address := by
      rintro rfl
      rw [hfree] at htrade
      cases htrade
    refine ⟨t, trade, hpointer, by rw [htrades, Function.update_of_ne hne, htrade], hparty, ?_⟩
    intro p hp
    have hp' := hboth p hp
    rw [hmap, if_neg ?_, hp']
    rintro (rfl | rfl)
    · rw [happ] at hp'
      cases hp'
    · rw [hres] at hp'
      cases hp'

/-- **A player with an entry updates its trade.** -/
theorem Paired.updateTradeItem (h : w.Paired) {player : Player} {u : UpdateTradeItem}
    (hhas : w.tradeMap player.playerSn ≠ none)
    (hv : (w.handleUpdateTradeItem player u).state = some v) : v.Paired := by
  obtain ⟨t, trade, hentry, htrade, -, hboth⟩ := h.trade hhas
  obtain ⟨v', hv', htrades, hmap⟩ := handleUpdateTradeItem_of_live (u := u) hentry htrade
  obtain rfl : v' = v := Option.some.inj (hv'.symm.trans hv)
  intro sn pointer hsn
  rw [hmap] at hsn
  split at hsn
  · cases hsn
  · rename_i hkept
    obtain ⟨t', trade', hpointer, htrade', hparty', hboth'⟩ := h sn pointer hsn
    by_cases ht : t' = t
    · -- the trade of the update, which is still open
      subst ht
      obtain rfl : trade' = trade := Option.some.inj (htrade'.symm.trans htrade)
      refine ⟨t', trade'.acknowledge u, hpointer, by rw [htrades, Function.update_self],
        PlayerTrade.hasParty_acknowledge.2 hparty', fun p hp => ?_⟩
      have hp' := PlayerTrade.hasParty_acknowledge.1 hp
      rw [hmap, if_neg fun hclose => hkept ⟨hclose.1, hclose.2.1, hparty'⟩, hboth' p hp']
    · -- another trade, whose parties are not those of the update
      refine ⟨t', trade', hpointer, by rw [htrades, Function.update_of_ne ht, htrade'], hparty',
        fun p hp => ?_⟩
      have hp' := hboth' p hp
      rw [hmap, if_neg fun hclose => ht ?_, hp']
      rw [hboth p hclose.2.2] at hp'
      exact (Option.some.inj (Option.some.inj hp')).symm

/-- A request that is refused changes nothing. -/
theorem handleTradeRes_of_not_agree {req : PlayerReq} {address : ℕ} (hagree : req.agree = false) :
    (w.handleTradeRes req address).state = some w := by
  unfold handleTradeRes
  rw [hagree]
  rfl

/-- **One step** that meets the condition does to the map what it should, and keeps the entries of
each trade together. -/
theorem Paired.step (h : w.Paired) {e : TradeEvent} (hsingle : w.Single e)
    (hstep : w.step e = some v) : v.Paired ∧ TradeStepSound w e v := by
  cases e with
  | tradeRes identify req address =>
    simp only [TradeProxy.step] at hstep
    simp only [Single] at hsingle
    cases hplayer : w.getPlayer identify with
    | none =>
      rw [hplayer] at hstep
      obtain rfl := Option.some.inj hstep
      refine ⟨h, fun hsome => ?_⟩
      rw [hplayer] at hsome
      cases hsome
    | some player =>
      rw [hplayer] at hstep hsingle
      simp only at hstep
      split at hstep
      · rename_i hfree
        cases hagree : req.agree with
        | false =>
          rw [handleTradeRes_of_not_agree hagree] at hstep
          obtain rfl := Option.some.inj hstep
          refine ⟨h, fun _ htrue => ?_⟩
          rw [hagree] at htrue
          cases htrue
        | true =>
          obtain ⟨happ, hres⟩ := hsingle rfl hagree
          have haddress : w.trades address = none := by
            unfold IsFree at hfree
            rw [deleteOld_of_none happ hres] at hfree
            exact Option.isNone_iff_eq_none.1 hfree
          obtain ⟨htrades, hmap⟩ := handleTradeRes_of_none hagree happ hres hstep
          refine ⟨h.tradeRes hagree happ hres haddress hstep, fun _ _ => ⟨?_, ?_, ?_⟩⟩
          · rw [htrades, Function.update_self]
          · rw [hmap, if_pos (.inl rfl)]
          · rw [hmap, if_pos (.inr rfl)]
      · cases hstep
  | updateTradeItem identify u =>
    simp only [TradeProxy.step] at hstep
    cases hplayer : w.getPlayer identify with
    | none =>
      rw [hplayer] at hstep
      obtain rfl := Option.some.inj hstep
      refine ⟨h, fun player trade hsome => ?_⟩
      rw [hplayer] at hsome
      cases hsome
    | some player =>
      rw [hplayer] at hstep
      refine ⟨h.updateTradeItem (hsingle player hplayer) hstep, fun q trade hq hcloses => ?_⟩
      rw [hplayer] at hq
      obtain rfl := Option.some.inj hq
      obtain ⟨t, hentry, htrade, happ, hres⟩ := hcloses
      obtain ⟨v', hv', -, hmap⟩ := handleUpdateTradeItem_of_live (u := u) hentry htrade
      obtain rfl : v' = v := Option.some.inj (hv'.symm.trans hstep)
      exact ⟨by rw [hmap, if_pos ⟨happ, hres, .inl rfl⟩],
        by rw [hmap, if_pos ⟨happ, hres, .inr rfl⟩]⟩
  | players players =>
    obtain rfl := Option.some.inj hstep
    exact ⟨h, trivial⟩

end TradeProxy

/-- **The map of trades is sound** in every run in which players have one trade at a time, and every
step does to the map what it should. -/
theorem tradeMapSound_of_single {es : List TradeEvent} {w : TradeProxy}
    (hrun : (tradeSystem.restrict TradeProxy.Single).Run es w) :
    TradeMapSound w ∧ ∀ e v, w.Single e → w.step e = some v → TradeStepSound w e v := by
  have hpaired : w.Paired := by
    refine hrun.restrict_invariant (p := TradeProxy.Paired) ?_ ?_
    · rintro w ⟨proxy, rfl⟩
      exact TradeProxy.paired_start proxy
    · intro w e v h hsingle hstep
      exact (h.step hsingle hstep).1
  exact ⟨hpaired.sound, fun e v hsingle hstep => (hpaired.step hsingle hstep).2⟩

/-- A proxy with two players, whose serial numbers are 7 and 8. -/
def WorldProxy.traders : WorldProxy where
  sn := 1
  players := (PlayerCollector.empty.insert
    { Player.awake ⟨⟨5, .tcpListen⟩, TagKey.clear⟩ [97] with playerSn := 7 }).insert
    { Player.awake ⟨⟨6, .tcpListen⟩, TagKey.clear⟩ [98] with playerSn := 8 }

/-- The connections of the two players. -/
def traderSeven : NetIdentify := ⟨⟨5, .tcpListen⟩, TagKey.clear.addTagStr .account [97]⟩

@[inherit_doc traderSeven]
def traderEight : NetIdentify := ⟨⟨6, .tcpListen⟩, TagKey.clear.addTagStr .account [98]⟩

/-- The player 7 applies, the player 8 agrees, both acknowledge, and later they trade again. -/
def tradeTwice : List TradeEvent :=
  [.tradeRes traderEight ⟨true, 7, 8⟩ 0, .updateTradeItem traderSeven ⟨7, 8, none, 5, true⟩,
    .updateTradeItem traderEight ⟨8, 7, none, 0, true⟩, .tradeRes traderSeven ⟨true, 8, 7⟩ 1]

/-- Two trades, one after the other. -/
theorem tradeMapSound_twice : ∃ w : TradeProxy,
    (tradeSystem.restrict TradeProxy.Single).Run tradeTwice w ∧
      (TradeMapSound w ∧ ∀ e v, w.Single e → w.step e = some v → TradeStepSound w e v) ∧
      w.tradeMap 7 = some (some 1) := by
  have hrun : (Transition.System.execute TradeProxy.step TradeProxy.Single
      (.start WorldProxy.traders) tradeTwice).map (fun w => w.tradeMap 7) = some (some (some 1)) := by
    decide
  obtain ⟨w, hw, hseven⟩ := Option.map_eq_some_iff.1 hrun
  have hevents : (tradeSystem.restrict TradeProxy.Single).Run tradeTwice w :=
    Transition.System.run_of_execute ⟨_, rfl⟩ hw
  exact ⟨w, hevents, tradeMapSound_of_single hevents, hseven⟩

/-- The player 7 agrees to a trade with 8, and then to one with 9. -/
def agreeTwice : List TradeEvent :=
  [.tradeRes traderSeven ⟨true, 8, 7⟩ 0, .tradeRes traderSeven ⟨true, 9, 7⟩ 1]

/-- **The entries of a trade outlive it**: the player 8 is left with a deleted trade. -/
theorem not_tradeMapSound_agree : ¬ ∀ (es : List TradeEvent) (w : TradeProxy),
    tradeSystem.Run es w → TradeMapSound w := by
  intro hall
  have hrun : (Transition.System.execute TradeProxy.step (fun _ _ => True)
      (.start WorldProxy.traders) agreeTwice).map (fun w => (w.tradeMap 8, w.trades 0)) =
        some (some (some 0), none) := by
    decide
  obtain ⟨w, hw, hafter⟩ := Option.map_eq_some_iff.1 hrun
  obtain ⟨hentry, hdeleted⟩ := Prod.mk.inj hafter
  have hevents : tradeSystem.Run agreeTwice w :=
    Transition.System.run_of_execute_true ⟨_, rfl⟩ hw
  obtain ⟨t, trade, ht, htrade, -⟩ := hall agreeTwice w hevents 8 _ hentry
  obtain rfl := Option.some.inj ht
  rw [hdeleted] at htrade
  cases htrade

end MmoServer
