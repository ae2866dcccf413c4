/-
**Consent to a trade.**

A trade is closed when the flags of both parties are set.  A flag is set by a message that names the
party as its sender, whoever sent it, and it stays when the other party changes its offer.  This
module follows a proxy together with the messages that each trade has received, and asks whether
each party of a closed trade had acknowledged the last offer of the other.

What a change of an offer is depends on how clients use the fields of a message.  The results hold
whatever it is: it is a condition on a message and the messages before it.

Main definitions:

* `MmoServer.TradeState` — the proxy, with the messages of each trade, and the trades that were
  closed with success;
* `MmoServer.Consented` — a party has acknowledged, and the other has not changed its offer since;
* `MmoServer.TradeConsent` — the parties of every closed trade have consented, and so has every
  party whose flag is set;
* `MmoServer.TradeState.Honest` — the condition on the messages of clients.

Main results:

* `MmoServer.Agreed.acknowledge` — **one message**: what the flags say stays true;
* `MmoServer.tradeConsent_of_honest` — **trades are closed by consent in every honest run**.
-/

import MmoServer.Trade

set_option relaxedAutoImplicit false
set_option autoImplicit false

namespace MmoServer

open Handler

/-! ### Consent -/

/-- A message of a trade, with the player whose connection it came from. -/
structure TradeEntry where
  player : UInt64
  update : UpdateTradeItem
  deriving DecidableEq

/-- What a change of an offer is: a condition on a message and the earlier messages of the trade, of
which the latest is the first. -/
abbrev OfferChange := List TradeEntry → TradeEntry → Prop

/-- The player acknowledges with the message, in its own name. -/
def TradeEntry.Acknowledges (m : TradeEntry) (p : UInt64) : Prop :=
  m.player = p ∧ m.update.sender = p ∧ m.update.ack = true

/-- **Consent.**  The party `p` has acknowledged, and the party `q` has not changed its offer since.
The latest message is the first of the list. -/
def Consented (changes : OfferChange) (p q : UInt64) : List TradeEntry → Prop
  | [] => False
  | m :: earlier =>
    m.Acknowledges p ∨ (¬ (m.player = q ∧ changes earlier m) ∧ Consented changes p q earlier)

/-- Both flags of a trade stand for a consent. -/
structure Agreed (changes : OfferChange) (trade : PlayerTrade) (history : List TradeEntry) :
    Prop where
  applicant : trade.appAck = true → Consented changes trade.applicant trade.responder history
  responder : trade.resAck = true → Consented changes trade.responder trade.applicant history

/-- A message that may reach a trade: **an acknowledgement in the name of a party that has not
acknowledged comes from that party**, and a party changes its offer only while the other has not
acknowledged. -/
structure HonestEntry (changes : OfferChange) (trade : PlayerTrade) (history : List TradeEntry)
    (m : TradeEntry) : Prop where
  sender : m.update.ack = true → trade.HasParty m.update.sender → m.player = m.update.sender ∨
    (m.update.sender = trade.applicant ∧ trade.appAck = true) ∨
    (m.update.sender ≠ trade.applicant ∧ trade.resAck = true)
  applicant : trade.appAck = true → ¬ (m.player = trade.responder ∧ changes history m)
  responder : trade.resAck = true → ¬ (m.player = trade.applicant ∧ changes history m)

section

variable {changes : OfferChange} {trade : PlayerTrade} {history : List TradeEntry} {m : TradeEntry}

/-- A new trade has no flag. -/
theorem agreed_new (applicant responder : UInt64) :
    Agreed changes (.new applicant responder) history := by
  constructor
  · intro h
    cases h
  · intro h
    cases h

/-- Nobody consents who never sent a message. -/
theorem not_consented_of_silent {p q : UInt64} (h : ∀ m ∈ history, m.player ≠ p) :
    ¬ Consented changes p q history := by
  induction history with
  | nil => exact id
  | cons m earlier ih =>
    rintro (hack | ⟨-, hearlier⟩)
    · exact h m (List.mem_cons_self ..) hack.1
    · exact ih (fun n hn => h n (List.mem_cons_of_mem _ hn)) hearlier

/-- **One message.**  If the flags stand for consents before an honest message, so do the flags
behind it. -/
theorem Agreed.acknowledge (h : Agreed changes trade history)
    (hm : HonestEntry changes trade history m) :
    Agreed changes (trade.acknowledge m.update) (m :: history) := by
  -- a flag that stays up
  have happ : trade.appAck = true →
      Consented changes trade.applicant trade.responder (m :: history) := fun hack =>
    .inr ⟨hm.applicant hack, h.applicant hack⟩
  have hres : trade.resAck = true →
      Consented changes trade.responder trade.applicant (m :: history) := fun hack =>
    .inr ⟨hm.responder hack, h.responder hack⟩
  unfold PlayerTrade.acknowledge
  by_cases ha : m.update.sender = trade.applicant
  · -- the flag of the applicant is written
    rw [if_pos ha]
    refine ⟨fun hack => ?_, hres⟩
    have hack' : m.update.ack = true := hack
    rcases hm.sender hack' (.inl ha) with hplayer | ⟨-, hup⟩ | ⟨hne, -⟩
    · exact .inl ⟨hplayer.trans ha, ha, hack'⟩
    · exact happ hup
    · exact absurd ha hne
  · rw [if_neg ha]
    by_cases hr : m.update.sender = trade.responder
    · -- the flag of the responder is written
      rw [if_pos hr]
      refine ⟨happ, fun hack => ?_⟩
      have hack' : m.update.ack = true := hack
      rcases hm.sender hack' (.inr hr) with hplayer | ⟨heq, -⟩ | ⟨-, hup⟩
      · exact .inl ⟨hplayer.trans hr, hr, hack'⟩
      · exact absurd heq ha
      · exact hres hup
    · -- the message is in the name of nobody
      rw [if_neg hr]
      exact ⟨happ, hres⟩

end

/-! ### Runs -/

/-- A closed trade, with the messages that it had received. -/
structure ClosedTrade where
  trade : PlayerTrade
  history : List TradeEntry

/-- The proxy, the messages that each trade on the heap has received, of which the latest is the
first, and the trades that were closed with success. -/
structure TradeState where
  proxy : TradeProxy
  history : ℕ → List TradeEntry
  closed : List ClosedTrade

namespace TradeState

/-- The proxy at the start. -/
def start (proxy : WorldProxy) : TradeState := ⟨.start proxy, fun _ => [], []⟩

/-- The trade that a player's entry points to. -/
def tradeOf (s : TradeState) (player : Player) : Option (ℕ × PlayerTrade) :=
  match s.proxy.tradeMap player.playerSn with
  | some (some t) => (s.proxy.trades t).map fun trade => (t, trade)
  | _ => none

/-- The player of a connection, with the trade that its entry points to. -/
def target (s : TradeState) (identify : NetIdentify) : Option (Player × ℕ × PlayerTrade) :=
  (s.proxy.getPlayer identify).bind fun player =>
    (s.tradeOf player).map fun e => (player, e)

/-- The messages of the trades behind a step: a new trade has none, and an update goes to the trade
of its player. -/
def historyAfter (s : TradeState) : TradeEvent → ℕ → List TradeEntry
  | .tradeRes identify req address =>
    if (s.proxy.getPlayer identify).isSome && req.agree then Function.update s.history address []
    else s.history
  | .updateTradeItem identify u =>
    match s.target identify with
    | none => s.history
    | some (player, t, _) =>
      Function.update s.history t (⟨player.playerSn, u⟩ :: s.history t)
  | .players _ => s.history

/-- The trade that a step closes with success. -/
def closedBy (s : TradeState) : TradeEvent → List ClosedTrade
  | .updateTradeItem identify u =>
    match s.target identify with
    | none => []
    | some (player, t, trade) =>
      if (trade.acknowledge u).appAck && (trade.acknowledge u).resAck then
        [⟨trade.acknowledge u, ⟨player.playerSn, u⟩ :: s.history t⟩]
      else []
  | _ => []

/-- One step of the proxy. -/
def step (s : TradeState) (e : TradeEvent) : Option TradeState :=
  (s.proxy.step e).map fun proxy => ⟨proxy, s.historyAfter e, s.closed ++ s.closedBy e⟩

/-- **Honest steps**: every update is honest for the trade that it reaches. -/
def Honest (changes : OfferChange) (s : TradeState) : TradeEvent → Prop
  | .updateTradeItem identify u =>
    ∀ e ∈ s.target identify,
      HonestEntry changes e.2.2 (s.history e.2.1) ⟨e.1.playerSn, u⟩
  | _ => True

end TradeState

/-- The runs of a proxy, with the messages of its trades. -/
def consentSystem : Transition.System TradeState TradeEvent :=
  Transition.System.ofFun (fun s => ∃ proxy : WorldProxy, s = .start proxy) TradeState.step

/-- **Trades are closed by consent**: the parties of every closed trade have consented to it, and a
flag that is set stands for the consent of its party. -/
structure TradeConsent (changes : OfferChange) (s : TradeState) : Prop where
  closed : ∀ c ∈ s.closed, Consented changes c.trade.applicant c.trade.responder c.history ∧
    Consented changes c.trade.responder c.trade.applicant c.history
  flags : ∀ t trade, s.proxy.trades t = some trade → Agreed changes trade (s.history t)

/-! ### One step -/

section

variable {w v : TradeProxy}

/-- `delete` leaves no other object than before. -/
theorem TradeProxy.trades_delete {pointer : Option ℕ} (h : w.delete pointer = some v) {t : ℕ}
    {trade : PlayerTrade} (ht : v.trades t = some trade) : w.trades t = some trade := by
  cases pointer with
  | none =>
    obtain rfl := Option.some.inj h
    exact ht
  | some a =>
    obtain ⟨_, -, rfl⟩ := Option.map_eq_some_iff.1 h
    by_cases ha : t = a
    · subst ha
      simp at ht
    · simpa [ha] using ht

theorem TradeProxy.trades_deleteOld {req : PlayerReq} (h : w.deleteOld req = some v) {t : ℕ}
    {trade : PlayerTrade} (ht : v.trades t = some trade) : w.trades t = some trade := by
  unfold deleteOld at h
  split at h
  · exact trades_delete h ht
  · split at h
    · exact trades_delete h ht
    · obtain rfl := Option.some.inj h
      exact ht

/-- The trades behind an agreement: the new one, and others that were there. -/
theorem TradeProxy.trades_handleTradeRes {req : PlayerReq} {address : ℕ}
    (hagree : req.agree = true) (hv : (w.handleTradeRes req address).state = some v) {t : ℕ}
    {trade : PlayerTrade} (ht : v.trades t = some trade) :
    (t = address ∧ trade = .new req.applicant req.responder) ∨
      (t ≠ address ∧ w.trades t = some trade) := by
  unfold handleTradeRes at hv
  rw [if_pos hagree] at hv
  cases hold : w.deleteOld req with
  | none =>
    rw [hold] at hv
    cases hv
  | some u =>
    rw [hold] at hv
    obtain rfl := Option.some.inj hv
    have ht' : Function.update u.trades address (some (.new req.applicant req.responder)) t =
        some trade := ht
    by_cases ha : t = address
    · subst ha
      rw [Function.update_self] at ht'
      exact .inl ⟨rfl, (Option.some.inj ht').symm⟩
    · rw [Function.update_of_ne ha] at ht'
      exact .inr ⟨ha, trades_deleteOld hold ht'⟩

variable {s : TradeState} {player : Player}

/-- The trade that a player's entry points to is on the heap. -/
theorem TradeState.tradeOf_eq_some {t : ℕ} {trade : PlayerTrade} :
    s.tradeOf player = some (t, trade) ↔
      s.proxy.tradeMap player.playerSn = some (some t) ∧ s.proxy.trades t = some trade := by
  unfold tradeOf
  cases hentry : s.proxy.tradeMap player.playerSn with
  | none => simp
  | some pointer =>
    cases pointer with
    | none => simp
    | some a =>
      simp only [Option.map_eq_some_iff, Prod.mk.injEq, Option.some.injEq]
      constructor
      · rintro ⟨trade', htrade', rfl, rfl⟩
        exact ⟨rfl, htrade'⟩
      · rintro ⟨rfl, htrade⟩
        exact ⟨trade, htrade, rfl, rfl⟩

/-- An update of a player without a trade changes no trade. -/
theorem TradeState.trades_of_tradeOf_none {u : UpdateTradeItem} (hnone : s.tradeOf player = none)
    (hv : (s.proxy.handleUpdateTradeItem player u).state = some v) : v.trades = s.proxy.trades := by
  unfold TradeProxy.handleUpdateTradeItem at hv
  split at hv
  · rename_i t hentry
    split at hv
    · cases hv
    · rename_i trade htrade
      rw [tradeOf_eq_some.2 ⟨hentry, htrade⟩] at hnone
      cases hnone
  · obtain rfl := Option.some.inj hv
    rfl

/-- **A trade is closed** by an update exactly if both clients are told so. -/
theorem TradeState.closedBy_ne_nil_iff {identify : NetIdentify} {u : UpdateTradeItem}
    (hplayer : s.proxy.getPlayer identify = some player) :
    s.closedBy (.updateTradeItem identify u) ≠ [] ↔
      ∃ k : Option SocketKey,
        TradeMsg.tradeClose k true ∈ (s.proxy.handleUpdateTradeItem player u).sent := by
  have htarget : s.target identify = (s.tradeOf player).map fun e => (player, e) := by
    unfold TradeState.target
    rw [hplayer, Option.bind_some]
  simp only [TradeState.closedBy, htarget]
  unfold TradeProxy.handleUpdateTradeItem
  cases htrade : s.tradeOf player with
  | none =>
    cases hentry : s.proxy.tradeMap player.playerSn with
    | none => simp [Outcome.pure]
    | some pointer =>
      cases pointer with
      | none => simp [Outcome.pure]
      | some t =>
        have hdeleted : s.proxy.trades t = none := by
          simpa [tradeOf, hentry] using htrade
        simp [hdeleted, Outcome.crash]
  | some e =>
    obtain ⟨t, trade⟩ := e
    obtain ⟨hentry, hlive⟩ := tradeOf_eq_some.1 htrade
    simp only [hentry, hlive, Option.map_some, TradeProxy.updateTrade]
    split <;> simp [Outcome.send]

end

namespace TradeConsent

variable {changes : OfferChange} {s t : TradeState}

theorem start (proxy : WorldProxy) : TradeConsent changes (.start proxy) where
  closed := by
    intro c hc
    cases hc
  flags := by
    intro t trade htrade
    cases htrade

/-- **One step.** -/
theorem step (h : TradeConsent changes s) {e : TradeEvent} (hhonest : s.Honest changes e)
    (hstep : s.step e = some t) : TradeConsent changes t := by
  obtain ⟨v, hv, rfl⟩ := Option.map_eq_some_iff.1 hstep
  cases e with
  | tradeRes identify req address =>
    refine ⟨by simpa [TradeState.closedBy] using h.closed, fun a trade ha => ?_⟩
    simp only [TradeState.historyAfter]
    simp only [TradeProxy.step] at hv
    cases hplayer : s.proxy.getPlayer identify with
    | none =>
      rw [hplayer] at hv
      obtain rfl := Option.some.inj hv
      exact h.flags a trade ha
    | some player =>
      rw [hplayer] at hv
      simp only [Option.isSome_some, Bool.true_and]
      cases hagree : req.agree with
      | false =>
        rw [TradeProxy.handleTradeRes_of_not_agree hagree] at hv
        simp only at hv
        split at hv
        · obtain rfl := Option.some.inj hv
          exact h.flags a trade ha
        · cases hv
      | true =>
        simp only at hv
        split at hv
        · rcases TradeProxy.trades_handleTradeRes hagree hv ha with ⟨-, rfl⟩ | ⟨hne, hold⟩
          · exact agreed_new _ _
          · rw [if_pos rfl, Function.update_of_ne hne]
            exact h.flags a trade hold
        · cases hv
  | updateTradeItem identify u =>
    simp only [TradeProxy.step] at hv
    cases hplayer : s.proxy.getPlayer identify with
    | none =>
      rw [hplayer] at hv
      obtain rfl := Option.some.inj hv
      have htarget : s.target identify = none := by
        unfold TradeState.target
        rw [hplayer]
        rfl
      refine ⟨by simpa [TradeState.closedBy, htarget] using h.closed, fun a trade ha => ?_⟩
      simpa [TradeState.historyAfter, htarget] using h.flags a trade ha
    | some player =>
      rw [hplayer] at hv
      cases htrade : s.tradeOf player with
      | none =>
        have htarget : s.target identify = none := by
          unfold TradeState.target
          rw [hplayer, Option.bind_some, htrade]
          rfl
        have hsame := TradeState.trades_of_tradeOf_none htrade hv
        refine ⟨by simpa [TradeState.closedBy, htarget] using h.closed, fun a trade ha => ?_⟩
        have ha' : s.proxy.trades a = some trade := hsame ▸ ha
        simpa [TradeState.historyAfter, htarget] using h.flags a trade ha'
      | some e =>
        -- the message reaches a trade
        obtain ⟨a, trade⟩ := e
        have htarget : s.target identify = some (player, a, trade) := by
          unfold TradeState.target
          rw [hplayer, Option.bind_some, htrade]
          rfl
        obtain ⟨hentry, hlive⟩ := TradeState.tradeOf_eq_some.1 htrade
        obtain ⟨v', hv', htrades, -⟩ :=
          TradeProxy.handleUpdateTradeItem_of_live (u := u) hentry hlive
        obtain rfl : v' = v := Option.some.inj (hv'.symm.trans hv)
        have hagreed := (h.flags a trade hlive).acknowledge (hhonest _ htarget)
        constructor
        · intro c hc
          rcases List.mem_append.1 hc with hold | hnew
          · exact h.closed c hold
          · simp only [TradeState.closedBy, htarget] at hnew
            split at hnew
            · rename_i hboth
              obtain ⟨happ, hres⟩ := Bool.and_eq_true_iff.1 hboth
              rw [List.mem_singleton.1 hnew]
              exact ⟨hagreed.applicant happ, hagreed.responder hres⟩
            · cases hnew
        · intro b trade' hb
          simp only [TradeState.historyAfter, htarget]
          rw [htrades] at hb
          by_cases hne : b = a
          · subst hne
            rw [Function.update_self] at hb ⊢
            rw [← Option.some.inj hb]
            exact hagreed
          · rw [Function.update_of_ne hne] at hb ⊢
            exact h.flags b trade' hb
  | players players =>
    obtain rfl := Option.some.inj hv
    exact ⟨by simpa [TradeState.closedBy] using h.closed, h.flags⟩

end TradeConsent

/-- **Trades are closed by consent** in every run of honest steps, whatever a change of an offer
is. -/
theorem tradeConsent_of_honest (changes : OfferChange) {es : List TradeEvent} {s : TradeState}
    (hrun : (consentSystem.restrict (TradeState.Honest changes)).Run es s) :
    TradeConsent changes s := by
  refine hrun.restrict_invariant (p := TradeConsent changes) ?_ ?_
  · rintro s ⟨proxy, rfl⟩
    exact .start proxy
  · intro s e t h hhonest hstep
    exact h.step hhonest hstep

/-! ### Examples -/

/-- The offer of a message. -/
def TradeEntry.offer (m : TradeEntry) : Option ItemData × ℤ := (m.update.item, m.update.gold)

/-- A change of an offer: the message has another offer than the one before it of the same player,
of which the first is nothing. -/
def offerChanged : OfferChange := fun earlier m =>
  m.offer ≠ ((earlier.find? fun e => e.player = m.player).map TradeEntry.offer).getD (none, 0)

instance (earlier : List TradeEntry) (m : TradeEntry) : Decidable (offerChanged earlier m) :=
  inferInstanceAs (Decidable (¬ (_ = _)))

instance (trade : PlayerTrade) (history : List TradeEntry) (m : TradeEntry) :
    Decidable (HonestEntry offerChanged trade history m) :=
  decidable_of_iff
    ((m.update.ack = true → trade.HasParty m.update.sender → m.player = m.update.sender ∨
        (m.update.sender = trade.applicant ∧ trade.appAck = true) ∨
        (m.update.sender ≠ trade.applicant ∧ trade.resAck = true)) ∧
      (trade.appAck = true → ¬ (m.player = trade.responder ∧ offerChanged history m)) ∧
      (trade.resAck = true → ¬ (m.player = trade.applicant ∧ offerChanged history m)))
    ⟨fun h => ⟨h.1, h.2.1, h.2.2⟩, fun h => ⟨h.sender, h.applicant, h.responder⟩⟩

instance (s : TradeState) (e : TradeEvent) : Decidable (s.Honest offerChanged e) :=
  match e with
  | .updateTradeItem identify u =>
    inferInstanceAs (Decidable (∀ e ∈ s.target identify,
      HonestEntry offerChanged e.2.2 (s.history e.2.1) ⟨e.1.playerSn, u⟩))
  | .tradeRes _ _ _ => inferInstanceAs (Decidable True)
  | .players _ => inferInstanceAs (Decidable True)

/-- The player 7 offers gold, the player 8 acknowledges, and then the player 7 does. -/
def honestTrade : List TradeEvent :=
  [.tradeRes traderEight ⟨true, 7, 8⟩ 0, .updateTradeItem traderSeven ⟨7, 8, none, 5, false⟩,
    .updateTradeItem traderEight ⟨8, 7, none, 0, true⟩,
    .updateTradeItem traderSeven ⟨7, 8, none, 5, true⟩]

/-- A trade that is closed by consent. -/
theorem tradeConsent_honestTrade : ∃ s : TradeState,
    (consentSystem.restrict (TradeState.Honest offerChanged)).Run honestTrade s ∧
      TradeConsent offerChanged s ∧ s.closed.length = 1 := by
  have hrun : (Transition.System.execute TradeState.step (TradeState.Honest offerChanged)
      (.start WorldProxy.traders) honestTrade).map (fun s => s.closed.length) = some 1 := by
    decide
  obtain ⟨s, hs, hlength⟩ := Option.map_eq_some_iff.1 hrun
  have hevents : (consentSystem.restrict (TradeState.Honest offerChanged)).Run honestTrade s :=
    Transition.System.run_of_execute ⟨_, rfl⟩ hs
  exact ⟨s, hevents, tradeConsent_of_honest offerChanged hevents, hlength⟩

/-- The player 7 acknowledges in both names. -/
def spoofedTrade : List TradeEvent :=
  [.tradeRes traderEight ⟨true, 7, 8⟩ 0, .updateTradeItem traderSeven ⟨8, 8, none, 0, true⟩,
    .updateTradeItem traderSeven ⟨7, 8, none, 0, true⟩]

/-- **A player acknowledges for the other**, who never said anything: whatever a change of an offer
is, the trade is closed without its consent. -/
theorem not_tradeConsent_spoofed : ¬ ∃ changes : OfferChange, ∀ (es : List TradeEvent)
    (s : TradeState), consentSystem.Run es s → TradeConsent changes s := by
  rintro ⟨changes, hall⟩
  have hrun : (Transition.System.execute TradeState.step (fun _ _ => True)
      (.start WorldProxy.traders) spoofedTrade).map (fun s => s.closed.map fun c =>
        (c.trade.applicant, c.trade.responder, c.history.map TradeEntry.player)) =
      some [(7, 8, [7, 7])] := by
    decide
  obtain ⟨s, hs, hclosed⟩ := Option.map_eq_some_iff.1 hrun
  have hevents : consentSystem.Run spoofedTrade s :=
    Transition.System.run_of_execute_true ⟨_, rfl⟩ hs
  obtain ⟨c, hc, hparties⟩ := List.map_eq_singleton_iff.1 hclosed
  obtain ⟨-, hresponder⟩ := Prod.mk.inj hparties
  obtain ⟨hresponder, hplayers⟩ := Prod.mk.inj hresponder
  -- nothing in the history of the trade comes from the responder
  have hnone : ∀ m ∈ c.history, m.player ≠ c.trade.responder := by
    intro m hm
    have hseven : m.player ∈ c.history.map TradeEntry.player := List.mem_map_of_mem hm
    rw [hplayers] at hseven
    rw [hresponder]
    simp only [List.mem_cons, List.not_mem_nil, or_false, or_self] at hseven
    rw [hseven]
    decide
  refine not_consented_of_silent hnone
    ((hall spoofedTrade s hevents).closed c ?_).2
  rw [hc]
  exact List.mem_singleton_self c

/-- The player 8 acknowledges an offer of gold, and then the player 7 takes it back. -/
def changedTrade : List TradeEvent :=
  [.tradeRes traderEight ⟨true, 7, 8⟩ 0, .updateTradeItem traderSeven ⟨7, 8, none, 5, false⟩,
    .updateTradeItem traderEight ⟨8, 7, none, 0, true⟩,
    .updateTradeItem traderSeven ⟨7, 8, none, 0, true⟩]

/-- **The flag of the player 8 outlives the offer** that it was set for, with no message in another
name. -/
theorem not_tradeConsent_changed : ∃ s : TradeState, consentSystem.Run changedTrade s ∧
    ¬ TradeConsent offerChanged s := by
  have hrun : (Transition.System.execute TradeState.step (fun _ _ => True)
      (.start WorldProxy.traders) changedTrade).map (fun s => s.closed.map fun c =>
        (c.trade.applicant, c.trade.responder, c.history)) =
      some [(7, 8, [⟨7, 7, 8, none, 0, true⟩, ⟨8, 8, 7, none, 0, true⟩,
        ⟨7, 7, 8, none, 5, false⟩])] := by
    decide
  obtain ⟨s, hs, hclosed⟩ := Option.map_eq_some_iff.1 hrun
  have hevents : consentSystem.Run changedTrade s :=
    Transition.System.run_of_execute_true ⟨_, rfl⟩ hs
  obtain ⟨c, hc, hparties⟩ := List.map_eq_singleton_iff.1 hclosed
  obtain ⟨happlicant, hrest⟩ := Prod.mk.inj hparties
  obtain ⟨hresponder, hhistory⟩ := Prod.mk.inj hrest
  refine ⟨s, hevents, fun hconsent => ?_⟩
  obtain ⟨-, hconsented⟩ := hconsent.closed c (by rw [hc]; exact List.mem_singleton_self c)
  rw [happlicant, hresponder, hhistory] at hconsented
  rcases hconsented with hack | ⟨hkept, -⟩
  · exact absurd hack.1 (by decide)
  · exact hkept ⟨rfl, by decide⟩

end MmoServer
