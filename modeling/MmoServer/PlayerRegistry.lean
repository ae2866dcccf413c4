/-
**The collector of players over whole runs.**

The two maps of a collector are changed by different operations: a socket has one player, an account
names the socket that used it last, and several sockets may have used it.  A player that is removed takes
the entry of its account with it, also when that names the socket of another player.

Main definitions:

* `MmoServer.LookUp`, `MmoServer.PlayerCollector.find` — the four searches;
* `MmoServer.PlayerCollector.removeAllPlayerAndCloseConnect` — the loop that empties the collector;
* `MmoServer.Registry` — a collector, with the number of each player object it has held;
* `MmoServer.Registry.Agree` — what should hold: each player is found by its socket, someone is found by
  its account, and no search finds a player that was removed;
* `MmoServer.Registry.KeepsAccounts` — the steps that do not break it;
* `MmoServer.Registry.Invariant` — the invariant of the runs of such steps.

Main results:

* `MmoServer.PlayerCollector.removeAllPlayerAndCloseConnect_spec` — **the loop ends**, and no one is left;
* `MmoServer.PlayerCollector.find_some` — what a search finds is held;
* `MmoServer.registry_exact` — **the first step that is not allowed breaks the agreement**;
* `MmoServer.registry_run` — **both maps agree** in every run of allowed steps;
* `MmoServer.not_registry_agree` — a second login of an account strands the first one.
-/

import MmoServer.Loop
import MmoServer.PlayerCollector
import MmoServer.Transition

set_option relaxedAutoImplicit false
set_option autoImplicit false

namespace MmoServer

open Std

/-! ### The searches and the loop -/

/-- What a player is looked up by. -/
inductive LookUp
  | socket (socket : ℤ)
  | account (account : List UInt8)
  | name (name : List UInt8)
  | sn (playerSn : UInt64)

namespace PlayerCollector

/-- `GetPlayerByName`. -/
def getPlayerByName (c : PlayerCollector) (name : List UInt8) : Option Player :=
  (OrdMap.findIf c.players fun _ p => p.name = name).map Prod.snd

/-- A search, and the collector behind it. -/
def find (c : PlayerCollector) : LookUp → Option Player × PlayerCollector
  | .socket socket => (c.getPlayerBySocket socket, c)
  | .account account => c.getPlayerByAccount account
  | .name name => (c.getPlayerByName name, c)
  | .sn playerSn => (c.getPlayerBySn playerSn, c)

/-- One round of `RemoveAllPlayerAndCloseConnect`: the first player is told to close its connection, and
removed. -/
def closeFirst (s : List NetIdentify × PlayerCollector) :
    Option (List NetIdentify × PlayerCollector) :=
  s.2.players.toList.head?.map fun e => (s.1 ++ [e.2.toNetIdentify], s.2.removePlayer e.2)

/-- `RemoveAllPlayerAndCloseConnect`, with the packets `MI_NetworkRequestDisconnect`. -/
def removeAllPlayerAndCloseConnect (c : PlayerCollector) :
    Option (List NetIdentify × PlayerCollector) :=
  Loop.run (fun s => !s.2.players.isEmpty) closeFirst c.players.size ([], c)

/-- The data of a player are read, from a proto or a stream. -/
def parse (c : PlayerCollector) (socket : ℤ) (playerSn : UInt64) (name : List UInt8) :
    PlayerCollector :=
  match c.getPlayerBySocket socket with
  | none => c
  | some player => c.insert { player with playerSn := playerSn, name := name }

variable {c d : PlayerCollector} {player : Player} {socket : ℤ}

/-- A first match is held. -/
theorem held_of_findIf {p : ℤ → Player → Bool}
    (h : (OrdMap.findIf c.players p).map Prod.snd = some player) :
    c.getPlayerBySocket player.socketKey.socket = some player := by
  obtain ⟨⟨socket, q⟩, hfound, rfl⟩ := Option.map_eq_some_iff.1 h
  have hheld := (OrdMap.findIf_some hfound).1
  rw [c.socket_eq socket q hheld]
  exact hheld

/-- **What a search finds is held.** -/
theorem find_some {l : LookUp} (h : (c.find l).1 = some player) :
    c.getPlayerBySocket player.socketKey.socket = some player := by
  cases l with
  | socket socket =>
    have hheld : c.getPlayerBySocket socket = some player := h
    rw [getPlayerBySocket_socket hheld]
    exact hheld
  | account account =>
    have hfound : c.getPlayerByAccount account = (some player, (c.getPlayerByAccount account).2) :=
      Prod.ext h rfl
    exact (getPlayerByAccount_some hfound).2.2
  | name name => exact held_of_findIf h
  | sn playerSn => exact (getPlayerBySn_some h).1

/-- One round removes a player. -/
theorem closeFirst_of_not_isEmpty {sent : List NetIdentify} (h : c.players.isEmpty = false) :
    ∃ player : Player, c.getPlayerBySocket player.socketKey.socket = some player ∧
      closeFirst (sent, c) = some (sent ++ [player.toNetIdentify], c.removePlayer player) := by
  cases hlist : c.players.toList with
  | nil =>
    have hempty : c.players.isEmpty = true := by
      rw [← ExtTreeMap.isEmpty_toList, hlist]
      rfl
    rw [hempty] at h
    cases h
  | cons e rest =>
    have hmem : c.players[e.1]? = some e.2 :=
      ExtTreeMap.mem_toList_iff_getElem?_eq_some.1 (hlist ▸ List.mem_cons_self ..)
    refine ⟨e.2, ?_, ?_⟩
    · rw [c.socket_eq e.1 e.2 hmem]
      exact hmem
    · simp [closeFirst, hlist]

/-- **The loop ends**, with an empty collector, in which accounts lead to players if they did before. -/
theorem removeAllPlayerAndCloseConnect_spec (hc : c.Consistent) :
    ∃ sent d, c.removeAllPlayerAndCloseConnect = some (sent, d) ∧ d.Consistent ∧
      ∀ socket, d.getPlayerBySocket socket = none := by
  have hbody : ∀ s : List NetIdentify × PlayerCollector, s.2.Consistent →
      (!s.2.players.isEmpty) = true → ∃ t, closeFirst s = some t ∧ t.2.Consistent ∧
        t.2.players.size < s.2.players.size := by
    intro s hs hcond
    obtain ⟨player, hheld, hround⟩ := closeFirst_of_not_isEmpty (by simpa using hcond)
    exact ⟨_, hround, hs.removePlayer hheld, OrdMap.size_erase_lt hheld⟩
  obtain ⟨⟨sent, d⟩, hrun, hd, hend⟩ := Loop.exists_run hbody (s := ([], c)) hc
  refine ⟨sent, d, hrun, hd, fun socket => ?_⟩
  have hempty : d.players.isEmpty = true := by simpa using hend
  rw [getPlayerBySocket, ExtTreeMap.isEmpty_iff.1 hempty]
  exact ExtTreeMap.getElem?_empty

/-- Everyone held is known by its account. -/
def Known (c : PlayerCollector) : Prop :=
  ∀ (socket : ℤ) (player : Player), c.getPlayerBySocket socket = some player →
    (c.accounts player.account).isSome = true

/-- Nobody else that is held has the account of the player. -/
def AccountAlone (c : PlayerCollector) (player : Player) : Prop :=
  ∀ (socket : ℤ) (q : Player), c.players[socket]? = some q →
    socket ≠ player.socketKey.socket → q.account ≠ player.account

instance (c : PlayerCollector) (player : Player) : Decidable (c.AccountAlone player) :=
  OrdMap.decidableForall

theorem known_empty : empty.Known := by
  intro socket player h
  simp [empty, getPlayerBySocket] at h

/-- The account of a player that is held leads to a player with that account. -/
theorem Consistent.exists_getPlayerByAccount (hc : c.Consistent) (hk : c.Known)
    (h : c.getPlayerBySocket socket = some player) :
    ∃ q, c.getPlayerBySocket q.socketKey.socket = some q ∧ q.account = player.account ∧
      c.getPlayerByAccount player.account = (some q, c) := by
  obtain ⟨s, hs⟩ := Option.isSome_iff_exists.1 (hk socket player h)
  obtain ⟨q, hq, haccount⟩ := hc player.account s hs
  have hq' : c.players[s]? = some q := hq
  refine ⟨q, ?_, haccount, ?_⟩
  · rw [getPlayerBySocket_socket hq]
    exact hq
  · simp only [getPlayerByAccount, hs, hq']

/-- A search by account changes nothing in a collector whose accounts lead to players. -/
theorem Consistent.getPlayerByAccount_snd (hc : c.Consistent) (account : List UInt8) :
    (c.getPlayerByAccount account).2 = c := by
  unfold PlayerCollector.getPlayerByAccount
  cases ha : c.accounts account with
  | none => rfl
  | some s =>
    obtain ⟨q, hq, -⟩ := hc account s ha
    have hq' : c.players[s]? = some q := hq
    simp only [hq']

theorem Known.addPlayer (hk : c.Known) {identify : NetIdentify} {account : List UInt8}
    (h : c.addPlayer identify account = some (d, player)) : d.Known := by
  obtain ⟨hplayer, -, hframe⟩ := getPlayerBySocket_addPlayer h
  have haccounts : d.accounts = fun a =>
      if a = account then some identify.socketKey.socket else c.accounts a := by
    unfold PlayerCollector.addPlayer at h
    split at h
    · cases h
    · rw [← (Prod.mk.inj (Option.some.inj h)).1]
  intro s q hq
  rw [hframe] at hq
  rw [haccounts]
  by_cases hown : q.account = account
  · simp [hown]
  · simp only [if_neg hown]
    split at hq
    · obtain rfl := Option.some.inj hq
      exact absurd (by rw [hplayer]; rfl) hown
    · exact hk s q hq

/-- A player that is changed, but not in its account. -/
theorem Known.insert (hk : c.Known) {old : Player}
    (hold : c.getPlayerBySocket player.socketKey.socket = some old)
    (haccount : player.account = old.account) : (c.insert player).Known := by
  intro s q hq
  rw [getPlayerBySocket_insert] at hq
  split at hq
  · obtain rfl := Option.some.inj hq
    show (c.accounts player.account).isSome = true
    rw [haccount]
    exact hk _ old hold
  · exact hk s q hq

/-- **A player that is removed** leaves everyone known exactly if nobody else has its account. -/
theorem known_removePlayer_iff (hk : c.Known) : (c.removePlayer player).Known ↔
    c.AccountAlone player := by
  constructor
  · intro hknown s q hq hne haccount
    have hheld : (c.removePlayer player).getPlayerBySocket s = some q := by
      rw [getPlayerBySocket_removePlayer, if_neg (Ne.symm hne)]
      exact hq
    have hsome := hknown s q hheld
    simp [removePlayer, haccount] at hsome
  · intro halone s q hq
    rw [getPlayerBySocket_removePlayer] at hq
    split at hq
    · cases hq
    · rename_i hne
      have haccount := halone s q hq (Ne.symm hne)
      show (if q.account = player.account then none else c.accounts q.account).isSome = true
      rw [if_neg haccount]
      exact hk s q hq

/-- The same for what a search has found. -/
theorem known_removeFound_iff (hk : c.Known) (found : Option Player) :
    (match found with
      | none => c
      | some player => c.removePlayer player).Known ↔ ∀ player ∈ found, c.AccountAlone player := by
  cases found with
  | none => exact iff_of_true hk fun player h => by cases h
  | some player =>
    rw [known_removePlayer_iff hk]
    constructor
    · intro halone q hq
      obtain rfl := Option.some.inj hq
      exact halone
    · intro h
      exact h player rfl

/-- Every account that leads anywhere keeps leading to a player when one is removed by its number. -/
theorem Consistent.removePlayerBySn (hc : c.Consistent) (playerSn : UInt64) :
    (c.removePlayerBySn playerSn).Consistent := by
  unfold PlayerCollector.removePlayerBySn
  cases hp : c.getPlayerBySn playerSn with
  | none => exact hc
  | some player => exact hc.removePlayer (getPlayerBySn_some hp).1

theorem getPlayerBySocket_parse_cases (c : PlayerCollector) (socket : ℤ) (playerSn : UInt64)
    (name : List UInt8) (a : ℤ) :
    ((c.parse socket playerSn name).getPlayerBySocket a).isSome = (c.getPlayerBySocket a).isSome := by
  unfold parse
  cases hp : c.getPlayerBySocket socket with
  | none => rfl
  | some player =>
    have hsocket := getPlayerBySocket_socket hp
    simp only [getPlayerBySocket_insert]
    split
    · rename_i ha
      rw [← ha, hsocket, hp]
      rfl
    · rfl

/-- Reading the data of a player changes no account. -/
theorem Consistent.parse (hc : c.Consistent) (socket : ℤ) (playerSn : UInt64) (name : List UInt8) :
    (c.parse socket playerSn name).Consistent := by
  unfold PlayerCollector.parse
  cases hp : c.getPlayerBySocket socket with
  | none => exact hc
  | some player =>
    have hold : c.getPlayerBySocket player.socketKey.socket = some player :=
      (getPlayerBySocket_socket hp).symm ▸ hp
    exact hc.insert hold rfl

theorem Known.parse (hk : c.Known) (socket : ℤ) (playerSn : UInt64) (name : List UInt8) :
    (c.parse socket playerSn name).Known := by
  unfold PlayerCollector.parse
  cases hp : c.getPlayerBySocket socket with
  | none => exact hk
  | some player =>
    have hold : c.getPlayerBySocket player.socketKey.socket = some player :=
      (getPlayerBySocket_socket hp).symm ▸ hp
    exact hk.insert hold rfl

/-- A search changes nothing in a collector whose accounts lead to players. -/
theorem Consistent.find_snd (hc : c.Consistent) (l : LookUp) : (c.find l).2 = c := by
  cases l with
  | account account => exact hc.getPlayerByAccount_snd account
  | socket _ => rfl
  | name _ => rfl
  | sn _ => rfl

end PlayerCollector

/-! ### The system -/

/-- A collector, and for every socket the number of the player object that it got last; objects are
numbered as they are added, and the numbers of the removed ones are kept. -/
structure Registry where
  collector : PlayerCollector
  number : ℤ → ℕ
  created : ℕ
  removed : List ℕ

/-- What happens to a collector. -/
inductive RegistryEvent
  | addPlayer (identify : NetIdentify) (account : List UInt8)
  | removePlayerBySocket (socket : ℤ)
  | removePlayerBySn (playerSn : UInt64)
  | removeAllPlayerAndCloseConnect
  | find (l : LookUp)
  /-- The data of the player of a socket are read. -/
  | parse (socket : ℤ) (playerSn : UInt64) (name : List UInt8)

namespace Registry

/-- A new collector. -/
def start : Registry := ⟨.empty, fun _ => 0, 0, []⟩

/-- Players have left: the objects of the sockets without a player now. -/
def leave (s : Registry) (d : PlayerCollector) : Registry where
  collector := d
  number := s.number
  created := s.created
  removed :=
    ((s.collector.players.toList.filter fun e => d.players[e.1]?.isNone).map fun e =>
      s.number e.1) ++ s.removed

/-- One event. -/
def step (s : Registry) : RegistryEvent → Option Registry
  | .addPlayer identify account =>
    match s.collector.addPlayer identify account with
    | none => some s
    | some (d, _) =>
      some
        { collector := d
          number := Function.update s.number identify.socketKey.socket s.created
          created := s.created + 1
          removed := s.removed }
  | .removePlayerBySocket socket => some (s.leave (s.collector.removePlayerBySocket socket))
  | .removePlayerBySn playerSn => some (s.leave (s.collector.removePlayerBySn playerSn))
  | .removeAllPlayerAndCloseConnect =>
    s.collector.removeAllPlayerAndCloseConnect.map fun r => s.leave r.2
  | .find l => some { s with collector := (s.collector.find l).2 }
  | .parse socket playerSn name =>
    some { s with collector := s.collector.parse socket playerSn name }

/-- The system. -/
def system : Transition.System Registry RegistryEvent :=
  Transition.System.ofFun (fun s => s = .start) step

/-- **Agreement.**  Everyone held is found by its socket, someone held with the same account is found by
the account, and no search finds an object that was removed. -/
structure Agree (s : Registry) : Prop where
  bySocket : ∀ (socket : ℤ) (player : Player), s.collector.players[socket]? = some player →
    s.collector.getPlayerBySocket player.socketKey.socket = some player
  byAccount : ∀ (socket : ℤ) (player : Player), s.collector.players[socket]? = some player →
    ∃ q : Player, (∃ a : ℤ, s.collector.players[a]? = some q) ∧ q.account = player.account ∧
      (s.collector.getPlayerByAccount player.account).1 = some q
  notRemoved : ∀ (l : LookUp) (player : Player), (s.collector.find l).1 = some player →
    s.number player.socketKey.socket ∉ s.removed

/-- **Steps that keep the accounts.**  A player that is removed alone is the only one with its
account. -/
def KeepsAccounts (s : Registry) : RegistryEvent → Prop
  | .removePlayerBySocket socket =>
    ∀ player ∈ s.collector.getPlayerBySocket socket, s.collector.AccountAlone player
  | .removePlayerBySn playerSn =>
    ∀ player ∈ s.collector.getPlayerBySn playerSn, s.collector.AccountAlone player
  | _ => True

instance (s : Registry) (e : RegistryEvent) : Decidable (s.KeepsAccounts e) :=
  match e with
  | .removePlayerBySocket _ => Option.decidableForallMem _
  | .removePlayerBySn _ => Option.decidableForallMem _
  | .addPlayer _ _ | .removeAllPlayerAndCloseConnect | .find _ | .parse _ _ _ => .isTrue trivial

/-! ### The invariant -/

/-- The objects that are held are the last ones of their sockets, they are distinct, and none of them
was removed. -/
structure Numbered (s : Registry) : Prop where
  held_lt : ∀ socket, (s.collector.getPlayerBySocket socket).isSome = true →
    s.number socket < s.created
  removed_lt : ∀ n ∈ s.removed, n < s.created
  distinct : ∀ a b, (s.collector.getPlayerBySocket a).isSome = true →
    (s.collector.getPlayerBySocket b).isSome = true → s.number a = s.number b → a = b
  held : ∀ socket, (s.collector.getPlayerBySocket socket).isSome = true →
    s.number socket ∉ s.removed

/-- What holds in the runs of steps that keep the accounts. -/
structure Invariant (s : Registry) : Prop where
  numbered : s.Numbered
  consistent : s.collector.Consistent
  known : s.collector.Known

variable {s t : Registry}

/-- **Agreement is that everyone is known.** -/
theorem Numbered.agree_iff (hn : s.Numbered) (hc : s.collector.Consistent) :
    s.Agree ↔ s.collector.Known := by
  constructor
  · intro h socket player hheld
    obtain ⟨q, -, -, hq⟩ := h.byAccount socket player hheld
    have hfound : s.collector.getPlayerByAccount player.account =
        (some q, (s.collector.getPlayerByAccount player.account).2) := Prod.ext hq rfl
    rw [(PlayerCollector.getPlayerByAccount_some hfound).2.1]
    rfl
  · intro hk
    refine ⟨fun socket player hheld => ?_, fun socket player hheld => ?_, fun l player hl => ?_⟩
    · rw [s.collector.socket_eq socket player hheld]
      exact hheld
    · obtain ⟨q, hq, haccount, hfound⟩ := hc.exists_getPlayerByAccount hk hheld
      exact ⟨q, ⟨_, hq⟩, haccount, congrArg Prod.fst hfound⟩
    · refine hn.held _ ?_
      rw [PlayerCollector.find_some hl]
      rfl

/-- Some players leave, and the others stay as they are. -/
theorem Numbered.leave (h : s.Numbered) {d : PlayerCollector}
    (hd : ∀ socket, d.getPlayerBySocket socket = none ∨
      d.getPlayerBySocket socket = s.collector.getPlayerBySocket socket) :
    (s.leave d).Numbered := by
  have hsub : ∀ socket, (d.getPlayerBySocket socket).isSome = true →
      (s.collector.getPlayerBySocket socket).isSome = true := by
    intro socket hsome
    rcases hd socket with hnone | hsame
    · rw [hnone] at hsome
      cases hsome
    · rw [← hsame]
      exact hsome
  have hremoved : ∀ n ∈ (s.leave d).removed, n ∈ s.removed ∨ ∃ socket,
      (s.collector.getPlayerBySocket socket).isSome = true ∧
        d.getPlayerBySocket socket = none ∧ n = s.number socket := by
    intro n hmem
    rcases List.mem_append.1 hmem with hnew | hold
    · obtain ⟨e, he, rfl⟩ := List.mem_map.1 hnew
      obtain ⟨hlist, hnone⟩ := List.mem_filter.1 he
      have hheld : s.collector.getPlayerBySocket e.1 = some e.2 :=
        ExtTreeMap.mem_toList_iff_getElem?_eq_some.1 hlist
      exact .inr ⟨e.1, by rw [hheld]; rfl, Option.isNone_iff_eq_none.1 hnone, rfl⟩
    · exact .inl hold
  refine ⟨fun socket hsome => h.held_lt socket (hsub socket hsome), fun n hmem => ?_,
    fun a b ha hb => h.distinct a b (hsub a ha) (hsub b hb), fun socket hsome hmem => ?_⟩
  · rcases hremoved n hmem with hold | ⟨socket, hheld, -, rfl⟩
    · exact h.removed_lt n hold
    · exact h.held_lt socket hheld
  · rcases hremoved _ hmem with hold | ⟨a, ha, hnone, heq⟩
    · exact h.held socket (hsub socket hsome) hold
    · obtain rfl : socket = a := h.distinct socket a (hsub socket hsome) ha heq
      have hsome' : (d.getPlayerBySocket socket).isSome = true := hsome
      rw [hnone] at hsome'
      cases hsome'

/-- The same sockets have players. -/
theorem Numbered.congr (h : s.Numbered) {d : PlayerCollector}
    (hd : ∀ socket, (d.getPlayerBySocket socket).isSome =
      (s.collector.getPlayerBySocket socket).isSome) :
    ({ s with collector := d } : Registry).Numbered where
  held_lt socket hsome := h.held_lt socket ((hd socket).symm.trans hsome)
  removed_lt := h.removed_lt
  distinct a b ha hb := h.distinct a b ((hd a).symm.trans ha) ((hd b).symm.trans hb)
  held socket hsome := h.held socket ((hd socket).symm.trans hsome)

/-- A player is added, and its object has a new number. -/
theorem Numbered.addPlayer (h : s.Numbered) {identify : NetIdentify} {account : List UInt8}
    {d : PlayerCollector} {player : Player}
    (hadd : s.collector.addPlayer identify account = some (d, player)) :
    ({ collector := d
       number := Function.update s.number identify.socketKey.socket s.created
       created := s.created + 1
       removed := s.removed } : Registry).Numbered := by
  obtain ⟨-, -, hframe⟩ := PlayerCollector.getPlayerBySocket_addPlayer hadd
  have hother : ∀ socket, socket ≠ identify.socketKey.socket →
      (d.getPlayerBySocket socket).isSome = true →
      (s.collector.getPlayerBySocket socket).isSome = true := by
    intro socket hne hsome
    rw [hframe, if_neg (Ne.symm hne)] at hsome
    exact hsome
  refine ⟨fun socket hsome => ?_, fun n hn => ?_, fun a b ha hb heq => ?_, fun socket hsome => ?_⟩
  · by_cases hsocket : socket = identify.socketKey.socket
    · simp [hsocket]
    · simp only [Function.update_of_ne hsocket]
      have := h.held_lt socket (hother socket hsocket hsome)
      omega
  · have := h.removed_lt n hn
    show n < s.created + 1
    omega
  · by_cases hsa : a = identify.socketKey.socket
    · by_cases hsb : b = identify.socketKey.socket
      · rw [hsa, hsb]
      · simp only [hsa, Function.update_self, Function.update_of_ne hsb] at heq
        have := h.held_lt b (hother b hsb hb)
        omega
    · by_cases hsb : b = identify.socketKey.socket
      · simp only [hsb, Function.update_self, Function.update_of_ne hsa] at heq
        have := h.held_lt a (hother a hsa ha)
        omega
      · simp only [Function.update_of_ne hsa, Function.update_of_ne hsb] at heq
        exact h.distinct a b (hother a hsa ha) (hother b hsb hb) heq
  · by_cases hsocket : socket = identify.socketKey.socket
    · simp only [hsocket, Function.update_self]
      intro hmem
      exact Nat.lt_irrefl _ (h.removed_lt _ hmem)
    · simp only [Function.update_of_ne hsocket]
      exact h.held socket (hother socket hsocket hsome)

theorem invariant_start : start.Invariant where
  numbered :=
    { held_lt := by simp [start, PlayerCollector.empty, PlayerCollector.getPlayerBySocket]
      removed_lt := by simp [start]
      distinct := by simp [start, PlayerCollector.empty, PlayerCollector.getPlayerBySocket]
      held := by simp [start] }
  consistent := PlayerCollector.consistent_empty
  known := PlayerCollector.known_empty

/-- **One step.**  The numbers stay right and accounts lead to players whatever happens; everyone stays
known exactly if the step keeps the accounts. -/
theorem Invariant.step (h : s.Invariant) {e : RegistryEvent} (hv : s.step e = some t) :
    t.Numbered ∧ t.collector.Consistent ∧ (t.collector.Known ↔ s.KeepsAccounts e) := by
  cases e with
  | addPlayer identify account =>
    simp only [Registry.step] at hv
    cases hadd : s.collector.addPlayer identify account with
    | none =>
      rw [hadd] at hv
      obtain rfl := Option.some.inj hv
      exact ⟨h.numbered, h.consistent, iff_of_true h.known trivial⟩
    | some r =>
      obtain ⟨d, player⟩ := r
      rw [hadd] at hv
      obtain rfl := Option.some.inj hv
      exact ⟨h.numbered.addPlayer hadd, h.consistent.addPlayer hadd,
        iff_of_true (h.known.addPlayer hadd) trivial⟩
  | removePlayerBySocket socket =>
    obtain rfl := Option.some.inj hv
    refine ⟨h.numbered.leave fun a => ?_, h.consistent.removePlayerBySocket socket, ?_⟩
    · rw [PlayerCollector.getPlayerBySocket_removePlayerBySocket]
      split
      · exact .inl rfl
      · exact .inr rfl
    · exact PlayerCollector.known_removeFound_iff h.known (s.collector.getPlayerBySocket socket)
  | removePlayerBySn playerSn =>
    obtain rfl := Option.some.inj hv
    refine ⟨h.numbered.leave fun a => ?_, h.consistent.removePlayerBySn playerSn, ?_⟩
    · unfold PlayerCollector.removePlayerBySn
      cases s.collector.getPlayerBySn playerSn with
      | none => exact .inr rfl
      | some player =>
        simp only [PlayerCollector.getPlayerBySocket_removePlayer]
        split
        · exact .inl rfl
        · exact .inr rfl
    · exact PlayerCollector.known_removeFound_iff h.known (s.collector.getPlayerBySn playerSn)
  | removeAllPlayerAndCloseConnect =>
    obtain ⟨sent, d, hd, hconsistent, hempty⟩ :=
      PlayerCollector.removeAllPlayerAndCloseConnect_spec h.consistent
    simp only [Registry.step, hd, Option.map_some] at hv
    obtain rfl := Option.some.inj hv
    refine ⟨h.numbered.leave fun a => .inl (hempty a), hconsistent, iff_of_true ?_ trivial⟩
    intro socket player hheld
    have hnone := hempty socket
    rw [show d.getPlayerBySocket socket = some player from hheld] at hnone
    cases hnone
  | find l =>
    obtain rfl := Option.some.inj hv
    have hsame : ({ s with collector := (s.collector.find l).2 } : Registry) = s := by
      rw [h.consistent.find_snd l]
    rw [hsame]
    exact ⟨h.numbered, h.consistent, iff_of_true h.known trivial⟩
  | parse socket playerSn name =>
    obtain rfl := Option.some.inj hv
    exact ⟨h.numbered.congr (s.collector.getPlayerBySocket_parse_cases socket playerSn name),
      h.consistent.parse socket playerSn name,
      iff_of_true (h.known.parse socket playerSn name) trivial⟩

end Registry

/-! ### Runs -/

/-- **The agreement, exactly.**  It holds in every run of steps that keep the accounts, and the next step
keeps it exactly if it keeps the accounts. -/
theorem registry_exact {es : List RegistryEvent} {s : Registry}
    (hrun : (Registry.system.restrict Registry.KeepsAccounts).Run es s) :
    s.Agree ∧ ∀ e t, Registry.system.step s e t → (t.Agree ↔ s.KeepsAccounts e) := by
  refine hrun.restrict_exact (p := Registry.Invariant) ?_ ?_ ?_
  · rintro s rfl
    exact Registry.invariant_start
  · intro s h
    exact (h.numbered.agree_iff h.consistent).2 h.known
  · intro s e t h hstep
    obtain ⟨hn, hc, hk⟩ := h.step hstep
    exact ⟨(hn.agree_iff hc).trans hk, fun hkeeps => ⟨hn, hc, hk.2 hkeeps⟩⟩

/-- **Both maps agree** in every run of steps that keep the accounts. -/
theorem registry_run {es : List RegistryEvent} {s : Registry}
    (hrun : (Registry.system.restrict Registry.KeepsAccounts).Run es s) : s.Agree :=
  (registry_exact hrun).1

/-- A client on a socket. -/
def clientOn (socket : ℤ) : NetIdentify := ⟨⟨socket, .tcpListen⟩, TagKey.clear⟩

/-- Two accounts log in; one of them leaves and logs in again on another socket. -/
def registryLogins : List RegistryEvent :=
  [.addPlayer (clientOn 5) [97], .addPlayer (clientOn 6) [98], .parse 6 7 [66],
    .removePlayerBySocket 5, .addPlayer (clientOn 8) [97], .find (.account [97]),
    .removePlayerBySn 7]

theorem registry_logins : ∃ s,
    (Registry.system.restrict Registry.KeepsAccounts).Run registryLogins s ∧ s.Agree ∧
      ((s.collector.getPlayerByAccount [97]).1.map fun p => p.socketKey.socket) = some 8 := by
  have hrun : (Transition.System.execute Registry.step Registry.KeepsAccounts .start
      registryLogins).map (fun s =>
        (s.collector.getPlayerByAccount [97]).1.map fun p => p.socketKey.socket) =
      some (some 8) := by
    decide
  obtain ⟨s, hs, hsocket⟩ := Option.map_eq_some_iff.1 hrun
  have hevents : (Registry.system.restrict Registry.KeepsAccounts).Run registryLogins s :=
    Transition.System.run_of_execute rfl hs
  exact ⟨s, hevents, registry_run hevents, hsocket⟩

/-- An account logs in on two sockets, and the second connection is closed. -/
def strandedLogin : List RegistryEvent :=
  [.addPlayer (clientOn 5) [97], .addPlayer (clientOn 6) [97], .removePlayerBySocket 6]

/-- **The first login is stranded**: it is held, and its account leads nowhere. -/
theorem not_registry_agree : ¬ ∀ (es : List RegistryEvent) (s : Registry),
    Registry.system.Run es s → s.Agree := by
  intro hall
  have hrun : (Transition.System.execute Registry.step (fun _ _ => True) .start
      strandedLogin).map (fun s => ((s.collector.players[(5 : ℤ)]?).map Player.account,
        (s.collector.getPlayerByAccount [97]).1.map Player.account)) =
      some (some [97], none) := by
    decide
  obtain ⟨s, hs, hfound⟩ := Option.map_eq_some_iff.1 hrun
  obtain ⟨hheld, hnone⟩ := Prod.mk.inj hfound
  have hevents : Registry.system.Run strandedLogin s :=
    Transition.System.run_of_execute_true rfl hs
  obtain ⟨player, hplayer, haccount⟩ := Option.map_eq_some_iff.1 hheld
  obtain ⟨q, -, -, hq⟩ := (hall strandedLogin s hevents).byAccount 5 player hplayer
  rw [haccount] at hq
  rw [hq] at hnone
  cases hnone

end MmoServer
