/-
**The online flag of a player.**

While a player is in the game, a flag with a version stands in Redis under its account.  The lobby begins with
version one, and each world proxy that the player is teleported to has the next version.  Every holder of the
player syncs the flag from time to time, and deletes it when the player leaves; the messages of different
holders arrive in any order.  A message with a version that is smaller than the one of the flag does nothing.

Main definitions:

* `MmoServer.stoi`, `MmoServer.getInt`, `MmoServer.handlePlayerSyncOnlineToRedis`,
  `MmoServer.handlePlayerDeleteOnlineToRedis` — the handlers at Redis;
* `MmoServer.OnlineInGame` — the component of a holder;
* `MmoServer.OnlineSession`, `MmoServer.OnlineEvent`, `MmoServer.OnlineSession.step` — the holders of a player,
  and what happens to them;
* `MmoServer.FlagSound` — what the flag should be.

Main results:

* `MmoServer.stoi_decimal` — a number is read as it was written;
* `MmoServer.flag_sync`, `MmoServer.flag_delete` — what the handlers do to the flag;
* `MmoServer.flagSound_run` — **the flag is sound** after every run of a session with a plain account;
* `MmoServer.not_flagSound` — an account with a space.
-/

import MmoServer.RedisConnector
import MmoServer.Transition

set_option relaxedAutoImplicit false
set_option autoImplicit false

namespace MmoServer

open Hiredis Transition

/-! ### Redis -/

/-- `std::stoi`, in base ten; nothing if it throws. -/
def stoi (str : List UInt8) : Option Int32 :=
  let str := str.dropWhile fun b => b = space ∨ 9 ≤ b ∧ b ≤ 13
  let signed : Bool × List UInt8 :=
    match str with
    | 45 :: rest => (true, rest)
    | 43 :: rest => (false, rest)
    | _ => (false, str)
  let digits := signed.2.takeWhile fun b => 48 ≤ b ∧ b ≤ 57
  if digits = [] then none
  else
    let value : ℕ := digits.foldl (fun n b => 10 * n + (b.toNat - 48)) 0
    let n : ℤ := if signed.1 then -value else value
    if -2 ^ 31 ≤ n ∧ n < 2 ^ 31 then some (.ofInt n) else none

/-- A Redis whose keys are absent when they are deleted, and that has nothing to say about absent keys. -/
structure OnlineRedis (Db : Type) extends RedisServer Db where
  command_get_none : ∀ (db : Db) (key : List UInt8), lookup db key = none →
    command db (RedisCommand.get key).argv = (.nil, db)
  lookup_del : ∀ (db : Db) (key : List UInt8),
    lookup (command db (RedisCommand.del key).argv).2 key = none

/-- The Redis that holds its values in a function. -/
def functionRedis : OnlineRedis (List UInt8 → Option (List UInt8)) where
  toRedisServer := functionServer
  command_get_none db key h := by
    have hdb : db key = none := h
    simp [functionServer, RedisCommand.argv, hdb]
  lookup_del db key := by simp [functionServer, RedisCommand.argv]

/-- `RedisKeyAccountOnlineGameTimeout`. -/
def redisKeyAccountOnlineGameTimeout : ℤ := 6 * 60

/-- The key of the flag. -/
def onlineKey (account : List UInt8) : List UInt8 := redisKeyAccountOnlineGame ++ account

section

variable {Db : Type} (link : RedisLink Db)

/-- `GetInt`; nothing if it reads through a null pointer, or throws. -/
def getInt (db : Db) (key : List UInt8) : Option (Int32 × Db) :=
  (redisCommand link db (format (RedisCommand.get key).text)).bind fun reply =>
    match reply.1 with
    | .integer n => some (.ofInt n, reply.2)
    | .string str => (stoi (MmoServer.cStr str)).map fun n => (n, reply.2)
    | .status _ | .error _ | .nil => some (0, reply.2)

/-- `Setex`, for an `int`: it is converted to `uint64`. -/
def setexInt (db : Db) (key : List UInt8) (value : Int32) (timeout : ℤ) : Option (Bool × Db) :=
  setex link db key (decimal (value.toInt % 2 ^ 64)) timeout

/-- `RedisGame::HandlePlayerSyncOnlineToRedis`. -/
def handlePlayerSyncOnlineToRedis (db : Db) (account : List UInt8) (version : Int32) : Option Db :=
  (getInt link db (onlineKey account)).bind fun (onlineVersion, db) =>
    if version < onlineVersion then some db
    else (setexInt link db (onlineKey account) version redisKeyAccountOnlineGameTimeout).map Prod.snd

/-- `RedisGame::HandlePlayerDeleteOnlineToRedis`. -/
def handlePlayerDeleteOnlineToRedis (db : Db) (account : List UInt8) (version : Int32) : Option Db :=
  (getInt link db (onlineKey account)).bind fun (onlineVersion, db) =>
    if version < onlineVersion then some db
    else delete link db (onlineKey account)

end

/-! ### Holders -/

/-- `PlayerComponentOnlineInGame`. -/
structure OnlineInGame where
  onlineVersion : Int32
  isReadFromeDB : Bool

namespace OnlineInGame

/-- `Awake` with a version, in the lobby. -/
def awakeVersion (version : Int32) : OnlineInGame := ⟨version, false⟩

/-- `ParserFromProto`, for a record with a version. -/
def parserFromProto (c : OnlineInGame) (version : Int32) : OnlineInGame :=
  if c.isReadFromeDB = false then c
  else if c.onlineVersion < version then { c with onlineVersion := version }
  else c

/-- `Awake`, for a player with such a record. -/
def awake (version : Int32) : OnlineInGame :=
  let c := (⟨0, true⟩ : OnlineInGame).parserFromProto version
  { c with onlineVersion := c.onlineVersion + 1 }

/-- `SerializeToProto`: the version in the record. -/
def serializeToProto (c : OnlineInGame) : Int32 := c.onlineVersion

end OnlineInGame

/-- The messages of a holder for Redis. -/
inductive OnlineMsg
  /-- `MI_PlayerSyncOnlineToRedis`. -/
  | sync (version : Int32)
  /-- `MI_PlayerDeleteOnlineToRedis`. -/
  | delete (version : Int32)

/-- A holder: its component, the version in the record that its world has, whether the player has left it, its
messages that are not handled, and whether a sync and the delete have been handled. -/
structure OnlineHolder where
  comp : OnlineInGame
  worldVersion : Int32
  gone : Bool
  queue : List OnlineMsg
  synced : Bool
  deleted : Bool

/-- The holder behind a record. -/
def OnlineHolder.awake (version : Int32) : OnlineHolder :=
  ⟨.awake version, version, false, [], false, false⟩

/-- The lobby. -/
def OnlineHolder.lobby : OnlineHolder := ⟨.awakeVersion 1, 0, false, [], false, false⟩

/-- The session of a player: its holders, the record of a teleport under way, and Redis. -/
structure OnlineSession (Db : Type) where
  holders : List OnlineHolder
  teleporting : Option Int32
  db : Db

/-- What happens in a session. -/
inductive OnlineEvent
  /-- A record comes to a holder: to the lobby from the database, to a proxy from its world. -/
  | record (i : ℕ) (version : Int32)
  | setOnlineFlag (i : ℕ)
  /-- `BackToPool`. -/
  | leave (i : ℕ)
  /-- `WorldProxyHelp::Teleport`, for the newest holder. -/
  | teleport
  /-- `WorldProxy::HandleTeleport`. -/
  | handleTeleport
  /-- The next message of a holder is handled. -/
  | handle (i : ℕ)
  deriving DecidableEq

namespace OnlineSession

variable {Db : Type} (redis : OnlineRedis Db) (account : List UInt8)

/-- Write a holder. -/
def setHolder (s : OnlineSession Db) (i : ℕ) (h : OnlineHolder) : OnlineSession Db :=
  { s with holders := s.holders.set i h }

/-- The next message of a holder is handled. -/
def handle (s : OnlineSession Db) (i : ℕ) (h : OnlineHolder) : Option (OnlineSession Db) :=
  match h.queue with
  | [] => none
  | .sync version :: rest =>
    (handlePlayerSyncOnlineToRedis redis.link s.db account version).map fun db =>
      { s with db := db }.setHolder i { h with queue := rest, synced := true }
  | .delete version :: rest =>
    (handlePlayerDeleteOnlineToRedis redis.link s.db account version).map fun db =>
      { s with db := db }.setHolder i { h with queue := rest, deleted := true }

/-- What an event does; nothing if it cannot happen, or the server fails. -/
def step (s : OnlineSession Db) : OnlineEvent → Option (OnlineSession Db)
  | .record i version =>
    s.holders[i]?.bind fun h =>
      if h.gone = false ∧ (i = 0 ∨ version = h.worldVersion) then
        some (s.setHolder i { h with comp := h.comp.parserFromProto version })
      else none
  | .setOnlineFlag i =>
    s.holders[i]?.bind fun h =>
      if h.gone then none
      else some (s.setHolder i { h with queue := h.queue ++ [.sync h.comp.onlineVersion] })
  | .leave i =>
    s.holders[i]?.bind fun h =>
      if h.gone then none
      else
        some (s.setHolder i { h with gone := true, queue := h.queue ++ [.delete h.comp.onlineVersion] })
  | .teleport =>
    s.holders.getLast?.bind fun h =>
      if h.gone ∨ s.teleporting.isSome then none
      else some { s with teleporting := some h.comp.serializeToProto }
  | .handleTeleport =>
    s.teleporting.map fun version =>
      { s with holders := s.holders ++ [.awake version], teleporting := none }
  | .handle i => s.holders[i]?.bind fun h => s.handle redis account i h

/-- A session begins in the lobby, without a flag. -/
def Starts (s : OnlineSession Db) : Prop :=
  s.holders = [.lobby] ∧ s.teleporting = none ∧ redis.lookup s.db (onlineKey account) = none

/-- The sessions of an account: the messages carry it up to its first zero byte. -/
def system : System (OnlineSession Db) OnlineEvent :=
  .ofFun (Starts redis (cStr account)) (step redis (cStr account))

/-- The version of a new holder fits into an `int`. -/
def Fits (s : OnlineSession Db) (e : OnlineEvent) : Prop :=
  e = .handleTeleport → s.teleporting ≠ some .maxValue

instance (s : OnlineSession Db) (e : OnlineEvent) : Decidable (s.Fits e) := inferInstanceAs (Decidable (_ → _))

end OnlineSession

/-- **What the flag should be.**  The versions increase, every message can be handled, the flag has the version
of a holder from its first sync to its delete if no message of a newer holder has been handled, and there is no
flag when everything is handled. -/
structure FlagSound {Db : Type} (redis : OnlineRedis Db) (account : List UInt8) (s : OnlineSession Db) :
    Prop where
  versions : s.holders.Pairwise fun h h' => h.comp.onlineVersion < h'.comp.onlineVersion
  handles : ∀ (i : ℕ) (h : OnlineHolder), s.holders[i]? = some h → h.queue ≠ [] →
    (s.step redis account (.handle i)).isSome
  present : ∀ (i : ℕ) (h : OnlineHolder), s.holders[i]? = some h → h.synced = true → h.deleted = false →
    (∀ (j : ℕ) (h' : OnlineHolder), i < j → s.holders[j]? = some h' → h'.synced = false ∧ h'.deleted = false) →
      redis.lookup s.db (onlineKey account) = some (decimal h.comp.onlineVersion.toInt)
  absent : s.teleporting = none → (∀ h ∈ s.holders, h.gone = true ∧ h.queue = []) →
    redis.lookup s.db (onlineKey account) = none

/-! ### Reading a number -/

theorem toNat_toUInt8_of_isDigit {c : Char} (h : c.isDigit = true) :
    c.toUInt8.toNat = c.toNat ∧ 48 ≤ c.toNat ∧ c.toNat ≤ 57 := by
  have hrange : 48 ≤ c.val.toNat ∧ c.val.toNat ≤ 57 := by
    simp only [Char.isDigit, Bool.and_eq_true, decide_eq_true_eq, ge_iff_le,
      UInt32.le_iff_toNat_le] at h
    exact h
  have hbyte : c.toUInt8.toNat = c.val.toNat % 256 := rfl
  have hnat : c.toNat = c.val.toNat := rfl
  omega

theorem foldl_toUInt8 (cs : List Char) (hdigits : ∀ c ∈ cs, c.isDigit = true) (n : ℕ) :
    (cs.map Char.toUInt8).foldl (fun n b => 10 * n + (b.toNat - 48)) n = Nat.ofDigitChars 10 cs n := by
  induction cs generalizing n with
  | nil => simp
  | cons c cs ih =>
    obtain ⟨hbyte, -, -⟩ := toNat_toUInt8_of_isDigit (hdigits c List.mem_cons_self)
    rw [List.map_cons, List.foldl_cons, ih (fun c hc => hdigits c (List.mem_cons_of_mem _ hc)),
      Nat.ofDigitChars_cons, hbyte]
    rfl

/-- **A number is read as it was written.** -/
theorem stoi_decimal (n : ℕ) (hn : n < 2 ^ 31) : stoi (decimal n) = some (.ofInt n) := by
  have hdigits : ∀ c ∈ Nat.toDigits 10 n, c.isDigit = true := fun c hc =>
    Nat.isDigit_of_mem_toDigits (by decide) (by decide) hc
  have hbytes : ∀ b ∈ (Nat.toDigits 10 n).map Char.toUInt8, 48 ≤ b ∧ b ≤ 57 := by
    intro b hb
    obtain ⟨c, hc, rfl⟩ := List.mem_map.1 hb
    obtain ⟨hbyte, hlow, hhigh⟩ := toNat_toUInt8_of_isDigit (hdigits c hc)
    rw [UInt8.le_iff_toNat_le, UInt8.le_iff_toNat_le, hbyte]
    exact ⟨hlow, hhigh⟩
  have hvalue := foldl_toUInt8 _ hdigits 0
  rw [Nat.ofDigitChars_toDigits (by decide) (by decide)] at hvalue
  have htext : decimal n = (Nat.toDigits 10 n).map Char.toUInt8 := by
    simp [decimal]
  have hne : (Nat.toDigits 10 n).map Char.toUInt8 ≠ [] := by
    rw [← htext]
    exact (decimal_plain n).1
  generalize (Nat.toDigits 10 n).map Char.toUInt8 = digits at hbytes hvalue htext hne
  obtain ⟨b, rest, rfl⟩ := List.exists_cons_of_ne_nil hne
  obtain ⟨hlow, hhigh⟩ := hbytes b List.mem_cons_self
  rw [UInt8.le_iff_toNat_le] at hlow hhigh
  have hspace : ¬ (b = space ∨ 9 ≤ b ∧ b ≤ 13) := by
    rintro (rfl | ⟨-, hle⟩)
    · exact absurd hlow (by decide)
    · rw [UInt8.le_iff_toNat_le] at hle
      have : (13 : UInt8).toNat = 13 := rfl
      have : (48 : UInt8).toNat = 48 := rfl
      omega
  have hsign : b ≠ 45 ∧ b ≠ 43 := by
    constructor
    · rintro rfl
      exact absurd hlow (by decide)
    · rintro rfl
      exact absurd hlow (by decide)
  have htake : (b :: rest).takeWhile (fun b => 48 ≤ b ∧ b ≤ 57) = b :: rest := by
    rw [List.takeWhile_eq_self_iff]
    intro b hb
    exact decide_eq_true (hbytes b hb)
  rw [htext, stoi]
  simp only [List.dropWhile_cons, hspace, decide_false, Bool.false_eq_true, if_false]
  split
  · rename_i heq
    exact absurd (List.cons.inj heq).1 hsign.1
  · rename_i heq
    exact absurd (List.cons.inj heq).1 hsign.2
  · rw [htake, hvalue, if_neg (List.cons_ne_nil _ _)]
    simp only [Bool.false_eq_true, if_false]
    rw [if_pos (by omega)]

/-! ### The handlers -/

/-- An account whose commands are what they should be. -/
structure PlainAccount (account : List UInt8) : Prop where
  zero : 0 ∉ account
  space : space ∉ account
  percent : percent ∉ account

section

variable {Db : Type} {redis : OnlineRedis Db} {account : List UInt8} {db : Db} {o : Option ℕ}

/-- The flag has a version, or is absent. -/
def HasFlag (redis : OnlineRedis Db) (account : List UInt8) (db : Db) (o : Option ℕ) : Prop :=
  redis.lookup db (onlineKey account) = o.map fun n => decimal n

theorem PlainAccount.zero_onlineKey (h : PlainAccount account) : 0 ∉ onlineKey account := by
  intro hmem
  rcases List.mem_append.1 hmem with hconstant | haccount
  · exact absurd hconstant (by decide)
  · exact h.zero haccount

theorem PlainAccount.commandsFaithful (h : PlainAccount account) (n : ℤ) (hzero : 0 ∉ decimal n) :
    CommandsFaithful (onlineKey account) (decimal n) n redisKeyAccountOnlineGameTimeout := by
  obtain ⟨hne, hspace, hpercent⟩ := decimal_plain n
  refine (commandsFaithful_iff h.zero_onlineKey hzero (by decide)).2 ?_
  exact (plain_account_iff (by decide) account (decimal n) n redisKeyAccountOnlineGameTimeout).2
    ⟨⟨h.space, h.percent⟩, hne, hspace, fun hmem => hpercent (List.mem_of_mem_dropLast hmem)⟩

theorem zero_notMem_decimal (n : ℕ) : 0 ∉ decimal n := by
  intro hmem
  have htext : decimal n = (Nat.toDigits 10 n).map Char.toUInt8 := by
    simp [decimal]
  rw [htext] at hmem
  obtain ⟨c, hc, hzero⟩ := List.mem_map.1 hmem
  obtain ⟨hbyte, hlow, -⟩ :=
    toNat_toUInt8_of_isDigit (Nat.isDigit_of_mem_toDigits (by decide) (by decide) hc)
  rw [hzero] at hbyte
  have hzero' : (0 : UInt8).toNat = 0 := rfl
  omega

/-- The version that is read: zero for an absent flag. -/
theorem getInt_of_hasFlag (haccount : PlainAccount account) (hflag : HasFlag redis account db o)
    (hlt : ∀ n ∈ o, n < 2 ^ 31) :
    getInt redis.link db (onlineKey account) = some (.ofInt (o.getD 0), db) := by
  have hget := (haccount.commandsFaithful 0 (by decide)).get
  rw [getInt, hget.redisCommand, Option.bind_some]
  cases o with
  | none =>
    rw [redis.command_get_none db _ hflag]
    rfl
  | some n =>
    rw [redis.command_get db _ (decimal n) hflag]
    simp only [(cStr_eq_iff _).2 (zero_notMem_decimal n), stoi_decimal n (hlt n rfl), Option.map_some,
      Option.getD_some]

theorem lt_ofInt_iff {version : Int32} {n : ℕ} (hn : n < 2 ^ 31) :
    version < .ofInt n ↔ version.toInt < n := by
  rw [Int32.lt_iff_toInt_lt, Int32.toInt_ofInt_of_le (by omega) (by omega)]

theorem getD_lt (hlt : ∀ n ∈ o, n < 2 ^ 31) : o.getD 0 < 2 ^ 31 := by
  cases o with
  | none => decide
  | some n => exact hlt n rfl

/-- **A sync** writes its version, unless the flag has a greater one. -/
theorem flag_sync (haccount : PlainAccount account) (hflag : HasFlag redis account db o)
    (hlt : ∀ n ∈ o, n < 2 ^ 31) {version : Int32} {v : ℕ} (hv : version.toInt = v) :
    ∃ db', handlePlayerSyncOnlineToRedis redis.link db account version = some db' ∧
      HasFlag redis account db' (if v < o.getD 0 then o else some v) := by
  rw [handlePlayerSyncOnlineToRedis, getInt_of_hasFlag haccount hflag hlt, Option.bind_some]
  simp only [lt_ofInt_iff (getD_lt hlt), hv, Int.ofNat_lt]
  by_cases hless : v < o.getD 0
  · rw [if_pos hless, if_pos hless]
    exact ⟨db, rfl, hflag⟩
  · have hmod : ((v : ℤ) % 2 ^ 64) = v := by
      have := Int32.toInt_lt version
      omega
    have hset := (haccount.commandsFaithful v (zero_notMem_decimal v)).setex
    obtain ⟨hreply, hlookup⟩ := redis.command_setex db (onlineKey account) (decimal v)
      redisKeyAccountOnlineGameTimeout (by decide)
    rw [if_neg hless, if_neg hless]
    refine ⟨_, ?_, hlookup⟩
    rw [setexInt, hv, hmod, setex, hset.redisCommand, Option.map_some, hreply]
    rfl

/-- **A delete** deletes the flag, unless it has a greater version. -/
theorem flag_delete (haccount : PlainAccount account) (hflag : HasFlag redis account db o)
    (hlt : ∀ n ∈ o, n < 2 ^ 31) {version : Int32} {v : ℕ} (hv : version.toInt = v) :
    ∃ db', handlePlayerDeleteOnlineToRedis redis.link db account version = some db' ∧
      HasFlag redis account db' (if v < o.getD 0 then o else none) := by
  rw [handlePlayerDeleteOnlineToRedis, getInt_of_hasFlag haccount hflag hlt, Option.bind_some]
  simp only [lt_ofInt_iff (getD_lt hlt), hv, Int.ofNat_lt]
  by_cases hless : v < o.getD 0
  · rw [if_pos hless, if_pos hless]
    exact ⟨db, rfl, hflag⟩
  · have hdel := (haccount.commandsFaithful 0 (by decide)).del
    rw [if_neg hless, if_neg hless]
    refine ⟨_, ?_, redis.lookup_del db (onlineKey account)⟩
    rw [delete, hdel.redisCommand, Option.map_some]

end

/-! ### What holds in a session -/

/-- What holds of a holder: it has its place in the chain for a version, a record that it gets changes nothing,
and its messages are syncs, with the delete behind them when the player has left. -/
structure HolderInv (i : ℕ) (h : OnlineHolder) : Prop where
  version : h.comp.onlineVersion.toInt = i + 1
  record : if i = 0 then h.comp.isReadFromeDB = false else h.worldVersion.toInt = i
  queue : ∃ n, h.queue = List.replicate n (.sync h.comp.onlineVersion) ++
    if h.gone = true ∧ h.deleted = false then [.delete h.comp.onlineVersion] else []
  deleted : h.deleted = true → h.gone = true ∧ h.queue = []

namespace HolderInv

variable {i : ℕ} {h : OnlineHolder}

theorem lobby : HolderInv 0 .lobby where
  version := by decide
  record := rfl
  queue := ⟨0, rfl⟩
  deleted := nofun

theorem awake {version : Int32} (hi : 0 < i) (hversion : version.toInt = i) (hfits : version ≠ .maxValue) :
    HolderInv i (.awake version) := by
  have hne : version.toInt ≠ 2147483647 := fun heq => hfits (Int32.toInt_inj.1 heq)
  have hlt := Int32.toInt_lt version
  have hless : (0 : Int32) < version := by
    rw [Int32.lt_iff_toInt_lt, hversion]
    have : (0 : Int32).toInt = 0 := rfl
    omega
  refine { version := ?_, record := ?_, queue := ⟨0, rfl⟩, deleted := nofun }
  · simp only [OnlineHolder.awake, OnlineInGame.awake, OnlineInGame.parserFromProto, Bool.true_eq_false,
      if_false, hless, if_true]
    rw [Int32.toInt_add, Int.bmod_eq_of_le]
    · rw [hversion]
      rfl
    · have : (1 : Int32).toInt = 1 := rfl
      omega
    · have : (1 : Int32).toInt = 1 := rfl
      omega
  · rw [if_neg (by omega)]
    exact hversion

/-- A record changes nothing: that of the database is not read, and that of the world is older. -/
theorem parserFromProto (hinv : HolderInv i h) {version : Int32} (hrecord : i = 0 ∨ version = h.worldVersion) :
    h.comp.parserFromProto version = h.comp := by
  have hversion := hinv.version
  have hloaded := hinv.record
  rw [OnlineInGame.parserFromProto]
  by_cases hzero : i = 0
  · rw [if_pos hzero] at hloaded
    rw [if_pos hloaded]
  · rw [if_neg hzero] at hloaded
    obtain rfl := hrecord.resolve_left hzero
    split
    · rfl
    · rw [if_neg]
      rw [Int32.lt_iff_toInt_lt]
      omega

theorem setOnlineFlag (hinv : HolderInv i h) (halive : h.gone = false) :
    HolderInv i { h with queue := h.queue ++ [.sync h.comp.onlineVersion] } := by
  obtain ⟨n, hqueue⟩ := hinv.queue
  refine { version := hinv.version, record := hinv.record, queue := ⟨n + 1, ?_⟩, deleted := fun hdel => ?_ }
  · simp [hqueue, halive, List.replicate_succ']
  · exact absurd (hinv.deleted hdel).1 (by simp [halive])

theorem leave (hinv : HolderInv i h) (halive : h.gone = false) :
    HolderInv i { h with gone := true, queue := h.queue ++ [.delete h.comp.onlineVersion] } := by
  obtain ⟨n, hqueue⟩ := hinv.queue
  have hdeleted : h.deleted = false := by
    by_contra hdel
    exact absurd (hinv.deleted (by simpa using hdel)).1 (by simp [halive])
  refine { version := hinv.version, record := hinv.record, queue := ⟨n, ?_⟩, deleted := fun hdel => ?_ }
  · simp [hqueue, halive, hdeleted]
  · exact absurd hdel (by simp [hdeleted])

/-- The next message is a sync, or the delete, which is the last one. -/
theorem next (hinv : HolderInv i h) {m : OnlineMsg} {rest : List OnlineMsg} (hqueue : h.queue = m :: rest) :
    h.deleted = false ∧
      (m = .sync h.comp.onlineVersion ∧ HolderInv i { h with queue := rest, synced := true } ∨
        m = .delete h.comp.onlineVersion ∧ HolderInv i { h with queue := rest, deleted := true }) := by
  have hdeleted : h.deleted = false := by
    by_contra hdel
    rw [(hinv.deleted (by simpa using hdel)).2] at hqueue
    cases hqueue
  refine ⟨hdeleted, ?_⟩
  obtain ⟨n, hform⟩ := hinv.queue
  rw [hqueue] at hform
  cases n with
  | zero =>
    rw [List.replicate_zero, List.nil_append] at hform
    split at hform
    · rename_i hgone
      obtain ⟨rfl, rfl⟩ := List.cons.inj hform
      have hafter : HolderInv i { h with queue := [], deleted := true } :=
        { version := hinv.version
          record := hinv.record
          queue := ⟨0, by simp⟩
          deleted := fun _ => ⟨hgone.1, rfl⟩ }
      exact .inr ⟨rfl, hafter⟩
    · cases hform
  | succ n =>
    rw [List.replicate_succ, List.cons_append] at hform
    obtain ⟨rfl, rfl⟩ := List.cons.inj hform
    refine .inl ⟨rfl, { version := hinv.version, record := hinv.record, queue := ⟨n, rfl⟩, deleted := ?_ }⟩
    intro hdel
    exact absurd hdel (by simp [hdeleted])

end HolderInv

namespace OnlineSession

variable {Db : Type} {redis : OnlineRedis Db} {account : List UInt8} {s t : OnlineSession Db}

/-- A sync of the holder has been handled, and its delete has not. -/
def Live (s : OnlineSession Db) (i : ℕ) : Prop :=
  ∃ h, s.holders[i]? = some h ∧ h.synced = true ∧ h.deleted = false

/-- The delete of the holder has been handled. -/
def Deleted (s : OnlineSession Db) (i : ℕ) : Prop := ∃ h, s.holders[i]? = some h ∧ h.deleted = true

/-- What holds in a session: the flag is that of a holder that is alive, and every such holder has it, or a
newer one has it or has deleted it. -/
structure SessionInv (redis : OnlineRedis Db) (account : List UInt8) (s : OnlineSession Db) : Prop where
  holders : ∀ (i : ℕ) (h : OnlineHolder), s.holders[i]? = some h → HolderInv i h
  nonempty : 0 < s.holders.length
  teleporting : ∀ version, s.teleporting = some version → version.toInt = s.holders.length
  flag : ∃ o : Option ℕ, HasFlag redis account s.db (o.map (· + 1)) ∧ (∀ k ∈ o, s.Live k) ∧
    ∀ i, s.Live i → (∃ k ∈ o, i ≤ k) ∨ ∃ k, i < k ∧ s.Deleted k

theorem getElem?_setHolder {i j : ℕ} {h : OnlineHolder} (hlt : i < s.holders.length) :
    (s.setHolder i h).holders[j]? = if i = j then some h else s.holders[j]? := by
  rw [setHolder, List.getElem?_set]
  split
  · rfl
  · rfl

theorem live_setHolder {db : Db} {i : ℕ} {h : OnlineHolder} (hlt : i < s.holders.length) {j : ℕ} :
    ({ s with db := db }.setHolder i h : OnlineSession Db).Live j ↔
      if i = j then h.synced = true ∧ h.deleted = false else s.Live j := by
  have hget : ({ s with db := db }.setHolder i h : OnlineSession Db).holders[j]? =
      if i = j then some h else s.holders[j]? := getElem?_setHolder hlt
  unfold Live
  rw [hget]
  split
  · simp
  · rfl

theorem deleted_setHolder {db : Db} {i : ℕ} {h : OnlineHolder} (hlt : i < s.holders.length) {j : ℕ} :
    ({ s with db := db }.setHolder i h : OnlineSession Db).Deleted j ↔
      if i = j then h.deleted = true else s.Deleted j := by
  have hget : ({ s with db := db }.setHolder i h : OnlineSession Db).holders[j]? =
      if i = j then some h else s.holders[j]? := getElem?_setHolder hlt
  unfold Deleted
  rw [hget]
  split
  · simp
  · rfl

/-- A holder changes, and the database: what is left is the flag. -/
theorem SessionInv.setDb (hinv : s.SessionInv redis account) {db : Db} {i : ℕ} {h h' : OnlineHolder}
    (hget : s.holders[i]? = some h) (hholder : HolderInv i h') {o : Option ℕ}
    (hflag : HasFlag redis account db (o.map (· + 1)))
    (hheld : ∀ k ∈ o, if i = k then h'.synced = true ∧ h'.deleted = false else s.Live k)
    (hlive : ∀ j, (if i = j then h'.synced = true ∧ h'.deleted = false else s.Live j) →
      (∃ k ∈ o, j ≤ k) ∨ ∃ k, j < k ∧ if i = k then h'.deleted = true else s.Deleted k) :
    ({ s with db := db }.setHolder i h' : OnlineSession Db).SessionInv redis account := by
  have hlt := (List.getElem?_eq_some_iff.1 hget).1
  refine { holders := fun j h'' hj => ?_, nonempty := ?_, teleporting := ?_, flag := ⟨o, hflag, ?_⟩ }
  · have hj' : (if i = j then some h' else s.holders[j]?) = some h'' := (getElem?_setHolder hlt).symm.trans hj
    split at hj'
    · rename_i heq
      obtain rfl := Option.some.inj hj'
      exact heq ▸ hholder
    · exact hinv.holders j h'' hj'
  · rw [OnlineSession.setHolder, List.length_set]
    exact hinv.nonempty
  · rw [OnlineSession.setHolder, List.length_set]
    exact hinv.teleporting
  · simp only [live_setHolder hlt, deleted_setHolder hlt]
    exact ⟨hheld, hlive⟩

/-- A holder that keeps what has been handled changes nothing for the flag. -/
theorem SessionInv.setHolder (hinv : s.SessionInv redis account) {i : ℕ} {h h' : OnlineHolder}
    (hget : s.holders[i]? = some h) (hholder : HolderInv i h') (hsynced : h'.synced = h.synced)
    (hdeleted : h'.deleted = h.deleted) : (s.setHolder i h').SessionInv redis account := by
  have hlive : ∀ j, (if i = j then h'.synced = true ∧ h'.deleted = false else s.Live j) ↔ s.Live j := by
    intro j
    split
    · rename_i heq
      subst heq
      simp [Live, hget, hsynced, hdeleted]
    · rfl
  have hgone : ∀ j, (if i = j then h'.deleted = true else s.Deleted j) ↔ s.Deleted j := by
    intro j
    split
    · rename_i heq
      subst heq
      simp [Deleted, hget, hdeleted]
    · rfl
  obtain ⟨o, hflag, hheld, hnewer⟩ := hinv.flag
  refine hinv.setDb hget hholder hflag (fun k hk => (hlive k).2 (hheld k hk)) fun j hj => ?_
  simp only [hgone]
  exact hnewer j ((hlive j).1 hj)

theorem SessionInv.lt (hinv : s.SessionInv redis account) {k : ℕ} (hlive : s.Live k) : k + 1 < 2 ^ 31 := by
  obtain ⟨h, hget, -, -⟩ := hlive
  have hversion := (hinv.holders k h hget).version
  have := Int32.toInt_lt h.comp.onlineVersion
  omega

/-- The flag is that of a newer holder, or of none that is newer. -/
theorem newer_or (o : Option ℕ) (i : ℕ) :
    (∃ k, o = some k ∧ i < k ∧ i + 1 < (o.map (· + 1)).getD 0) ∨
      (∀ k ∈ o, k ≤ i) ∧ ¬ i + 1 < (o.map (· + 1)).getD 0 := by
  cases o with
  | none => exact .inr ⟨nofun, by simp⟩
  | some k =>
    by_cases hlt : i < k
    · exact .inl ⟨k, rfl, hlt, by simpa using hlt⟩
    · refine .inr ⟨fun j hj => ?_, by simpa using hlt⟩
      obtain rfl := Option.some.inj hj
      omega

/-- **The next message** of a holder can be handled, and keeps what holds. -/
theorem SessionInv.handle (haccount : PlainAccount account) (hinv : s.SessionInv redis account) {i : ℕ}
    {h : OnlineHolder} (hget : s.holders[i]? = some h) (hne : h.queue ≠ []) :
    ∃ t, s.handle redis account i h = some t ∧ t.SessionInv redis account := by
  obtain ⟨m, rest, hqueue⟩ := List.exists_cons_of_ne_nil hne
  have hold := hinv.holders i h hget
  have hversion : h.comp.onlineVersion.toInt = ((i + 1 : ℕ) : ℤ) := hold.version
  obtain ⟨o, hflag, hheld, hlive⟩ := hinv.flag
  have hfits : ∀ n ∈ o.map (· + 1), n < 2 ^ 31 := by
    intro n hn
    obtain ⟨k, hk, rfl⟩ := Option.map_eq_some_iff.1 hn
    exact hinv.lt (hheld k hk)
  obtain ⟨hnot, ⟨rfl, hafter⟩ | ⟨rfl, hafter⟩⟩ := hold.next hqueue
  · -- a sync: the flag is that of the holder, or of a newer one
    obtain ⟨db, hdb, hflag'⟩ := flag_sync haccount hflag hfits hversion
    refine ⟨{ s with db := db }.setHolder i { h with queue := rest, synced := true }, ?_, ?_⟩
    · simp only [OnlineSession.handle, hqueue, hdb, Option.map_some]
    have hdeleted : ∀ k, s.Deleted k → if i = k then h.deleted = true else s.Deleted k := by
      rintro k ⟨h', hk, hdel⟩
      split
      · rename_i heq
        subst heq
        rw [hget] at hk
        obtain rfl := Option.some.inj hk
        exact hdel
      · exact ⟨h', hk, hdel⟩
    obtain ⟨k, rfl, hik, hless⟩ | ⟨hle, hless⟩ := newer_or o i
    · rw [if_pos hless] at hflag'
      refine hinv.setDb hget hafter hflag' (fun j hj => ?_) fun j hj => ?_
      · obtain rfl := Option.some.inj hj
        rw [if_neg (by omega)]
        exact hheld k rfl
      · by_cases heq : i = j
        · exact .inl ⟨k, rfl, by omega⟩
        · rw [if_neg heq] at hj
          refine (hlive j hj).imp id ?_
          rintro ⟨l, hl, hdel⟩
          exact ⟨l, hl, hdeleted l hdel⟩
    · rw [if_neg hless] at hflag'
      refine hinv.setDb (o := some i) hget hafter hflag' (fun j hj => ?_) fun j hj => ?_
      · obtain rfl := Option.some.inj hj
        rw [if_pos rfl]
        exact ⟨rfl, hnot⟩
      · by_cases heq : i = j
        · exact .inl ⟨i, rfl, by omega⟩
        · rw [if_neg heq] at hj
          rcases hlive j hj with ⟨k, hk, hjk⟩ | ⟨l, hl, hdel⟩
          · exact .inl ⟨i, rfl, hjk.trans (hle k hk)⟩
          · exact .inr ⟨l, hl, hdeleted l hdel⟩
  · -- the delete: the flag of a newer holder stays
    obtain ⟨db, hdb, hflag'⟩ := flag_delete haccount hflag hfits hversion
    refine ⟨{ s with db := db }.setHolder i { h with queue := rest, deleted := true }, ?_, ?_⟩
    · simp only [OnlineSession.handle, hqueue, hdb, Option.map_some]
    have hdeleted : ∀ k, s.Deleted k → if i = k then true = true else s.Deleted k := by
      intro k hdel
      split
      · rfl
      · exact hdel
    have hother : ∀ j, (if i = j then h.synced = true ∧ true = false else s.Live j) → i ≠ j ∧ s.Live j := by
      intro j hj
      split at hj
      · exact absurd hj.2 (by simp)
      · rename_i hne
        exact ⟨hne, hj⟩
    obtain ⟨k, rfl, hik, hless⟩ | ⟨hle, hless⟩ := newer_or o i
    · rw [if_pos hless] at hflag'
      refine hinv.setDb hget hafter hflag' (fun j hj => ?_) fun j hj => ?_
      · obtain rfl := Option.some.inj hj
        rw [if_neg (by omega)]
        exact hheld k rfl
      · refine (hlive j (hother j hj).2).imp id ?_
        rintro ⟨l, hl, hdel⟩
        exact ⟨l, hl, hdeleted l hdel⟩
    · rw [if_neg hless] at hflag'
      refine hinv.setDb (o := none) hget hafter hflag' nofun fun j hj => .inr ?_
      obtain ⟨hne, hj⟩ := hother j hj
      rcases hlive j hj with ⟨k, hk, hjk⟩ | ⟨l, hl, hdel⟩
      · have := hle k hk
        exact ⟨i, by omega, by rw [if_pos rfl]⟩
      · exact ⟨l, hl, hdeleted l hdel⟩

/-- **Every event** keeps what holds in a session. -/
theorem SessionInv.step (haccount : PlainAccount account) (hinv : s.SessionInv redis account)
    {e : OnlineEvent} (hfits : s.Fits e) (h : s.step redis account e = some t) :
    t.SessionInv redis account := by
  cases e with
  | record i version =>
    obtain ⟨holder, hget, h⟩ := Option.bind_eq_some_iff.1 h
    split at h
    · rename_i hguard
      obtain rfl := Option.some.inj h
      rw [(hinv.holders i holder hget).parserFromProto hguard.2]
      exact hinv.setHolder hget (hinv.holders i holder hget) rfl rfl
    · cases h
  | setOnlineFlag i =>
    obtain ⟨holder, hget, h⟩ := Option.bind_eq_some_iff.1 h
    split at h
    · cases h
    · rename_i halive
      obtain rfl := Option.some.inj h
      exact hinv.setHolder hget ((hinv.holders i holder hget).setOnlineFlag (by simpa using halive)) rfl rfl
  | leave i =>
    obtain ⟨holder, hget, h⟩ := Option.bind_eq_some_iff.1 h
    split at h
    · cases h
    · rename_i halive
      obtain rfl := Option.some.inj h
      exact hinv.setHolder hget ((hinv.holders i holder hget).leave (by simpa using halive)) rfl rfl
  | teleport =>
    obtain ⟨holder, hlast, h⟩ := Option.bind_eq_some_iff.1 h
    split at h
    · cases h
    · obtain rfl := Option.some.inj h
      rw [List.getLast?_eq_getElem?] at hlast
      have hversion := (hinv.holders _ holder hlast).version
      have hpos := hinv.nonempty
      refine { holders := hinv.holders, nonempty := hpos, teleporting := fun version hv => ?_, flag := hinv.flag }
      obtain rfl := Option.some.inj hv
      rw [OnlineInGame.serializeToProto, hversion]
      simp only
      omega
  | handleTeleport =>
    obtain ⟨version, hversion, rfl⟩ := Option.map_eq_some_iff.1 h
    have hmax : version ≠ .maxValue := fun heq => hfits rfl (heq ▸ hversion)
    have hnew : HolderInv s.holders.length (.awake version) :=
      .awake hinv.nonempty (hinv.teleporting version hversion) hmax
    have hget : ∀ (j : ℕ) (h : OnlineHolder), (s.holders ++ [.awake version])[j]? = some h →
        s.holders[j]? = some h ∨ j = s.holders.length ∧ h = .awake version := by
      intro j h hj
      rcases Nat.lt_trichotomy j s.holders.length with hlt | heq | hgt
      · rw [List.getElem?_append_left hlt] at hj
        exact .inl hj
      · rw [heq, List.getElem?_concat_length] at hj
        exact .inr ⟨heq, (Option.some.inj hj).symm⟩
      · rw [List.getElem?_eq_none (by simp; omega)] at hj
        cases hj
    have hkeep : ∀ (j : ℕ) (h : OnlineHolder), s.holders[j]? = some h →
        (s.holders ++ [.awake version])[j]? = some h := by
      intro j h hj
      rw [List.getElem?_append_left (List.getElem?_eq_some_iff.1 hj).1]
      exact hj
    obtain ⟨o, hflag, hheld, hlive⟩ := hinv.flag
    refine { holders := fun j h hj => ?_, nonempty := by simp, teleporting := ?_, flag := ⟨o, hflag, ?_, ?_⟩ }
    · rcases hget j h hj with hj | ⟨rfl, rfl⟩
      · exact hinv.holders j h hj
      · exact hnew
    · intro version hv
      cases hv
    · intro k hk
      obtain ⟨h, hh, hrest⟩ := hheld k hk
      exact ⟨h, hkeep k h hh, hrest⟩
    · rintro j ⟨h, hj, hsynced, hnot⟩
      rcases hget j h hj with hj | ⟨rfl, rfl⟩
      · refine (hlive j ⟨h, hj, hsynced, hnot⟩).imp id ?_
        rintro ⟨l, hl, h', hl', hdel⟩
        exact ⟨l, hl, h', hkeep l h' hl', hdel⟩
      · cases hsynced
  | handle i =>
    obtain ⟨holder, hget, h⟩ := Option.bind_eq_some_iff.1 h
    have hne : holder.queue ≠ [] := by
      intro hnil
      simp only [OnlineSession.handle, hnil] at h
      cases h
    obtain ⟨t', ht', hinv'⟩ := hinv.handle haccount hget hne
    obtain rfl := Option.some.inj (ht'.symm.trans h)
    exact hinv'

theorem SessionInv.starts (h : s.Starts redis account) : s.SessionInv redis account := by
  obtain ⟨hholders, hteleporting, hflag⟩ := h
  refine { holders := fun i h hi => ?_, nonempty := ?_, teleporting := ?_, flag := ⟨none, hflag, nofun, ?_⟩ }
  · rw [hholders] at hi
    cases i with
    | zero =>
      obtain rfl := Option.some.inj hi
      exact .lobby
    | succ i => cases hi
  · rw [hholders]
    decide
  · rw [hteleporting]
    nofun
  · rintro i ⟨h, hi, hsynced, -⟩
    rw [hholders] at hi
    cases i with
    | zero =>
      obtain rfl := Option.some.inj hi
      cases hsynced
    | succ i => cases hi

/-- What holds in a session is enough for the flag. -/
theorem SessionInv.flagSound (haccount : PlainAccount account) (hinv : s.SessionInv redis account) :
    FlagSound redis account s := by
  obtain ⟨o, hflag, hheld, hlive⟩ := hinv.flag
  refine { versions := ?_, handles := ?_, present := ?_, absent := ?_ }
  · rw [List.pairwise_iff_getElem]
    intro i j hi hj hij
    have hvi := (hinv.holders i _ (List.getElem?_eq_getElem hi)).version
    have hvj := (hinv.holders j _ (List.getElem?_eq_getElem hj)).version
    rw [Int32.lt_iff_toInt_lt]
    omega
  · intro i h hget hne
    obtain ⟨t, ht, -⟩ := hinv.handle haccount hget hne
    simp only [OnlineSession.step, hget, Option.bind_some, ht, Option.isSome_some]
  · intro i h hget hsynced hnot hnewer
    have hversion := (hinv.holders i h hget).version
    rcases hlive i ⟨h, hget, hsynced, hnot⟩ with ⟨k, hk, hik⟩ | ⟨k, hik, h', hk, hdel⟩
    · obtain ⟨h', hk', hsynced', -⟩ := hheld k hk
      obtain rfl | hlt := Nat.eq_or_lt_of_le hik
      · obtain rfl : o = some i := hk
        rw [hversion]
        exact hflag
      · exact absurd hsynced' (by simp [(hnewer k h' hlt hk').1])
    · exact absurd hdel (by simp [(hnewer k h' hik hk).2])
  · intro hteleporting hall
    cases o with
    | none => exact hflag
    | some k =>
      obtain ⟨h, hget, -, hnot⟩ := hheld k rfl
      obtain ⟨hgone, hempty⟩ := hall h (List.mem_of_getElem? hget)
      obtain ⟨n, hqueue⟩ := (hinv.holders k h hget).queue
      rw [hempty, if_pos ⟨hgone, hnot⟩] at hqueue
      exact absurd hqueue.symm (by simp)

end OnlineSession

/-- **The flag is sound** after every run, if the account has no spaces and no percent signs, and no version is
too great. -/
theorem flagSound_run {Db : Type} {redis : OnlineRedis Db} {account : List UInt8}
    (haccount : space ∉ cStr account ∧ percent ∉ cStr account) {es : List OnlineEvent} {s : OnlineSession Db}
    (hrun : ((OnlineSession.system redis account).restrict OnlineSession.Fits).Run es s) :
    FlagSound redis (cStr account) s := by
  have hplain : PlainAccount (cStr account) := ⟨(cStr_eq_iff _).1 (cStr_cStr account), haccount.1, haccount.2⟩
  have hinv : s.SessionInv redis (cStr account) := hrun.restrict_invariant (fun _ => .starts)
    fun _ _ _ hinv hfits h => hinv.step hplain hfits h
  exact hinv.flagSound hplain

/-- The lobby is left behind; its delete comes last. -/
def teleportOnce : List OnlineEvent :=
  [.setOnlineFlag 0, .handle 0, .teleport, .handleTeleport, .setOnlineFlag 1, .handle 1, .leave 0, .handle 0]

/-- The session of an account that begins. -/
def newSession : OnlineSession (List UInt8 → Option (List UInt8)) := ⟨[.lobby], none, fun _ => none⟩

/-- The flag of account `a` has the second version. -/
theorem flagSound_teleportOnce : ∃ s : OnlineSession (List UInt8 → Option (List UInt8)),
    ((OnlineSession.system functionRedis [97]).restrict OnlineSession.Fits).Run teleportOnce s ∧
      FlagSound functionRedis (cStr [97]) s ∧ functionRedis.lookup s.db (onlineKey [97]) = some (decimal 2) := by
  have hrun : (System.execute (OnlineSession.step functionRedis (cStr [97])) OnlineSession.Fits newSession
      teleportOnce).map (fun s => s.db (onlineKey [97])) = some (some (decimal 2)) := by
    decide +kernel
  obtain ⟨s, hs, hflag⟩ := Option.map_eq_some_iff.1 hrun
  have hevents : ((OnlineSession.system functionRedis [97]).restrict OnlineSession.Fits).Run teleportOnce s :=
    System.run_of_execute ⟨rfl, rfl, rfl⟩ hs
  exact ⟨s, hevents, flagSound_run (by decide) hevents, hflag⟩

/-- **The commands for account `a b`** have too many arguments, and its flag is not written. -/
theorem not_flagSound : ¬ ∀ (Db : Type) (redis : OnlineRedis Db) (account : List UInt8)
    (es : List OnlineEvent) (s : OnlineSession Db), (OnlineSession.system redis account).Run es s →
      FlagSound redis (cStr account) s := by
  intro hall
  have hrun : (System.execute (OnlineSession.step functionRedis (cStr [97, 32, 98])) (fun _ _ => True)
      newSession [.setOnlineFlag 0, .handle 0]).map
        (fun s => (s.holders.map fun h => (h.synced, h.deleted), s.db (onlineKey (cStr [97, 32, 98])))) =
      some ([(true, false)], none) := by
    decide +kernel
  obtain ⟨s, hs, hstate⟩ := Option.map_eq_some_iff.1 hrun
  obtain ⟨hholders, hflag⟩ := Prod.mk.inj hstate
  obtain ⟨h, hone, hhandled⟩ := List.map_eq_singleton_iff.1 hholders
  obtain ⟨hsynced, hdeleted⟩ := Prod.mk.inj hhandled
  have hevents : (OnlineSession.system functionRedis [97, 32, 98]).Run _ s :=
    System.run_of_execute_true ⟨rfl, rfl, rfl⟩ hs
  have hpresent := (hall _ _ _ _ _ hevents).present 0 h (by rw [hone]; rfl) hsynced hdeleted
    fun j h' hj hget => by
      rw [hone, List.getElem?_eq_none (by rw [List.length_singleton]; omega)] at hget
      cases hget
  have hnone : functionRedis.lookup s.db (onlineKey (cStr [97, 32, 98])) = none := hflag
  rw [hnone] at hpresent
  cases hpresent

end MmoServer
