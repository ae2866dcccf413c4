/-
**The lock of a login.**

When an account logs in, `HandleAccountQueryOnline` sets the login key of the account in Redis, which fails if
the key is there, gives it an expiry, and reads the game key of the account.  Each of the three commands may
be carried out, or answered with an error, or not answered at all; without a reply the server reads through a
null pointer.

Main definitions:

* `MmoServer.LoginRedis` — what Redis does with the commands of a query;
* `MmoServer.RedisLogin.QueryFates`, `MmoServer.RedisLogin.QueryFates.link` — what becomes of the commands;
* `MmoServer.RedisLogin.handleAccountQueryOnline` — the handler;
* `MmoServer.RedisLogin.LockAtomic` — what it should do: acquire the login key, or leave everything;
* `MmoServer.RedisLogin.Takes` — the key that is set;
* `MmoServer.RedisLogin.CleanLock` — when it does what it should.

Main results:

* `MmoServer.RedisLogin.setnxExpire_of_takes`, `MmoServer.RedisLogin.setnxExpire_of_not_takes` — the first two
  commands;
* `MmoServer.RedisLogin.getInt_gameKey` — the third one;
* `MmoServer.lockAtomic_iff` — **when the lock is atomic**;
* `MmoServer.RedisLogin.cleanLock_iff` — what this is for an account without odd characters;
* `MmoServer.not_lockAtomic` — an account that is in the game.
-/

import MmoServer.OnlineFlag

set_option relaxedAutoImplicit false
set_option autoImplicit false

namespace MmoServer

open Hiredis

/-! ### Redis -/

/-- What Redis has under a key: a string, or a value of another type; and the seconds after which it goes. -/
structure RedisEntry where
  value : Option (List UInt8)
  expiry : Option (List UInt8)
  deriving DecidableEq

/-- The keys of Redis. -/
abbrev RedisStore := List UInt8 → Option RedisEntry

/-- **What Redis does** with the commands of a query: what stands under a key, and how `SETNX`, `EXPIRE` and `get`
read and change it. -/
structure LoginRedis (Db : Type) extends RedisServer Db where
  entry : Db → RedisStore
  lookup_eq : ∀ (db : Db) (key : List UInt8), lookup db key = (entry db key).bind RedisEntry.value
  /-- `SETNX` sets a key that is free. -/
  command_setnx : ∀ (db : Db) (key : List UInt8) (value : ℤ), entry db key = none →
    (command db (RedisCommand.setnx key value).argv).1 = .integer 1 ∧
      entry (command db (RedisCommand.setnx key value).argv).2 =
        Function.update (entry db) key (some ⟨some (decimal value), none⟩)
  command_setnx_held : ∀ (db : Db) (key : List UInt8) (value : ℤ), entry db key ≠ none →
    (command db (RedisCommand.setnx key value).argv).1 = .integer 0 ∧
      entry (command db (RedisCommand.setnx key value).argv).2 = entry db
  /-- `EXPIRE` gives a key that is there its time. -/
  command_expire : ∀ (db : Db) (key : List UInt8) (timeout : ℤ) (found : RedisEntry), 0 < timeout →
    entry db key = some found →
      (command db (RedisCommand.expire key timeout).argv).1 = .integer 1 ∧
        entry (command db (RedisCommand.expire key timeout).argv).2 =
          Function.update (entry db) key (some { found with expiry := some (decimal timeout) })
  command_get_none : ∀ (db : Db) (key : List UInt8), entry db key = none →
    command db (RedisCommand.get key).argv = (.nil, db)
  /-- A value of another type is no string. -/
  command_get_type : ∀ (db : Db) (key : List UInt8) (expiry : Option (List UInt8)),
    entry db key = some ⟨none, expiry⟩ → ∃ str, command db (RedisCommand.get key).argv = (.error str, db)
  /-- A command with another number of arguments is refused. -/
  command_setnx_arity : ∀ (db : Db) (args : List (List UInt8)), args.length ≠ 2 →
    ∃ str, command db ([83, 69, 84, 78, 88] :: args) = (.error str, db)
  command_get_arity : ∀ (db : Db) (args : List (List UInt8)), args.length ≠ 1 →
    ∃ str, command db ([103, 101, 116] :: args) = (.error str, db)

/-- A Redis that holds its entries in a function. -/
def storeRedis : LoginRedis RedisStore where
  command store args :=
    match args with
    | [name, key, timeout, value] =>
      if name = [83, 69, 84, 69, 88] then
        (.status [79, 75], Function.update store key (some ⟨some value, some timeout⟩))
      else (.error [], store)
    | [name, key, value] =>
      if name = [83, 69, 84, 78, 88] then
        match store key with
        | none => (.integer 1, Function.update store key (some ⟨some value, none⟩))
        | some _ => (.integer 0, store)
      else if name = [69, 88, 80, 73, 82, 69] then
        match store key with
        | none => (.integer 0, store)
        | some found => (.integer 1, Function.update store key (some { found with expiry := some value }))
      else (.error [], store)
    | [name, key] =>
      if name = [103, 101, 116] then
        match store key with
        | none => (.nil, store)
        | some ⟨none, _⟩ => (.error [], store)
        | some ⟨some value, _⟩ => (.string value, store)
      else if name = [100, 101, 108] then
        (.integer (if (store key).isSome then 1 else 0), Function.update store key none)
      else (.error [], store)
    | _ => (.error [], store)
  lookup store key := (store key).bind RedisEntry.value
  entry store := store
  lookup_eq _ _ := rfl
  command_setex store key value timeout _ := by simp [RedisCommand.argv]
  command_get store key value h := by
    obtain ⟨⟨value', expiry⟩, hfound, hvalue⟩ := Option.bind_eq_some_iff.1 h
    obtain rfl : value' = some value := hvalue
    simp [RedisCommand.argv, hfound]
  lookup_command store c other h := by
    cases c with
    | setex key timeout value =>
      have hne : other ≠ key := h
      simp [RedisCommand.argv, hne]
    | setnx key value =>
      have hne : other ≠ key := h
      cases hstore : store key <;> simp [RedisCommand.argv, hne, hstore]
    | expire key timeout =>
      have hne : other ≠ key := h
      cases hstore : store key <;> simp [RedisCommand.argv, hne, hstore]
    | get key =>
      rcases hstore : store key with _ | ⟨_ | value, expiry⟩ <;> simp [RedisCommand.argv, hstore]
    | del key =>
      have hne : other ≠ key := h
      simp [RedisCommand.argv, hne]
  command_setnx store key value h := by simp [RedisCommand.argv, h]
  command_setnx_held store key value h := by
    obtain ⟨found, hfound⟩ := Option.ne_none_iff_exists'.1 h
    simp [RedisCommand.argv, hfound]
  command_expire store key timeout found _ h := by simp [RedisCommand.argv, h]
  command_get_none store key h := by simp [RedisCommand.argv, h]
  command_get_type store key expiry h := ⟨[], by simp [RedisCommand.argv, h]⟩
  command_setnx_arity store args h := by
    refine ⟨[], ?_⟩
    match args with
    | [] => rfl
    | [key] => rfl
    | [key, value] => exact absurd rfl h
    | [key, timeout, value] => rfl
    | _ :: _ :: _ :: _ :: _ => rfl
  command_get_arity store args h := by
    refine ⟨[], ?_⟩
    match args with
    | [] => rfl
    | [key] => exact absurd rfl h
    | [key, value] => rfl
    | [key, timeout, value] => rfl
    | _ :: _ :: _ :: _ :: _ => rfl

/-- What becomes of a command: it is carried out, or refused with an error, or gets no reply. -/
inductive CommandFate
  | executed
  | failed (str : List UInt8)
  | unanswered
  deriving DecidableEq

namespace RedisLogin

/-- What becomes of the commands of a query. -/
structure QueryFates where
  setnx : CommandFate
  expire : CommandFate
  get : CommandFate

/-- `SOTR_Offline` and `SOTR_Online`. -/
inductive QueryAnswer
  | offline | online
  deriving DecidableEq

/-- `RedisKeyAccountOnlineLoginTimeout`. -/
def redisKeyAccountOnlineLoginTimeout : ℤ := 6 * 60

/-- The login key of an account. -/
def loginKey (account : List UInt8) : List UInt8 := redisKeyAccountOnlineLogin ++ account

/-- The game key. -/
def gameKey (account : List UInt8) : List UInt8 := redisKeyAccountOnlineGame ++ account

/-- What becomes of a command. -/
def QueryFates.fate (fates : QueryFates) (args : List (List UInt8)) : CommandFate :=
  if args.head? = some [83, 69, 84, 78, 88] then fates.setnx
  else if args.head? = some [69, 88, 80, 73, 82, 69] then fates.expire
  else fates.get

/-- The connection to Redis during a query. -/
def QueryFates.link {Db : Type} (fates : QueryFates) (redis : LoginRedis Db) : RedisLink Db := fun db args =>
  match fates.fate args with
  | .executed => redis.link db args
  | .failed str => some (.error str, db)
  | .unanswered => none

/-- `HandleAccountQueryOnline`. -/
def handleAccountQueryOnline {Db : Type} (link : RedisLink Db) (curAppId : ℤ) (account : List UInt8) (db : Db) :
    Option (QueryAnswer × Db) :=
  (setnxExpire link db (loginKey account) curAppId redisKeyAccountOnlineLoginTimeout).bind fun acquired =>
    (getInt link acquired.2 (gameKey account)).map fun game =>
      (if acquired.1 = false ∨ game.1 ≠ 0 then .online else .offline, game.2)

/-- **The lock is atomic**: the answer is offline, and the login key was free and is now set, with its expiry;
or the answer is online, and both keys of the account are as they were. -/
def LockAtomic {Db : Type} (redis : LoginRedis Db) (curAppId : ℤ) (account : List UInt8) (db : Db) :
    Option (QueryAnswer × Db) → Prop
  | none => False
  | some (.offline, after) =>
    redis.entry db (loginKey account) = none ∧
      redis.entry after (loginKey account) =
        some ⟨some (decimal curAppId), some (decimal redisKeyAccountOnlineLoginTimeout)⟩
  | some (.online, after) =>
    redis.entry after (loginKey account) = redis.entry db (loginKey account) ∧
      redis.entry after (gameKey account) = redis.entry db (gameKey account)

/-! ### When it is -/

/-- `SETNX` sets a key: hiredis reads it out of the command, it is free, and the command is carried out. -/
def Takes (fates : QueryFates) (account : List UInt8) (store : RedisStore) (key : List UInt8) : Prop :=
  innerArgs (cStr (loginKey account)) = some [key] ∧ fates.setnx = .executed ∧ store key = none

/-- The number that is read from the game key: zero if there is none. -/
def gameCount (get : CommandFate) (account : List UInt8) (store : RedisStore) : Option Int32 :=
  match get with
  | .unanswered => none
  | .failed _ => (formatCommand (cStr (gameKey account))).map fun _ => 0
  | .executed =>
    (formatCommand (cStr (gameKey account))).bind fun args =>
      match args with
      | [key] => (((store key).bind RedisEntry.value).map fun value => stoi (cStr value)).getD (some 0)
      | _ => some 0

/-- **When the lock is atomic.**  The commands can be made and get their replies, and the game key does not
hold a text that is no number.  And where a key is set: if it is the login key of the account, then `EXPIRE` is
carried out as well, and the game key holds no number but zero; if it is another key, because of odd
characters in the account, then not both of these. -/
structure CleanLock (fates : QueryFates) (account : List UInt8) (store : RedisStore) : Prop where
  readable : innerArgs (cStr (loginKey account)) ≠ none
  answered : fates.setnx ≠ .unanswered
  expires : ∀ key, Takes fates account store key → fates.expire ≠ .unanswered
  game : ∃ n, gameCount fates.get account store = some n ∧
    ∀ key, Takes fates account store key → (key = loginKey account ↔ fates.expire = .executed ∧ n = 0)

/-! ### The commands -/

variable {Db : Type} {redis : LoginRedis Db} {db : Db} {fates : QueryFates} {account : List UInt8}
  {store : RedisStore}

theorem cStr_loginKey (account : List UInt8) :
    cStr (loginKey account) = redisKeyAccountOnlineLogin ++ cStr account :=
  cStr_append (by decide) account

theorem cStr_gameKey (account : List UInt8) :
    cStr (gameKey account) = redisKeyAccountOnlineGame ++ cStr account :=
  cStr_append (by decide) account

/-- **A command with a number** behind the login key. -/
theorem formatCommand_number {name : List UInt8} (hname : name ≠ [] ∧ space ∉ name ∧ percent ∉ name)
    {text : List UInt8} (account : List UInt8) (n : ℤ)
    (htext : text = name ++ [space] ++ (cStr (loginKey account) ++ space :: decimal n)) :
    formatCommand (format text).cStr =
        (innerArgs (cStr (loginKey account))).map (fun ps => name :: (ps ++ [decimal n])) ∧
      formatCommand (format text).moved.cStr =
        (innerArgs (cStr (loginKey account))).map (fun ps => name :: (ps ++ [decimal n])) := by
  obtain ⟨hne, hspace, hpercent⟩ := decimal_plain n
  have hlong : 15 < text.length := by
    have hlength : redisKeyAccountOnlineLogin.length = 23 := rfl
    rw [htext, cStr_loginKey]
    simp only [List.length_append, List.length_cons, hlength]
    omega
  have hargs : formatCommand text =
      (innerArgs (cStr (loginKey account))).map (fun ps => name :: (ps ++ [decimal n])) := by
    rw [htext, formatCommand_name hname.1 hname.2.1 hname.2.2, formatCommand_inner hne hspace hpercent,
      Option.map_map]
    rfl
  obtain ⟨hcStr, hmoved⟩ := format_of_long hlong
  rw [hcStr, hmoved]
  exact ⟨hargs, hargs⟩

theorem formatCommand_setnx (account : List UInt8) (n : ℤ) :
    formatCommand (format (RedisCommand.setnx (loginKey account) n).text).cStr =
      (innerArgs (cStr (loginKey account))).map
        fun ps => [83, 69, 84, 78, 88] :: (ps ++ [decimal n]) := by
  have hname : ([83, 69, 84, 78, 88] : List UInt8) ≠ [] ∧ space ∉ ([83, 69, 84, 78, 88] : List UInt8) ∧
      percent ∉ ([83, 69, 84, 78, 88] : List UInt8) := by decide
  refine (formatCommand_number hname account n ?_).1
  simp [RedisCommand.text, space]

theorem formatCommand_expire (account : List UInt8) (n : ℤ) :
    formatCommand (format (RedisCommand.expire (loginKey account) n).text).moved.cStr =
      (innerArgs (cStr (loginKey account))).map
        fun ps => [69, 88, 80, 73, 82, 69] :: (ps ++ [decimal n]) := by
  have hname : ([69, 88, 80, 73, 82, 69] : List UInt8) ≠ [] ∧ space ∉ ([69, 88, 80, 73, 82, 69] : List UInt8) ∧
      percent ∉ ([69, 88, 80, 73, 82, 69] : List UInt8) := by decide
  refine (formatCommand_number hname account n ?_).2
  simp [RedisCommand.text, space]

theorem formatCommand_get (account : List UInt8) :
    formatCommand (format (RedisCommand.get (gameKey account)).text).cStr =
      (formatCommand (cStr (gameKey account))).map ([103, 101, 116] :: ·) := by
  have htext : (RedisCommand.get (gameKey account)).text = [103, 101, 116] ++ [space] ++ cStr (gameKey account) :=
    rfl
  have hlong : 15 < (RedisCommand.get (gameKey account)).text.length := by
    have hlength : redisKeyAccountOnlineGame.length = 22 := rfl
    rw [htext, cStr_gameKey]
    simp only [List.length_append, hlength]
    omega
  rw [(format_of_long hlong).1, htext]
  exact formatCommand_name (by decide) (by decide) (by decide) _

/-- The two keys are never the same. -/
theorem not_prefix_both {key : List UInt8} (hlogin : redisKeyAccountOnlineLogin <+: key)
    (hgame : redisKeyAccountOnlineGame <+: key) : False := by
  obtain h | h := List.prefix_or_prefix_of_prefix hlogin hgame
  · exact absurd h (by decide)
  · exact absurd h (by decide)

/-- The key that is set begins like a login key. -/
theorem Takes.prefix_key {key : List UInt8} (h : Takes fates account store key) :
    redisKeyAccountOnlineLogin <+: key := by
  have hargs := h.1
  rw [cStr_loginKey] at hargs
  exact prefix_of_innerArgs (by decide) (by decide) (by decide) hargs

theorem Takes.ne_gameKey {key : List UInt8} (h : Takes fates account store key) : gameKey account ≠ key := by
  rintro rfl
  exact not_prefix_both h.prefix_key (List.prefix_append _ _)

/-- What is sent for `SETNX` and `EXPIRE`. -/
theorem redisCommand_setnx (fates : QueryFates) (redis : LoginRedis Db) (db : Db) (account : List UInt8) (n : ℤ) :
    redisCommand (fates.link redis) db (format (RedisCommand.setnx (loginKey account) n).text) =
      (innerArgs (cStr (loginKey account))).bind fun ps =>
        match fates.setnx with
        | .executed => some (redis.command db ([83, 69, 84, 78, 88] :: (ps ++ [decimal n])))
        | .failed str => some (.error str, db)
        | .unanswered => none := by
  rw [redisCommand, formatCommand_setnx]
  cases innerArgs (cStr (loginKey account)) with
  | none => rfl
  | some ps =>
    simp only [Option.map_some, Option.bind_some, QueryFates.link, QueryFates.fate, List.head?_cons, if_true]
    rfl

theorem redisCommand_expire (fates : QueryFates) (redis : LoginRedis Db) (db : Db) (account : List UInt8) (n : ℤ) :
    redisCommand (fates.link redis) db (format (RedisCommand.expire (loginKey account) n).text).moved =
      (innerArgs (cStr (loginKey account))).bind fun ps =>
        match fates.expire with
        | .executed => some (redis.command db ([69, 88, 80, 73, 82, 69] :: (ps ++ [decimal n])))
        | .failed str => some (.error str, db)
        | .unanswered => none := by
  have hname : ¬ (some [69, 88, 80, 73, 82, 69] : Option (List UInt8)) = some [83, 69, 84, 78, 88] := by decide
  rw [redisCommand, formatCommand_expire]
  cases innerArgs (cStr (loginKey account)) with
  | none => rfl
  | some ps =>
    simp only [Option.map_some, Option.bind_some, QueryFates.link, QueryFates.fate, List.head?_cons, if_neg hname,
      if_true]
    rfl

theorem redisCommand_get (fates : QueryFates) (redis : LoginRedis Db) (db : Db) (account : List UInt8) :
    redisCommand (fates.link redis) db (format (RedisCommand.get (gameKey account)).text) =
      (formatCommand (cStr (gameKey account))).bind fun args =>
        match fates.get with
        | .executed => some (redis.command db ([103, 101, 116] :: args))
        | .failed str => some (.error str, db)
        | .unanswered => none := by
  have hsetnx : ¬ (some [103, 101, 116] : Option (List UInt8)) = some [83, 69, 84, 78, 88] := by decide
  have hexpire : ¬ (some [103, 101, 116] : Option (List UInt8)) = some [69, 88, 80, 73, 82, 69] := by decide
  rw [redisCommand, formatCommand_get]
  cases formatCommand (cStr (gameKey account)) with
  | none => rfl
  | some args =>
    simp only [Option.map_some, Option.bind_some, QueryFates.link, QueryFates.fate, List.head?_cons, hsetnx, hexpire,
      if_false]
    rfl

/-- **The key that is set** has the number of the app; whether it has its expiry is up to `EXPIRE`. -/
theorem setnxExpire_of_takes {key : List UInt8} (h : Takes fates account (redis.entry db) key) (curAppId : ℤ)
    {timeout : ℤ} (htimeout : 0 < timeout) :
    match fates.expire with
    | .executed =>
      ∃ db', setnxExpire (fates.link redis) db (loginKey account) curAppId timeout = some (true, db') ∧
        redis.entry db' =
          Function.update (redis.entry db) key (some ⟨some (decimal curAppId), some (decimal timeout)⟩)
    | .failed _ =>
      ∃ db', setnxExpire (fates.link redis) db (loginKey account) curAppId timeout = some (false, db') ∧
        redis.entry db' = Function.update (redis.entry db) key (some ⟨some (decimal curAppId), none⟩)
    | .unanswered => setnxExpire (fates.link redis) db (loginKey account) curAppId timeout = none := by
  obtain ⟨hargs, hsetnx, hfree⟩ := h
  obtain ⟨hreply, hentry⟩ := redis.command_setnx db key curAppId hfree
  have hfirst : redisCommand (fates.link redis) db (format (RedisCommand.setnx (loginKey account) curAppId).text) =
      some (redis.command db (RedisCommand.setnx key curAppId).argv) := by
    rw [redisCommand_setnx, hargs, hsetnx]
    rfl
  have hset : redis.entry (redis.command db (RedisCommand.setnx key curAppId).argv).2 key =
      some ⟨some (decimal curAppId), none⟩ := by
    rw [hentry, Function.update_self]
  obtain ⟨hreply', hentry'⟩ := redis.command_expire _ key timeout _ htimeout hset
  rw [setnxExpire, hfirst, Option.bind_some, if_neg (not_not.2 hreply), redisCommand_expire, hargs,
    Option.bind_some]
  cases fates.expire with
  | executed =>
    refine ⟨(redis.command (redis.command db (RedisCommand.setnx key curAppId).argv).2
      (RedisCommand.expire key timeout).argv).2, ?_, ?_⟩
    · exact congrArg (fun b => some (b, _)) (decide_eq_true hreply')
    · rw [hentry', hentry, Function.update_idem]
  | failed str => exact ⟨_, rfl, hentry⟩
  | unanswered => rfl

/-- **Where no key is set**, nothing changes. -/
theorem setnxExpire_of_not_takes (hreadable : innerArgs (cStr (loginKey account)) ≠ none)
    (hanswered : fates.setnx ≠ .unanswered) (h : ∀ key, ¬ Takes fates account (redis.entry db) key)
    (curAppId timeout : ℤ) :
    ∃ db', setnxExpire (fates.link redis) db (loginKey account) curAppId timeout = some (false, db') ∧
      redis.entry db' = redis.entry db := by
  obtain ⟨ps, hps⟩ := Option.ne_none_iff_exists'.1 hreadable
  obtain ⟨reply, db', hne, hreply, hentry⟩ : ∃ reply db', reply ≠ .integer 1 ∧
      redisCommand (fates.link redis) db (format (RedisCommand.setnx (loginKey account) curAppId).text) =
        some (reply, db') ∧ redis.entry db' = redis.entry db := by
    rw [redisCommand_setnx, hps, Option.bind_some]
    cases hsetnx : fates.setnx with
    | executed =>
      by_cases hone : ∃ key, ps = [key]
      · obtain ⟨key, rfl⟩ := hone
        have hheld : redis.entry db key ≠ none := fun hfree => h key ⟨hps, hsetnx, hfree⟩
        obtain ⟨hreply, hentry⟩ := redis.command_setnx_held db key curAppId hheld
        refine ⟨_, _, ?_, rfl, hentry⟩
        intro heq
        cases hreply.symm.trans heq
      · have hlength : (ps ++ [decimal curAppId]).length ≠ 2 := by
          intro hlength
          rw [List.length_append, List.length_singleton] at hlength
          exact hone (List.length_eq_one_iff.1 (by omega))
        obtain ⟨str, herror⟩ := redis.command_setnx_arity db _ hlength
        exact ⟨.error str, db, nofun, congrArg some herror, rfl⟩
    | failed str => exact ⟨.error str, db, nofun, rfl, rfl⟩
    | unanswered => exact absurd hsetnx hanswered
  refine ⟨db', ?_, hentry⟩
  rw [setnxExpire, hreply, Option.bind_some, if_pos hne]

/-- Where there is no command, or no reply, there is no answer. -/
theorem setnxExpire_none (redis : LoginRedis Db) (db : Db)
    (h : innerArgs (cStr (loginKey account)) = none ∨ fates.setnx = .unanswered) (curAppId timeout : ℤ) :
    setnxExpire (fates.link redis) db (loginKey account) curAppId timeout = none := by
  rw [setnxExpire, redisCommand_setnx]
  obtain hnone | hunanswered := h
  · rw [hnone]
    rfl
  · rw [hunanswered]
    cases innerArgs (cStr (loginKey account)) <;> rfl

/-- **The game key is read**, and nothing changes. -/
theorem getInt_gameKey (fates : QueryFates) (redis : LoginRedis Db) (account : List UInt8) (db : Db) :
    getInt (fates.link redis) db (gameKey account) =
      (gameCount fates.get account (redis.entry db)).map fun n => (n, db) := by
  rw [getInt, redisCommand_get]
  unfold gameCount
  cases formatCommand (cStr (gameKey account)) with
  | none => cases fates.get <;> rfl
  | some args =>
    cases fates.get with
    | unanswered => rfl
    | failed str => rfl
    | executed =>
      simp only [Option.bind_some]
      by_cases hone : ∃ key, args = [key]
      · obtain ⟨key, rfl⟩ := hone
        have hargv : ([103, 101, 116] :: [key] : List (List UInt8)) = (RedisCommand.get key).argv := rfl
        simp only [hargv]
        cases hentry : redis.entry db key with
        | none =>
          rw [redis.command_get_none db key hentry]
          rfl
        | some found =>
          obtain ⟨value, expiry⟩ := found
          cases value with
          | none =>
            obtain ⟨str, herror⟩ := redis.command_get_type db key expiry hentry
            rw [herror]
            rfl
          | some value =>
            rw [redis.command_get db key value (by rw [redis.lookup_eq, hentry]; rfl)]
            rfl
      · have hlength : args.length ≠ 1 := fun hlength => hone (List.length_eq_one_iff.1 hlength)
        obtain ⟨str, herror⟩ := redis.command_get_arity db args hlength
        rw [herror]
        cases args with
        | nil => rfl
        | cons key rest =>
          cases rest with
          | nil => exact absurd ⟨key, rfl⟩ hone
          | cons key' rest => rfl

/-- The login key does not count for the game. -/
theorem gameCount_update {key : List UInt8} (h : Takes fates account store key) (get : CommandFate)
    (entry : Option RedisEntry) :
    gameCount get account (Function.update store key entry) = gameCount get account store := by
  cases get with
  | unanswered => rfl
  | failed str => rfl
  | executed =>
    simp only [gameCount]
    cases hargs : formatCommand (cStr (gameKey account)) with
    | none => rfl
    | some args =>
      match args with
      | [] => rfl
      | [game] =>
        rw [cStr_gameKey] at hargs
        have hgame := prefix_of_formatCommand (by decide) (by decide) (by decide) hargs
        have hne : game ≠ key := by
          rintro rfl
          exact not_prefix_both h.prefix_key hgame
        simp only [Option.bind_some, Function.update_of_ne hne]
      | _ :: _ :: _ => rfl

/-! ### The lock -/

/-- A key that was set, and the answer online. -/
theorem unchanged_iff {key : List UInt8} (h : Takes fates account store key) (entry : RedisEntry) :
    (Function.update store key (some entry) (loginKey account) = store (loginKey account) ∧
        Function.update store key (some entry) (gameKey account) = store (gameKey account)) ↔
      key ≠ loginKey account := by
  constructor
  · rintro ⟨hlogin, -⟩ rfl
    rw [Function.update_self, h.2.2] at hlogin
    cases hlogin
  · intro hne
    exact ⟨Function.update_of_ne hne.symm .., Function.update_of_ne h.ne_gameKey ..⟩

/-- A key that was set, and the answer offline. -/
theorem acquired_iff {key : List UInt8} (h : Takes fates account store key) (entry : RedisEntry) :
    (store (loginKey account) = none ∧
        Function.update store key (some entry) (loginKey account) = some entry) ↔
      key = loginKey account := by
  constructor
  · rintro ⟨hfree, hset⟩
    by_contra hne
    rw [Function.update_of_ne (Ne.symm hne), hfree] at hset
    cases hset
  · rintro rfl
    exact ⟨h.2.2, Function.update_self ..⟩

/-- The condition, where a key is set. -/
theorem cleanLock_of_takes {key : List UInt8} (h : Takes fates account store key) :
    CleanLock fates account store ↔ fates.expire ≠ .unanswered ∧
      ∃ n, gameCount fates.get account store = some n ∧
        (key = loginKey account ↔ fates.expire = .executed ∧ n = 0) := by
  have hunique : ∀ key', Takes fates account store key' → key' = key := fun key' h' =>
    (List.cons.inj (Option.some.inj (h'.1.symm.trans h.1))).1
  constructor
  · intro hclean
    obtain ⟨n, hn, hgame⟩ := hclean.game
    exact ⟨hclean.expires key h, n, hn, hgame key h⟩
  · rintro ⟨hexpires, n, hn, hgame⟩
    refine { readable := ?_, answered := ?_, expires := fun _ _ => hexpires, game := ⟨n, hn, ?_⟩ }
    · rw [h.1]
      exact Option.some_ne_none _
    · rw [h.2.1]
      nofun
    · intro key' h'
      rw [hunique key' h']
      exact hgame

/-- What the handler does where a key is set. -/
theorem handle_of_takes {key : List UInt8} (h : Takes fates account (redis.entry db) key) (curAppId : ℤ) :
    LockAtomic redis curAppId account db (handleAccountQueryOnline (fates.link redis) curAppId account db) ↔
      CleanLock fates account (redis.entry db) := by
  have htimeout : 0 < redisKeyAccountOnlineLoginTimeout := by decide
  have hset := setnxExpire_of_takes h curAppId htimeout
  rw [cleanLock_of_takes h, handleAccountQueryOnline]
  cases hexpire : fates.expire with
  | unanswered =>
    rw [hexpire] at hset
    rw [hset]
    constructor
    · exact False.elim
    · intro hclean
      exact absurd rfl hclean.1
  | failed str =>
    -- the answer is online, and the key has no expiry: this must have been another account's key
    rw [hexpire] at hset
    obtain ⟨db', hset, hentry⟩ := hset
    rw [hset, Option.bind_some]
    simp only [getInt_gameKey, hentry, gameCount_update h]
    cases hcount : gameCount fates.get account (redis.entry db) with
    | none =>
      constructor
      · exact False.elim
      · rintro ⟨-, n, hn, -⟩
        cases hn
    | some n =>
      simp only [Option.map_some, true_or, if_true, LockAtomic, hentry]
      refine (unchanged_iff h _).trans ?_
      constructor
      · intro hne
        exact ⟨nofun, n, rfl, fun heq => absurd heq hne, nofun⟩
      · rintro ⟨-, n', -, hgame⟩ heq
        cases (hgame.1 heq).1
  | executed =>
    rw [hexpire] at hset
    obtain ⟨db', hset, hentry⟩ := hset
    rw [hset, Option.bind_some]
    simp only [getInt_gameKey, hentry, gameCount_update h]
    cases hcount : gameCount fates.get account (redis.entry db) with
    | none =>
      constructor
      · exact False.elim
      · rintro ⟨-, n, hn, -⟩
        cases hn
    | some n =>
      by_cases hn : n = 0
      · -- the answer is offline: the key must be the one of the account
        subst hn
        simp only [Option.map_some, Bool.true_eq_false, ne_eq, not_true_eq_false, or_self, if_false, LockAtomic, hentry]
        refine (acquired_iff h _).trans ?_
        constructor
        · intro heq
          exact ⟨nofun, 0, rfl, fun _ => ⟨trivial, rfl⟩, fun _ => heq⟩
        · rintro ⟨-, n', hn', hgame⟩
          exact hgame.2 ⟨trivial, (Option.some.inj hn').symm⟩
      · -- the answer is online, and nobody takes the key back
        simp only [Option.map_some, ne_eq, hn, not_false_iff, or_true, if_true, LockAtomic, hentry]
        refine (unchanged_iff h _).trans ?_
        constructor
        · intro hne
          exact ⟨nofun, n, rfl, fun heq => absurd heq hne, fun hboth => absurd hboth.2 hn⟩
        · rintro ⟨-, n', hn', hgame⟩ heq
          exact hn ((Option.some.inj hn').trans (hgame.1 heq).2)

/-- What the handler does where no key is set. -/
theorem handle_of_not_takes (hreadable : innerArgs (cStr (loginKey account)) ≠ none)
    (hanswered : fates.setnx ≠ .unanswered) (h : ∀ key, ¬ Takes fates account (redis.entry db) key) (curAppId : ℤ) :
    LockAtomic redis curAppId account db (handleAccountQueryOnline (fates.link redis) curAppId account db) ↔
      CleanLock fates account (redis.entry db) := by
  obtain ⟨db', hset, hentry⟩ :=
    setnxExpire_of_not_takes hreadable hanswered h curAppId redisKeyAccountOnlineLoginTimeout
  rw [handleAccountQueryOnline, hset, Option.bind_some, getInt_gameKey, hentry]
  cases hcount : gameCount fates.get account (redis.entry db) with
  | none =>
    constructor
    · exact False.elim
    · intro hclean
      obtain ⟨n, hn, -⟩ := hclean.game
      rw [hcount] at hn
      cases hn
  | some n =>
    -- the answer is online, as it should be where the login key is not free
    constructor
    · intro _
      refine { readable := hreadable, answered := hanswered, expires := ?_, game := ⟨n, hcount, ?_⟩ }
      · intro key hkey
        exact absurd hkey (h key)
      · intro key hkey
        exact absurd hkey (h key)
    · intro _
      simp only [Option.map_some, true_or, if_true, LockAtomic, hentry, and_self]

/-! ### Accounts without odd characters -/

/-- A key of such an account is one argument. -/
theorem plain_key {constant : List UInt8} (hconstant : constant ≠ [] ∧ space ∉ constant ∧ percent ∉ constant)
    (haccount : PlainAccount account) :
    constant ++ account ≠ [] ∧ space ∉ constant ++ account ∧ percent ∉ constant ++ account := by
  refine ⟨fun hnil => hconstant.1 (List.append_eq_nil_iff.1 hnil).1, ?_, ?_⟩
  · exact fun hmem => (List.mem_append.1 hmem).elim hconstant.2.1 haccount.space
  · exact fun hmem => (List.mem_append.1 hmem).elim hconstant.2.2 haccount.percent

theorem innerArgs_loginKey (haccount : PlainAccount account) :
    innerArgs (cStr (loginKey account)) = some [loginKey account] := by
  have hconstant : redisKeyAccountOnlineLogin ≠ [] ∧ space ∉ redisKeyAccountOnlineLogin ∧
      percent ∉ redisKeyAccountOnlineLogin := by decide
  obtain ⟨hne, hspace, hpercent⟩ := plain_key hconstant haccount
  rw [cStr_loginKey, (cStr_eq_iff account).2 haccount.zero]
  exact innerArgs_word hne hspace hpercent

/-- The key that is set is the login key. -/
theorem takes_iff (haccount : PlainAccount account) {key : List UInt8} :
    Takes fates account store key ↔
      key = loginKey account ∧ fates.setnx = .executed ∧ store (loginKey account) = none := by
  rw [Takes, innerArgs_loginKey haccount]
  constructor
  · rintro ⟨hkey, hsetnx, hfree⟩
    obtain rfl : loginKey account = key := by simpa using hkey
    exact ⟨rfl, hsetnx, hfree⟩
  · rintro ⟨rfl, hsetnx, hfree⟩
    exact ⟨rfl, hsetnx, hfree⟩

/-- **The lock of such an account** is atomic if, where the key is set, the rest goes well too: `EXPIRE` is
carried out, and the account is not in the game. -/
theorem cleanLock_iff (haccount : PlainAccount account) :
    CleanLock fates account store ↔ fates.setnx ≠ .unanswered ∧
      ∃ n, gameCount fates.get account store = some n ∧
        (fates.setnx = .executed → store (loginKey account) = none → fates.expire = .executed ∧ n = 0) := by
  constructor
  · intro hclean
    obtain ⟨n, hn, hgame⟩ := hclean.game
    refine ⟨hclean.answered, n, hn, fun hsetnx hfree => ?_⟩
    exact (hgame _ ((takes_iff haccount).2 ⟨rfl, hsetnx, hfree⟩)).1 rfl
  · rintro ⟨hanswered, n, hn, hgame⟩
    refine ⟨?_, hanswered, fun key hkey hexpire => ?_, n, hn, fun key hkey => ?_⟩
    · rw [innerArgs_loginKey haccount]
      exact Option.some_ne_none _
    · obtain ⟨-, hsetnx, hfree⟩ := (takes_iff haccount).1 hkey
      cases (hgame hsetnx hfree).1.symm.trans hexpire
    · obtain ⟨heq, hsetnx, hfree⟩ := (takes_iff haccount).1 hkey
      exact ⟨fun _ => hgame hsetnx hfree, fun _ => heq⟩

end RedisLogin

/-- **When the lock of a login is atomic**, for every account, every content of Redis, and whatever becomes of
the three commands. -/
theorem lockAtomic_iff {Db : Type} (redis : LoginRedis Db) (fates : RedisLogin.QueryFates) (curAppId : ℤ)
    (account : List UInt8) (db : Db) :
    RedisLogin.LockAtomic redis curAppId account db
        (RedisLogin.handleAccountQueryOnline (fates.link redis) curAppId account db) ↔
      RedisLogin.CleanLock fates account (redis.entry db) := by
  by_cases hstops : innerArgs (cStr (RedisLogin.loginKey account)) = none ∨ fates.setnx = .unanswered
  · rw [RedisLogin.handleAccountQueryOnline, RedisLogin.setnxExpire_none redis db hstops]
    refine ⟨False.elim, fun hclean => ?_⟩
    exact hstops.elim hclean.readable hclean.answered
  · obtain ⟨hreadable, hanswered⟩ := not_or.1 hstops
    by_cases htakes : ∃ key, RedisLogin.Takes fates account (redis.entry db) key
    · obtain ⟨key, hkey⟩ := htakes
      exact RedisLogin.handle_of_takes hkey curAppId
    · exact RedisLogin.handle_of_not_takes hreadable hanswered (fun key hkey => htakes ⟨key, hkey⟩) curAppId

/-- Nobody has logged in with the account `a`, and all goes well: the lock is taken. -/
theorem lockAtomic_free :
    (RedisLogin.handleAccountQueryOnline
        ((⟨.executed, .executed, .executed⟩ : RedisLogin.QueryFates).link storeRedis) 1 [97] (fun _ => none)).map
          (fun answer => (answer.1, answer.2 (RedisLogin.loginKey [97]))) =
      some (.offline, some ⟨some (decimal 1), some (decimal 360)⟩) ∧
    RedisLogin.LockAtomic storeRedis 1 [97] (fun _ => none)
      (RedisLogin.handleAccountQueryOnline
        ((⟨.executed, .executed, .executed⟩ : RedisLogin.QueryFates).link storeRedis) 1 [97] (fun _ => none)) := by
  have haccount : PlainAccount [97] := ⟨by decide, by decide, by decide⟩
  have hclean : RedisLogin.CleanLock ⟨.executed, .executed, .executed⟩ [97] (storeRedis.entry fun _ => none) :=
    (RedisLogin.cleanLock_iff haccount).2 ⟨nofun, 0, by decide +kernel, fun _ _ => ⟨rfl, rfl⟩⟩
  exact ⟨by decide +kernel, (lockAtomic_iff storeRedis _ 1 [97] _).2 hclean⟩

/-- **The lock is not always atomic**: the account `a` is in the game, the answer is online, and its login key
is set all the same. -/
theorem not_lockAtomic : ¬ ∀ (Db : Type) (redis : LoginRedis Db) (fates : RedisLogin.QueryFates) (curAppId : ℤ)
    (account : List UInt8) (db : Db), RedisLogin.LockAtomic redis curAppId account db
      (RedisLogin.handleAccountQueryOnline (fates.link redis) curAppId account db) := by
  intro h
  have haccount : PlainAccount [97] := ⟨by decide, by decide, by decide⟩
  let inGame : RedisStore := fun key => if key = RedisLogin.gameKey [97] then some ⟨some [51], none⟩ else none
  let fates : RedisLogin.QueryFates := ⟨.executed, .executed, .executed⟩
  have hfree : inGame (RedisLogin.loginKey [97]) = none := by decide
  have htakes : RedisLogin.Takes fates [97] (storeRedis.entry inGame) (RedisLogin.loginKey [97]) :=
    (RedisLogin.takes_iff haccount).2 ⟨rfl, rfl, hfree⟩
  have hclean := (RedisLogin.handle_of_takes htakes 1).1 (h _ storeRedis fates 1 [97] inGame)
  obtain ⟨-, n, hn, hgame⟩ := (RedisLogin.cleanLock_iff haccount).1 hclean
  have hcount : RedisLogin.gameCount .executed [97] inGame = some 3 := by decide +kernel
  rw [(hgame rfl hfree).2] at hn
  cases hcount.symm.trans hn

end MmoServer
