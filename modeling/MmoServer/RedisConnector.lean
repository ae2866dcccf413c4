/-
**The commands that the server sends to Redis.**

A key is a constant and an account, and a value is a number, or a serialized message.  A command is
formatted by the server, and the text is given to hiredis as a format once more.  The server
formats into a `std::string`, which has room for fifteen characters from the beginning: a shorter
text is written behind the end of the empty string, where it is found as long as the string is not
moved to another one.

Main definitions:

* `MmoServer.decimal` — a number in decimal digits;
* `MmoServer.StdString`, `MmoServer.format` — the string that `strutil::format` returns;
* `MmoServer.RedisCommand` — a command, with its text and its intended arguments;
* `MmoServer.RedisServer`, `MmoServer.RedisLink` — the server that executes commands, and a
  connection to it;
* `MmoServer.setex`, `MmoServer.setnxExpire`, `MmoServer.delete`, `MmoServer.getString` — the
  functions of `RedisConnector`;
* `MmoServer.functionServer` — an instance of it;
* `MmoServer.CommandsFaithful` — all commands have their intended arguments, and a value that is
  stored is found;
* `MmoServer.Plain` — a key and a value without spaces and percent signs;
* `MmoServer.tokenInfo` — the value that is stored for a login.

Main results:

* `MmoServer.formatCommand_format_iff`, `MmoServer.formatCommand_moved_iff` — when a command has
  its intended arguments;
* `MmoServer.commandsFaithful_iff` — **the commands about a key and a value are faithful** exactly
  if both are plain;
* `MmoServer.plain_account_iff`, `MmoServer.plain_tokenInfo_iff` — what this means for the key of an
  account, and for the token that is stored for it.
-/

import MmoServer.HiredisFormat
import MmoServer.Packet

set_option relaxedAutoImplicit false
set_option autoImplicit false

namespace MmoServer

open Hiredis

/-! ### Texts -/

/-- `%d`: the decimal digits of a number, behind its sign. -/
def decimal (n : ℤ) : List UInt8 :=
  let digits := (Nat.toDigits 10 n.natAbs).map Char.toUInt8
  if n < 0 then 45 :: digits else digits

/-- A byte is no space, and no percent sign, if its value is another one. -/
theorem ne_space_of_toNat {b : UInt8} (hspace : b.toNat ≠ 32) (hpercent : b.toNat ≠ 37) :
    b ≠ space ∧ b ≠ percent := by
  constructor
  · rintro rfl
    exact hspace rfl
  · rintro rfl
    exact hpercent rfl

/-- A decimal digit is no space, and no percent sign. -/
theorem toUInt8_of_isDigit {c : Char} (h : c.isDigit = true) :
    c.toUInt8 ≠ space ∧ c.toUInt8 ≠ percent := by
  have hrange : 48 ≤ c.val.toNat ∧ c.val.toNat ≤ 57 := by
    simp only [Char.isDigit, Bool.and_eq_true, decide_eq_true_eq, ge_iff_le,
      UInt32.le_iff_toNat_le] at h
    exact h
  have hbyte : c.toUInt8.toNat = c.val.toNat % 256 := rfl
  exact ne_space_of_toNat (by omega) (by omega)

/-- A number is no empty text, and has no spaces or percent signs. -/
theorem decimal_plain (n : ℤ) : decimal n ≠ [] ∧ space ∉ decimal n ∧ percent ∉ decimal n := by
  have hdigits : ∀ b ∈ (Nat.toDigits 10 n.natAbs).map Char.toUInt8, b ≠ space ∧ b ≠ percent := by
    intro b hb
    obtain ⟨c, hc, rfl⟩ := List.mem_map.1 hb
    exact toUInt8_of_isDigit (Nat.isDigit_of_mem_toDigits (by decide) (by decide) hc)
  unfold decimal
  simp only
  split
  · refine ⟨List.cons_ne_nil _ _, fun hmem => ?_, fun hmem => ?_⟩
    · rcases List.mem_cons.1 hmem with hhead | htail
      · exact absurd hhead (by decide)
      · exact (hdigits _ htail).1 rfl
    · rcases List.mem_cons.1 hmem with hhead | htail
      · exact absurd hhead (by decide)
      · exact (hdigits _ htail).2 rfl
  · refine ⟨fun hnil => ?_, fun hmem => (hdigits _ hmem).1 rfl, fun hmem => (hdigits _ hmem).2 rfl⟩
    exact Nat.toDigits_ne_nil (List.map_eq_nil_iff.1 hnil)

/-! ### Strings that were formatted -/

/-- The characters that fit into an empty `std::string`. -/
def stringCapacity : ℕ := 15

/-- A `std::string`: its size, and the characters that `c_str` points to, up to the first zero. -/
structure StdString where
  size : ℕ
  cStr : List UInt8

/-- `strutil::format`, when `vsnprintf` has a text without zeros to write.  The string grows only
if the text is longer than its capacity, and the text is cut off to leave room for a zero. -/
def format (text : List UInt8) : StdString :=
  if stringCapacity < text.length then ⟨text.length + 1, text⟩
  else ⟨0, text.take (stringCapacity - 1)⟩

/-- What another string gets when a string is moved to it: as many characters as the string has, if
they lie inside of it. -/
def StdString.moved (s : StdString) : StdString :=
  if stringCapacity < s.size then s else ⟨s.size, s.cStr.take s.size⟩

/-! ### Commands -/

/-- A command to Redis. -/
inductive RedisCommand
  | setex (key : List UInt8) (timeout : ℤ) (value : List UInt8)
  | setnx (key : List UInt8) (value : ℤ)
  | expire (key : List UInt8) (timeout : ℤ)
  | get (key : List UInt8)
  | del (key : List UInt8)

namespace RedisCommand

/-- The key that a command is about. -/
def key : RedisCommand → List UInt8
  | setex key _ _ | setnx key _ | expire key _ | get key | del key => key

/-- The intended arguments. -/
def argv : RedisCommand → List (List UInt8)
  -- `SETEX`, `SETNX`, `EXPIRE`, `get` and `del`
  | setex key timeout value => [[83, 69, 84, 69, 88], key, decimal timeout, value]
  | setnx key value => [[83, 69, 84, 78, 88], key, decimal value]
  | expire key timeout => [[69, 88, 80, 73, 82, 69], key, decimal timeout]
  | get key => [[103, 101, 116], key]
  | del key => [[100, 101, 108], key]

/-- The text that is formatted: `SETEX %s %d %s`, `SETNX %s %d`, `EXPIRE %s %d`, `get %s` or
`del %s`. -/
def text : RedisCommand → List UInt8
  | setex key timeout value =>
    [83, 69, 84, 69, 88, 32] ++ cStr key ++ [32] ++ decimal timeout ++ [32] ++ cStr value
  | setnx key value => [83, 69, 84, 78, 88, 32] ++ cStr key ++ [32] ++ decimal value
  | expire key timeout => [69, 88, 80, 73, 82, 69, 32] ++ cStr key ++ [32] ++ decimal timeout
  | get key => [103, 101, 116, 32] ++ cStr key
  | del key => [100, 101, 108, 32] ++ cStr key

/-- **The text of a command** is its intended arguments, with a space between them. -/
theorem text_eq_joinArgs (c : RedisCommand) (hkey : 0 ∉ c.key)
    (hvalue : ∀ key timeout value, c = setex key timeout value → 0 ∉ value) :
    c.text = joinArgs c.argv := by
  have hcStr : cStr c.key = c.key := (cStr_eq_iff _).2 hkey
  cases c with
  | setex key timeout value =>
    have hcValue : cStr value = value := (cStr_eq_iff _).2 (hvalue key timeout value rfl)
    rw [RedisCommand.key] at hcStr
    simp [text, argv, joinArgs, List.intercalate_cons_cons, hcStr, hcValue, space]
  | setnx key value | expire key timeout | get key | del key =>
    rw [RedisCommand.key] at hcStr
    simp [text, argv, joinArgs, List.intercalate_cons_cons, hcStr, space]

end RedisCommand

/-- What Redis replies. -/
inductive RedisReply
  | status (str : List UInt8)
  | error (str : List UInt8)
  | integer (n : ℤ)
  | string (str : List UInt8)
  | nil
  deriving DecidableEq

/-- Redis, and what it holds under a key. -/
structure RedisServer (Db : Type) where
  command : Db → List (List UInt8) → RedisReply × Db
  lookup : Db → List UInt8 → Option (List UInt8)
  /-- It stores what it receives. -/
  command_setex : ∀ (db : Db) (key value : List UInt8) (timeout : ℤ), 0 < timeout →
    (command db (RedisCommand.setex key timeout value).argv).1 = .status [79, 75] ∧
      lookup (command db (RedisCommand.setex key timeout value).argv).2 key = some value
  command_get : ∀ (db : Db) (key value : List UInt8), lookup db key = some value →
    command db (RedisCommand.get key).argv = (.string value, db)
  /-- A command changes its own key only. -/
  lookup_command : ∀ (db : Db) (c : RedisCommand) (other : List UInt8), other ≠ c.key →
    lookup (command db c.argv).2 other = lookup db other

/-- A Redis that holds its values in a function, without their expiry. -/
def functionServer : RedisServer (List UInt8 → Option (List UInt8)) where
  command db args :=
    match args with
    | [name, key, _, value] =>
      if name = [83, 69, 84, 69, 88] then
        (.status [79, 75], fun k => if k = key then some value else db k)
      else (.error [], db)
    | [name, key, value] =>
      if name = [83, 69, 84, 78, 88] then
        if (db key).isSome then (.integer 0, db)
        else (.integer 1, fun k => if k = key then some value else db k)
      else if name = [69, 88, 80, 73, 82, 69] then
        (.integer (if (db key).isSome then 1 else 0), db)
      else (.error [], db)
    | [name, key] =>
      if name = [103, 101, 116] then
        match db key with
        | some value => (.string value, db)
        | none => (.nil, db)
      else if name = [100, 101, 108] then
        (.integer (if (db key).isSome then 1 else 0), fun k => if k = key then none else db k)
      else (.error [], db)
    | _ => (.error [], db)
  lookup db key := db key
  command_setex db key value timeout _ := by simp [RedisCommand.argv]
  command_get db key value h := by simp [RedisCommand.argv, h]
  lookup_command db c other h := by
    cases c with
    | setex key timeout value =>
      have hne : other ≠ key := h
      simp [RedisCommand.argv, hne]
    | setnx key value =>
      have hne : other ≠ key := h
      cases hdb : db key <;> simp [RedisCommand.argv, hne, hdb]
    | expire key timeout => simp [RedisCommand.argv]
    | get key => cases hdb : db key <;> simp [RedisCommand.argv, hdb]
    | del key =>
      have hne : other ≠ key := h
      simp [RedisCommand.argv, hne]

/-- A connection to Redis: the reply to the arguments of a command; nothing if there is none. -/
abbrev RedisLink (Db : Type) := Db → List (List UInt8) → Option (RedisReply × Db)

/-- The connection to a server that replies to every command. -/
def RedisServer.link {Db : Type} (redis : RedisServer Db) : RedisLink Db := fun db args =>
  some (redis.command db args)

section

variable {Db : Type} (link : RedisLink Db)

/-- `redisCommand`; no reply if the format is rejected, and then the server reads through a null
pointer. -/
def redisCommand (db : Db) (command : StdString) : Option (RedisReply × Db) :=
  (formatCommand command.cStr).bind (link db)

/-- `Setex`: whether the reply begins with `OK`.  The text is passed by value, which copies as many
characters as the string has, like a move. -/
def setex (db : Db) (key value : List UInt8) (timeout : ℤ) : Option (Bool × Db) :=
  (redisCommand link db (format (RedisCommand.setex key timeout value).text).moved).map fun reply =>
    match reply.1 with
    | .status str => (str.take 2 = [79, 75], reply.2)
    | _ => (false, reply.2)

/-- `SetnxExpire`.  The text of the second command is moved to the string of the first one. -/
def setnxExpire (db : Db) (key : List UInt8) (value timeout : ℤ) : Option (Bool × Db) :=
  (redisCommand link db (format (RedisCommand.setnx key value).text)).bind fun reply =>
    if reply.1 ≠ .integer 1 then some (false, reply.2)
    else
      (redisCommand link reply.2 (format (RedisCommand.expire key timeout).text).moved).map
        fun reply => (reply.1 = .integer 1, reply.2)

/-- `Delete`. -/
def delete (db : Db) (key : List UInt8) : Option Db :=
  (redisCommand link db (format (RedisCommand.del key).text)).map Prod.snd

/-- `GetString`. -/
def getString (db : Db) (key : List UInt8) : Option (List UInt8 × Db) :=
  (redisCommand link db (format (RedisCommand.get key).text)).map fun reply =>
    match reply.1 with
    | .string str => (MmoServer.cStr str, reply.2)
    | _ => ([], reply.2)

end

/-! ### Faithful commands -/

/-- A command has its intended arguments. -/
def RedisCommand.Intended (c : RedisCommand) (command : StdString) : Prop :=
  formatCommand command.cStr = some c.argv

/-- **The commands about a key and a value** have their intended arguments, a value that is stored
is found, and no other key is touched. -/
structure CommandsFaithful (key value : List UInt8) (n timeout : ℤ) : Prop where
  setex : (RedisCommand.setex key timeout value).Intended
    (format (RedisCommand.setex key timeout value).text).moved
  setnx : (RedisCommand.setnx key n).Intended (format (RedisCommand.setnx key n).text)
  expire : (RedisCommand.expire key timeout).Intended
    (format (RedisCommand.expire key timeout).text).moved
  get : (RedisCommand.get key).Intended (format (RedisCommand.get key).text)
  del : (RedisCommand.del key).Intended (format (RedisCommand.del key).text)
  getString_setex : ∀ (Db : Type) (redis : RedisServer Db) (db : Db), ∃ db' : Db,
    MmoServer.setex redis.link db key value timeout = some (true, db') ∧
      getString redis.link db' key = some (value, db')
  lookup_setex : ∀ (Db : Type) (redis : RedisServer Db) (db : Db) (r : Bool × Db),
    MmoServer.setex redis.link db key value timeout = some r →
      ∀ other, other ≠ key → redis.lookup r.2 other = redis.lookup db other
  lookup_setnxExpire : ∀ (Db : Type) (redis : RedisServer Db) (db : Db) (r : Bool × Db),
    setnxExpire redis.link db key n timeout = some r →
      ∀ other, other ≠ key → redis.lookup r.2 other = redis.lookup db other
  lookup_delete : ∀ (Db : Type) (redis : RedisServer Db) (db db' : Db),
    delete redis.link db key = some db' →
      ∀ other, other ≠ key → redis.lookup db' other = redis.lookup db other

/-- A key and a value without spaces and percent signs, except that the value may end with a
percent sign.  They must not make a command of fifteen characters, or too short a one where it is copied. -/
structure Plain (key value : List UInt8) (n timeout : ℤ) : Prop where
  key_ne : key ≠ []
  key_space : space ∉ key
  key_percent : percent ∉ key
  value_ne : value ≠ []
  value_space : space ∉ value
  value_percent : percent ∉ value.dropLast
  setex_length : 7 < key.length + (decimal timeout).length + value.length
  setnx_length : key.length + (decimal n).length ≠ 8
  expire_length : 7 < key.length + (decimal timeout).length
  get_length : key.length ≠ 11

/-- A text that is long enough is a string like any other. -/
theorem format_of_long {text : List UInt8} (h : 15 < text.length) :
    (format text).cStr = text ∧ (format text).moved.cStr = text := by
  have hformat : format text = ⟨text.length + 1, text⟩ := if_pos h
  have hmoved : stringCapacity < text.length + 1 := Nat.lt_succ_of_lt h
  rw [hformat, StdString.moved, if_pos hmoved]
  exact ⟨rfl, rfl⟩

/-- **A command has its intended arguments** exactly if they are split as they were joined, and are
not fifteen characters. -/
theorem formatCommand_format_iff (args : List (List UInt8)) :
    formatCommand (format (joinArgs args)).cStr = some args ↔
      ((∀ a ∈ args, a ≠ [] ∧ space ∉ a) ∧ percent ∉ (joinArgs args).dropLast) ∧
        (joinArgs args).length ≠ 15 := by
  by_cases hlength : (joinArgs args).length = 15
  · have hcut : (format (joinArgs args)).cStr = (joinArgs args).dropLast := by
      unfold format
      rw [if_neg (by rw [hlength]; decide), List.dropLast_eq_take, hlength]
      rfl
    have hjoin : joinArgs args ≠ [] := by
      intro hnil
      rw [hnil] at hlength
      cases hlength
    rw [hcut]
    exact ⟨fun h => absurd h (formatCommand_dropLast_ne hjoin), fun h => absurd hlength h.2⟩
  · have hwhole : (format (joinArgs args)).cStr = joinArgs args := by
      unfold format stringCapacity
      split
      · rfl
      · exact List.take_of_length_le (by omega)
    rw [hwhole, formatCommand_joinArgs_iff]
    exact ⟨fun h => ⟨h, hlength⟩, fun h => h.1⟩

/-- **A command that was moved** must be longer than fifteen characters. -/
theorem formatCommand_moved_iff {args : List (List UInt8)} (hargs : args ≠ []) :
    formatCommand (format (joinArgs args)).moved.cStr = some args ↔
      ((∀ a ∈ args, a ≠ [] ∧ space ∉ a) ∧ percent ∉ (joinArgs args).dropLast) ∧
        15 < (joinArgs args).length := by
  by_cases hlength : 15 < (joinArgs args).length
  · rw [(format_of_long hlength).2, formatCommand_joinArgs_iff]
    exact ⟨fun h => ⟨h, hlength⟩, fun h => h.1⟩
  · have hnil : (format (joinArgs args)).moved.cStr = [] := by
      unfold StdString.moved format stringCapacity
      rw [if_neg hlength, if_neg (by simp), List.take_zero]
    rw [hnil]
    exact ⟨fun h => absurd (Option.some.inj h).symm hargs, fun h => absurd h.2 hlength⟩


/-! ### When the commands are faithful -/

section

variable {Db : Type} {redis : RedisServer Db} {db : Db} {key value : List UInt8} {n timeout : ℤ}

/-- A command that has its intended arguments is executed as intended. -/
theorem RedisCommand.Intended.redisCommand {c : RedisCommand} {command : StdString}
    (h : c.Intended command) :
    MmoServer.redisCommand redis.link db command = some (redis.command db c.argv) := by
  unfold MmoServer.redisCommand
  rw [show formatCommand command.cStr = some c.argv from h, Option.bind_some]
  rfl

/-- A value that is stored by the intended command is found by the intended command. -/
theorem getString_setex_of_intended (htimeout : 0 < timeout) (hvalue : 0 ∉ value)
    (hsetex : (RedisCommand.setex key timeout value).Intended
      (format (RedisCommand.setex key timeout value).text).moved)
    (hget : (RedisCommand.get key).Intended (format (RedisCommand.get key).text)) :
    ∃ db' : Db, setex redis.link db key value timeout = some (true, db') ∧
      getString redis.link db' key = some (value, db') := by
  obtain ⟨hreply, hlookup⟩ := redis.command_setex db key value timeout htimeout
  refine ⟨(redis.command db (RedisCommand.setex key timeout value).argv).2, ?_, ?_⟩
  · unfold setex
    rw [hsetex.redisCommand, Option.map_some, hreply]
    rfl
  · unfold getString
    rw [hget.redisCommand, Option.map_some, redis.command_get _ key value hlookup]
    exact congrArg (fun v => some (v, _)) ((cStr_eq_iff _).2 hvalue)

/-- The intended `SETEX` leaves all other keys. -/
theorem lookup_setex_of_intended {r : Bool × Db}
    (hsetex : (RedisCommand.setex key timeout value).Intended
      (format (RedisCommand.setex key timeout value).text).moved)
    (h : setex redis.link db key value timeout = some r) {other : List UInt8} (hother : other ≠ key) :
    redis.lookup r.2 other = redis.lookup db other := by
  have hframe := redis.lookup_command db (RedisCommand.setex key timeout value) other hother
  unfold setex at h
  rw [hsetex.redisCommand, Option.map_some] at h
  obtain rfl := Option.some.inj h
  rw [← hframe]
  split <;> rfl

/-- The intended `SETNX` and `EXPIRE` leave all other keys. -/
theorem lookup_setnxExpire_of_intended {r : Bool × Db}
    (hsetnx : (RedisCommand.setnx key n).Intended (format (RedisCommand.setnx key n).text))
    (hexpire : (RedisCommand.expire key timeout).Intended
      (format (RedisCommand.expire key timeout).text).moved)
    (h : setnxExpire redis.link db key n timeout = some r) {other : List UInt8} (hother : other ≠ key) :
    redis.lookup r.2 other = redis.lookup db other := by
  have hfirst := redis.lookup_command db (RedisCommand.setnx key n) other hother
  unfold setnxExpire at h
  rw [hsetnx.redisCommand, Option.bind_some] at h
  split at h
  · rw [← Option.some.inj h]
    exact hfirst
  · rw [hexpire.redisCommand, Option.map_some] at h
    rw [← Option.some.inj h, ← hfirst]
    exact redis.lookup_command _ (RedisCommand.expire key timeout) other hother

/-- The intended `DEL` leaves all other keys. -/
theorem lookup_delete_of_intended {db' : Db}
    (hdel : (RedisCommand.del key).Intended (format (RedisCommand.del key).text))
    (h : delete redis.link db key = some db') {other : List UInt8} (hother : other ≠ key) :
    redis.lookup db' other = redis.lookup db other := by
  unfold delete at h
  rw [hdel.redisCommand, Option.map_some] at h
  rw [← Option.some.inj h]
  exact redis.lookup_command db (RedisCommand.del key) other hother

end

section

variable {key value : List UInt8} {n timeout : ℤ}

/-- **When `SETEX` has its intended arguments.** -/
theorem setex_intended_iff (hkey : 0 ∉ key) (hvalue : 0 ∉ value) :
    (RedisCommand.setex key timeout value).Intended
        (format (RedisCommand.setex key timeout value).text).moved ↔
      (key ≠ [] ∧ space ∉ key ∧ percent ∉ key) ∧
        (value ≠ [] ∧ space ∉ value ∧ percent ∉ value.dropLast) ∧
          7 < key.length + (decimal timeout).length + value.length := by
  obtain ⟨hne, hspace, hpercent⟩ := decimal_plain timeout
  have htext : (RedisCommand.setex key timeout value).text =
      joinArgs (RedisCommand.setex key timeout value).argv :=
    RedisCommand.text_eq_joinArgs _ hkey fun k t v heq => by cases heq; exact hvalue
  unfold RedisCommand.Intended
  have hargs : (RedisCommand.setex key timeout value).argv ≠ [] := List.cons_ne_nil _ _
  rw [htext, formatCommand_moved_iff hargs, length_joinArgs]
  by_cases hempty : value = []
  · subst hempty
    simp [RedisCommand.argv]
  · have hargv : (RedisCommand.setex key timeout value).argv =
        [[83, 69, 84, 69, 88], key, decimal timeout] ++ [value] := rfl
    rw [hargv, percent_notMem_dropLast_joinArgs _ hempty]
    have hname : space ∉ [83, 69, 84, 69, 88] ∧ percent ∉ [83, 69, 84, 69, 88] := by decide
    simp only [List.cons_append, List.nil_append, List.forall_mem_cons, List.map_cons,
      List.map_nil, List.sum_cons, List.sum_nil, List.length_cons, List.length_nil]
    constructor
    · rintro ⟨⟨⟨-, hk, -, hv, -⟩, ⟨-, hpk, -⟩, hpv⟩, hlength⟩
      exact ⟨⟨hk.1, hk.2, hpk⟩, ⟨hv.1, hv.2, hpv⟩, by omega⟩
    · rintro ⟨⟨hk, hsk, hpk⟩, ⟨hv, hsv, hpv⟩, hlength⟩
      refine ⟨⟨⟨⟨by decide, hname.1⟩, ⟨hk, hsk⟩, ⟨hne, hspace⟩, ⟨hv, hsv⟩, by simp⟩,
        ⟨hname.2, hpk, hpercent, by simp⟩, hpv⟩, by omega⟩

/-- The name of a command, a key and a number can be split exactly if the key can be. -/
theorem splits_number_iff {name : List UInt8} (hname : name ≠ [] ∧ space ∉ name ∧ percent ∉ name)
    (k : ℤ) :
    ((∀ a ∈ [name, key, decimal k], a ≠ [] ∧ space ∉ a) ∧
        percent ∉ (joinArgs [name, key, decimal k]).dropLast) ↔
      key ≠ [] ∧ space ∉ key ∧ percent ∉ key := by
  obtain ⟨hne, hspace, hpercent⟩ := decimal_plain k
  have hargs : [name, key, decimal k] = [name, key] ++ [decimal k] := rfl
  have hlast : percent ∉ (decimal k).dropLast := fun hmem => hpercent (List.mem_of_mem_dropLast hmem)
  rw [hargs, percent_notMem_dropLast_joinArgs _ hne]
  simp only [List.cons_append, List.nil_append, List.forall_mem_cons]
  constructor
  · rintro ⟨⟨-, hk, -⟩, ⟨-, hpk, -⟩, -⟩
    exact ⟨hk.1, hk.2, hpk⟩
  · rintro ⟨hk, hsk, hpk⟩
    exact ⟨⟨⟨hname.1, hname.2.1⟩, ⟨hk, hsk⟩, ⟨hne, hspace⟩, by simp⟩,
      ⟨hname.2.2, hpk, by simp⟩, hlast⟩

/-- The name of a command and a key without a percent sign can be split exactly if the key has no
space. -/
theorem splits_key_iff {name : List UInt8} (hname : name ≠ [] ∧ space ∉ name ∧ percent ∉ name)
    (hkey : percent ∉ key) :
    ((∀ a ∈ [name, key], a ≠ [] ∧ space ∉ a) ∧ percent ∉ (joinArgs [name, key]).dropLast) ↔
      key ≠ [] ∧ space ∉ key := by
  have hlast : percent ∉ key.dropLast := fun hmem => hkey (List.mem_of_mem_dropLast hmem)
  have hargs : [name, key] = [name] ++ [key] := rfl
  constructor
  · intro h
    exact h.1 key (by simp)
  · intro hk
    rw [hargs, percent_notMem_dropLast_joinArgs _ hk.1]
    simp only [List.cons_append, List.nil_append, List.forall_mem_cons]
    exact ⟨⟨⟨hname.1, hname.2.1⟩, hk, by simp⟩, ⟨hname.2.2, by simp⟩, hlast⟩

/-- The characters of a name, a key and a number with spaces between them. -/
theorem length_joinArgs_number (name : List UInt8) (k : ℤ) :
    (joinArgs [name, key, decimal k]).length =
      name.length + key.length + (decimal k).length + 2 := by
  rw [length_joinArgs]
  simp only [List.map_cons, List.map_nil, List.sum_cons, List.sum_nil, List.length_cons,
    List.length_nil]
  omega

/-- **When `SETNX` has its intended arguments.** -/
theorem setnx_intended_iff (hkey : 0 ∉ key) :
    (RedisCommand.setnx key n).Intended (format (RedisCommand.setnx key n).text) ↔
      (key ≠ [] ∧ space ∉ key ∧ percent ∉ key) ∧ key.length + (decimal n).length ≠ 8 := by
  have htext := RedisCommand.text_eq_joinArgs (.setnx key n) hkey fun k t v heq => by cases heq
  have hargv : (RedisCommand.setnx key n).argv = [[83, 69, 84, 78, 88], key, decimal n] := rfl
  unfold RedisCommand.Intended
  rw [htext, formatCommand_format_iff, hargv, splits_number_iff (by decide),
    length_joinArgs_number]
  refine and_congr_right fun _ => not_congr ?_
  simp only [List.length_cons, List.length_nil]
  omega

/-- **When `EXPIRE` has its intended arguments.** -/
theorem expire_intended_iff (hkey : 0 ∉ key) :
    (RedisCommand.expire key timeout).Intended
        (format (RedisCommand.expire key timeout).text).moved ↔
      (key ≠ [] ∧ space ∉ key ∧ percent ∉ key) ∧ 7 < key.length + (decimal timeout).length := by
  have htext := RedisCommand.text_eq_joinArgs (.expire key timeout) hkey fun k t v heq => by
    cases heq
  have hargv : (RedisCommand.expire key timeout).argv =
      [[69, 88, 80, 73, 82, 69], key, decimal timeout] := rfl
  unfold RedisCommand.Intended
  rw [htext, hargv, formatCommand_moved_iff (List.cons_ne_nil _ _), splits_number_iff (by decide),
    length_joinArgs_number]
  refine and_congr_right fun _ => ?_
  simp only [List.length_cons, List.length_nil]
  omega

/-- **When a command of a key has its intended arguments**, for a key without a percent sign. -/
theorem key_intended_iff {c : RedisCommand} {name : List UInt8} (htext : c.text = joinArgs c.argv)
    (hargv : c.argv = [name, key]) (hname : name ≠ [] ∧ space ∉ name ∧ percent ∉ name)
    (hthree : name.length = 3) (hpercent : percent ∉ key) :
    c.Intended (format c.text) ↔ (key ≠ [] ∧ space ∉ key) ∧ key.length ≠ 11 := by
  unfold RedisCommand.Intended
  rw [htext, formatCommand_format_iff, hargv, splits_key_iff hname hpercent, length_joinArgs]
  refine and_congr_right fun _ => not_congr ?_
  simp only [List.map_cons, List.map_nil, List.sum_cons, List.sum_nil, List.length_cons,
    List.length_nil, hthree]
  omega

theorem get_intended_iff (hkey : 0 ∉ key) (hpercent : percent ∉ key) :
    (RedisCommand.get key).Intended (format (RedisCommand.get key).text) ↔
      (key ≠ [] ∧ space ∉ key) ∧ key.length ≠ 11 :=
  key_intended_iff (RedisCommand.text_eq_joinArgs (.get key) hkey fun k t v heq => by cases heq) rfl
    (by decide) rfl hpercent

theorem del_intended_iff (hkey : 0 ∉ key) (hpercent : percent ∉ key) :
    (RedisCommand.del key).Intended (format (RedisCommand.del key).text) ↔
      (key ≠ [] ∧ space ∉ key) ∧ key.length ≠ 11 :=
  key_intended_iff (RedisCommand.text_eq_joinArgs (.del key) hkey fun k t v heq => by cases heq) rfl
    (by decide) rfl hpercent

/-- **The commands about a key and a value** are faithful exactly if both are plain. -/
theorem commandsFaithful_iff (hkey : 0 ∉ key) (hvalue : 0 ∉ value) (htimeout : 0 < timeout) :
    CommandsFaithful key value n timeout ↔ Plain key value n timeout := by
  constructor
  · intro h
    obtain ⟨⟨hne, hspace, hpercent⟩, ⟨hvne, hvspace, hvpercent⟩, hsetex⟩ :=
      (setex_intended_iff hkey hvalue).1 h.setex
    exact
      { key_ne := hne
        key_space := hspace
        key_percent := hpercent
        value_ne := hvne
        value_space := hvspace
        value_percent := hvpercent
        setex_length := hsetex
        setnx_length := ((setnx_intended_iff hkey).1 h.setnx).2
        expire_length := ((expire_intended_iff hkey).1 h.expire).2
        get_length := ((get_intended_iff hkey hpercent).1 h.get).2 }
  · intro h
    have hsplit := And.intro h.key_ne (And.intro h.key_space h.key_percent)
    have hsetex := (setex_intended_iff hkey hvalue).2
      ⟨hsplit, ⟨h.value_ne, h.value_space, h.value_percent⟩, h.setex_length⟩
    have hsetnx := (setnx_intended_iff hkey).2 ⟨hsplit, h.setnx_length⟩
    have hexpire := (expire_intended_iff hkey).2 ⟨hsplit, h.expire_length⟩
    have hget := (get_intended_iff hkey h.key_percent).2 ⟨⟨h.key_ne, h.key_space⟩, h.get_length⟩
    have hdel := (del_intended_iff hkey h.key_percent).2 ⟨⟨h.key_ne, h.key_space⟩, h.get_length⟩
    exact
      { setex := hsetex
        setnx := hsetnx
        expire := hexpire
        get := hget
        del := hdel
        getString_setex := fun _ _ _ => getString_setex_of_intended htimeout hvalue hsetex hget
        lookup_setex := fun _ _ _ _ hrun _ => lookup_setex_of_intended hsetex hrun
        lookup_setnxExpire := fun _ _ _ _ hrun _ =>
          lookup_setnxExpire_of_intended hsetnx hexpire hrun
        lookup_delete := fun _ _ _ _ hrun _ => lookup_delete_of_intended hdel hrun }

/-- A key and a value that are plain: `engine::token::a` and `v`. -/
theorem commandsFaithful_token :
    CommandsFaithful [101, 110, 103, 105, 110, 101, 58, 58, 116, 111, 107, 101, 110, 58, 58, 97]
      [118] 1 120 :=
  (commandsFaithful_iff (by decide) (by decide) (by decide)).2
    { key_ne := by decide
      key_space := by decide
      key_percent := by decide
      value_ne := by decide
      value_space := by decide
      value_percent := by decide
      setex_length := by decide
      setnx_length := by decide
      expire_length := by decide
      get_length := by decide }

end

/-! ### The keys and values of the server -/

/-- `RedisKeyAccountTokey`: `engine::token::`. -/
def redisKeyAccountTokey : List UInt8 :=
  [101, 110, 103, 105, 110, 101, 58, 58, 116, 111, 107, 101, 110, 58, 58]

/-- `RedisKeyAccountOnlineLogin`: `engine::online::login::`. -/
def redisKeyAccountOnlineLogin : List UInt8 :=
  [101, 110, 103, 105, 110, 101, 58, 58, 111, 110, 108, 105, 110, 101, 58, 58, 108, 111, 103, 105,
    110, 58, 58]

/-- `RedisKeyAccountOnlineGame`: `engine::online::game::`. -/
def redisKeyAccountOnlineGame : List UInt8 :=
  [101, 110, 103, 105, 110, 101, 58, 58, 111, 110, 108, 105, 110, 101, 58, 58, 103, 97, 109, 101,
    58, 58]

/-- **The key of an account** is long enough, so that only spaces and percent signs matter. -/
theorem plain_account_iff {constant : List UInt8}
    (hconstant : constant ∈ [redisKeyAccountTokey, redisKeyAccountOnlineLogin,
      redisKeyAccountOnlineGame]) (account value : List UInt8) (n timeout : ℤ) :
    Plain (constant ++ account) value n timeout ↔
      (space ∉ account ∧ percent ∉ account) ∧
        value ≠ [] ∧ space ∉ value ∧ percent ∉ value.dropLast := by
  have hgood : 12 ≤ constant.length ∧ space ∉ constant ∧ percent ∉ constant := by
    revert constant
    decide
  obtain ⟨hlength, hspace, hpercent⟩ := hgood
  have hkey : 12 ≤ (constant ++ account).length := by
    rw [List.length_append]
    omega
  constructor
  · intro h
    exact ⟨⟨fun hmem => h.key_space (List.mem_append_right _ hmem),
      fun hmem => h.key_percent (List.mem_append_right _ hmem)⟩, h.value_ne, h.value_space,
      h.value_percent⟩
  · rintro ⟨⟨haspace, hapercent⟩, hvne, hvspace, hvpercent⟩
    exact
      { key_ne := fun hnil => by rw [hnil] at hkey; exact absurd hkey (by decide)
        key_space := fun hmem => (List.mem_append.1 hmem).elim hspace haspace
        key_percent := fun hmem => (List.mem_append.1 hmem).elim hpercent hapercent
        value_ne := hvne
        value_space := hvspace
        value_percent := hvpercent
        setex_length := by omega
        setnx_length := by omega
        expire_length := by omega
        get_length := by omega }

/-- A number as a protobuf varint. -/
def varint (n : ℕ) : List UInt8 :=
  if n < 128 then [UInt8.ofNat n] else UInt8.ofNat (128 + n % 128) :: varint (n / 128)

/-- A serialized `TokenInfo`, with a token of less than 128 characters. -/
def tokenInfo (token : List UInt8) (playerSn : ℕ) : List UInt8 :=
  (if token = [] then [] else [10, UInt8.ofNat token.length] ++ token) ++
    if playerSn = 0 then [] else 16 :: varint playerSn

/-- The byte of a number that is not the last one is no ASCII character. -/
theorem ofNat_ne_of_le {n : ℕ} (h : 128 ≤ n) (hn : n < 256) :
    UInt8.ofNat n ≠ space ∧ UInt8.ofNat n ≠ percent := by
  have hbyte : (UInt8.ofNat n).toNat = n := by
    rw [UInt8.toNat_ofNat']
    omega
  exact ne_space_of_toNat (by omega) (by omega)

/-- A number has a space in its varint exactly if its highest digit to the base of 128 is 32. -/
theorem space_mem_varint_iff (n : ℕ) : space ∈ varint n ↔ ∃ k, n / 128 ^ k = 32 := by
  induction n using varint.induct with
  | case1 n hn =>
    rw [varint, if_pos hn, List.mem_singleton]
    constructor
    · intro hspace
      refine ⟨0, ?_⟩
      have hbyte := congrArg UInt8.toNat hspace
      rw [UInt8.toNat_ofNat'] at hbyte
      have hval : space.toNat = 32 := rfl
      omega
    · rintro ⟨k, hk⟩
      cases k with
      | zero =>
        rw [pow_zero, Nat.div_one] at hk
        rw [hk]
        rfl
      | succ k =>
        rw [pow_succ', ← Nat.div_div_eq_div_mul, Nat.div_eq_of_lt hn, Nat.zero_div] at hk
        cases hk
  | case2 n hn ih =>
    have hhead := (ofNat_ne_of_le (n := 128 + n % 128) (by omega) (by omega)).1
    rw [varint, if_neg hn, List.mem_cons, ih]
    constructor
    · rintro (hspace | ⟨k, hk⟩)
      · exact absurd hspace.symm hhead
      · refine ⟨k + 1, ?_⟩
        rw [pow_succ', ← Nat.div_div_eq_div_mul, hk]
    · rintro ⟨k, hk⟩
      cases k with
      | zero =>
        rw [pow_zero, Nat.div_one] at hk
        omega
      | succ k =>
        rw [pow_succ', ← Nat.div_div_eq_div_mul] at hk
        exact .inr ⟨k, hk⟩

/-- A varint has no percent sign but the last byte. -/
theorem percent_notMem_dropLast_varint (n : ℕ) :
    varint n ≠ [] ∧ percent ∉ (varint n).dropLast := by
  induction n using varint.induct with
  | case1 n hn =>
    rw [varint, if_pos hn]
    exact ⟨List.cons_ne_nil _ _, List.not_mem_nil⟩
  | case2 n hn ih =>
    have hhead := (ofNat_ne_of_le (n := 128 + n % 128) (by omega) (by omega)).2
    rw [varint, if_neg hn, List.dropLast_cons_of_ne_nil ih.1]
    exact ⟨List.cons_ne_nil _ _, fun hmem => (List.mem_cons.1 hmem).elim (Ne.symm hhead) ih.2⟩

/-- **The token of an account** is stored faithfully exactly if the account has no space and no
percent sign, and the number of the player does not begin with the digit 32. -/
theorem plain_tokenInfo_iff {token : List UInt8} (hlength : token.length = 36)
    (hspace : space ∉ token) (hpercent : percent ∉ token) (account : List UInt8) (playerSn : ℕ)
    (n timeout : ℤ) :
    Plain (redisKeyAccountTokey ++ account) (tokenInfo token playerSn) n timeout ↔
      (space ∉ account ∧ percent ∉ account) ∧ ∀ k, playerSn / 128 ^ k ≠ 32 := by
  have hne : token ≠ [] := by
    rintro rfl
    cases hlength
  have htoken : space ∉ [10, UInt8.ofNat token.length] ++ token ∧
      percent ∉ [10, UInt8.ofNat token.length] ++ token := by
    rw [hlength]
    refine ⟨fun hmem => ?_, fun hmem => ?_⟩
    · exact (List.mem_append.1 hmem).elim (by decide) hspace
    · exact (List.mem_append.1 hmem).elim (by decide) hpercent
  rw [plain_account_iff (by simp)]
  refine and_congr_right fun _ => ?_
  unfold tokenInfo
  rw [if_neg hne]
  by_cases hzero : playerSn = 0
  · subst hzero
    rw [if_pos rfl, List.append_nil]
    refine ⟨fun _ k hk => ?_, fun _ => ⟨List.cons_ne_nil _ _, htoken.1, fun hmem =>
      htoken.2 (List.mem_of_mem_dropLast hmem)⟩⟩
    rw [Nat.zero_div] at hk
    cases hk
  · obtain ⟨hvne, hvpercent⟩ := percent_notMem_dropLast_varint playerSn
    have hsn : ¬ percent = 16 := by decide
    have hspace16 : ¬ space = 16 := by decide
    rw [if_neg hzero, List.dropLast_append_of_ne_nil (List.cons_ne_nil _ _),
      List.dropLast_cons_of_ne_nil hvne, ← not_exists, ← space_mem_varint_iff]
    constructor
    · rintro ⟨-, hnot, -⟩ hmem
      exact hnot (List.mem_append_right _ (List.mem_cons_of_mem _ hmem))
    · intro hnot
      refine ⟨List.cons_ne_nil _ _, fun hmem => ?_, fun hmem => ?_⟩
      · rcases List.mem_append.1 hmem with hleft | hright
        · exact htoken.1 hleft
        · exact (List.mem_cons.1 hright).elim hspace16 hnot
      · rcases List.mem_append.1 hmem with hleft | hright
        · exact htoken.2 hleft
        · exact (List.mem_cons.1 hright).elim hsn hvpercent

/-- The player with the number 32: the last byte of the value is a space, and is lost. -/
theorem not_commandsFaithful_tokenInfo :
    ¬ CommandsFaithful (redisKeyAccountTokey ++ [97]) (tokenInfo (List.replicate 36 48) 32) 1 120 := by
  intro h
  have hvarint : varint 32 = [32] := by rw [varint, if_pos (by decide)]; rfl
  have hinfo : tokenInfo (List.replicate 36 48) 32 =
      [10, 36] ++ List.replicate 36 48 ++ [16, 32] := by
    unfold tokenInfo
    rw [hvarint]
    rfl
  have hsetex := h.setex
  rw [hinfo] at hsetex
  have hvalue := ((setex_intended_iff (by decide) (by decide)).1 hsetex).2.1
  exact hvalue.2.1 (by decide)

end MmoServer
