/-
**How a player is saved, and read again.**

A save binds three parts of a player, each serialized to a string, and its serial number to the
parameters of a prepared statement.  MySQL gets the pointer to a string, and reads its length from
a buffer of the statement.  When a player is queried, each part is copied out of the row to a
buffer of its own, behind which there is a zero; a string is made of the buffer, and parsed.

Main definitions:

* `MmoServer.Codec` — how a protobuf message is serialized and parsed;
* `MmoServer.Mysql` — the database: what it stores is what it returns;
* `MmoServer.DatabaseStmt`, `MmoServer.DatabaseStmt.addParamBlob`,
  `MmoServer.DatabaseStmt.addParamUint64` — a prepared statement and its parameters;
* `MmoServer.getBlob` — `MysqlBase::GetBlob` to a string;
* `MmoServer.onSavePlayer`, `MmoServer.handleQueryPlayer` — the save, and the query;
* `MmoServer.SaveRoundTrips` — a query after a save reads what was saved.

Main results:

* `MmoServer.DatabaseStmt.values_addParamBlob`, `MmoServer.DatabaseStmt.values_addParamUint64` —
  **a parameter that is added** leaves the others as they were;
* `MmoServer.getBlob_eq_iff` — **a string is read as it is stored** exactly if it contains no zero;
* `MmoServer.saveRoundTrips_iff` — **a player is read as it was saved** exactly if no part of it is
  serialized with a zero.
-/

import MmoServer.Buffer
import MmoServer.LittleEndian
import MmoServer.Packet

set_option relaxedAutoImplicit false
set_option autoImplicit false

namespace MmoServer

open CyclicList

/-! ### Reading behind a write -/

theorem length_writeAt {bytes bytes' src : List UInt8} {off : ℕ}
    (h : writeAt bytes off src = some bytes') : bytes'.length = bytes.length := by
  unfold writeAt at h
  split at h
  · rename_i hfit
    rw [← Option.some.inj h]
    exact length_overwrite hfit
  · cases h

/-- What was written is read again. -/
theorem readAt_writeAt_self {bytes bytes' src : List UInt8} {off : ℕ}
    (h : writeAt bytes off src = some bytes') : readAt bytes' off src.length = some src := by
  unfold writeAt at h
  split at h
  · rename_i hfit
    obtain rfl := Option.some.inj h
    have hlength := length_overwrite hfit
    rw [readAt_eq (by rw [hlength]; exact hfit)]
    refine congrArg some (List.ext_getElem? fun k => ?_)
    rw [List.getElem?_take, List.getElem?_drop, getElem?_overwrite hfit]
    by_cases hk : k < src.length
    · rw [if_pos hk, if_pos (by omega), Nat.add_sub_cancel_left]
    · rw [if_neg hk, List.getElem?_eq_none (by omega)]
  · cases h

/-- What lies elsewhere is read as before. -/
theorem readAt_writeAt_of_le {bytes bytes' src : List UInt8} {off i n : ℕ}
    (h : writeAt bytes off src = some bytes') (hi : i + n ≤ off) :
    readAt bytes' i n = readAt bytes i n := by
  unfold writeAt at h
  split at h
  · rename_i hfit
    obtain rfl := Option.some.inj h
    have hlength := length_overwrite hfit
    rw [readAt_eq (by omega), readAt_eq (by omega)]
    refine congrArg some (List.ext_getElem? fun k => ?_)
    rw [List.getElem?_take, List.getElem?_take]
    by_cases hk : k < n
    · rw [if_pos hk, if_pos hk, List.getElem?_drop, List.getElem?_drop, getElem?_overwrite hfit,
        if_neg (by omega)]
    · rw [if_neg hk, if_neg hk]
  · cases h

/-! ### Prepared statements -/

/-- `MAX_BIND_BUFFER`. -/
def maxBindBuffer : ℕ := 40960

/-- `MYSQL_BIND`: where MySQL finds the value of a parameter, and its length. -/
inductive MysqlBind
  /-- `MYSQL_TYPE_BLOB`: the bytes behind a pointer, and where the buffer has their length. -/
  | blob (buffer : List UInt8) (length : ℕ)
  /-- `MYSQL_TYPE_LONGLONG`: where the buffer has the number. -/
  | longlong (offset : ℕ)

/-- The value of a parameter. -/
inductive ParamValue
  | blob (bytes : List UInt8)
  | uint64 (n : UInt64)
  deriving DecidableEq

/-- The value that MySQL reads; nothing if it reads outside of an allocation. -/
def MysqlBind.value (bindBuffer : List UInt8) : MysqlBind → Option ParamValue
  | .blob buffer length =>
    (readAt bindBuffer length 8).bind fun size =>
      (readAt buffer 0 (LittleEndian.ofBytes size)).map .blob
  | .longlong offset =>
    (readAt bindBuffer offset 8).map fun n => .uint64 (UInt64.ofNat (LittleEndian.ofBytes n))

/-- Where the entry of a parameter in the buffer ends. -/
def MysqlBind.limit : MysqlBind → ℕ
  | .blob _ length => length + 8
  | .longlong offset => offset + 8

/-- `DatabaseStmt`: the entries of its parameters lie in the used part of its buffer. -/
structure DatabaseStmt where
  bind : List MysqlBind
  bindBuffer : List UInt8
  bindBufferIndex : ℕ
  limit_le : ∀ b ∈ bind, b.limit ≤ bindBufferIndex

/-- `*(pBind->length) = size` for an `int` that is made of a `size_t`. -/
def boundLength (n : ℕ) : ℕ := (toInt32 (n % 2 ^ 32) % 2 ^ 64).toNat

namespace DatabaseStmt

/-- `ClearStmtParam`. -/
def clearStmtParam (stmt : DatabaseStmt) : DatabaseStmt where
  bind := []
  bindBuffer := stmt.bindBuffer
  bindBufferIndex := 0
  limit_le := by
    intro b hb
    cases hb

/-- A new entry ends where the used part of the buffer ends then. -/
theorem limit_le_append (stmt : DatabaseStmt) (entry : MysqlBind)
    (hindex : stmt.bindBufferIndex ≤ entry.limit) : ∀ b ∈ stmt.bind ++ [entry], b.limit ≤ entry.limit := by
  intro b hb
  rcases List.mem_append.1 hb with hold | hnew
  · exact Nat.le_trans (stmt.limit_le b hold) hindex
  · rw [List.mem_singleton.1 hnew]

/-- `AddParamBlob`: eight bytes of the buffer stay unused, and the next eight get the length. -/
def addParamBlob (stmt : DatabaseStmt) (val : List UInt8) : Option DatabaseStmt :=
  (writeAt stmt.bindBuffer (stmt.bindBufferIndex + 8)
      (LittleEndian.toBytes 8 (boundLength val.length))).map fun bindBuffer =>
    { bind := stmt.bind ++ [.blob val (stmt.bindBufferIndex + 8)]
      bindBuffer := bindBuffer
      bindBufferIndex := stmt.bindBufferIndex + 16
      limit_le := stmt.limit_le_append (.blob val (stmt.bindBufferIndex + 8)) (Nat.le_add_right _ 16) }

/-- `AddParamUint64`. -/
def addParamUint64 (stmt : DatabaseStmt) (val : UInt64) : Option DatabaseStmt :=
  (writeAt stmt.bindBuffer stmt.bindBufferIndex (LittleEndian.toBytes 8 val.toNat)).map
    fun bindBuffer =>
      { bind := stmt.bind ++ [.longlong stmt.bindBufferIndex]
        bindBuffer := bindBuffer
        bindBufferIndex := stmt.bindBufferIndex + 8
        limit_le := stmt.limit_le_append (.longlong stmt.bindBufferIndex) (Nat.le_add_right ..) }

/-- The values of the parameters. -/
def values (stmt : DatabaseStmt) : List (Option ParamValue) :=
  stmt.bind.map (MysqlBind.value stmt.bindBuffer)

/-- The entries of the parameters are read as before when the buffer is written behind them. -/
theorem map_value_writeAt (stmt : DatabaseStmt) {off : ℕ} {src bindBuffer : List UInt8}
    (h : writeAt stmt.bindBuffer off src = some bindBuffer) (hoff : stmt.bindBufferIndex ≤ off) :
    stmt.bind.map (MysqlBind.value bindBuffer) = stmt.values := by
  refine List.map_congr_left fun b hb => ?_
  have hlimit := stmt.limit_le b hb
  cases b with
  | blob buffer length =>
    have hread : readAt bindBuffer length 8 = readAt stmt.bindBuffer length 8 :=
      readAt_writeAt_of_le h (Nat.le_trans hlimit hoff)
    simp only [MysqlBind.value, hread]
  | longlong offset =>
    have hread : readAt bindBuffer offset 8 = readAt stmt.bindBuffer offset 8 :=
      readAt_writeAt_of_le h (Nat.le_trans hlimit hoff)
    simp only [MysqlBind.value, hread]

/-- What MySQL reads of a string that is bound. -/
def boundBlob (val : List UInt8) : Option ParamValue :=
  (readAt val 0 (boundLength val.length)).map .blob

theorem boundLength_lt (n : ℕ) : boundLength n < 256 ^ 8 := by
  unfold boundLength
  omega

/-- **A blob that is added.** -/
theorem values_addParamBlob {stmt stmt' : DatabaseStmt} {val : List UInt8}
    (h : stmt.addParamBlob val = some stmt') :
    stmt'.values = stmt.values ++ [boundBlob val] ∧
      stmt'.bindBuffer.length = stmt.bindBuffer.length ∧
      stmt'.bindBufferIndex = stmt.bindBufferIndex + 16 := by
  obtain ⟨bindBuffer, hwrite, rfl⟩ := Option.map_eq_some_iff.1 h
  have hread : readAt bindBuffer (stmt.bindBufferIndex + 8) 8 =
      some (LittleEndian.toBytes 8 (boundLength val.length)) := by
    have hself := readAt_writeAt_self hwrite
    rwa [LittleEndian.length_toBytes] at hself
  refine ⟨?_, ?_, rfl⟩
  · rw [values, List.map_append, map_value_writeAt stmt hwrite (Nat.le_add_right ..)]
    simp only [List.map_cons, List.map_nil, MysqlBind.value, hread, Option.bind_some, boundBlob,
      LittleEndian.ofBytes_toBytes (boundLength_lt val.length)]
  · exact length_writeAt hwrite

/-- **A number that is added.** -/
theorem values_addParamUint64 {stmt stmt' : DatabaseStmt} {val : UInt64}
    (h : stmt.addParamUint64 val = some stmt') :
    stmt'.values = stmt.values ++ [some (.uint64 val)] := by
  obtain ⟨bindBuffer, hwrite, rfl⟩ := Option.map_eq_some_iff.1 h
  have hread : readAt bindBuffer stmt.bindBufferIndex 8 =
      some (LittleEndian.toBytes 8 val.toNat) := by
    have hself := readAt_writeAt_self hwrite
    rwa [LittleEndian.length_toBytes] at hself
  have hval : val.toNat < 256 ^ 8 := val.toNat_lt
  rw [values, List.map_append, map_value_writeAt stmt hwrite (Nat.le_refl _)]
  simp only [List.map_cons, List.map_nil, MysqlBind.value, hread, Option.map_some,
    LittleEndian.ofBytes_toBytes hval, UInt64.ofNat_toNat]

theorem addParamBlob_isSome (stmt : DatabaseStmt) (val : List UInt8)
    (h : stmt.bindBufferIndex + 16 ≤ stmt.bindBuffer.length) :
    ∃ stmt', stmt.addParamBlob val = some stmt' := by
  unfold addParamBlob
  rw [writeAt_eq (by rw [LittleEndian.length_toBytes]; exact h)]
  exact ⟨_, rfl⟩

theorem addParamUint64_isSome (stmt : DatabaseStmt) (val : UInt64)
    (h : stmt.bindBufferIndex + 8 ≤ stmt.bindBuffer.length) :
    ∃ stmt', stmt.addParamUint64 val = some stmt' := by
  unfold addParamUint64
  rw [writeAt_eq (by rw [LittleEndian.length_toBytes]; exact h)]
  exact ⟨_, rfl⟩

end DatabaseStmt

/-! ### Blobs -/

/-- `MysqlBase::GetBlob` to a buffer of `size` bytes: what is copied.  The size becomes an
`unsigned int`. -/
def getBlobBytes (column : Option (List UInt8)) (size : ℕ) : List UInt8 :=
  match column with
  | none => []
  | some bytes => bytes.take (min bytes.length (size % 2 ^ 32))

/-- `MysqlBase::GetBlob` to a string.  The buffer has a zero behind its last byte, and the string
ends at the first zero; nothing if it would go on into bytes that were not copied. -/
def getBlob (column : Option (List UInt8)) : Option (List UInt8) :=
  let blobLength := (column.getD []).length % 2 ^ 64
  -- the length becomes a `long`
  if blobLength = 0 ∨ 2 ^ 63 ≤ blobLength then some []
  else
    let copied := getBlobBytes column blobLength
    if copied.length = blobLength ∨ 0 ∈ copied then some (cStr copied) else none

/-- A string that is read is not longer than the column. -/
theorem length_getBlob_le {bytes value : List UInt8} (h : getBlob (some bytes) = some value) :
    value.length ≤ bytes.length := by
  unfold getBlob at h
  simp only at h
  split at h
  · rw [← Option.some.inj h]
    exact Nat.zero_le _
  · split at h
    · rw [← Option.some.inj h]
      refine Nat.le_trans (length_cStr_le _) ?_
      unfold getBlobBytes
      rw [List.length_take]
      exact Nat.min_le_right _ _
    · cases h

/-- **A string is read as it is stored** exactly if it contains no zero. -/
theorem getBlob_eq_iff {bytes : List UInt8} (hlength : bytes.length < 2 ^ 32) :
    getBlob (some bytes) = some bytes ↔ 0 ∉ bytes := by
  unfold getBlob getBlobBytes
  simp only [Option.getD_some]
  have hmod : bytes.length % 2 ^ 64 = bytes.length := Nat.mod_eq_of_lt (by omega)
  rw [hmod, Nat.mod_eq_of_lt hlength, Nat.min_self, List.take_length]
  by_cases hempty : bytes.length = 0
  · rw [if_pos (Or.inl hempty)]
    obtain rfl := List.eq_nil_of_length_eq_zero hempty
    simp
  · rw [if_neg (by omega), if_pos (Or.inl rfl), Option.some.injEq]
    exact cStr_eq_iff bytes

/-- A string that is too long is not read as it is stored. -/
theorem getBlob_ne_of_le {bytes : List UInt8} (hlength : 2 ^ 32 ≤ bytes.length) :
    getBlob (some bytes) ≠ some bytes := by
  intro h
  unfold getBlob getBlobBytes at h
  simp only [Option.getD_some] at h
  split at h
  · rw [← Option.some.inj h] at hlength
    exact absurd hlength (by decide)
  · split at h
    · have hle := length_cStr_le
        (bytes.take (min bytes.length (bytes.length % 2 ^ 64 % 2 ^ 32)))
      rw [Option.some.inj h, List.length_take] at hle
      omega
    · cases h

/-- What is bound is a part of the string. -/
theorem length_of_boundBlob {val stored : List UInt8}
    (h : DatabaseStmt.boundBlob val = some (.blob stored)) :
    stored = val.take (boundLength val.length) ∧ boundLength val.length ≤ val.length := by
  obtain ⟨bytes, hread, hblob⟩ := Option.map_eq_some_iff.1 h
  obtain rfl := ParamValue.blob.inj hblob
  unfold readAt at hread
  split at hread
  · rename_i hfit
    rw [← Option.some.inj hread, List.drop_zero]
    exact ⟨rfl, by omega⟩
  · cases hread

/-- The length is passed on if it fits into an `int`. -/
theorem boundLength_of_lt {n : ℕ} (h : n < 2 ^ 31) : boundLength n = n := by
  unfold boundLength toInt32
  rw [Nat.mod_eq_of_lt (by omega), if_pos h]
  omega

theorem boundLength_ne {n : ℕ} (hle : 2 ^ 31 ≤ n) (hlt : n < 2 ^ 32) : boundLength n ≠ n := by
  unfold boundLength toInt32
  rw [Nat.mod_eq_of_lt hlt, if_neg (by omega)]
  omega

/-- A string whose length is an `int` is bound as it is. -/
theorem boundBlob_of_lt {val : List UInt8} (h : val.length < 2 ^ 31) :
    DatabaseStmt.boundBlob val = some (.blob val) := by
  unfold DatabaseStmt.boundBlob
  rw [boundLength_of_lt h, readAt_eq (by omega), List.drop_zero, List.take_length]
  rfl

/-- **A part of a player** is bound, stored and read without a change exactly if it contains no
zero, and its length is an `int`. -/
theorem bound_getBlob_iff (val : List UInt8) :
    (∃ stored, DatabaseStmt.boundBlob val = some (.blob stored) ∧
      getBlob (some stored) = some val) ↔ 0 ∉ val ∧ val.length < 2 ^ 31 := by
  constructor
  · rintro ⟨stored, hbound, hread⟩
    obtain ⟨hstored, hle⟩ := length_of_boundBlob hbound
    have hshort : stored.length = boundLength val.length := by
      rw [hstored, List.length_take, Nat.min_eq_left hle]
    have hlong := length_getBlob_le hread
    -- nothing was cut off before the string was stored
    have hall : boundLength val.length = val.length := by omega
    rw [hstored, hall, List.take_length] at hread
    have hlength : val.length < 2 ^ 32 := by
      by_contra hge
      exact getBlob_ne_of_le (by omega) hread
    refine ⟨(getBlob_eq_iff hlength).1 hread, ?_⟩
    by_contra hge
    exact boundLength_ne (by omega) hlength hall
  · rintro ⟨hzero, hlength⟩
    exact ⟨val, boundBlob_of_lt hlength, (getBlob_eq_iff (by omega)).2 hzero⟩

/-! ### The database -/

/-- How messages of a type are serialized and parsed. -/
structure Codec (α : Type) where
  serialize : α → List UInt8
  parse : List UInt8 → α
  /-- The round trip that protobuf promises. -/
  parse_serialize : ∀ a : α, parse (serialize a) = a

/-- A row of the table `player`. -/
structure PlayerRow where
  sn : UInt64
  name : List UInt8
  account : List UInt8
  base : Option (List UInt8)
  item : Option (List UInt8)
  misc : Option (List UInt8)

/-- MySQL: the statements that are executed, on states of the database. -/
structure Mysql (Db : Type) where
  /-- `update player set base=?, item=?, misc=?, savetime=now() where sn = ?`. -/
  executeSave : Db → List ParamValue → Option Db
  /-- `select sn, name, account, base, item, misc from player where sn = ...`. -/
  selectPlayer : Db → UInt64 → Option PlayerRow
  /-- It returns the bytes that it has stored, and their length. -/
  selectPlayer_executeSave : ∀ (db db' : Db) (base item misc : List UInt8) (sn : UInt64)
    (row : PlayerRow),
    executeSave db [.blob base, .blob item, .blob misc, .uint64 sn] = some db' →
      selectPlayer db' sn = some row →
        row.base = some base ∧ row.item = some item ∧ row.misc = some misc

/-- The database has a player, and executes the save of these parts of it: each is one that its column takes. -/
def Mysql.Serves {Db : Type} (mysql : Mysql Db) (db : Db) (base item misc : List UInt8) (sn : UInt64) : Prop :=
  ∃ (db' : Db) (row : PlayerRow),
    mysql.executeSave db [.blob base, .blob item, .blob misc, .uint64 sn] = some db' ∧
      mysql.selectPlayer db' sn = some row

/-- `Proto::Player`. -/
structure ProtoPlayer (Base Knap Misc : Type) where
  sn : UInt64
  name : List UInt8
  base : Base
  knap : Knap
  misc : Misc
  deriving DecidableEq

/-- `QueryPlayerRs`, when a row was found. -/
structure DbPlayerRs (Base Knap Misc : Type) where
  account : List UInt8
  player : ProtoPlayer Base Knap Misc
  deriving DecidableEq

section

variable {Db Base Knap Misc : Type} (mysql : Mysql Db) (baseCodec : Codec Base)
  (knapCodec : Codec Knap) (miscCodec : Codec Misc)

/-- The values of all parameters. -/
def allValues : List (Option ParamValue) → Option (List ParamValue)
  | [] => some []
  | none :: _ => none
  | some v :: vs => (allValues vs).map (v :: ·)

/-- `ExecuteStmt`. -/
def executeStmt (stmt : DatabaseStmt) (db : Db) : Option Db :=
  (allValues stmt.values).bind (mysql.executeSave db)

/-- `OnSavePlayer`, with the statement for saves. -/
def onSavePlayer (stmtSave : DatabaseStmt) (db : Db) (player : ProtoPlayer Base Knap Misc) :
    Option Db := do
  let stmt ← stmtSave.clearStmtParam.addParamBlob (baseCodec.serialize player.base)
  let stmt ← stmt.addParamBlob (knapCodec.serialize player.knap)
  let stmt ← stmt.addParamBlob (miscCodec.serialize player.misc)
  let stmt ← stmt.addParamUint64 player.sn
  executeStmt mysql stmt db

/-- `HandleQueryPlayer`, when a row was found; the name and the account end at a zero. -/
def handleQueryPlayer (db : Db) (playerSn : UInt64) : Option (DbPlayerRs Base Knap Misc) := do
  let row ← mysql.selectPlayer db playerSn
  let base ← getBlob row.base
  let knap ← getBlob row.item
  let misc ← getBlob row.misc
  some
    { account := cStr row.account
      player :=
        { sn := row.sn
          name := cStr row.name
          base := baseCodec.parse base
          knap := knapCodec.parse knap
          misc := miscCodec.parse misc } }

/-- **A query after a save reads what was saved**: the same strings, and so the same parts of the
player. -/
def SaveRoundTrips (stmtSave : DatabaseStmt) (db : Db) (player : ProtoPlayer Base Knap Misc) :
    Prop :=
  ∃ (db' : Db) (row : PlayerRow) (rs : DbPlayerRs Base Knap Misc),
    onSavePlayer mysql baseCodec knapCodec miscCodec stmtSave db player = some db' ∧
    mysql.selectPlayer db' player.sn = some row ∧
    getBlob row.base = some (baseCodec.serialize player.base) ∧
    getBlob row.item = some (knapCodec.serialize player.knap) ∧
    getBlob row.misc = some (miscCodec.serialize player.misc) ∧
    handleQueryPlayer mysql baseCodec knapCodec miscCodec db' player.sn = some rs ∧
    rs.player.base = player.base ∧ rs.player.knap = player.knap ∧ rs.player.misc = player.misc

/-- A string that is written and read without a change: it has no zero, and its length is an
`int`. -/
def Storable (val : List UInt8) : Prop := 0 ∉ val ∧ val.length < 2 ^ 31

variable {mysql baseCodec knapCodec miscCodec}

/-- The four parameters of a save can be added, and are read as they were bound. -/
theorem exists_saveParams {stmtSave : DatabaseStmt}
    (hbuffer : stmtSave.bindBuffer.length = maxBindBuffer) (base knap misc : List UInt8)
    (sn : UInt64) : ∃ s₁ s₂ s₃ s₄, stmtSave.clearStmtParam.addParamBlob base = some s₁ ∧
      s₁.addParamBlob knap = some s₂ ∧ s₂.addParamBlob misc = some s₃ ∧
      s₃.addParamUint64 sn = some s₄ ∧ s₄.values = [DatabaseStmt.boundBlob base,
        DatabaseStmt.boundBlob knap, DatabaseStmt.boundBlob misc, some (.uint64 sn)] := by
  have hsize : stmtSave.clearStmtParam.bindBuffer.length = 40960 := hbuffer
  have hindex : stmtSave.clearStmtParam.bindBufferIndex = 0 := rfl
  have hnil : stmtSave.clearStmtParam.values = [] := rfl
  obtain ⟨s₁, h₁⟩ := DatabaseStmt.addParamBlob_isSome stmtSave.clearStmtParam base (by omega)
  obtain ⟨v₁, l₁, i₁⟩ := DatabaseStmt.values_addParamBlob h₁
  obtain ⟨s₂, h₂⟩ := DatabaseStmt.addParamBlob_isSome s₁ knap (by omega)
  obtain ⟨v₂, l₂, i₂⟩ := DatabaseStmt.values_addParamBlob h₂
  obtain ⟨s₃, h₃⟩ := DatabaseStmt.addParamBlob_isSome s₂ misc (by omega)
  obtain ⟨v₃, l₃, i₃⟩ := DatabaseStmt.values_addParamBlob h₃
  obtain ⟨s₄, h₄⟩ := DatabaseStmt.addParamUint64_isSome s₃ sn (by omega)
  have v₄ := DatabaseStmt.values_addParamUint64 h₄
  refine ⟨s₁, s₂, s₃, s₄, h₁, h₂, h₃, h₄, ?_⟩
  rw [v₄, v₃, v₂, v₁, hnil]
  rfl

/-- **What a save binds** to the parameters of its statement. -/
theorem onSavePlayer_eq {stmtSave : DatabaseStmt}
    (hbuffer : stmtSave.bindBuffer.length = maxBindBuffer) (db : Db)
    (player : ProtoPlayer Base Knap Misc) :
    onSavePlayer mysql baseCodec knapCodec miscCodec stmtSave db player =
      (allValues [DatabaseStmt.boundBlob (baseCodec.serialize player.base),
        DatabaseStmt.boundBlob (knapCodec.serialize player.knap),
        DatabaseStmt.boundBlob (miscCodec.serialize player.misc),
        some (.uint64 player.sn)]).bind (mysql.executeSave db) := by
  obtain ⟨s₁, s₂, s₃, s₄, h₁, h₂, h₃, h₄, hvalues⟩ := exists_saveParams hbuffer
    (baseCodec.serialize player.base) (knapCodec.serialize player.knap)
    (miscCodec.serialize player.misc) player.sn
  unfold onSavePlayer executeStmt
  simp only [h₁, h₂, h₃, h₄, hvalues, Option.bind_eq_bind, Option.bind_some]

/-- The values of the parameters are all there exactly if each of them is. -/
theorem allValues_eq_some {values : List (Option ParamValue)} {all : List ParamValue} :
    allValues values = some all ↔ values = all.map some := by
  induction values generalizing all with
  | nil =>
    constructor
    · intro h
      rw [← Option.some.inj h]
      rfl
    · intro h
      rw [List.map_eq_nil_iff.1 h.symm]
      rfl
  | cons v values ih =>
    cases v with
    | none =>
      constructor
      · intro h
        cases h
      · intro h
        cases all with
        | nil => cases h
        | cons w all => cases (List.cons.inj h).1
    | some v =>
      rw [allValues, Option.map_eq_some_iff]
      constructor
      · rintro ⟨rest, hrest, rfl⟩
        rw [ih.1 hrest]
        rfl
      · intro h
        cases all with
        | nil => cases h
        | cons w all =>
          obtain ⟨hhead, htail⟩ := List.cons.inj h
          obtain rfl := Option.some.inj hhead
          exact ⟨all, ih.2 htail, rfl⟩

end

/-- **A player is read as it was saved** exactly if no part of it is serialized with a zero, or to
a string whose length is no `int`. -/
theorem saveRoundTrips_iff {Db Base Knap Misc : Type} {mysql : Mysql Db} {baseCodec : Codec Base}
    {knapCodec : Codec Knap} {miscCodec : Codec Misc} {stmtSave : DatabaseStmt}
    (hbuffer : stmtSave.bindBuffer.length = maxBindBuffer) {db : Db}
    {player : ProtoPlayer Base Knap Misc}
    (hserves : mysql.Serves db (baseCodec.serialize player.base) (knapCodec.serialize player.knap)
      (miscCodec.serialize player.misc) player.sn) :
    SaveRoundTrips mysql baseCodec knapCodec miscCodec stmtSave db player ↔
      Storable (baseCodec.serialize player.base) ∧ Storable (knapCodec.serialize player.knap) ∧
        Storable (miscCodec.serialize player.misc) := by
  unfold SaveRoundTrips Storable
  rw [onSavePlayer_eq hbuffer]
  constructor
  · rw [← bound_getBlob_iff, ← bound_getBlob_iff, ← bound_getBlob_iff]
    rintro ⟨db', row, rs, hsave, hrow, hbase, hitem, hmisc, -⟩
    obtain ⟨values, hvalues, hexecute⟩ := Option.bind_eq_some_iff.1 hsave
    -- all parameters have values, and the first three are blobs
    have hall := allValues_eq_some.1 hvalues
    have hblob : ∀ {val : List UInt8} {v : ParamValue},
        DatabaseStmt.boundBlob val = some v → ∃ stored, v = .blob stored := by
      intro val v hv
      obtain ⟨bytes, -, rfl⟩ := Option.map_eq_some_iff.1 hv
      exact ⟨bytes, rfl⟩
    rcases values with _ | ⟨v₁, _ | ⟨v₂, _ | ⟨v₃, _ | ⟨v₄, _ | ⟨v₅, rest⟩⟩⟩⟩⟩
    · cases hall
    · cases (List.cons.inj hall).2
    · cases (List.cons.inj (List.cons.inj hall).2).2
    · cases (List.cons.inj (List.cons.inj (List.cons.inj hall).2).2).2
    · simp only [List.map_cons, List.map_nil, List.cons.injEq, Option.some.injEq, and_true] at hall
      obtain ⟨h₁, h₂, h₃, rfl⟩ := hall
      obtain ⟨b₁, rfl⟩ := hblob h₁
      obtain ⟨b₂, rfl⟩ := hblob h₂
      obtain ⟨b₃, rfl⟩ := hblob h₃
      obtain ⟨r₁, r₂, r₃⟩ := mysql.selectPlayer_executeSave db db' b₁ b₂ b₃ _ row hexecute hrow
      rw [r₁] at hbase
      rw [r₂] at hitem
      rw [r₃] at hmisc
      exact ⟨⟨b₁, h₁, hbase⟩, ⟨b₂, h₂, hitem⟩, ⟨b₃, h₃, hmisc⟩⟩
    · simp at hall
  · rintro ⟨⟨hbaseZero, hbaseLt⟩, ⟨hitemZero, hitemLt⟩, ⟨hmiscZero, hmiscLt⟩⟩
    obtain ⟨db', row, hexecute, hrow⟩ := hserves
    obtain ⟨r₁, r₂, r₃⟩ := mysql.selectPlayer_executeSave db db' _ _ _ _ row hexecute hrow
    have hbase : getBlob row.base = some (baseCodec.serialize player.base) := by
      rw [r₁]
      exact (getBlob_eq_iff (by omega)).2 hbaseZero
    have hitem : getBlob row.item = some (knapCodec.serialize player.knap) := by
      rw [r₂]
      exact (getBlob_eq_iff (by omega)).2 hitemZero
    have hmisc : getBlob row.misc = some (miscCodec.serialize player.misc) := by
      rw [r₃]
      exact (getBlob_eq_iff (by omega)).2 hmiscZero
    have hvalues : allValues [DatabaseStmt.boundBlob (baseCodec.serialize player.base),
        DatabaseStmt.boundBlob (knapCodec.serialize player.knap),
        DatabaseStmt.boundBlob (miscCodec.serialize player.misc), some (.uint64 player.sn)] =
          some [.blob (baseCodec.serialize player.base), .blob (knapCodec.serialize player.knap),
            .blob (miscCodec.serialize player.misc), .uint64 player.sn] := by
      rw [boundBlob_of_lt hbaseLt, boundBlob_of_lt hitemLt, boundBlob_of_lt hmiscLt]
      rfl
    refine ⟨db', row,
      ⟨cStr row.account, ⟨row.sn, cStr row.name, player.base, player.knap, player.misc⟩⟩,
      ?_, hrow, hbase, hitem, hmisc, ?_, rfl, rfl, rfl⟩
    · rw [hvalues]
      exact hexecute
    · unfold handleQueryPlayer
      simp only [hrow, hbase, hitem, hmisc, Option.bind_eq_bind, Option.bind_some,
        baseCodec.parse_serialize, knapCodec.parse_serialize, miscCodec.parse_serialize]

/-! ### Two players -/

/-- Messages that are their own bytes. -/
def Codec.bytes : Codec (List UInt8) := ⟨id, id, fun _ => rfl⟩

/-- The length of the longest string that a `blob` column takes. -/
def blobLimit : ℕ := 65535

/-- A database with one player. -/
def Mysql.single : Mysql PlayerRow where
  executeSave
    | row, [.blob base, .blob item, .blob misc, .uint64 sn] =>
      if row.sn = sn ∧ base.length ≤ blobLimit ∧ item.length ≤ blobLimit ∧ misc.length ≤ blobLimit then
        some { row with base := base, item := item, misc := misc }
      else none
    | _, _ => none
  selectPlayer row sn := if row.sn = sn then some row else none
  selectPlayer_executeSave := by
    intro db db' base item misc sn row hsave hselect
    obtain ⟨-, hdb⟩ := Option.ite_none_right_eq_some.1 hsave
    obtain ⟨-, hrow⟩ := Option.ite_none_right_eq_some.1 hselect
    rw [← Option.some.inj hrow, ← Option.some.inj hdb]
    exact ⟨rfl, rfl, rfl⟩

/-- The only player of the database is served, with parts that are not too long. -/
theorem Mysql.serves_single (row : PlayerRow) {base item misc : List UInt8} (hbase : base.length ≤ blobLimit)
    (hitem : item.length ≤ blobLimit) (hmisc : misc.length ≤ blobLimit) :
    Mysql.single.Serves row base item misc row.sn := by
  refine ⟨{ row with base := base, item := item, misc := misc },
    { row with base := base, item := item, misc := misc }, ?_, ?_⟩
  · exact if_pos ⟨rfl, hbase, hitem, hmisc⟩
  · exact if_pos rfl

/-- A new player in the database. -/
def newRow : PlayerRow := ⟨7, [97], [98], none, none, none⟩

/-- A statement that was just prepared. -/
def newStmt : DatabaseStmt where
  bind := []
  bindBuffer := List.replicate maxBindBuffer 0
  bindBufferIndex := 0
  limit_le := by
    intro b hb
    cases hb

/-- A player that was in no world yet is read as it was saved: its parts have no zero. -/
theorem saveRoundTrips_level :
    SaveRoundTrips Mysql.single Codec.bytes Codec.bytes Codec.bytes newStmt newRow
      ⟨7, [97], [16, 1, 32, 231, 7], [8, 244, 3], []⟩ :=
  (saveRoundTrips_iff List.length_replicate
    (Mysql.serves_single newRow (by decide) (by decide) (by decide))).2
      ⟨⟨by decide, by decide⟩, ⟨by decide, by decide⟩, ⟨by decide, by decide⟩⟩

/-- **A player with a position** is not read as it was saved: the coordinate 1.0 is stored with two
zeros. -/
theorem not_saveRoundTrips_position :
    ¬ ∀ (player : ProtoPlayer (List UInt8) (List UInt8) (List UInt8)),
      Mysql.single.Serves newRow player.base player.knap player.misc player.sn →
        SaveRoundTrips Mysql.single Codec.bytes Codec.bytes Codec.bytes newStmt newRow player := by
  intro hall
  have hserves : Mysql.single.Serves newRow [16, 1] [8, 244, 3] [10, 9, 8, 3, 26, 5, 13, 0, 0, 128, 63] 7 :=
    Mysql.serves_single newRow (by decide) (by decide) (by decide)
  have hstorable := (saveRoundTrips_iff List.length_replicate hserves).1
    (hall ⟨7, [97], [16, 1], [8, 244, 3], [10, 9, 8, 3, 26, 5, 13, 0, 0, 128, 63]⟩ hserves)
  exact hstorable.2.2.1 (by decide)

end MmoServer
