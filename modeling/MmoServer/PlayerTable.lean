/-
**The table of players.**

A connector of the database server handles the packets that its thread gets: it saves a player, reads
one, or creates one.  MySQL executes one statement at a time; what the connectors do is a list of
requests that are handled one after the other.

Main definitions:

* `MmoServer.PlayerTable` — MySQL, with the table of players;
* `MmoServer.DbRequest` — the packets that a connector gets;
* `MmoServer.handleRequest`, `MmoServer.handleRequests` — how connectors handle them;
* `MmoServer.PartsTaken`, `MmoServer.Stored` — the columns take the parts of a player, and they are those in the table.

Main results:

* `MmoServer.handleSavePlayer_spec` — **a save** changes three columns of one row, or nothing;
* `MmoServer.stored_of_last` — **the last save** that was executed is the one that is stored;
* `MmoServer.mem_replies_iff` — **a query** is answered from the table as it is then.
-/

import Mathlib.Data.List.Induction
import Mathlib.Logic.Function.Basic
import MmoServer.MysqlConnector

set_option relaxedAutoImplicit false
set_option autoImplicit false

namespace MmoServer

/-! ### MySQL -/

/-- The table `player`.  The laws are those of the statements: an update is executed if its columns take
the strings, and changes three columns of the row with a serial number, if there is one; a row is
inserted only if there is none with its serial number. -/
structure PlayerTable (Db : Type) extends Mysql Db where
  /-- `insert into player ( sn, account, name, savetime, createtime ) value ( ?, ?, ?, now(), now() )`. -/
  executeCreate : Db → UInt64 → List UInt8 → List UInt8 → Option Db
  /-- The strings that a `blob` column takes. -/
  Takes : List UInt8 → Prop
  executes : ∀ (db : Db) (base item misc : List UInt8) (sn : UInt64), Takes base → Takes item → Takes misc →
    (executeSave db [.blob base, .blob item, .blob misc, .uint64 sn]).isSome = true
  updates : ∀ (db db' : Db) (base item misc : List UInt8) (sn : UInt64),
    executeSave db [.blob base, .blob item, .blob misc, .uint64 sn] = some db' →
      selectPlayer db' sn = (selectPlayer db sn).map (fun row =>
        { row with base := some base, item := some item, misc := some misc }) ∧
      ∀ sn' ≠ sn, selectPlayer db' sn' = selectPlayer db sn'
  inserts : ∀ (db db' : Db) (sn : UInt64) (account name : List UInt8),
    executeCreate db sn account name = some db' →
      selectPlayer db sn = none ∧ ∀ sn' ≠ sn, selectPlayer db' sn' = selectPlayer db sn'

/-- The messages of a type are serialized to strings whose length is an `int`. -/
def Codec.Fits {α : Type} (codec : Codec α) : Prop := ∀ a, (codec.serialize a).length < 2 ^ 31

/-- The statement for saves was prepared, and binds all players. -/
structure Prepared {Base Knap Misc : Type} (stmtSave : DatabaseStmt) (baseCodec : Codec Base)
    (knapCodec : Codec Knap) (miscCodec : Codec Misc) : Prop where
  buffer : stmtSave.bindBuffer.length = maxBindBuffer
  base : baseCodec.Fits
  knap : knapCodec.Fits
  misc : miscCodec.Fits

/-- `AddParamStr`: the string that is bound. -/
def boundStr (val : List UInt8) : List UInt8 :=
  if (cStr val).length < 30000 then cStr val else (cStr val).take 29999

/-! ### Requests -/

/-- The packets that the Mysql threads get. -/
inductive DbRequest (Base Knap Misc : Type)
  /-- `G2DB_SavePlayer`. -/
  | savePlayer (player : ProtoPlayer Base Knap Misc)
  /-- `G2DB_QueryPlayer`. -/
  | queryPlayer (playerSn : UInt64)
  /-- `L2DB_CreatePlayer`. -/
  | createPlayer (account : List UInt8) (player : ProtoPlayer Base Knap Misc)
  /-- `MI_CmdThread`. -/
  | cmdThread
  /-- Any other packet, which changes no row and is not about one player. -/
  | other
  deriving DecidableEq

namespace DbRequest

variable {Base Knap Misc : Type}

/-- Which packets go to every thread. -/
def isCmd : DbRequest Base Knap Misc → Bool
  | cmdThread => true
  | _ => false

/-- The player that a request is about. -/
def about : DbRequest Base Knap Misc → Option UInt64
  | savePlayer player => some player.sn
  | queryPlayer playerSn => some playerSn
  | createPlayer _ player => some player.sn
  | _ => none

/-- The player that a request may change. -/
def writes : DbRequest Base Knap Misc → Option UInt64
  | savePlayer player => some player.sn
  | createPlayer _ player => some player.sn
  | _ => none

theorem about_of_writes {r : DbRequest Base Knap Misc} {p : UInt64} (h : r.writes = some p) :
    r.about = some p := by
  cases r with
  | savePlayer player => exact h
  | createPlayer account player => exact h
  | queryPlayer playerSn => cases h
  | cmdThread => cases h
  | other => cases h

theorem isCmd_of_about {r : DbRequest Base Knap Misc} {p : UInt64} (h : r.about = some p) :
    r.isCmd = false := by
  cases r with
  | cmdThread => cases h
  | savePlayer player => rfl
  | createPlayer account player => rfl
  | queryPlayer playerSn => rfl
  | other => rfl

end DbRequest

/-- The database, and the answers to the queries for players, with the packets that asked. -/
structure DbView (Db Base Knap Misc : Type) where
  db : Db
  replies : List (ℕ × Option (DbPlayerRs Base Knap Misc))

section

variable {Db Base Knap Misc : Type} (table : PlayerTable Db) (baseCodec : Codec Base)
  (knapCodec : Codec Knap) (miscCodec : Codec Misc) (stmtSave : DatabaseStmt)

/-- `HandleSavePlayer`. -/
def handleSavePlayer (db : Db) (player : ProtoPlayer Base Knap Misc) : Db :=
  (onSavePlayer table.toMysql baseCodec knapCodec miscCodec stmtSave db player).getD db

/-- `HandleCreatePlayer`: a player that was created is saved. -/
def handleCreatePlayer (db : Db) (account : List UInt8) (player : ProtoPlayer Base Knap Misc) : Db :=
  match table.executeCreate db player.sn (boundStr account) (boundStr player.name) with
  | none => db
  | some db' => handleSavePlayer table baseCodec knapCodec miscCodec stmtSave db' player

/-- A connector handles a packet.  It does not matter what its statement was used for before, see
`onSavePlayer_eq`. -/
def handleRequest (v : DbView Db Base Knap Misc) (e : ℕ × DbRequest Base Knap Misc) :
    DbView Db Base Knap Misc :=
  match e.2 with
  | .savePlayer player =>
    { v with db := handleSavePlayer table baseCodec knapCodec miscCodec stmtSave v.db player }
  | .queryPlayer playerSn =>
    { v with
      replies := v.replies ++
        [(e.1, handleQueryPlayer table.toMysql baseCodec knapCodec miscCodec v.db playerSn)] }
  | .createPlayer account player =>
    { v with
      db := handleCreatePlayer table baseCodec knapCodec miscCodec stmtSave v.db account player }
  | .cmdThread => v
  | .other => v

/-- The connectors handle packets one after the other: MySQL executes a statement at a time. -/
def handleRequests (db : Db) (es : List (ℕ × DbRequest Base Knap Misc)) :
    DbView Db Base Knap Misc :=
  es.foldl (handleRequest table baseCodec knapCodec miscCodec stmtSave) ⟨db, []⟩

/-- The columns take the parts of a player. -/
structure PartsTaken (player : ProtoPlayer Base Knap Misc) : Prop where
  base : table.Takes (baseCodec.serialize player.base)
  knap : table.Takes (knapCodec.serialize player.knap)
  misc : table.Takes (miscCodec.serialize player.misc)

/-- The parts of a player are those that are stored, if it is in the table. -/
def Stored (db : Db) (player : ProtoPlayer Base Knap Misc) : Prop :=
  ∀ row, table.selectPlayer db player.sn = some row →
    row.base = some (baseCodec.serialize player.base) ∧
      row.item = some (knapCodec.serialize player.knap) ∧
      row.misc = some (miscCodec.serialize player.misc)

variable {table baseCodec knapCodec miscCodec stmtSave}

/-- What the statement does with the parts of a player. -/
theorem onSavePlayer_prepared (hstmt : Prepared stmtSave baseCodec knapCodec miscCodec) (db : Db)
    (player : ProtoPlayer Base Knap Misc) :
    onSavePlayer table.toMysql baseCodec knapCodec miscCodec stmtSave db player =
      table.executeSave db [.blob (baseCodec.serialize player.base), .blob (knapCodec.serialize player.knap),
        .blob (miscCodec.serialize player.misc), .uint64 player.sn] := by
  rw [onSavePlayer_eq hstmt.buffer, boundBlob_of_lt (hstmt.base _), boundBlob_of_lt (hstmt.knap _),
    boundBlob_of_lt (hstmt.misc _)]
  rfl

/-- **What a save does**: it changes three columns of one row, or nothing. -/
theorem handleSavePlayer_spec (hstmt : Prepared stmtSave baseCodec knapCodec miscCodec)
    (db : Db) (player : ProtoPlayer Base Knap Misc) :
    handleSavePlayer table baseCodec knapCodec miscCodec stmtSave db player = db ∨
      table.selectPlayer (handleSavePlayer table baseCodec knapCodec miscCodec stmtSave db player)
          player.sn = (table.selectPlayer db player.sn).map (fun row =>
            { row with
              base := some (baseCodec.serialize player.base)
              item := some (knapCodec.serialize player.knap)
              misc := some (miscCodec.serialize player.misc) }) ∧
        ∀ sn' ≠ player.sn, table.selectPlayer
          (handleSavePlayer table baseCodec knapCodec miscCodec stmtSave db player) sn' =
            table.selectPlayer db sn' := by
  unfold handleSavePlayer
  rw [onSavePlayer_prepared hstmt]
  cases hsave : table.executeSave db [.blob (baseCodec.serialize player.base),
      .blob (knapCodec.serialize player.knap), .blob (miscCodec.serialize player.misc), .uint64 player.sn] with
  | none => exact .inl rfl
  | some db' => exact .inr (table.updates db db' _ _ _ _ hsave)

/-- The other rows stay as they are. -/
theorem selectPlayer_handleSavePlayer_of_ne (hstmt : Prepared stmtSave baseCodec knapCodec miscCodec) (db : Db)
    (player : ProtoPlayer Base Knap Misc) {sn : UInt64} (hne : sn ≠ player.sn) :
    table.selectPlayer (handleSavePlayer table baseCodec knapCodec miscCodec stmtSave db player) sn =
      table.selectPlayer db sn := by
  rcases handleSavePlayer_spec hstmt db player with hsame | ⟨-, hothers⟩
  · rw [hsame]
  · exact hothers sn hne

/-- A row is there as before. -/
theorem isSome_selectPlayer_handleSavePlayer (hstmt : Prepared stmtSave baseCodec knapCodec miscCodec) (db : Db)
    (player : ProtoPlayer Base Knap Misc) :
    (table.selectPlayer (handleSavePlayer table baseCodec knapCodec miscCodec stmtSave db player)
      player.sn).isSome = (table.selectPlayer db player.sn).isSome := by
  obtain hsame | ⟨hrow, -⟩ :
      handleSavePlayer table baseCodec knapCodec miscCodec stmtSave db player = db ∨ _ :=
    handleSavePlayer_spec hstmt db player
  · rw [hsame]
  · rw [hrow, Option.isSome_map]

/-- **A player whose parts the columns take** is stored. -/
theorem stored_handleSavePlayer (hstmt : Prepared stmtSave baseCodec knapCodec miscCodec) (db : Db)
    {player : ProtoPlayer Base Knap Misc} (htakes : PartsTaken table baseCodec knapCodec miscCodec player) :
    Stored table baseCodec knapCodec miscCodec
      (handleSavePlayer table baseCodec knapCodec miscCodec stmtSave db player) player := by
  obtain ⟨db', hsave⟩ := Option.isSome_iff_exists.1
    (table.executes db _ _ _ player.sn htakes.base htakes.knap htakes.misc)
  have hhandle : handleSavePlayer table baseCodec knapCodec miscCodec stmtSave db player = db' := by
    unfold handleSavePlayer
    rw [onSavePlayer_prepared hstmt, hsave]
    rfl
  intro row hrow
  rw [hhandle, (table.updates db db' _ _ _ _ hsave).1] at hrow
  obtain ⟨old, -, rfl⟩ := Option.map_eq_some_iff.1 hrow
  exact ⟨rfl, rfl, rfl⟩

/-- A player that is created was not in the table; the others stay as they were. -/
theorem handleCreatePlayer_spec (hstmt : Prepared stmtSave baseCodec knapCodec miscCodec)
    (db : Db) (account : List UInt8) (player : ProtoPlayer Base Knap Misc) (sn : UInt64)
    (h : sn ≠ player.sn ∨ (table.selectPlayer db sn).isSome = true) :
    table.selectPlayer
        (handleCreatePlayer table baseCodec knapCodec miscCodec stmtSave db account player) sn =
      table.selectPlayer db sn := by
  unfold handleCreatePlayer
  cases hcreate : table.executeCreate db player.sn (boundStr account) (boundStr player.name) with
  | none => rfl
  | some db' =>
    obtain ⟨hnone, hothers⟩ := table.inserts db db' player.sn _ _ hcreate
    have hne : sn ≠ player.sn := by
      rcases h with hne | hsome
      · exact hne
      · rintro rfl
        rw [hnone] at hsome
        cases hsome
    exact (selectPlayer_handleSavePlayer_of_ne hstmt db' player hne).trans (hothers sn hne)

/-- A request that does not write to a player leaves its row as it was. -/
theorem selectPlayer_handleRequest (hstmt : Prepared stmtSave baseCodec knapCodec miscCodec)
    (v : DbView Db Base Knap Misc) {e : ℕ × DbRequest Base Knap Misc} {p : UInt64}
    (h : e.2.writes ≠ some p) :
    table.selectPlayer (handleRequest table baseCodec knapCodec miscCodec stmtSave v e).db p =
      table.selectPlayer v.db p := by
  obtain ⟨sn, r⟩ := e
  cases r with
  | savePlayer player =>
    exact selectPlayer_handleSavePlayer_of_ne hstmt v.db player fun heq => h (congrArg some heq.symm)
  | createPlayer account player =>
    exact handleCreatePlayer_spec hstmt v.db account player p
      (.inl fun heq => h (congrArg some heq.symm))
  | queryPlayer playerSn => rfl
  | cmdThread => rfl
  | other => rfl

/-- A player stays in the table. -/
theorem isSome_selectPlayer_handleRequest
    (hstmt : Prepared stmtSave baseCodec knapCodec miscCodec) (v : DbView Db Base Knap Misc)
    (e : ℕ × DbRequest Base Knap Misc) {p : UInt64}
    (h : (table.selectPlayer v.db p).isSome = true) :
    (table.selectPlayer (handleRequest table baseCodec knapCodec miscCodec stmtSave v e).db
      p).isSome = true := by
  by_cases hwrites : e.2.writes = some p
  · obtain ⟨sn, r⟩ := e
    cases r with
    | savePlayer player =>
      obtain rfl : player.sn = p := Option.some.inj hwrites
      unfold handleRequest
      simp only [isSome_selectPlayer_handleSavePlayer hstmt v.db player, h]
    | createPlayer account player =>
      unfold handleRequest
      simp only [handleCreatePlayer_spec hstmt v.db account player p (.inr h), h]
    | queryPlayer playerSn => cases hwrites
    | cmdThread => cases hwrites
    | other => cases hwrites
  · rw [selectPlayer_handleRequest hstmt v hwrites]
    exact h

theorem isSome_selectPlayer_handleRequests
    (hstmt : Prepared stmtSave baseCodec knapCodec miscCodec) (db : Db)
    (es : List (ℕ × DbRequest Base Knap Misc)) {p : UInt64}
    (h : (table.selectPlayer db p).isSome = true) :
    (table.selectPlayer (handleRequests table baseCodec knapCodec miscCodec stmtSave db es).db
      p).isSome = true := by
  induction es using List.reverseRecOn with
  | nil => exact h
  | append_singleton es e ih =>
    unfold handleRequests
    rw [List.foldl_append]
    exact isSome_selectPlayer_handleRequest hstmt _ e ih

/-- **The last save** that was executed is the one that is stored. -/
theorem stored_of_last (hstmt : Prepared stmtSave baseCodec knapCodec miscCodec) (db : Db)
    (es : List (ℕ × DbRequest Base Knap Misc)) (sn : ℕ) {player : ProtoPlayer Base Knap Misc}
    (htakes : PartsTaken table baseCodec knapCodec miscCodec player)
    {es' : List (ℕ × DbRequest Base Knap Misc)} (h : ∀ e ∈ es', e.2.writes ≠ some player.sn) :
    Stored table baseCodec knapCodec miscCodec
      (handleRequests table baseCodec knapCodec miscCodec stmtSave db
        (es ++ (sn, .savePlayer player) :: es')).db player := by
  induction es' using List.reverseRecOn with
  | nil =>
    unfold handleRequests
    rw [List.foldl_append]
    exact stored_handleSavePlayer hstmt _ htakes
  | append_singleton es' e ih =>
    have hstored := ih fun a ha => h a (by simp [ha])
    unfold handleRequests at hstored ⊢
    rw [← List.cons_append, ← List.append_assoc, List.foldl_append]
    intro row hrow
    exact hstored row
      ((selectPlayer_handleRequest hstmt _ (h e (by simp))).symm.trans hrow)

/-- The answers behind one more request. -/
theorem mem_replies_append_singleton {db : Db} {es : List (ℕ × DbRequest Base Knap Misc)}
    {e : ℕ × DbRequest Base Knap Misc} {sn : ℕ} {r : Option (DbPlayerRs Base Knap Misc)} :
    (sn, r) ∈ (handleRequests table baseCodec knapCodec miscCodec stmtSave db
        (es ++ [e])).replies ↔
      (sn, r) ∈ (handleRequests table baseCodec knapCodec miscCodec stmtSave db es).replies ∨
        ∃ p, e = (sn, .queryPlayer p) ∧
          r = handleQueryPlayer table.toMysql baseCodec knapCodec miscCodec
            (handleRequests table baseCodec knapCodec miscCodec stmtSave db es).db p := by
  unfold handleRequests
  rw [List.foldl_append]
  generalize es.foldl (handleRequest table baseCodec knapCodec miscCodec stmtSave) ⟨db, []⟩ = v
  obtain ⟨a, q⟩ := e
  cases q with
  | queryPlayer playerSn =>
    simp only [List.foldl_cons, List.foldl_nil, handleRequest, List.mem_append,
      List.mem_singleton, Prod.mk.injEq, DbRequest.queryPlayer.injEq]
    constructor
    · rintro (hold | ⟨rfl, rfl⟩)
      · exact .inl hold
      · exact .inr ⟨playerSn, ⟨rfl, rfl⟩, rfl⟩
    · rintro (hold | ⟨p, ⟨rfl, rfl⟩, rfl⟩)
      · exact .inl hold
      · exact .inr ⟨rfl, rfl⟩
  | savePlayer player => simp [handleRequest]
  | createPlayer account player => simp [handleRequest]
  | cmdThread => simp [handleRequest]
  | other => simp [handleRequest]

/-- **A query is answered** from the database as it is then. -/
theorem mem_replies_iff {db : Db} {es : List (ℕ × DbRequest Base Knap Misc)} {sn : ℕ}
    {r : Option (DbPlayerRs Base Knap Misc)} :
    (sn, r) ∈ (handleRequests table baseCodec knapCodec miscCodec stmtSave db es).replies ↔
      ∃ l p l', es = l ++ (sn, .queryPlayer p) :: l' ∧
        r = handleQueryPlayer table.toMysql baseCodec knapCodec miscCodec
          (handleRequests table baseCodec knapCodec miscCodec stmtSave db l).db p := by
  induction es using List.reverseRecOn with
  | nil => simp [handleRequests]
  | append_singleton es e ih =>
    rw [mem_replies_append_singleton, ih]
    constructor
    · rintro (⟨l, p, l', rfl, hr⟩ | ⟨p, rfl, hr⟩)
      · exact ⟨l, p, l' ++ [e], by simp, hr⟩
      · exact ⟨es, p, [], rfl, hr⟩
    · rintro ⟨l, p, l', hes, hr⟩
      induction l' using List.reverseRecOn with
      | nil =>
        obtain ⟨rfl, hlast⟩ := List.append_inj' hes rfl
        exact .inr ⟨p, List.singleton_inj.1 hlast, hr⟩
      | append_singleton l' e' _ =>
        rw [← List.cons_append, ← List.append_assoc] at hes
        exact .inl ⟨l, p, l', (List.append_inj' hes rfl).1, hr⟩

end

/-! ### A table in memory -/

/-- Messages of one byte. -/
def Codec.byte : Codec UInt8 := ⟨fun b => [b], fun l => l.headD 0, fun _ => rfl⟩

theorem Codec.fits_byte : Codec.byte.Fits := fun _ => Nat.one_lt_two_pow (by decide)

theorem prepared_newStmt : Prepared newStmt Codec.byte Codec.byte Codec.byte :=
  ⟨List.length_replicate, Codec.fits_byte, Codec.fits_byte, Codec.fits_byte⟩

/-- A table with a row for each serial number, or none. -/
def PlayerTable.rows : PlayerTable (UInt64 → Option PlayerRow) where
  executeSave
    | db, [.blob base, .blob item, .blob misc, .uint64 sn] =>
      if base.length ≤ blobLimit ∧ item.length ≤ blobLimit ∧ misc.length ≤ blobLimit then
        some (Function.update db sn ((db sn).map fun row =>
          { row with base := some base, item := some item, misc := some misc }))
      else none
    | _, _ => none
  selectPlayer db sn := db sn
  selectPlayer_executeSave := by
    intro db db' base item misc sn row hsave hselect
    obtain ⟨-, hdb⟩ := Option.ite_none_right_eq_some.1 hsave
    obtain rfl := Option.some.inj hdb
    rw [Function.update_self] at hselect
    obtain ⟨old, -, rfl⟩ := Option.map_eq_some_iff.1 hselect
    exact ⟨rfl, rfl, rfl⟩
  executeCreate db sn account name :=
    if (db sn).isSome then none
    else some (Function.update db sn (some ⟨sn, name, account, none, none, none⟩))
  Takes bytes := bytes.length ≤ blobLimit
  executes := by
    intro db base item misc sn hbase hitem hmisc
    dsimp only
    rw [if_pos ⟨hbase, hitem, hmisc⟩]
    rfl
  updates := by
    intro db db' base item misc sn hsave
    obtain ⟨-, hdb⟩ := Option.ite_none_right_eq_some.1 hsave
    obtain rfl := Option.some.inj hdb
    exact ⟨Function.update_self .., fun _ hne => Function.update_of_ne hne ..⟩
  inserts := by
    intro db db' sn account name hcreate
    obtain ⟨hnone, hdb⟩ := Option.ite_none_left_eq_some.1 hcreate
    obtain rfl := Option.some.inj hdb
    exact ⟨by simpa using hnone, fun _ hne => Function.update_of_ne hne ..⟩

/-- It takes parts of one byte. -/
theorem partsTaken_byte (player : ProtoPlayer UInt8 UInt8 UInt8) :
    PartsTaken .rows .byte .byte .byte player := by
  have hone : 1 ≤ blobLimit := by decide
  exact ⟨hone, hone, hone⟩

end MmoServer
