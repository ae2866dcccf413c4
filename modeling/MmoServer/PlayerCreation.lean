/-
**How a player is created in the table.**

A connector inserts a row for the player, and then saves the parts of the player to the row.  These
are two prepared statements, and each is committed on its own.  A statement that could not be prepared
is a null pointer in the map of the statements.

The handler looks at the statement for the insert twice, and never at the one for the save; and it
does not look at what the save returns.

Main definitions:

* `MmoServer.PlayerDb` — MySQL: every statement may fail, and then it changes nothing;
* `MmoServer.MysqlConnector` — the two statements of a connector, if they were prepared;
* `MmoServer.MysqlConnector.handleCreatePlayer` — the handler, with all it may do;
* `MmoServer.CreatesPlayer` — **a player is created as a whole or not at all**, and the answer says which.

Main results:

* `MmoServer.MysqlConnector.handleCreatePlayer_of_room` — what the handler does if the strings have
  room in the buffer of the statement;
* `MmoServer.MysqlConnector.createsPlayer_iff` — **when a creation is atomic**.
-/

import MmoServer.BindBuffer
import MmoServer.Outcome
import MmoServer.PlayerQuery

set_option relaxedAutoImplicit false
set_option autoImplicit false

namespace MmoServer

open Handler

/-! ### The database -/

/-- A row of `select sn, name, base, item, misc from player where account = ...`. -/
structure ListRow where
  sn : UInt64
  name : List UInt8
  base : Option (List UInt8)
  item : Option (List UInt8)
  misc : Option (List UInt8)

/-- MySQL.  A statement that fails leaves the table as it was. -/
structure PlayerDb (Db : Type) extends Mysql Db where
  /-- `insert into player ( sn, account, name, savetime, createtime ) value ( ?, ?, ?, now(), now() )`. -/
  executeCreate : Db → UInt64 → List UInt8 → List UInt8 → Option Db
  /-- `mysql_query` with the text of a query for players. -/
  query : Db → List UInt8 → Option (List ListRow)

/-- The parts of a player: how they are serialized, and what a list of players tells of them. -/
structure PlayerParts (Base Knap Misc LastWorld : Type) where
  base : Codec Base
  knap : Codec Knap
  misc : Codec Misc
  gender : Base → ℕ
  level : Base → ℤ
  lastWorld : Misc → Option LastWorld
  lastDungeon : Misc → Option LastWorld

/-- `Proto::PlayerLittle`. -/
structure PlayerLittle (LastWorld : Type) where
  sn : UInt64
  name : List UInt8
  gender : ℕ
  level : ℤ
  lastWorld : Option LastWorld
  lastDungeon : Option LastWorld

/-- `CreatePlayerReturnCode`. -/
inductive CreatePlayerReturnCode
  | createOk
  | unkonwn
  | rename
  deriving DecidableEq

/-- The answers to a request to create a player. -/
inductive CreationReply (LastWorld : Type)
  /-- `L2DB_QueryPlayerListRs`. -/
  | playerList (account : List UInt8) (players : List (PlayerLittle LastWorld))
  /-- `L2DB_CreatePlayerRs`. -/
  | createPlayerRs (account : List UInt8) (returnCode : CreatePlayerReturnCode)

/-- Whether a request is treated as successful. -/
def CreationReply.isList {LastWorld : Type} : CreationReply LastWorld → Bool
  | playerList _ _ => true
  | createPlayerRs _ _ => false

/-- A request under way: the table, and which statements took effect. -/
structure CreationState (Db : Type) where
  db : Db
  inserted : Bool
  saved : Bool

/-! ### The connector -/

/-- A statement that was prepared: its buffer is allocated with it. -/
structure PreparedStmt extends DatabaseStmt where
  length_bindBuffer : bindBuffer.length = maxBindBuffer

/-- `_mapStmt`, after `InitStmts`. -/
structure MysqlConnector where
  create : Option PreparedStmt
  save : Option PreparedStmt

section

variable {Db Base Knap Misc LastWorld : Type} (mysql : PlayerDb Db)
  (parts : PlayerParts Base Knap Misc LastWorld)

/-- An entry of a list of players; nothing if a blob is read outside of its allocation. -/
def playerLittle (row : ListRow) : Option (PlayerLittle LastWorld) := do
  let base ← getBlob row.base
  let misc ← getBlob row.misc
  some
    { sn := row.sn
      name := cStr row.name
      gender := parts.gender (parts.base.parse base)
      level := parts.level (parts.base.parse base)
      lastWorld := parts.lastWorld (parts.misc.parse misc)
      lastDungeon := parts.lastDungeon (parts.misc.parse misc) }

/-- The players of an account, if they can be queried and read. -/
def accountPlayers (db : Db) (account : List UInt8) : Option (List (PlayerLittle LastWorld)) :=
  (mysql.query db (queryPlayerList account)).bind fun rows => rows.mapM (playerLittle parts)

/-- What a save binds. -/
def saveValues (player : ProtoPlayer Base Knap Misc) : Option (List ParamValue) :=
  allValues [DatabaseStmt.boundBlob (parts.base.serialize player.base),
    DatabaseStmt.boundBlob (parts.knap.serialize player.knap),
    DatabaseStmt.boundBlob (parts.misc.serialize player.misc), some (.uint64 player.sn)]

namespace MysqlConnector

/-- `QueryPlayerList`: a query that fails is not answered. -/
def queryPlayerList (account : List UInt8) (t : CreationState Db) :
    Outcome (CreationState Db) (CreationReply LastWorld) :=
  match mysql.query t.db (MmoServer.queryPlayerList account) with
  | none => Outcome.pure t
  | some rows =>
    match rows.mapM (playerLittle parts) with
    | none => Outcome.crash []
    | some players => Outcome.send [.playerList (cStr account) players] t

/-- `OnSavePlayer`, where what it returns is not used.  The statement is used as it is. -/
def onSavePlayer (stmtSave : Option PreparedStmt) (player : ProtoPlayer Base Knap Misc)
    (t : CreationState Db) : Outcome (CreationState Db) (CreationReply LastWorld) :=
  match stmtSave with
  | none => Outcome.crash []
  | some stmt =>
    let added := do
      let stmt ← stmt.clearStmtParam.addParamBlob (parts.base.serialize player.base)
      let stmt ← stmt.addParamBlob (parts.knap.serialize player.knap)
      let stmt ← stmt.addParamBlob (parts.misc.serialize player.misc)
      let stmt ← stmt.addParamUint64 player.sn
      allValues stmt.values
    match added with
    -- a parameter is written or read outside of its allocation
    | none => Outcome.crash []
    | some values =>
      match mysql.executeSave t.db values with
      | none => Outcome.pure t
      | some db => Outcome.pure { t with db := db, saved := true }

/-- `HandleCreatePlayer`. -/
def handleCreatePlayer (c : MysqlConnector) (account : List UInt8)
    (player : ProtoPlayer Base Knap Misc) (t : CreationState Db) :
    Outcome (CreationState Db) (CreationReply LastWorld) :=
  match c.create with
  -- the request is dropped; the second check is about this statement again
  | none => Outcome.pure t
  | some stmt =>
    match Assignment.writeAll stmt.bindBuffer
        (BindRequest.create player.sn account player.name).bound.assigned with
    | none => Outcome.crash []
    | some _ =>
      match mysql.executeCreate t.db player.sn (boundStr account) (boundStr player.name) with
      | none => Outcome.send [.createPlayerRs (cStr account) .unkonwn] t
      | some db =>
        (onSavePlayer mysql parts c.save player { t with db := db, inserted := true }).andThen
          (queryPlayerList mysql parts account)

end MysqlConnector

/-- **A player is created as a whole or not at all**: the request is answered once, with the list of
players exactly if both statements took effect, and else with a failure code, and then the table is as
it was. -/
def CreatesPlayer (db : Db) (o : Outcome (CreationState Db) (CreationReply LastWorld)) : Prop :=
  ∃ t reply, o.state = some t ∧ o.sent = [reply] ∧
    (reply.isList = true ↔ t.inserted = true ∧ t.saved = true) ∧
    (reply.isList = false →
      t.db = db ∧ ∃ account code, reply = .createPlayerRs account code ∧ code ≠ .createOk)

/-- **What has to go well**: the statement for the insert was prepared, and the strings have room in its
buffer; and if the row is inserted, the other statement was prepared as well, the save takes effect, and the
players of the account can be queried. -/
def CreationServed (c : MysqlConnector) (db : Db) (account : List UInt8)
    (player : ProtoPlayer Base Knap Misc) : Prop :=
  c.create ≠ none ∧ (BindRequest.create player.sn account player.name).HasRoom ∧
    ∀ db₁, mysql.executeCreate db player.sn (boundStr account) (boundStr player.name) = some db₁ →
      c.save ≠ none ∧ ∃ values db₂ players, saveValues parts player = some values ∧
        mysql.executeSave db₁ values = some db₂ ∧ accountPlayers mysql parts db₂ account = some players

namespace MysqlConnector

variable {mysql parts}

/-- **What a save does**, if its statement was prepared. -/
theorem onSavePlayer_some (stmt : PreparedStmt) (player : ProtoPlayer Base Knap Misc)
    (t : CreationState Db) :
    onSavePlayer mysql parts (some stmt) player t =
      match saveValues parts player with
      | none => Outcome.crash []
      | some values =>
        match mysql.executeSave t.db values with
        | none => Outcome.pure t
        | some db => Outcome.pure { t with db := db, saved := true } := by
  obtain ⟨s₁, s₂, s₃, s₄, h₁, h₂, h₃, h₄, hvalues⟩ := exists_saveParams stmt.length_bindBuffer
    (parts.base.serialize player.base) (parts.knap.serialize player.knap)
    (parts.misc.serialize player.misc) player.sn
  unfold onSavePlayer saveValues
  simp only [h₁, h₂, h₃, h₄, hvalues, Option.bind_eq_bind, Option.bind_some]

/-- **What the handler does**, if the strings have room in the buffer of the statement. -/
theorem handleCreatePlayer_of_room {c : MysqlConnector} {stmt : PreparedStmt}
    (hcreate : c.create = some stmt) {account : List UInt8} {player : ProtoPlayer Base Knap Misc}
    (hroom : (BindRequest.create player.sn account player.name).HasRoom) (t : CreationState Db) :
    handleCreatePlayer mysql parts c account player t =
      match mysql.executeCreate t.db player.sn (boundStr account) (boundStr player.name) with
      | none => Outcome.send [.createPlayerRs (cStr account) .unkonwn] t
      | some db =>
        (onSavePlayer mysql parts c.save player { t with db := db, inserted := true }).andThen
          (queryPlayerList mysql parts account) := by
  have hwrite : (Assignment.writeAll stmt.bindBuffer
      (BindRequest.create player.sn account player.name).bound.assigned).isSome = true := by
    rw [Assignment.isSome_writeAll_iff, stmt.length_bindBuffer]
    exact ((BindRequest.regionsSafe_iff _).2 hroom).1
  obtain ⟨buffer, hbuffer⟩ := Option.isSome_iff_exists.1 hwrite
  unfold handleCreatePlayer
  rw [hcreate]
  simp only [hbuffer]

/-- Strings without room are written past the end of the buffer. -/
theorem handleCreatePlayer_of_not_room {c : MysqlConnector} {stmt : PreparedStmt}
    (hcreate : c.create = some stmt) {account : List UInt8} {player : ProtoPlayer Base Knap Misc}
    (hroom : ¬ (BindRequest.create player.sn account player.name).HasRoom) (t : CreationState Db) :
    handleCreatePlayer mysql parts c account player t = Outcome.crash [] := by
  have hwrite : Assignment.writeAll stmt.bindBuffer
      (BindRequest.create player.sn account player.name).bound.assigned = none := by
    rw [← Option.not_isSome_iff_eq_none, Assignment.isSome_writeAll_iff, stmt.length_bindBuffer]
    intro hlimits
    exact hroom ((BindRequest.regionsSafe_iff _).1 ⟨hlimits, BindRequest.pairwise_disjoint _⟩)
  unfold handleCreatePlayer
  rw [hcreate]
  simp only [hwrite]

/-! ### Which answers there are -/

/-- There is no answer behind a crash. -/
theorem not_createsPlayer_crash (db : Db) :
    ¬ CreatesPlayer db (Outcome.crash [] : Outcome (CreationState Db) (CreationReply LastWorld)) := by
  rintro ⟨t, reply, hstate, -⟩
  cases hstate

/-- A request that is dropped is not answered. -/
theorem not_createsPlayer_pure (db : Db) (t : CreationState Db) :
    ¬ CreatesPlayer db (Outcome.pure t : Outcome (CreationState Db) (CreationReply LastWorld)) := by
  rintro ⟨t', reply, -, hsent, -⟩
  cases hsent

/-- **The query behind the two statements**: it answers with a list, if there is an answer. -/
theorem createsPlayer_query (db : Db) (account : List UInt8) (t : CreationState Db) :
    CreatesPlayer db (queryPlayerList mysql parts account t) ↔
      (t.inserted = true ∧ t.saved = true) ∧
        ∃ players, accountPlayers mysql parts t.db account = some players := by
  unfold queryPlayerList accountPlayers
  cases hquery : mysql.query t.db (MmoServer.queryPlayerList account) with
  | none =>
    simp only [Option.bind_none, reduceCtorEq, exists_false, and_false, iff_false]
    exact not_createsPlayer_pure db t
  | some rows =>
    simp only [Option.bind_some]
    cases hrows : rows.mapM (playerLittle parts) with
    | none =>
      simp only [reduceCtorEq, exists_false, and_false, iff_false]
      exact not_createsPlayer_crash db
    | some players =>
      simp only [Option.some.injEq, exists_eq', and_true]
      constructor
      · rintro ⟨t', reply, hstate, hsent, hlist, -⟩
        obtain rfl := Option.some.inj hstate
        obtain rfl := (List.cons.inj hsent).1
        exact hlist.1 rfl
      · intro hboth
        refine ⟨t, _, rfl, rfl, iff_of_true rfl hboth, fun hfailed => ?_⟩
        cases hfailed

/-- A failure code is right if the row was not inserted. -/
theorem createsPlayer_failed (db : Db) (account : List UInt8) :
    CreatesPlayer db (Outcome.send [.createPlayerRs account .unkonwn] ⟨db, false, false⟩ :
      Outcome (CreationState Db) (CreationReply LastWorld)) := by
  refine ⟨_, _, rfl, rfl, ?_, fun _ => ⟨rfl, account, .unkonwn, rfl, ?_⟩⟩
  · simp [CreationReply.isList]
  · intro h
    cases h

/-- **The save behind the insert**: only if it takes effect, the list is the right answer. -/
theorem createsPlayer_save (db : Db) (stmtSave : Option PreparedStmt) (account : List UInt8)
    (player : ProtoPlayer Base Knap Misc) (db₁ : Db) :
    CreatesPlayer db ((onSavePlayer mysql parts stmtSave player ⟨db₁, true, false⟩).andThen
        (queryPlayerList mysql parts account)) ↔
      stmtSave ≠ none ∧ ∃ values db₂ players, saveValues parts player = some values ∧
        mysql.executeSave db₁ values = some db₂ ∧
        accountPlayers mysql parts db₂ account = some players := by
  cases stmtSave with
  | none =>
    refine iff_of_false (not_createsPlayer_crash db) ?_
    rintro ⟨hprepared, -⟩
    exact hprepared rfl
  | some stmt =>
    rw [onSavePlayer_some]
    cases hvalues : saveValues parts player with
    | none =>
      refine iff_of_false (not_createsPlayer_crash db) ?_
      rintro ⟨-, values, -, -, hsome, -⟩
      cases hsome
    | some values =>
      cases hexecute : mysql.executeSave db₁ values with
      | none =>
        -- what the save returned is not looked at, so the players are queried as if it had succeeded
        simp only [hexecute, Outcome.andThen_pure, createsPlayer_query, Bool.false_eq_true, and_false,
          false_and, false_iff]
        rintro ⟨-, values', db₂, -, hsome, htaken, -⟩
        obtain rfl := Option.some.inj hsome
        rw [hexecute] at htaken
        cases htaken
      | some db₂ =>
        simp only [hexecute, Outcome.andThen_pure, createsPlayer_query]
        constructor
        · rintro ⟨-, players, hplayers⟩
          exact ⟨by simp, values, db₂, players, rfl, hexecute, hplayers⟩
        · rintro ⟨-, values', db₂', players, hsome, htaken, hplayers⟩
          obtain rfl := Option.some.inj hsome
          obtain rfl := Option.some.inj (hexecute.symm.trans htaken)
          exact ⟨⟨trivial, trivial⟩, players, hplayers⟩

/-- **When a creation is atomic.** -/
theorem createsPlayer_iff (c : MysqlConnector) (db : Db) (account : List UInt8)
    (player : ProtoPlayer Base Knap Misc) :
    CreatesPlayer db (handleCreatePlayer mysql parts c account player ⟨db, false, false⟩) ↔
      CreationServed mysql parts c db account player := by
  unfold CreationServed
  cases hcreate : c.create with
  | none =>
    have hdropped : handleCreatePlayer mysql parts c account player ⟨db, false, false⟩ =
        Outcome.pure ⟨db, false, false⟩ := by
      unfold handleCreatePlayer
      rw [hcreate]
    rw [hdropped]
    refine iff_of_false (not_createsPlayer_pure db _) ?_
    rintro ⟨hprepared, -⟩
    exact hprepared rfl
  | some stmt =>
    by_cases hroom : (BindRequest.create player.sn account player.name).HasRoom
    · rw [handleCreatePlayer_of_room hcreate hroom]
      simp only [ne_eq, reduceCtorEq, not_false_eq_true, true_and, hroom]
      cases hinsert : mysql.executeCreate db player.sn (boundStr account) (boundStr player.name) with
      | none =>
        simp only [reduceCtorEq, false_implies, implies_true, iff_true]
        exact createsPlayer_failed db (cStr account)
      | some db₁ =>
        simp only [Option.some.injEq, forall_eq']
        exact createsPlayer_save db c.save account player db₁
    · rw [handleCreatePlayer_of_not_room hcreate hroom]
      refine iff_of_false (not_createsPlayer_crash db) ?_
      rintro ⟨-, hfits, -⟩
      exact hroom hfits

/-! ### The table behind it -/

/-- A query leaves the table as it is. -/
theorem queryPlayerList_meets (account : List UInt8) {P : Db → Prop} {t : CreationState Db}
    (ht : P t.db) : (queryPlayerList mysql parts account t).Meets (fun _ => True) (fun t => P t.db) := by
  unfold queryPlayerList
  split
  · exact Outcome.meets_pure ht
  · split
    · exact Outcome.meets_crash fun m hm => trivial
    · exact Outcome.meets_send (fun m hm => trivial) ht

/-- **The handler does to the table** what the connectors do that handle one request after the other, if both
statements are there and it does not crash. -/
theorem handleCreatePlayer_db (table : PlayerTable Db) (query : Db → List UInt8 → Option (List ListRow))
    (stmt stmtSave : PreparedStmt) (db : Db) (account : List UInt8)
    (player : ProtoPlayer Base Knap Misc) :
    (handleCreatePlayer ⟨table.toMysql, table.executeCreate, query⟩ parts ⟨some stmt, some stmtSave⟩ account
      player ⟨db, false, false⟩).Meets (fun _ => True) (fun t => t.db =
        MmoServer.handleCreatePlayer table parts.base parts.knap parts.misc stmtSave.toDatabaseStmt db account
          player) := by
  by_cases hroom : (BindRequest.create player.sn account player.name).HasRoom
  · rw [handleCreatePlayer_of_room rfl hroom]
    unfold MmoServer.handleCreatePlayer
    dsimp only
    cases hinsert : table.executeCreate db player.sn (boundStr account) (boundStr player.name) with
    | none => exact Outcome.meets_send (fun m hm => trivial) rfl
    | some db₁ =>
      have hsave := @onSavePlayer_eq _ _ _ _ table.toMysql parts.base parts.knap parts.misc _
        stmtSave.length_bindBuffer db₁ player
      unfold handleSavePlayer
      dsimp only
      rw [hsave]
      refine Outcome.Meets.andThen ?_ fun t (ht : t.db = _) => queryPlayerList_meets (P := (· = _)) account ht
      rw [onSavePlayer_some]
      unfold saveValues
      cases allValues [DatabaseStmt.boundBlob (parts.base.serialize player.base),
          DatabaseStmt.boundBlob (parts.knap.serialize player.knap),
          DatabaseStmt.boundBlob (parts.misc.serialize player.misc), some (.uint64 player.sn)] with
      | none => exact Outcome.meets_crash fun m hm => trivial
      | some values =>
        dsimp only [Option.bind_some]
        cases table.executeSave db₁ values with
        | none => exact Outcome.meets_pure rfl
        | some db₂ => exact Outcome.meets_pure rfl
  · rw [handleCreatePlayer_of_not_room rfl hroom]
    exact Outcome.meets_crash fun m hm => trivial

end MysqlConnector

end

/-! ### A save that fails -/

/-- A table that has the player or not, and cannot be updated. -/
def PlayerDb.insertOnly : PlayerDb Bool where
  executeSave _ _ := none
  selectPlayer _ _ := none
  selectPlayer_executeSave := by
    intro db db' base item misc sn row hsave
    cases hsave
  executeCreate db _ _ _ := if db then none else some true
  query db _ := some (if db then [⟨7, [97], none, none, none⟩] else [])

/-- Parts that are their own bytes. -/
def PlayerParts.bytes : PlayerParts (List UInt8) (List UInt8) (List UInt8) Unit where
  base := Codec.bytes
  knap := Codec.bytes
  misc := Codec.bytes
  gender _ := 0
  level _ := 0
  lastWorld _ := none
  lastDungeon _ := none

/-- The buffer of a statement that was just prepared. -/
def newPrepared : PreparedStmt := ⟨newStmt, List.length_replicate⟩

namespace MysqlConnector

/-- **A save that fails** is answered with the list that has the half-created player; **a save that was not
prepared** is a null pointer, when the row is inserted already. -/
theorem not_createsPlayer_save :
    handleCreatePlayer PlayerDb.insertOnly PlayerParts.bytes ⟨some newPrepared, some newPrepared⟩ [98]
        ⟨7, [97], [], [], []⟩ ⟨false, false, false⟩ =
      Outcome.send [.playerList [98] [⟨7, [97], 0, 0, none, none⟩]] ⟨true, true, false⟩ ∧
    ¬ ∀ (c : MysqlConnector) (account : List UInt8)
        (player : ProtoPlayer (List UInt8) (List UInt8) (List UInt8)),
      CreatesPlayer false (handleCreatePlayer PlayerDb.insertOnly PlayerParts.bytes c account player
        ⟨false, false, false⟩) := by
  have hroom : (BindRequest.create 7 [98] [97]).HasRoom := by
    unfold BindRequest.HasRoom
    decide
  constructor
  · rw [handleCreatePlayer_of_room rfl hroom]
    simp only [PlayerDb.insertOnly, Bool.false_eq_true, if_false, onSavePlayer_some]
    rfl
  · intro hall
    have hnull := hall ⟨some newPrepared, none⟩ [98] ⟨7, [97], [], [], []⟩
    rw [handleCreatePlayer_of_room rfl hroom] at hnull
    exact not_createsPlayer_crash false hnull

end MysqlConnector

end MmoServer
