/-
**How the database is created, and updated to a newer version.**

Before anything else, a dbmgr checks its database.  If MySQL does not know it, it is created: the database, a table of
the version, a table of the players, and at last the row of version 0.  If MySQL knows it, its version is read, and
the update functions of the newer versions are called one after the other; behind each of them the version is
recorded.  MySQL can be gone before each of the statements, and behind each of them; a check that was interrupted is
made again when the dbmgr is started again.

Main definitions:

* `MmoServer.Statement`, `MmoServer.MysqlServer` — the calls, and MySQL with its documented laws;
* `MmoServer.UpdatePlan` — the newest version, and the update functions;
* `MmoServer.UpdatePlan.check` — `MysqlTableUpdate::Check`;
* `MmoServer.UpdatePlan.runs` — checks one after the other, each with its own interruptions;
* `MmoServer.UpdatePlan.goal` — what a check that is not interrupted comes to;
* `MmoServer.UpdatePlan.Repeatable` — update functions that may be begun again.

Main results:

* `MmoServer.UpdatePlan.creation_run` — **a creation** is finished by the check that begins it or never: checks that
  come later change nothing;
* `MmoServer.UpdatePlan.updates_run` — **updates that may be begun again** lead to what they are for, whatever
  interrupts them.
-/

import MmoServer.Interruption

set_option relaxedAutoImplicit false
set_option autoImplicit false

namespace MmoServer

open Interruption

variable {Alter Db : Type}

/-! ### MySQL -/

/-- The calls to MySQL; the update functions have statements of their own. -/
inductive Statement (Alter : Type)
  | realConnect
  | selectDb
  | createDatabase
  | setCharacterSet
  | alterDatabase
  | createVersion
  | createPlayer
  | insertVersion
  | selectVersion
  | alter (stmt : Alter)
  | setVersion (version : ℕ)
  | ping
  deriving DecidableEq

/-- The calls that do not write to the table of the version, and create no database. -/
inductive Statement.Elsewhere : Statement Alter → Prop
  | setCharacterSet : Elsewhere .setCharacterSet
  | alterDatabase : Elsewhere .alterDatabase
  | createPlayer : Elsewhere .createPlayer
  | alter (stmt : Alter) : Elsewhere (.alter stmt)

/-- `mysql_errno`: `ER_BAD_DB_ERROR` is told apart from the others. -/
inductive MysqlErrno
  | badDb
  | other
  deriving DecidableEq

/-- **MySQL.**  A call that succeeds is answered with rows of a single column; one that fails changes nothing.  The
laws are about the database of the configuration, and the rows of its table `version`, in the order in which they are
answered. -/
structure MysqlServer (Alter Db : Type) where
  exec : Db → Statement Alter → Except MysqlErrno (Db × List ℕ)
  known : Db → Prop
  rows : Db → Option (List ℕ)
  realConnect_eq : ∀ db, exec db .realConnect = .ok (db, [])
  ping_eq : ∀ db, exec db .ping = .ok (db, [])
  selectDb_known : ∀ db, known db → exec db .selectDb = .ok (db, [])
  selectDb_unknown : ∀ db, ¬ known db → exec db .selectDb = .error .badDb
  selectVersion_some : ∀ db version, rows db = some version → exec db .selectVersion = .ok (db, version)
  selectVersion_none : ∀ db, rows db = none → ∃ e, exec db .selectVersion = .error e
  /-- `IF NOT EXISTS`: a database that is new has no tables. -/
  createDatabase_new : ∀ db db' answer, ¬ known db → exec db .createDatabase = .ok (db', answer) →
    known db' ∧ rows db' = none
  /-- `IF NOT EXISTS`: a table that is new has no rows. -/
  createVersion_ok : ∀ db db' answer, known db → exec db .createVersion = .ok (db', answer) →
    known db' ∧ rows db' = some ((rows db).getD [])
  insertVersion_ok : ∀ db db' answer, known db → exec db .insertVersion = .ok (db', answer) →
    known db' ∧ ∃ before after, rows db = some before ∧ rows db' = some after ∧ after.Perm (0 :: before)
  setVersion_ok : ∀ db db' answer version, known db → exec db (.setVersion version) = .ok (db', answer) →
    known db' ∧ rows db' = (rows db).map fun before => before.map fun _ => version
  elsewhere_ok : ∀ db db' answer stmt, known db → stmt.Elsewhere → exec db stmt = .ok (db', answer) →
    known db' ∧ rows db' = rows db

namespace MysqlServer

/-- MySQL, with the error of a connection that is gone. -/
def store (mysql : MysqlServer Alter Db) : Store (Statement Alter) (List ℕ) MysqlErrno Db := ⟨mysql.exec, .other⟩

variable (mysql : MysqlServer Alter Db)

/-- A creation that did not come to its end: the database is known, and there is no version in it. -/
def Unfinished (db : Db) : Prop := mysql.known db ∧ (mysql.rows db).getD [] = []

/-- A database at a version. -/
def At (version : ℕ) (db : Db) : Prop := mysql.known db ∧ mysql.rows db = some [version]

variable {mysql} {db db' : Db} {answer : List ℕ}

theorem not_unfinished_at {version : ℕ} (h : mysql.At version db) : ¬ mysql.Unfinished db := by
  rintro ⟨-, hrows⟩
  rw [h.2] at hrows
  cases hrows

theorem At.version_eq {version version' : ℕ} (h : mysql.At version db) (h' : mysql.At version' db) :
    version = version' := by
  have hrows := h.2.symm.trans h'.2
  simpa using hrows

/-- A call that has nothing to do with the version. -/
theorem At.elsewhere {version : ℕ} {stmt : Statement Alter} (h : mysql.At version db) (hstmt : stmt.Elsewhere)
    (hexec : mysql.exec db stmt = .ok (db', answer)) : mysql.At version db' := by
  obtain ⟨hknown, hrows⟩ := mysql.elsewhere_ok db db' answer stmt h.1 hstmt hexec
  exact ⟨hknown, hrows.trans h.2⟩

/-- A version is recorded. -/
theorem At.setVersion {version recorded : ℕ} (h : mysql.At version db)
    (hexec : mysql.exec db (.setVersion recorded) = .ok (db', answer)) : mysql.At recorded db' := by
  obtain ⟨hknown, hrows⟩ := mysql.setVersion_ok db db' answer recorded h.1 hexec
  rw [h.2] at hrows
  exact ⟨hknown, hrows⟩

end MysqlServer

/-! ### The check -/

/-- A function that makes statements, and ends with a value. -/
abbrev Script (Stmt α : Type) := Prog Stmt (List ℕ) MysqlErrno α

/-- What a version of the program brings along: `_version` and `_update_func`. -/
structure UpdatePlan (Alter : Type) where
  version : ℕ
  updateFunc : List (Option (Script Alter Bool))
  /-- `_update_func[i]` is no access behind the vector. -/
  version_lt : version < updateFunc.length

namespace UpdatePlan

variable (plan : UpdatePlan Alter)

/-- The statements of `CreateDatabaseIfNotExist`, each behind those that succeeded. -/
def creation : List (Statement Alter) :=
  [.createDatabase, .selectDb, .setCharacterSet, .alterDatabase, .createVersion, .createPlayer, .insertVersion]

/-- `CreateDatabaseIfNotExist`. -/
def createDatabaseIfNotExist : Script (Statement Alter) Bool := .allOf creation

/-- The loop of `UpdateToVersion` from a version on, for as many as are left. -/
def updateFrom : ℕ → ℕ → Script (Statement Alter) Bool
  | 0, _ => .done true
  | left + 1, i =>
    match plan.updateFunc.getD i none with
    | none => updateFrom left (i + 1)
    | some func =>
      (func.mapStmt .alter).bind fun updated =>
        if updated then
          .call (.setVersion i) fun answer =>
            match answer with
            | .ok _ => updateFrom left (i + 1)
            | .error _ => .done false
        else .done false

/-- `UpdateToVersion`. -/
def updateToVersion : Script (Statement Alter) Bool :=
  .call .selectVersion fun answer =>
    match answer with
    | .error _ => .done false
    -- `Fetch` gives no row
    | .ok [] => .done false
    | .ok (version :: _) =>
      if version = plan.version then .done true
      else plan.updateFrom (plan.version - version) (version + 1)

/-- The end of `Check`. -/
def checkVersion : Script (Statement Alter) Unit :=
  plan.updateToVersion.bind fun updated =>
    if updated then .call .ping fun _ => .done () else .done ()

/-- **`MysqlTableUpdate::Check`.** -/
def check : Script (Statement Alter) Unit :=
  .call .realConnect fun connected =>
    match connected with
    | .error _ => .done ()
    | .ok _ => .call .selectDb fun selected =>
      match selected with
      | .ok _ => plan.checkVersion
      | .error .badDb =>
        createDatabaseIfNotExist.bind fun created =>
          if created then
            .call .selectDb fun selected =>
              match selected with
              | .ok _ => plan.checkVersion
              | .error _ => .done ()
          else .done ()
      | .error .other => .done ()

variable (mysql : MysqlServer Alter Db)

/-- A check of a database. -/
def start (fates : List Fate) (db : Db) : Outcome (Statement Alter) Db Unit :=
  plan.check.run mysql.store fates db

/-- **Checks one after the other**, each with its own interruptions. -/
def runs (starts : List (List Fate)) (db : Db) : Db :=
  starts.foldl (fun db fates => (plan.start mysql fates db).db) db

variable {plan mysql} {db db' : Db} {log : List (Statement Alter)}

@[simp] theorem runs_nil (db : Db) : plan.runs mysql [] db = db := rfl

@[simp] theorem runs_cons (fates : List Fate) (starts : List (List Fate)) (db : Db) :
    plan.runs mysql (fates :: starts) db = plan.runs mysql starts (plan.start mysql fates db).db := rfl

theorem runs_append (starts later : List (List Fate)) (db : Db) :
    plan.runs mysql (starts ++ later) db = plan.runs mysql later (plan.runs mysql starts db) := by
  simp only [runs, List.foldl_append]

/-- What no check changes stays for ever. -/
theorem runs_eq_self (h : ∀ fates, (plan.start mysql fates db).db = db) (starts : List (List Fate)) :
    plan.runs mysql starts db = db := by
  induction starts with
  | nil => rfl
  | cons fates starts ih => rw [runs_cons, h, ih]

/-- A check is a run of its program. -/
theorem ends_start (plan : UpdatePlan Alter) (mysql : MysqlServer Alter Db) (fates : List Fate) (db : Db) :
    plan.check.Ends mysql.store db (plan.start mysql fates db).log (plan.start mysql fates db).db () :=
  Prog.ends_run mysql.store plan.check fates db

/-! ### Databases that are known -/

/-- The last call of a check changes nothing. -/
theorem ends_ping {updated : Bool} {u : Unit}
    (h : (if updated = true then .call .ping fun _ => .done () else .done () : Script (Statement Alter) Unit).Ends
      mysql.store db log db' u) : db' = db := by
  split at h
  · rcases h.of_call_ok (mysql.ping_eq db) with ⟨_, rest, -⟩ | ⟨_, rest, -⟩ | rest
    all_goals cases rest; rfl
  · cases h
    rfl

/-- What a check does with a database that MySQL knows: nothing, or what its end does. -/
theorem check_known {u : Unit} (hknown : mysql.known db) (h : plan.check.Ends mysql.store db log db' u) :
    db' = db ∨ ∃ log₁, plan.checkVersion.Ends mysql.store db log₁ db' u := by
  rcases h.of_call_ok (mysql.realConnect_eq db) with ⟨_, rest, -⟩ | ⟨_, rest, -⟩ | rest
  · rcases rest.of_call_ok (mysql.selectDb_known db hknown) with ⟨log₁, rest, -⟩ | ⟨_, rest, -⟩ | rest
    · exact .inr ⟨log₁, rest⟩
    · cases rest
      exact .inl rfl
    · cases rest
      exact .inl rfl
  · cases rest
    exact .inl rfl
  · cases rest
    exact .inl rfl

/-- A database without a version is left as it is by the end of a check. -/
theorem checkVersion_unfinished {u : Unit} (hdb : mysql.Unfinished db)
    (h : plan.checkVersion.Ends mysql.store db log db' u) : db' = db := by
  obtain ⟨log₁, db₁, updated, log₂, hupdate, hping, -⟩ := h.of_bind
  obtain rfl := ends_ping hping
  cases hrows : mysql.rows db with
  | none =>
    obtain ⟨e, hexec⟩ := mysql.selectVersion_none db hrows
    rcases hupdate.of_call_error hexec with rest | rest
    all_goals cases rest; rfl
  | some version =>
    obtain rfl : version = [] := by simpa only [hrows, Option.getD_some] using hdb.2
    rcases hupdate.of_call_ok (mysql.selectVersion_some db [] hrows) with ⟨_, rest, -⟩ | ⟨_, rest, -⟩ | rest
    all_goals cases rest; rfl

/-- The end of a check of a database at a version changes nothing, or what it changes is done by the loop of the
versions. -/
theorem checkVersion_at {version : ℕ} {u : Unit} (hat : mysql.At version db)
    (h : plan.checkVersion.Ends mysql.store db log db' u) :
    db' = db ∨ version < plan.version ∧ ∃ log₁ ok,
      (plan.updateFrom (plan.version - version) (version + 1)).Ends mysql.store db log₁ db' ok := by
  obtain ⟨log₁, db₁, updated, log₂, hupdate, hping, -⟩ := h.of_bind
  obtain rfl := ends_ping hping
  rcases hupdate.of_call_ok (mysql.selectVersion_some db [version] hat.2) with
    ⟨log₃, rest, -⟩ | ⟨_, rest, -⟩ | rest
  · dsimp only at rest
    split at rest
    · cases rest
      exact .inl rfl
    · rcases Nat.lt_or_ge version plan.version with hlt | hge
      · exact .inr ⟨hlt, log₃, updated, rest⟩
      · rw [Nat.sub_eq_zero_of_le hge] at rest
        cases rest
        exact .inl rfl
  · cases rest
    exact .inl rfl
  · cases rest
    exact .inl rfl

/-- **A check of a database at a version** changes nothing, or what it changes is done by the loop of the versions. -/
theorem check_at {version : ℕ} {u : Unit} (hat : mysql.At version db) (h : plan.check.Ends mysql.store db log db' u) :
    db' = db ∨ version < plan.version ∧ ∃ log₁ ok,
      (plan.updateFrom (plan.version - version) (version + 1)).Ends mysql.store db log₁ db' ok := by
  rcases check_known hat.1 h with hsame | ⟨log₁, hversion⟩
  · exact .inl hsame
  · exact checkVersion_at hat hversion

/-! ### The loop of the versions -/

/-- An update function leaves a database at its version. -/
theorem ends_updateFunc {func : Script Alter Bool} {version : ℕ} {ok : Bool} (hat : mysql.At version db)
    (h : (func.mapStmt .alter).Ends mysql.store db log db' ok) : mysql.At version db' := by
  refine execAll_invariant (fun stmt hmem db db' answer hdb hexec => ?_) hat h.execAll
  obtain ⟨stmt', rfl⟩ := h.mem_range stmt hmem
  exact hdb.elsewhere (.alter stmt') hexec

/-- The loop leaves a database at a version, which is the old one or that of a function that it called. -/
theorem updateFrom_at {left i version : ℕ} {ok : Bool} (hat : mysql.At version db)
    (hends : (plan.updateFrom left i).Ends mysql.store db log db' ok) :
    ∃ version', mysql.At version' db' ∧ (version' = version ∨ i ≤ version') := by
  induction left generalizing i version db log with
  | zero =>
    cases hends
    exact ⟨version, hat, .inl rfl⟩
  | succ left ih =>
    rw [updateFrom] at hends
    cases hfunc : plan.updateFunc.getD i none with
    | none =>
      simp only [hfunc] at hends
      obtain ⟨version', hat', hversion⟩ := ih hat hends
      exact ⟨version', hat', hversion.imp_right (by omega)⟩
    | some func =>
      simp only [hfunc] at hends
      obtain ⟨log₁, db₁, updated, log₂, hfirst, hsecond, -⟩ := hends.of_bind
      have hat₁ := ends_updateFunc hat hfirst
      cases updated with
      | false =>
        cases hsecond
        exact ⟨version, hat₁, .inl rfl⟩
      | true =>
        cases hsecond with
        | served exec rest =>
          obtain ⟨version', hat', hversion⟩ := ih (hat₁.setVersion exec) rest
          exact ⟨version', hat', .inr (by omega)⟩
        | lost exec rest =>
          cases rest
          exact ⟨i, hat₁.setVersion exec, .inr le_rfl⟩
        | refused rest =>
          cases rest
          exact ⟨version, hat₁, .inl rfl⟩
        | failed exec rest =>
          cases rest
          exact ⟨version, hat₁, .inl rfl⟩

/-- So does a check. -/
theorem start_at {version : ℕ} (hat : mysql.At version db) (fates : List Fate) :
    ∃ version', mysql.At version' (plan.start mysql fates db).db := by
  rcases check_at hat (plan.ends_start mysql fates db) with hsame | ⟨-, log, ok, hends⟩
  · exact ⟨version, by rw [hsame]; exact hat⟩
  · obtain ⟨version', hat', -⟩ := updateFrom_at hat hends
    exact ⟨version', hat'⟩

/-- A database at a version stays one. -/
theorem runs_at {version : ℕ} (hat : mysql.At version db) (starts : List (List Fate)) :
    ∃ version', mysql.At version' (plan.runs mysql starts db) := by
  induction starts generalizing version db with
  | nil => exact ⟨version, hat⟩
  | cons fates starts ih =>
    obtain ⟨version', hat'⟩ := start_at hat fates
    exact ih hat'

/-! ### Creations -/

/-- **A creation up to some point** leaves the database as it is, or without a version, or, as a whole, at
version 0. -/
theorem creation_prefix (hunknown : ¬ mysql.known db) (hlog : log <+: creation)
    (h : mysql.store.execAll db log = some db') :
    (.insertVersion ∉ log ∧ (db' = db ∨ mysql.Unfinished db')) ∨ (log = creation ∧ mysql.At 0 db') := by
  cases log with
  | nil => exact .inl ⟨List.not_mem_nil, .inl (Option.some.inj h).symm⟩
  | cons stmt log =>
    obtain ⟨rfl, hrest⟩ := List.cons_prefix_cons.1 hlog
    cases hcreate : mysql.exec db .createDatabase with
    | error e =>
      simp only [Store.execAll, MysqlServer.store, hcreate] at h
      cases h
    | ok res =>
      obtain ⟨db₁, answer⟩ := res
      simp only [Store.execAll, MysqlServer.store, hcreate] at h
      obtain ⟨hknown₁, hrows₁⟩ := mysql.createDatabase_new db db₁ answer hunknown hcreate
      have hunfinished₁ : mysql.Unfinished db₁ := ⟨hknown₁, by rw [hrows₁]; rfl⟩
      -- none of the statements in between gives the database a version
      have hbetween : ∀ stmts : List (Statement Alter),
          stmts ⊆ [.selectDb, .setCharacterSet, .alterDatabase, .createVersion, .createPlayer] →
            ∀ db₂, mysql.store.execAll db₁ stmts = some db₂ → mysql.Unfinished db₂ := by
        intro stmts hstmts db₂ hexec
        refine execAll_invariant (fun stmt hmem a b answer ha hab => ?_) hunfinished₁ hexec
        have hmem' := hstmts hmem
        simp only [List.mem_cons, List.not_mem_nil, or_false] at hmem'
        rcases hmem' with rfl | rfl | rfl | rfl | rfl
        · cases (mysql.selectDb_known a ha.1).symm.trans hab
          exact ha
        · obtain ⟨hknown, hrows⟩ := mysql.elsewhere_ok a b answer _ ha.1 .setCharacterSet hab
          exact ⟨hknown, by rw [hrows]; exact ha.2⟩
        · obtain ⟨hknown, hrows⟩ := mysql.elsewhere_ok a b answer _ ha.1 .alterDatabase hab
          exact ⟨hknown, by rw [hrows]; exact ha.2⟩
        · obtain ⟨hknown, hrows⟩ := mysql.createVersion_ok a b answer ha.1 hab
          exact ⟨hknown, by rw [hrows]; exact ha.2⟩
        · obtain ⟨hknown, hrows⟩ := mysql.elsewhere_ok a b answer _ ha.1 .createPlayer hab
          exact ⟨hknown, by rw [hrows]; exact ha.2⟩
      rw [show ([.selectDb, .setCharacterSet, .alterDatabase, .createVersion, .createPlayer, .insertVersion] :
        List (Statement Alter)) = [.selectDb, .setCharacterSet, .alterDatabase, .createVersion, .createPlayer] ++
          [.insertVersion] from rfl, List.prefix_concat_iff] at hrest
      rcases hrest with rfl | hrest
      · refine .inr ⟨rfl, ?_⟩
        obtain ⟨db₂, hbefore, hlast⟩ := Option.bind_eq_some_iff.1 ((execAll_append db₁ _ _).symm.trans h)
        obtain ⟨hknown₂, hrows₂⟩ := hbetween _ (List.Subset.refl _) db₂ hbefore
        cases hinsert : mysql.exec db₂ .insertVersion with
        | error e =>
          simp only [Store.execAll, hinsert] at hlast
          cases hlast
        | ok res =>
          simp only [Store.execAll, hinsert, Option.some.injEq] at hlast
          obtain ⟨hknown, before, after, hbefore, hafter, hperm⟩ :=
            mysql.insertVersion_ok db₂ res.1 res.2 hknown₂ hinsert
          rw [hbefore, Option.getD_some] at hrows₂
          rw [hrows₂, List.perm_singleton] at hperm
          rw [hperm] at hafter
          exact hlast ▸ ⟨hknown, hafter⟩
      · refine .inl ⟨fun hmem => ?_, .inr (hbetween log hrest.subset db' h)⟩
        rcases List.mem_cons.1 hmem with heq | hmem
        · cases heq
        · simpa using hrest.subset hmem

/-- **A check of a database that is not known** leaves it as it is, or begins its creation and does not come to its
end, or creates it. -/
theorem check_unknown {u : Unit} (hunknown : ¬ mysql.known db) (h : plan.check.Ends mysql.store db log db' u) :
    (.insertVersion ∉ log ∧ (db' = db ∨ mysql.Unfinished db')) ∨
      ((∃ rest, log = .realConnect :: (creation ++ rest)) ∧ ∃ version, mysql.At version db') := by
  rcases h.of_call_ok (mysql.realConnect_eq db) with ⟨log, rest, rfl⟩ | ⟨_, rest, rfl⟩ | rest
  · rcases rest.of_call_error (mysql.selectDb_unknown db hunknown) with rest | rest
    · obtain ⟨log₁, db₁, created, log₂, hfirst, hsecond, rfl⟩ := rest.of_bind
      obtain ⟨hfront, hall⟩ := hfirst.allOf
      rcases creation_prefix hunknown hfront hfirst.execAll with ⟨hlog, hdb⟩ | ⟨rfl, hat⟩
      · cases created with
        | false =>
          cases hsecond
          exact .inl ⟨by simpa using hlog, hdb⟩
        | true => exact absurd (by rw [hall rfl]; simp [creation]) hlog
      · refine .inr ⟨⟨log₂, rfl⟩, ?_⟩
        cases created with
        | false =>
          cases hsecond
          exact ⟨0, hat⟩
        | true =>
          rcases hsecond.of_call_ok (mysql.selectDb_known db₁ hat.1) with ⟨_, rest, -⟩ | ⟨_, rest, -⟩ | rest
          · rcases checkVersion_at hat rest with rfl | ⟨-, log₃, ok, hends⟩
            · exact ⟨0, hat⟩
            · obtain ⟨version', hat', -⟩ := updateFrom_at hat hends
              exact ⟨version', hat'⟩
          · cases rest
            exact ⟨0, hat⟩
          · cases rest
            exact ⟨0, hat⟩
    · cases rest
      exact .inl ⟨by simp, .inl rfl⟩
  · cases rest
    exact .inl ⟨by simp, .inl rfl⟩
  · cases rest
    exact .inl ⟨by simp, .inl rfl⟩

/-- A creation that was interrupted is never taken up again. -/
theorem runs_unfinished (h : mysql.Unfinished db) (starts : List (List Fate)) : plan.runs mysql starts db = db := by
  refine runs_eq_self (fun fates => ?_) starts
  rcases check_known h.1 (plan.ends_start mysql fates db) with hsame | ⟨log, hversion⟩
  · exact hsame
  · exact checkVersion_unfinished h hversion

/-- What checks of a database that is not known come to. -/
theorem runs_unknown (plan : UpdatePlan Alter) (hunknown : ¬ mysql.known db) (starts : List (List Fate)) :
    plan.runs mysql starts db = db ∨ mysql.Unfinished (plan.runs mysql starts db) ∨
      ∃ version, mysql.At version (plan.runs mysql starts db) := by
  induction starts with
  | nil => exact .inl rfl
  | cons fates starts ih =>
    rw [runs_cons]
    rcases check_unknown hunknown (plan.ends_start mysql fates db) with ⟨-, hsame | hunfinished⟩ | ⟨-, version, hat⟩
    · rw [hsame]
      exact ih
    · rw [runs_unfinished hunfinished]
      exact .inr (.inl hunfinished)
    · exact .inr (.inr (runs_at hat starts))

/-- A database at a version was created by one of the checks. -/
theorem exists_creation (hunknown : ¬ mysql.known db) {starts : List (List Fate)} {version : ℕ}
    (h : mysql.At version (plan.runs mysql starts db)) :
    ∃ before fates after, starts = before ++ fates :: after ∧ plan.runs mysql before db = db ∧
      ∃ rest, (plan.start mysql fates db).log = .realConnect :: (creation ++ rest) := by
  induction starts with
  | nil => exact absurd h.1 hunknown
  | cons fates starts ih =>
    rw [runs_cons] at h
    rcases check_unknown hunknown (plan.ends_start mysql fates db) with ⟨-, hsame | hunfinished⟩ | ⟨hlog, -⟩
    · rw [hsame] at h
      obtain ⟨before, fates', after, rfl, hbefore, hlog⟩ := ih h
      exact ⟨fates :: before, fates', after, rfl, by rw [runs_cons, hsame, hbefore], hlog⟩
    · rw [runs_unfinished hunfinished] at h
      exact absurd hunfinished (MysqlServer.not_unfinished_at h)
    · exact ⟨[], fates, starts, rfl, rfl, hlog⟩

/-- **A creation** is finished by the check that begins it, or never.  Behind any checks of a database that MySQL does
not know, it is as it was, or its creation was interrupted, and all later checks leave it as it is, or it is at a
version; the last is the case exactly if a check that found it unknown executed the creation as a whole. -/
theorem creation_run (plan : UpdatePlan Alter) (mysql : MysqlServer Alter Db) (db : Db) (hunknown : ¬ mysql.known db)
    (starts later : List (List Fate)) :
    (plan.runs mysql starts db = db ∨
      (mysql.Unfinished (plan.runs mysql starts db) ∧
        plan.runs mysql (starts ++ later) db = plan.runs mysql starts db) ∨
      ∃ version, mysql.At version (plan.runs mysql starts db)) ∧
    ((∃ version, mysql.At version (plan.runs mysql starts db)) ↔
      ∃ before fates after, starts = before ++ fates :: after ∧ plan.runs mysql before db = db ∧
        ∃ rest, (plan.start mysql fates db).log = .realConnect :: (creation ++ rest)) := by
  refine ⟨(plan.runs_unknown hunknown starts).imp_right (Or.imp_left fun h => ⟨h, ?_⟩), ?_, ?_⟩
  · rw [runs_append, runs_unfinished h]
  · rintro ⟨version, hat⟩
    exact exists_creation hunknown hat
  · rintro ⟨before, fates, after, rfl, hbefore, rest, hlog⟩
    rw [runs_append, hbefore, runs_cons]
    rcases check_unknown hunknown (plan.ends_start mysql fates db) with ⟨hnot, -⟩ | ⟨-, version, hat⟩
    · rw [hlog] at hnot
      exact absurd (by simp [creation]) hnot
    · exact runs_at hat after

/-! ### Updates -/

/-- What `UpdateToVersion` comes to if nothing interrupts it; nothing if it fails. -/
def goal (plan : UpdatePlan Alter) (mysql : MysqlServer Alter Db) (db : Db) : Option Db :=
  plan.updateToVersion.goal mysql.store db

/-- **Update functions that may be begun again**, on databases at a version. -/
def Repeatable (plan : UpdatePlan Alter) (mysql : MysqlServer Alter Db) : Prop :=
  ∀ i func, plan.updateFunc.getD i none = some func →
    (func.mapStmt .alter).Repeatable mysql.store fun db => ∃ version, mysql.At version db

/-- What is done at a version is the rest of the loop. -/
theorem goal_at {version : ℕ} (hat : mysql.At version db) :
    plan.goal mysql db = (plan.updateFrom (plan.version - version) (version + 1)).goal mysql.store db := by
  rw [goal, updateToVersion, goal_call (mysql.selectVersion_some db [version] hat.2)]
  dsimp only
  split
  · rename_i heq
    rw [heq, Nat.sub_self]
    rfl
  · rfl

/-- The loop with an update function: the function, the record of its version, and the rest. -/
theorem goal_updateFrom_some {left i : ℕ} {func : Script Alter Bool}
    (hfunc : plan.updateFunc.getD i none = some func) (db : Db) :
    (plan.updateFrom (left + 1) i).goal mysql.store db =
      ((func.mapStmt .alter).goal mysql.store db).bind fun db₁ =>
        match mysql.exec db₁ (.setVersion i) with
        | .ok res => (plan.updateFrom left (i + 1)).goal mysql.store res.1
        | .error _ => none := by
  rw [updateFrom]
  simp only [hfunc]
  rw [goal_bind]
  refine congrArg _ (funext fun db₁ => ?_)
  cases hexec : mysql.exec db₁ (.setVersion i) with
  | ok res => exact goal_call hexec
  | error e => exact goal_call_error hexec

/-- **Each run of the loop** leaves what the updates are for, if they may be begun again. -/
theorem updateFrom_goal (h : plan.Repeatable mysql) {left i version : ℕ} {ok : Bool} (hat : mysql.At version db)
    (hi : i + left = plan.version + 1)
    (hgoal : ∀ db, mysql.At version db → plan.goal mysql db = (plan.updateFrom left i).goal mysql.store db)
    (hends : (plan.updateFrom left i).Ends mysql.store db log db' ok) : plan.goal mysql db' = plan.goal mysql db := by
  induction left generalizing i version db log with
  | zero =>
    cases hends
    rfl
  | succ left ih =>
    rw [updateFrom] at hends
    cases hfunc : plan.updateFunc.getD i none with
    | none =>
      simp only [hfunc] at hends
      refine ih hat (by omega) (fun db hdb => ?_) hends
      rw [hgoal db hdb, updateFrom, hfunc]
    | some func =>
      simp only [hfunc] at hends
      obtain ⟨log₁, db₁, updated, log₂, hfirst, hsecond, -⟩ := hends.of_bind
      have hat₁ := ends_updateFunc hat hfirst
      obtain ⟨hsame, hall⟩ := h i func hfunc db log₁ db₁ updated ⟨version, hat⟩ hfirst
      -- as long as the version is not recorded, the update function is begun again
      have hagain : plan.goal mysql db₁ = plan.goal mysql db := by
        rw [hgoal db₁ hat₁, hgoal db hat, goal_updateFrom_some hfunc, goal_updateFrom_some hfunc, hsame]
      have hrecorded : ∀ db, mysql.At i db →
          plan.goal mysql db = (plan.updateFrom left (i + 1)).goal mysql.store db := by
        intro db hdb
        rw [goal_at hdb, show plan.version - i = left by omega]
      cases updated with
      | false =>
        cases hsecond
        exact hagain
      | true =>
        have hnext : ∀ {db₂ : Db} {answer : List ℕ}, mysql.exec db₁ (.setVersion i) = .ok (db₂, answer) →
            plan.goal mysql db₂ = plan.goal mysql db := by
          intro db₂ answer hexec
          rw [hrecorded db₂ (hat₁.setVersion hexec), hgoal db hat, goal_updateFrom_some hfunc, hall rfl,
            Option.bind_some, hexec]
        cases hsecond with
        | served exec rest => exact (ih (hat₁.setVersion exec) (by omega) hrecorded rest).trans (hnext exec)
        | lost exec rest =>
          cases rest
          exact hnext exec
        | refused rest =>
          cases rest
          exact hagain
        | failed exec rest =>
          cases rest
          exact hagain

/-- **A check** leaves what the updates are for. -/
theorem start_goal (h : plan.Repeatable mysql) {version : ℕ} (hat : mysql.At version db) (fates : List Fate) :
    plan.goal mysql (plan.start mysql fates db).db = plan.goal mysql db := by
  rcases check_at hat (plan.ends_start mysql fates db) with hsame | ⟨hlt, log, ok, hends⟩
  · rw [hsame]
  · exact updateFrom_goal h hat (by omega) (fun _ hdb => goal_at hdb) hends

/-- So do all checks. -/
theorem runs_goal (h : plan.Repeatable mysql) {version : ℕ} (hat : mysql.At version db) (starts : List (List Fate)) :
    plan.goal mysql (plan.runs mysql starts db) = plan.goal mysql db := by
  induction starts generalizing version db with
  | nil => rfl
  | cons fates starts ih =>
    obtain ⟨version', hat'⟩ := start_at hat fates
    exact (ih hat').trans (start_goal h hat fates)

/-- **A check that is not interrupted** comes to what the updates are for. -/
theorem start_served {version : ℕ} (hat : mysql.At version db) (h : plan.goal mysql db = some db') :
    (plan.start mysql [] db).db = db' := by
  obtain ⟨hresult, rfl⟩ := goal_eq_some.1 h
  have hconnect : mysql.store.exec db .realConnect = .ok (db, []) := mysql.realConnect_eq db
  have hselect : mysql.store.exec db .selectDb = .ok (db, []) := mysql.selectDb_known db hat.1
  simp only [start, check, run_call hconnect, run_call hselect, checkVersion, run_bind, hresult, if_true]
  exact congrArg Outcome.db (run_call (mysql.ping_eq _))

/-- Behind the goal no function is left. -/
theorem updateFunc_of_goal {left i version : ℕ} (hat : mysql.At version db)
    (h : (plan.updateFrom left i).goal mysql.store db = some db') :
    ∃ version', mysql.At version' db' ∧
      ∀ j, version' < j → i ≤ j → j < i + left → plan.updateFunc.getD j none = none := by
  induction left generalizing i version db with
  | zero =>
    obtain rfl := Option.some.inj h
    exact ⟨version, hat, fun j _ _ _ => by omega⟩
  | succ left ih =>
    cases hfunc : plan.updateFunc.getD i none with
    | none =>
      rw [updateFrom, hfunc] at h
      obtain ⟨version', hat', hnone⟩ := ih hat h
      refine ⟨version', hat', fun j hj hi hleft => ?_⟩
      rcases Nat.eq_or_lt_of_le hi with rfl | hlt
      · exact hfunc
      · exact hnone j hj hlt (by omega)
    | some func =>
      rw [goal_updateFrom_some hfunc, Option.bind_eq_some_iff] at h
      obtain ⟨db₁, hfirst, hrest⟩ := h
      obtain ⟨log₁, hends₁⟩ := ends_of_goal hfirst
      cases hexec : mysql.exec db₁ (.setVersion i) with
      | error e =>
        simp only [hexec] at hrest
        cases hrest
      | ok res =>
        simp only [hexec] at hrest
        have hat₂ := (ends_updateFunc hat hends₁).setVersion hexec
        obtain ⟨version', hat', hnone⟩ := ih hat₂ hrest
        -- the version that was recorded is that of this function, or a later one
        obtain ⟨log₂, hends₂⟩ := ends_of_goal hrest
        obtain ⟨version'', hat'', hversion⟩ := updateFrom_at hat₂ hends₂
        obtain rfl := hat'.version_eq hat''
        exact ⟨version', hat', fun j hj hi hleft => hnone j hj (by omega) (by omega)⟩

/-- A loop without functions does nothing. -/
theorem updateFrom_of_none {left i : ℕ} {ok : Bool}
    (h : ∀ j, i ≤ j → j < i + left → plan.updateFunc.getD j none = none)
    (hends : (plan.updateFrom left i).Ends mysql.store db log db' ok) : db' = db := by
  induction left generalizing i with
  | zero =>
    cases hends
    rfl
  | succ left ih =>
    rw [updateFrom, h i le_rfl (by omega)] at hends
    exact ih (fun j hi hleft => h j (by omega) (by omega)) hends

/-- **What the updates are for** stays as it is. -/
theorem start_of_goal {version : ℕ} (hat : mysql.At version db) (h : plan.goal mysql db = some db')
    (fates : List Fate) : (plan.start mysql fates db').db = db' := by
  rw [goal_at hat] at h
  obtain ⟨version', hat', hnone⟩ := updateFunc_of_goal hat h
  obtain ⟨log, hends⟩ := ends_of_goal h
  obtain ⟨version'', hat'', hversion⟩ := updateFrom_at hat hends
  obtain rfl := hat'.version_eq hat''
  rcases check_at hat' (plan.ends_start mysql fates db') with hsame | ⟨hlt, log, ok, hends⟩
  · exact hsame
  · exact updateFrom_of_none (fun j hi hleft => hnone j (by omega) (by omega) (by omega)) hends

/-- **Updates that may be begun again** lead to what they are for.  However the checks so far were interrupted, a check
that is not interrupted comes to what the first one would have come to, and all later checks leave it as it is. -/
theorem updates_run (h : plan.Repeatable mysql) {version : ℕ} (hat : mysql.At version db)
    (hgoal : plan.goal mysql db = some db') (starts later : List (List Fate)) :
    plan.runs mysql (starts ++ [] :: later) db = db' := by
  obtain ⟨version₁, hat₁⟩ := runs_at hat starts
  have hgoal₁ := (runs_goal h hat starts).trans hgoal
  rw [runs_append, runs_cons, start_served hat₁ hgoal₁]
  exact runs_eq_self (start_of_goal hat₁ hgoal₁) later

end UpdatePlan

/-! ### A small MySQL -/

/-- A database: whether its character set is the one of the configuration, the rows of the table of the version, and
the columns of the table of the players. -/
structure Tables where
  charset : Bool
  version : Option (List ℕ)
  player : Option (List String)
  deriving DecidableEq

namespace Tables

/-- The calls to a database that may not be there.  A statement of an update function adds a column if there is none
of its name. -/
def exec : Option Tables → Statement String → Except MysqlErrno (Option Tables × List ℕ)
  | db, .realConnect => .ok (db, [])
  | db, .ping => .ok (db, [])
  | none, .selectDb => .error .badDb
  | none, .createDatabase => .ok (some ⟨false, none, none⟩, [])
  | none, _ => .error .other
  | some t, .selectDb => .ok (some t, [])
  | some t, .createDatabase => .ok (some t, [])
  | some t, .setCharacterSet => .ok (some t, [])
  | some t, .alterDatabase => .ok (some { t with charset := true }, [])
  | some t, .createVersion => .ok (some { t with version := some (t.version.getD []) }, [])
  | some t, .createPlayer => .ok (some { t with player := some (t.player.getD ["sn", "name"]) }, [])
  | some t, .insertVersion =>
    match t.version with
    | none => .error .other
    | some rows =>
      -- the version is the primary key
      if 0 ∈ rows then .error .other else .ok (some { t with version := some (0 :: rows) }, [])
  | some t, .selectVersion =>
    match t.version with
    | none => .error .other
    | some rows => .ok (some t, rows)
  | some t, .alter column =>
    match t.player with
    | none => .error .other
    | some columns =>
      if column ∈ columns then .ok (some t, [])
      else .ok (some { t with player := some (columns ++ [column]) }, [])
  | some t, .setVersion version =>
    match t.version with
    | none => .error .other
    | some rows =>
      if 1 < rows.length then .error .other
      else .ok (some { t with version := some (rows.map fun _ => version) }, [])

/-- The small MySQL obeys the laws. -/
def server : MysqlServer String (Option Tables) where
  exec := exec
  known db := db.isSome = true
  rows db := db.bind version
  realConnect_eq db := rfl
  ping_eq db := rfl
  selectDb_known db h := by
    cases db with
    | none => cases h
    | some t => rfl
  selectDb_unknown db h := by
    cases db with
    | none => rfl
    | some t => exact absurd rfl h
  selectVersion_some db rows h := by
    cases db with
    | none => cases h
    | some t =>
      have hversion : t.version = some rows := h
      simp only [exec, hversion]
  selectVersion_none db h := by
    cases db with
    | none => exact ⟨_, rfl⟩
    | some t =>
      have hversion : t.version = none := h
      exact ⟨.other, by simp only [exec, hversion]⟩
  createDatabase_new db db' answer hnew h := by
    cases db with
    | none =>
      cases h
      exact ⟨rfl, rfl⟩
    | some t => exact absurd rfl hnew
  createVersion_ok db db' answer hknown h := by
    cases db with
    | none => cases h
    | some t =>
      cases h
      exact ⟨rfl, rfl⟩
  insertVersion_ok db db' answer hknown h := by
    cases db with
    | none => cases h
    | some t =>
      cases hversion : t.version with
      | none =>
        simp only [exec, hversion] at h
        cases h
      | some rows =>
        simp only [exec, hversion] at h
        split at h
        · cases h
        · cases h
          exact ⟨rfl, rows, 0 :: rows, hversion, rfl, List.Perm.refl _⟩
  setVersion_ok db db' answer version hknown h := by
    cases db with
    | none => cases h
    | some t =>
      cases hversion : t.version with
      | none =>
        simp only [exec, hversion] at h
        cases h
      | some rows =>
        simp only [exec, hversion] at h
        split at h
        · cases h
        · cases h
          exact ⟨rfl, by simp only [Option.bind_some, hversion, Option.map_some]⟩
  elsewhere_ok db db' answer stmt hknown hstmt h := by
    cases db with
    | none => cases hknown
    | some t =>
      cases hstmt with
      | setCharacterSet =>
        cases h
        exact ⟨rfl, rfl⟩
      | alterDatabase =>
        cases h
        exact ⟨rfl, rfl⟩
      | createPlayer =>
        cases h
        exact ⟨rfl, rfl⟩
      | alter column =>
        simp only [exec] at h
        split at h
        · cases h
        · split at h
          all_goals
            cases h
            exact ⟨rfl, rfl⟩

/-- A column that is added again is there. -/
theorem exec_alter_again {db db' : Option Tables} {column : String} {answer : List ℕ}
    (h : exec db (.alter column) = .ok (db', answer)) : exec db' (.alter column) = .ok (db', []) := by
  cases db with
  | none => cases h
  | some t =>
    cases hplayer : t.player with
    | none =>
      simp only [exec, hplayer] at h
      cases h
    | some columns =>
      simp only [exec, hplayer] at h
      split at h
      · rename_i hmem
        cases h
        simp only [exec, hplayer, if_pos hmem]
      · cases h
        simp only [exec, List.mem_append, List.mem_singleton, or_true, if_true]

end Tables

namespace UpdatePlan

/-- The program as it is: its only update function does nothing. -/
def current : UpdatePlan String where
  version := 0
  updateFunc := [some (.done true)]
  version_lt := by decide

/-- The connection is gone behind the creation of the database, and the second check does not create its tables.  If it
is gone before anything was done, the second check creates all. -/
theorem creation_run_twice :
    (current.runs Tables.server [[.served, .served, .lost], []] none = some ⟨false, none, none⟩ ∧
      ¬ ∃ version, Tables.server.At version (current.runs Tables.server [[.served, .served, .lost], []] none)) ∧
    ∃ version, Tables.server.At version (current.runs Tables.server [[.served, .refused], []] none) := by
  have hunknown : ¬ Tables.server.known none := fun h => by cases h
  constructor
  · have hruns : current.runs Tables.server [[.served, .served, .lost], []] none = some ⟨false, none, none⟩ := by
      decide
    obtain ⟨hsame | ⟨hunfinished, -⟩ | ⟨version, -, hrows⟩, -⟩ :=
      creation_run current Tables.server none hunknown [[.served, .served, .lost], []] []
    · rw [hsame] at hruns
      cases hruns
    · exact ⟨hruns, fun ⟨version, hat⟩ => MysqlServer.not_unfinished_at hat hunfinished⟩
    · rw [hruns] at hrows
      cases hrows
  · exact (creation_run current Tables.server none hunknown [[.served, .refused], []] []).2.2
      ⟨[[.served, .refused]], [], [], rfl, rfl, [.selectDb, .selectVersion, .ping], rfl⟩

/-- A version whose update adds a column. -/
def addColumn : UpdatePlan String where
  version := 1
  updateFunc := [some (.done true), some (.allOf ["level"])]
  version_lt := by decide

/-- Such an update may be begun again. -/
theorem repeatable_addColumn : addColumn.Repeatable Tables.server := by
  rintro (_ | _ | i) func hfunc db log db' ok - hends
  · obtain rfl := Option.some.inj hfunc
    cases hends
    exact ⟨rfl, fun _ => rfl⟩
  · obtain rfl := Option.some.inj hfunc
    -- what the update comes to where its statement is executed
    have hgoal : ∀ {a b : Option Tables} {answer : List ℕ}, Tables.exec a (.alter "level") = .ok (b, answer) →
        ((Prog.allOf ["level"]).mapStmt .alter : Script (Statement String) Bool).goal Tables.server.store a = some b :=
      fun hexec => goal_call hexec
    cases hends with
    | served exec rest =>
      cases rest
      exact ⟨(hgoal (Tables.exec_alter_again exec)).trans (hgoal exec).symm, fun _ => hgoal exec⟩
    | lost exec rest =>
      cases rest
      exact ⟨(hgoal (Tables.exec_alter_again exec)).trans (hgoal exec).symm, fun hok => by cases hok⟩
    | refused rest =>
      cases rest
      exact ⟨rfl, fun hok => by cases hok⟩
    | failed exec rest =>
      cases rest
      exact ⟨rfl, fun hok => by cases hok⟩
  · cases hfunc

/-- The column is added, and the connection is gone before that is answered; the next check finds it. -/
theorem updates_run_addColumn :
    addColumn.runs Tables.server ([[.served, .served, .served, .lost], [.refused]] ++ [] :: [[]])
      (some ⟨true, some [0], some ["sn"]⟩) = some ⟨true, some [1], some ["sn", "level"]⟩ := by
  have hat : Tables.server.At 0 (some ⟨true, some [0], some ["sn"]⟩) := ⟨rfl, rfl⟩
  exact updates_run repeatable_addColumn hat rfl _ _

end UpdatePlan

end MmoServer
