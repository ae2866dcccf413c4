/-
**Programs whose statements can be interrupted.**

A program makes statements to a store, and goes on by their answers.  A statement can be served; it can be refused,
because the connection is gone; or it can be executed while its answer is lost.  The program cannot tell the last two
cases apart.  A program that dies is one whose next statement is refused, as long as nothing follows a failure.

Main definitions:

* `Interruption.Prog`, `Interruption.Prog.bind`, `Interruption.Prog.allOf` — programs; one behind another one; a list
  of statements up to the first that fails;
* `Interruption.Store`, `Interruption.Fate` — what executes the statements, and how a statement fares;
* `Interruption.Prog.run` — a run, with the statements that were executed;
* `Interruption.Prog.Ends` — the runs of a program as a relation, whatever interrupts them;
* `Interruption.Store.execAll` — statements one after the other;
* `Interruption.Prog.goal` — what a program comes to if nothing interrupts it;
* `Interruption.Prog.Repeatable` — a program that may be begun again.

Main results:

* `Interruption.Prog.ends_run` — **a run by its statements**: one case for each way in which a statement fares;
* `Interruption.Prog.Ends.execAll` — **the store behind a run** is what the executed statements make of it;
* `Interruption.Prog.Ends.allOf` — **a list of statements** is executed up to some point, and as a whole if the run
  says that it succeeded;
* `Interruption.goal_bind` — **one program behind another one** comes to what the second makes of what the first
  comes to.
-/

import Mathlib.Data.List.Infix

set_option relaxedAutoImplicit false
set_option autoImplicit false

namespace Interruption

variable {Stmt Answer Error Db α β : Type*}

/-! ### Programs -/

/-- A program makes statements, and goes on by what is answered. -/
inductive Prog (Stmt Answer Error α : Type*)
  | done (a : α)
  | call (stmt : Stmt) (next : Except Error Answer → Prog Stmt Answer Error α)

/-- One program behind another one. -/
def Prog.bind : Prog Stmt Answer Error α → (α → Prog Stmt Answer Error β) → Prog Stmt Answer Error β
  | .done a, f => f a
  | .call stmt next, f => .call stmt fun answer => (next answer).bind f

/-- Statements one after the other, up to the first that fails. -/
def Prog.allOf : List Stmt → Prog Stmt Answer Error Bool
  | [] => .done true
  | stmt :: rest => .call stmt fun answer =>
    match answer with
    | .ok _ => allOf rest
    | .error _ => .done false

/-- A program whose statements are some of those of a store. -/
def Prog.mapStmt {Stmt' : Type*} (f : Stmt' → Stmt) : Prog Stmt' Answer Error α → Prog Stmt Answer Error α
  | .done a => .done a
  | .call stmt next => .call (f stmt) fun answer => (next answer).mapStmt f

/-! ### Runs -/

/-- How a statement fares. -/
inductive Fate
  | served
  /-- The connection is gone before it. -/
  | refused
  /-- It is executed, and the connection is gone before its answer. -/
  | lost
  deriving DecidableEq

/-- What executes statements, and the error of a connection that is gone. -/
structure Store (Stmt Answer Error Db : Type*) where
  exec : Db → Stmt → Except Error (Db × Answer)
  gone : Error

/-- What is known behind a program: its result, the store, the statements that were executed, and the fates that
are left over. -/
structure Outcome (Stmt Db α : Type*) where
  result : α
  db : Db
  log : List Stmt
  fates : List Fate

/-- A statement: its answer, the store behind it, and whether it was executed. -/
def Store.serve (store : Store Stmt Answer Error Db) (fate : Fate) (db : Db) (stmt : Stmt) :
    Except Error Answer × Db × Bool :=
  match fate, store.exec db stmt with
  | .served, .ok res => (.ok res.2, res.1, true)
  | .served, .error e => (.error e, db, false)
  | .lost, .ok res => (.error store.gone, res.1, true)
  | .lost, .error _ => (.error store.gone, db, false)
  | .refused, _ => (.error store.gone, db, false)

/-- **A run.**  The list has the fates of the first statements; the others are served. -/
def Prog.run (store : Store Stmt Answer Error Db) :
    Prog Stmt Answer Error α → List Fate → Db → Outcome Stmt Db α
  | .done a, fates, db => ⟨a, db, [], fates⟩
  | .call stmt next, fates, db =>
    let served := store.serve (fates.headD .served) db stmt
    let rest := (next served.1).run store fates.tail served.2.1
    { rest with log := if served.2.2 then stmt :: rest.log else rest.log }

/-- What statements make of a store; nothing if one of them fails. -/
def Store.execAll (store : Store Stmt Answer Error Db) : Db → List Stmt → Option Db
  | db, [] => some db
  | db, stmt :: rest =>
    match store.exec db stmt with
    | .ok res => store.execAll res.1 rest
    | .error _ => none

section

variable {store : Store Stmt Answer Error Db}

theorem execAll_append (db : Db) (before after : List Stmt) :
    store.execAll db (before ++ after) = (store.execAll db before).bind fun db' => store.execAll db' after := by
  induction before generalizing db with
  | nil => rfl
  | cons stmt rest ih =>
    simp only [List.cons_append, Store.execAll]
    cases store.exec db stmt with
    | error e => rfl
    | ok res => exact ih res.1

/-- What each of the statements keeps. -/
theorem execAll_invariant {P : Db → Prop} {stmts : List Stmt}
    (hstep : ∀ stmt ∈ stmts, ∀ db db' answer, P db → store.exec db stmt = .ok (db', answer) → P db')
    {db db' : Db} (hP : P db) (h : store.execAll db stmts = some db') : P db' := by
  induction stmts generalizing db with
  | nil => exact Option.some.inj h ▸ hP
  | cons stmt rest ih =>
    rw [Store.execAll] at h
    cases hexec : store.exec db stmt with
    | error e => rw [hexec] at h; cases h
    | ok res =>
      rw [hexec] at h
      exact ih (fun stmt' hmem => hstep stmt' (List.mem_cons_of_mem _ hmem))
        (hstep stmt List.mem_cons_self db res.1 res.2 hP hexec) h

end

/-! ### Runs as a relation -/

/-- **The runs of a program**: what was executed, the store behind it, and its result. -/
inductive Prog.Ends (store : Store Stmt Answer Error Db) :
    Prog Stmt Answer Error α → Db → List Stmt → Db → α → Prop
  | done {a : α} {db : Db} : Ends store (.done a) db [] db a
  | served {stmt : Stmt} {next : Except Error Answer → Prog Stmt Answer Error α} {db db₁ db' : Db}
      {answer : Answer} {log : List Stmt} {a : α} (exec : store.exec db stmt = .ok (db₁, answer))
      (rest : Ends store (next (.ok answer)) db₁ log db' a) : Ends store (.call stmt next) db (stmt :: log) db' a
  | lost {stmt : Stmt} {next : Except Error Answer → Prog Stmt Answer Error α} {db db₁ db' : Db}
      {answer : Answer} {log : List Stmt} {a : α} (exec : store.exec db stmt = .ok (db₁, answer))
      (rest : Ends store (next (.error store.gone)) db₁ log db' a) :
      Ends store (.call stmt next) db (stmt :: log) db' a
  | refused {stmt : Stmt} {next : Except Error Answer → Prog Stmt Answer Error α} {db db' : Db}
      {log : List Stmt} {a : α} (rest : Ends store (next (.error store.gone)) db log db' a) :
      Ends store (.call stmt next) db log db' a
  | failed {stmt : Stmt} {next : Except Error Answer → Prog Stmt Answer Error α} {db db' : Db} {e : Error}
      {log : List Stmt} {a : α} (exec : store.exec db stmt = .error e)
      (rest : Ends store (next (.error e)) db log db' a) : Ends store (.call stmt next) db log db' a

section

variable {store : Store Stmt Answer Error Db} {p : Prog Stmt Answer Error α} {db db' : Db} {log : List Stmt}

/-- **A run by its statements.** -/
theorem Prog.ends_run (store : Store Stmt Answer Error Db) (p : Prog Stmt Answer Error α) (fates : List Fate)
    (db : Db) :
    p.Ends store db (p.run store fates db).log (p.run store fates db).db (p.run store fates db).result := by
  induction p generalizing fates db with
  | done a => exact .done
  | call stmt next ih =>
    cases hexec : store.exec db stmt with
    | ok res =>
      cases hfate : fates.headD .served with
      | served =>
        simp only [Prog.run, hfate, Store.serve, hexec, if_true]
        exact .served hexec (ih _ _ _)
      | refused =>
        simp only [Prog.run, hfate, Store.serve, Bool.false_eq_true, if_false]
        exact .refused (ih _ _ _)
      | lost =>
        simp only [Prog.run, hfate, Store.serve, hexec, if_true]
        exact .lost hexec (ih _ _ _)
    | error e =>
      cases hfate : fates.headD .served with
      | served =>
        simp only [Prog.run, hfate, Store.serve, hexec, Bool.false_eq_true, if_false]
        exact .failed hexec (ih _ _ _)
      | refused =>
        simp only [Prog.run, hfate, Store.serve, Bool.false_eq_true, if_false]
        exact .refused (ih _ _ _)
      | lost =>
        simp only [Prog.run, hfate, Store.serve, hexec, Bool.false_eq_true, if_false]
        exact .refused (ih _ _ _)

/-- **The store behind a run** is what the executed statements make of it. -/
theorem Prog.Ends.execAll {a : α} (h : p.Ends store db log db' a) : store.execAll db log = some db' := by
  induction h with
  | done => rfl
  | served exec rest ih => simp only [Store.execAll, exec, ih]
  | lost exec rest ih => simp only [Store.execAll, exec, ih]
  | refused rest ih => exact ih
  | failed exec rest ih => exact ih

/-- A run of one program behind another one is a run of each of them. -/
theorem Prog.Ends.of_bind {f : α → Prog Stmt Answer Error β} {b : β} (h : (p.bind f).Ends store db log db' b) :
    ∃ log₁ db₁ a log₂, p.Ends store db log₁ db₁ a ∧ (f a).Ends store db₁ log₂ db' b ∧ log = log₁ ++ log₂ := by
  induction p generalizing db log with
  | done a => exact ⟨[], db, a, log, .done, h, rfl⟩
  | call stmt next ih =>
    cases h with
    | served exec rest =>
      obtain ⟨log₁, db₁, a, log₂, hfirst, hsecond, rfl⟩ := ih _ rest
      exact ⟨_, db₁, a, log₂, .served exec hfirst, hsecond, rfl⟩
    | lost exec rest =>
      obtain ⟨log₁, db₁, a, log₂, hfirst, hsecond, rfl⟩ := ih _ rest
      exact ⟨_, db₁, a, log₂, .lost exec hfirst, hsecond, rfl⟩
    | refused rest =>
      obtain ⟨log₁, db₁, a, log₂, hfirst, hsecond, rfl⟩ := ih _ rest
      exact ⟨_, db₁, a, log₂, .refused hfirst, hsecond, rfl⟩
    | failed exec rest =>
      obtain ⟨log₁, db₁, a, log₂, hfirst, hsecond, rfl⟩ := ih _ rest
      exact ⟨_, db₁, a, log₂, .failed exec hfirst, hsecond, rfl⟩

/-- A statement that the store executes: it is answered, or its answer is lost, or it is refused. -/
theorem Prog.Ends.of_call_ok {stmt : Stmt} {next : Except Error Answer → Prog Stmt Answer Error α} {db₁ : Db}
    {answer : Answer} {a : α} (hexec : store.exec db stmt = .ok (db₁, answer))
    (h : (Prog.call stmt next).Ends store db log db' a) :
    (∃ log₁, (next (.ok answer)).Ends store db₁ log₁ db' a ∧ log = stmt :: log₁) ∨
      (∃ log₁, (next (.error store.gone)).Ends store db₁ log₁ db' a ∧ log = stmt :: log₁) ∨
      (next (.error store.gone)).Ends store db log db' a := by
  cases h with
  | served exec rest =>
    cases hexec.symm.trans exec
    exact .inl ⟨_, rest, rfl⟩
  | lost exec rest =>
    cases hexec.symm.trans exec
    exact .inr (.inl ⟨_, rest, rfl⟩)
  | refused rest => exact .inr (.inr rest)
  | failed exec rest => cases hexec.symm.trans exec

/-- A statement that the store does not execute. -/
theorem Prog.Ends.of_call_error {stmt : Stmt} {next : Except Error Answer → Prog Stmt Answer Error α} {e : Error}
    {a : α} (hexec : store.exec db stmt = .error e) (h : (Prog.call stmt next).Ends store db log db' a) :
    (next (.error e)).Ends store db log db' a ∨ (next (.error store.gone)).Ends store db log db' a := by
  cases h with
  | served exec rest => cases hexec.symm.trans exec
  | lost exec rest => cases hexec.symm.trans exec
  | refused rest => exact .inr rest
  | failed exec rest =>
    cases hexec.symm.trans exec
    exact .inl rest

/-- The statements of a program that was mapped. -/
theorem Prog.Ends.mem_range {Stmt' : Type*} {f : Stmt' → Stmt} {p : Prog Stmt' Answer Error α} {a : α}
    (h : (p.mapStmt f).Ends store db log db' a) : ∀ stmt ∈ log, ∃ stmt', f stmt' = stmt := by
  induction p generalizing db log with
  | done a =>
    cases h
    intro stmt hmem
    cases hmem
  | call stmt' next ih =>
    cases h with
    | served exec rest =>
      intro stmt hmem
      rcases List.mem_cons.1 hmem with rfl | hmem
      · exact ⟨stmt', rfl⟩
      · exact ih _ rest stmt hmem
    | lost exec rest =>
      intro stmt hmem
      rcases List.mem_cons.1 hmem with rfl | hmem
      · exact ⟨stmt', rfl⟩
      · exact ih _ rest stmt hmem
    | refused rest => exact ih _ rest
    | failed exec rest => exact ih _ rest

/-- **A list of statements** is executed up to some point; as a whole if the run says so. -/
theorem Prog.Ends.allOf {stmts : List Stmt} {ok : Bool} (h : (Prog.allOf stmts).Ends store db log db' ok) :
    log <+: stmts ∧ (ok = true → log = stmts) := by
  induction stmts generalizing db log with
  | nil =>
    cases h
    exact ⟨List.prefix_refl [], fun _ => rfl⟩
  | cons stmt rest ih =>
    cases h with
    | served _ hrest =>
      obtain ⟨hfront, hall⟩ := ih hrest
      exact ⟨(List.prefix_cons_inj stmt).2 hfront, fun hok => by rw [hall hok]⟩
    | lost _ hrest =>
      cases hrest
      exact ⟨⟨rest, rfl⟩, fun hok => by cases hok⟩
    | refused hrest =>
      cases hrest
      exact ⟨List.nil_prefix, fun hok => by cases hok⟩
    | failed _ hrest =>
      cases hrest
      exact ⟨List.nil_prefix, fun hok => by cases hok⟩

end

/-! ### Runs that are not interrupted -/

section

variable {store : Store Stmt Answer Error Db}

/-- No fate is left over by a run that is not interrupted. -/
@[simp] theorem fates_run_nil (p : Prog Stmt Answer Error α) (db : Db) : (p.run store [] db).fates = [] := by
  induction p generalizing db with
  | done a => rfl
  | call stmt next ih => exact ih _ _

/-- One program behind another one. -/
theorem run_bind (p : Prog Stmt Answer Error α) (f : α → Prog Stmt Answer Error β) (db : Db) :
    (p.bind f).run store [] db =
      { (f (p.run store [] db).result).run store [] (p.run store [] db).db with
        log := (p.run store [] db).log ++
          ((f (p.run store [] db).result).run store [] (p.run store [] db).db).log } := by
  induction p generalizing db with
  | done a => rfl
  | call stmt next ih =>
    simp only [Prog.bind, Prog.run, List.tail_nil, ih]
    split <;> rfl

/-- A statement. -/
theorem run_call {stmt : Stmt} {next : Except Error Answer → Prog Stmt Answer Error α} {db db' : Db} {answer : Answer}
    (h : store.exec db stmt = .ok (db', answer)) :
    (Prog.call stmt next).run store [] db =
      { (next (.ok answer)).run store [] db' with log := stmt :: ((next (.ok answer)).run store [] db').log } := by
  simp only [Prog.run, List.headD_nil, Store.serve, h, List.tail_nil, if_true]

/-- A statement that the store does not execute. -/
theorem run_call_error {stmt : Stmt} {next : Except Error Answer → Prog Stmt Answer Error α} {db : Db} {e : Error}
    (h : store.exec db stmt = .error e) :
    (Prog.call stmt next).run store [] db = (next (.error e)).run store [] db := by
  simp only [Prog.run, List.headD_nil, Store.serve, h, List.tail_nil, Bool.false_eq_true, if_false]

/-! ### What a program is for -/

/-- What a program comes to if nothing interrupts it; nothing if it says that it failed. -/
def Prog.goal (store : Store Stmt Answer Error Db) (p : Prog Stmt Answer Error Bool) (db : Db) : Option Db :=
  if (p.run store [] db).result then some (p.run store [] db).db else none

/-- **A program may be begun again** on some states of the store: however it was interrupted, it comes to the same as
at first, and it says that it succeeded only if it came to that. -/
def Prog.Repeatable (store : Store Stmt Answer Error Db) (P : Db → Prop) (p : Prog Stmt Answer Error Bool) : Prop :=
  ∀ db log db' ok, P db → p.Ends store db log db' ok →
    p.goal store db' = p.goal store db ∧ (ok = true → p.goal store db = some db')

@[simp] theorem goal_done_true (db : Db) : (Prog.done true : Prog Stmt Answer Error Bool).goal store db = some db := rfl

@[simp] theorem goal_done_false (db : Db) : (Prog.done false : Prog Stmt Answer Error Bool).goal store db = none := rfl

theorem goal_eq_some {p : Prog Stmt Answer Error Bool} {db db' : Db} :
    p.goal store db = some db' ↔ (p.run store [] db).result = true ∧ (p.run store [] db).db = db' := by
  rw [Prog.goal]
  split
  · rename_i h
    simp only [h, true_and, Option.some.injEq]
  · rename_i h
    simp only [h, Bool.false_eq_true, false_and, reduceCtorEq]

/-- What a program comes to is the end of one of its runs. -/
theorem ends_of_goal {p : Prog Stmt Answer Error Bool} {db db' : Db} (h : p.goal store db = some db') :
    ∃ log, p.Ends store db log db' true := by
  obtain ⟨hresult, hdb⟩ := goal_eq_some.1 h
  have hends := p.ends_run store [] db
  rw [hresult, hdb] at hends
  exact ⟨_, hends⟩

theorem goal_call {stmt : Stmt} {next : Except Error Answer → Prog Stmt Answer Error Bool} {db db' : Db}
    {answer : Answer} (h : store.exec db stmt = .ok (db', answer)) :
    (Prog.call stmt next).goal store db = (next (.ok answer)).goal store db' := by
  simp only [Prog.goal, run_call h]

theorem goal_call_error {stmt : Stmt} {next : Except Error Answer → Prog Stmt Answer Error Bool} {db : Db} {e : Error}
    (h : store.exec db stmt = .error e) :
    (Prog.call stmt next).goal store db = (next (.error e)).goal store db := by
  simp only [Prog.goal, run_call_error h]

/-- **One program behind another one**, if that succeeds. -/
theorem goal_bind (p q : Prog Stmt Answer Error Bool) (db : Db) :
    (p.bind fun ok => if ok then q else .done false).goal store db = (p.goal store db).bind (q.goal store) := by
  simp only [Prog.goal, run_bind]
  cases (p.run store [] db).result <;> rfl

end

end Interruption
