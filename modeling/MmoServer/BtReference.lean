/-
**What the composites of a behaviour tree mean.**

A tree is a leaf, or a sequence, a selector or a parallel of trees.  Between two ticks it stands at a place: it
is fresh, a leaf of it runs, it is at one child or at all of them, or it has finished; what lies behind a
sequence or a selector, or in front of it, has no place.  The nodes of the code keep a status each instead,
and reset each other.  Both report the same, and the same leaves enter and execute, in every run of ticks.

Main definitions:

* `MmoServer.BtTree`, `MmoServer.BtPlace` — a tree, and where it stands;
* `MmoServer.LeafOracle` — what the leaves return;
* `MmoServer.refTick`, `MmoServer.refRun` — what a tick means, and a run of ticks;
* `MmoServer.BtTree.build`, `MmoServer.codeRun` — the nodes of a tree, and a run of their ticks;
* `MmoServer.Stands` — the nodes of a tree that stands at a place.

Main results:

* `MmoServer.exit_built` — **whatever exits is entered anew**, with all that is below it;
* `MmoServer.tick_stands` — **a tick is what it means**, from every place;
* `MmoServer.codeRun_eq_refRun` — **so is every run**, and what has reported anything but `Running` is
  entered anew below.
-/

import Mathlib.Logic.Relation
import MmoServer.BtNode

set_option relaxedAutoImplicit false
set_option autoImplicit false

namespace MmoServer

/-! ### The reference -/

/-- A tree of sequences, selectors and parallels. -/
inductive BtTree (Leaf : Type)
  | leaf (leaf : Leaf)
  | selector (children : List (BtTree Leaf))
  | sequence (children : List (BtTree Leaf))
  | parallel (policy : BtPolicy) (children : List (BtTree Leaf))

/-- Where a tree stands between two ticks. -/
inductive BtPlace
  /-- It is entered at its next tick. -/
  | fresh
  /-- A leaf that runs. -/
  | running
  /-- A sequence or a selector that is at a child. -/
  | child (curr : ℕ) (place : BtPlace)
  /-- A parallel that runs, with the places of its children. -/
  | children (places : List BtPlace)
  /-- It is not executed again. -/
  | finished (result : BtStatus)

/-- What a leaf does. -/
inductive LeafLog (Leaf : Type)
  | entered (leaf : Leaf)
  | executed (leaf : Leaf) (result : BtStatus)

/-- What the leaves return, after what they have done so far. -/
abbrev LeafOracle (Leaf : Type) := List (LeafLog Leaf) → Leaf → BtStatus

namespace BtPlace

/-- The result of a tree that has finished. -/
def result : BtPlace → Option BtStatus
  | .finished result => some result
  | _ => none

/-- The child at which a sequence or a selector goes on, the first one unless it is at one. -/
def resume : BtPlace → ℕ × BtPlace
  | .child curr place => (curr, place)
  | _ => (0, .fresh)

/-- The places of the children of a parallel; one that is missing is fresh. -/
def places : BtPlace → List BtPlace
  | .children places => places
  | _ => []

/-- A leaf enters unless it runs. -/
def enter {Leaf : Type} (leaf : Leaf) (log : List (LeafLog Leaf)) : BtPlace → List (LeafLog Leaf)
  | .running => log
  | _ => log ++ [.entered leaf]

/-- The place of a tree that has reported: what has succeeded or failed has finished, what has ended otherwise
is fresh. -/
def after (result : BtStatus) (place : BtPlace) : BtPlace :=
  if result = .running then place else if result.isDone then .finished result else .fresh

end BtPlace

/-- The result of one child that decides a parallel. -/
def BtPolicy.decides : BtPolicy → BtStatus
  | .sequence => .failure
  | .selector => .success

/-- The result that all children of a parallel have to report. -/
def BtPolicy.asks : BtPolicy → BtStatus
  | .sequence => .success
  | .selector => .failure

section

variable {Leaf : Type} (oracle : LeafOracle Leaf)

mutual

/-- **A tick of a tree**: what it reports, where it stands then, and what its leaves do. -/
def refTick : BtTree Leaf → BtPlace → List (LeafLog Leaf) → BtStatus × BtPlace × List (LeafLog Leaf)
  | .leaf leaf, place, log =>
    match place.result with
    | some result => (result, place, log)
    | none =>
      let log := place.enter leaf log
      let result := oracle log leaf
      (result, .after result .running, log ++ [.executed leaf result])
  | .selector children, place, log =>
    match place.result with
    | some result => (result, place, log)
    | none =>
      let (result, curr, next, log) := refFrom (fun status => status = .failure ∨ status = .aborted) .failure
        children place.resume.1 place.resume.2 log
      (result, .after result (.child curr next), log)
  | .sequence children, place, log =>
    match place.result with
    | some result => (result, place, log)
    | none =>
      let (result, curr, next, log) := refFrom (fun status => status = .success ∨ status = .aborted) .success
        children place.resume.1 place.resume.2 log
      (result, .after result (.child curr next), log)
  | .parallel policy children, place, log =>
    match place.result with
    | some result => (result, place, log)
    | none =>
      let (stopped, all, places, log) := refAll policy children place.places log
      let result := stopped.getD (if all then policy.asks else .running)
      (result, .after result (.children places), log)

/-- The children of a sequence or a selector, from one on: it goes past those whose result `moves` on, stays at
the first one of which it does not, and reports `ended` behind the last one. -/
def refFrom (moves : BtStatus → Bool) (ended : BtStatus) : List (BtTree Leaf) → ℕ → BtPlace →
    List (LeafLog Leaf) → BtStatus × ℕ × BtPlace × List (LeafLog Leaf)
  | [], _, _, log => (ended, 0, .fresh, log)
  | child :: children, 0, place, log =>
    let (result, place, log) := refTick child place log
    if moves result then
      let (result, curr, place, log) := refFrom moves ended children 0 .fresh log
      (result, curr + 1, place, log)
    else (result, 0, place, log)
  | _ :: children, curr + 1, place, log =>
    let (result, curr, place, log) := refFrom moves ended children curr place log
    (result, curr + 1, place, log)

/-- The children of a parallel: the result at which it stops, if there is one, and whether all children have
reported what its policy asks for. -/
def refAll (policy : BtPolicy) : List (BtTree Leaf) → List BtPlace → List (LeafLog Leaf) →
    Option BtStatus × Bool × List BtPlace × List (LeafLog Leaf)
  | [], _, log => (none, true, [], log)
  | child :: children, places, log =>
    let (result, place, log) := refTick child (places.headD .fresh) log
    if result = policy.decides ∨ result = .aborted then (some result, false, [], log)
    else
      let (stopped, all, places, log) := refAll policy children places.tail log
      (stopped, all && (result = policy.asks), place :: places, log)

end

end

section

variable {Leaf : Type}

/-- **A run of ticks**, with what the leaves return at each: what is reported, and what the leaves do. -/
def refRun (tree : BtTree Leaf) : BtPlace → List (LeafLog Leaf) → List (LeafOracle Leaf) →
    List BtStatus × List (LeafLog Leaf)
  | _, log, [] => ([], log)
  | place, log, oracle :: oracles =>
    let (result, place, log) := refTick oracle tree place log
    let (results, log) := refRun tree place log oracles
    (result :: results, log)

/-! ### The code -/

/-- The leaves: they enter, and their task returns as the oracle says. -/
def leafAction (oracle : LeafOracle Leaf) : BtAction Leaf (List (LeafLog Leaf)) where
  enter leaf log := (leaf, log ++ [.entered leaf])
  task leaf log := (oracle log leaf, leaf, log ++ [.executed leaf (oracle log leaf)])
  exit leaf log := (leaf, log)

namespace BtTree

mutual

/-- The nodes of a tree, as they are made. -/
def build : BtTree Leaf → BtNode Leaf
  | .leaf act => .action act .invalid
  | .selector children => .selector (buildAll children) 0 .invalid
  | .sequence children => .sequence (buildAll children) 0 .invalid
  | .parallel policy children => .parallel policy (buildAll children) .invalid

def buildAll : List (BtTree Leaf) → List (BtNode Leaf)
  | [] => []
  | child :: children => build child :: buildAll children

end

mutual

/-- Each composite has children. -/
def NonEmpty : BtTree Leaf → Prop
  | .leaf _ => True
  | .selector children => children ≠ [] ∧ NonEmptyAll children
  | .sequence children => children ≠ [] ∧ NonEmptyAll children
  | .parallel _ children => children ≠ [] ∧ NonEmptyAll children

def NonEmptyAll : List (BtTree Leaf) → Prop
  | [] => True
  | child :: children => NonEmpty child ∧ NonEmptyAll children

end

end BtTree

/-- **A run of ticks of the code**: what is reported, the nodes that are left, and what the leaves do. -/
def codeRun : BtNode Leaf → List (LeafLog Leaf) → List (LeafOracle Leaf) →
    List BtStatus × BtNode Leaf × List (LeafLog Leaf)
  | node, log, [] => ([], node, log)
  | node, log, oracle :: oracles =>
    let (node, log) := BtNode.tick (leafAction oracle) node log
    let (results, last, log) := codeRun node log oracles
    (node.status :: results, last, log)

/-- The status of a node that is entered at its next tick. -/
def BtStatus.EntersAnew (status : BtStatus) : Prop := status ≠ .running ∧ status.isDone = false

namespace BtNode

/-- The children of a node. -/
def children : BtNode Leaf → List (BtNode Leaf)
  | .action _ _ => []
  | .selector children _ _ => children
  | .sequence children _ _ => children
  | .parallel _ children _ => children
  | .edSelector children _ _ _ => children
  | .repeat child _ _ _ => [child]

/-- A node has a child. -/
def IsParent (node child : BtNode Leaf) : Prop := child ∈ node.children

end BtNode

/-! ### The nodes of a tree -/

mutual

/-- The node is one of the tree, and each status in it is as asked. -/
def Built (P : BtStatus → Prop) : BtTree Leaf → BtNode Leaf → Prop
  | .leaf leaf, .action act status => act = leaf ∧ P status
  | .selector trees, .selector children _ status => P status ∧ BuiltAll P trees children
  | .sequence trees, .sequence children _ status => P status ∧ BuiltAll P trees children
  | .parallel policy trees, .parallel policy' children status =>
    policy' = policy ∧ P status ∧ BuiltAll P trees children
  | _, _ => False

def BuiltAll (P : BtStatus → Prop) : List (BtTree Leaf) → List (BtNode Leaf) → Prop
  | [], [] => True
  | tree :: trees, child :: children => Built P tree child ∧ BuiltAll P trees children
  | _, _ => False

end

/-- The node does not run, and what is below it is entered anew. -/
def Stopped (tree : BtTree Leaf) (node : BtNode Leaf) : Prop :=
  node.status ≠ .running ∧ Built BtStatus.EntersAnew tree (node.setStatus .invalid)

mutual

/-- **The node is that of a tree which stands at a place.** -/
inductive Stands : BtTree Leaf → BtPlace → BtNode Leaf → Prop
  | fresh {tree : BtTree Leaf} {node : BtNode Leaf} : Stopped tree node → node.status.isDone = false →
      Stands tree .fresh node
  | finished {tree : BtTree Leaf} {node : BtNode Leaf} : Stopped tree node → node.status.isDone = true →
      Stands tree (.finished node.status) node
  | leaf (leaf : Leaf) : Stands (.leaf leaf) .running (.action leaf .running)
  | selector {trees : List (BtTree Leaf)} {curr : ℕ} {place : BtPlace} {children : List (BtNode Leaf)} :
      StandsAt trees curr place children →
      Stands (.selector trees) (.child curr place) (.selector children curr .running)
  | sequence {trees : List (BtTree Leaf)} {curr : ℕ} {place : BtPlace} {children : List (BtNode Leaf)} :
      StandsAt trees curr place children →
      Stands (.sequence trees) (.child curr place) (.sequence children curr .running)
  | parallel {policy : BtPolicy} {trees : List (BtTree Leaf)} {places : List BtPlace}
      {children : List (BtNode Leaf)} : StandsAll trees places children →
      Stands (.parallel policy trees) (.children places) (.parallel policy children .running)

/-- The nodes of trees of which one stands at a place, and those behind it are fresh. -/
inductive StandsAt : List (BtTree Leaf) → ℕ → BtPlace → List (BtNode Leaf) → Prop
  | here {tree : BtTree Leaf} {trees : List (BtTree Leaf)} {place : BtPlace} {child : BtNode Leaf}
      {children : List (BtNode Leaf)} : Stands tree place child →
      BuiltAll BtStatus.EntersAnew trees children →
      StandsAt (tree :: trees) 0 place (child :: children)
  | there {tree : BtTree Leaf} {trees : List (BtTree Leaf)} {curr : ℕ} {place : BtPlace}
      {child : BtNode Leaf} {children : List (BtNode Leaf)} : Stopped tree child →
      StandsAt trees curr place children → StandsAt (tree :: trees) (curr + 1) place (child :: children)

/-- The nodes of trees that all stand at places. -/
inductive StandsAll : List (BtTree Leaf) → List BtPlace → List (BtNode Leaf) → Prop
  | nil {places : List BtPlace} : StandsAll [] places []
  | cons {tree : BtTree Leaf} {trees : List (BtTree Leaf)} {places : List BtPlace} {child : BtNode Leaf}
      {children : List (BtNode Leaf)} : Stands tree (places.headD .fresh) child →
      StandsAll trees places.tail children → StandsAll (tree :: trees) places (child :: children)

end

theorem BtNode.setStatus_setStatus (node : BtNode Leaf) (a b : BtStatus) :
    (node.setStatus a).setStatus b = node.setStatus b := by
  cases node <;> rfl

theorem BtNode.setStatus_status (node : BtNode Leaf) : node.setStatus node.status = node := by
  cases node <;> rfl

theorem BtStatus.entersAnew_invalid : BtStatus.invalid.EntersAnew := ⟨by decide, rfl⟩

section

variable {P Q : BtStatus → Prop} {tree : BtTree Leaf} {node : BtNode Leaf}

/-- Only the status of the node itself changes. -/
theorem Built.setStatus (h : Built P tree node) (status : BtStatus) (hstatus : P status) :
    Built P tree (node.setStatus status) := by
  cases tree <;> cases node <;> try exact h.elim
  case leaf.action => exact ⟨h.1, hstatus⟩
  case selector.selector => exact ⟨hstatus, h.2⟩
  case sequence.sequence => exact ⟨hstatus, h.2⟩
  case parallel.parallel => exact ⟨h.1, hstatus, h.2.2⟩

theorem Built.status (h : Built P tree node) : P node.status := by
  cases tree <;> cases node <;> try exact h.elim
  case leaf.action => exact h.2
  case selector.selector => exact h.1
  case sequence.sequence => exact h.1
  case parallel.parallel => exact h.2.1

mutual

theorem Built.mono (hPQ : ∀ status, P status → Q status) :
    ∀ {tree : BtTree Leaf} {node : BtNode Leaf}, Built P tree node → Built Q tree node
  | .leaf _, .action _ _, ⟨heq, hstatus⟩ => ⟨heq, hPQ _ hstatus⟩
  | .selector _, .selector _ _ _, ⟨hstatus, hchildren⟩ => ⟨hPQ _ hstatus, BuiltAll.mono hPQ hchildren⟩
  | .sequence _, .sequence _ _ _, ⟨hstatus, hchildren⟩ => ⟨hPQ _ hstatus, BuiltAll.mono hPQ hchildren⟩
  | .parallel _ _, .parallel _ _ _, ⟨heq, hstatus, hchildren⟩ =>
    ⟨heq, hPQ _ hstatus, BuiltAll.mono hPQ hchildren⟩

theorem BuiltAll.mono (hPQ : ∀ status, P status → Q status) :
    ∀ {trees : List (BtTree Leaf)} {children : List (BtNode Leaf)}, BuiltAll P trees children →
      BuiltAll Q trees children
  | [], [], _ => trivial
  | _ :: _, _ :: _, ⟨hchild, hchildren⟩ => ⟨Built.mono hPQ hchild, BuiltAll.mono hPQ hchildren⟩

end

theorem Built.any (h : Built P tree node) : Built (fun _ => True) tree node := h.mono fun _ _ => trivial

theorem Stopped.built (h : Stopped tree node) : Built (fun _ => True) tree node := by
  have hnode := h.2.any.setStatus node.status trivial
  rwa [BtNode.setStatus_setStatus, BtNode.setStatus_status] at hnode

/-- A node that is entered anew, with all that is below it. -/
theorem Built.stands (h : Built BtStatus.EntersAnew tree node) : Stands tree .fresh node :=
  .fresh ⟨h.status.1, h.setStatus .invalid BtStatus.entersAnew_invalid⟩ h.status.2

/-- **A node that has stopped** stands where it reports. -/
theorem Stopped.stands (h : Stopped tree node) (place : BtPlace) : Stands tree (.after node.status place) node := by
  rw [BtPlace.after, if_neg h.1]
  split
  · rename_i hdone
    exact .finished h hdone
  · rename_i hdone
    exact .fresh h (by simpa using hdone)

mutual

/-- Whatever place a tree stands at, the node is one of it. -/
theorem Stands.built : ∀ {tree : BtTree Leaf} {place : BtPlace} {node : BtNode Leaf},
    Stands tree place node → Built (fun _ => True) tree node
  | _, _, _, .fresh h _ => h.built
  | _, _, _, .finished h _ => h.built
  | _, _, _, .leaf _ => ⟨rfl, trivial⟩
  | _, _, _, .selector h => ⟨trivial, StandsAt.built h⟩
  | _, _, _, .sequence h => ⟨trivial, StandsAt.built h⟩
  | _, _, _, .parallel h => ⟨rfl, trivial, StandsAll.built h⟩

theorem StandsAt.built : ∀ {trees : List (BtTree Leaf)} {curr : ℕ} {place : BtPlace}
    {children : List (BtNode Leaf)}, StandsAt trees curr place children → BuiltAll (fun _ => True) trees children
  | _, _, _, _, .here hchild hchildren => ⟨Stands.built hchild, hchildren.mono fun _ _ => trivial⟩
  | _, _, _, _, .there hchild hchildren => ⟨hchild.built, StandsAt.built hchildren⟩

theorem StandsAll.built : ∀ {trees : List (BtTree Leaf)} {places : List BtPlace}
    {children : List (BtNode Leaf)}, StandsAll trees places children → BuiltAll (fun _ => True) trees children
  | _, _, _, .nil => trivial
  | _, _, _, .cons hchild hchildren => ⟨Stands.built hchild, StandsAll.built hchildren⟩

end

/-! ### Leaving a node -/

variable (oracle : LeafOracle Leaf) (log : List (LeafLog Leaf))

mutual

/-- **Whatever exits** is entered anew when its status is reset, and so is all that is below it. -/
theorem exit_built : ∀ {tree : BtTree Leaf} {node : BtNode Leaf}, Built (fun _ => True) tree node →
    ∀ log, Built BtStatus.EntersAnew tree ((BtNode.exit (leafAction oracle) node log).1.setStatus .invalid)
  | .leaf _, .action _ _, ⟨heq, _⟩, _ => ⟨heq, BtStatus.entersAnew_invalid⟩
  | .selector _, .selector _ _ _, ⟨_, hchildren⟩, log =>
    ⟨BtStatus.entersAnew_invalid, forceExitAll_built hchildren log⟩
  | .sequence _, .sequence _ _ _, ⟨_, hchildren⟩, log =>
    ⟨BtStatus.entersAnew_invalid, forceExitAll_built hchildren log⟩
  | .parallel _ _, .parallel _ _ _, ⟨heq, _, hchildren⟩, log =>
    ⟨heq, BtStatus.entersAnew_invalid, forceExitAll_built hchildren log⟩

theorem forceExitAll_built : ∀ {trees : List (BtTree Leaf)} {children : List (BtNode Leaf)},
    BuiltAll (fun _ => True) trees children →
    ∀ log, BuiltAll BtStatus.EntersAnew trees (BtNode.forceExitAll (leafAction oracle) children log).1
  | [], [], _, _ => trivial
  | _ :: _, _ :: _, ⟨hchild, hchildren⟩, log => ⟨exit_built hchild log, forceExitAll_built hchildren _⟩

end

theorem status_exit (node : BtNode Leaf) :
    (BtNode.exit (leafAction oracle) node log).1.status = node.status := by
  cases node <;> rfl

/-- No leaf enters or executes when a node exits. -/
theorem log_exit (node : BtNode Leaf) : (BtNode.exit (leafAction oracle) node log).2 = log := by
  have hkeeps : (leafAction oracle).ExitKeeps (fun _ => True) fun log log' => log' = log :=
    ⟨fun _ => rfl, fun h h' => h'.trans h, fun _ _ _ => ⟨trivial, rfl⟩⟩
  exact (BtNode.exit_keeps hkeeps node log (BtNode.allLeaves_true node)).2

/-- **The end of a tick** of a node that does not run stops it. -/
theorem stopped_finish (h : Built (fun _ => True) tree node) (hstatus : node.status ≠ .running) :
    Stopped tree (BtNode.finish (leafAction oracle) node log).1 ∧
      (BtNode.finish (leafAction oracle) node log).1.status = node.status ∧
      (BtNode.finish (leafAction oracle) node log).2 = log := by
  rw [BtNode.finish, if_pos hstatus]
  have hexit := status_exit oracle log node
  exact ⟨⟨by rwa [hexit], exit_built oracle h log⟩, hexit, log_exit oracle log node⟩

/-- The same at the end of every tick. -/
theorem stands_finish (place : BtPlace) (h : Built (fun _ => True) tree node)
    (hrunning : node.status = .running → Stands tree place node) :
    Stands tree (.after node.status place) (BtNode.finish (leafAction oracle) node log).1 ∧
      (BtNode.finish (leafAction oracle) node log).1.status = node.status ∧
      (BtNode.finish (leafAction oracle) node log).2 = log := by
  by_cases hstatus : node.status = .running
  · rw [BtNode.finish, if_neg (not_not.2 hstatus), BtPlace.after, if_pos hstatus]
    exact ⟨hrunning hstatus, rfl, rfl⟩
  · obtain ⟨hstopped, heq, hlog⟩ := stopped_finish oracle log h hstatus
    have hstands := hstopped.stands place
    rw [heq] at hstands
    exact ⟨hstands, heq, hlog⟩

end

/-! ### A tick -/

section

variable {tree : BtTree Leaf} {trees : List (BtTree Leaf)} {place : BtPlace} {node : BtNode Leaf}
  {children : List (BtNode Leaf)}

theorem Stands.stopped (h : Stands tree place node) (hstatus : node.status ≠ .running) : Stopped tree node := by
  cases h with
  | fresh h _ | finished h _ => exact h
  | leaf | selector | sequence | parallel => exact absurd rfl hstatus

/-- Children that are entered anew: the first one is next. -/
theorem BuiltAll.standsAt (h : BuiltAll BtStatus.EntersAnew trees children) (hne : trees ≠ []) :
    StandsAt trees 0 .fresh children := by
  cases trees with
  | nil => exact absurd rfl hne
  | cons tree trees =>
    cases children with
    | nil => exact h.elim
    | cons child children => exact .here h.1.stands h.2

theorem BuiltAll.standsAll (h : BuiltAll BtStatus.EntersAnew trees children) : StandsAll trees [] children := by
  induction trees generalizing children with
  | nil =>
    cases children with
    | nil => exact .nil
    | cons child children => exact h.elim
  | cons tree trees ih =>
    cases children with
    | nil => exact h.elim
    | cons child children => exact .cons h.1.stands (ih h.2)

/-- A leaf that is ticked. -/
theorem Stands.leaf_inv {leaf : Leaf} (h : Stands (.leaf leaf) place node) (hnone : place.result = none) :
    ∃ status, node = .action leaf status ∧ status.isDone = false ∧ (place = .running ↔ status = .running) := by
  cases h with
  | @fresh _ node h hdone =>
    cases node with
    | action act status =>
      obtain ⟨rfl, -⟩ := h.2
      exact ⟨status, rfl, hdone, iff_of_false (by simp) h.1⟩
    | _ => exact h.2.elim
  | finished => cases hnone
  | leaf => exact ⟨.running, rfl, rfl, iff_of_true rfl rfl⟩

/-- A selector that is ticked goes on at one of its children. -/
theorem Stands.selector_inv (h : Stands (.selector trees) place node) (hnone : place.result = none)
    (hne : trees ≠ []) : ∃ children curr status, node = .selector children curr status ∧
      status.isDone = false ∧ (if status ≠ .running then 0 else curr) = place.resume.1 ∧
      StandsAt trees place.resume.1 place.resume.2 children := by
  cases h with
  | @fresh _ node h hdone =>
    cases node with
    | selector children curr status =>
      exact ⟨children, curr, status, rfl, hdone, if_pos h.1, h.2.2.standsAt hne⟩
    | _ => exact h.2.elim
  | finished => cases hnone
  | selector h => exact ⟨_, _, _, rfl, rfl, rfl, h⟩

/-- So does a sequence. -/
theorem Stands.sequence_inv (h : Stands (.sequence trees) place node) (hnone : place.result = none)
    (hne : trees ≠ []) : ∃ children curr status, node = .sequence children curr status ∧
      status.isDone = false ∧ (if status ≠ .running then 0 else curr) = place.resume.1 ∧
      StandsAt trees place.resume.1 place.resume.2 children := by
  cases h with
  | @fresh _ node h hdone =>
    cases node with
    | sequence children curr status =>
      exact ⟨children, curr, status, rfl, hdone, if_pos h.1, h.2.2.standsAt hne⟩
    | _ => exact h.2.elim
  | finished => cases hnone
  | sequence h => exact ⟨_, _, _, rfl, rfl, rfl, h⟩

/-- A parallel that is ticked has all its children at their places. -/
theorem Stands.parallel_inv {policy : BtPolicy} (h : Stands (.parallel policy trees) place node)
    (hnone : place.result = none) : ∃ children status, node = .parallel policy children status ∧
      status.isDone = false ∧ StandsAll trees place.places children := by
  cases h with
  | @fresh _ node h hdone =>
    cases node with
    | parallel policy' children status =>
      obtain ⟨rfl, -, hchildren⟩ := h.2
      exact ⟨children, status, rfl, hdone, hchildren.standsAll⟩
    | _ => exact h.2.elim
  | finished => cases hnone
  | parallel h => exact ⟨_, _, rfl, rfl, h⟩

end

section

variable (oracle : LeafOracle Leaf)

/-- The tick of the node does what that of the tree means. -/
def TickAgrees (tree : BtTree Leaf) (place : BtPlace) (node : BtNode Leaf) (log : List (LeafLog Leaf)) : Prop :=
  ∃ place', refTick oracle tree place log = ((BtNode.tick (leafAction oracle) node log).1.status, place',
      (BtNode.tick (leafAction oracle) node log).2) ∧
    Stands tree place' (BtNode.tick (leafAction oracle) node log).1

/-- What has finished is not executed. -/
theorem tickAgrees_of_result {tree : BtTree Leaf} {place : BtPlace} {node : BtNode Leaf}
    (h : Stands tree place node) {result : BtStatus} (hresult : place.result = some result)
    (log : List (LeafLog Leaf)) : TickAgrees oracle tree place node log := by
  cases h with
  | finished h hdone =>
    rw [TickAgrees, BtNode.tick_of_isDone (leafAction oracle) hdone]
    exact ⟨.finished node.status, by cases tree <;> rfl, .finished h hdone⟩
  | fresh | leaf | selector | sequence | parallel => cases hresult

/-- The tick of the node ends with what the tree reports, at its place. -/
theorem tickAgrees_finish {tree : BtTree Leaf} {place place' : BtPlace} {node node' : BtNode Leaf}
    {log log' : List (LeafLog Leaf)} {result : BtStatus} (hcode : BtNode.tick (leafAction oracle) node log =
      BtNode.finish (leafAction oracle) node' log')
    (href : refTick oracle tree place log = (result, .after result place', log'))
    (hbuilt : Built (fun _ => True) tree node') (hstatus : node'.status = result)
    (hrunning : result = .running → Stands tree place' node') : TickAgrees oracle tree place node log := by
  subst hstatus
  obtain ⟨hstands, hsame, hlog⟩ := stands_finish oracle log' place' hbuilt hrunning
  rw [TickAgrees, hcode, href]
  exact ⟨_, by rw [hsame, hlog], hstands⟩

/-- **A leaf.** -/
theorem tickAgrees_leaf {leaf : Leaf} {place : BtPlace} {node : BtNode Leaf}
    (h : Stands (.leaf leaf) place node) (hnone : place.result = none) (log : List (LeafLog Leaf)) :
    TickAgrees oracle (.leaf leaf) place node log := by
  obtain ⟨status, rfl, hdone, hrunning⟩ := h.leaf_inv hnone
  have hstart : (if status ≠ .running then log ++ [.entered leaf] else log) = place.enter leaf log := by
    by_cases hstatus : status = .running
    · rw [hrunning.2 hstatus, if_neg (not_not.2 hstatus)]
      rfl
    · rw [if_pos hstatus]
      cases place with
      | running => exact absurd (hrunning.1 rfl) hstatus
      | fresh | child | children | finished => rfl
  have hcode : BtNode.tick (leafAction oracle) (.action leaf status) log =
      BtNode.finish (leafAction oracle) (.action leaf (oracle (place.enter leaf log) leaf))
        (place.enter leaf log ++ [.executed leaf (oracle (place.enter leaf log) leaf)]) := by
    rw [BtNode.tick_action, if_neg (by simp [hdone]), ← hstart]
    by_cases hstatus : status = .running <;> simp [hstatus, leafAction]
  have href : refTick oracle (.leaf leaf) place log = (oracle (place.enter leaf log) leaf,
      .after (oracle (place.enter leaf log) leaf) .running,
      place.enter leaf log ++ [.executed leaf (oracle (place.enter leaf log) leaf)]) := by
    rw [refTick, hnone]
  refine tickAgrees_finish oracle hcode href ⟨rfl, trivial⟩ rfl fun hrun => ?_
  rw [hrun]
  exact .leaf leaf

/-- The loop of a sequence or a selector does what it means. -/
def FromAgrees (moves : BtStatus → Bool) (ended : BtStatus) (trees : List (BtTree Leaf)) (curr : ℕ)
    (place : BtPlace) (children : List (BtNode Leaf)) (log : List (LeafLog Leaf)) : Prop :=
  ∃ result curr' place' children' log',
    refFrom oracle moves ended trees curr place log = (result, curr', place', log') ∧
    BtNode.runFrom (leafAction oracle) moves ended children curr log =
      (children', curr', some result, log') ∧
    BuiltAll (fun _ => True) trees children' ∧
    (result = .running → StandsAt trees curr' place' children')

/-- So does the loop of a parallel, from a child on: `n` children lie before it, and `count` of them have
reported what the policy asks for. -/
def AllAgrees (policy : BtPolicy) (trees : List (BtTree Leaf)) (places : List BtPlace)
    (children : List (BtNode Leaf)) (log : List (LeafLog Leaf)) : Prop :=
  ∃ stopped all places' children' log',
    refAll oracle policy trees places log = (stopped, all, places', log') ∧
    (∀ n succNum failNum, (if policy = .sequence then succNum else failNum) ≤ n →
      BtNode.runAll (leafAction oracle) policy (n + trees.length) children succNum failNum log =
        (children', stopped.getD (if all ∧ (if policy = .sequence then succNum else failNum) = n
          then policy.asks else .running), log')) ∧
    BuiltAll (fun _ => True) trees children' ∧ stopped ≠ some .running ∧
    (stopped = none → StandsAll trees places' children')

variable {oracle} {tree : BtTree Leaf} {trees : List (BtTree Leaf)} {place : BtPlace} {child : BtNode Leaf}
  {children : List (BtNode Leaf)} {log : List (LeafLog Leaf)}

/-- **The child at which a sequence or a selector is**: it stays there, or goes on with the next one. -/
theorem fromAgrees_here {moves : BtStatus → Bool} {ended : BtStatus} (hmoves : moves .running = false)
    (hended : ended ≠ .running) (htick : TickAgrees oracle tree place child log)
    (hfresh : BuiltAll BtStatus.EntersAnew trees children)
    (hrest : ∀ log, trees ≠ [] → FromAgrees oracle moves ended trees 0 .fresh children log) :
    FromAgrees oracle moves ended (tree :: trees) 0 place (child :: children) log := by
  obtain ⟨place', href, hstands⟩ := htick
  obtain ⟨child', log', hcode⟩ : ∃ child' log',
      BtNode.tick (leafAction oracle) child log = (child', log') := ⟨_, _, rfl⟩
  rw [hcode] at href hstands
  by_cases hgo : moves child'.status = true
  · cases trees with
    | nil =>
      cases children with
      | cons next rest => exact hfresh.elim
      | nil =>
        refine ⟨ended, 1, .fresh, [child'], log', ?_, BtNode.runFrom_ends hcode hgo,
          ⟨hstands.built, trivial⟩, fun h => absurd h hended⟩
        rw [refFrom, href]
        simp [hgo, refFrom]
    | cons tree' trees =>
      cases children with
      | nil => exact hfresh.elim
      | cons next rest =>
        obtain ⟨result, curr', place'', children', log'', hrefs, hcodes, hbuilt, hat⟩ :=
          hrest log' (List.cons_ne_nil tree' trees)
        have hstopped : Stopped tree child' := hstands.stopped fun hrun => by
          rw [hrun, hmoves] at hgo
          cases hgo
        refine ⟨result, curr' + 1, place'', child' :: children', log'', ?_,
          BtNode.runFrom_moves hcode hgo hcodes, ⟨hstands.built, hbuilt⟩, fun h => .there hstopped (hat h)⟩
        rw [refFrom, href]
        simp [hgo, hrefs]
  · have hstays : moves child'.status = false := by simpa using hgo
    refine ⟨child'.status, 0, place', child' :: children, log', ?_, BtNode.runFrom_stays hcode hstays,
      ⟨hstands.built, hfresh.mono fun _ _ => trivial⟩, fun _ => .here hstands hfresh⟩
    rw [refFrom, href]
    simp [hstays]

/-- A child that lies before it. -/
theorem fromAgrees_there {moves : BtStatus → Bool} {ended : BtStatus} {curr : ℕ} (hstopped : Stopped tree child)
    (hrest : FromAgrees oracle moves ended trees curr place children log) :
    FromAgrees oracle moves ended (tree :: trees) (curr + 1) place (child :: children) log := by
  obtain ⟨result, curr', place', children', log', hrefs, hcodes, hbuilt, hat⟩ := hrest
  refine ⟨result, curr' + 1, place', child :: children', log', ?_, BtNode.runFrom_succ_eq hcodes,
    ⟨hstopped.built, hbuilt⟩, fun h => .there hstopped (hat h)⟩
  rw [refFrom, hrefs]

theorem allAgrees_nil (policy : BtPolicy) (places : List BtPlace) (log : List (LeafLog Leaf)) :
    AllAgrees oracle policy [] places [] log := by
  refine ⟨none, true, [], [], log, rfl, fun n succNum failNum _ => ?_, trivial, by simp, fun _ => .nil⟩
  rw [BtNode.runAll]
  cases policy <;> simp [BtPolicy.asks] <;> split <;> rfl

/-- **A child of a parallel**: it stops there, or goes on with the next one. -/
theorem allAgrees_cons {policy : BtPolicy} {places : List BtPlace}
    (htick : TickAgrees oracle tree (places.headD .fresh) child log)
    (hbuilt : BuiltAll (fun _ => True) trees children)
    (hrest : ∀ log, AllAgrees oracle policy trees places.tail children log) :
    AllAgrees oracle policy (tree :: trees) places (child :: children) log := by
  obtain ⟨place', href, hstands⟩ := htick
  obtain ⟨child', log', hcode⟩ : ∃ child' log',
      BtNode.tick (leafAction oracle) child log = (child', log') := ⟨_, _, rfl⟩
  rw [hcode] at href hstands
  by_cases hstop : child'.status = policy.decides ∨ child'.status = .aborted
  · refine ⟨some child'.status, false, [], child' :: children, log', ?_, fun n succNum failNum _ => ?_,
      ⟨hstands.built, hbuilt⟩, ?_, fun h => by cases h⟩
    · rw [refAll, href]
      simp [hstop]
    · rw [BtNode.runAll, hcode]
      rcases hstop with hstop | hstop <;> cases policy <;> simp [hstop, BtPolicy.decides]
    · rcases hstop with hstop | hstop <;> cases policy <;> simp [hstop, BtPolicy.decides]
  · obtain ⟨stopped, all, places', children', log'', hrefs, hcodes, hbuilts, hne, hat⟩ := hrest log'
    refine ⟨stopped, all && (child'.status = policy.asks), place' :: places', child' :: children', log'', ?_,
      fun n succNum failNum hcount => ?_, ⟨hstands.built, hbuilts⟩, hne, fun h => .cons hstands (hat h)⟩
    · rw [refAll, href]
      simp [hstop, hrefs]
    · have hlength : n + (tree :: trees).length = n + 1 + trees.length := by
        rw [List.length_cons]
        omega
      rw [hlength, BtNode.runAll, hcode]
      cases policy with
      | sequence =>
        simp only [BtPolicy.decides, not_or] at hstop
        simp only [if_true] at hcount hcodes
        by_cases hasks : child'.status = .success
        · simp [hasks, BtPolicy.asks, hcodes (n + 1) (succNum + 1) failNum (by omega)]
        · simp [hasks, hstop, BtPolicy.asks, hcodes (n + 1) succNum failNum (by omega),
            show succNum ≠ n + 1 by omega]
      | selector =>
        simp only [BtPolicy.decides, not_or] at hstop
        simp only [reduceCtorEq, if_false] at hcount hcodes
        by_cases hasks : child'.status = .failure
        · simp [hasks, BtPolicy.asks, hcodes (n + 1) succNum (failNum + 1) (by omega)]
        · simp [hasks, hstop, BtPolicy.asks, hcodes (n + 1) succNum failNum (by omega),
            show failNum ≠ n + 1 by omega]

theorem tickAgrees_selector {curr : ℕ} {status : BtStatus} (hnone : place.result = none)
    (hdone : status.isDone = false) (hstart : (if status ≠ .running then 0 else curr) = place.resume.1)
    (hloop : FromAgrees oracle (fun status => status = .failure ∨ status = .aborted) .failure trees
      place.resume.1 place.resume.2 children log) :
    TickAgrees oracle (.selector trees) place (.selector children curr status) log := by
  obtain ⟨result, curr', place', children', log', href, hcode, hbuilt, hat⟩ := hloop
  have htick : BtNode.tick (leafAction oracle) (.selector children curr status) log =
      BtNode.finish (leafAction oracle) (.selector children' curr' result) log' := by
    rw [BtNode.tick, if_neg (by simp [hdone]), hstart]
    simp only [hcode, Option.getD_some]
  have hmeans : refTick oracle (.selector trees) place log = (result, .after result (.child curr' place'), log') := by
    rw [refTick, hnone]
    simp only [href]
  refine tickAgrees_finish oracle htick hmeans ⟨trivial, hbuilt⟩ rfl fun hrun => ?_
  rw [hrun]
  exact .selector (hat hrun)

theorem tickAgrees_sequence {curr : ℕ} {status : BtStatus} (hnone : place.result = none)
    (hdone : status.isDone = false) (hstart : (if status ≠ .running then 0 else curr) = place.resume.1)
    (hloop : FromAgrees oracle (fun status => status = .success ∨ status = .aborted) .success trees
      place.resume.1 place.resume.2 children log) :
    TickAgrees oracle (.sequence trees) place (.sequence children curr status) log := by
  obtain ⟨result, curr', place', children', log', href, hcode, hbuilt, hat⟩ := hloop
  have htick : BtNode.tick (leafAction oracle) (.sequence children curr status) log =
      BtNode.finish (leafAction oracle) (.sequence children' curr' result) log' := by
    rw [BtNode.tick, if_neg (by simp [hdone]), hstart]
    simp only [hcode, Option.getD_some]
  have hmeans : refTick oracle (.sequence trees) place log = (result, .after result (.child curr' place'), log') := by
    rw [refTick, hnone]
    simp only [href]
  refine tickAgrees_finish oracle htick hmeans ⟨trivial, hbuilt⟩ rfl fun hrun => ?_
  rw [hrun]
  exact .sequence (hat hrun)

theorem tickAgrees_parallel {policy : BtPolicy} {status : BtStatus} (hnone : place.result = none)
    (hdone : status.isDone = false) (hlength : children.length = trees.length)
    (hloop : AllAgrees oracle policy trees place.places children log) :
    TickAgrees oracle (.parallel policy trees) place (.parallel policy children status) log := by
  obtain ⟨stopped, all, places', children', log', href, hcode, hbuilt, hne, hat⟩ := hloop
  have hall : BtNode.runAll (leafAction oracle) policy children.length children 0 0 log =
      (children', stopped.getD (if all then policy.asks else .running), log') := by
    have hrun := hcode 0 0 0 (by simp)
    rw [hlength, ← Nat.zero_add trees.length, hrun]
    simp
  generalize hresult : stopped.getD (if all then policy.asks else .running) = result at hall
  have htick : BtNode.tick (leafAction oracle) (.parallel policy children status) log =
      BtNode.finish (leafAction oracle) (.parallel policy children' result) log' := by
    rw [BtNode.tick_parallel, if_neg (by simp [hdone]), hall]
  have hmeans : refTick oracle (.parallel policy trees) place log =
      (result, .after result (.children places'), log') := by
    rw [refTick, hnone]
    simp only [href, hresult]
  refine tickAgrees_finish oracle htick hmeans ⟨rfl, trivial, hbuilt⟩ rfl fun hrun => ?_
  subst hrun
  refine .parallel (hat ?_)
  cases stopped with
  | none => rfl
  | some status => exact absurd (congrArg some hresult) hne

theorem BuiltAll.length_eq {P : BtStatus → Prop} (h : BuiltAll P trees children) :
    children.length = trees.length := by
  induction trees generalizing children with
  | nil =>
    cases children with
    | nil => rfl
    | cons child children => exact h.elim
  | cons tree trees ih =>
    cases children with
    | nil => exact h.elim
    | cons child children => exact congrArg (· + 1) (ih h.2)

end

mutual

/-- **A tick is what it means**, from every place at which the tree stands. -/
theorem tick_stands (oracle : LeafOracle Leaf) : ∀ {tree : BtTree Leaf} {place : BtPlace} {node : BtNode Leaf},
    tree.NonEmpty → Stands tree place node → ∀ log, TickAgrees oracle tree place node log
  | .leaf leaf, place, node, _, h, log => by
    cases hresult : place.result with
    | some result => exact tickAgrees_of_result oracle h hresult log
    | none => exact tickAgrees_leaf oracle h hresult log
  | .selector trees, place, node, ⟨hne, hall⟩, h, log => by
    cases hresult : place.result with
    | some result => exact tickAgrees_of_result oracle h hresult log
    | none =>
      obtain ⟨children, curr, status, rfl, hdone, hstart, hat⟩ := h.selector_inv hresult hne
      exact tickAgrees_selector hresult hdone hstart (runFrom_stands oracle rfl (by decide) hall hat log)
  | .sequence trees, place, node, ⟨hne, hall⟩, h, log => by
    cases hresult : place.result with
    | some result => exact tickAgrees_of_result oracle h hresult log
    | none =>
      obtain ⟨children, curr, status, rfl, hdone, hstart, hat⟩ := h.sequence_inv hresult hne
      exact tickAgrees_sequence hresult hdone hstart (runFrom_stands oracle rfl (by decide) hall hat log)
  | .parallel policy trees, place, node, ⟨_, hall⟩, h, log => by
    cases hresult : place.result with
    | some result => exact tickAgrees_of_result oracle h hresult log
    | none =>
      obtain ⟨children, status, rfl, hdone, hat⟩ := h.parallel_inv hresult
      exact tickAgrees_parallel hresult hdone hat.built.length_eq (runAll_stands oracle policy hall hat log)

theorem runFrom_stands (oracle : LeafOracle Leaf) {moves : BtStatus → Bool} {ended : BtStatus}
    (hmoves : moves .running = false) (hended : ended ≠ .running) : ∀ {trees : List (BtTree Leaf)} {curr : ℕ}
    {place : BtPlace} {children : List (BtNode Leaf)}, BtTree.NonEmptyAll trees →
    StandsAt trees curr place children →
    ∀ log, FromAgrees oracle moves ended trees curr place children log
  | [], _, _, _, _, h, _ => by cases h
  | _ :: trees, _, _, _, ⟨hchild, hall⟩, h, log => by
    cases h with
    | here hstands hfresh =>
      exact fromAgrees_here hmoves hended (tick_stands oracle hchild hstands log) hfresh fun log hne =>
        runFrom_stands oracle hmoves hended hall (hfresh.standsAt hne) log
    | there hstopped hat =>
      exact fromAgrees_there hstopped (runFrom_stands oracle hmoves hended hall hat log)

theorem runAll_stands (oracle : LeafOracle Leaf) (policy : BtPolicy) : ∀ {trees : List (BtTree Leaf)}
    {places : List BtPlace} {children : List (BtNode Leaf)}, BtTree.NonEmptyAll trees →
    StandsAll trees places children → ∀ log, AllAgrees oracle policy trees places children log
  | [], places, _, _, h, log => by
    cases h
    exact allAgrees_nil policy places log
  | _ :: trees, _, _, ⟨hchild, hall⟩, h, log => by
    cases h with
    | cons hstands hat =>
      exact allAgrees_cons (tick_stands oracle hchild hstands log) hat.built fun log =>
        runAll_stands oracle policy hall hat log

end

/-! ### What is below a node -/

section

variable {P : BtStatus → Prop} {tree : BtTree Leaf} {trees : List (BtTree Leaf)} {place : BtPlace}
  {node child below : BtNode Leaf} {children : List (BtNode Leaf)}

theorem BuiltAll.mem (h : BuiltAll P trees children) (hne : BtTree.NonEmptyAll trees) (hmem : child ∈ children) :
    ∃ tree' : BtTree Leaf, tree'.NonEmpty ∧ Built P tree' child := by
  induction trees generalizing children with
  | nil =>
    cases children with
    | nil => cases hmem
    | cons first rest => exact h.elim
  | cons tree trees ih =>
    cases children with
    | nil => cases hmem
    | cons first rest =>
      rcases List.mem_cons.1 hmem with rfl | hmem
      · exact ⟨tree, hne.1, h.1⟩
      · exact ih h.2 hne.2 hmem

/-- What is below the node of a tree is part of it. -/
theorem Built.isParent (h : Built P tree node) (hne : tree.NonEmpty) (hchild : node.IsParent child) :
    ∃ tree' : BtTree Leaf, tree'.NonEmpty ∧ Built P tree' child := by
  cases tree <;> cases node <;> try exact h.elim
  case leaf.action => exact absurd hchild List.not_mem_nil
  case selector.selector => exact h.2.mem hne.2 hchild
  case sequence.sequence => exact h.2.mem hne.2 hchild
  case parallel.parallel => exact h.2.2.mem hne.2 hchild

theorem Stopped.isParent (h : Stopped tree node) (hne : tree.NonEmpty) (hchild : node.IsParent child) :
    ∃ tree' : BtTree Leaf, tree'.NonEmpty ∧ Built BtStatus.EntersAnew tree' child := by
  refine h.2.isParent hne ?_
  cases node <;> exact hchild

/-- **All that is below a node that has stopped** is entered anew. -/
theorem Stopped.entersAnew (h : Stopped tree node) (hne : tree.NonEmpty)
    (hbelow : Relation.TransGen BtNode.IsParent node below) : below.status.EntersAnew := by
  have hbuilt : ∃ tree' : BtTree Leaf, tree'.NonEmpty ∧ Built BtStatus.EntersAnew tree' below := by
    induction hbelow with
    | single hchild => exact h.isParent hne hchild
    | tail _ hchild ih =>
      obtain ⟨tree', hne', hparent⟩ := ih
      exact hparent.isParent hne' hchild
  obtain ⟨tree', -, hbelow'⟩ := hbuilt
  exact hbelow'.status

theorem StandsAt.mem {curr : ℕ} (h : StandsAt trees curr place children) (hne : BtTree.NonEmptyAll trees)
    (hmem : child ∈ children) :
    ∃ (tree' : BtTree Leaf) (place' : BtPlace), tree'.NonEmpty ∧ Stands tree' place' child := by
  induction trees generalizing curr children with
  | nil => cases h
  | cons tree trees ih =>
    cases h with
    | here hstands hfresh =>
      rcases List.mem_cons.1 hmem with rfl | hmem
      · exact ⟨tree, place, hne.1, hstands⟩
      · obtain ⟨tree', hne', hbuilt⟩ := hfresh.mem hne.2 hmem
        exact ⟨tree', .fresh, hne', hbuilt.stands⟩
    | there hstopped hat =>
      rcases List.mem_cons.1 hmem with rfl | hmem
      · exact ⟨tree, _, hne.1, hstopped.stands .running⟩
      · exact ih hat hne.2 hmem

theorem StandsAll.mem {places : List BtPlace} (h : StandsAll trees places children)
    (hne : BtTree.NonEmptyAll trees) (hmem : child ∈ children) :
    ∃ (tree' : BtTree Leaf) (place' : BtPlace), tree'.NonEmpty ∧ Stands tree' place' child := by
  induction trees generalizing places children with
  | nil =>
    cases h
    cases hmem
  | cons tree trees ih =>
    cases h with
    | cons hstands hat =>
      rcases List.mem_cons.1 hmem with rfl | hmem
      · exact ⟨tree, _, hne.1, hstands⟩
      · exact ih hat hne.2 hmem

/-- Every child of a node stands at a place too. -/
theorem Stands.isParent (h : Stands tree place node) (hne : tree.NonEmpty) (hchild : node.IsParent child) :
    ∃ (tree' : BtTree Leaf) (place' : BtPlace), tree'.NonEmpty ∧ Stands tree' place' child := by
  cases h with
  | fresh h _ | finished h _ =>
    obtain ⟨tree', hne', hbuilt⟩ := h.isParent hne hchild
    exact ⟨tree', .fresh, hne', hbuilt.stands⟩
  | leaf => exact absurd hchild List.not_mem_nil
  | selector h => exact h.mem hne.2 hchild
  | sequence h => exact h.mem hne.2 hchild
  | parallel h => exact h.mem hne.2 hchild

/-- So does every node below it. -/
theorem Stands.part (h : Stands tree place node) (hne : tree.NonEmpty)
    (hpart : Relation.ReflTransGen BtNode.IsParent node child) :
    ∃ (tree' : BtTree Leaf) (place' : BtPlace), tree'.NonEmpty ∧ Stands tree' place' child := by
  induction hpart with
  | refl => exact ⟨tree, place, hne, h⟩
  | tail _ hchild ih =>
    obtain ⟨tree', place', hne', hparent⟩ := ih
    exact hparent.isParent hne' hchild

/-- **Whatever node of the tree is ticked**, all that is below it is entered anew unless it runs then. -/
theorem Stands.reports (h : Stands tree place node) (hne : tree.NonEmpty)
    (hpart : Relation.ReflTransGen BtNode.IsParent node child) (oracle : LeafOracle Leaf)
    (log : List (LeafLog Leaf)) (hstatus : (BtNode.tick (leafAction oracle) child log).1.status ≠ .running)
    (hbelow : Relation.TransGen BtNode.IsParent (BtNode.tick (leafAction oracle) child log).1 below) :
    below.status.EntersAnew := by
  obtain ⟨tree', place', hne', hchild⟩ := h.part hne hpart
  obtain ⟨place'', -, hticked⟩ := tick_stands oracle hne' hchild log
  exact (hticked.stopped hstatus).entersAnew hne' hbelow

end

/-! ### Runs -/

mutual

/-- The nodes of a tree, as they are made. -/
theorem build_built : ∀ tree : BtTree Leaf, Built BtStatus.EntersAnew tree tree.build
  | .leaf _ => ⟨rfl, BtStatus.entersAnew_invalid⟩
  | .selector children => ⟨BtStatus.entersAnew_invalid, buildAll_built children⟩
  | .sequence children => ⟨BtStatus.entersAnew_invalid, buildAll_built children⟩
  | .parallel _ children => ⟨rfl, BtStatus.entersAnew_invalid, buildAll_built children⟩

theorem buildAll_built : ∀ children : List (BtTree Leaf),
    BuiltAll BtStatus.EntersAnew children (BtTree.buildAll children)
  | [] => trivial
  | child :: children => ⟨build_built child, buildAll_built children⟩

end

/-- From every place, the code runs as the tree does, and stands at a place in the end. -/
theorem codeRun_stands {tree : BtTree Leaf} (hne : tree.NonEmpty) (oracles : List (LeafOracle Leaf))
    {place : BtPlace} {node : BtNode Leaf} (h : Stands tree place node) (log : List (LeafLog Leaf)) :
    (codeRun node log oracles).1 = (refRun tree place log oracles).1 ∧
      (codeRun node log oracles).2.2 = (refRun tree place log oracles).2 ∧
      ∃ place', Stands tree place' (codeRun node log oracles).2.1 := by
  induction oracles generalizing place node log with
  | nil => exact ⟨rfl, rfl, place, h⟩
  | cons oracle oracles ih =>
    obtain ⟨place', href, hstands⟩ := tick_stands oracle hne h log
    obtain ⟨hresults, hlog, hlast⟩ := ih hstands (BtNode.tick (leafAction oracle) node log).2
    rw [codeRun, refRun, href]
    exact ⟨congrArg _ hresults, hlog, hlast⟩

/-- **Every run of ticks is what it means**: it reports the same results, and the same leaves enter and execute.
And in every state that is reached, a composite whose tick reports anything but `Running` leaves all that is
below it to be entered anew. -/
theorem codeRun_eq_refRun {tree : BtTree Leaf} (hne : tree.NonEmpty) (oracles : List (LeafOracle Leaf)) :
    (codeRun tree.build [] oracles).1 = (refRun tree .fresh [] oracles).1 ∧
      (codeRun tree.build [] oracles).2.2 = (refRun tree .fresh [] oracles).2 ∧
      ∀ node, Relation.ReflTransGen BtNode.IsParent (codeRun tree.build [] oracles).2.1 node →
        ∀ (oracle : LeafOracle Leaf) (log : List (LeafLog Leaf)),
          (BtNode.tick (leafAction oracle) node log).1.status ≠ .running →
          ∀ below, Relation.TransGen BtNode.IsParent (BtNode.tick (leafAction oracle) node log).1 below →
            below.status.EntersAnew := by
  obtain ⟨hresults, hlog, place, hlast⟩ := codeRun_stands hne oracles (build_built tree).stands []
  exact ⟨hresults, hlog, fun node hpart oracle log hstatus below hbelow =>
    hlast.reports hne hpart oracle log hstatus hbelow⟩

/-- A sequence of a leaf and a parallel, at its first two ticks. -/
theorem codeRun_eq_refRun_sequence :
    let tree : BtTree ℕ := .sequence [.leaf 0, .parallel .sequence [.leaf 1, .leaf 2]]
    let oracle : LeafOracle ℕ := fun _ leaf => if leaf = 2 then .running else .success
    (codeRun tree.build [] [oracle, oracle]).1 = [.running, .running] ∧
      (codeRun tree.build [] [oracle, oracle]).1 = (refRun tree .fresh [] [oracle, oracle]).1 := by
  intro tree oracle
  have hne : tree.NonEmpty := by simp [tree, BtTree.NonEmpty, BtTree.NonEmptyAll]
  exact ⟨by decide +kernel, (codeRun_eq_refRun hne [oracle, oracle]).1⟩

end

end MmoServer
