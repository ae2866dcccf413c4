/-
**Behaviour trees.**

A node that is ticked enters unless it is running, executes, and exits unless it is running then; one that
has succeeded or failed is left alone until it is reset.  The nodes are trees: sequences and selectors go
through their children, a parallel ticks all of them, an event-driven selector ticks the child that events
have switched to, and a repeat starts its child again.  What the leaves do is a parameter, over a state
that they all read and write.

Main definitions:

* `MmoServer.BtStatus`, `MmoServer.BtEventId`, `MmoServer.BtNode` — the nodes, each with its status;
* `MmoServer.BtAction` — what the leaves do;
* `MmoServer.BtNode.exit`, `MmoServer.BtNode.forceExitAll`, `MmoServer.BtNode.forceExitAt`,
  `MmoServer.BtNode.reset` — the ways to leave a node;
* `MmoServer.BtNode.tick`, `MmoServer.BtNode.handleEvent` — a tick, and an event;
* `MmoServer.BtAction.ExitKeeps`, `MmoServer.BtAction.Keeps` — what the leaves keep.

Main results:

* `MmoServer.BtNode.exit_keeps`, `MmoServer.BtNode.reset_keeps`, `MmoServer.BtNode.handleEvent_keeps` — what
  the exits of the leaves keep, **every exit, reset and event** of a tree keeps;
* `MmoServer.BtNode.tick_keeps` — what the leaves keep, **every tick** keeps;
* `MmoServer.BtNode.map_acts_tick`, `MmoServer.BtNode.map_acts_handleEvent` — so does what each leaf keeps of
  itself.
-/

import Mathlib.Data.List.Basic

set_option relaxedAutoImplicit false
set_option autoImplicit false

namespace MmoServer

/-- `BtEventId`. -/
inductive BtEventId
  | unknow | birth | alive | death | idle | patrol | pursue | attack | flee
  deriving DecidableEq

/-- `BtStatus`. -/
inductive BtStatus
  | invalid | running | success | failure | suspend | aborted
  deriving DecidableEq

/-- `BtPolicy`. -/
inductive BtPolicy
  | sequence | selector
  deriving DecidableEq

/-- A node that has one of these is not ticked again. -/
def BtStatus.isDone (status : BtStatus) : Bool := status = .success ∨ status = .failure

/-- `BtNode`.  A place in the list of children that is its length is `end()`. -/
inductive BtNode (Act : Type)
  | action (act : Act) (status : BtStatus)
  | selector (children : List (BtNode Act)) (curr : ℕ) (status : BtStatus)
  | sequence (children : List (BtNode Act)) (curr : ℕ) (status : BtStatus)
  | parallel (policy : BtPolicy) (children : List (BtNode Act)) (status : BtStatus)
  | edSelector (children : List (BtNode Act)) (nodes : List (BtEventId × ℕ)) (curr : ℕ)
      (status : BtStatus)
  | repeat (child : BtNode Act) (count limit : ℕ) (status : BtStatus)

/-- What the leaves do: `Enter`, the task of `Execute`, and `Exit`. -/
structure BtAction (Act Env : Type) where
  enter : Act → Env → Act × Env
  task : Act → Env → BtStatus × Act × Env
  exit : Act → Env → Act × Env

namespace BtNode

variable {Act Env : Type}

/-- The status of a node. -/
def status : BtNode Act → BtStatus
  | .action _ status => status
  | .selector _ _ status => status
  | .sequence _ _ status => status
  | .parallel _ _ status => status
  | .edSelector _ _ _ status => status
  | .repeat _ _ _ status => status

/-- Write the status of a node. -/
def setStatus (status : BtStatus) : BtNode Act → BtNode Act
  | .action act _ => .action act status
  | .selector children curr _ => .selector children curr status
  | .sequence children curr _ => .sequence children curr status
  | .parallel policy children _ => .parallel policy children status
  | .edSelector children nodes curr _ => .edSelector children nodes curr status
  | .repeat child count limit _ => .repeat child count limit status

variable (ops : BtAction Act Env)

/-! ### Leaving a node -/

mutual

/-- `Exit`.  A composite forces all its children to exit, an event-driven selector the current one. -/
def exit : BtNode Act → Env → BtNode Act × Env
  | .action act status, env =>
    let (act, env) := ops.exit act env
    (.action act status, env)
  | .selector children curr status, env =>
    let (children, env) := forceExitAll children env
    (.selector children curr status, env)
  | .sequence children curr status, env =>
    let (children, env) := forceExitAll children env
    (.sequence children curr status, env)
  | .parallel policy children status, env =>
    let (children, env) := forceExitAll children env
    (.parallel policy children status, env)
  | .edSelector children nodes curr status, env =>
    let (children, env) := forceExitAt .aborted children curr env
    (.edSelector children nodes curr status, env)
  | .repeat child count limit status, env => (.repeat child count limit status, env)

/-- `ForceExit(BtStatus::Invalid)` for each child. -/
def forceExitAll : List (BtNode Act) → Env → List (BtNode Act) × Env
  | [], env => ([], env)
  | child :: children, env =>
    let (child, env) := exit child env
    let (children, env) := forceExitAll children env
    (child.setStatus .invalid :: children, env)

/-- `ForceExit` for the child at a place, if there is one. -/
def forceExitAt (status : BtStatus) : List (BtNode Act) → ℕ → Env → List (BtNode Act) × Env
  | [], _, env => ([], env)
  | child :: children, 0, env =>
    let (child, env) := exit child env
    (child.setStatus status :: children, env)
  | child :: children, curr + 1, env =>
    let (children, env) := forceExitAt status children curr env
    (child :: children, env)

end

/-- `Reset`. -/
def reset (node : BtNode Act) (env : Env) : BtNode Act × Env :=
  match node with
  | .action act _ => (.action act .invalid, env)
  | .repeat child count limit _ => (.repeat child count limit .invalid, env)
  | .selector children _ _ =>
    let (children, env) := forceExitAll ops children env
    (.selector children 0 .invalid, env)
  | .sequence children _ _ =>
    let (children, env) := forceExitAll ops children env
    (.sequence children 0 .invalid, env)
  | .parallel policy children _ =>
    let (children, env) := forceExitAll ops children env
    (.parallel policy children .invalid, env)
  | .edSelector children nodes curr _ =>
    let (children, env) := forceExitAt ops .aborted children curr env
    (.edSelector children nodes 0 .invalid, env)

/-! ### A tick -/

/-- The end of a tick: the node exits unless it is running. -/
def finish (node : BtNode Act) (env : Env) : BtNode Act × Env :=
  if node.status ≠ .running then exit ops node env else (node, env)

mutual

/-- `Tick`. -/
def tick : BtNode Act → Env → BtNode Act × Env
  | .action act status, env =>
    if status.isDone then (.action act status, env)
    else
      let (act, env) := if status ≠ .running then ops.enter act env else (act, env)
      let (status, act, env) := ops.task act env
      finish ops (.action act status) env
  | .selector children curr status, env =>
    if status.isDone then (.selector children curr status, env)
    else
      let curr := if status ≠ .running then 0 else curr
      let (children, curr, result, env) :=
        runFrom (fun status => status = .failure ∨ status = .aborted) .failure children curr env
      finish ops (.selector children curr (result.getD status)) env
  | .sequence children curr status, env =>
    if status.isDone then (.sequence children curr status, env)
    else
      let curr := if status ≠ .running then 0 else curr
      let (children, curr, result, env) :=
        runFrom (fun status => status = .success ∨ status = .aborted) .success children curr env
      finish ops (.sequence children curr (result.getD status)) env
  | .parallel policy children status, env =>
    if status.isDone then (.parallel policy children status, env)
    else
      let size := children.length
      let (children, result, env) := runAll policy size children 0 0 env
      finish ops (.parallel policy children result) env
  | .edSelector children nodes curr status, env =>
    if status.isDone then (.edSelector children nodes curr status, env)
    else
      let curr := if status ≠ .running then 0 else curr
      if curr = children.length then finish ops (.edSelector children nodes curr .aborted) env
      else
        let (children, env) := runAt children curr env
        finish ops (.edSelector children nodes curr .running) env
  | .repeat child count limit status, env =>
    if status.isDone then (.repeat child count limit status, env)
    else if count < limit then
      let (child, env) := tick child env
      if child.status = .success then
        let (child, env) := reset ops child env
        finish ops
          (.repeat child (count + 1) limit (if count + 1 = limit then .success else status)) env
      else finish ops (.repeat child count limit child.status) env
    else finish ops (.repeat child count limit status) env

/-- The loop of `BtSequence` and `BtSelector`, from the current child on.  It goes past a child whose status
`moves` on, and ends with the status `ended` behind the last one; the result is none if it starts there. -/
def runFrom (moves : BtStatus → Bool) (ended : BtStatus) :
    List (BtNode Act) → ℕ → Env → List (BtNode Act) × ℕ × Option BtStatus × Env
  | [], _, env => ([], 0, none, env)
  | child :: children, 0, env =>
    let (child, env) := tick child env
    if moves child.status then
      if children.isEmpty then ([child], 1, some ended, env)
      else
        let (children, curr, result, env) := runFrom moves ended children 0 env
        (child :: children, curr + 1, result, env)
    else (child :: children, 0, some child.status, env)
  | child :: children, curr + 1, env =>
    let (children, curr, result, env) := runFrom moves ended children curr env
    (child :: children, curr + 1, result, env)

/-- The loop of `BtParallel`. -/
def runAll (policy : BtPolicy) (size : ℕ) :
    List (BtNode Act) → ℕ → ℕ → Env → List (BtNode Act) × BtStatus × Env
  | [], succNum, failNum, env =>
    if policy = .sequence ∧ succNum = size then ([], .success, env)
    else if policy = .selector ∧ failNum = size then ([], .failure, env)
    else ([], .running, env)
  | child :: children, succNum, failNum, env =>
    let (child, env) := tick child env
    if child.status = .success ∧ policy = .selector then (child :: children, .success, env)
    else if child.status = .failure ∧ policy = .sequence then (child :: children, .failure, env)
    else if child.status = .aborted then (child :: children, .aborted, env)
    else
      let succNum := if child.status = .success then succNum + 1 else succNum
      let failNum := if child.status = .failure then failNum + 1 else failNum
      let (children, result, env) := runAll policy size children succNum failNum env
      (child :: children, result, env)

/-- The child at a place is ticked. -/
def runAt : List (BtNode Act) → ℕ → Env → List (BtNode Act) × Env
  | [], _, env => ([], env)
  | child :: children, 0, env =>
    let (child, env) := tick child env
    (child :: children, env)
  | child :: children, curr + 1, env =>
    let (children, env) := runAt children curr env
    (child :: children, env)

end

/-! ### An event -/

mutual

/-- `HandleEvent`.  An event-driven selector switches to the child that is registered for the event; nothing
if it reads the current child from `end()`. -/
def handleEvent (id : BtEventId) : BtNode Act → Env → Option (BtNode Act × Env)
  | .action act status, env => some (.action act status, env)
  | .selector children curr status, env =>
    (handleAll id children env).map fun (children, env) => (.selector children curr status, env)
  | .sequence children curr status, env =>
    (handleAll id children env).map fun (children, env) => (.sequence children curr status, env)
  | .parallel policy children status, env =>
    (handleAll id children env).map fun (children, env) => (.parallel policy children status, env)
  | .edSelector children nodes curr status, env =>
    match nodes.find? fun one => one.1 = id with
    | some one =>
      if curr < children.length then
        let (children, env) := forceExitAt ops .suspend children curr env
        some (.edSelector children nodes one.2 status, env)
      else none
    | none =>
      (handleAll id children env).map fun (children, env) =>
        (.edSelector children nodes curr status, env)
  | .repeat child count limit status, env =>
    if id = .birth then
      let (child, env) := reset ops child env
      some (.repeat child 0 limit status, env)
    else
      (handleEvent id child env).map fun (child, env) => (.repeat child count limit status, env)

/-- The children handle an event one after the other. -/
def handleAll (id : BtEventId) : List (BtNode Act) → Env → Option (List (BtNode Act) × Env)
  | [], env => some ([], env)
  | child :: children, env =>
    (handleEvent id child env).bind fun (child, env) =>
      (handleAll id children env).map fun (children, env) => (child :: children, env)

end

@[simp]
theorem status_action (act : Act) (status : BtStatus) : (action act status).status = status := rfl

@[simp]
theorem status_sequence (children : List (BtNode Act)) (curr : ℕ) (status : BtStatus) :
    (sequence children curr status).status = status := rfl

@[simp]
theorem status_parallel (policy : BtPolicy) (children : List (BtNode Act)) (status : BtStatus) :
    (parallel policy children status).status = status := rfl

@[simp]
theorem status_edSelector (children : List (BtNode Act)) (nodes : List (BtEventId × ℕ)) (curr : ℕ)
    (status : BtStatus) : (edSelector children nodes curr status).status = status := rfl

@[simp]
theorem status_repeat (child : BtNode Act) (count limit : ℕ) (status : BtStatus) :
    («repeat» child count limit status).status = status := rfl

@[simp]
theorem status_setStatus (node : BtNode Act) (status : BtStatus) :
    (node.setStatus status).status = status := by
  cases node <;> rfl

/-- A node that is done is not ticked. -/
theorem tick_of_isDone {node : BtNode Act} (h : node.status.isDone) (env : Env) :
    tick ops node env = (node, env) := by
  cases node <;> exact if_pos h

/-- An event leaves the status of the node that it is given to. -/
theorem status_handleEvent {id : BtEventId} {node node' : BtNode Act} {env env' : Env}
    (h : handleEvent ops id node env = some (node', env')) : node'.status = node.status := by
  cases node with
  | action act status =>
    cases h
    rfl
  | selector children curr status | sequence children curr status | parallel policy children status =>
    obtain ⟨⟨children', env₁⟩, -, hres⟩ := Option.map_eq_some_iff.1 h
    cases hres
    rfl
  | edSelector children nodes curr status =>
    rw [handleEvent] at h
    cases hfind : nodes.find? fun one => one.1 = id with
    | some one =>
      simp only [hfind] at h
      split at h
      · cases h
        rfl
      · cases h
    | none =>
      simp only [hfind] at h
      obtain ⟨⟨children', env₁⟩, -, hres⟩ := Option.map_eq_some_iff.1 h
      cases hres
      rfl
  | «repeat» child count limit status =>
    rw [handleEvent] at h
    split at h
    · cases h
      rfl
    · obtain ⟨⟨child', env₁⟩, -, hres⟩ := Option.map_eq_some_iff.1 h
      cases hres
      rfl

/-! ### The leaves of a tree -/

mutual

/-- All leaves of a node have a property. -/
def AllLeaves (P : Act → Prop) : BtNode Act → Prop
  | .action act _ => P act
  | .selector children _ _ => AllLeavesOf P children
  | .sequence children _ _ => AllLeavesOf P children
  | .parallel _ children _ => AllLeavesOf P children
  | .edSelector children _ _ _ => AllLeavesOf P children
  | .repeat child _ _ _ => AllLeaves P child

/-- All leaves of some nodes have a property. -/
def AllLeavesOf (P : Act → Prop) : List (BtNode Act) → Prop
  | [] => True
  | child :: children => AllLeaves P child ∧ AllLeavesOf P children

end

@[simp]
theorem allLeaves_setStatus {P : Act → Prop} {status : BtStatus} {node : BtNode Act} :
    AllLeaves P (node.setStatus status) ↔ AllLeaves P node := by
  cases node <;> rfl

mutual

/-- Nothing is said of the leaves. -/
theorem allLeaves_true : ∀ node : BtNode Act, AllLeaves (fun _ => True) node
  | .action _ _ => trivial
  | .selector children _ _ => allLeavesOf_true children
  | .sequence children _ _ => allLeavesOf_true children
  | .parallel _ children _ => allLeavesOf_true children
  | .edSelector children _ _ _ => allLeavesOf_true children
  | .repeat child _ _ _ => allLeaves_true child

theorem allLeavesOf_true : ∀ children : List (BtNode Act), AllLeavesOf (fun _ => True) children
  | [] => trivial
  | child :: children => ⟨allLeaves_true child, allLeavesOf_true children⟩

end

theorem allLeavesOf_iff {P : Act → Prop} {children : List (BtNode Act)} :
    AllLeavesOf P children ↔ ∀ child ∈ children, AllLeaves P child := by
  induction children with
  | nil => exact ⟨fun _ => nofun, fun _ => trivial⟩
  | cons first rest ih => rw [AllLeavesOf, List.forall_mem_cons, ih]

end BtNode

/-! ### What the leaves keep -/

/-- Whatever leaf exits, its property stays, and the state goes on along a preorder. -/
structure BtAction.ExitKeeps {Act Env : Type} (ops : BtAction Act Env) (P : Act → Prop)
    (R : Env → Env → Prop) : Prop where
  refl : ∀ env, R env env
  trans : ∀ {env₁ env₂ env₃}, R env₁ env₂ → R env₂ env₃ → R env₁ env₃
  exit : ∀ act env, P act → P (ops.exit act env).1 ∧ R env (ops.exit act env).2

/-- The same when a leaf enters, and when it does its task. -/
structure BtAction.Keeps {Act Env : Type} (ops : BtAction Act Env) (P : Act → Prop)
    (R : Env → Env → Prop) : Prop extends ops.ExitKeeps P R where
  enter : ∀ act env, P act → P (ops.enter act env).1 ∧ R env (ops.enter act env).2
  task : ∀ act env, P act → P (ops.task act env).2.1 ∧ R env (ops.task act env).2.2

namespace BtNode

variable {Act Env : Type} {ops : BtAction Act Env} {P : Act → Prop} {R : Env → Env → Prop}

section Exit

variable (h : ops.ExitKeeps P R)

include h

mutual

/-- **Whatever node exits**, its leaves keep their property, and the state goes on along the preorder. -/
theorem exit_keeps : ∀ node env, AllLeaves P node →
    AllLeaves P (exit ops node env).1 ∧ R env (exit ops node env).2
  | .action act _, env, hleaves => h.exit act env hleaves
  | .selector children _ _, env, hleaves => forceExitAll_keeps children env hleaves
  | .sequence children _ _, env, hleaves => forceExitAll_keeps children env hleaves
  | .parallel _ children _, env, hleaves => forceExitAll_keeps children env hleaves
  | .edSelector children _ curr _, env, hleaves =>
    forceExitAt_keeps .aborted children curr env hleaves
  | .repeat _ _ _ _, env, hleaves => ⟨hleaves, h.refl env⟩

theorem forceExitAll_keeps : ∀ children env, AllLeavesOf P children →
    AllLeavesOf P (forceExitAll ops children env).1 ∧ R env (forceExitAll ops children env).2
  | [], env, hleaves => ⟨hleaves, h.refl env⟩
  | child :: children, env, ⟨hchild, hchildren⟩ =>
    have hexit := exit_keeps child env hchild
    have hrest := forceExitAll_keeps children (exit ops child env).2 hchildren
    ⟨⟨allLeaves_setStatus.2 hexit.1, hrest.1⟩, h.trans hexit.2 hrest.2⟩

theorem forceExitAt_keeps (status : BtStatus) : ∀ children curr env, AllLeavesOf P children →
    AllLeavesOf P (forceExitAt ops status children curr env).1 ∧
      R env (forceExitAt ops status children curr env).2
  | [], _, env, hleaves => ⟨hleaves, h.refl env⟩
  | child :: _, 0, env, ⟨hchild, hchildren⟩ =>
    have hexit := exit_keeps child env hchild
    ⟨⟨allLeaves_setStatus.2 hexit.1, hchildren⟩, hexit.2⟩
  | _ :: children, curr + 1, env, ⟨hchild, hchildren⟩ =>
    have hrest := forceExitAt_keeps status children curr env hchildren
    ⟨⟨hchild, hrest.1⟩, hrest.2⟩

end

/-- The same for a node that is reset. -/
theorem reset_keeps (node : BtNode Act) (env : Env) (hleaves : AllLeaves P node) :
    AllLeaves P (reset ops node env).1 ∧ R env (reset ops node env).2 := by
  cases node with
  | action | «repeat» => exact ⟨hleaves, h.refl env⟩
  | selector children | sequence children | parallel _ children =>
    exact forceExitAll_keeps h children env hleaves
  | edSelector children _ curr => exact forceExitAt_keeps h .aborted children curr env hleaves

/-- The same at the end of a tick that went along the preorder so far. -/
theorem finish_keeps {node : BtNode Act} {env env' : Env} (hR : R env env') (hleaves : AllLeaves P node) :
    AllLeaves P (finish ops node env').1 ∧ R env (finish ops node env').2 := by
  rw [finish]
  split
  · have hexit := exit_keeps h node env' hleaves
    exact ⟨hexit.1, h.trans hR hexit.2⟩
  · exact ⟨hleaves, hR⟩

mutual

/-- The same for an event that is handled. -/
theorem handleEvent_keeps (id : BtEventId) : ∀ node env node' env',
    handleEvent ops id node env = some (node', env') → AllLeaves P node →
    AllLeaves P node' ∧ R env env'
  | .action act status, env, node', env', heq, hleaves => by
    cases heq
    exact ⟨hleaves, h.refl env⟩
  | .selector children _ _, env, node', env', heq, hleaves => by
    obtain ⟨⟨children', env''⟩, hall, hres⟩ := Option.map_eq_some_iff.1 heq
    cases hres
    exact handleAll_keeps id children env children' env' hall hleaves
  | .sequence children _ _, env, node', env', heq, hleaves => by
    obtain ⟨⟨children', env''⟩, hall, hres⟩ := Option.map_eq_some_iff.1 heq
    cases hres
    exact handleAll_keeps id children env children' env' hall hleaves
  | .parallel _ children _, env, node', env', heq, hleaves => by
    obtain ⟨⟨children', env''⟩, hall, hres⟩ := Option.map_eq_some_iff.1 heq
    cases hres
    exact handleAll_keeps id children env children' env' hall hleaves
  | .edSelector children nodes curr _, env, node', env', heq, hleaves => by
    rw [handleEvent] at heq
    cases hfind : nodes.find? fun one => one.1 = id with
    | some one =>
      simp only [hfind] at heq
      split at heq
      · cases heq
        exact forceExitAt_keeps h .suspend children curr env hleaves
      · cases heq
    | none =>
      simp only [hfind] at heq
      obtain ⟨⟨children', env''⟩, hall, hres⟩ := Option.map_eq_some_iff.1 heq
      cases hres
      exact handleAll_keeps id children env children' env'' hall hleaves
  | .repeat child _ _ _, env, node', env', heq, hleaves => by
    rw [handleEvent] at heq
    split at heq
    · cases heq
      exact reset_keeps h child env hleaves
    · obtain ⟨⟨child', env''⟩, hchild, hres⟩ := Option.map_eq_some_iff.1 heq
      cases hres
      exact handleEvent_keeps id child env child' env' hchild hleaves

theorem handleAll_keeps (id : BtEventId) : ∀ children env children' env',
    handleAll ops id children env = some (children', env') → AllLeavesOf P children →
    AllLeavesOf P children' ∧ R env env'
  | [], env, children', env', heq, hleaves => by
    cases heq
    exact ⟨hleaves, h.refl env⟩
  | child :: children, env, children', env', heq, ⟨hchild, hchildren⟩ => by
    obtain ⟨⟨node, env₁⟩, hnode, heq⟩ := Option.bind_eq_some_iff.1 heq
    obtain ⟨⟨nodes, env₂⟩, hnodes, hres⟩ := Option.map_eq_some_iff.1 heq
    cases hres
    have h₁ := handleEvent_keeps id child env node env₁ hnode hchild
    have h₂ := handleAll_keeps id children env₁ nodes env' hnodes hchildren
    exact ⟨⟨h₁.1, h₂.1⟩, h.trans h₁.2 h₂.2⟩

end

end Exit

section Tick

variable (h : ops.Keeps P R)

include h

omit h in
theorem tick_action (act : Act) (status : BtStatus) (env : Env) :
    tick ops (.action act status) env =
      if status.isDone then (.action act status, env)
      else
        let start := if status ≠ .running then ops.enter act env else (act, env)
        let ended := ops.task start.1 start.2
        finish ops (.action ended.2.1 ended.1) ended.2.2 := rfl

theorem tick_action_keeps (act : Act) (status : BtStatus) (env : Env) (hact : P act) :
    AllLeaves P (tick ops (.action act status) env).1 ∧ R env (tick ops (.action act status) env).2 := by
  rw [tick_action]
  split
  · exact ⟨hact, h.refl env⟩
  · extract_lets start ended
    have hstart : P start.1 ∧ R env start.2 := by
      by_cases hrun : status ≠ .running
      · simpa only [start, if_pos hrun] using h.enter act env hact
      · simpa only [start, if_neg hrun] using (⟨hact, h.refl env⟩ : P act ∧ R env env)
    have htask := h.task start.1 start.2 hstart.1
    exact finish_keeps h.toExitKeeps (h.trans hstart.2 htask.2) htask.1

mutual

/-- **Whatever node is ticked**, its leaves keep their property, and the state goes on along the preorder. -/
theorem tick_keeps : ∀ node env, AllLeaves P node →
    AllLeaves P (tick ops node env).1 ∧ R env (tick ops node env).2
  | .action act status, env, hleaves => tick_action_keeps h act status env hleaves
  | .selector children curr status, env, hleaves => by
    rw [tick]
    split
    · exact ⟨hleaves, h.refl env⟩
    · have hrun := runFrom_keeps (fun status => status = .failure ∨ status = .aborted) .failure children
        (if status ≠ .running then 0 else curr) env hleaves
      exact finish_keeps h.toExitKeeps hrun.2 hrun.1
  | .sequence children curr status, env, hleaves => by
    rw [tick]
    split
    · exact ⟨hleaves, h.refl env⟩
    · have hrun := runFrom_keeps (fun status => status = .success ∨ status = .aborted) .success children
        (if status ≠ .running then 0 else curr) env hleaves
      exact finish_keeps h.toExitKeeps hrun.2 hrun.1
  | .parallel policy children status, env, hleaves => by
    rw [tick]
    split
    · exact ⟨hleaves, h.refl env⟩
    · have hrun := runAll_keeps policy children.length children 0 0 env hleaves
      exact finish_keeps h.toExitKeeps hrun.2 hrun.1
  | .edSelector children nodes curr status, env, hleaves => by
    rw [tick]
    split
    · exact ⟨hleaves, h.refl env⟩
    · extract_lets start
      split
      · exact finish_keeps h.toExitKeeps (h.refl env) hleaves
      · have hrun := runAt_keeps children start env hleaves
        exact finish_keeps h.toExitKeeps hrun.2 hrun.1
  | .repeat child count limit status, env, hleaves => by
    rw [tick]
    split
    · exact ⟨hleaves, h.refl env⟩
    · split
      · have htick := tick_keeps child env hleaves
        dsimp only
        split
        · have hreset := reset_keeps h.toExitKeeps _ (tick ops child env).2 htick.1
          exact finish_keeps h.toExitKeeps (h.trans htick.2 hreset.2) hreset.1
        · exact finish_keeps h.toExitKeeps htick.2 htick.1
      · exact finish_keeps h.toExitKeeps (h.refl env) hleaves

theorem runFrom_keeps (moves : BtStatus → Bool) (ended : BtStatus) : ∀ children curr env,
    AllLeavesOf P children →
    AllLeavesOf P (runFrom ops moves ended children curr env).1 ∧
      R env (runFrom ops moves ended children curr env).2.2.2
  | [], _, env, hleaves => ⟨hleaves, h.refl env⟩
  | child :: children, 0, env, ⟨hchild, hchildren⟩ => by
    have htick := tick_keeps child env hchild
    rw [runFrom]
    dsimp only
    split
    · split
      · exact ⟨⟨htick.1, trivial⟩, htick.2⟩
      · have hrest := runFrom_keeps moves ended children 0 (tick ops child env).2 hchildren
        exact ⟨⟨htick.1, hrest.1⟩, h.trans htick.2 hrest.2⟩
    · exact ⟨⟨htick.1, hchildren⟩, htick.2⟩
  | _ :: children, curr + 1, env, ⟨hchild, hchildren⟩ =>
    have hrest := runFrom_keeps moves ended children curr env hchildren
    ⟨⟨hchild, hrest.1⟩, hrest.2⟩

theorem runAll_keeps (policy : BtPolicy) (size : ℕ) : ∀ children succNum failNum env,
    AllLeavesOf P children →
    AllLeavesOf P (runAll ops policy size children succNum failNum env).1 ∧
      R env (runAll ops policy size children succNum failNum env).2.2
  | [], succNum, failNum, env, hleaves => by
    rw [runAll]
    split
    · exact ⟨hleaves, h.refl env⟩
    · split <;> exact ⟨hleaves, h.refl env⟩
  | child :: children, succNum, failNum, env, ⟨hchild, hchildren⟩ => by
    have htick := tick_keeps child env hchild
    rw [runAll]
    dsimp only
    split
    · exact ⟨⟨htick.1, hchildren⟩, htick.2⟩
    · split
      · exact ⟨⟨htick.1, hchildren⟩, htick.2⟩
      · split
        · exact ⟨⟨htick.1, hchildren⟩, htick.2⟩
        · have hrest := fun succNum failNum =>
            runAll_keeps policy size children succNum failNum (tick ops child env).2 hchildren
          exact ⟨⟨htick.1, (hrest _ _).1⟩, h.trans htick.2 (hrest _ _).2⟩

theorem runAt_keeps : ∀ children curr env, AllLeavesOf P children →
    AllLeavesOf P (runAt ops children curr env).1 ∧ R env (runAt ops children curr env).2
  | [], _, env, hleaves => ⟨hleaves, h.refl env⟩
  | child :: _, 0, env, ⟨hchild, hchildren⟩ =>
    have htick := tick_keeps child env hchild
    ⟨⟨htick.1, hchildren⟩, htick.2⟩
  | _ :: children, curr + 1, env, ⟨hchild, hchildren⟩ =>
    have hrest := runAt_keeps children curr env hchildren
    ⟨⟨hchild, hrest.1⟩, hrest.2⟩

end

end Tick

/-! ### Exits as equations -/

theorem exit_sequence (ops : BtAction Act Env) (children : List (BtNode Act)) (curr : ℕ) (status : BtStatus)
    (env : Env) :
    exit ops (.sequence children curr status) env =
      (.sequence (forceExitAll ops children env).1 curr status, (forceExitAll ops children env).2) := rfl

theorem exit_parallel (ops : BtAction Act Env) (policy : BtPolicy) (children : List (BtNode Act))
    (status : BtStatus) (env : Env) :
    exit ops (.parallel policy children status) env =
      (.parallel policy (forceExitAll ops children env).1 status, (forceExitAll ops children env).2) := rfl

theorem forceExitAll_cons (ops : BtAction Act Env) (child : BtNode Act) (children : List (BtNode Act))
    (env : Env) :
    forceExitAll ops (child :: children) env =
      let rest := forceExitAll ops children (exit ops child env).2
      ((exit ops child env).1.setStatus .invalid :: rest.1, rest.2) := rfl

theorem forceExitAll_nil (ops : BtAction Act Env) (env : Env) : forceExitAll ops [] env = ([], env) := rfl

/-! ### Places -/

theorem length_forceExitAt (ops : BtAction Act Env) (status : BtStatus) (children : List (BtNode Act))
    (curr : ℕ) (env : Env) :
    (forceExitAt ops status children curr env).1.length = children.length := by
  induction children generalizing curr with
  | nil => rfl
  | cons child children ih =>
    cases curr with
    | zero => rfl
    | succ curr => exact congrArg Nat.succ (ih curr)

theorem length_runAt (ops : BtAction Act Env) (children : List (BtNode Act)) (curr : ℕ) (env : Env) :
    (runAt ops children curr env).1.length = children.length := by
  induction children generalizing curr with
  | nil => rfl
  | cons child children ih =>
    cases curr with
    | zero => rfl
    | succ curr => exact congrArg Nat.succ (ih curr)

theorem forceExitAt_of_getElem? (ops : BtAction Act Env) (status : BtStatus) {children : List (BtNode Act)}
    {curr : ℕ} {child : BtNode Act} (h : children[curr]? = some child) (env : Env) :
    forceExitAt ops status children curr env =
      (children.set curr ((exit ops child env).1.setStatus status), (exit ops child env).2) := by
  induction children generalizing curr with
  | nil => cases h
  | cons first rest ih =>
    cases curr with
    | zero =>
      cases h
      rfl
    | succ curr =>
      rw [List.getElem?_cons_succ] at h
      rw [forceExitAt, ih h]
      rfl

/-- Nothing exits at `end()`. -/
theorem forceExitAt_of_length_le (ops : BtAction Act Env) (status : BtStatus) {children : List (BtNode Act)}
    {curr : ℕ} (h : children.length ≤ curr) (env : Env) :
    forceExitAt ops status children curr env = (children, env) := by
  induction children generalizing curr with
  | nil => rfl
  | cons first rest ih =>
    cases curr with
    | zero => exact absurd h (Nat.not_succ_le_zero _)
    | succ curr => rw [forceExitAt, ih (Nat.le_of_succ_le_succ h)]

theorem runAt_of_getElem? (ops : BtAction Act Env) {children : List (BtNode Act)} {curr : ℕ}
    {child child' : BtNode Act} {env env' : Env} (h : children[curr]? = some child)
    (htick : tick ops child env = (child', env')) :
    runAt ops children curr env = (children.set curr child', env') := by
  induction children generalizing curr with
  | nil => cases h
  | cons first rest ih =>
    cases curr with
    | zero =>
      cases h
      rw [runAt, htick]
      rfl
    | succ curr =>
      rw [List.getElem?_cons_succ] at h
      rw [runAt, ih h]
      rfl

/-! ### Children that are leaves -/

/-- The node is a leaf. -/
def IsAction (node : BtNode Act) : Prop := ∃ act status, node = .action act status

theorem isAction_exit {node : BtNode Act} (env : Env) (h : node.IsAction) :
    (exit ops node env).1.IsAction := by
  obtain ⟨act, status, rfl⟩ := h
  exact ⟨_, _, rfl⟩

theorem isAction_setStatus {node : BtNode Act} (status : BtStatus) (h : node.IsAction) :
    (node.setStatus status).IsAction := by
  obtain ⟨act, status', rfl⟩ := h
  exact ⟨act, status, rfl⟩

theorem isAction_finish {node : BtNode Act} (env : Env) (h : node.IsAction) :
    (finish ops node env).1.IsAction := by
  rw [finish]
  split
  · exact isAction_exit env h
  · exact h

theorem isAction_tick {node : BtNode Act} (env : Env) (h : node.IsAction) :
    (tick ops node env).1.IsAction := by
  obtain ⟨act, status, rfl⟩ := h
  rw [tick_action]
  split
  · exact ⟨act, status, rfl⟩
  · exact isAction_finish _ ⟨_, _, rfl⟩

theorem isAction_forceExitAt (status : BtStatus) {children : List (BtNode Act)} (curr : ℕ) (env : Env)
    (h : ∀ child ∈ children, child.IsAction) :
    ∀ child ∈ (forceExitAt ops status children curr env).1, child.IsAction := by
  induction children generalizing curr with
  | nil => exact h
  | cons first rest ih =>
    obtain ⟨hfirst, hrest⟩ := List.forall_mem_cons.1 h
    cases curr with
    | zero => exact List.forall_mem_cons.2 ⟨isAction_setStatus status (isAction_exit env hfirst), hrest⟩
    | succ curr => exact List.forall_mem_cons.2 ⟨hfirst, ih curr hrest⟩

theorem isAction_runAt {children : List (BtNode Act)} (curr : ℕ) (env : Env)
    (h : ∀ child ∈ children, child.IsAction) :
    ∀ child ∈ (runAt ops children curr env).1, child.IsAction := by
  induction children generalizing curr with
  | nil => exact h
  | cons first rest ih =>
    obtain ⟨hfirst, hrest⟩ := List.forall_mem_cons.1 h
    cases curr with
    | zero => exact List.forall_mem_cons.2 ⟨isAction_tick env hfirst, hrest⟩
    | succ curr => exact List.forall_mem_cons.2 ⟨hfirst, ih curr hrest⟩

/-- Leaves leave an event alone. -/
theorem handleAll_of_isAction (id : BtEventId) {children : List (BtNode Act)} (env : Env)
    (h : ∀ child ∈ children, child.IsAction) : handleAll ops id children env = some (children, env) := by
  induction children with
  | nil => rfl
  | cons first rest ih =>
    obtain ⟨⟨act, status, rfl⟩, hrest⟩ := List.forall_mem_cons.1 h
    rw [handleAll, handleEvent, Option.bind_some]
    dsimp only
    rw [ih hrest, Option.map_some]

/-! ### Ticks as equations -/

theorem tick_sequence (children : List (BtNode Act)) (curr : ℕ) (status : BtStatus) (env : Env) :
    tick ops (.sequence children curr status) env =
      if status.isDone then (.sequence children curr status, env)
      else
        let start := if status ≠ .running then 0 else curr
        let ended := runFrom ops (fun status => status = .success ∨ status = .aborted) .success children
          start env
        finish ops (.sequence ended.1 ended.2.1 (ended.2.2.1.getD status)) ended.2.2.2 := rfl

/-- What a sequence goes past. -/
def passes (status : BtStatus) : Bool := status = .success ∨ status = .aborted

/-- A sequence that runs goes on where it stands. -/
theorem tick_sequence_running {children children' : List (BtNode Act)} {curr curr' : ℕ} {env env' : Env}
    (h : runFrom ops passes .success children curr env = (children', curr', some .running, env')) :
    tick ops (.sequence children curr .running) env = (.sequence children' curr' .running, env') := by
  have hpasses : (fun status : BtStatus => decide (status = .success ∨ status = .aborted)) = passes := rfl
  rw [tick_sequence, hpasses]
  simp [BtStatus.isDone, h, finish]

/-- A sequence that starts stands at its first child. -/
theorem tick_sequence_invalid {children children' : List (BtNode Act)} {curr curr' : ℕ} {env env' : Env}
    (h : runFrom ops passes .success children 0 env = (children', curr', some .running, env')) :
    tick ops (.sequence children curr .invalid) env = (.sequence children' curr' .running, env') := by
  have hpasses : (fun status : BtStatus => decide (status = .success ∨ status = .aborted)) = passes := rfl
  rw [tick_sequence, hpasses]
  simp [BtStatus.isDone, h, finish]

/-- A sequence that has come to its end exits. -/
theorem tick_sequence_success {children children' : List (BtNode Act)} {curr curr' : ℕ} {env env' : Env}
    (h : runFrom ops passes .success children curr env = (children', curr', some .success, env')) :
    tick ops (.sequence children curr .running) env =
      exit ops (.sequence children' curr' .success) env' := by
  have hpasses : (fun status : BtStatus => decide (status = .success ∨ status = .aborted)) = passes := rfl
  rw [tick_sequence, hpasses]
  simp [BtStatus.isDone, h, finish]

theorem runFrom_stays {moves : BtStatus → Bool} {ended : BtStatus} {child child' : BtNode Act}
    {children : List (BtNode Act)} {env env' : Env} (htick : tick ops child env = (child', env'))
    (hmoves : moves child'.status = false) :
    runFrom ops moves ended (child :: children) 0 env =
      (child' :: children, 0, some child'.status, env') := by
  rw [runFrom, htick]
  simp [hmoves]

theorem runFrom_moves {moves : BtStatus → Bool} {ended : BtStatus} {child child' next : BtNode Act}
    {children children' : List (BtNode Act)} {curr : ℕ} {result : Option BtStatus} {env env' env'' : Env}
    (htick : tick ops child env = (child', env')) (hmoves : moves child'.status = true)
    (hrest : runFrom ops moves ended (next :: children) 0 env' = (children', curr, result, env'')) :
    runFrom ops moves ended (child :: next :: children) 0 env =
      (child' :: children', curr + 1, result, env'') := by
  rw [runFrom, htick]
  simp [hmoves, hrest]

theorem runFrom_ends {moves : BtStatus → Bool} {ended : BtStatus} {child child' : BtNode Act}
    {env env' : Env} (htick : tick ops child env = (child', env')) (hmoves : moves child'.status = true) :
    runFrom ops moves ended [child] 0 env = ([child'], 1, some ended, env') := by
  rw [runFrom, htick]
  simp [hmoves]

theorem runFrom_succ_eq {moves : BtStatus → Bool} {ended : BtStatus} {child : BtNode Act}
    {children children' : List (BtNode Act)} {curr curr' : ℕ} {result : Option BtStatus} {env env' : Env}
    (h : runFrom ops moves ended children curr env = (children', curr', result, env')) :
    runFrom ops moves ended (child :: children) (curr + 1) env =
      (child :: children', curr' + 1, result, env') := by
  rw [runFrom, h]

/-- An event-driven selector without children aborts. -/
theorem tick_edSelector_nil (nodes : List (BtEventId × ℕ)) (curr : ℕ) (env : Env) :
    tick ops (.edSelector [] nodes curr .invalid) env = (.edSelector [] nodes 0 .aborted, env) := rfl

/-- A repeat whose child runs. -/
theorem tick_repeat_running {child child' : BtNode Act} {count limit : ℕ} {status : BtStatus} {env env' : Env}
    (hdone : status.isDone = false) (hlt : count < limit) (htick : tick ops child env = (child', env'))
    (hstatus : child'.status = .running) :
    tick ops («repeat» child count limit status) env = («repeat» child' count limit .running, env') := by
  rw [tick, if_neg (by simp [hdone]), if_pos hlt, htick]
  simp [hstatus, finish]

/-- A repeat that runs and whose child succeeds resets it, and has succeeded itself with the last one. -/
theorem tick_repeat_success {child child' : BtNode Act} {count limit : ℕ} {env env' : Env}
    (hlt : count < limit) (htick : tick ops child env = (child', env'))
    (hstatus : child'.status = .success) :
    tick ops («repeat» child count limit .running) env =
      («repeat» (reset ops child' env').1 (count + 1) limit
        (if count + 1 = limit then .success else .running), (reset ops child' env').2) := by
  rw [tick, if_neg (by decide), if_pos hlt, htick]
  by_cases hlast : count + 1 = limit <;> simp [hstatus, finish, hlast, exit]

theorem tick_parallel (policy : BtPolicy) (children : List (BtNode Act)) (status : BtStatus) (env : Env) :
    tick ops (.parallel policy children status) env =
      if status.isDone then (.parallel policy children status, env)
      else
        let ended := runAll ops policy children.length children 0 0 env
        finish ops (.parallel policy ended.1 ended.2.1) ended.2.2 := rfl

/-- What a parallel of the policy `Sequence` stops at. -/
def stops (status : BtStatus) : Bool := status = .failure ∨ status = .aborted

theorem ne_running_of_stops {status : BtStatus} (h : stops status = true) : status ≠ .running := by
  rintro rfl
  cases h

theorem runAll_nil (size succNum failNum : ℕ) (env : Env) :
    runAll ops .sequence size [] succNum failNum env =
      ([], if succNum = size then .success else .running, env) := by
  rw [runAll]
  by_cases hsize : succNum = size <;> simp [hsize]

theorem runAll_stops {size succNum failNum : ℕ} {child child' : BtNode Act} {children : List (BtNode Act)}
    {env env' : Env} (htick : tick ops child env = (child', env')) (hstops : stops child'.status = true) :
    runAll ops .sequence size (child :: children) succNum failNum env =
      (child' :: children, child'.status, env') := by
  rw [runAll, htick]
  rcases of_decide_eq_true hstops with hstatus | hstatus <;> simp [hstatus]

theorem runAll_goes {size succNum failNum : ℕ} {child child' : BtNode Act} {children : List (BtNode Act)}
    {env env' : Env} (htick : tick ops child env = (child', env')) (hstops : stops child'.status = false) :
    ∃ failNum', runAll ops .sequence size (child :: children) succNum failNum env =
      let rest := runAll ops .sequence size children
        (if child'.status = .success then succNum + 1 else succNum) failNum' env'
      (child' :: rest.1, rest.2.1, rest.2.2) := by
  obtain ⟨hfailure, haborted⟩ := not_or.1 (of_decide_eq_false hstops)
  refine ⟨failNum, ?_⟩
  rw [runAll, htick]
  simp [hfailure, haborted]

/-- An event-driven selector that has a child to tick runs. -/
theorem tick_edSelector {children : List (BtNode Act)} {nodes : List (BtEventId × ℕ)} {curr start : ℕ}
    {status : BtStatus} (env : Env) (hdone : status.isDone = false)
    (hstart : start = if status ≠ .running then 0 else curr) (hlt : start < children.length) :
    tick ops (.edSelector children nodes curr status) env =
      (.edSelector (runAt ops children start env).1 nodes start .running,
        (runAt ops children start env).2) := by
  rw [tick, if_neg (by simp [hdone]), ← hstart]
  dsimp only
  rw [if_neg (by omega)]
  rfl

/-! ### What each leaf keeps of itself -/

mutual

/-- The leaves of a node, in order. -/
def acts : BtNode Act → List Act
  | .action act _ => [act]
  | .selector children _ _ => actsOf children
  | .sequence children _ _ => actsOf children
  | .parallel _ children _ => actsOf children
  | .edSelector children _ _ _ => actsOf children
  | .repeat child _ _ _ => acts child

/-- The leaves of some nodes. -/
def actsOf : List (BtNode Act) → List Act
  | [] => []
  | child :: children => acts child ++ actsOf children

end

@[simp]
theorem acts_setStatus (status : BtStatus) (node : BtNode Act) : (node.setStatus status).acts = node.acts := by
  cases node <;> rfl

end BtNode

/-- A leaf keeps something of itself, whatever it does. -/
structure BtAction.KeepsOwn {Act Env β : Type} (ops : BtAction Act Env) (f : Act → β) : Prop where
  enter : ∀ act env, f (ops.enter act env).1 = f act
  task : ∀ act env, f (ops.task act env).2.1 = f act
  exit : ∀ act env, f (ops.exit act env).1 = f act

namespace BtNode

variable {Act Env β : Type} {ops : BtAction Act Env} {f : Act → β}

theorem map_actsOf_cons (f : Act → β) (child : BtNode Act) (children : List (BtNode Act)) :
    (actsOf (child :: children)).map f = child.acts.map f ++ (actsOf children).map f := List.map_append

mutual

theorem map_acts_exit (h : ops.KeepsOwn f) : ∀ node env, (exit ops node env).1.acts.map f = node.acts.map f
  | .action act _, env => congrArg (fun b => [b]) (h.exit act env)
  | .selector children _ _, env => map_acts_forceExitAll h children env
  | .sequence children _ _, env => map_acts_forceExitAll h children env
  | .parallel _ children _, env => map_acts_forceExitAll h children env
  | .edSelector children _ curr _, env => map_acts_forceExitAt h .aborted children curr env
  | .repeat _ _ _ _, _ => rfl

theorem map_acts_forceExitAll (h : ops.KeepsOwn f) : ∀ children env,
    (actsOf (forceExitAll ops children env).1).map f = (actsOf children).map f
  | [], _ => rfl
  | child :: children, env => by
    have hchild := map_acts_exit h child env
    have hrest := map_acts_forceExitAll h children (exit ops child env).2
    rw [forceExitAll, map_actsOf_cons, map_actsOf_cons, acts_setStatus, hchild, hrest]

theorem map_acts_forceExitAt (h : ops.KeepsOwn f) (status : BtStatus) : ∀ children curr env,
    (actsOf (forceExitAt ops status children curr env).1).map f = (actsOf children).map f
  | [], _, _ => rfl
  | child :: children, 0, env => by
    rw [forceExitAt, map_actsOf_cons, map_actsOf_cons, acts_setStatus, map_acts_exit h child env]
  | child :: children, curr + 1, env => by
    rw [forceExitAt, map_actsOf_cons, map_actsOf_cons,
      map_acts_forceExitAt h status children curr env]

end

theorem map_acts_reset (h : ops.KeepsOwn f) (node : BtNode Act) (env : Env) :
    (reset ops node env).1.acts.map f = node.acts.map f := by
  cases node with
  | action | «repeat» => rfl
  | selector children | sequence children | parallel _ children => exact map_acts_forceExitAll h children env
  | edSelector children _ curr => exact map_acts_forceExitAt h .aborted children curr env

theorem map_acts_finish (h : ops.KeepsOwn f) (node : BtNode Act) (env : Env) :
    (finish ops node env).1.acts.map f = node.acts.map f := by
  rw [finish]
  split
  · exact map_acts_exit h node env
  · rfl

mutual

/-- What its leaves keep of themselves, **every tick of a tree** keeps. -/
theorem map_acts_tick (h : ops.KeepsOwn f) : ∀ node env, (tick ops node env).1.acts.map f = node.acts.map f
  | .action act status, env => by
    rw [tick_action]
    split
    · rfl
    · rw [map_acts_finish h, acts, acts, List.map_singleton, List.map_singleton, h.task]
      split
      · rw [h.enter]
      · rfl
  | .selector children curr status, env => by
    rw [tick]
    split
    · rfl
    · exact (map_acts_finish h _ _).trans (map_acts_runFrom h _ _ children _ env)
  | .sequence children curr status, env => by
    rw [tick]
    split
    · rfl
    · exact (map_acts_finish h _ _).trans (map_acts_runFrom h _ _ children _ env)
  | .parallel policy children status, env => by
    rw [tick]
    split
    · rfl
    · exact (map_acts_finish h _ _).trans (map_acts_runAll h policy children.length children 0 0 env)
  | .edSelector children nodes curr status, env => by
    rw [tick]
    split
    · rfl
    · extract_lets start
      split
      · exact map_acts_finish h _ _
      · exact (map_acts_finish h _ _).trans (map_acts_runAt h children start env)
  | .repeat child count limit status, env => by
    rw [tick]
    split
    · rfl
    · split
      · have htick := map_acts_tick h child env
        dsimp only
        split
        · exact (map_acts_finish h _ _).trans ((map_acts_reset h _ _).trans htick)
        · exact (map_acts_finish h _ _).trans htick
      · exact map_acts_finish h _ _

theorem map_acts_runFrom (h : ops.KeepsOwn f) (moves : BtStatus → Bool) (ended : BtStatus) : ∀ children curr env,
    (actsOf (runFrom ops moves ended children curr env).1).map f = (actsOf children).map f
  | [], _, _ => rfl
  | child :: children, 0, env => by
    have htick := map_acts_tick h child env
    rw [runFrom]
    dsimp only
    split
    · split
      · rename_i hempty
        obtain rfl := List.isEmpty_iff.1 hempty
        rw [map_actsOf_cons, map_actsOf_cons, htick]
      · rw [map_actsOf_cons, map_actsOf_cons, htick, map_acts_runFrom h moves ended children 0]
    · rw [map_actsOf_cons, map_actsOf_cons, htick]
  | child :: children, curr + 1, env => by
    rw [runFrom, map_actsOf_cons, map_actsOf_cons, map_acts_runFrom h moves ended children curr env]

theorem map_acts_runAll (h : ops.KeepsOwn f) (policy : BtPolicy) (size : ℕ) : ∀ children succNum failNum env,
    (actsOf (runAll ops policy size children succNum failNum env).1).map f = (actsOf children).map f
  | [], succNum, failNum, env => by
    rw [runAll]
    split
    · rfl
    · split <;> rfl
  | child :: children, succNum, failNum, env => by
    have htick := map_acts_tick h child env
    have hstops : (actsOf ((tick ops child env).1 :: children)).map f = (actsOf (child :: children)).map f := by
      rw [map_actsOf_cons, map_actsOf_cons, htick]
    rw [runAll]
    dsimp only
    split
    · exact hstops
    · split
      · exact hstops
      · split
        · exact hstops
        · rw [map_actsOf_cons, map_actsOf_cons, htick, map_acts_runAll h policy size children]

theorem map_acts_runAt (h : ops.KeepsOwn f) : ∀ children curr env,
    (actsOf (runAt ops children curr env).1).map f = (actsOf children).map f
  | [], _, _ => rfl
  | child :: children, 0, env => by
    rw [runAt, map_actsOf_cons, map_actsOf_cons, map_acts_tick h child env]
  | child :: children, curr + 1, env => by
    rw [runAt, map_actsOf_cons, map_actsOf_cons, map_acts_runAt h children curr env]

end

mutual

/-- The same for an event that is handled. -/
theorem map_acts_handleEvent (h : ops.KeepsOwn f) (id : BtEventId) : ∀ node env node' env',
    handleEvent ops id node env = some (node', env') → node'.acts.map f = node.acts.map f
  | .action act status, env, node', env', heq => by
    cases heq
    rfl
  | .selector children _ _, env, node', env', heq => by
    obtain ⟨⟨children', env''⟩, hall, hres⟩ := Option.map_eq_some_iff.1 heq
    cases hres
    exact map_acts_handleAll h id children env children' env' hall
  | .sequence children _ _, env, node', env', heq => by
    obtain ⟨⟨children', env''⟩, hall, hres⟩ := Option.map_eq_some_iff.1 heq
    cases hres
    exact map_acts_handleAll h id children env children' env' hall
  | .parallel _ children _, env, node', env', heq => by
    obtain ⟨⟨children', env''⟩, hall, hres⟩ := Option.map_eq_some_iff.1 heq
    cases hres
    exact map_acts_handleAll h id children env children' env' hall
  | .edSelector children nodes curr _, env, node', env', heq => by
    rw [handleEvent] at heq
    cases hfind : nodes.find? fun one => one.1 = id with
    | some one =>
      simp only [hfind] at heq
      split at heq
      · cases heq
        exact map_acts_forceExitAt h .suspend children curr env
      · cases heq
    | none =>
      simp only [hfind] at heq
      obtain ⟨⟨children', env''⟩, hall, hres⟩ := Option.map_eq_some_iff.1 heq
      cases hres
      exact map_acts_handleAll h id children env children' env'' hall
  | .repeat child _ _ _, env, node', env', heq => by
    rw [handleEvent] at heq
    split at heq
    · cases heq
      exact map_acts_reset h child env
    · obtain ⟨⟨child', env''⟩, hchild, hres⟩ := Option.map_eq_some_iff.1 heq
      cases hres
      exact map_acts_handleEvent h id child env child' env' hchild

theorem map_acts_handleAll (h : ops.KeepsOwn f) (id : BtEventId) : ∀ children env children' env',
    handleAll ops id children env = some (children', env') → (actsOf children').map f = (actsOf children).map f
  | [], env, children', env', heq => by
    cases heq
    rfl
  | child :: children, env, children', env', heq => by
    obtain ⟨⟨node, env₁⟩, hnode, heq⟩ := Option.bind_eq_some_iff.1 heq
    obtain ⟨⟨nodes, env₂⟩, hnodes, hres⟩ := Option.map_eq_some_iff.1 heq
    cases hres
    rw [map_actsOf_cons, map_actsOf_cons, map_acts_handleEvent h id child env node env₁ hnode,
      map_acts_handleAll h id children env₁ nodes env' hnodes]

end

end BtNode

end MmoServer
