/-
**What becomes of the callbacks of a component.**

Every registration with the message system takes a component from a pool, a `MessageCallBack` or a
`MessageCallBackFilter`, which the entity system of the thread holds like any other component.  Its parent is
the component that registers, but it is not among the components of that one.  `RemoveFunction` erases the
entries of a component that goes back to its pool from the tables of the message system.

Objects are numbered in the order in which they are taken from a pool; one that is used again gets another
number.

Main definitions:

* `MmoServer.ThreadObjects`, `MmoServer.ThreadObjects.step` — the components of a thread, with their
  callbacks, and those that were given back;
* `MmoServer.ThreadObjects.CallbacksReleased` — callbacks go back to their pools with the component that they
  were made for, and only then.

Main results:

* `MmoServer.ThreadObjects.componentBackToPool_unlisted` — no callback is left in the tables under the serial
  number of a component that was given back;
* `MmoServer.ThreadObjects.OnlyComponents.step` — no step gives a callback back;
* `MmoServer.callbacksReleased_iff` — **callbacks are released in the runs in which there is none to be
  released**;
* `MmoServer.not_callbacksReleased` — a component that registers once and is removed.
-/

import MmoServer.MessageSystem

set_option relaxedAutoImplicit false
set_option autoImplicit false

namespace MmoServer

/-! ### The components of a thread -/

/-- A callback has the component that it was made for, `_parent`. -/
inductive PooledKind
  | component
  | callback (owner : ℕ)
  deriving DecidableEq

/-- An object from a pool, with the children that an entity has in `_components`. -/
structure PooledObject where
  sn : UInt64
  kind : PooledKind
  components : List ℕ
  deriving DecidableEq

/-- The objects of a thread, the tables of its message system, and the requests of `RemoveComponent`.  The
last field is the history of `FreeObject`, over all pools. -/
structure ThreadObjects where
  objects : List PooledObject
  messages : MessageSystem
  removeObjs : List ℕ
  freed : List ℕ

/-- What is done with components and their callbacks; every new object has a serial number. -/
inductive ComponentEvent
  /-- `AddComponent`, `AddComponentWithSn`. -/
  | addComponent (parent : Option ℕ) (sn : UInt64)
  /-- `RegisterFunction`, `RegisterFunctionFilter`. -/
  | registerFunction (obj : ℕ) (msgId : ℤ) (filter : Bool) (sn : UInt64)
  /-- `RegisterDefaultFunction`. -/
  | registerDefaultFunction (obj : ℕ) (sn : UInt64)
  /-- `RemoveComponent`, of the entity system or of the entity that has the component. -/
  | removeComponent (parent : Option ℕ) (obj : ℕ)
  /-- `ComponentBackToPool`, of a component that was asked to be removed. -/
  | componentBackToPool (obj : ℕ)

namespace ThreadObjects

/-- A thread without components. -/
def start : ThreadObjects := ⟨[], .empty, [], []⟩

/-- An object that was not given back. -/
def get (s : ThreadObjects) (obj : ℕ) : Option PooledObject :=
  if obj ∈ s.freed then none else s.objects[obj]?

/-- `_components` of an entity changes. -/
def modifyComponents (s : ThreadObjects) (entity : Option ℕ) (f : List ℕ → List ℕ) : ThreadObjects :=
  match entity with
  | none => s
  | some e => { s with objects := s.objects.modify e fun o => { o with components := f o.components } }

/-- `MallocObject`. -/
def mallocObject (s : ThreadObjects) (sn : UInt64) (kind : PooledKind) : ThreadObjects :=
  { s with objects := s.objects ++ [⟨sn, kind, []⟩] }

/-- `RegisterFunction`: the callback is made first, and goes into the table if it has room for it. -/
def registerFunction (s : ThreadObjects) (obj : ℕ) (ownerSn : UInt64) (msgId : ℤ) (filter : Bool)
    (sn : UInt64) : ThreadObjects :=
  { s.mallocObject sn (.callback obj) with
    messages := s.messages.registerFunction ownerSn msgId ⟨s.objects.length, filter⟩ }

/-- `RegisterDefaultFunction`. -/
def registerDefaultFunction (s : ThreadObjects) (obj : ℕ) (ownerSn sn : UInt64) : ThreadObjects :=
  { s.mallocObject sn (.callback obj) with
    messages := s.messages.registerDefaultFunction ownerSn ⟨s.objects.length, false⟩ }

/-- `IEntity::ComponentBackToPool` with `IComponent::ComponentBackToPool`: the children are asked to be
removed, the object goes to its pool, and its entries are erased. -/
def componentBackToPool (s : ThreadObjects) (obj : ℕ) (o : PooledObject) : ThreadObjects :=
  { s.modifyComponents (some obj) fun _ => [] with
    removeObjs := s.removeObjs ++ o.components
    freed := s.freed ++ [obj]
    messages := s.messages.removeFunction o.sn }

/-- One step.  Nothing but the message system has a pointer to a callback, so that none is asked to be
removed. -/
def step (s : ThreadObjects) : ComponentEvent → Option ThreadObjects
  | .addComponent parent sn =>
    if ∀ e ∈ parent, (s.get e).isSome then
      some ((s.mallocObject sn .component).modifyComponents parent (· ++ [s.objects.length]))
    else none
  | .registerFunction obj msgId filter sn =>
    (s.get obj).map fun o => s.registerFunction obj o.sn msgId filter sn
  | .registerDefaultFunction obj sn => (s.get obj).map fun o => s.registerDefaultFunction obj o.sn sn
  | .removeComponent parent obj =>
    (s.get obj).bind fun o =>
      if o.kind = .component then
        some { s.modifyComponents parent (·.erase obj) with removeObjs := s.removeObjs ++ [obj] }
      else none
  | .componentBackToPool obj =>
    if obj ∈ s.removeObjs then (s.get obj).map (s.componentBackToPool obj) else none

/-- The components of a thread in any order of registrations and removals. -/
def system : Transition.System ThreadObjects ComponentEvent :=
  .ofFun (fun s => s = .start) step

/-- **Callbacks are released.**  Once a component has been given back, so has been every callback that was
made for it, once; and no other callback has been. -/
def CallbacksReleased (s : ThreadObjects) : Prop :=
  ∀ (cb owner : ℕ) (o : PooledObject), s.objects[cb]? = some o → o.kind = .callback owner →
    s.freed.count cb = if owner ∈ s.freed then 1 else 0

/-- No callback is left in the tables under the serial number of the component. -/
theorem componentBackToPool_unlisted (s : ThreadObjects) (obj : ℕ) (o : PooledObject) (msgId : ℤ) :
    ((s.componentBackToPool obj o).messages.sub msgId)[o.sn]? = none ∧
      (s.componentBackToPool obj o).messages.defaultOf o.sn = none := by
  constructor
  · rw [componentBackToPool, MessageSystem.getElem?_sub_removeFunction, if_pos rfl]
  · rw [componentBackToPool, MessageSystem.defaultOf_removeFunction, if_pos rfl]

/-! ### No callback is given back -/

/-- The object is no callback. -/
def IsComponent (s : ThreadObjects) (obj : ℕ) : Prop :=
  ∃ o, s.objects[obj]? = some o ∧ o.kind = .component

/-- **Nothing but components** is a child, is asked to be removed, or was given back. -/
structure OnlyComponents (s : ThreadObjects) : Prop where
  children : ∀ o ∈ s.objects, ∀ child ∈ o.components, s.IsComponent child
  removeObjs : ∀ obj ∈ s.removeObjs, s.IsComponent obj
  freed : ∀ obj ∈ s.freed, s.IsComponent obj

theorem of_get {s : ThreadObjects} {obj : ℕ} {o : PooledObject} (h : s.get obj = some o) :
    s.objects[obj]? = some o := by
  unfold get at h
  split at h
  · cases h
  · exact h

theorem IsComponent.mallocObject {s : ThreadObjects} {obj : ℕ} (h : s.IsComponent obj) (sn : UInt64)
    (kind : PooledKind) : (s.mallocObject sn kind).IsComponent obj := by
  obtain ⟨o, ho, hkind⟩ := h
  refine ⟨o, ?_, hkind⟩
  rw [ThreadObjects.mallocObject, List.getElem?_append_left (List.getElem?_eq_some_iff.1 ho).1]
  exact ho

/-- What an object is does not change with its children. -/
theorem IsComponent.modifyComponents {s : ThreadObjects} {obj : ℕ} (h : s.IsComponent obj)
    (entity : Option ℕ) (f : List ℕ → List ℕ) : (s.modifyComponents entity f).IsComponent obj := by
  obtain ⟨o, ho, hkind⟩ := h
  cases entity with
  | none => exact ⟨o, ho, hkind⟩
  | some e =>
    by_cases he : e = obj
    · refine ⟨{ o with components := f o.components }, ?_, hkind⟩
      simp only [ThreadObjects.modifyComponents, List.getElem?_modify, ho, he, if_true, Option.map_eq_map,
        Option.map_some]
    · refine ⟨o, ?_, hkind⟩
      simp only [ThreadObjects.modifyComponents, List.getElem?_modify, ho, he, if_false, Option.map_eq_map,
        Option.map_some]

namespace OnlyComponents

variable {s : ThreadObjects}

theorem start : OnlyComponents .start where
  children o ho := by cases ho
  removeObjs obj hobj := by cases hobj
  freed obj hobj := by cases hobj

theorem mallocObject (h : s.OnlyComponents) (sn : UInt64) (kind : PooledKind) :
    (s.mallocObject sn kind).OnlyComponents where
  children o ho child hchild := by
    obtain hold | hnew := List.mem_append.1 ho
    · exact (h.children o hold child hchild).mallocObject sn kind
    · obtain rfl := List.mem_singleton.1 hnew
      cases hchild
  removeObjs obj hobj := (h.removeObjs obj hobj).mallocObject sn kind
  freed obj hobj := (h.freed obj hobj).mallocObject sn kind

/-- Children are taken away, or components added to them. -/
theorem modifyComponents (h : s.OnlyComponents) (entity : Option ℕ) {f : List ℕ → List ℕ}
    (hf : ∀ l, ∀ child ∈ f l, child ∈ l ∨ s.IsComponent child) :
    (s.modifyComponents entity f).OnlyComponents := by
  cases entity with
  | none => exact h
  | some e =>
    refine ⟨fun o ho child hchild => IsComponent.modifyComponents ?_ (some e) f,
      fun obj hobj => (h.removeObjs obj hobj).modifyComponents (some e) f,
      fun obj hobj => (h.freed obj hobj).modifyComponents (some e) f⟩
    obtain ⟨i, hi⟩ := List.mem_iff_getElem?.1 ho
    simp only [ThreadObjects.modifyComponents, List.getElem?_modify, Option.map_eq_map] at hi
    obtain ⟨before, hbefore, rfl⟩ := Option.map_eq_some_iff.1 hi
    have hmem := List.mem_of_getElem? hbefore
    split at hchild
    · obtain hold | hnew := hf _ child hchild
      · exact h.children before hmem child hold
      · exact hnew
    · exact h.children before hmem child hchild

/-- The tables of the message system have no part in it. -/
theorem withMessages (h : s.OnlyComponents) (messages : MessageSystem) :
    OnlyComponents { s with messages := messages } :=
  ⟨h.children, h.removeObjs, h.freed⟩

theorem componentBackToPool (h : s.OnlyComponents) {obj : ℕ} {o : PooledObject}
    (hobj : obj ∈ s.removeObjs) (ho : s.objects[obj]? = some o) :
    (s.componentBackToPool obj o).OnlyComponents := by
  have hcleared := h.modifyComponents (some obj) (f := fun _ => []) fun _ _ hchild => nomatch hchild
  refine ⟨hcleared.children, fun obj' hobj' => ?_, fun obj' hobj' => ?_⟩
  · obtain hold | hchild := List.mem_append.1 hobj'
    · exact hcleared.removeObjs obj' hold
    · exact (h.children o (List.mem_of_getElem? ho) obj' hchild).modifyComponents (some obj) fun _ => []
  · obtain hold | hnew := List.mem_append.1 hobj'
    · exact hcleared.freed obj' hold
    · obtain rfl := List.mem_singleton.1 hnew
      exact (h.removeObjs obj' hobj).modifyComponents (some obj') fun _ => []

/-- **No step gives a callback back.** -/
theorem step (h : s.OnlyComponents) {t : ThreadObjects} {e : ComponentEvent} (hstep : s.step e = some t) :
    t.OnlyComponents := by
  cases e with
  | addComponent parent sn =>
    obtain ⟨-, ht⟩ := Option.ite_none_right_eq_some.1 hstep
    obtain rfl := Option.some.inj ht
    refine (h.mallocObject sn .component).modifyComponents parent fun l child hchild => ?_
    obtain hold | hnew := List.mem_append.1 hchild
    · exact .inl hold
    · obtain rfl := List.mem_singleton.1 hnew
      exact .inr ⟨_, List.getElem?_concat_length, rfl⟩
  | registerFunction obj msgId filter sn =>
    obtain ⟨o, -, rfl⟩ := Option.map_eq_some_iff.1 hstep
    exact (h.mallocObject sn (.callback obj)).withMessages _
  | registerDefaultFunction obj sn =>
    obtain ⟨o, -, rfl⟩ := Option.map_eq_some_iff.1 hstep
    exact (h.mallocObject sn (.callback obj)).withMessages _
  | removeComponent parent obj =>
    obtain ⟨o, ho, hthen⟩ := Option.bind_eq_some_iff.1 hstep
    obtain ⟨hkind, ht⟩ := Option.ite_none_right_eq_some.1 hthen
    obtain rfl := Option.some.inj ht
    have hobj : s.IsComponent obj := ⟨o, of_get ho, hkind⟩
    have herased := h.modifyComponents parent (f := (·.erase obj))
      fun _ _ hchild => .inl (List.mem_of_mem_erase hchild)
    refine ⟨herased.children, fun obj' hobj' => ?_, herased.freed⟩
    obtain hold | hnew := List.mem_append.1 hobj'
    · have hmem : obj' ∈ (s.modifyComponents parent (·.erase obj)).removeObjs := by
        cases parent <;> exact hold
      exact herased.removeObjs obj' hmem
    · obtain rfl := List.mem_singleton.1 hnew
      exact hobj.modifyComponents parent _
  | componentBackToPool obj =>
    obtain ⟨hobj, hthen⟩ := Option.ite_none_right_eq_some.1 hstep
    obtain ⟨o, ho, rfl⟩ := Option.map_eq_some_iff.1 hthen
    exact h.componentBackToPool hobj (of_get ho)

/-- A callback was not given back. -/
theorem count_callback (h : s.OnlyComponents) {cb owner : ℕ} {o : PooledObject}
    (ho : s.objects[cb]? = some o) (hkind : o.kind = .callback owner) : s.freed.count cb = 0 := by
  refine List.count_eq_zero.2 fun hmem => ?_
  obtain ⟨o', ho', hkind'⟩ := h.freed cb hmem
  obtain rfl := Option.some.inj (ho.symm.trans ho')
  rw [hkind] at hkind'
  cases hkind'

end OnlyComponents

end ThreadObjects

/-- **When the callbacks of components are released.**  In every run they are in exactly those states in
which no component that was given back had registered anything. -/
theorem callbacksReleased_iff {es : List ComponentEvent} {s : ThreadObjects}
    (hrun : ThreadObjects.system.Run es s) :
    s.CallbacksReleased ↔
      ∀ obj ∈ s.freed, ∀ o ∈ s.objects, o.kind ≠ .callback obj := by
  have h : s.OnlyComponents :=
    hrun.invariant (fun _ hs => hs ▸ .start) fun _ _ _ h hstep => h.step hstep
  constructor
  · intro hreleased obj hobj o ho hkind
    obtain ⟨cb, hcb⟩ := List.mem_iff_getElem?.1 ho
    have hcount := hreleased cb obj o hcb hkind
    rw [h.count_callback hcb hkind, if_pos hobj] at hcount
    cases hcount
  · intro hnone cb owner o ho hkind
    have hnot : owner ∉ s.freed := fun hmem => hnone owner hmem o (List.mem_of_getElem? ho) hkind
    rw [h.count_callback ho hkind, if_neg hnot]

/-- An entity that registers, with a child that does not and is removed. -/
def removeChild : List ComponentEvent :=
  [.addComponent none 1, .registerFunction 0 5 false 2, .addComponent (some 0) 3, .removeComponent (some 0) 2,
    .componentBackToPool 2]

/-- A component that registers and is removed. -/
def removeRegistered : List ComponentEvent :=
  [.addComponent none 1, .registerFunction 0 5 false 2, .removeComponent none 0, .componentBackToPool 0]

/-- The child is given back, and the callback of its parent stays. -/
theorem callbacksReleased_child : ∃ s, ThreadObjects.system.Run removeChild s ∧ s.CallbacksReleased := by
  have hends : (Transition.System.execute ThreadObjects.step (fun _ _ => True) .start removeChild).map
      (fun s => (s.objects, s.freed)) =
      some ([⟨1, .component, []⟩, ⟨2, .callback 0, []⟩, ⟨3, .component, []⟩], [2]) := by
    decide +kernel
  obtain ⟨s, hs, hend⟩ := Option.map_eq_some_iff.1 hends
  obtain ⟨hobjects, hfreed⟩ := Prod.mk.inj hend
  have hrun : ThreadObjects.system.Run removeChild s := Transition.System.run_of_execute_true rfl hs
  refine ⟨s, hrun, (callbacksReleased_iff hrun).2 ?_⟩
  rw [hobjects, hfreed]
  decide

/-- **The callback of a component that was given back** is not. -/
theorem not_callbacksReleased : ¬ ∀ (es : List ComponentEvent) (s : ThreadObjects),
    ThreadObjects.system.Run es s → s.CallbacksReleased := by
  intro h
  have hends : (Transition.System.execute ThreadObjects.step (fun _ _ => True) .start removeRegistered).map
      (fun s => (s.objects, s.freed)) =
      some ([⟨1, .component, []⟩, ⟨2, .callback 0, []⟩], [0]) := by
    decide +kernel
  obtain ⟨s, hs, hend⟩ := Option.map_eq_some_iff.1 hends
  obtain ⟨hobjects, hfreed⟩ := Prod.mk.inj hend
  have hrun : ThreadObjects.system.Run removeRegistered s := Transition.System.run_of_execute_true rfl hs
  have hcount := h _ s hrun 1 0 ⟨2, .callback 0, []⟩ (by rw [hobjects]; rfl) rfl
  rw [hfreed] at hcount
  exact absurd hcount (by decide)

end MmoServer
