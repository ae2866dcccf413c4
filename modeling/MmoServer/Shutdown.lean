/-
**The end of a process.**

`IsStop` is set by a signal, or on the console, at any time.  Every thread looks at it between two updates,
disposes of its own systems, and says that it has stopped.  The main thread leaves its loop too, asks the threads
one after the other until all of them have stopped, joins them, disposes of its own systems, and deletes the
threads; `Thread::Dispose` is called once more then, and does nothing for a thread that was joined.

An update of the main thread takes the packets that create components, and then the other ones: it swaps a list, and
gives the packets of it to the message systems of threads.  It goes on doing so when `IsStop` is set.

The threads of all collectors stand one behind the other.  The steps of the threads are interleaved in any order,
and each step sees what the steps before it have written.

Main definitions:

* `MmoServer.ThreadObj`, `MmoServer.ThreadObj.step` — a thread, and what `Thread::Start` makes it do;
* `MmoServer.ServerApp`, `MmoServer.ServerApp.step`, `MmoServer.ServerApp.system` — the process, and its runs;
* `MmoServer.ServerApp.Orderly` — nobody is disposed of twice, nor too early;
* `MmoServer.ServerApp.Reaches` — the states that can come next.

Main results:

* `MmoServer.shutdown_run` — **every run is orderly**;
* `MmoServer.shutdown_ends` — **a process that is to stop ends**, in every fair run;
* `MmoServer.dangling_iff` — **a deleted message system is called** only if the main thread was in its two functions
  that give packets to threads when `IsStop` was set, and then it can be.
-/

import Mathlib.Algebra.Order.BigOperators.Group.Finset
import Mathlib.Data.Prod.Lex
import Mathlib.Logic.Relation
import MmoServer.Fairness

set_option relaxedAutoImplicit false
set_option autoImplicit false

namespace MmoServer

open Transition

/-! ### A thread -/

/-- `ThreadState`. -/
inductive ThreadState
  | init | run | stop | destroy
  deriving DecidableEq

/-- Where a thread is: not started yet, or at a line of the function that `Thread::Start` makes it run. -/
inductive ThreadPlace
  | created
  | initComponent
  /-- The condition of the loop. -/
  | loop
  | update
  | dispose
  /-- Behind `Dispose`. -/
  | stop
  | returned
  deriving DecidableEq

/-- `Thread`, with the number of calls of `SystemManager::Dispose`, the first of which deletes the systems. -/
structure ThreadObj where
  state : ThreadState
  place : ThreadPlace
  disposals : ℕ
  deleted : Bool
  deriving DecidableEq

namespace ThreadObj

/-- The constructor. -/
def create : ThreadObj := ⟨.init, .created, 0, false⟩

/-- `Thread::Start`. -/
def start (t : ThreadObj) : ThreadObj := { t with place := .initComponent }

/-- `Thread::Dispose`. -/
def dispose (t : ThreadObj) : ThreadObj :=
  if t.state = .destroy then t else { t with disposals := t.disposals + 1 }

/-- `Thread::DestroyThread`: nothing if it is blocked in `join`. -/
def destroyThread (t : ThreadObj) : Option ThreadObj :=
  if t.state = .destroy then some t
  else
    match t.place with
    | .created => some t
    | .returned => some { t with state := .destroy }
    | .initComponent | .loop | .update | .dispose | .stop => none

/-- The next step of a thread. -/
def step (isStop : Bool) (t : ThreadObj) : Option ThreadObj :=
  match t.place with
  | .created => none
  | .initComponent => some { t with state := .run, place := .loop }
  | .loop => some { t with place := if isStop then .dispose else .update }
  | .update => some { t with place := .loop }
  | .dispose => some { t.dispose with place := .stop }
  | .stop => some { t with state := .stop, place := .returned }
  | .returned => none

end ThreadObj

/-! ### The process -/

/-- The lists of packets that `ThreadMgr::Update` takes: `UpdateCreatePacket` the one, and then
`UpdateDispatchPacket` the other. -/
inductive UpdateList
  | createPackets | packets
  deriving DecidableEq

/-- Where the main thread is: `InitializeThread`, `ServerApp::Run`, and the functions of `ThreadMgr` that this
calls, with the number of the thread that is next, or the threads that still get a packet. -/
inductive MainPlace (n : ℕ)
  | createThread (k : ℕ)
  /-- The condition of the loop. -/
  | loop
  /-- In front of `Swap`. -/
  | swap (list : UpdateList)
  /-- Behind it. -/
  | update (list : UpdateList) (receivers : List (Fin n))
  | isStopAll (k : ℕ)
  | destroyThread (k : ℕ)
  | isDestroyAll (k : ℕ)
  | dispose
  /-- `ThreadCollector::Dispose`. -/
  | disposeThreads (k : ℕ)
  | returned
  deriving DecidableEq

/-- A process with `n` threads: `dangling` says that the main thread has called a message system that was
deleted. -/
structure ServerApp (n : ℕ) where
  isStop : Bool
  main : MainPlace n
  threads : Fin n → ThreadObj
  disposals : ℕ
  dangling : Bool

/-- The steps: a signal, and those of the threads; if the main thread swaps a list, the threads that get the packets
of it, which were put into it until then. -/
inductive ServerEvent (n : ℕ)
  | signal
  | main (receivers : List (Fin n))
  | thread (i : Fin n)

namespace ServerApp

variable {n : ℕ}

/-- Write a thread. -/
def setThread (s : ServerApp n) (i : Fin n) (t : ThreadObj) : ServerApp n :=
  { s with threads := Function.update s.threads i t }

/-- A step of a loop over the threads: the next thread, or what is behind the loop. -/
def forThread (k : ℕ) (body : Fin n → Option (ServerApp n)) (behind : ServerApp n) : Option (ServerApp n) :=
  if h : k < n then body ⟨k, h⟩ else some behind

/-- The next step of the main thread. -/
def stepMain (s : ServerApp n) (receivers : List (Fin n)) : Option (ServerApp n) :=
  match s.main with
  | .createThread k =>
    forThread k (fun i => some { s.setThread i (s.threads i).start with main := .createThread (k + 1) })
      { s with main := .loop }
  | .loop => some { s with main := if s.isStop then .isStopAll 0 else .swap .createPackets }
  | .swap list => some { s with main := .update list receivers }
  | .update .createPackets [] => some { s with main := .swap .packets }
  | .update .packets [] => some { s with main := .loop }
  | .update list (i :: left) =>
    some { s with main := .update list left, dangling := s.dangling || (s.threads i).disposals ≠ 0 }
  | .isStopAll k =>
    forThread k (fun i => some { s with
      main := if (s.threads i).state = .stop then .isStopAll (k + 1) else .isStopAll 0 })
      { s with main := .destroyThread 0 }
  | .destroyThread k =>
    forThread k (fun i => (s.threads i).destroyThread.map fun t =>
      { s.setThread i t with main := .destroyThread (k + 1) })
      { s with main := .isDestroyAll 0 }
  | .isDestroyAll k =>
    forThread k (fun i => some { s with
      main := if (s.threads i).state = .destroy then .isDestroyAll (k + 1) else .isDestroyAll 0 })
      { s with main := .dispose }
  | .dispose => some { s with disposals := s.disposals + 1, main := .disposeThreads 0 }
  | .disposeThreads k =>
    forThread k (fun i => some
      { s.setThread i { (s.threads i).dispose with deleted := true } with main := .disposeThreads (k + 1) })
      { s with main := .returned }
  | .returned => none

/-- One step. -/
def step (s : ServerApp n) : ServerEvent n → Option (ServerApp n)
  | .signal => some { s with isStop := true }
  | .main receivers => s.stepMain receivers
  | .thread i => ((s.threads i).step s.isStop).map (s.setThread i)

/-- A new process. -/
def create (n : ℕ) : ServerApp n := ⟨false, .createThread 0, fun _ => .create, 0, false⟩

/-- The runs of a process. -/
def system (n : ℕ) : System (ServerApp n) (ServerEvent n) := .ofFun (· = create n) step

/-- Who takes a step; the signals come from outside. -/
def proc : ServerEvent n → Option (Option (Fin n))
  | .signal => none
  | .main _ => some none
  | .thread i => some (some i)

/-! ### What is asked of it -/

/-- **Nobody is disposed of twice, nor too early.**  A thread disposes of its systems behind its last update; it
is joined when it has returned; the systems of the main thread are disposed of when all threads were joined; a
thread is deleted behind that; and in the end all of them are. -/
structure Orderly (s : ServerApp n) : Prop where
  once : ∀ i, (s.threads i).disposals ≤ 1
  behind : ∀ i, (s.threads i).disposals ≠ 0 → (s.threads i).place = .stop ∨ (s.threads i).place = .returned
  joined : ∀ i, (s.threads i).state = .destroy →
    (s.threads i).place = .returned ∧ (s.threads i).disposals = 1
  main_once : s.disposals ≤ 1
  main_last : s.disposals ≠ 0 → ∀ i, (s.threads i).state = .destroy
  deleted : ∀ i, (s.threads i).deleted = true → (s.threads i).state = .destroy ∧ s.disposals = 1
  returned : s.main = .returned → ∀ i, (s.threads i).disposals = 1 ∧ (s.threads i).deleted = true

/-- The states that can come next. -/
def Reaches : ServerApp n → ServerApp n → Prop :=
  Relation.ReflTransGen fun s t => ∃ e, s.step e = some t

end ServerApp

/-! ### What always holds -/

/-- What a thread has done where it is. -/
def ThreadObj.Ok (t : ThreadObj) : Prop :=
  match t.place with
  | .created | .initComponent => t.state = .init ∧ t.disposals = 0
  | .loop | .update | .dispose => t.state = .run ∧ t.disposals = 0
  | .stop => t.state = .run ∧ t.disposals = 1
  | .returned => (t.state = .stop ∨ t.state = .destroy) ∧ t.disposals = 1

/-- The thread has left its loop. -/
def ThreadObj.Leaving (t : ThreadObj) : Prop := t.place = .dispose ∨ t.place = .stop ∨ t.place = .returned

/-- Where a thread can be, for the place of the main thread. -/
def MainPlace.Allows {n : ℕ} (main : MainPlace n) (i : Fin n) (t : ThreadObj) : Prop :=
  match main with
  | .createThread k => (t.place = .created ↔ k ≤ i) ∧ t.state ≠ .destroy ∧ t.deleted = false
  | .loop | .swap _ | .update _ _ => t.place ≠ .created ∧ t.state ≠ .destroy ∧ t.deleted = false
  | .isStopAll k => t.place ≠ .created ∧ t.state ≠ .destroy ∧ t.deleted = false ∧ (i < k → t.place = .returned)
  | .destroyThread k => t.place = .returned ∧ (t.state = .destroy ↔ i < k) ∧ t.deleted = false
  | .isDestroyAll _ | .dispose => t.place = .returned ∧ t.state = .destroy ∧ t.deleted = false
  | .disposeThreads k => t.place = .returned ∧ t.state = .destroy ∧ (t.deleted = true ↔ i < k)
  | .returned => t.place = .returned ∧ t.state = .destroy ∧ t.deleted = true

/-- How often the systems of the main thread were disposed of. -/
def MainPlace.disposals {n : ℕ} : MainPlace n → ℕ
  | .disposeThreads _ | .returned => 1
  | .createThread _ | .loop | .swap _ | .update _ _ | .isStopAll _ | .destroyThread _ | .isDestroyAll _ | .dispose => 0

/-- What holds in every state. -/
structure ServerApp.Inv {n : ℕ} (s : ServerApp n) : Prop where
  ok : ∀ i, (s.threads i).Ok
  allows : ∀ i, s.main.Allows i (s.threads i)
  leaving : ∀ i, (s.threads i).Leaving → s.isStop = true
  disposals : s.disposals = s.main.disposals

namespace ThreadObj

variable {t t' : ThreadObj} {isStop : Bool}

/-- **A step of a thread.**  It was started, has not returned, and was not joined. -/
theorem step_ok (h : t.step isStop = some t') (hok : t.Ok) :
    t'.Ok ∧ t'.place ≠ .created ∧ t'.state ≠ .destroy ∧ t'.deleted = t.deleted ∧
      t.place ≠ .created ∧ t.place ≠ .returned := by
  rw [step] at h
  rw [Ok] at hok ⊢
  split at h <;> rename_i hplace <;> simp only [hplace] at hok
  · cases h
  · obtain rfl := Option.some.inj h
    exact ⟨⟨rfl, hok.2⟩, by simp, by simp, rfl, by simp [hplace], by simp [hplace]⟩
  · obtain rfl := Option.some.inj h
    cases isStop <;> exact ⟨hok, by simp, by simp [hok.1], rfl, by simp [hplace], by simp [hplace]⟩
  · obtain rfl := Option.some.inj h
    exact ⟨hok, by simp, by simp [hok.1], rfl, by simp [hplace], by simp [hplace]⟩
  · obtain rfl := Option.some.inj h
    simp [dispose, hok, hplace]
  · obtain rfl := Option.some.inj h
    exact ⟨⟨.inl rfl, hok.2⟩, by simp, by simp, rfl, by simp [hplace], by simp [hplace]⟩
  · cases h

/-- A thread leaves its loop when it is to stop. -/
theorem step_leaving (h : t.step isStop = some t') (hleaving : t'.Leaving) : t.Leaving ∨ isStop = true := by
  rw [step] at h
  split at h <;> rename_i hplace
  · cases h
  · obtain rfl := Option.some.inj h
    simp [Leaving] at hleaving
  · obtain rfl := Option.some.inj h
    cases isStop
    · simp [Leaving] at hleaving
    · exact .inr rfl
  · obtain rfl := Option.some.inj h
    simp [Leaving] at hleaving
  · exact .inl (.inl hplace)
  · exact .inl (.inr (.inl hplace))
  · cases h

/-- The main thread does not notice it. -/
theorem step_allows {n : ℕ} {main : MainPlace n} {i : Fin n} (h : t.step isStop = some t') (hok : t.Ok)
    (hallows : main.Allows i t) : main.Allows i t' := by
  obtain ⟨-, hcreated, hstate, hdeleted, hnew, hreturned⟩ := step_ok h hok
  cases main with
  | createThread k =>
    exact ⟨iff_of_false hcreated fun hle => hnew (hallows.1.2 hle), hstate, hdeleted.trans hallows.2.2⟩
  | loop | swap | update => exact ⟨hcreated, hstate, hdeleted.trans hallows.2.2⟩
  | isStopAll k =>
    exact ⟨hcreated, hstate, hdeleted.trans hallows.2.2.1, fun hlt => absurd (hallows.2.2.2 hlt) hreturned⟩
  | destroyThread | isDestroyAll | dispose | disposeThreads | returned => exact absurd hallows.1 hreturned

/-- A thread that was joined is not disposed of again. -/
theorem dispose_of_destroy (h : t.state = .destroy) : t.dispose = t := if_pos h

/-- `join` lets the main thread go on when the thread has returned. -/
theorem destroyThread_of_returned (h : t.place = .returned) :
    t.destroyThread = some { t with state := .destroy } := by
  unfold destroyThread
  split
  · rename_i hstate
    obtain ⟨state, place, disposals, deleted⟩ := t
    cases hstate
    rfl
  · simp only [h]

end ThreadObj

namespace ServerApp

variable {n : ℕ} {s t : ServerApp n}

theorem forThread_of_lt {k : ℕ} (h : k < n) (body : Fin n → Option (ServerApp n)) (behind : ServerApp n) :
    forThread k body behind = body ⟨k, h⟩ := dif_pos h

theorem forThread_of_le {k : ℕ} (h : n ≤ k) (body : Fin n → Option (ServerApp n)) (behind : ServerApp n) :
    forThread k body behind = some behind := dif_neg (by omega)

/-- A step of a loop is one for the next thread, or the last one. -/
theorem forThread_cases {k : ℕ} {body : Fin n → Option (ServerApp n)} {behind : ServerApp n}
    (h : forThread k body behind = some t) : (∃ hk : k < n, body ⟨k, hk⟩ = some t) ∨ n ≤ k ∧ t = behind := by
  by_cases hk : k < n
  · rw [forThread_of_lt hk] at h
    exact .inl ⟨hk, h⟩
  · rw [forThread_of_le (by omega)] at h
    exact .inr ⟨by omega, (Option.some.inj h).symm⟩

theorem setThread_threads (s : ServerApp n) (i j : Fin n) (t : ThreadObj) :
    (s.setThread i t).threads j = if j = i then t else s.threads j := Function.update_apply s.threads i t j

/-- A thread is written: what holds of it and of the others holds of all. -/
theorem forall_setThread {p : Fin n → ThreadObj → Prop} {i : Fin n} {t : ThreadObj} (hi : p i t)
    (hothers : ∀ j, j ≠ i → p j (s.threads j)) (j : Fin n) : p j ((s.setThread i t).threads j) := by
  rw [setThread_threads]
  split
  · rename_i heq
    rw [heq]
    exact hi
  · rename_i hne
    exact hothers j hne

theorem inv_create (n : ℕ) : (create n).Inv where
  ok := fun _ => ⟨rfl, rfl⟩
  allows := fun i => ⟨iff_of_true rfl (Nat.zero_le i), by simp [create, ThreadObj.create], rfl⟩
  leaving := by
    intro i h
    simp [create, ThreadObj.create, ThreadObj.Leaving] at h
  disposals := rfl

/-- **A step of a thread.** -/
theorem Inv.thread {i : Fin n} (h : s.Inv) (hstep : s.step (.thread i) = some t) : t.Inv := by
  obtain ⟨thread, hthread, rfl⟩ := Option.map_eq_some_iff.1 hstep
  refine ⟨?_, ?_, ?_, h.disposals⟩
  · exact forall_setThread (p := fun _ t => t.Ok) (ThreadObj.step_ok hthread (h.ok i)).1 fun j _ => h.ok j
  · exact forall_setThread (p := fun j t => s.main.Allows j t)
      (ThreadObj.step_allows hthread (h.ok i) (h.allows i)) fun j _ => h.allows j
  · refine forall_setThread (p := fun _ t => t.Leaving → s.isStop = true) ?_ fun j _ => h.leaving j
    exact fun hleaving => (ThreadObj.step_leaving hthread hleaving).elim (h.leaving i) id

/-- A step of the main thread that changes no thread. -/
theorem Inv.goTo (h : s.Inv) (main : MainPlace n) {dangling : Bool}
    (hallows : ∀ i, s.main.Allows i (s.threads i) → main.Allows i (s.threads i))
    (hdisposals : main.disposals = s.main.disposals) :
    ({ s with main := main, dangling := dangling } : ServerApp n).Inv :=
  ⟨h.ok, fun i => hallows i (h.allows i), h.leaving, h.disposals.trans hdisposals.symm⟩

/-- A step of the main thread that changes the next thread. -/
theorem Inv.write {main : MainPlace n} {i : Fin n} {thread : ThreadObj} (h : s.Inv) (hok : thread.Ok)
    (hleaving : thread.Leaving → (s.threads i).Leaving) (hi : main.Allows i thread)
    (hothers : ∀ j, j ≠ i → main.Allows j (s.threads j)) (hdisposals : main.disposals = s.main.disposals) :
    ({ s.setThread i thread with main := main } : ServerApp n).Inv := by
  refine ⟨?_, ?_, ?_, h.disposals.trans hdisposals.symm⟩
  · exact forall_setThread (p := fun _ t => t.Ok) hok fun j _ => h.ok j
  · exact forall_setThread (p := fun j t => main.Allows j t) hi hothers
  · exact forall_setThread (p := fun _ t => t.Leaving → s.isStop = true) (fun hl => h.leaving i (hleaving hl))
      fun j _ => h.leaving j

/-- **A step of the main thread.** -/
theorem Inv.main {receivers : List (Fin n)} (h : s.Inv) (hstep : s.step (.main receivers) = some t) : t.Inv := by
  have hall := h.allows
  change s.stepMain receivers = some t at hstep
  unfold stepMain at hstep
  split at hstep <;> rename_i hmain
  · rename_i k
    rw [hmain] at hall
    rcases forThread_cases hstep with ⟨hk, hbody⟩ | ⟨hk, rfl⟩
    · obtain rfl := Option.some.inj hbody
      have hnew : (s.threads ⟨k, hk⟩).place = .created := (hall ⟨k, hk⟩).1.2 (le_refl k)
      have hok := h.ok ⟨k, hk⟩
      simp only [ThreadObj.Ok, hnew] at hok
      refine h.write hok ?_ ?_ ?_ (by rw [hmain]; rfl)
      · simp [ThreadObj.Leaving, ThreadObj.start]
      · exact ⟨iff_of_false (by simp [ThreadObj.start]) (by simp), (hall _).2.1, (hall _).2.2⟩
      · intro j hj
        have hne : (j : ℕ) ≠ k := fun heq => hj (Fin.ext heq)
        refine ⟨(hall j).1.trans ?_, (hall j).2⟩
        omega
    · refine h.goTo .loop (fun i hi => ?_) (by rw [hmain]; rfl)
      rw [hmain] at hi
      exact ⟨fun hnew => absurd (hi.1.1 hnew) (by omega), hi.2⟩
  · obtain rfl := Option.some.inj hstep
    refine h.goTo _ (fun i hi => ?_) ?_
    · rw [hmain] at hi
      split
      · exact ⟨hi.1, hi.2.1, hi.2.2, fun hlt => absurd hlt (Nat.not_lt_zero _)⟩
      · exact hi
    · rw [hmain]
      split <;> rfl
  · rename_i list
    obtain rfl := Option.some.inj hstep
    refine h.goTo (.update list receivers) (fun i hi => ?_) (by rw [hmain]; rfl)
    rwa [hmain] at hi
  · obtain rfl := Option.some.inj hstep
    refine h.goTo (.swap .packets) (fun i hi => ?_) (by rw [hmain]; rfl)
    rwa [hmain] at hi
  · obtain rfl := Option.some.inj hstep
    refine h.goTo .loop (fun i hi => ?_) (by rw [hmain]; rfl)
    rwa [hmain] at hi
  · rename_i list _ left
    obtain rfl := Option.some.inj hstep
    refine h.goTo (.update list left) (fun i hi => ?_) (by rw [hmain]; rfl)
    rwa [hmain] at hi
  · rename_i k
    rw [hmain] at hall
    rcases forThread_cases hstep with ⟨hk, hbody⟩ | ⟨hk, rfl⟩
    · obtain rfl := Option.some.inj hbody
      refine h.goTo _ (fun i hi => ?_) ?_
      · rw [hmain] at hi
        split
        · rename_i hstop
          refine ⟨hi.1, hi.2.1, hi.2.2.1, fun hlt => ?_⟩
          rcases Nat.lt_succ_iff_lt_or_eq.1 hlt with hlt | heq
          · exact hi.2.2.2 hlt
          · have hok := h.ok ⟨k, hk⟩
            obtain rfl : i = ⟨k, hk⟩ := Fin.ext heq
            unfold ThreadObj.Ok at hok
            split at hok <;> simp_all
        · exact ⟨hi.1, hi.2.1, hi.2.2.1, fun hlt => absurd hlt (Nat.not_lt_zero _)⟩
      · rw [hmain]
        split <;> rfl
    · refine h.goTo (.destroyThread 0) (fun i hi => ?_) (by rw [hmain]; rfl)
      rw [hmain] at hi
      exact ⟨hi.2.2.2 (by omega), iff_of_false hi.2.1 (Nat.not_lt_zero _), hi.2.2.1⟩
  · rename_i k
    rw [hmain] at hall
    rcases forThread_cases hstep with ⟨hk, hbody⟩ | ⟨hk, rfl⟩
    · have hreturned := (hall ⟨k, hk⟩).1
      rw [ThreadObj.destroyThread_of_returned hreturned] at hbody
      obtain rfl := Option.some.inj hbody
      have hok := h.ok ⟨k, hk⟩
      simp only [ThreadObj.Ok, hreturned] at hok
      refine h.write ?_ (fun _ => .inr (.inr hreturned)) ?_ ?_ (by rw [hmain]; rfl)
      · simp only [ThreadObj.Ok, hreturned]
        exact ⟨.inr trivial, hok.2⟩
      · exact ⟨hreturned, iff_of_true rfl (Nat.lt_succ_self k), (hall _).2.2⟩
      · intro j hj
        have hne : (j : ℕ) ≠ k := fun heq => hj (Fin.ext heq)
        refine ⟨(hall j).1, (hall j).2.1.trans ?_, (hall j).2.2⟩
        omega
    · refine h.goTo (.isDestroyAll 0) (fun i hi => ?_) (by rw [hmain]; rfl)
      rw [hmain] at hi
      exact ⟨hi.1, hi.2.1.2 (by omega), hi.2.2⟩
  · rename_i k
    rcases forThread_cases hstep with ⟨hk, hbody⟩ | ⟨hk, rfl⟩
    · obtain rfl := Option.some.inj hbody
      refine h.goTo _ (fun i hi => ?_) ?_
      · rw [hmain] at hi
        split <;> exact hi
      · rw [hmain]
        split <;> rfl
    · refine h.goTo .dispose (fun i hi => ?_) (by rw [hmain]; rfl)
      rwa [hmain] at hi
  · obtain rfl := Option.some.inj hstep
    rw [hmain] at hall
    refine ⟨h.ok, fun i => ?_, h.leaving, ?_⟩
    · exact ⟨(hall i).1, (hall i).2.1, iff_of_false (by simp [(hall i).2.2]) (Nat.not_lt_zero _)⟩
    · have hnone := h.disposals
      rw [hmain] at hnone
      exact congrArg (· + 1) hnone
  · rename_i k
    rw [hmain] at hall
    rcases forThread_cases hstep with ⟨hk, hbody⟩ | ⟨hk, rfl⟩
    · obtain rfl := Option.some.inj hbody
      rw [ThreadObj.dispose_of_destroy (hall ⟨k, hk⟩).2.1]
      refine h.write (h.ok ⟨k, hk⟩) id ?_ ?_ (by rw [hmain]; rfl)
      · exact ⟨(hall _).1, (hall _).2.1, iff_of_true rfl (Nat.lt_succ_self k)⟩
      · intro j hj
        have hne : (j : ℕ) ≠ k := fun heq => hj (Fin.ext heq)
        refine ⟨(hall j).1, (hall j).2.1, (hall j).2.2.trans ?_⟩
        omega
    · refine h.goTo .returned (fun i hi => ?_) (by rw [hmain]; rfl)
      rw [hmain] at hi
      exact ⟨hi.1, hi.2.1, hi.2.2.2 (by omega)⟩
  · cases hstep

theorem Inv.step {e : ServerEvent n} (h : s.Inv) (hstep : s.step e = some t) : t.Inv := by
  cases e with
  | signal =>
    obtain rfl := Option.some.inj hstep
    exact ⟨h.ok, h.allows, fun _ _ => rfl, h.disposals⟩
  | main receivers => exact h.main hstep
  | thread i => exact h.thread hstep

theorem inv_run {es : List (ServerEvent n)} (hrun : (system n).Run es s) : s.Inv := by
  refine hrun.invariant (p := Inv) (fun s hs => ?_) fun s e t hs hstep => hs.step hstep
  obtain rfl : s = create n := hs
  exact inv_create n

theorem Inv.orderly (h : s.Inv) : s.Orderly where
  once := by
    intro i
    have hok := h.ok i
    unfold ThreadObj.Ok at hok
    split at hok <;> omega
  behind := by
    intro i hne
    have hok := h.ok i
    unfold ThreadObj.Ok at hok
    split at hok <;> first | exact absurd hok.2 hne | skip
    · exact .inl ‹_›
    · exact .inr ‹_›
  joined := by
    intro i hstate
    have hok := h.ok i
    unfold ThreadObj.Ok at hok
    rw [hstate] at hok
    split at hok <;> first | exact absurd hok.1 (by decide) | skip
    exact ⟨‹_›, hok.2⟩
  main_once := by
    rw [h.disposals]
    cases s.main <;> simp [MainPlace.disposals]
  main_last := by
    intro hne i
    have hallows := h.allows i
    rw [h.disposals] at hne
    cases hmain : s.main <;> rw [hmain] at hne hallows <;> first | exact absurd rfl hne | exact hallows.2.1
  deleted := by
    intro i hdeleted
    have hallows := h.allows i
    rw [h.disposals]
    cases hmain : s.main <;> simp only [hmain, MainPlace.Allows, hdeleted] at hallows <;> simp at hallows
    · exact ⟨hallows.2.1, rfl⟩
    · exact ⟨hallows.2, rfl⟩
  returned := by
    intro hmain i
    have hallows := h.allows i
    have hok := h.ok i
    rw [hmain] at hallows
    simp only [ThreadObj.Ok, hallows.1] at hok
    exact ⟨hok.2, hallows.2.2⟩

end ServerApp

/-- **Every run is orderly.** -/
theorem shutdown_run {n : ℕ} {es : List (ServerEvent n)} {s : ServerApp n}
    (hrun : (ServerApp.system n).Run es s) : s.Orderly := (ServerApp.inv_run hrun).orderly

/-- A process starts its two threads; it is to stop while the main thread gives packets to both of them, and the second
one is in an update. -/
def stopsInUpdate : List (ServerEvent 2) :=
  List.replicate 3 (.main []) ++ [.thread 0, .thread 1, .main [], .main [1], .main [], .main [], .thread 1,
    .main [0, 1], .main [], .signal]

/-- It stops: the first thread returns, the main thread asks in vain, the second one returns, and the main thread takes
its steps. -/
def stopsThen : List (ServerEvent 2) :=
  List.replicate 3 (.thread 0) ++ List.replicate 5 (.main []) ++ List.replicate 4 (.thread 1) ++
    List.replicate 13 (.main [])

/-- The main thread comes to its end. -/
theorem execute_stopsThen : (System.execute ServerApp.step (fun _ _ => True) (ServerApp.create 2)
    (stopsInUpdate ++ stopsThen)).map ServerApp.main = some .returned := by decide +kernel

/-- The process has come to its end. -/
theorem shutdown_stopsThen : ∃ s, (ServerApp.system 2).Run (stopsInUpdate ++ stopsThen) s ∧
    s.main = .returned ∧ s.Orderly := by
  obtain ⟨s, hs, hmain⟩ := Option.map_eq_some_iff.1 execute_stopsThen
  have hrun : (ServerApp.system 2).Run (stopsInUpdate ++ stopsThen) s := System.run_of_execute_true rfl hs
  exact ⟨s, hrun, hmain, shutdown_run hrun⟩

/-! ### The process ends -/

/-- How many steps a thread that is to stop has still to take, at most. -/
def ThreadObj.rank (t : ThreadObj) : ℕ :=
  match t.place with
  | .created => 5
  | .initComponent | .update => 4
  | .loop => 3
  | .dispose => 2
  | .stop => 1
  | .returned => 0

/-- How many lists the main thread has still to swap, if it does not begin another update. -/
def MainPlace.swaps {n : ℕ} : MainPlace n → ℕ
  | .swap .createPackets => 2
  | .update .createPackets _ | .swap .packets => 1
  | .createThread _ | .loop | .update .packets _ | .isStopAll _ | .destroyThread _ | .isDestroyAll _ | .dispose
  | .disposeThreads _ | .returned => 0

/-- The steps of the main thread until it swaps a list, without the rounds of `IsStopAll`. -/
def MainPlace.rank {n : ℕ} : MainPlace n → ℕ
  | .createThread k => 3 * n + 7 + (n - k)
  | .update _ receivers => 3 * n + 7 + receivers.length
  | .loop | .swap _ => 3 * n + 6
  | .isStopAll _ => 3 * n + 5
  | .destroyThread k => 2 * n + 4 + (n - k)
  | .isDestroyAll k => n + 3 + (n - k)
  | .dispose => n + 2
  | .disposeThreads k => 1 + (n - k)
  | .returned => 0

namespace ServerApp

variable {n : ℕ} {s t : ServerApp n}

/-- A thread that has not returned. -/
def unstopped (s : ServerApp n) : Option (Fin n) :=
  (List.finRange n).find? fun i => (s.threads i).place ≠ .returned

/-- Who has to take a step: the main thread, unless it waits for a thread that has not returned. -/
def helpful (s : ServerApp n) : Option (Fin n) :=
  match s.main with
  | .isStopAll _ => s.unstopped
  | _ => none

/-- How many threads the main thread has still to ask, when all of them have stopped. -/
def unasked (s : ServerApp n) : ℕ :=
  match s.main, s.unstopped with
  | .isStopAll k, none => n - k
  | _, _ => 0

/-- The lists that are to be swapped, the steps of all threads, and then the questions of the main thread. -/
def rank (s : ServerApp n) : ℕ ×ₗ ℕ ×ₗ ℕ :=
  toLex (s.main.swaps, toLex (s.main.rank + ∑ i, (s.threads i).rank, s.unasked))

/-- Fewer steps are left for a thread that is to stop. -/
theorem rank_step {t t' : ThreadObj} (h : t.step true = some t') : t'.rank < t.rank := by
  unfold ThreadObj.step at h
  split at h <;> rename_i hplace
  · cases h
  · obtain rfl := Option.some.inj h
    simp [ThreadObj.rank, hplace]
  · obtain rfl := Option.some.inj h
    simp [ThreadObj.rank, hplace]
  · obtain rfl := Option.some.inj h
    simp [ThreadObj.rank, hplace]
  · obtain rfl := Option.some.inj h
    simp [ThreadObj.rank, hplace]
  · obtain rfl := Option.some.inj h
    simp [ThreadObj.rank, hplace]
  · cases h

/-- The rank is lower if the swaps are fewer. -/
theorem rank_lt_of_swaps (h : t.main.swaps < s.main.swaps) : t.rank < s.rank := Prod.Lex.toLex_lt_toLex.2 (.inl h)

/-- The rank is lower if the steps are fewer, and the swaps are not more. -/
theorem rank_lt (hswaps : t.main.swaps ≤ s.main.swaps)
    (h : t.main.rank + ∑ i, (t.threads i).rank < s.main.rank + ∑ i, (s.threads i).rank) : t.rank < s.rank := by
  rcases hswaps.lt_or_eq with hlt | heq
  · exact rank_lt_of_swaps hlt
  · exact Prod.Lex.toLex_lt_toLex.2 (.inr ⟨heq, Prod.Lex.toLex_lt_toLex.2 (.inl h)⟩)

/-- A thread is written, and not further from its end. -/
theorem sum_rank_setThread {i : Fin n} {thread : ThreadObj} (h : thread.rank ≤ (s.threads i).rank) :
    ∑ j, ((s.setThread i thread).threads j).rank ≤ ∑ j, (s.threads j).rank := by
  refine Finset.sum_le_sum fun j _ => ?_
  exact forall_setThread (p := fun j t => t.rank ≤ (s.threads j).rank) h (fun _ _ => le_rfl) j

/-- **A step of a thread** lowers the rank. -/
theorem rank_thread {i : Fin n} (hstop : s.isStop = true) (hstep : s.step (.thread i) = some t) :
    t.rank < s.rank := by
  obtain ⟨thread, hthread, rfl⟩ := Option.map_eq_some_iff.1 hstep
  rw [hstop] at hthread
  have hlt := rank_step hthread
  refine rank_lt le_rfl (Nat.add_lt_add_left (Finset.sum_lt_sum (fun j _ => ?_) ⟨i, Finset.mem_univ i, ?_⟩) _)
  · exact forall_setThread (p := fun j t => t.rank ≤ (s.threads j).rank) hlt.le (fun _ _ => le_rfl) j
  · rw [setThread_threads, if_pos rfl]
    exact hlt

/-- A step of the main thread that changes no thread lowers the rank, if fewer steps are left for it. -/
theorem rank_goTo {main : MainPlace n} {disposals : ℕ} {dangling : Bool} (hswaps : main.swaps ≤ s.main.swaps)
    (h : main.rank < s.main.rank) :
    ({ s with main := main, disposals := disposals, dangling := dangling } : ServerApp n).rank < s.rank :=
  rank_lt hswaps (Nat.add_lt_add_right h _)

/-- The same, when it writes the next thread. -/
theorem rank_write {main : MainPlace n} {i : Fin n} {thread : ThreadObj} (hswaps : main.swaps = 0)
    (h : main.rank < s.main.rank) (hthread : thread.rank ≤ (s.threads i).rank) :
    ({ s.setThread i thread with main := main } : ServerApp n).rank < s.rank :=
  rank_lt (hswaps.trans_le (Nat.zero_le _)) (Nat.add_lt_add_of_lt_of_le h (sum_rank_setThread hthread))

/-- The same, when it leaves a place and has no lists to swap behind it. -/
theorem rank_leave {place main : MainPlace n} {disposals : ℕ} {dangling : Bool} (hmain : s.main = place)
    (hswaps : main.swaps = 0) (h : main.rank < place.rank) :
    ({ s with main := main, disposals := disposals, dangling := dangling } : ServerApp n).rank < s.rank := by
  refine rank_goTo (hswaps.trans_le (Nat.zero_le _)) ?_
  rwa [hmain]

/-- **A question** lowers the rank when all threads have returned; otherwise the main thread waits for one of them. -/
theorem rank_isStopAll (h : s.Inv) {k : ℕ} (hmain : s.main = .isStopAll k) (hk : k < n)
    (ht : t = { s with main := if (s.threads ⟨k, hk⟩).state = .stop then .isStopAll (k + 1) else .isStopAll 0 }) :
    t.rank < s.rank ∨ t.rank = s.rank ∧ t.helpful = s.helpful ∧ s.helpful ≠ none := by
  have hall := h.allows
  rw [hmain] at hall
  cases hun : s.unstopped with
  | none =>
    -- all threads have returned, and the next one has stopped
    left
    have hreturned : (s.threads ⟨k, hk⟩).place = .returned := by
      simpa using List.find?_eq_none.1 hun ⟨k, hk⟩ (List.mem_finRange _)
    have hok := h.ok ⟨k, hk⟩
    simp only [ThreadObj.Ok, hreturned] at hok
    rw [ht, if_pos (hok.1.resolve_right (hall _).2.1)]
    refine Prod.Lex.toLex_lt_toLex.2 (.inr ⟨?_, Prod.Lex.toLex_lt_toLex.2 (.inr ⟨?_, ?_⟩)⟩)
    · rw [hmain]
      rfl
    · rw [hmain]
      rfl
    · have hun' : unstopped { s with main := .isStopAll (k + 1) } = none := hun
      simp only [unasked, hmain, hun, hun']
      omega
  | some i =>
    right
    have hsame : ∀ k', ({ s with main := .isStopAll k' } : ServerApp n).rank = s.rank ∧
        ({ s with main := .isStopAll k' } : ServerApp n).helpful = s.helpful := by
      intro k'
      have hun' : unstopped { s with main := .isStopAll k' } = some i := hun
      simp only [rank, helpful, unasked, hmain, hun, hun', MainPlace.rank, MainPlace.swaps, and_self]
    have hhelpful : s.helpful ≠ none := by simp [helpful, hmain, hun]
    rw [ht]
    split
    · exact ⟨(hsame _).1, (hsame _).2, hhelpful⟩
    · exact ⟨(hsame _).1, (hsame _).2, hhelpful⟩

/-- **A step of the main thread** lowers the rank, unless it waits for a thread. -/
theorem rank_main {receivers : List (Fin n)} (h : s.Inv) (hstop : s.isStop = true)
    (hstep : s.step (.main receivers) = some t) :
    t.rank < s.rank ∨ t.rank = s.rank ∧ t.helpful = s.helpful ∧ s.helpful ≠ none := by
  change s.stepMain receivers = some t at hstep
  have hall := h.allows
  unfold stepMain at hstep
  split at hstep <;> rename_i hmain <;> rw [hmain] at hall
  · rename_i k
    left
    rcases forThread_cases hstep with ⟨hk, hbody⟩ | ⟨hk, rfl⟩
    · obtain rfl := Option.some.inj hbody
      have hnew : (s.threads ⟨k, hk⟩).place = .created := (hall ⟨k, hk⟩).1.2 (le_refl k)
      refine rank_write rfl ?_ ?_
      · rw [hmain]
        simp only [MainPlace.rank]
        omega
      · simp [ThreadObj.rank, ThreadObj.start, hnew]
    · refine rank_leave hmain rfl ?_
      simp only [MainPlace.rank]
      omega
  · obtain rfl := Option.some.inj hstep
    left
    rw [if_pos hstop]
    refine rank_leave hmain rfl ?_
    simp only [MainPlace.rank]
    omega
  · rename_i list
    obtain rfl := Option.some.inj hstep
    left
    refine rank_lt_of_swaps ?_
    rw [hmain]
    cases list <;> simp [MainPlace.swaps]
  · obtain rfl := Option.some.inj hstep
    left
    refine rank_goTo ?_ ?_
    · rw [hmain]
      exact le_rfl
    · rw [hmain]
      simp [MainPlace.rank]
  · obtain rfl := Option.some.inj hstep
    left
    exact rank_leave hmain rfl (by simp [MainPlace.rank])
  · rename_i list _ left
    obtain rfl := Option.some.inj hstep
    left
    refine rank_goTo ?_ ?_
    · rw [hmain]
      cases list <;> exact le_rfl
    · rw [hmain]
      simp [MainPlace.rank]
  · rename_i k
    rcases forThread_cases hstep with ⟨hk, hbody⟩ | ⟨hk, rfl⟩
    · exact rank_isStopAll h hmain hk (Option.some.inj hbody).symm
    · left
      refine rank_leave hmain rfl ?_
      simp only [MainPlace.rank]
      omega
  · rename_i k
    left
    rcases forThread_cases hstep with ⟨hk, hbody⟩ | ⟨hk, rfl⟩
    · rw [ThreadObj.destroyThread_of_returned (hall ⟨k, hk⟩).1] at hbody
      obtain rfl := Option.some.inj hbody
      refine rank_write rfl ?_ (le_refl _)
      rw [hmain]
      simp only [MainPlace.rank]
      omega
    · refine rank_leave hmain rfl ?_
      simp only [MainPlace.rank]
      omega
  · rename_i k
    left
    rcases forThread_cases hstep with ⟨hk, hbody⟩ | ⟨hk, rfl⟩
    · obtain rfl := Option.some.inj hbody
      rw [if_pos (hall ⟨k, hk⟩).2.1]
      refine rank_leave hmain rfl ?_
      simp only [MainPlace.rank]
      omega
    · refine rank_leave hmain rfl ?_
      simp only [MainPlace.rank]
      omega
  · obtain rfl := Option.some.inj hstep
    left
    refine rank_leave hmain rfl ?_
    simp only [MainPlace.rank]
    omega
  · rename_i k
    left
    rcases forThread_cases hstep with ⟨hk, hbody⟩ | ⟨hk, rfl⟩
    · obtain rfl := Option.some.inj hbody
      rw [ThreadObj.dispose_of_destroy (hall ⟨k, hk⟩).2.1]
      refine rank_write rfl ?_ (le_refl _)
      rw [hmain]
      simp only [MainPlace.rank]
      omega
    · refine rank_leave hmain rfl ?_
      simp only [MainPlace.rank]
      omega
  · cases hstep

/-- **What a step does** until the main thread has returned. -/
theorem Inv.ranked (h : s.Inv) (hstop : s.isStop = true) :
    (system n).Ranked proc (fun t => t.main = .returned) rank helpful s := by
  intro e t hstep
  refine .inr ?_
  cases e with
  | signal =>
    obtain rfl : { s with isStop := true } = t := Option.some.inj hstep
    have hsame : ({ s with isStop := true } : ServerApp n) = s := by
      obtain ⟨isStop, main, threads, disposals, dangling⟩ := s
      cases hstop
      rfl
    rw [hsame]
    exact .inr ⟨rfl, rfl, by simp [proc]⟩
  | main receivers =>
    rcases rank_main h hstop hstep with hlt | ⟨hrank, hhelpful, hne⟩
    · exact .inl hlt
    · exact .inr ⟨hrank, hhelpful, fun heq => hne (Option.some.inj heq).symm⟩
  | thread i => exact .inl (rank_thread hstop hstep)

/-- A thread that was started and has not returned can take a step. -/
theorem step_isSome {thread : ThreadObj} (isStop : Bool) (hnew : thread.place ≠ .created)
    (hreturned : thread.place ≠ .returned) : ∃ thread', thread.step isStop = some thread' := by
  unfold ThreadObj.step
  split
  · exact absurd ‹_› hnew
  all_goals first | exact ⟨_, rfl⟩ | skip
  exact absurd ‹_› hreturned

/-- The main thread can take a step, until it has returned: it joins threads that have returned only. -/
theorem Inv.stepMain_isSome (h : s.Inv) (hmain : s.main ≠ .returned) : ∃ t, s.stepMain [] = some t := by
  have hfor : ∀ (k : ℕ) (body : Fin n → Option (ServerApp n)) (behind : ServerApp n),
      (∀ i, ∃ t, body i = some t) → ∃ t, forThread k body behind = some t := by
    intro k body behind hbody
    by_cases hk : k < n
    · rw [forThread_of_lt hk]
      exact hbody _
    · exact ⟨behind, forThread_of_le (by omega) _ _⟩
  unfold stepMain
  split
  · exact hfor _ _ _ fun i => ⟨_, rfl⟩
  · exact ⟨_, rfl⟩
  · exact ⟨_, rfl⟩
  · exact ⟨_, rfl⟩
  · exact ⟨_, rfl⟩
  · exact ⟨_, rfl⟩
  · exact hfor _ _ _ fun i => ⟨_, rfl⟩
  · rename_i hplace
    refine hfor _ _ _ fun i => ?_
    have hallows := h.allows i
    rw [hplace] at hallows
    rw [ThreadObj.destroyThread_of_returned hallows.1]
    exact ⟨_, rfl⟩
  · exact hfor _ _ _ fun i => ⟨_, rfl⟩
  · exact ⟨_, rfl⟩
  · exact hfor _ _ _ fun i => ⟨_, rfl⟩
  · exact absurd ‹_› hmain

/-- **The helpful one is enabled.** -/
theorem Inv.enabled (h : s.Inv) (hmain : s.main ≠ .returned) : (system n).Enabled proc s.helpful s := by
  have henabled : ∀ p, s.helpful = p → (system n).Enabled proc p s := by
    intro p hp
    cases p with
    | none =>
      obtain ⟨t, ht⟩ := h.stepMain_isSome hmain
      exact ⟨.main [], t, rfl, ht⟩
    | some i =>
      unfold helpful at hp
      split at hp
      · rename_i hplace
        have hallows := h.allows i
        rw [hplace] at hallows
        have hnot : (s.threads i).place ≠ .returned := by simpa using List.find?_some hp
        obtain ⟨thread, hthread⟩ := step_isSome s.isStop hallows.1 hnot
        refine ⟨.thread i, s.setThread i thread, rfl, ?_⟩
        change ((s.threads i).step s.isStop).map (s.setThread i) = _
        rw [hthread]
        rfl
      · cases hp
  exact henabled _ rfl

/-- `IsStop` is never taken back. -/
theorem isStop_step {e : ServerEvent n} (hstep : s.step e = some t) (hstop : s.isStop = true) :
    t.isStop = true := by
  cases e with
  | signal =>
    obtain rfl := Option.some.inj hstep
    rfl
  | main receivers =>
    have hsame : t.isStop = s.isStop := by
      change s.stepMain receivers = some t at hstep
      unfold stepMain at hstep
      split at hstep
      case h_8 =>
        rcases forThread_cases hstep with ⟨hk, hbody⟩ | ⟨hk, rfl⟩
        · obtain ⟨thread, -, rfl⟩ := Option.map_eq_some_iff.1 hbody
          rfl
        · rfl
      case h_1 | h_7 | h_9 | h_11 =>
        rcases forThread_cases hstep with ⟨hk, hbody⟩ | ⟨hk, rfl⟩
        · obtain rfl := Option.some.inj hbody
          rfl
        · rfl
      case h_12 => cases hstep
      all_goals
        obtain rfl := Option.some.inj hstep
        rfl
    exact hsame.trans hstop
  | thread i =>
    obtain ⟨thread, -, rfl⟩ := Option.map_eq_some_iff.1 hstep
    exact hstop

end ServerApp

/-- **A process that is to stop ends**, if every thread goes on taking steps.  An update of a thread is one step: that
the run is fair says also that every update comes to its end. -/
theorem shutdown_ends {n : ℕ} {x : ℕ → ServerApp n} (hfair : (ServerApp.system n).FairRun ServerApp.proc x)
    (hstop : (x 0).isStop = true) : ∃ m, (x m).main = .returned := by
  obtain ⟨es, hrun⟩ := hfair.start
  refine hfair.eventually (fun s => s.Inv ∧ s.isStop = true) (fun s => s.main = .returned) ServerApp.rank
    ServerApp.helpful ⟨ServerApp.inv_run hrun, hstop⟩ ?_ ?_ ?_
  · exact fun s e t hs hstep => ⟨hs.1.step hstep, ServerApp.isStop_step hstep hs.2⟩
  · exact fun s hs hmain => hs.1.enabled hmain
  · exact fun s hs _ => hs.1.ranked hs.2

/-- Nobody takes a step behind the end of a process. -/
theorem ServerApp.Inv.halt {n : ℕ} {s : ServerApp n} (h : s.Inv) (hmain : s.main = .returned)
    (p : Option (Fin n)) : ¬ (ServerApp.system n).Enabled ServerApp.proc p s := by
  rintro ⟨e, t, hproc, hstep⟩
  change s.step e = some t at hstep
  cases e with
  | signal => cases hproc
  | main receivers =>
    simp only [ServerApp.step, ServerApp.stepMain, hmain] at hstep
    cases hstep
  | thread i =>
    have hallows := h.allows i
    rw [hmain] at hallows
    simp only [ServerApp.step, ThreadObj.step, hallows.1] at hstep
    cases hstep

/-- The process with two threads ends. -/
theorem shutdown_ends_stopsThen : ∃ x : ℕ → ServerApp 2, (ServerApp.system 2).FairRun ServerApp.proc x ∧
    ∃ m, (x m).main = .returned := by
  obtain ⟨t, ht, hmain⟩ := Option.map_eq_some_iff.1 execute_stopsThen
  have hend : (ServerApp.system 2).Run (stopsInUpdate ++ stopsThen) t := System.run_of_execute_true rfl ht
  rw [System.execute_append] at ht
  obtain ⟨s, hs, ht⟩ := Option.bind_eq_some_iff.1 ht
  have hrun : (ServerApp.system 2).Run stopsInUpdate s := System.run_of_execute_true rfl hs
  have hstop : s.isStop = true := by
    have hsignal : (System.execute ServerApp.step (fun _ _ => True) (ServerApp.create 2) stopsInUpdate).map
        ServerApp.isStop = some true := by decide +kernel
    rw [hs] at hsignal
    exact Option.some.inj hsignal
  obtain ⟨x, hfair, hx⟩ := System.exists_fairRun_of_execute hrun ht ((ServerApp.inv_run hend).halt hmain)
  exact ⟨x, hfair, shutdown_ends hfair (hx ▸ hstop)⟩

/-! ### Message systems that were deleted -/

namespace ServerApp

variable {n : ℕ} {s t : ServerApp n}

/-- The main thread has packets for some threads, or a list to swap in this update, in which there may be some. -/
def Dispatching (s : ServerApp n) : Prop :=
  match s.main with
  | .swap _ | .update .createPackets _ => 0 < n
  | .update .packets receivers => receivers ≠ []
  | .createThread _ | .loop | .isStopAll _ | .destroyThread _ | .isDestroyAll _ | .dispose | .disposeThreads _
  | .returned => False

theorem dispatching_of_cons {list : UpdateList} {i : Fin n} {left : List (Fin n)}
    (hmain : s.main = .update list (i :: left)) : s.Dispatching := by
  rw [Dispatching, hmain]
  cases list with
  | createPackets => exact i.pos
  | packets => exact List.cons_ne_nil i left

/-- A step of the main thread that gives no packet calls no message system, and if the process is to stop, there are
no packets later. -/
theorem stepMain_dangling {receivers : List (Fin n)} (hstep : s.stepMain receivers = some t)
    (hgives : ∀ list i left, s.main ≠ .update list (i :: left)) :
    t.dangling = s.dangling ∧ (s.isStop = true → ¬ s.Dispatching → ¬ t.Dispatching) := by
  unfold stepMain at hstep
  split at hstep <;> rename_i hmain
  · rcases forThread_cases hstep with ⟨hk, hbody⟩ | ⟨hk, rfl⟩
    · obtain rfl := Option.some.inj hbody
      exact ⟨rfl, fun _ _ h => h⟩
    · exact ⟨rfl, fun _ _ h => h⟩
  · obtain rfl := Option.some.inj hstep
    refine ⟨rfl, fun hstop _ => ?_⟩
    rw [if_pos hstop]
    exact fun h => h
  · rename_i list
    obtain rfl := Option.some.inj hstep
    refine ⟨rfl, fun _ hnot h => hnot ?_⟩
    rw [Dispatching, hmain]
    cases list with
    | createPackets => exact h
    | packets =>
      -- who gets a packet is a thread
      obtain ⟨i, -⟩ := List.exists_mem_of_ne_nil receivers h
      exact i.pos
  · obtain rfl := Option.some.inj hstep
    refine ⟨rfl, fun _ hnot h => hnot ?_⟩
    rw [Dispatching, hmain]
    exact h
  · obtain rfl := Option.some.inj hstep
    exact ⟨rfl, fun _ _ h => h⟩
  · exact absurd hmain (hgives _ _ _)
  · rcases forThread_cases hstep with ⟨hk, hbody⟩ | ⟨hk, rfl⟩
    · obtain rfl := Option.some.inj hbody
      refine ⟨rfl, fun _ _ => ?_⟩
      split <;> exact fun h => h
    · exact ⟨rfl, fun _ _ h => h⟩
  · rcases forThread_cases hstep with ⟨hk, hbody⟩ | ⟨hk, rfl⟩
    · obtain ⟨thread, -, rfl⟩ := Option.map_eq_some_iff.1 hbody
      exact ⟨rfl, fun _ _ h => h⟩
    · exact ⟨rfl, fun _ _ h => h⟩
  · rcases forThread_cases hstep with ⟨hk, hbody⟩ | ⟨hk, rfl⟩
    · obtain rfl := Option.some.inj hbody
      refine ⟨rfl, fun _ _ => ?_⟩
      split <;> exact fun h => h
    · exact ⟨rfl, fun _ _ h => h⟩
  · obtain rfl := Option.some.inj hstep
    exact ⟨rfl, fun _ _ h => h⟩
  · rcases forThread_cases hstep with ⟨hk, hbody⟩ | ⟨hk, rfl⟩
    · obtain rfl := Option.some.inj hbody
      exact ⟨rfl, fun _ _ h => h⟩
    · exact ⟨rfl, fun _ _ h => h⟩
  · cases hstep

/-- A packet for a thread is given. -/
theorem stepMain_update_cons {receivers : List (Fin n)} {list : UpdateList} {i : Fin n} {left : List (Fin n)}
    (hmain : s.main = .update list (i :: left)) : s.stepMain receivers =
      some { s with main := .update list left, dangling := s.dangling || (s.threads i).disposals ≠ 0 } := by
  unfold stepMain
  rw [hmain]
  cases list <;> rfl

/-- A thread has disposed of its systems only if it is to stop. -/
theorem Inv.isStop_of_disposals (h : s.Inv) {i : Fin n} (hne : (s.threads i).disposals ≠ 0) : s.isStop = true := by
  refine h.leaving i ?_
  rcases h.orderly.behind i hne with hplace | hplace
  · exact .inr (.inl hplace)
  · exact .inr (.inr hplace)

/-- No message system is deleted before the process is to stop. -/
theorem isStop_of_dangling {es : List (ServerEvent n)} (hrun : (system n).Run es s) (h : s.dangling = true) :
    s.isStop = true := by
  refine (hrun.invariant (p := fun s => s.Inv ∧ (s.dangling = true → s.isStop = true)) ?_ ?_).2 h
  · rintro s rfl
    exact ⟨inv_create n, fun hcreate => by cases hcreate⟩
  · rintro s e t ⟨hs, hdangling⟩ hstep
    refine ⟨hs.step hstep, fun ht => ?_⟩
    by_cases hstop : s.isStop = true
    · exact isStop_step hstep hstop
    have hnot : s.dangling = false := by
      by_contra hd
      exact hstop (hdangling (by simpa using hd))
    change s.step e = some t at hstep
    cases e with
    | signal =>
      obtain rfl := Option.some.inj hstep
      rfl
    | main receivers =>
      by_cases hgives : ∃ list i left, s.main = .update list (i :: left)
      · obtain ⟨list, i, left, hmain⟩ := hgives
        rw [ServerApp.step, stepMain_update_cons hmain] at hstep
        obtain rfl := Option.some.inj hstep
        simp only [hnot, Bool.false_or, decide_eq_true_eq] at ht
        exact hs.isStop_of_disposals ht
      · have hsame := (stepMain_dangling hstep fun list i left hmain => hgives ⟨list, i, left, hmain⟩).1
        rw [hsame, hnot] at ht
        cases ht
    | thread i =>
      obtain ⟨thread, -, rfl⟩ := Option.map_eq_some_iff.1 hstep
      exact absurd (hdangling ht) hstop

/-- A process that is to stop, and gives no packets, goes on calling no message system. -/
theorem Reaches.not_dangling (h : s.Reaches t) (hstop : s.isStop = true) (hnot : ¬ s.Dispatching)
    (hnone : s.dangling = false) : t.isStop = true ∧ ¬ t.Dispatching ∧ t.dangling = false := by
  induction h with
  | refl => exact ⟨hstop, hnot, hnone⟩
  | tail _ hstep ih =>
    obtain ⟨e, he⟩ := hstep
    obtain ⟨hstop, hnot, hnone⟩ := ih
    refine ⟨isStop_step he hstop, ?_⟩
    cases e with
    | signal =>
      obtain rfl := Option.some.inj he
      exact ⟨hnot, hnone⟩
    | main receivers =>
      obtain ⟨hsame, hnext⟩ := stepMain_dangling he fun _ _ _ hmain => hnot (dispatching_of_cons hmain)
      exact ⟨hnext hstop hnot, hsame.trans hnone⟩
    | thread i =>
      obtain ⟨thread, -, rfl⟩ := Option.map_eq_some_iff.1 he
      exact ⟨hnot, hnone⟩

/-- The thread that is next can dispose of its systems first. -/
theorem Inv.reaches_dangling (h : s.Inv) (hstop : s.isStop = true) {list : UpdateList} {i : Fin n}
    {left : List (Fin n)} (hmain : s.main = .update list (i :: left)) : ∃ t, s.Reaches t ∧ t.dangling = true := by
  generalize hrank : (s.threads i).rank = r
  induction r using Nat.strong_induction_on generalizing s with
  | _ r ih =>
    by_cases hgone : (s.threads i).disposals = 0
    · have hok := h.ok i
      have hallows := h.allows i
      rw [hmain] at hallows
      have hnot : (s.threads i).place ≠ .returned := by
        intro hplace
        simp only [ThreadObj.Ok, hplace] at hok
        omega
      obtain ⟨thread, hthread⟩ := step_isSome true hallows.1 hnot
      have hstep : s.step (.thread i) = some (s.setThread i thread) := by
        change ((s.threads i).step s.isStop).map (s.setThread i) = _
        rw [hstop, hthread]
        rfl
      have hlt : ((s.setThread i thread).threads i).rank < r := by
        rw [setThread_threads, if_pos rfl, ← hrank]
        exact rank_step hthread
      obtain ⟨t, ht, hdangling⟩ := ih _ hlt (h.step hstep) hstop hmain rfl
      exact ⟨t, .head ⟨_, hstep⟩ ht, hdangling⟩
    · refine ⟨_, .single ⟨.main [], stepMain_update_cons hmain⟩, ?_⟩
      simp [hgone]

/-- There may be a packet for a thread in a list that is to be swapped. -/
theorem Inv.reaches_dangling_swap (h : s.Inv) (hstop : s.isStop = true) (i : Fin n) {list : UpdateList}
    (hmain : s.main = .swap list) : ∃ t, s.Reaches t ∧ t.dangling = true := by
  have hstep : s.step (.main [i]) = some { s with main := .update list [i] } := by
    rw [ServerApp.step, stepMain, hmain]
  obtain ⟨t, ht, hdangling⟩ := (h.step hstep).reaches_dangling hstop rfl
  exact ⟨t, .head ⟨_, hstep⟩ ht, hdangling⟩

/-- **Who is giving packets** can call a message system that was deleted. -/
theorem Inv.reaches_of_dispatching (h : s.Inv) (hstop : s.isStop = true) (hdispatching : s.Dispatching) :
    ∃ t, s.Reaches t ∧ t.dangling = true := by
  rw [Dispatching] at hdispatching
  split at hdispatching <;> first | exact hdispatching.elim | skip
  · rename_i list hmain
    exact h.reaches_dangling_swap hstop ⟨0, hdispatching⟩ hmain
  · rename_i receivers hmain
    cases receivers with
    | nil =>
      have hstep : s.step (.main []) = some { s with main := .swap .packets } := by
        rw [ServerApp.step, stepMain, hmain]
      obtain ⟨t, ht, hdangling⟩ := (h.step hstep).reaches_dangling_swap hstop ⟨0, hdispatching⟩ rfl
      exact ⟨t, .head ⟨_, hstep⟩ ht, hdangling⟩
    | cons i left => exact h.reaches_dangling hstop hmain
  · rename_i receivers hmain
    cases receivers with
    | nil => exact absurd rfl hdispatching
    | cons i left => exact h.reaches_dangling hstop hmain

end ServerApp

/-- **When a deleted message system is called.**  Only when the process is to stop; and from then on it can come
to that exactly if the main thread is giving packets to threads, or has still to swap a list in its update. -/
theorem dangling_iff {n : ℕ} {es : List (ServerEvent n)} {s : ServerApp n}
    (hrun : (ServerApp.system n).Run es s) : (s.dangling = true → s.isStop = true) ∧
      (s.isStop = true → s.dangling = false → ((∃ t, s.Reaches t ∧ t.dangling = true) ↔ s.Dispatching)) := by
  refine ⟨ServerApp.isStop_of_dangling hrun, fun hstop hnone => ⟨?_, ?_⟩⟩
  · rintro ⟨t, ht, hdangling⟩
    by_contra hnot
    rw [(ht.not_dangling hstop hnot hnone).2.2] at hdangling
    cases hdangling
  · exact (ServerApp.inv_run hrun).reaches_of_dispatching hstop

/-- The second thread can stop while it is to get a packet. -/
theorem dangling_stopsInUpdate : ∃ s, (ServerApp.system 2).Run stopsInUpdate s ∧
    s.main = .update .packets [1] ∧ s.Dispatching ∧ ∃ t, s.Reaches t ∧ t.dangling = true := by
  have hexecute : (System.execute ServerApp.step (fun _ _ => True) (ServerApp.create 2) stopsInUpdate).map
      (fun s => (s.main, s.isStop, s.dangling)) = some (.update .packets [1], true, false) := by decide +kernel
  obtain ⟨s, hs, hfacts⟩ := Option.map_eq_some_iff.1 hexecute
  obtain ⟨hmain, hflags⟩ := Prod.mk.inj hfacts
  obtain ⟨hstop, hnone⟩ := Prod.mk.inj hflags
  have hrun : (ServerApp.system 2).Run stopsInUpdate s := System.run_of_execute_true rfl hs
  have hdispatching : s.Dispatching := ServerApp.dispatching_of_cons hmain
  exact ⟨s, hrun, hmain, hdispatching, ((dangling_iff hrun).2 hstop hnone).2 hdispatching⟩

end MmoServer
