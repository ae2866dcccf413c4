/-
**Every thread in its turn.**

A collector has its threads in a map, by their serial numbers, and the number of the thread that is next.  If
there is no such thread, the first one is.  The two functions that give a message to one thread only move on in
the same way: to the thread behind it in the map, and from the last one to the first one.  So as many messages
as there are threads go to every thread once, wherever the turn begins, and messages to all threads do not
count.

Main definitions:

* `MmoServer.Collector.handlerCreateMessage`, `MmoServer.Collector.handlerMessage` — the two functions;
* `MmoServer.Collector.single` — the threads that got the messages which were for one of them.

Main results:

* `MmoServer.Collector.single_eq` — **whose turn it was**, by the number of the message;
* `MmoServer.round_robin` — **every thread once** in as many messages as there are threads.
-/

import Mathlib.Data.List.Perm.Subperm
import MmoServer.RoundRobin

set_option relaxedAutoImplicit false
set_option autoImplicit false

namespace MmoServer

/-! ### The messages of a collector -/

/-- A message for one of the threads, or for all of them. -/
inductive CollectorMessage
  /-- To `HandlerCreateMessage`. -/
  | create (isToAllThread : Bool)
  /-- To `HandlerMessage`; `MI_CmdThread` is for every thread. -/
  | handle (isCmd : Bool)
  deriving DecidableEq

namespace Collector

variable (c : Collector)

/-- `ThreadCollector::HandlerCreateMessage`: the threads that get the message, and `_nextThreadSn`. -/
def handlerCreateMessage (isToAllThread : Bool) (nextThreadSn : ℕ) : List ℕ × ℕ :=
  if isToAllThread then (c.threads, nextThreadSn)
  else ([c.pick nextThreadSn], c.following (c.pick nextThreadSn))

/-- `HandlerMessage`, of a `ThreadCollector` or a `ThreadCollectorExclusive`. -/
def handlerMessage (isCmd : Bool) (nextThreadSn : ℕ) : List ℕ × ℕ :=
  if c.exclusive then
    if isCmd then c.handlerCreateMessage true nextThreadSn
    else ([c.pick nextThreadSn], c.following (c.pick nextThreadSn))
  else (c.threads, nextThreadSn)

/-- The dispatch of packets does the same. -/
theorem handlerMessage_eq (isCmd : Bool) (nextThreadSn : ℕ) :
    c.handlerMessage isCmd nextThreadSn = (c.targets isCmd nextThreadSn, c.advance isCmd nextThreadSn) := by
  unfold handlerMessage handlerCreateMessage targets advance
  cases c.exclusive <;> cases isCmd <;> rfl

/-- One message. -/
def handle (nextThreadSn : ℕ) : CollectorMessage → List ℕ × ℕ
  | .create isToAllThread => c.handlerCreateMessage isToAllThread nextThreadSn
  | .handle isCmd => c.handlerMessage isCmd nextThreadSn

/-- The message is for one thread. -/
def IsSingle : CollectorMessage → Bool
  | .create isToAllThread => !isToAllThread
  | .handle isCmd => c.exclusive && !isCmd

/-- The threads that get the messages for one thread, in the order of the messages. -/
def single (nextThreadSn : ℕ) : List CollectorMessage → List ℕ
  | [] => []
  | msg :: msgs =>
    let handled := c.handle nextThreadSn msg
    (if c.IsSingle msg then handled.1 else []) ++ single handled.2 msgs

variable {c}

theorem handle_of_single {msg : CollectorMessage} (h : c.IsSingle msg = true) (nextThreadSn : ℕ) :
    c.handle nextThreadSn msg = ([c.pick nextThreadSn], c.following (c.pick nextThreadSn)) := by
  cases msg with
  | create isToAllThread =>
    obtain rfl : isToAllThread = false := by simpa [IsSingle] using h
    rfl
  | handle isCmd =>
    obtain ⟨hexclusive, rfl⟩ : c.exclusive = true ∧ isCmd = false := by simpa [IsSingle] using h
    simp [handle, handlerMessage, hexclusive]

/-- A message to all threads takes no turn. -/
theorem handle_of_not_single {msg : CollectorMessage} (h : c.IsSingle msg = false) (nextThreadSn : ℕ) :
    c.handle nextThreadSn msg = (c.threads, nextThreadSn) := by
  cases msg with
  | create isToAllThread =>
    obtain rfl : isToAllThread = true := by simpa [IsSingle] using h
    rfl
  | handle isCmd =>
    cases hexclusive : c.exclusive with
    | false => simp [handle, handlerMessage, hexclusive]
    | true =>
      obtain rfl : isCmd = true := by simpa [IsSingle, hexclusive] using h
      simp [handle, handlerMessage, handlerCreateMessage, hexclusive]

/-- **Whose turn it was.** -/
theorem single_eq (nextThreadSn : ℕ) (msgs : List CollectorMessage) :
    c.single nextThreadSn msgs =
      (List.range (msgs.countP c.IsSingle)).map (c.turnFrom nextThreadSn) := by
  induction msgs generalizing nextThreadSn with
  | nil => rfl
  | cons msg msgs ih =>
    rw [single]
    cases hsingle : c.IsSingle msg with
    | false =>
      rw [handle_of_not_single hsingle, List.countP_cons_of_neg (by simp [hsingle])]
      exact ih nextThreadSn
    | true =>
      have hrest := ih (c.following (c.pick nextThreadSn))
      rw [handle_of_single hsingle, List.countP_cons_of_pos hsingle, List.range_succ_eq_map]
      dsimp only
      rw [hrest, if_pos rfl, List.map_cons, List.map_map]
      refine congrArg (c.pick nextThreadSn :: ·) (List.map_congr_left fun n _ => ?_)
      exact c.turnFrom_following nextThreadSn n

/-- **Messages to all threads** do not count. -/
theorem single_filter (nextThreadSn : ℕ) (msgs : List CollectorMessage) :
    c.single nextThreadSn (msgs.filter c.IsSingle) = c.single nextThreadSn msgs := by
  rw [single_eq, single_eq, List.countP_filter]
  simp

/-- **Each message for one thread** goes to one. -/
theorem length_single (nextThreadSn : ℕ) (msgs : List CollectorMessage) :
    (c.single nextThreadSn msgs).length = msgs.countP c.IsSingle := by
  rw [single_eq, List.length_map, List.length_range]

/-- Consecutive turns, from any one on. -/
theorem take_drop_single {nextThreadSn i n : ℕ} {msgs : List CollectorMessage}
    (h : i + n ≤ msgs.countP c.IsSingle) :
    ((c.single nextThreadSn msgs).drop i).take n = (List.range' i n).map (c.turnFrom nextThreadSn) := by
  rw [single_eq, ← List.map_drop, ← List.map_take, List.range_eq_range', List.drop_range',
    List.take_range'_of_length_ge (by omega)]
  simp

/-- As many turns as there are threads are those of different threads. -/
theorem nodup_map_turnFrom (hnodup : c.threads.Nodup) (nextThreadSn i : ℕ) :
    ((List.range' i c.threads.length).map (c.turnFrom nextThreadSn)).Nodup := by
  refine List.Nodup.map_on (fun a ha b hb heq => ?_) List.nodup_range'
  rw [List.mem_range'_1] at ha hb
  obtain ⟨a, rfl⟩ := Nat.exists_eq_add_of_le ha.1
  obtain ⟨b, rfl⟩ := Nat.exists_eq_add_of_le hb.1
  have hmod : a ≡ b [MOD c.threads.length] :=
    Nat.ModEq.add_left_cancel' i ((turnFrom_eq_iff hnodup nextThreadSn (i + a) (i + b)).1 heq)
  rw [hmod.eq_of_lt_of_lt (by omega) (by omega)]

/-- **Every thread once** in as many consecutive turns as there are threads. -/
theorem perm_map_turnFrom (hnodup : c.threads.Nodup) (nextThreadSn i : ℕ) :
    ((List.range' i c.threads.length).map (c.turnFrom nextThreadSn)).Perm c.threads := by
  refine ((nodup_map_turnFrom hnodup nextThreadSn i).subperm fun sn hsn => ?_).perm_of_length_le ?_
  · obtain ⟨n, -, rfl⟩ := List.mem_map.1 hsn
    exact c.turnFrom_mem nextThreadSn n
  · simp

end Collector

/-! ### Threads in a map -/

/-- A collector with its threads in a map. -/
def Collector.ofMap {Thread : Type} (exclusive : Bool) (objs : Std.ExtTreeMap UInt64 Thread)
    (hne : objs.isEmpty = false) : Collector where
  exclusive := exclusive
  threads := objs.keys.map UInt64.toNat
  nonempty := by
    intro hnil
    have hkeys : objs.keys.isEmpty = true := by simpa using hnil
    rw [Std.ExtTreeMap.isEmpty_keys, hne] at hkeys
    cases hkeys

section

variable {Thread : Type} {objs : Std.ExtTreeMap UInt64 Thread}

theorem Collector.ofMap_nodup (exclusive : Bool) (hne : objs.isEmpty = false) :
    (Collector.ofMap exclusive objs hne).threads.Nodup :=
  objs.nodup_keys.map fun _ _ => UInt64.toNat_inj.1

theorem Collector.ofMap_length (exclusive : Bool) (hne : objs.isEmpty = false) :
    (Collector.ofMap exclusive objs hne).threads.length = objs.size := by
  simp [Collector.ofMap]

/-- **Round robin**: for any threads, any `_nextThreadSn`, and any messages through the two functions, each message
for one thread goes to one, as many consecutive messages for one thread as there are threads go to different ones,
so to every thread once, and it makes no difference which messages for all threads are between them. -/
theorem round_robin (exclusive : Bool) (hne : objs.isEmpty = false) (nextThreadSn : UInt64)
    (msgs : List CollectorMessage) :
    ((Collector.ofMap exclusive objs hne).single nextThreadSn.toNat msgs).length =
      msgs.countP (Collector.ofMap exclusive objs hne).IsSingle ∧
    (∀ i, i + objs.size ≤ msgs.countP (Collector.ofMap exclusive objs hne).IsSingle →
      ((((Collector.ofMap exclusive objs hne).single nextThreadSn.toNat msgs).drop i).take
          objs.size).Nodup ∧
        ((((Collector.ofMap exclusive objs hne).single nextThreadSn.toNat msgs).drop i).take
          objs.size).Perm (objs.keys.map UInt64.toNat)) ∧
    (Collector.ofMap exclusive objs hne).single nextThreadSn.toNat
        (msgs.filter (Collector.ofMap exclusive objs hne).IsSingle) =
      (Collector.ofMap exclusive objs hne).single nextThreadSn.toNat msgs := by
  have hnodup := Collector.ofMap_nodup exclusive hne
  have hlength := Collector.ofMap_length exclusive hne
  refine ⟨Collector.length_single nextThreadSn.toNat msgs, fun i hi => ?_,
    Collector.single_filter nextThreadSn.toNat msgs⟩
  rw [Collector.take_drop_single hi, ← hlength]
  exact ⟨Collector.nodup_map_turnFrom hnodup nextThreadSn.toNat i,
    Collector.perm_map_turnFrom hnodup nextThreadSn.toNat i⟩

end

/-- Two threads. -/
def twoThreads : Std.ExtTreeMap UInt64 Unit := (∅ : Std.ExtTreeMap UInt64 Unit).insert 5 () |>.insert 9 ()

theorem twoThreads_isEmpty : twoThreads.isEmpty = false := by decide

/-- A number that is not that of a thread, and a message to all threads in between: both threads get one of
the two other messages. -/
theorem round_robin_two :
    ((Collector.ofMap true twoThreads twoThreads_isEmpty).single 100
      [.create false, .handle true, .handle false]).Perm [5, 9] := by
  have hsize : twoThreads.size = 2 := by decide
  have hkeys : twoThreads.keys.map UInt64.toNat = [5, 9] := by decide
  obtain ⟨hlength, hwindow, -⟩ := round_robin true twoThreads_isEmpty 100
    [.create false, .handle true, .handle false]
  have hperm := (hwindow 0 (by rw [hsize]; decide)).2
  replace hlength := hlength.trans (show _ = 2 by decide)
  rw [hsize, List.drop_zero, List.take_of_length_le (Nat.le_of_eq hlength), hkeys] at hperm
  exact hperm

end MmoServer
