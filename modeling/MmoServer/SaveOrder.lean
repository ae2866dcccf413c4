/-
**In which order players are saved.**

The threads of the exclusive collector have a connection to MySQL each, and execute the requests that
they get.  A thread executes its requests in the order of dispatch; those of different threads are
executed in any order.  Which thread a request goes to depends on how many packets were dispatched
before it, not on the player that it is about.  So two saves of a player may be executed the other
way round, unless they go to the same thread, or the second one is dispatched when the first one has
been executed.

Main definitions:

* `MmoServer.DispatchState.effects` — the requests in the order in which they were executed;
* `MmoServer.DispatchState.Awaits` — requests about a player that go to different threads wait for
  each other;
* `MmoServer.PlayerOrder` — the invariant;
* `MmoServer.SaveOrdered` — the requests about a player are executed in the order of dispatch.

Main results:

* `MmoServer.PlayerOrder.first_executed` — **a request that is executed** is the first one that was
  not;
* `MmoServer.saveOrdered_run` — the requests about a player **that wait for each other** are executed
  in the order of dispatch;
* `MmoServer.not_saveOrdered_two` — with two threads, a later save may be undone.
-/

import MmoServer.PlayerTable
import MmoServer.RoundRobin

set_option relaxedAutoImplicit false
set_option autoImplicit false

namespace MmoServer

/-! ### Lists -/

/-- Where an element stands only once, the parts before and behind it are known. -/
theorem prefix_cons_split {α : Type} {x : α} {A B C D : List α} (h : A ++ x :: B <+: C ++ x :: D)
    (hnodup : (C ++ x :: D).Nodup) : A = C ∧ B <+: D := by
  induction A generalizing C with
  | nil =>
    cases C with
    | nil => exact ⟨rfl, (List.cons_prefix_cons.1 h).2⟩
    | cons c C =>
      obtain ⟨rfl, -⟩ := List.cons_prefix_cons.1 h
      exact absurd (by simp) (List.nodup_cons.1 hnodup).1
  | cons a A ih =>
    cases C with
    | nil =>
      obtain ⟨rfl, htail⟩ := List.cons_prefix_cons.1 h
      exact absurd (htail.subset (by simp)) (List.nodup_cons.1 hnodup).1
    | cons c C =>
      obtain ⟨rfl, htail⟩ := List.cons_prefix_cons.1 h
      obtain ⟨rfl, hB⟩ := ih htail (List.nodup_cons.1 hnodup).2
      exact ⟨rfl, hB⟩

/-! ### The order of the requests -/

namespace DispatchState

/-- The packets that the threads of a collector have handled, in their order. -/
def executed {μ : Type} (c : Collector) (s : DispatchState μ) : List ℕ :=
  (s.log.filter fun e => e.1 ∈ c.threads).map fun e => e.2.1

variable {Base Knap Misc : Type}

/-- A packet with its request. -/
def request (s : DispatchState (DbRequest Base Knap Misc)) (sn : ℕ) :
    Option (ℕ × DbRequest Base Knap Misc) := (s.messages sn).map fun r => (sn, r)

/-- The requests in the order of dispatch. -/
def requests (s : DispatchState (DbRequest Base Knap Misc)) : List (ℕ × DbRequest Base Knap Misc) :=
  s.dispatched.filterMap s.request

/-- The requests in the order in which the threads of a collector have executed them. -/
def effects (c : Collector) (s : DispatchState (DbRequest Base Knap Misc)) :
    List (ℕ × DbRequest Base Knap Misc) := (s.log.filter fun e => e.1 ∈ c.threads).map Prod.snd

/-- A packet is about a player. -/
def isAbout (s : DispatchState (DbRequest Base Knap Misc)) (p : UInt64) (sn : ℕ) : Bool :=
  (s.messages sn).any fun r => r.about = some p

theorem isAbout_iff {s : DispatchState (DbRequest Base Knap Misc)} {p : UInt64} {sn : ℕ} :
    s.isAbout p sn = true ↔ ∃ r, s.messages sn = some r ∧ r.about = some p := by
  simp [isAbout, Option.any_eq_true]

/-- **Requests about a player that go to different threads wait for each other**: one is dispatched
only when those before it were executed, or take the turn of the same thread. -/
def Awaits (c : Collector) (p : UInt64) (s : DispatchState (DbRequest Base Knap Misc)) :
    DispatchEvent (DbRequest Base Knap Misc) → Prop
  | .dispatchPacket sn => s.isAbout p sn = true → ∀ a ∈ s.dispatched, s.isAbout p a = true →
      a ∈ s.executed c ∨ s.ordinal DbRequest.isCmd a % c.threads.length =
        s.ordinary DbRequest.isCmd s.dispatched % c.threads.length
  | _ => True

instance (c : Collector) (p : UInt64) (s : DispatchState (DbRequest Base Knap Misc))
    (e : DispatchEvent (DbRequest Base Knap Misc)) : Decidable (s.Awaits c p e) := by
  unfold Awaits
  cases e <;> infer_instance

theorem isAbout_congr {s v : DispatchState (DbRequest Base Knap Misc)} {p : UInt64} {sn : ℕ}
    (h : v.messages sn = s.messages sn) : v.isAbout p sn = s.isAbout p sn := by
  unfold isAbout
  rw [h]

theorem isAbout_eq {s v : DispatchState (DbRequest Base Knap Misc)}
    (h : v.messages = s.messages) (p : UInt64) : v.isAbout p = s.isAbout p :=
  funext fun _ => isAbout_congr (by rw [h])

/-- A request about a player takes a turn. -/
theorem exists_of_isAbout {s : DispatchState (DbRequest Base Knap Misc)} {p : UInt64} {sn : ℕ}
    (h : s.isAbout p sn = true) :
    ∃ msg, s.messages sn = some msg ∧ DbRequest.isCmd msg = false := by
  obtain ⟨msg, hmsg, habout⟩ := isAbout_iff.1 h
  exact ⟨msg, hmsg, DbRequest.isCmd_of_about habout⟩

/-- The requests about a player are those of the packets about it. -/
theorem filter_filterMap_request (s : DispatchState (DbRequest Base Knap Misc)) (p : UInt64)
    (l : List ℕ) : ((l.filterMap s.request).filter fun e => e.2.about = some p) =
      (l.filter (s.isAbout p)).filterMap s.request := by
  rw [List.filter_filterMap, List.filterMap_filter]
  refine List.filterMap_congr fun sn _ => ?_
  unfold request isAbout
  cases s.messages sn with
  | none => rfl
  | some r => simp [Option.filter]

end DispatchState

/-- **The requests about a player** are executed in the order of dispatch: the last save is stored,
and a query reads it. -/
structure SaveOrdered {Db Base Knap Misc : Type} (table : PlayerTable Db) (baseCodec : Codec Base)
    (knapCodec : Codec Knap) (miscCodec : Codec Misc) (stmtSave : DatabaseStmt) (db : Db)
    (c : Collector) (p : UInt64) (s : DispatchState (DbRequest Base Knap Misc)) : Prop where
  order : ((s.effects c).filter fun e => e.2.about = some p) <+:
    s.requests.filter fun e => e.2.about = some p
  /-- The last save, when it was executed, is stored. -/
  stored : ∀ l sn player l', s.requests = l ++ (sn, .savePlayer player) :: l' → player.sn = p →
    (∀ e ∈ l', e.2.writes ≠ some p) → (sn, .savePlayer player) ∈ s.effects c →
      Stored table baseCodec knapCodec miscCodec
        (handleRequests table baseCodec knapCodec miscCodec stmtSave db (s.effects c)).db player
  /-- A query that was dispatched behind a save, when it is answered, is answered from a database
  where that save is stored. -/
  answered : ∀ l sn player l' sn' l'',
    s.requests = l ++ (sn, .savePlayer player) :: l' ++ (sn', .queryPlayer p) :: l'' →
      player.sn = p → (∀ e ∈ l', e.2.writes ≠ some p) → ∀ r,
        (sn', r) ∈
          (handleRequests table baseCodec knapCodec miscCodec stmtSave db (s.effects c)).replies →
          ∃ db', Stored table baseCodec knapCodec miscCodec db' player ∧
            ((table.selectPlayer db p).isSome = true → (table.selectPlayer db' p).isSome = true) ∧
            r = handleQueryPlayer table.toMysql baseCodec knapCodec miscCodec db' p
  /-- A query that was executed is answered. -/
  replied : ∀ sn, (sn, .queryPlayer p) ∈ s.effects c → ∃ r,
    (sn, r) ∈
      (handleRequests table baseCodec knapCodec miscCodec stmtSave db (s.effects c)).replies
  /-- The player stays in the table. -/
  kept : (table.selectPlayer db p).isSome = true → (table.selectPlayer
    (handleRequests table baseCodec knapCodec miscCodec stmtSave db (s.effects c)).db p).isSome = true

/-- The requests about a player that were executed are the first of those that were dispatched, and
the others take the turn of the same thread. -/
structure PlayerOrder {Base Knap Misc : Type} (c : Collector) (p : UInt64)
    (s : DispatchState (DbRequest Base Knap Misc)) : Prop where
  order : (s.executed c).filter (s.isAbout p) <+: s.dispatched.filter (s.isAbout p)
  same : ∀ a ∈ s.dispatched, ∀ b ∈ s.dispatched, s.isAbout p a = true → s.isAbout p b = true →
    a ∉ s.executed c → b ∉ s.executed c → s.ordinal DbRequest.isCmd a % c.threads.length =
      s.ordinal DbRequest.isCmd b % c.threads.length

section

variable {Base Knap Misc : Type} {ths : Threads} {c : Collector} {p : UInt64}
  {s v : DispatchState (DbRequest Base Knap Misc)} {opened : List ℕ}

/-- What was executed was dispatched. -/
theorem executed_subset (hdispatch : DispatchInv ths DbRequest.isCmd s opened) :
    s.executed c ⊆ s.dispatched := by
  intro sn hsn
  obtain ⟨e, he, rfl⟩ := List.mem_map.1 hsn
  exact (hdispatch.handed_sublist e.1).subset (List.mem_append_left _
    (List.mem_filterMap.2 ⟨e, List.mem_of_mem_filter he, if_pos rfl⟩))

/-- A step that dispatches and handles nothing keeps the order. -/
theorem PlayerOrder.of_same (h : PlayerOrder c p s)
    (hdispatch : DispatchInv ths DbRequest.isCmd s opened) (hdispatched : v.dispatched = s.dispatched)
    (hexecuted : v.executed c = s.executed c)
    (hmessages : ∀ sn ∈ s.dispatched, v.messages sn = s.messages sn) : PlayerOrder c p v := by
  have habout : ∀ sn ∈ s.dispatched, v.isAbout p sn = s.isAbout p sn := fun sn hsn =>
    DispatchState.isAbout_congr (hmessages sn hsn)
  have hordinal : ∀ a ∈ s.dispatched, v.ordinal DbRequest.isCmd a = s.ordinal DbRequest.isCmd a :=
    fun a ha => DispatchState.ordinal_congr hdispatched hmessages ha
  constructor
  · rw [hexecuted, hdispatched, List.filter_congr habout,
      List.filter_congr fun sn hsn => habout sn (executed_subset hdispatch hsn)]
    exact h.order
  · rw [hexecuted, hdispatched]
    intro a ha b hb hpa hpb
    rw [habout a ha] at hpa
    rw [habout b hb] at hpb
    rw [hordinal a ha, hordinal b hb]
    exact h.same a ha b hb hpa hpb

/-- **A request is dispatched** behind those before it. -/
theorem PlayerOrder.dispatchPacket (h : PlayerOrder c p s) {sn : ℕ} (hnew : sn ∉ s.dispatched)
    (hdispatched : v.dispatched = s.dispatched ++ [sn]) (hlog : v.log = s.log)
    (hmessages : v.messages = s.messages) (hawaits : s.Awaits c p (.dispatchPacket sn)) :
    PlayerOrder c p v := by
  have hexecuted : v.executed c = s.executed c := by
    unfold DispatchState.executed
    rw [hlog]
  have habout : v.isAbout p = s.isAbout p := DispatchState.isAbout_eq hmessages p
  have hordinal : ∀ a ∈ s.dispatched, v.ordinal DbRequest.isCmd a = s.ordinal DbRequest.isCmd a :=
    fun a ha => DispatchState.ordinal_append hdispatched (fun _ _ => by rw [hmessages]) ha
  have hlast : v.ordinal DbRequest.isCmd sn = s.ordinary DbRequest.isCmd s.dispatched := by
    have hnot : ∀ a ∈ s.dispatched, a ≠ sn := fun a ha heq => hnew (heq ▸ ha)
    unfold DispatchState.ordinal
    rw [hdispatched, List.takeWhile_append_of_pos (by simpa using hnot)]
    simpa using DispatchState.ordinary_congr fun _ _ => by rw [hmessages]
  constructor
  · rw [hexecuted, hdispatched, habout, List.filter_append]
    exact h.order.trans (List.prefix_append _ _)
  · -- the new request waits for the others
    have hwaits : ∀ a ∈ s.dispatched, s.isAbout p a = true → s.isAbout p sn = true →
        a ∉ s.executed c → v.ordinal DbRequest.isCmd a % c.threads.length =
          v.ordinal DbRequest.isCmd sn % c.threads.length := by
      intro a ha hpa hpsn hwaiting
      rw [hordinal a ha, hlast]
      exact (hawaits hpsn a ha hpa).resolve_left hwaiting
    rw [hexecuted, hdispatched, habout]
    intro a ha b hb hpa hpb hwa hwb
    rcases List.mem_append.1 ha with haold | halast
    · rcases List.mem_append.1 hb with hbold | hblast
      · rw [hordinal a haold, hordinal b hbold]
        exact h.same a haold b hbold hpa hpb hwa hwb
      · rw [List.mem_singleton.1 hblast] at hpb ⊢
        exact hwaits a haold hpa hpb hwa
    · rw [List.mem_singleton.1 halast] at hpa ⊢
      rcases List.mem_append.1 hb with hbold | hblast
      · exact (hwaits b hbold hpb hpa hwb).symm
      · rw [List.mem_singleton.1 hblast]

/-- A packet is about to be handled by one thread of the collector only. -/
theorem not_mem_executed {es : List (DispatchEvent (DbRequest Base Knap Misc))}
    (hrun : (dispatchSystem ths DbRequest.isCmd).Run es v) (hc : c ∈ ths.collectors)
    (hexclusive : c.exclusive = true) {t sn : ℕ} {r : DbRequest Base Knap Misc} (ht : t ∈ c.threads)
    (hlog : v.log = s.log ++ [(t, sn, r)]) (hcmd : r.isCmd = false) : sn ∉ s.executed c := by
  obtain ⟨opened, hdispatch⟩ := DispatchInv.run hrun
  have hprocessed : v.processed t = s.processed t ++ [sn] := by
    simp [DispatchState.processed, hlog]
  have hmsg : v.messages sn = some r := hdispatch.logged (t, sn, r) (by simp [hlog])
  have hturn : ∀ e ∈ v.log, e.1 ∈ c.threads → e.2.1 = sn →
      e.1 = c.turn (v.ordinal DbRequest.isCmd sn) := by
    rintro e he hthread rfl
    exact eq_turn_of_mem_handed hrun hc hexclusive hthread (List.mem_append_left _
      (List.mem_filterMap.2 ⟨e, he, if_pos rfl⟩)) hmsg hcmd
  intro hmem
  obtain ⟨e, he, hsn⟩ := List.mem_map.1 hmem
  obtain ⟨helog, hthread⟩ := List.mem_filter.1 he
  have hthread := hturn e (by simp [hlog, helog]) (of_decide_eq_true hthread) hsn
  have hsame : e.1 = t := hthread.trans (hturn (t, sn, r) (by simp [hlog]) ht rfl).symm
  -- the thread would have handled it twice
  have htwice : sn ∈ s.processed t := List.mem_filterMap.2 ⟨e, helog, by rw [if_pos hsame, hsn]⟩
  have hnodup : (v.processed t).Nodup := (hdispatch.handed_nodup t).sublist
    (List.sublist_append_left _ _)
  rw [hprocessed] at hnodup
  exact (List.nodup_append.1 hnodup).2.2 sn htwice sn (List.mem_singleton_self _) rfl

/-- **A request for the same thread** that was dispatched before one that is executed was executed
already. -/
theorem mem_executed_of_before {es : List (DispatchEvent (DbRequest Base Knap Misc))}
    (hrun : (dispatchSystem ths DbRequest.isCmd).Run es v) (hc : c ∈ ths.collectors)
    (hexclusive : c.exclusive = true) {t sn : ℕ} {r : DbRequest Base Knap Misc}
    (hdispatched : v.dispatched = s.dispatched) (hlog : v.log = s.log ++ [(t, sn, r)])
    (hmessages : v.messages = s.messages) (ht : t ∈ c.threads) {a : ℕ} {A B C : List ℕ}
    (hlist : s.dispatched.filter (s.isAbout p) = A ++ a :: B ++ sn :: C)
    (hsame : s.ordinal DbRequest.isCmd a % c.threads.length =
      s.ordinal DbRequest.isCmd sn % c.threads.length) : a ∈ s.executed c := by
  obtain ⟨opened, hdispatch⟩ := DispatchInv.run hrun
  have hprocessed : v.processed t = s.processed t ++ [sn] := by
    simp [DispatchState.processed, hlog]
  have hordinal : ∀ a ∈ s.dispatched, v.ordinal DbRequest.isCmd a = s.ordinal DbRequest.isCmd a :=
    fun a ha => DispatchState.ordinal_congr hdispatched (fun _ _ => by rw [hmessages]) ha
  obtain ⟨hsn, hp⟩ : sn ∈ s.dispatched ∧ s.isAbout p sn = true :=
    List.mem_filter.1 (by simp [hlist])
  have htake : ∀ {b : ℕ}, s.isAbout p b = true →
      ∃ msg, v.messages b = some msg ∧ DbRequest.isCmd msg = false := by
    intro b hb
    rw [hmessages]
    exact DispatchState.exists_of_isAbout hb
  obtain ⟨msg, hmsg, hcmd⟩ := htake hp
  have hhanded : sn ∈ v.handed t := List.mem_append_left _ (by simp [hprocessed])
  have hturn := eq_turn_of_mem_handed hrun hc hexclusive ht hhanded hmsg hcmd
  -- the thread has handled the first ones of its requests
  let q : ℕ → Bool := fun b => decide (s.ordinal DbRequest.isCmd b % c.threads.length =
    s.ordinal DbRequest.isCmd sn % c.threads.length)
  have hfirst := prefix_filter_processed hrun hc hexclusive (t := t)
    (q := fun b => q b && s.isAbout p b) (by
      intro b hb hboth
      obtain ⟨hqb, hpb⟩ := Bool.and_eq_true_iff.1 hboth
      refine ⟨htake hpb, ?_⟩
      rw [hturn, Collector.turn_eq_iff (ths.nodup_threads hc), hordinal b (hdispatched ▸ hb),
        hordinal sn hsn]
      exact of_decide_eq_true hqb)
  have hqsn : q sn = true := decide_eq_true rfl
  have hqa : q a = true := decide_eq_true hsame
  have hnodup : ((s.dispatched.filter (s.isAbout p)).filter q).Nodup :=
    ((hdispatched ▸ hdispatch.nodup).filter _).filter _
  rw [hdispatched, hprocessed, ← List.filter_filter, ← List.filter_filter, hlist] at hfirst
  rw [hlist] at hnodup
  simp only [List.filter_append, List.filter_cons_of_pos hqa, List.filter_cons_of_pos hqsn,
    List.filter_cons_of_pos hp, List.filter_nil] at hfirst hnodup
  have hbefore := (prefix_cons_split hfirst hnodup).1
  have hmem : a ∈ ((s.processed t).filter (s.isAbout p)).filter q := by
    rw [hbefore]
    simp
  obtain ⟨e, he, hsome⟩ :=
    List.mem_filterMap.1 (List.mem_of_mem_filter (List.mem_of_mem_filter hmem))
  obtain ⟨het, hea⟩ := Option.ite_none_right_eq_some.1 hsome
  exact List.mem_map.2
    ⟨e, List.mem_filter.2 ⟨he, decide_eq_true (het ▸ ht)⟩, Option.some.inj hea⟩

/-- **A request that is executed** is the first one that was not. -/
theorem PlayerOrder.first_executed (h : PlayerOrder c p s)
    {es : List (DispatchEvent (DbRequest Base Knap Misc))}
    (hrun : (dispatchSystem ths DbRequest.isCmd).Run es v) (hc : c ∈ ths.collectors)
    (hexclusive : c.exclusive = true) {t sn : ℕ} {r : DbRequest Base Knap Misc}
    (hdispatched : v.dispatched = s.dispatched) (hlog : v.log = s.log ++ [(t, sn, r)])
    (hmessages : v.messages = s.messages) (ht : t ∈ c.threads) (hp : s.isAbout p sn = true) :
    (s.executed c).filter (s.isAbout p) ++ [sn] <+: s.dispatched.filter (s.isAbout p) := by
  obtain ⟨opened, hdispatch⟩ := DispatchInv.run hrun
  have hhanded : sn ∈ v.handed t :=
    List.mem_append_left _ (by simp [DispatchState.processed, hlog])
  have hsn : sn ∈ s.dispatched := hdispatched ▸ (hdispatch.handed_sublist t).subset hhanded
  obtain ⟨msg, hmsg, hcmd⟩ := DispatchState.exists_of_isAbout hp
  have hlogged : v.messages sn = some r := hdispatch.logged (t, sn, r) (by simp [hlog])
  obtain rfl : r = msg := Option.some.inj (hlogged.symm.trans (by rw [hmessages, hmsg]))
  have hnew := not_mem_executed hrun hc hexclusive ht hlog hcmd
  obtain ⟨R, hR⟩ := h.order
  have hsnR : sn ∈ R := by
    have hmem : sn ∈ s.dispatched.filter (s.isAbout p) := List.mem_filter.2 ⟨hsn, hp⟩
    rw [← hR] at hmem
    exact (List.mem_append.1 hmem).resolve_left fun hX => hnew (List.mem_of_mem_filter hX)
  have hnodup : (s.dispatched.filter (s.isAbout p)).Nodup := (hdispatched ▸ hdispatch.nodup).filter _
  cases R with
  | nil => cases hsnR
  | cons a R =>
    by_cases ha : a = sn
    · subst ha
      rw [← hR]
      exact ⟨R, by simp⟩
    · -- another request would be first; its turn is that of the same thread
      exfalso
      obtain ⟨B, C, rfl⟩ := List.append_of_mem ((List.mem_cons.1 hsnR).resolve_left (Ne.symm ha))
      have hlist : s.dispatched.filter (s.isAbout p) =
          (s.executed c).filter (s.isAbout p) ++ a :: B ++ sn :: C := by
        rw [← hR]
        simp
      obtain ⟨had, hap⟩ : a ∈ s.dispatched ∧ s.isAbout p a = true :=
        List.mem_filter.1 (by simp [hlist])
      have hnot : a ∉ s.executed c := by
        intro hexecuted
        rw [← hR] at hnodup
        exact (List.nodup_append.1 hnodup).2.2 a (List.mem_filter.2 ⟨hexecuted, hap⟩) a (by simp) rfl
      exact hnot (mem_executed_of_before hrun hc hexclusive hdispatched hlog hmessages ht hlist
        (h.same a had sn hsn hap hp hnot hnew))

/-- **A request is executed** behind those before it. -/
theorem PlayerOrder.processPacket (h : PlayerOrder c p s)
    {es : List (DispatchEvent (DbRequest Base Knap Misc))}
    (hrun : (dispatchSystem ths DbRequest.isCmd).Run es v) (hc : c ∈ ths.collectors)
    (hexclusive : c.exclusive = true) {t sn : ℕ} {r : DbRequest Base Knap Misc}
    (hdispatched : v.dispatched = s.dispatched) (hlog : v.log = s.log ++ [(t, sn, r)])
    (hmessages : v.messages = s.messages) (ht : t ∈ c.threads) : PlayerOrder c p v := by
  have hexecuted : v.executed c = s.executed c ++ [sn] := by
    simp [DispatchState.executed, hlog, ht]
  have habout : v.isAbout p = s.isAbout p := DispatchState.isAbout_eq hmessages p
  have hordinal : ∀ a ∈ s.dispatched, v.ordinal DbRequest.isCmd a = s.ordinal DbRequest.isCmd a :=
    fun a ha => DispatchState.ordinal_congr hdispatched (fun _ _ => by rw [hmessages]) ha
  constructor
  · rw [hexecuted, hdispatched, habout, List.filter_append]
    by_cases hp : s.isAbout p sn = true
    · rw [List.filter_cons_of_pos hp]
      exact h.first_executed hrun hc hexclusive hdispatched hlog hmessages ht hp
    · rw [List.filter_cons_of_neg hp]
      simpa using h.order
  · rw [hexecuted, hdispatched, habout]
    intro a ha b hb hpa hpb hwa hwb
    rw [hordinal a ha, hordinal b hb]
    exact h.same a ha b hb hpa hpb (fun hmem => hwa (List.mem_append_left _ hmem))
      fun hmem => hwb (List.mem_append_left _ hmem)

/-- **One step** keeps the order, if requests to different threads wait for each other. -/
theorem PlayerOrder.step (h : PlayerOrder c p s)
    {es : List (DispatchEvent (DbRequest Base Knap Misc))}
    (hrun : (dispatchSystem ths DbRequest.isCmd).Run es s) (hc : c ∈ ths.collectors)
    (hexclusive : c.exclusive = true) {e : DispatchEvent (DbRequest Base Knap Misc)}
    (hv : s.step ths DbRequest.isCmd e = some v) (hawaits : s.Awaits c p e) :
    PlayerOrder c p v := by
  obtain ⟨opened, hdispatch⟩ := DispatchInv.run hrun
  have hnext : (dispatchSystem ths DbRequest.isCmd).Run (es ++ [e]) v := hrun.step hv
  rcases hdispatch.step_history hv with ⟨hdispatched, hlog, hmessages⟩ |
    ⟨sn, rfl, hnew, hdispatched, hlog, hmessages⟩ | ⟨t, sn, r, rfl, hdispatched, hlog, hmessages⟩
  · refine h.of_same hdispatch hdispatched ?_ hmessages
    unfold DispatchState.executed
    rw [hlog]
  · exact h.dispatchPacket hnew hdispatched hlog hmessages hawaits
  · by_cases ht : t ∈ c.threads
    · exact h.processPacket hnext hc hexclusive hdispatched hlog hmessages ht
    · -- a thread without a connector
      refine h.of_same hdispatch hdispatched ?_ fun _ _ => by rw [hmessages]
      simp [DispatchState.executed, hlog, ht]

/-- **The order of the requests about a player**, in every run in which those that go to different
threads wait for each other. -/
theorem PlayerOrder.run {es : List (DispatchEvent (DbRequest Base Knap Misc))}
    (hrun : ((dispatchSystem ths DbRequest.isCmd).restrict (DispatchState.Awaits c p)).Run es s)
    (hc : c ∈ ths.collectors) (hexclusive : c.exclusive = true) : PlayerOrder c p s := by
  induction hrun with
  | init hstart =>
    obtain rfl : _ = DispatchState.start := hstart
    exact ⟨List.nil_prefix, fun a ha => by cases ha⟩
  | step hbefore hstep ih => exact ih.step hbefore.of_restrict hc hexclusive hstep.2 hstep.1

/-- The requests that were executed are those of the packets that were handled. -/
theorem effects_eq (hdispatch : DispatchInv ths DbRequest.isCmd s opened) :
    s.effects c = (s.executed c).filterMap s.request := by
  unfold DispatchState.effects DispatchState.executed
  rw [List.filterMap_map, ← List.filterMap_eq_map]
  refine List.filterMap_congr fun e he => ?_
  simp [DispatchState.request, hdispatch.logged e (List.mem_of_mem_filter he)]

theorem nodup_requests (hdispatch : DispatchInv ths DbRequest.isCmd s opened) :
    s.requests.Nodup := by
  refine hdispatch.nodup.filterMap fun a a' e ha ha' => ?_
  obtain ⟨r, -, rfl⟩ := Option.map_eq_some_iff.1 ha
  obtain ⟨r', -, hsame⟩ := Option.map_eq_some_iff.1 ha'
  exact (congrArg Prod.fst hsame).symm

theorem messages_of_mem_requests {e : ℕ × DbRequest Base Knap Misc} (he : e ∈ s.requests) :
    s.messages e.1 = some e.2 := by
  obtain ⟨sn, -, hsn⟩ := List.mem_filterMap.1 he
  obtain ⟨r, hr, rfl⟩ := Option.map_eq_some_iff.1 hsn
  exact hr

theorem messages_of_mem_effects (hdispatch : DispatchInv ths DbRequest.isCmd s opened)
    {e : ℕ × DbRequest Base Knap Misc} (he : e ∈ s.effects c) : s.messages e.1 = some e.2 := by
  obtain ⟨a, ha, rfl⟩ := List.mem_map.1 he
  exact hdispatch.logged a (List.mem_of_mem_filter ha)

end

/-- A request that stands in the filtered list splits it. -/
theorem filter_append_cons {Base Knap Misc : Type} {p : UInt64}
    {x : ℕ × DbRequest Base Knap Misc} (hx : x.2.about = some p)
    (A B : List (ℕ × DbRequest Base Knap Misc)) :
    ((A ++ x :: B).filter fun e => e.2.about = some p) =
      (A.filter fun e => e.2.about = some p) ++ x :: B.filter fun e => e.2.about = some p := by
  rw [List.filter_append, List.filter_cons_of_pos (by simpa using hx)]

/-- If the requests about a player are the same behind a place, the same of them write to it. -/
theorem not_writes_of_prefix_filter {Base Knap Misc : Type} {p : UInt64}
    {B D : List (ℕ × DbRequest Base Knap Misc)}
    (h : (B.filter fun e => e.2.about = some p) <+: D.filter fun e => e.2.about = some p)
    (hD : ∀ e ∈ D, e.2.writes ≠ some p) : ∀ e ∈ B, e.2.writes ≠ some p := by
  intro e he hwrites
  have hmem : e ∈ B.filter fun e => e.2.about = some p :=
    List.mem_filter.2 ⟨he, decide_eq_true (DbRequest.about_of_writes hwrites)⟩
  exact hD e (List.mem_of_mem_filter (h.subset hmem)) hwrites

/-- **The requests about a player** are executed in the order of dispatch, in every run in which those
that go to different threads wait for each other.  The last save is stored, and a query reads it, if the
columns take what is saved. -/
theorem saveOrdered_run {Db Base Knap Misc : Type} {table : PlayerTable Db}
    {baseCodec : Codec Base} {knapCodec : Codec Knap} {miscCodec : Codec Misc}
    {stmtSave : DatabaseStmt} (hstmt : Prepared stmtSave baseCodec knapCodec miscCodec) (db : Db)
    {ths : Threads} {c : Collector} {p : UInt64}
    {es : List (DispatchEvent (DbRequest Base Knap Misc))}
    {s : DispatchState (DbRequest Base Knap Misc)}
    (hrun : ((dispatchSystem ths DbRequest.isCmd).restrict (DispatchState.Awaits c p)).Run es s)
    (hc : c ∈ ths.collectors) (hexclusive : c.exclusive = true)
    (htakes : ∀ sn player, (sn, .savePlayer player) ∈ s.requests → player.sn = p →
      PartsTaken table baseCodec knapCodec miscCodec player) :
    SaveOrdered table baseCodec knapCodec miscCodec stmtSave db c p s := by
  obtain ⟨opened, hdispatch⟩ := DispatchInv.run hrun.of_restrict
  have horder : ((s.effects c).filter fun e => e.2.about = some p) <+:
      s.requests.filter fun e => e.2.about = some p := by
    unfold DispatchState.requests
    rw [effects_eq hdispatch, DispatchState.filter_filterMap_request,
      DispatchState.filter_filterMap_request]
    exact (PlayerOrder.run hrun hc hexclusive).order.filterMap _
  have hnodup : (s.requests.filter fun e => e.2.about = some p).Nodup :=
    (nodup_requests hdispatch).filter _
  refine ⟨horder, ?_, ?_, ?_, isSome_selectPlayer_handleRequests hstmt db _⟩
  · rintro l sn player l' hrequests rfl hwrites hmem
    obtain ⟨A, B, heffects⟩ := List.append_of_mem hmem
    have habout : (DbRequest.savePlayer player : DbRequest Base Knap Misc).about =
      some player.sn := rfl
    rw [heffects, hrequests, filter_append_cons habout, filter_append_cons habout] at horder
    rw [hrequests, filter_append_cons habout] at hnodup
    rw [heffects]
    exact stored_of_last hstmt db A sn (htakes sn player (by simp [hrequests]) rfl)
      (not_writes_of_prefix_filter (prefix_cons_split horder hnodup).2 hwrites)
  · rintro l sn player l' sn' l'' hrequests rfl hwrites r hr
    obtain ⟨A, p', B, heffects, rfl⟩ := mem_replies_iff.1 hr
    have hquery : s.messages sn' = some (.queryPlayer player.sn) :=
      messages_of_mem_requests (e := (sn', .queryPlayer player.sn)) (by simp [hrequests])
    have hquery' : s.messages sn' = some (.queryPlayer p') :=
      messages_of_mem_effects (c := c) hdispatch (e := (sn', .queryPlayer p'))
        (by simp [heffects])
    obtain rfl : player.sn = p' :=
      DbRequest.queryPlayer.inj (Option.some.inj (hquery.symm.trans hquery'))
    have habout : (DbRequest.savePlayer player : DbRequest Base Knap Misc).about =
      some player.sn := rfl
    have hasks : (DbRequest.queryPlayer player.sn : DbRequest Base Knap Misc).about =
      some player.sn := rfl
    rw [heffects, hrequests, filter_append_cons hasks, filter_append_cons hasks,
      filter_append_cons habout] at horder
    rw [hrequests, filter_append_cons hasks, filter_append_cons habout] at hnodup
    -- the save was executed before the query
    have hbefore := (prefix_cons_split horder hnodup).1
    have hmem : (sn, .savePlayer player) ∈ A := List.mem_of_mem_filter (p := fun e =>
      e.2.about = some player.sn) (by rw [hbefore]; simp)
    obtain ⟨A₁, A₂, rfl⟩ := List.append_of_mem hmem
    rw [filter_append_cons habout] at hbefore
    have hbehind := (prefix_cons_split ⟨[], (List.append_nil _).trans hbefore⟩
      (List.nodup_append.1 hnodup).1).2
    exact ⟨_, stored_of_last hstmt db A₁ sn (htakes sn player (by simp [hrequests]) rfl)
        (not_writes_of_prefix_filter hbehind hwrites),
      isSome_selectPlayer_handleRequests hstmt db _, rfl⟩
  · intro sn hmem
    obtain ⟨A, B, heffects⟩ := List.append_of_mem hmem
    exact ⟨_, mem_replies_iff.2 ⟨A, p, B, heffects, rfl⟩⟩

/-! ### Two threads -/

/-- A main thread, and two Mysql threads. -/
def Threads.mysql : Threads where
  main := 0
  collectors := [⟨true, [1, 2], by decide⟩]
  nodup := by decide

/-- The table with the player 7. -/
def onePlayer : UInt64 → Option PlayerRow := fun sn => if sn = 7 then some newRow else none

/-- The player 7 with a level. -/
def atLevel (level : UInt8) : ProtoPlayer UInt8 UInt8 UInt8 := ⟨7, [97], level, 0, 0⟩

/-- The loop of the manager hands out a packet. -/
def handOut : List (DispatchEvent (DbRequest UInt8 UInt8 UInt8)) :=
  [.nextPacket, .addPacketToList, .addPacketToList, .openRef]

/-- Two saves of the player with another packet between them, both for the first thread; when they
were executed, a query for the second thread. -/
def savesApart : List (DispatchEvent (DbRequest UInt8 UInt8 UInt8)) :=
  [.mallocPacket (.savePlayer (atLevel 1)), .mallocPacket .other,
    .mallocPacket (.savePlayer (atLevel 2)), .mallocPacket (.queryPlayer 7), .dispatchPacket 0,
    .dispatchPacket 1, .dispatchPacket 2, .swapPackets] ++ handOut ++ handOut ++ handOut ++
    [.clearPackets, .swapMessages 1, .processPacket 1, .processPacket 1, .dispatchPacket 3,
      .swapPackets] ++ handOut ++ [.swapMessages 2, .processPacket 2, .processPacket 2]

/-- The requests of the player are executed one after the other. -/
theorem saveOrdered_apart : ∃ s : DispatchState (DbRequest UInt8 UInt8 UInt8),
    ((dispatchSystem .mysql DbRequest.isCmd).restrict
      (DispatchState.Awaits ⟨true, [1, 2], by decide⟩ 7)).Run savesApart s ∧
    SaveOrdered .rows .byte .byte .byte newStmt onePlayer ⟨true, [1, 2], by decide⟩ 7 s ∧
    s.effects ⟨true, [1, 2], by decide⟩ = [(0, .savePlayer (atLevel 1)),
      (2, .savePlayer (atLevel 2)), (1, .other), (3, .queryPlayer 7)] := by
  have hrun : (Transition.System.execute (DispatchState.step .mysql DbRequest.isCmd)
      (DispatchState.Awaits ⟨true, [1, 2], by decide⟩ 7) .start savesApart).map
        (DispatchState.effects ⟨true, [1, 2], by decide⟩) =
      some [(0, .savePlayer (atLevel 1)), (2, .savePlayer (atLevel 2)), (1, .other),
        (3, .queryPlayer 7)] := by
    decide
  obtain ⟨s, hs, heffects⟩ := Option.map_eq_some_iff.1 hrun
  have hevents : ((dispatchSystem .mysql DbRequest.isCmd).restrict
      (DispatchState.Awaits ⟨true, [1, 2], by decide⟩ 7)).Run savesApart s :=
    Transition.System.run_of_execute rfl hs
  exact ⟨s, hevents, saveOrdered_run prepared_newStmt onePlayer hevents
    (List.mem_singleton_self _) rfl fun _ player _ _ => partsTaken_byte player, heffects⟩

/-- Two saves of the player, of which the second thread executes the later one first. -/
def savesCrossed : List (DispatchEvent (DbRequest UInt8 UInt8 UInt8)) :=
  [.mallocPacket (.savePlayer (atLevel 1)), .mallocPacket (.savePlayer (atLevel 2)),
    .dispatchPacket 0, .dispatchPacket 1, .swapPackets] ++ handOut ++ handOut ++
    [.swapMessages 2, .processPacket 2, .swapMessages 1, .processPacket 1]

/-- **With two threads** the earlier of two saves may be the one that stays stored. -/
theorem not_saveOrdered_two : ¬ ∀ (ths : Threads)
    (es : List (DispatchEvent (DbRequest UInt8 UInt8 UInt8)))
    (s : DispatchState (DbRequest UInt8 UInt8 UInt8)),
    (dispatchSystem ths DbRequest.isCmd).Run es s → ∀ c ∈ ths.collectors, c.exclusive = true →
      ∀ p, SaveOrdered .rows .byte .byte .byte newStmt onePlayer c p s := by
  intro hall
  have hrun : (Transition.System.execute (DispatchState.step .mysql DbRequest.isCmd)
      (fun _ _ => True) .start savesCrossed).map (fun s =>
        (s.requests, s.effects ⟨true, [1, 2], by decide⟩)) =
      some ([(0, .savePlayer (atLevel 1)), (1, .savePlayer (atLevel 2))],
        [(1, .savePlayer (atLevel 2)), (0, .savePlayer (atLevel 1))]) := by
    decide
  obtain ⟨s, hs, hafter⟩ := Option.map_eq_some_iff.1 hrun
  obtain ⟨hrequests, heffects⟩ := Prod.mk.inj hafter
  have hevents : (dispatchSystem .mysql DbRequest.isCmd).Run
      savesCrossed s := Transition.System.run_of_execute_true rfl hs
  have hordered := hall .mysql savesCrossed s hevents _ (List.mem_singleton_self _) rfl 7
  -- the later save is to be stored, and the earlier one is
  have hlater := hordered.stored [(0, .savePlayer (atLevel 1))] 1 (atLevel 2) [] hrequests rfl
    (by simp) (by rw [heffects]; simp)
  have hearlier : Stored .rows .byte .byte .byte (handleRequests .rows .byte .byte .byte newStmt
      onePlayer [(1, .savePlayer (atLevel 2)), (0, .savePlayer (atLevel 1))]).db (atLevel 1) :=
    stored_of_last prepared_newStmt onePlayer [(1, .savePlayer (atLevel 2))] 0 (partsTaken_byte _)
      (List.forall_mem_nil _)
  obtain ⟨row, hrow⟩ := Option.isSome_iff_exists.1 (hordered.kept rfl)
  rw [heffects] at hlater hrow
  have hbase := (hlater row hrow).1.symm.trans (hearlier row hrow).1
  cases hbase

end MmoServer
