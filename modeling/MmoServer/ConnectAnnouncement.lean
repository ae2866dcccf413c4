/-
**Announcing the connections that go out.**

When a connection that `Connect` has begun is established, its first event announces it: to the locator under
its App tag, or else with `MI_NetworkConnected`.  If `::connect` succeeds at once, the connection is created in
the state `Connected`, and no event announces it.

What happens to a connection stands in the history of the table; for one that goes out, its own part of
the history has one of three forms.

Main definitions:

* `MmoServer.Announces` — a connection is announced once, before data is handled on it, and only if it was
  established;
* `MmoServer.ConnTable.AllAnnounced` — so are all that go out;
* `MmoServer.ConnTable.AnnounceOk` — `::connect` does not succeed at once;
* `MmoServer.announcedHistory` — what happens to a connection that was announced.

Main results:

* `MmoServer.ConnTable.AnnounceInv.step` — **what every step keeps**;
* `MmoServer.allAnnounced_run` — **all connections are announced in every run** in which no `::connect`
  succeeds at once, and the first one that does is not announced.
-/

import MmoServer.ConnectionTable

set_option relaxedAutoImplicit false
set_option autoImplicit false

namespace MmoServer

open Transition

/-- The connection of an entry. -/
def ConnLog.conn : ConnLog → ℕ
  | .created conn _ => conn
  | .established conn => conn
  | .connected conn => conn
  | .announced conn _ => conn
  | .handled conn => conn

/-! ### What is asked of an announcement -/

/-- **A connection that goes out is announced**: exactly once, and as its tag says, if it comes to the state
`Connected`; before any data is handled on it; and only if the system has established it. -/
structure Announces (log : List ConnLog) (conn : ℕ) (app : Option UInt64) : Prop where
  once : .connected conn ∈ log → log.count (.announced conn (connectAnnouncement app)) = 1 ∧
    ∀ a, .announced conn a ∈ log → a = connectAnnouncement app
  before : ∀ pre post, log = pre ++ .handled conn :: post → .announced conn (connectAnnouncement app) ∈ pre
  made : ∀ a, .announced conn a ∈ log → .established conn ∈ log

namespace ConnTable

/-- All connections that go out are. -/
def AllAnnounced (s : ConnTable) : Prop :=
  ∀ conn app, .created conn app ∈ s.log → Announces s.log conn app

/-- **`::connect` does not succeed at once**, on a socket that has no error, nor a connection already. -/
def AnnounceOk (s : ConnTable) : TableEvent → Prop
  | .connect socket error checked _ => ∀ k ∈ socket, error = none → checked = true → (s.connects k).isSome
  | _ => True

end ConnTable

/-! ### The history of one connection -/

/-- What happened to a connection. -/
def ownLog (log : List ConnLog) (conn : ℕ) : List ConnLog := log.filter fun x => x.conn = conn

/-- What happens to a connection that was announced. -/
def announcedHistory (conn : ℕ) (app : Option UInt64) (n : ℕ) : List ConnLog :=
  [.created conn app, .established conn, .connected conn, .announced conn (connectAnnouncement app)] ++
    List.replicate n (.handled conn)

/-- What can happen to a connection that goes out. -/
inductive OutgoingHistory (conn : ℕ) (app : Option UInt64) : List ConnLog → Prop
  | connecting : OutgoingHistory conn app [.created conn app]
  | established : OutgoingHistory conn app [.created conn app, .established conn]
  | announced (n : ℕ) : OutgoingHistory conn app (announcedHistory conn app n)

section

variable {log : List ConnLog} {conn : ℕ} {app : Option UInt64}

theorem mem_ownLog {x : ConnLog} (hconn : x.conn = conn) : x ∈ ownLog log conn ↔ x ∈ log := by
  rw [ownLog, List.mem_filter]
  simp [hconn]

theorem count_ownLog {x : ConnLog} (hconn : x.conn = conn) : (ownLog log conn).count x = log.count x := by
  rw [ownLog, List.count_filter (by simp [hconn])]

/-- What happens to other connections does not matter. -/
theorem ownLog_append_of_ne {entries : List ConnLog} {conn' : ℕ} (hentries : ∀ x ∈ entries, x.conn = conn')
    (hne : conn ≠ conn') : ownLog (log ++ entries) conn = ownLog log conn := by
  have hnone : entries.filter (fun x => decide (x.conn = conn)) = [] := by
    rw [List.filter_eq_nil_iff]
    intro x hx
    rw [hentries x hx]
    simpa using hne.symm
  rw [ownLog, List.filter_append, hnone, List.append_nil]
  rfl

theorem ownLog_append_of_eq {entries : List ConnLog} (hentries : ∀ x ∈ entries, x.conn = conn) :
    ownLog (log ++ entries) conn = ownLog log conn ++ entries := by
  have hall : entries.filter (fun x => decide (x.conn = conn)) = entries := by
    rw [List.filter_eq_self]
    intro x hx
    rw [hentries x hx]
    simp
  rw [ownLog, List.filter_append, hall]
  rfl

/-- What stands in front of the first data is handled first. -/
theorem mem_of_append_replicate {l pre post : List ConnLog} {x y : ConnLog} {n : ℕ} (hx : x ∈ l) (hy : y ∉ l)
    (h : l ++ List.replicate n y = pre ++ y :: post) : x ∈ pre := by
  rcases List.append_eq_append_iff.1 h with ⟨mid, rfl, -⟩ | ⟨mid, rfl, hmid⟩
  · exact List.mem_append_left _ hx
  · cases mid with
    | nil => simpa using hx
    | cons first mid =>
      obtain ⟨rfl, -⟩ := List.cons.inj hmid
      exact absurd (List.mem_append_right pre List.mem_cons_self) hy

/-- **A history of one of the three forms** is as it should be. -/
theorem OutgoingHistory.announces (h : OutgoingHistory conn app (ownLog log conn)) : Announces log conn app := by
  generalize hown : ownLog log conn = own at h
  have hmem : ∀ x : ConnLog, x.conn = conn → (x ∈ log ↔ x ∈ own) := fun x hx => by
    rw [← hown]
    exact (mem_ownLog hx).symm
  have hsplit : ∀ pre post, log = pre ++ .handled conn :: post →
      own = ownLog pre conn ++ .handled conn :: ownLog post conn := by
    intro pre post heq
    rw [← hown, heq, ownLog, List.filter_append, List.filter_cons_of_pos (by simp [ConnLog.conn])]
    rfl
  cases h with
  | connecting =>
    refine ⟨fun h => ?_, fun pre post heq => ?_, fun a h => ?_⟩
    · simpa using (hmem _ rfl).1 h
    · have hhandled : ConnLog.handled conn ∈ [ConnLog.created conn app] := by
        rw [hsplit pre post heq]
        simp
      simp at hhandled
    · simpa using (hmem _ rfl).1 h
  | established =>
    refine ⟨fun h => ?_, fun pre post heq => ?_, fun a h => ?_⟩
    · simpa using (hmem _ rfl).1 h
    · have hhandled : ConnLog.handled conn ∈ [ConnLog.created conn app, .established conn] := by
        rw [hsplit pre post heq]
        simp
      simp at hhandled
    · simpa using (hmem _ rfl).1 h
  | announced n =>
    refine ⟨fun _ => ⟨?_, fun a h => ?_⟩, fun pre post heq => ?_, fun a _ => ?_⟩
    · have hcount : (ownLog log conn).count (.announced conn (connectAnnouncement app)) =
          log.count (.announced conn (connectAnnouncement app)) := count_ownLog rfl
      rw [← hcount, hown, announcedHistory]
      simp [List.count_replicate]
    · simpa [announcedHistory] using (hmem _ rfl).1 h
    · have hmem' := mem_of_append_replicate (x := .announced conn (connectAnnouncement app)) (by simp)
        (by simp) (hsplit pre post heq)
      exact (mem_ownLog rfl).1 hmem'
    · exact (hmem _ rfl).2 (by simp [announcedHistory])

end

/-! ### What every step keeps -/

namespace ConnTable

variable {build : NetworkBuild} {s t : ConnTable} {k : ℕ}

/-- The history of a connection that has a slot. -/
def SlotHistory (obj : TableConnect) (app : Option UInt64) (own : List ConnLog) : Prop :=
  obj.app = app ∧
    ((obj.state = .connecting ∧ own =
        if obj.established then [.created obj.conn app, .established obj.conn] else [.created obj.conn app]) ∨
      obj.state = .connected ∧ obj.established = true ∧ ∃ n, own = announcedHistory obj.conn app n)

theorem SlotHistory.outgoing {obj : TableConnect} {app : Option UInt64} {own : List ConnLog}
    (h : SlotHistory obj app own) : OutgoingHistory obj.conn app own := by
  obtain ⟨-, ⟨-, rfl⟩ | ⟨-, -, n, rfl⟩⟩ := h
  · split
    · exact .established
    · exact .connecting
  · exact .announced n

/-- What holds in every state. -/
structure AnnounceInv (s : ConnTable) : Prop where
  log_lt : ∀ x ∈ s.log, x.conn < s.conns
  slot_lt : ∀ k obj, s.connects k = some obj → obj.conn < s.conns
  distinct : ∀ k k' obj obj', s.connects k = some obj → s.connects k' = some obj' → obj.conn = obj'.conn → k = k'
  history : ∀ conn app, .created conn app ∈ s.log → OutgoingHistory conn app (ownLog s.log conn)
  slot : ∀ k obj app, s.connects k = some obj → .created obj.conn app ∈ s.log →
    SlotHistory obj app (ownLog s.log obj.conn)

theorem announceInv_start : start.AnnounceInv where
  log_lt := List.forall_mem_nil _
  slot_lt := fun k obj h => by cases h
  distinct := fun k k' obj obj' h => by cases h
  history := fun conn app h => by cases h
  slot := fun k obj app h => by cases h

theorem AnnounceInv.allAnnounced (h : s.AnnounceInv) : s.AllAnnounced :=
  fun conn app hcreated => (h.history conn app hcreated).announces

/-- Nothing happens, but that slots may become free. -/
theorem AnnounceInv.of_free (h : s.AnnounceInv) (hlog : t.log = s.log) (hconns : t.conns = s.conns)
    (hconnects : ∀ j obj, t.connects j = some obj → s.connects j = some obj) : t.AnnounceInv where
  log_lt := by
    rw [hlog, hconns]
    exact h.log_lt
  slot_lt := fun j obj hj => by
    rw [hconns]
    exact h.slot_lt j obj (hconnects j obj hj)
  distinct := fun j j' obj obj' hj hj' =>
    h.distinct j j' obj obj' (hconnects j obj hj) (hconnects j' obj' hj')
  history := by
    rw [hlog]
    exact h.history
  slot := fun j obj app hj => by
    rw [hlog]
    exact h.slot j obj app (hconnects j obj hj)

/-- A slot is written, and entries about its connection are appended: no other slot has that connection. -/
theorem AnnounceInv.write (h : s.AnnounceInv) {obj : TableConnect} {entries : List ConnLog}
    (hself : t.connects k = some obj) (hother : ∀ j, j ≠ k → t.connects j = s.connects j)
    (hconns : s.conns ≤ t.conns) (hlt : obj.conn < t.conns)
    (hne : ∀ j o, j ≠ k → s.connects j = some o → o.conn ≠ obj.conn)
    (hlog : t.log = s.log ++ entries) (hentries : ∀ x ∈ entries, x.conn = obj.conn)
    (hslot : ∀ app, .created obj.conn app ∈ t.log → SlotHistory obj app (ownLog t.log obj.conn)) :
    t.AnnounceInv := by
  have hold : ∀ {conn}, conn ≠ obj.conn → ownLog t.log conn = ownLog s.log conn := fun hne => by
    rw [hlog, ownLog_append_of_ne hentries hne]
  have hcreated : ∀ {conn app}, conn ≠ obj.conn → .created conn app ∈ t.log →
      .created conn app ∈ s.log := by
    intro conn app hne hmem
    rw [hlog] at hmem
    exact (List.mem_append.1 hmem).resolve_right fun hmem => hne (hentries _ hmem)
  refine ⟨fun x hx => ?_, fun j o hj => ?_, fun j j' o o' hj hj' heq => ?_, fun conn app hmem => ?_,
    fun j o app hj hmem => ?_⟩
  · rw [hlog] at hx
    rcases List.mem_append.1 hx with hx | hx
    · exact (h.log_lt x hx).trans_le hconns
    · rw [hentries x hx]
      exact hlt
  · by_cases hk : j = k
    · rw [hk, hself] at hj
      obtain rfl := Option.some.inj hj
      exact hlt
    · rw [hother j hk] at hj
      exact (h.slot_lt j o hj).trans_le hconns
  · by_cases hk : j = k
    · by_cases hk' : j' = k
      · rw [hk, hk']
      · rw [hk, hself] at hj
        rw [hother j' hk'] at hj'
        obtain rfl := Option.some.inj hj
        exact absurd heq.symm (hne j' o' hk' hj')
    · rw [hother j hk] at hj
      by_cases hk' : j' = k
      · rw [hk', hself] at hj'
        obtain rfl := Option.some.inj hj'
        exact absurd heq (hne j o hk hj)
      · rw [hother j' hk'] at hj'
        exact h.distinct j j' o o' hj hj' heq
  · by_cases hc : conn = obj.conn
    · subst hc
      exact (hslot app hmem).outgoing
    · rw [hold hc]
      exact h.history conn app (hcreated hc hmem)
  · by_cases hk : j = k
    · rw [hk, hself] at hj
      obtain rfl := Option.some.inj hj
      exact hslot app hmem
    · rw [hother j hk] at hj
      have hc := hne j o hk hj
      rw [hold hc]
      exact h.slot j o app hj (hcreated hc hmem)

/-- **Something happens to one connection**, and its history remains of one of the forms. -/
theorem AnnounceInv.append (h : s.AnnounceInv) {obj : TableConnect} (obj' : TableConnect)
    (entries : List ConnLog) (hobj : s.connects k = some obj) (hconn : obj'.conn = obj.conn)
    (hself : t.connects k = some obj')
    (hother : ∀ j, j ≠ k → t.connects j = s.connects j) (hconns : t.conns = s.conns)
    (hlog : t.log = s.log ++ entries) (hentries : ∀ x ∈ entries, x.conn = obj.conn)
    (hnew : ∀ conn app, .created conn app ∉ entries)
    (hslot : ∀ app, SlotHistory obj app (ownLog s.log obj.conn) →
      SlotHistory obj' app (ownLog s.log obj.conn ++ entries)) : t.AnnounceInv := by
  rw [← hconn] at hentries
  refine h.write hself hother hconns.ge ?_ (fun j o hk hj heq => ?_) hlog hentries fun app hmem => ?_
  · rw [hconn, hconns]
    exact h.slot_lt k obj hobj
  · exact hk (h.distinct j k o obj hj hobj (heq.trans hconn))
  · rw [hlog] at hmem ⊢
    rw [ownLog_append_of_eq hentries, hconn]
    rw [hconn] at hmem
    exact hslot app (h.slot k obj app hobj ((List.mem_append.1 hmem).resolve_right (hnew _ _)))

/-- **A connection is made**: its number is a new one. -/
theorem AnnounceInv.create (h : s.AnnounceInv) (obj : TableConnect) (entries : List ConnLog)
    (hconn : obj.conn = s.conns) (hself : t.connects k = some obj)
    (hother : ∀ j, j ≠ k → t.connects j = s.connects j) (hconns : t.conns = s.conns + 1)
    (hlog : t.log = s.log ++ entries) (hentries : ∀ x ∈ entries, x.conn = s.conns)
    (hslot : ∀ app, .created s.conns app ∈ entries → SlotHistory obj app entries) : t.AnnounceInv := by
  rw [← hconn] at hentries hslot
  have hnone : ownLog s.log obj.conn = [] := by
    rw [ownLog, List.filter_eq_nil_iff]
    intro x hx
    have := h.log_lt x hx
    simp only [decide_eq_true_eq]
    omega
  have hown : ownLog t.log obj.conn = entries := by
    rw [hlog, ownLog_append_of_eq hentries, hnone, List.nil_append]
  refine h.write hself hother (by omega) (by omega) (fun j o _ hj => ?_) hlog hentries fun app hmem => ?_
  · have := h.slot_lt j o hj
    omega
  · rw [hown]
    refine hslot app ?_
    rw [← hown]
    exact (mem_ownLog rfl).2 hmem

/-! ### The steps -/

theorem AnnounceInv.sockClose (h : s.AnnounceInv) (socket : ℕ) : (s.sockClose socket).AnnounceInv :=
  h.of_free rfl rfl fun _ _ hj => hj

theorem AnnounceInv.removeConnectObj (h : s.AnnounceInv) (k : ℕ) : (s.removeConnectObj k).AnnounceInv := by
  rw [ConnTable.removeConnectObj]
  cases s.connects k with
  | none => exact h
  | some obj =>
    refine h.of_free rfl rfl fun j o hj => ?_
    have hupdate : Function.update s.connects k none j = some o := hj
    by_cases hk : j = k
    · rw [hk, Function.update_self] at hupdate
      cases hupdate
    · rwa [Function.update_of_ne hk] at hupdate

theorem fields_mallocObject (s : ConnTable) : s.mallocObject.2.connects = s.connects ∧
    s.mallocObject.2.conns = s.conns ∧ s.mallocObject.2.log = s.log := by
  rw [mallocObject]
  split <;> exact ⟨rfl, rfl, rfl⟩

/-- **`CreateConnectObj`**, unless it makes a connection that goes out and is established already. -/
theorem AnnounceInv.createConnectObj (h : s.AnnounceInv) (k : ℕ) (checked : Bool) (app : Option UInt64)
    {state : ConnectStateType} {outgoing established : Bool}
    (hnew : outgoing = true → checked = true → s.connects k = none → state = .connecting ∧ established = false) :
    (s.createConnectObj k checked app state outgoing established).2.AnnounceInv := by
  rw [ConnTable.createConnectObj]
  split
  · exact h.sockClose k
  · rename_i hchecked
    split
    · exact h.removeConnectObj k
    · rename_i hslot
      obtain ⟨hconnects, hconns, hlog⟩ := fields_mallocObject s
      refine h.create ⟨s.mallocObject.2.conns, s.mallocObject.1, k, app, state, established⟩
        ((if outgoing then [.created s.mallocObject.2.conns app] else []) ++
          (if established then [.established s.mallocObject.2.conns] else []) ++
          if state = .connected then [.connected s.mallocObject.2.conns] else [])
        hconns (Function.update_self ..) (fun j hj => ?_) (by simp only [hconns]) (by simp only [hlog]) ?_ ?_
      · exact (Function.update_of_ne hj _ _).trans (congrFun hconnects j)
      · intro x hx
        rw [← hconns]
        simp only [List.mem_append] at hx
        rcases hx with (hx | hx) | hx
        all_goals
          split at hx
          · rw [List.mem_singleton.1 hx]
            rfl
          · cases hx
      · intro app' hmem
        rw [hconns] at hmem ⊢
        cases outgoing with
        | false =>
          simp only [List.mem_append, Bool.false_eq_true, if_false, List.not_mem_nil, false_or] at hmem
          rcases hmem with hmem | hmem
          all_goals
            split at hmem
            · cases List.mem_singleton.1 hmem
            · cases hmem
        | true =>
          obtain ⟨rfl, rfl⟩ := hnew rfl (by simpa using hchecked) (by simpa using hslot)
          simp only [if_true, Bool.false_eq_true, if_false, reduceCtorEq, List.append_nil] at hmem ⊢
          obtain ⟨-, rfl⟩ := ConnLog.created.inj (List.mem_singleton.1 hmem)
          exact ⟨rfl, .inl ⟨rfl, by simp⟩⟩

theorem fields_newDescriptor (hnew : s.newDescriptor k = some t) :
    t.connects = s.connects ∧ t.conns = s.conns ∧ t.log = s.log := by
  rw [newDescriptor] at hnew
  split at hnew
  · obtain rfl := Option.some.inj hnew
    exact ⟨rfl, rfl, rfl⟩
  · cases hnew

theorem AnnounceInv.newDescriptor (h : s.AnnounceInv) (hnew : s.newDescriptor k = some t) : t.AnnounceInv := by
  obtain ⟨hconnects, hconns, hlog⟩ := fields_newDescriptor hnew
  refine h.of_free hlog hconns fun j obj hj => ?_
  rwa [hconnects] at hj

theorem AnnounceInv.accept (h : s.AnnounceInv) {calls : List (ℕ × Bool)} (hstep : s.accept calls = some t) :
    t.AnnounceInv := by
  induction calls generalizing s with
  | nil =>
    obtain rfl := Option.some.inj hstep
    exact h
  | cons call calls ih =>
    obtain ⟨u, hone, hrest⟩ := Option.bind_eq_some_iff.1 hstep
    refine ih ?_ hrest
    obtain ⟨v, hnew, rfl⟩ := Option.map_eq_some_iff.1 hone
    have hcreate : (v.createConnectObj call.1 call.2 none .connected false true).2.AnnounceInv :=
      (h.newDescriptor hnew).createConnectObj call.1 call.2 none fun hout => by cases hout
    dsimp only
    split
    · exact hcreate.sockClose call.1
    · exact hcreate

/-- **`Connect`**, if `::connect` does not succeed at once. -/
theorem AnnounceInv.connect (h : s.AnnounceInv) {socket : Option ℕ} {error : Option ℤ} {checked : Bool}
    {app : Option UInt64} (hok : s.AnnounceOk (.connect socket error checked app))
    (hstep : s.connect socket error checked app = some t) : t.AnnounceInv := by
  cases socket with
  | none =>
    obtain rfl := Option.some.inj hstep
    exact h
  | some socket =>
    obtain ⟨u, hnew, rfl⟩ := Option.map_eq_some_iff.1 hstep
    have hu := h.newDescriptor hnew
    obtain ⟨hconnects, -, -⟩ := fields_newDescriptor hnew
    cases error with
    | none =>
      refine hu.createConnectObj socket checked app fun _ hchecked hslot => ?_
      have hsome := hok socket rfl rfl hchecked
      rw [← hconnects, hslot] at hsome
      cases hsome
    | some errno =>
      dsimp only
      split
      · exact hu.createConnectObj socket checked app fun _ _ _ => ⟨rfl, rfl⟩
      · exact hu.sockClose socket

/-- **What `Recv` and `Send` do** with a connection that the system has established. -/
theorem AnnounceInv.transfer (h : s.AnnounceInv) {obj : TableConnect} (hobj : s.connects k = some obj)
    (hestablished : obj.established = true) (rs : Bool) :
    (s.transfer k obj rs).2.AnnounceInv ∧
      ∀ obj' ∈ (s.transfer k obj rs).2.connects k, obj'.established = true := by
  rw [ConnTable.transfer]
  split
  · rename_i hstate
    refine ⟨h.append { obj with state := .connected }
      [.connected obj.conn, .announced obj.conn (connectAnnouncement obj.app)] hobj rfl
      (Function.update_self ..) (fun j hj => Function.update_of_ne hj _ _) rfl rfl (by simp [ConnLog.conn])
      (by simp) fun app hslot => ?_, fun obj' hobj' => ?_⟩
    · obtain ⟨happ, ⟨-, hown⟩ | ⟨hconnected, -⟩⟩ := hslot
      · rw [hestablished, if_pos rfl] at hown
        refine ⟨happ, .inr ⟨rfl, hestablished, 0, ?_⟩⟩
        rw [hown, happ]
        rfl
      · rw [hstate] at hconnected
        cases hconnected
    · have hself : Function.update s.connects k (some { obj with state := .connected }) k = some obj' := hobj'
      rw [Function.update_self] at hself
      obtain rfl := Option.some.inj hself
      exact hestablished
  · rename_i hstate
    refine ⟨h.append obj [.handled obj.conn] hobj rfl hobj (fun _ _ => rfl) rfl rfl
      (by simp [ConnLog.conn]) (by simp) fun app hslot => ?_, fun obj' hobj' => ?_⟩
    · obtain ⟨happ, ⟨hconnecting, -⟩ | ⟨hconnected, -, n, hown⟩⟩ := hslot
      · exact absurd hconnecting hstate
      · refine ⟨happ, .inr ⟨hconnected, hestablished, n + 1, ?_⟩⟩
        rw [hown, announcedHistory, announcedHistory, List.replicate_succ', List.append_assoc]
    · obtain rfl := Option.some.inj (hobj.symm.trans hobj')
      exact hestablished

theorem AnnounceInv.handleInput (h : s.AnnounceInv) (input : Option Bool)
    (hestablished : ∀ obj ∈ s.connects k, obj.established = true) :
    (s.handleInput k input).2.AnnounceInv ∧
      ∀ obj ∈ (s.handleInput k input).2.connects k, obj.established = true := by
  obtain heq | ⟨obj, rs, hobj, heq⟩ := handleInput_cases s k input
  · rw [heq]
    exact ⟨h, hestablished⟩
  · rw [heq]
    exact h.transfer hobj (hestablished obj hobj) rs

/-- **An event of a socket**, of the kind that the system reports. -/
theorem AnnounceInv.handleReport (h : s.AnnounceInv) {e : TableReport} (hreported : s.Reported e)
    (hstep : s.handleReport build e = some t) : t.AnnounceInv := by
  obtain rfl | ⟨obj, hobj, ⟨-, rfl⟩ | ⟨hbroken, hcases⟩⟩ := handleReport_cases hstep
  · exact h
  · exact h.removeConnectObj e.socket
  · have hestablished : ∀ o ∈ s.connects e.socket, o.established = true := fun o ho =>
      (hreported o ho).resolve_right (by simp [hbroken])
    obtain ⟨hinput, hstill⟩ := h.handleInput e.input hestablished
    have houtput := (hinput.handleInput e.output hstill).1
    rw [← handleOutput_eq] at houtput
    obtain rfl | rfl | rfl := hcases
    · exact hinput.removeConnectObj e.socket
    · exact houtput.removeConnectObj e.socket
    · exact houtput

/-- **Every step** keeps what holds, if no `::connect` succeeds at once. -/
theorem AnnounceInv.step (h : s.AnnounceInv) {e : TableEvent} (hok : s.AnnounceOk e)
    (hstep : s.step build e = some t) : t.AnnounceInv := by
  cases e with
  | accept calls => exact h.accept hstep
  | connect socket error checked app => exact h.connect hok hstep
  | establish socket =>
    obtain ⟨obj, hobj, hnot, rfl⟩ := establish_eq hstep
    refine h.append { obj with established := true } [.established obj.conn] hobj rfl
      (Function.update_self ..) (fun j hj => Function.update_of_ne hj _ _) rfl rfl (by simp [ConnLog.conn])
      (by simp) fun app hslot => ?_
    obtain ⟨happ, ⟨hstate, hown⟩ | ⟨-, hestablished, -⟩⟩ := hslot
    · rw [if_neg (by simp [hnot])] at hown
      refine ⟨happ, .inl ⟨hstate, ?_⟩⟩
      rw [hown, if_pos rfl]
      rfl
    · rw [hnot] at hestablished
      cases hestablished
  | handleDisconnect same socket =>
    obtain rfl := Option.some.inj hstep
    obtain heq | heq := handleDisconnect_cases s same socket
    · rwa [heq]
    · rw [heq]
      exact h.removeConnectObj socket
  | report e =>
    rw [ConnTable.step] at hstep
    split at hstep
    · rename_i hreported
      exact h.handleReport hreported hstep
    · cases hstep
  | poolUpdate =>
    obtain rfl := Option.some.inj hstep
    exact h.of_free rfl rfl fun _ _ hj => hj

/-! ### A connection that is established at once -/

/-- **It is not announced.** -/
theorem not_allAnnounced_connect (h : s.AnnounceInv) {app : Option UInt64} (hslot : s.connects k = none)
    (hstep : s.connect (some k) none true app = some t) : ¬ t.AllAnnounced := by
  obtain ⟨u, hnew, rfl⟩ := Option.map_eq_some_iff.1 hstep
  obtain ⟨hconnects, hconns, hlog⟩ := fields_newDescriptor hnew
  obtain ⟨-, hconns', hlog'⟩ := fields_mallocObject u
  have hnone : (u.connects k).isSome = false := by
    rw [hconnects, hslot]
    rfl
  have htlog : (u.createConnectObj k true app .connected true true).2.log =
      s.log ++ [.created s.conns app, .established s.conns, .connected s.conns] := by
    rw [createConnectObj, if_neg (by decide), if_neg (by rw [hnone]; decide)]
    simp only [hlog', hconns', hlog, hconns]
    rfl
  intro hall
  have hannounced := hall s.conns app (by rw [htlog]; simp)
  obtain ⟨hcount, -⟩ := hannounced.once (by rw [htlog]; simp)
  have hmem := List.count_pos_iff.1 (show 0 < _ by rw [hcount]; decide)
  rw [htlog] at hmem
  rcases List.mem_append.1 hmem with hmem | hmem
  · have hlt : s.conns < s.conns := h.log_lt _ hmem
    exact Nat.lt_irrefl _ hlt
  · simp at hmem

/-- After a step all connections are announced **exactly if no `::connect` succeeded at once**. -/
theorem AnnounceInv.allAnnounced_iff (h : s.AnnounceInv) {e : TableEvent} (hstep : s.step build e = some t) :
    t.AllAnnounced ↔ s.AnnounceOk e := by
  constructor
  · intro hall
    cases e with
    | connect socket error checked app =>
      rintro k hk rfl rfl
      obtain rfl : socket = some k := hk
      by_contra hslot
      exact not_allAnnounced_connect h (by simpa using hslot) hstep hall
    | accept | establish | handleDisconnect | report | poolUpdate => trivial
  · exact fun hok => (h.step hok hstep).allAnnounced

end ConnTable

/-- **All connections that go out are announced in every run** in which no `::connect` succeeds at once, and one
that does is not. -/
theorem allAnnounced_run {build : NetworkBuild} {es : List TableEvent} {s : ConnTable}
    (hrun : ((tableSystem build).restrict ConnTable.AnnounceOk).Run es s) :
    s.AllAnnounced ∧ ∀ e t, (tableSystem build).step s e t → (t.AllAnnounced ↔ s.AnnounceOk e) := by
  refine hrun.restrict_exact (p := ConnTable.AnnounceInv) (q := ConnTable.AllAnnounced) ?_ ?_ ?_
  · rintro _ rfl
    exact ConnTable.announceInv_start
  · exact fun s h => h.allAnnounced
  · intro s e t h hstep
    exact ⟨h.allAnnounced_iff hstep, fun hok => h.step hok hstep⟩

instance (s : ConnTable) : ∀ e : TableEvent, Decidable (s.AnnounceOk e)
  | .connect socket error checked _ =>
    inferInstanceAs (Decidable (∀ k ∈ socket, error = none → checked = true → (s.connects k).isSome))
  | .accept _ => isTrue trivial
  | .establish _ => isTrue trivial
  | .handleDisconnect _ _ => isTrue trivial
  | .report _ => isTrue trivial
  | .poolUpdate => isTrue trivial

/-- Two connections go out, one of them with an App tag; both are established, and there is data on them. -/
def outgoingEvents : List TableEvent :=
  [.connect (some 5) (some 115) true (some 7), .connect (some 6) (some 115) true none, .establish 5, .establish 6,
    .report ⟨5, false, none, some true⟩, .report ⟨6, false, some true, some true⟩,
    .report ⟨5, false, some true, none⟩]

/-- Each of them is announced as its tag says, once, and before its data. -/
theorem allAnnounced_two : ∃ s : ConnTable,
    s.log = [.created 0 (some 7), .created 1 none, .established 0, .established 1, .connected 0,
      .announced 0 (.addNetworkIdentify 7), .connected 1, .announced 1 .networkConnected, .handled 1, .handled 0] ∧
    s.AllAnnounced := by
  have hlog : (System.execute (ConnTable.step .epoll) ConnTable.AnnounceOk ConnTable.start outgoingEvents).map
      ConnTable.log = some [.created 0 (some 7), .created 1 none, .established 0, .established 1, .connected 0,
        .announced 0 (.addNetworkIdentify 7), .connected 1, .announced 1 .networkConnected, .handled 1,
        .handled 0] := by
    decide +kernel
  obtain ⟨s, hs, heq⟩ := Option.map_eq_some_iff.1 hlog
  exact ⟨s, heq, (allAnnounced_run (System.run_of_execute rfl hs)).1⟩

/-- **A connection that is established at once** is not announced. -/
theorem not_allAnnounced : ¬ ∀ (build : NetworkBuild) (es : List TableEvent) (s : ConnTable),
    (tableSystem build).Run es s → s.AllAnnounced := by
  intro hall
  obtain ⟨s, hs⟩ : ∃ s, ConnTable.start.connect (some 5) none true none = some s := ⟨_, rfl⟩
  have hrun : (tableSystem .epoll).Run ([] ++ [.connect (some 5) none true none]) s := .step (.init rfl) hs
  exact ConnTable.not_allAnnounced_connect ConnTable.announceInv_start rfl hs (hall _ _ s hrun)

end MmoServer
