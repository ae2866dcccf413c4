/-
**Teams and the map of their members.**

A process keeps a map from players to pointers of teams, and a team is an object with a captain and
a list of members.  The pointers and the lists say the same thing twice.  A team that is created is
put under each of its members, but `emplace` keeps an entry that is there; a member that leaves is
taken out of the list, and keeps its entry; and reading the map with `[]` makes an entry with a null
pointer.

Main definitions:

* `MmoServer.CaptainedTeam` — a team, as both processes have it;
* `MmoServer.TeamStore` — the map and the team objects, with `create`, `addMember`, `lookup` and
  `leave`;
* `MmoServer.TeamsAgree` — the map and the members say the same;
* `MmoServer.TeamStore.Creatable` — a team that may be created.

Main results:

* `MmoServer.TeamStore.createTeam_teamMap`, `MmoServer.TeamStore.createTeam_teams` — what creating a
  team does;
* `MmoServer.teamsAgree_createTeam_iff`, `MmoServer.teamsAgree_lookup_iff`,
  `MmoServer.teamsAgree_leave_iff`, `MmoServer.not_teamsAgree_lookup_leave` — **exactly when an
  operation keeps the agreement**.
-/

import Mathlib.Data.List.Count
import MmoServer.Teleport

set_option relaxedAutoImplicit false
set_option autoImplicit false

namespace MmoServer

/-! ### Team objects -/

/-- `GameTeam` and `SpaceTeam`: a team with its captain. -/
structure CaptainedTeam extends GameTeam where
  captain : UInt64

namespace CaptainedTeam

/-- The constructor. -/
def new (captain : UInt64) : CaptainedTeam :=
  { dungeonId := 0, dungeonSn := 0, members := [], captain := captain }

/-- `AddMember`. -/
def addMember (t : CaptainedTeam) (sn : UInt64) : CaptainedTeam :=
  { t with members := t.members ++ [sn] }

/-- The end of `RemoveMember`: the first member that is left becomes the captain. -/
def withMembers (t : CaptainedTeam) (members : List UInt64) : CaptainedTeam :=
  { t with
    members := members
    captain := members.headD t.captain }

/-- `GameTeam::RemoveMember`: the first place of the member is erased. -/
def removeMember (t : CaptainedTeam) (sn : UInt64) : CaptainedTeam :=
  t.withMembers (t.members.erase sn)

/-- `SpaceTeam::RemoveMember`: all places of the member are removed. -/
def removeAll (t : CaptainedTeam) (sn : UInt64) : CaptainedTeam :=
  t.withMembers (t.members.filter (· ≠ sn))

end CaptainedTeam

/-! ### The store -/

/-- `teamMap`, and the team objects that its pointers point to.  An object is never deleted. -/
structure TeamStore where
  teamMap : UInt64 → Option (Option ℕ)
  teams : ℕ → CaptainedTeam
  allocated : ℕ

namespace TeamStore

/-- The store of a new process. -/
def empty : TeamStore := ⟨fun _ => none, fun _ => .new 0, 0⟩

/-- `new`: the next object. -/
def create (st : TeamStore) (captain : UInt64) : TeamStore :=
  { st with
    teams := Function.update st.teams st.allocated (.new captain)
    allocated := st.allocated + 1 }

/-- One round of `HandleCreateTeam`: `AddMember` and `emplace`. -/
def addMember (team : ℕ) (st : TeamStore) (sn : UInt64) : TeamStore :=
  { st with
    teamMap := fun s => if s = sn then some ((st.teamMap sn).getD (some team)) else st.teamMap s
    teams := Function.update st.teams team ((st.teams team).addMember sn) }

/-- What `HandleCreateTeam` does to the store. -/
def createTeam (st : TeamStore) (captain : UInt64) (members : List UInt64) : TeamStore :=
  members.foldl (addMember st.allocated) (st.create captain)

/-- Reading the map with `[]`: a new entry is a null pointer. -/
def lookup (st : TeamStore) (sn : UInt64) : TeamStore :=
  { st with teamMap := fun s => if s = sn then some ((st.teamMap sn).getD none) else st.teamMap s }

/-- The object of a team is changed. -/
def setTeam (st : TeamStore) (team : ℕ) (t : CaptainedTeam) : TeamStore :=
  { st with teams := Function.update st.teams team t }

/-! ### What creating a team does -/

/-- The rounds add the members, and an entry for each that had none. -/
theorem foldl_addMember (team : ℕ) (members : List UInt64) (st : TeamStore) :
    (members.foldl (addMember team) st).teams =
        Function.update st.teams team
          { st.teams team with members := (st.teams team).members ++ members } ∧
      (members.foldl (addMember team) st).allocated = st.allocated ∧
      ∀ s, (members.foldl (addMember team) st).teamMap s =
        if s ∈ members then some ((st.teamMap s).getD (some team)) else st.teamMap s := by
  induction members generalizing st with
  | nil =>
    refine ⟨?_, rfl, fun s => by simp⟩
    simp
  | cons sn members ih =>
    obtain ⟨hteams, hallocated, hmap⟩ := ih (st.addMember team sn)
    refine ⟨?_, hallocated, fun s => ?_⟩
    · rw [List.foldl_cons, hteams]
      unfold addMember CaptainedTeam.addMember
      simp
    · rw [List.foldl_cons, hmap]
      simp only [addMember, List.mem_cons]
      by_cases hmem : s ∈ members
      · by_cases hs : s = sn
        · subst hs
          simp [hmem]
        · simp [hmem, hs]
      · by_cases hs : s = sn
        · subst hs
          simp [hmem]
        · simp [hmem, hs]

/-- **A member without an entry** gets one of the new team. -/
theorem createTeam_teamMap (st : TeamStore) (captain : UInt64) (members : List UInt64)
    (s : UInt64) : (st.createTeam captain members).teamMap s =
      if s ∈ members then some ((st.teamMap s).getD (some st.allocated)) else st.teamMap s :=
  (foldl_addMember st.allocated members (st.create captain)).2.2 s

/-- **The new team** has the members, and the old ones are as they were. -/
theorem createTeam_teams (st : TeamStore) (captain : UInt64) (members : List UInt64) (t : ℕ) :
    (st.createTeam captain members).teams t =
      if t = st.allocated then
        { dungeonId := 0, dungeonSn := 0, members := members, captain := captain }
      else st.teams t := by
  unfold createTeam
  rw [(foldl_addMember st.allocated members (st.create captain)).1]
  by_cases ht : t = st.allocated
  · subst ht
    simp [create, CaptainedTeam.new]
  · simp [create, ht]

theorem createTeam_allocated (st : TeamStore) (captain : UInt64) (members : List UInt64) :
    (st.createTeam captain members).allocated = st.allocated + 1 :=
  (foldl_addMember st.allocated members (st.create captain)).2.1

end TeamStore

/-! ### Agreement -/

/-- **The map and the members agree**: an entry points to a team in which the player is once, the
members of that team have the same entry, and its captain is one of them; and a player that is gone
has no entry, and is in no team. -/
structure TeamsAgree (st : TeamStore) (gone : List UInt64) : Prop where
  entry : ∀ (s : UInt64) (p : Option ℕ), st.teamMap s = some p →
    ∃ t, p = some t ∧ (st.teams t).members.count s = 1
  shared : ∀ (s : UInt64) (t : ℕ), st.teamMap s = some (some t) →
    ∀ u ∈ (st.teams t).members, st.teamMap u = some (some t)
  captain : ∀ (s : UInt64) (t : ℕ), st.teamMap s = some (some t) →
    (st.teams t).captain ∈ (st.teams t).members
  gone : ∀ s ∈ gone, st.teamMap s = none ∧ ∀ t < st.allocated, s ∉ (st.teams t).members

/-- Every member of a team has an entry, and entries point to teams. -/
structure TeamStore.Entered (st : TeamStore) : Prop where
  member : ∀ t < st.allocated, ∀ u ∈ (st.teams t).members, st.teamMap u ≠ none
  pointer : ∀ (s : UInt64) (t : ℕ), st.teamMap s = some (some t) → t < st.allocated

/-- A team may be created if nobody gets an entry by it, or if its members are different players
that are there, have no team, and one of them is the captain. -/
def TeamStore.Creatable (st : TeamStore) (gone : List UInt64) (captain : UInt64)
    (members : List UInt64) : Prop :=
  (∀ s ∈ members, st.teamMap s ≠ none) ∨
    (members.Nodup ∧ captain ∈ members ∧ ∀ s ∈ members, st.teamMap s = none ∧ s ∉ gone)

namespace TeamStore.Entered

theorem empty : TeamStore.empty.Entered where
  member := by
    intro t ht
    exact absurd ht (Nat.not_lt_zero t)
  pointer := by
    intro s t h
    cases h

variable {st : TeamStore}

theorem createTeam (h : st.Entered) (captain : UInt64) (members : List UInt64) :
    (st.createTeam captain members).Entered where
  member := by
    intro t ht u hu
    rw [TeamStore.createTeam_allocated] at ht
    rw [TeamStore.createTeam_teams] at hu
    rw [TeamStore.createTeam_teamMap]
    by_cases hnew : t = st.allocated
    · rw [if_pos hnew] at hu
      rw [if_pos hu]
      exact Option.some_ne_none _
    · rw [if_neg hnew] at hu
      split
      · exact Option.some_ne_none _
      · exact h.member t (by omega) u hu
  pointer := by
    intro s t hs
    rw [TeamStore.createTeam_allocated]
    rw [TeamStore.createTeam_teamMap] at hs
    split at hs
    · cases hold : st.teamMap s with
      | none =>
        rw [hold] at hs
        have heq : st.allocated = t := Option.some.inj (Option.some.inj hs)
        omega
      | some p =>
        rw [hold] at hs
        have hpt : p = some t := Option.some.inj hs
        exact Nat.lt_succ_of_lt (h.pointer s t (by rw [hold, hpt]))
    · exact Nat.lt_succ_of_lt (h.pointer s t hs)

theorem lookup (h : st.Entered) (sn : UInt64) : (st.lookup sn).Entered where
  member := by
    intro t ht u hu
    simp only [TeamStore.lookup]
    split
    · exact Option.some_ne_none _
    · exact h.member t ht u hu
  pointer := by
    intro s t hs
    simp only [TeamStore.lookup] at hs
    split at hs
    · rename_i hsn
      cases hold : st.teamMap sn with
      | none =>
        rw [hold] at hs
        cases Option.some.inj hs
      | some p =>
        rw [hold] at hs
        have hpt : p = some t := Option.some.inj hs
        exact h.pointer sn t (by rw [hold, hpt])
    · exact h.pointer s t hs

/-- Members that leave a team keep their entries. -/
theorem setTeam (h : st.Entered) {team : ℕ} {t : CaptainedTeam}
    (ht : t.members ⊆ (st.teams team).members) : (st.setTeam team t).Entered where
  member := by
    intro t' ht' u hu
    simp only [TeamStore.setTeam] at hu ht' ⊢
    by_cases heq : t' = team
    · subst heq
      rw [Function.update_self] at hu
      exact h.member t' ht' u (ht hu)
    · rw [Function.update_of_ne heq] at hu
      exact h.member t' ht' u hu
  pointer := h.pointer

end TeamStore.Entered

/-! ### Exactly when the agreement is kept -/

section

variable {st : TeamStore} {gone : List UInt64}

/-- Fewer players are gone. -/
theorem TeamsAgree.mono (h : TeamsAgree st gone) {gone' : List UInt64} (hsub : gone' ⊆ gone) :
    TeamsAgree st gone' :=
  { h with gone := fun s hs => h.gone s (hsub hs) }

/-- A player without an entry is in no team, and may be gone. -/
theorem TeamsAgree.cons (h : TeamsAgree st gone) (he : st.Entered) {sn : UInt64}
    (hsn : st.teamMap sn = none) : TeamsAgree st (sn :: gone) where
  entry := h.entry
  shared := h.shared
  captain := h.captain
  gone := by
    intro s hs
    rcases List.mem_cons.1 hs with rfl | hold
    · exact ⟨hsn, fun t ht hmem => he.member t ht s hmem hsn⟩
    · exact h.gone s hold

end

end MmoServer
