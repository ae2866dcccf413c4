/-
**The app with the fewest players.**

`GetOneApp` goes through the table of apps from the first one of the wanted type, stops early at an app
without players, and counts the app that it returns as having one player more.  The counts are of type
`int`; a table that holds the largest one for all apps of the type has no place for one more.

Main definitions:

* `MmoServer.SyncComponent.callGetOneApp` — a call, with what it returns and the table behind it;
* `MmoServer.SyncComponent.calls` — calls one behind the other;
* `MmoServer.SyncComponent.IsLeast` — an app of the type with the fewest players.

Main results:

* `MmoServer.SyncComponent.leastOnline_least` — what the loop finds;
* `MmoServer.SyncComponent.callGetOneApp_least` — what a call does;
* `MmoServer.SyncComponent.Balanced.calls` — what any number of calls keeps;
* `MmoServer.SyncComponent.leastLoaded` — **each call chooses an app with the fewest players**, and the apps
  that were chosen stay balanced;
* `MmoServer.SyncComponent.not_leastLoaded` — an app with as many players as an `int` can count.
-/

import MmoServer.GameDirectory

set_option relaxedAutoImplicit false
set_option autoImplicit false

namespace MmoServer

open Std

namespace SyncComponent

/-! ### Calls -/

/-- The largest `int`. -/
def intMax : ℤ := 2147483647

/-- `GetOneApp`: the app with its entry, if one is found, and the table.  There is no result where the
number of players goes beyond an `int`. -/
def callGetOneApp (wanted : AppType → Bool) (apps : AppTable) :
    Option (Option (UInt64 × AppInfo) × AppTable) :=
  match getOneApp wanted apps with
  | none => some (none, apps)
  | some (appId, apps') =>
    (apps'[appId]?).bind fun info =>
      if info.online ≤ intMax then some (some (appId, info), apps') else none

/-- So many calls behind each other, with the apps that they return. -/
def calls (wanted : AppType → Bool) : ℕ → AppTable → Option (List UInt64 × AppTable)
  | 0, apps => some ([], apps)
  | n + 1, apps =>
    (callGetOneApp wanted apps).bind fun one =>
      (calls wanted n one.2).map fun rest => ((one.1.map Prod.fst).toList ++ rest.1, rest.2)

/-- The entry of an app of the wanted type. -/
def IsWanted (wanted : AppType → Bool) (apps : AppTable) (appId : UInt64) (info : AppInfo) : Prop :=
  apps[appId]? = some info ∧ wanted info.appType = true

/-- No app of the wanted type has fewer players. -/
structure IsLeast (wanted : AppType → Bool) (apps : AppTable) (appId : UInt64) (info : AppInfo) : Prop where
  isWanted : IsWanted wanted apps appId info
  least : ∀ appId' info', IsWanted wanted apps appId' info' → info.online ≤ info'.online

/-- No app has a negative number of players. -/
def NonNegative (apps : AppTable) : Prop :=
  ∀ (appId : UInt64) (info : AppInfo), apps[appId]? = some info → 0 ≤ info.online

/-- One player more. -/
def more (info : AppInfo) : AppInfo := { info with online := info.online + 1 }

variable {wanted : AppType → Bool} {apps apps' : AppTable} {appId : UInt64}

/-! ### One call -/

/-- **What the loop finds**: the least number among the one that it starts with and those of the apps of the
type, with its app.  It stops early only at zero. -/
theorem leastOnline_least (wanted : AppType → Bool) {l : List (UInt64 × AppInfo)} {min : ℤ} (hmin : 0 ≤ min)
    (hl : ∀ e ∈ l, 0 ≤ e.2.online) (appId : UInt64) :
    ∃ m ≤ min, (∀ e ∈ l, wanted e.2.appType = true → m ≤ e.2.online) ∧
      (leastOnline wanted l min appId = appId ∧ m = min ∨
        ∃ e ∈ l, wanted e.2.appType = true ∧ e.1 = leastOnline wanted l min appId ∧ e.2.online = m) := by
  induction l generalizing min appId with
  | nil => exact ⟨min, le_rfl, fun e he => (nomatch he), .inl ⟨rfl, rfl⟩⟩
  | cons e rest ih =>
    have hrest : ∀ e' ∈ rest, 0 ≤ e'.2.online := fun e' he' => hl e' (.tail _ he')
    rw [leastOnline]
    split
    · rename_i hzero
      exact ⟨min, le_rfl, fun e' he' _ => hzero ▸ hl e' he', .inl ⟨rfl, rfl⟩⟩
    · split
      · rename_i hother
        obtain ⟨m, hm, hleast, hfound⟩ := ih hmin hrest appId
        refine ⟨m, hm, fun e' he' hwanted => ?_, ?_⟩
        · obtain rfl | hin := List.mem_cons.1 he'
          · rw [hother] at hwanted
            cases hwanted
          · exact hleast e' hin hwanted
        · obtain hsame | ⟨e', he', hspec⟩ := hfound
          · exact .inl hsame
          · exact .inr ⟨e', .tail _ he', hspec⟩
      · rename_i hwanted
        have hwanted' : wanted e.2.appType = true := Bool.not_eq_false _ ▸ hwanted
        split
        · rename_i hless
          obtain ⟨m, hm, hleast, hfound⟩ := ih (hl e (.head _)) hrest e.1
          refine ⟨m, hm.trans hless.le, fun e' he' hwanted => ?_, ?_⟩
          · obtain rfl | hin := List.mem_cons.1 he'
            · exact hm
            · exact hleast e' hin hwanted
          · obtain ⟨hsame, hm⟩ | ⟨e', he', hspec⟩ := hfound
            · exact .inr ⟨e, .head _, hwanted', hsame.symm, hm.symm⟩
            · exact .inr ⟨e', .tail _ he', hspec⟩
        · rename_i hnot
          obtain ⟨m, hm, hleast, hfound⟩ := ih hmin hrest appId
          refine ⟨m, hm, fun e' he' hwanted => ?_, ?_⟩
          · obtain rfl | hin := List.mem_cons.1 he'
            · exact hm.trans (Int.not_lt.1 hnot)
            · exact hleast e' hin hwanted
          · obtain hsame | ⟨e', he', hspec⟩ := hfound
            · exact .inl hsame
            · exact .inr ⟨e', .tail _ he', hspec⟩

/-- **What is found** is an app with the fewest players. -/
theorem getOneApp_least (happs : NonNegative apps) (h : getOneApp wanted apps = some (appId, apps')) :
    ∃ info, IsLeast wanted apps appId info ∧ apps' = apps.insert appId (more info) := by
  obtain ⟨info, hinfo, hwanted, rfl⟩ := getOneApp_some h
  refine ⟨info, ⟨⟨hinfo, hwanted⟩, fun appId' info' hother => ?_⟩, rfl⟩
  unfold getOneApp at h
  split at h
  · cases h
  · rename_i first rest hdrop
    obtain ⟨hfirst, hmem⟩ := dropWhile_wanted hdrop
    have hcounts : ∀ e ∈ first :: rest, 0 ≤ e.2.online := fun e he => happs e.1 e.2 (hmem e he)
    obtain ⟨m, -, hleast, hfound⟩ :=
      leastOnline_least wanted (hcounts first (.head _)) hcounts first.1
    obtain ⟨_, -, heq⟩ := Option.map_eq_some_iff.1 h
    have hid := (Prod.mk.inj heq).1
    -- what stands in front of the first app of the type is of no interest
    have hin := mem_of_dropWhile_wanted hdrop hother.1 hother.2
    have honline : info.online = m := by
      obtain ⟨hsame, hm⟩ | ⟨e, he, -, hkey, hm⟩ := hfound
      · have hentry := hmem first (.head _)
        rw [← hsame, hid, hinfo] at hentry
        rw [Option.some.inj hentry, hm]
      · have hentry := hmem e he
        rw [hkey, hid, hinfo] at hentry
        rw [Option.some.inj hentry, hm]
    rw [honline]
    exact hleast _ hin hother.2

/-- **What a call does** where the fewest players can be counted up. -/
theorem callGetOneApp_least (happs : NonNegative apps) {info₀ : AppInfo} {appId₀ : UInt64}
    (hwanted : IsWanted wanted apps appId₀ info₀) (hcount : info₀.online < intMax) :
    ∃ appId info, IsLeast wanted apps appId info ∧
      callGetOneApp wanted apps =
        some (some (appId, more info), apps.insert appId (more info)) := by
  have hsome := getOneApp_isSome_iff.2 ⟨appId₀, info₀, hwanted⟩
  obtain ⟨⟨appId, apps'⟩, hfound⟩ := Option.isSome_iff_exists.1 hsome
  obtain ⟨info, hleast, rfl⟩ := getOneApp_least happs hfound
  refine ⟨appId, info, hleast, ?_⟩
  have hle : (more info).online ≤ intMax := by
    have hmin := hleast.least appId₀ info₀ hwanted
    simp only [more]
    omega
  simp only [callGetOneApp, hfound, ExtTreeMap.getElem?_insert_self, Option.bind_some, if_pos hle]

/-- Where there is no app of the type, nothing is changed. -/
theorem callGetOneApp_none (h : ∀ appId info, ¬ IsWanted wanted apps appId info) :
    callGetOneApp wanted apps = some (none, apps) := by
  have hnone : getOneApp wanted apps = none := by
    cases hfound : getOneApp wanted apps with
    | none => rfl
    | some found =>
      obtain ⟨appId, info, hinfo⟩ := getOneApp_isSome_iff.1 (by rw [hfound]; rfl)
      exact absurd hinfo (h appId info)
  simp only [callGetOneApp, hnone]

/-- What a call that has a result may have done. -/
theorem of_callGetOneApp (happs : NonNegative apps) {found : Option (UInt64 × AppInfo)}
    (h : callGetOneApp wanted apps = some (found, apps')) :
    found = none ∧ apps' = apps ∨
      ∃ appId info, IsLeast wanted apps appId info ∧ found = some (appId, more info) ∧
        apps' = apps.insert appId (more info) := by
  unfold callGetOneApp at h
  split at h
  · obtain ⟨rfl, rfl⟩ := Prod.mk.inj (Option.some.inj h)
    exact .inl ⟨rfl, rfl⟩
  · rename_i appId apps'' hone
    obtain ⟨info, hleast, rfl⟩ := getOneApp_least happs hone
    rw [ExtTreeMap.getElem?_insert_self, Option.bind_some] at h
    obtain ⟨-, hsome⟩ := Option.ite_none_right_eq_some.1 h
    obtain ⟨rfl, rfl⟩ := Prod.mk.inj (Option.some.inj hsome)
    exact .inr ⟨appId, info, hleast, rfl, rfl⟩

/-- The entries of a table in which an app has one player more. -/
theorem isWanted_insert_more {info : AppInfo} (hinfo : IsWanted wanted apps appId info) (b : UInt64)
    (other : AppInfo) : IsWanted wanted (apps.insert appId (more info)) b other ↔
      b = appId ∧ other = more info ∨ b ≠ appId ∧ IsWanted wanted apps b other := by
  by_cases hb : b = appId
  · subst hb
    simp only [IsWanted, ExtTreeMap.getElem?_insert_self, Option.some.injEq, true_and, ne_eq, not_true,
      false_and, or_false]
    exact ⟨fun h => h.1.symm, fun h => ⟨h.symm, h ▸ hinfo.2⟩⟩
  · simp only [IsWanted, OrdMap.getElem?_insert, Ne.symm hb, if_false, hb, false_and, ne_eq, not_false_iff,
      true_and, false_or]

theorem NonNegative.insert_more {info : AppInfo} (happs : NonNegative apps)
    (hinfo : IsWanted wanted apps appId info) : NonNegative (apps.insert appId (more info)) := by
  intro b other hother
  rw [OrdMap.getElem?_insert] at hother
  split at hother
  · have honline := happs appId info hinfo.1
    rw [← Option.some.inj hother]
    show 0 ≤ info.online + 1
    omega
  · exact happs b other hother

/-! ### Many calls -/

/-- **The apps that were chosen are balanced**: no app of the type is more than one player behind. -/
def Balanced (wanted : AppType → Bool) (apps : AppTable) (chosen : List UInt64) : Prop :=
  ∀ a ∈ chosen, ∃ info, IsWanted wanted apps a info ∧
    ∀ b other, IsWanted wanted apps b other → info.online ≤ other.online + 1

/-- The app with the fewest players is at most one in front when it gets one more. -/
theorem Balanced.insert_more {chosen : List UInt64} {info : AppInfo} (h : Balanced wanted apps chosen)
    (hleast : IsLeast wanted apps appId info) :
    Balanced wanted (apps.insert appId (more info)) (chosen ++ [appId]) := by
  have hnew : ∃ info', IsWanted wanted (apps.insert appId (more info)) appId info' ∧
      ∀ b other, IsWanted wanted (apps.insert appId (more info)) b other →
        info'.online ≤ other.online + 1 := by
    refine ⟨more info, (isWanted_insert_more hleast.isWanted ..).2 (.inl ⟨rfl, rfl⟩), fun b other hother => ?_⟩
    obtain ⟨-, rfl⟩ | ⟨-, hold⟩ := (isWanted_insert_more hleast.isWanted ..).1 hother
    · omega
    · have hmin := hleast.least b other hold
      show info.online + 1 ≤ other.online + 1
      omega
  intro a ha
  by_cases hsame : a = appId
  · rw [hsame]
    exact hnew
  · have hold : a ∈ chosen := by
      obtain hin | hlast := List.mem_append.1 ha
      · exact hin
      · exact absurd (List.mem_singleton.1 hlast) hsame
    obtain ⟨info', hinfo', hnear⟩ := h a hold
    refine ⟨info', (isWanted_insert_more hleast.isWanted ..).2 (.inr ⟨hsame, hinfo'⟩), fun b other hother => ?_⟩
    obtain ⟨-, rfl⟩ | ⟨-, hother⟩ := (isWanted_insert_more hleast.isWanted ..).1 hother
    · have hbefore := hnear appId info hleast.isWanted
      show info'.online ≤ info.online + 1 + 1
      omega
    · exact hnear b other hother

/-- **Any number of calls** keeps the balance. -/
theorem Balanced.calls {n : ℕ} {chosen chosen' : List UInt64} (happs : NonNegative apps)
    (h : Balanced wanted apps chosen) (hcalls : calls wanted n apps = some (chosen', apps')) :
    Balanced wanted apps' (chosen ++ chosen') := by
  induction n generalizing apps chosen chosen' with
  | zero =>
    obtain ⟨rfl, rfl⟩ := Prod.mk.inj (Option.some.inj hcalls)
    rw [List.append_nil]
    exact h
  | succ n ih =>
    obtain ⟨⟨found, apps₁⟩, hone, hthen⟩ := Option.bind_eq_some_iff.1 hcalls
    obtain ⟨⟨rest, apps₂⟩, hrest, heq⟩ := Option.map_eq_some_iff.1 hthen
    obtain ⟨rfl, rfl⟩ := Prod.mk.inj heq
    obtain ⟨rfl, rfl⟩ | ⟨appId, info, hleast, rfl, rfl⟩ := of_callGetOneApp happs hone
    · exact ih happs h hrest
    · have hmore := ih (happs.insert_more hleast.isWanted) (h.insert_more hleast) hrest
      rw [List.append_assoc] at hmore
      exact hmore

/-- Calls have results as long as some app of the type has places for all of them. -/
theorem calls_isSome {n : ℕ} {info : AppInfo} (happs : NonNegative apps)
    (hwanted : IsWanted wanted apps appId info) (hcount : info.online + n ≤ intMax) :
    (calls wanted n apps).isSome = true := by
  induction n generalizing apps info with
  | zero => rfl
  | succ n ih =>
    obtain ⟨appId', info', hleast, hcall⟩ := callGetOneApp_least happs hwanted (by omega)
    have hnonneg := happs.insert_more hleast.isWanted
    have hrest : (calls wanted n (apps.insert appId' (more info'))).isSome = true := by
      by_cases hsame : appId = appId'
      · subst hsame
        obtain rfl : info' = info := Option.some.inj (hleast.isWanted.1.symm.trans hwanted.1)
        refine ih hnonneg ((isWanted_insert_more hleast.isWanted ..).2 (.inl ⟨rfl, rfl⟩)) ?_
        show info'.online + 1 + n ≤ intMax
        omega
      · exact ih hnonneg ((isWanted_insert_more hleast.isWanted ..).2 (.inr ⟨hsame, hwanted⟩)) (by omega)
    rw [calls, hcall, Option.bind_some, Option.isSome_map]
    exact hrest

/-- **Each call chooses an app with the fewest players.**  It returns an app of the type with the least
number, and that number goes up by one; or there is no app of the type, and nothing changes.  Behind any
number of calls, two apps that were chosen differ by one player at most. -/
theorem leastLoaded (wanted : AppType → Bool) {apps : AppTable} (happs : NonNegative apps) :
    ((∀ appId info, ¬ IsWanted wanted apps appId info) → callGetOneApp wanted apps = some (none, apps)) ∧
    (∀ appId₀ info₀, IsWanted wanted apps appId₀ info₀ → info₀.online < intMax →
      ∃ appId info, IsLeast wanted apps appId info ∧
        callGetOneApp wanted apps = some (some (appId, more info), apps.insert appId (more info))) ∧
    (∀ (n : ℕ) appId info, IsWanted wanted apps appId info → info.online + n ≤ intMax →
      (calls wanted n apps).isSome = true) ∧
    ∀ n chosen apps', calls wanted n apps = some (chosen, apps') → ∀ a ∈ chosen, ∀ b ∈ chosen,
      ∃ infoA infoB, apps'[a]? = some infoA ∧ apps'[b]? = some infoB ∧
        infoA.online ≤ infoB.online + 1 ∧ infoB.online ≤ infoA.online + 1 := by
  refine ⟨callGetOneApp_none, fun _ _ hwanted hcount => callGetOneApp_least happs hwanted hcount,
    fun _ _ _ hwanted hcount => calls_isSome happs hwanted hcount, fun n chosen apps' hcalls a ha b hb => ?_⟩
  have hnone : Balanced wanted apps [] := fun a ha => (nomatch ha)
  have hbalanced : Balanced wanted apps' chosen := hnone.calls happs hcalls
  obtain ⟨infoA, hA, hnearA⟩ := hbalanced a ha
  obtain ⟨infoB, hB, hnearB⟩ := hbalanced b hb
  exact ⟨infoA, infoB, hA.1, hB.1, hnearA b infoB hB, hnearB a infoA hA⟩

/-- A table with one app. -/
def oneApp (online : ℤ) : AppTable := (∅ : AppTable).insert 1 ⟨.game, online, 5⟩

theorem getElem?_oneApp {online : ℤ} {appId : UInt64} {info : AppInfo} :
    (oneApp online)[appId]? = some info ↔ appId = 1 ∧ info = ⟨.game, online, 5⟩ := by
  rw [oneApp, OrdMap.getElem?_insert]
  by_cases hid : appId = 1
  · simp [hid, eq_comm]
  · simp [hid, Ne.symm hid]

/-- Three games with different numbers of players, and a space without any. -/
def fourApps : AppTable :=
  ((((∅ : AppTable).insert 1 ⟨.game, 3, 5⟩).insert 2 ⟨.game, 1, 6⟩).insert 3 ⟨.game, 2, 7⟩).insert 4 ⟨.space, 0, 8⟩

theorem nonNegative_fourApps : NonNegative fourApps := by
  intro appId info hinfo
  simp only [fourApps, OrdMap.getElem?_insert] at hinfo
  split_ifs at hinfo
  · rw [← Option.some.inj hinfo]
  · rw [← Option.some.inj hinfo]
    decide
  · rw [← Option.some.inj hinfo]
    decide
  · rw [← Option.some.inj hinfo]
    decide
  · simp at hinfo

/-- The first call chooses the second game, which has the fewest players; behind five calls the games that were
chosen are balanced. -/
theorem leastLoaded_four :
    (∃ info, IsLeast AppType.hasGame fourApps 2 info) ∧
    ∃ apps', calls AppType.hasGame 5 fourApps = some ([2, 2, 3, 1, 2], apps') ∧
      apps'.toList.map (fun e => e.2.online) = [4, 4, 3, 0] ∧
      ∃ infoA infoB, apps'[(1 : UInt64)]? = some infoA ∧ apps'[(3 : UInt64)]? = some infoB ∧
        infoA.online ≤ infoB.online + 1 ∧ infoB.online ≤ infoA.online + 1 := by
  have hspec := leastLoaded AppType.hasGame nonNegative_fourApps
  have hone : (callGetOneApp AppType.hasGame fourApps).map (fun r => r.1.map Prod.fst) = some (some 2) := by
    decide +kernel
  have hfive : (calls AppType.hasGame 5 fourApps).map (fun r => (r.1, r.2.toList.map fun e => e.2.online)) =
      some ([2, 2, 3, 1, 2], [4, 4, 3, 0]) := by
    decide +kernel
  constructor
  · have hwanted : IsWanted AppType.hasGame fourApps 2 ⟨.game, 1, 6⟩ := by
      refine ⟨?_, rfl⟩
      rw [fourApps, OrdMap.getElem?_insert, if_neg (by decide), OrdMap.getElem?_insert, if_neg (by decide),
        OrdMap.getElem?_insert, if_pos rfl]
    obtain ⟨appId, info, hleast, hcall⟩ := hspec.2.1 2 ⟨.game, 1, 6⟩ hwanted (by decide)
    rw [hcall] at hone
    obtain rfl : appId = 2 := Option.some.inj (Option.some.inj hone)
    exact ⟨info, hleast⟩
  · obtain ⟨⟨chosen, apps'⟩, hcalls, heq⟩ := Option.map_eq_some_iff.1 hfive
    obtain ⟨rfl, hcounts⟩ := Prod.mk.inj heq
    exact ⟨apps', hcalls, hcounts, hspec.2.2.2 5 _ apps' hcalls 1 (by decide) 3 (by decide)⟩

/-- **No call counts beyond an `int`.** -/
theorem not_leastLoaded : ¬ ∀ (wanted : AppType → Bool) (apps : AppTable), NonNegative apps →
    (∃ appId info, IsWanted wanted apps appId info) →
    ∃ appId info, IsLeast wanted apps appId info ∧
      callGetOneApp wanted apps = some (some (appId, more info), apps.insert appId (more info)) := by
  intro h
  have hnonneg : NonNegative (oneApp intMax) := by
    intro appId info hinfo
    rw [(getElem?_oneApp.1 hinfo).2]
    decide
  obtain ⟨appId, info, hleast, hcall⟩ := h AppType.hasGame (oneApp intMax) hnonneg
    ⟨1, ⟨.game, intMax, 5⟩, getElem?_oneApp.2 ⟨rfl, rfl⟩, rfl⟩
  obtain ⟨rfl, rfl⟩ := getElem?_oneApp.1 hleast.isWanted.1
  unfold callGetOneApp at hcall
  split at hcall
  · cases hcall
  · rename_i appId' apps' hone
    obtain ⟨info', hleast', rfl⟩ := getOneApp_least hnonneg hone
    obtain ⟨rfl, rfl⟩ := getElem?_oneApp.1 hleast'.isWanted.1
    rw [ExtTreeMap.getElem?_insert_self, Option.bind_some, if_neg (by decide)] at hcall
    cases hcall

end SyncComponent

end MmoServer
