/-
**The apps that a process knows.**

An app manager and a login server have a table of the apps that have told them how many players they have.
`GetOneApp` chooses the app of a type with the fewest players from it, and counts one more player there until
the app itself says something else.

Main definitions:

* `MmoServer.AppInfoSync` — what an app reports;
* `MmoServer.SyncComponent.parse`, `MmoServer.SyncComponent.handleNetworkDisconnect`,
  `MmoServer.SyncComponent.getOneApp` — the table of apps.

Main results:

* `MmoServer.SyncComponent.getOneApp_some` — **the app that is found** is in the table;
* `MmoServer.SyncComponent.getOneApp_isSome_iff` — an app is found exactly if there is one.
-/

import MmoServer.WorldProxy

set_option relaxedAutoImplicit false
set_option autoImplicit false

namespace MmoServer

open Std

/-! ### The table of apps -/

/-- `AppInfo`, with what the component reads. -/
structure AppInfo where
  appType : AppType
  online : ℤ
  socket : ℤ

/-- `Proto::AppInfoSync`. -/
structure AppInfoSync where
  appId : UInt64
  appType : AppType
  online : ℤ
  deriving DecidableEq

/-- The table of a `SyncComponent`. -/
abbrev AppTable := ExtTreeMap UInt64 AppInfo compare

namespace SyncComponent

/-- `Parse`.  A new app must be in the configuration, and keeps its type. -/
def parse (configured : AppType → UInt64 → Bool) (apps : AppTable) (proto : AppInfoSync)
    (socket : ℤ) : AppTable :=
  match apps[proto.appId]? with
  | none =>
    if configured proto.appType proto.appId then
      apps.insert proto.appId ⟨proto.appType, proto.online, socket⟩
    else apps
  | some info => apps.insert proto.appId { info with online := proto.online, socket := socket }

/-- `HandleNetworkDisconnect`: the first app that is connected by the socket is removed. -/
def handleNetworkDisconnect (apps : AppTable) (socket : ℤ) : AppTable :=
  match OrdMap.findIf apps fun _ info => info.socket = socket with
  | none => apps
  | some (appId, _) => apps.erase appId

/-- The loop of `GetOneApp` behind the first app: the least number of players so far, and its app. -/
def leastOnline (wanted : AppType → Bool) : List (UInt64 × AppInfo) → ℤ → UInt64 → UInt64
  | [], _, appId => appId
  | e :: rest, min, appId =>
    if min = 0 then appId
    else if wanted e.2.appType = false then leastOnline wanted rest min appId
    else if e.2.online < min then leastOnline wanted rest e.2.online e.1
    else leastOnline wanted rest min appId

/-- `GetOneApp`: the app, and the table in which it has one player more. -/
def getOneApp (wanted : AppType → Bool) (apps : AppTable) : Option (UInt64 × AppTable) :=
  match apps.toList.dropWhile fun e => !wanted e.2.appType with
  | [] => none
  | first :: rest =>
    let appId := leastOnline wanted (first :: rest) first.2.online first.1
    (apps[appId]?).map fun info =>
      (appId, apps.insert appId { info with online := info.online + 1 })

/-! ### What is found -/

variable {wanted : AppType → Bool} {apps apps' : AppTable} {appId : UInt64}

/-- The loop ends with the app that it started with, or with one that it saw. -/
theorem leastOnline_mem (wanted : AppType → Bool) (l : List (UInt64 × AppInfo)) (min : ℤ)
    (appId : UInt64) :
    leastOnline wanted l min appId = appId ∨
      ∃ e ∈ l, e.1 = leastOnline wanted l min appId ∧ wanted e.2.appType = true := by
  induction l generalizing min appId with
  | nil => exact .inl rfl
  | cons e rest ih =>
    have hskip : ∀ min appId, leastOnline wanted rest min appId = appId ∨
        ∃ e' ∈ e :: rest, e'.1 = leastOnline wanted rest min appId ∧
          wanted e'.2.appType = true := by
      intro min appId
      rcases ih min appId with hsame | ⟨e', he', hspec⟩
      · exact .inl hsame
      · exact .inr ⟨e', List.mem_cons_of_mem _ he', hspec⟩
    unfold leastOnline
    split
    · exact .inl rfl
    · split
      · exact hskip min appId
      · rename_i hwanted
        split
        · rcases hskip e.2.online e.1 with hsame | hseen
          · exact .inr ⟨e, List.mem_cons_self .., hsame.symm, Bool.not_eq_false _ ▸ hwanted⟩
          · exact .inr hseen
        · exact hskip min appId

/-- The first wanted app of the table, and what is behind it. -/
theorem dropWhile_wanted {first : UInt64 × AppInfo} {rest : List (UInt64 × AppInfo)}
    (h : (apps.toList.dropWhile fun e => !wanted e.2.appType) = first :: rest) :
    wanted first.2.appType = true ∧ ∀ e ∈ first :: rest, apps[e.1]? = some e.2 := by
  constructor
  · have hhead := List.head?_dropWhile_not (fun e => !wanted e.2.appType) apps.toList
    rw [h] at hhead
    simpa using hhead
  · intro e he
    rw [← h] at he
    exact ExtTreeMap.mem_toList_iff_getElem?_eq_some.1 ((List.dropWhile_sublist _).subset he)

/-- The wanted apps are behind it. -/
theorem mem_of_dropWhile_wanted {first : UInt64 × AppInfo} {rest : List (UInt64 × AppInfo)}
    (h : (apps.toList.dropWhile fun e => !wanted e.2.appType) = first :: rest) {info : AppInfo}
    (hinfo : apps[appId]? = some info) (hwanted : wanted info.appType = true) :
    (appId, info) ∈ first :: rest := by
  have hmem := ExtTreeMap.mem_toList_iff_getElem?_eq_some.2 hinfo
  rw [← List.takeWhile_append_dropWhile (p := fun e => !wanted e.2.appType) (l := apps.toList),
    h] at hmem
  refine (List.mem_append.1 hmem).resolve_left fun htake => ?_
  have hnot := List.mem_takeWhile_imp htake
  simp [hwanted] at hnot

/-- The loop ends with a wanted app of the table. -/
theorem exists_leastOnline {first : UInt64 × AppInfo} {rest : List (UInt64 × AppInfo)}
    (h : (apps.toList.dropWhile fun e => !wanted e.2.appType) = first :: rest) :
    ∃ info : AppInfo, apps[leastOnline wanted (first :: rest) first.2.online first.1]? = some info ∧
      wanted info.appType = true := by
  obtain ⟨hfirst, hmem⟩ := dropWhile_wanted h
  rcases leastOnline_mem wanted (first :: rest) first.2.online first.1 with
    hsame | ⟨e, he, hkey, hwanted⟩
  · rw [hsame]
    exact ⟨first.2, hmem first (List.mem_cons_self ..), hfirst⟩
  · rw [← hkey]
    exact ⟨e.2, hmem e he, hwanted⟩

/-- **What `GetOneApp` finds** is a wanted app of the table. -/
theorem getOneApp_some (h : getOneApp wanted apps = some (appId, apps')) :
    ∃ info : AppInfo, apps[appId]? = some info ∧ wanted info.appType = true ∧
      apps' = apps.insert appId { info with online := info.online + 1 } := by
  unfold getOneApp at h
  split at h
  · cases h
  · rename_i first rest hdrop
    obtain ⟨info, hinfo, heq⟩ := Option.map_eq_some_iff.1 h
    obtain ⟨rfl, rfl⟩ := Prod.mk.inj heq
    obtain ⟨chosen, hchosen, hwanted⟩ := exists_leastOnline hdrop
    rw [hinfo] at hchosen
    rw [← Option.some.inj hchosen] at hwanted
    exact ⟨info, hinfo, hwanted, rfl⟩

/-- **`GetOneApp` finds an app** exactly if a wanted one is in the table. -/
theorem getOneApp_isSome_iff : (getOneApp wanted apps).isSome = true ↔
    ∃ (appId : UInt64) (info : AppInfo), apps[appId]? = some info ∧
      wanted info.appType = true := by
  constructor
  · intro h
    obtain ⟨⟨appId, apps'⟩, hfound⟩ := Option.isSome_iff_exists.1 h
    obtain ⟨info, hinfo, hwanted, -⟩ := getOneApp_some hfound
    exact ⟨appId, info, hinfo, hwanted⟩
  · rintro ⟨appId, info, hinfo, hwanted⟩
    unfold getOneApp
    split
    · rename_i hdrop
      have hall := List.dropWhile_eq_nil_iff.1 hdrop (appId, info)
        (ExtTreeMap.mem_toList_iff_getElem?_eq_some.2 hinfo)
      simp [hwanted] at hall
    · rename_i first rest hdrop
      obtain ⟨chosen, hchosen, -⟩ := exists_leastOnline hdrop
      rw [Option.isSome_map, hchosen]
      rfl

end SyncComponent

end MmoServer
