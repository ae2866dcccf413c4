/-
**The game apps that a login server knows.**

Every app tells the app manager how many players it has.  The app manager keeps a table of the apps, takes
an app out of it when its connection is closed, and sends the game apps of its table to the login servers,
every two seconds and after a disconnect, unless there are none.  A login server replaces its own table by
the list, and chooses a game app for a client from it.

Main definitions:

* `MmoServer.AppSyncComponent.syncGameInfoToLogin`, `MmoServer.AccountMgr.handleAppInfoListSync` — the list
  on its way to a login server;
* `MmoServer.SyncComponent.Choosable` — the game apps that can be chosen;
* `MmoServer.GameDirectory` — the app manager, a login server, and what is on its way between them;
* `MmoServer.GameDirectory.Converged` — what should hold: behind a list that was handled, both have the
  same game apps;
* `MmoServer.GameDirectory.Announces` — the steps that do not break it.

Main results:

* `MmoServer.SyncComponent.choosable_iff` — **an app can be chosen** exactly if `GetOneApp` chooses it for
  some numbers of players;
* `MmoServer.AccountMgr.choosable_handleAppInfoListSync` — what a list leaves to be chosen;
* `MmoServer.directory_exact` — **the first step that is not allowed breaks the agreement**;
* `MmoServer.directory_run` — **a login server has the live game apps** in every run of allowed steps;
* `MmoServer.not_converged` — the last game app is never taken from a login server.
-/

import MmoServer.CreateWorld
import MmoServer.Transition

set_option relaxedAutoImplicit false
set_option autoImplicit false

namespace MmoServer

open Std

/-! ### The apps that can be chosen -/

/-- `AppType & APP_GAME`. -/
def AppType.hasGame (app : AppType) : Bool := app = .game ∨ app = .allInOne

namespace SyncComponent

/-- A game app is in the table. -/
def Choosable (apps : AppTable) (appId : UInt64) : Prop :=
  ∃ info : AppInfo, apps[appId]? = some info ∧ info.appType.hasGame = true

variable {wanted : AppType → Bool} {apps apps' : AppTable} {appId : UInt64}

/-- The loop ends with an app without players that it comes to. -/
theorem leastOnline_of_zero {l : List (UInt64 × AppInfo)} {min : ℤ} {start : UInt64}
    (hmin : 0 < min ∨ min = 0 ∧ start = appId)
    (hl : ∀ e ∈ l, e.1 = appId ∧ e.2.online = 0 ∨ 0 < e.2.online)
    (hmem : min = 0 ∨ ∃ e ∈ l, e.1 = appId ∧ e.2.online = 0 ∧ wanted e.2.appType = true) :
    leastOnline wanted l min start = appId := by
  induction l generalizing min start with
  | nil =>
    rcases hmem with h | ⟨e, he, -⟩
    · rcases hmin with hpos | ⟨-, hstart⟩
      · omega
      · exact hstart
    · cases he
  | cons e rest ih =>
    have hrest := fun e' he' => hl e' (List.mem_cons_of_mem e he')
    unfold leastOnline
    split
    · rename_i hzero
      rcases hmin with hpos | ⟨-, hstart⟩
      · omega
      · exact hstart
    · rename_i hne
      have hpos : 0 < min := by omega
      have hleft : e.1 = appId ∧ e.2.online = 0 ∧ wanted e.2.appType = true ∨
          ∃ e' ∈ rest, e'.1 = appId ∧ e'.2.online = 0 ∧ wanted e'.2.appType = true := by
        obtain ⟨e', he', hspec⟩ := hmem.resolve_left hne
        rcases List.mem_cons.1 he' with rfl | hin
        · exact .inl hspec
        · exact .inr ⟨e', hin, hspec⟩
      split
      · rename_i hother
        refine ih (.inl hpos) hrest (.inr (hleft.resolve_left ?_))
        rintro ⟨-, -, hwanted⟩
        rw [hother] at hwanted
        cases hwanted
      · split
        · rcases hl e (List.mem_cons_self ..) with ⟨hid, hzero⟩ | hmore
          · exact ih (.inr ⟨hzero, hid⟩) hrest (.inl hzero)
          · refine ih (.inl hmore) hrest (.inr (hleft.resolve_left ?_))
            rintro ⟨-, hzero, -⟩
            omega
        · refine ih (.inl hpos) hrest (.inr (hleft.resolve_left ?_))
          rintro ⟨-, hzero, -⟩
          omega

/-- **An app can be chosen** exactly if `GetOneApp` chooses it for some numbers of players. -/
theorem choosable_iff : Choosable apps appId ↔ ∃ (online : UInt64 → ℤ) (apps' : AppTable),
    getOneApp AppType.hasGame (apps.map fun id info => { info with online := online id }) =
      some (appId, apps') := by
  constructor
  · rintro ⟨info, hinfo, hgame⟩
    refine ⟨fun id => if id = appId then 0 else 1, ?_⟩
    generalize htable : (apps.map fun id info =>
      ({ info with online := if id = appId then 0 else 1 } : AppInfo)) = table
    have hentry : ∀ (id : UInt64) (new : AppInfo), table[id]? = some new →
        new.online = if id = appId then 0 else 1 := by
      intro id new hnew
      rw [← htable, ExtTreeMap.getElem?_map] at hnew
      obtain ⟨old, -, rfl⟩ := Option.map_eq_some_iff.1 hnew
      rfl
    have hown : table[appId]? = some { info with online := 0 } := by
      rw [← htable, ExtTreeMap.getElem?_map, hinfo]
      simp
    have hlist : ∀ e ∈ table.toList, e.1 = appId ∧ e.2.online = 0 ∨ 0 < e.2.online := by
      intro e he
      have honline := hentry e.1 e.2 (ExtTreeMap.mem_toList_iff_getElem?_eq_some.1 he)
      by_cases hid : e.1 = appId
      · exact .inl ⟨hid, by simpa [hid] using honline⟩
      · exact .inr (by rw [honline, if_neg hid]; omega)
    unfold getOneApp
    cases hdrop : table.toList.dropWhile fun e => !e.2.appType.hasGame with
    | nil =>
      have hall := List.dropWhile_eq_nil_iff.1 hdrop (appId, { info with online := 0 })
        (ExtTreeMap.mem_toList_iff_getElem?_eq_some.2 hown)
      simp [hgame] at hall
    | cons first rest =>
      have hsub : ∀ e ∈ first :: rest, e ∈ table.toList := fun e he =>
        ExtTreeMap.mem_toList_iff_getElem?_eq_some.2 ((dropWhile_wanted hdrop).2 e he)
      have hin := mem_of_dropWhile_wanted hdrop hown hgame
      have hchosen : leastOnline AppType.hasGame (first :: rest) first.2.online first.1 = appId := by
        refine leastOnline_of_zero ?_ (fun e he => hlist e (hsub e he))
          (.inr ⟨_, hin, rfl, rfl, hgame⟩)
        rcases hlist first (hsub first (List.mem_cons_self ..)) with ⟨hid, hzero⟩ | hpos
        · exact .inr ⟨hzero, hid⟩
        · exact .inl hpos
      refine ⟨table.insert appId { info with online := 0 + 1 }, ?_⟩
      simp only [hchosen, hown, Option.map_some]
  · rintro ⟨online, apps', h⟩
    obtain ⟨new, hnew, hgame, -⟩ := getOneApp_some h
    rw [ExtTreeMap.getElem?_map] at hnew
    obtain ⟨info, hinfo, rfl⟩ := Option.map_eq_some_iff.1 hnew
    exact ⟨info, hinfo, hgame⟩

/-! ### How the set changes -/

variable {configured : AppType → UInt64 → Bool}

/-- One more player somewhere changes no set of apps. -/
theorem choosable_insert_online {info : AppInfo} (h : apps[appId]? = some info) (online : ℤ)
    (id : UInt64) :
    Choosable (apps.insert appId { info with online := online }) id ↔ Choosable apps id := by
  unfold Choosable
  rw [OrdMap.getElem?_insert]
  by_cases hid : appId = id
  · rw [if_pos hid, ← hid, h]
    simp
  · rw [if_neg hid]

theorem choosable_getOneApp (h : getOneApp wanted apps = some (appId, apps')) (id : UInt64) :
    Choosable apps' id ↔ Choosable apps id := by
  obtain ⟨info, hinfo, -, rfl⟩ := getOneApp_some h
  exact choosable_insert_online hinfo _ id

/-- Every app in the table is in the configuration. -/
def AllConfigured (configured : AppType → UInt64 → Bool) (apps : AppTable) : Prop :=
  ∀ (appId : UInt64) (info : AppInfo), apps[appId]? = some info →
    configured info.appType appId = true

theorem AllConfigured.empty : AllConfigured configured ∅ := by
  intro appId info h
  simp at h

theorem AllConfigured.parse (h : AllConfigured configured apps) (proto : AppInfoSync)
    (socket : ℤ) : AllConfigured configured (SyncComponent.parse configured apps proto socket) := by
  unfold SyncComponent.parse
  cases happ : apps[proto.appId]? with
  | none =>
    simp only
    split
    · rename_i hconfigured
      intro id info hinfo
      rcases OrdMap.of_getElem?_insert hinfo with ⟨rfl, rfl⟩ | ⟨-, hold⟩
      · exact hconfigured
      · exact h id info hold
    · exact h
  | some old =>
    intro id info hinfo
    rcases OrdMap.of_getElem?_insert hinfo with ⟨rfl, rfl⟩ | ⟨-, hold⟩
    · exact h proto.appId old happ
    · exact h id info hold

theorem AllConfigured.handleNetworkDisconnect (h : AllConfigured configured apps) (socket : ℤ) :
    AllConfigured configured (SyncComponent.handleNetworkDisconnect apps socket) := by
  unfold SyncComponent.handleNetworkDisconnect
  split
  · exact h
  · intro id info hinfo
    exact h id info (OrdMap.of_getElem?_erase hinfo).2

theorem AllConfigured.getOneApp (h : AllConfigured configured apps)
    (hone : SyncComponent.getOneApp wanted apps = some (appId, apps')) :
    AllConfigured configured apps' := by
  obtain ⟨info, hinfo, -, rfl⟩ := getOneApp_some hone
  intro id new hnew
  rcases OrdMap.of_getElem?_insert hnew with ⟨rfl, rfl⟩ | ⟨-, hold⟩
  · exact h appId info hinfo
  · exact h id new hold

end SyncComponent

open SyncComponent

/-! ### The list on its way -/

namespace AppSyncComponent

/-- The game apps of the table, for `Proto::AppInfoListSync`. -/
def gameInfos (apps : AppTable) : List AppInfoSync :=
  (apps.toList.filter fun e => e.2.appType.hasGame).map fun e => ⟨e.1, e.2.appType, e.2.online⟩

/-- `SyncGameInfoToLogin`: the list that is sent, if it is not empty. -/
def syncGameInfoToLogin (apps : AppTable) : Option (List AppInfoSync) :=
  if 0 < (gameInfos apps).length then some (gameInfos apps) else none

theorem mem_gameInfos {apps : AppTable} {proto : AppInfoSync} : proto ∈ gameInfos apps ↔
    ∃ info : AppInfo, apps[proto.appId]? = some info ∧ info.appType.hasGame = true ∧
      info.appType = proto.appType ∧ info.online = proto.online := by
  unfold gameInfos
  rw [List.mem_map]
  constructor
  · rintro ⟨e, he, rfl⟩
    obtain ⟨hlist, hgame⟩ := List.mem_filter.1 he
    exact ⟨e.2, ExtTreeMap.mem_toList_iff_getElem?_eq_some.1 hlist, hgame, rfl, rfl⟩
  · rintro ⟨info, hinfo, hgame, htype, honline⟩
    refine ⟨(proto.appId, info), List.mem_filter.2 ⟨?_, hgame⟩, ?_⟩
    · exact ExtTreeMap.mem_toList_iff_getElem?_eq_some.2 hinfo
    · rw [htype, honline]

/-- The list names the apps that can be chosen. -/
theorem exists_mem_gameInfos {apps : AppTable} {appId : UInt64} :
    (∃ proto ∈ gameInfos apps, proto.appId = appId) ↔ Choosable apps appId := by
  constructor
  · rintro ⟨proto, hmem, rfl⟩
    obtain ⟨info, hinfo, hgame, -, -⟩ := mem_gameInfos.1 hmem
    exact ⟨info, hinfo, hgame⟩
  · rintro ⟨info, hinfo, hgame⟩
    exact ⟨⟨appId, info.appType, info.online⟩, mem_gameInfos.2 ⟨info, hinfo, hgame, rfl, rfl⟩, rfl⟩

/-- **Nothing is sent** exactly if there is no game app. -/
theorem syncGameInfoToLogin_eq_none {apps : AppTable} :
    syncGameInfoToLogin apps = none ↔ ∀ appId, ¬ Choosable apps appId := by
  unfold syncGameInfoToLogin
  rw [ite_eq_right_iff]
  simp only [reduceCtorEq, imp_false, Nat.not_lt, Nat.le_zero, List.length_eq_zero_iff,
    ← exists_mem_gameInfos, List.eq_nil_iff_forall_not_mem]
  constructor
  · rintro h appId ⟨proto, hmem, -⟩
    exact h proto hmem
  · intro h proto hmem
    exact h proto.appId ⟨proto, hmem, rfl⟩

end AppSyncComponent

namespace AccountMgr

/-- `HandleAppInfoListSync`: the table is emptied, and filled with the list, without sockets. -/
def handleAppInfoListSync (configured : AppType → UInt64 → Bool) (proto : List AppInfoSync) :
    AppTable :=
  proto.foldl (fun apps one => parse configured apps one (-1)) ∅

/-- A list of game apps is added to a table of game apps. -/
theorem choosable_foldl_parse {configured : AppType → UInt64 → Bool} {proto : List AppInfoSync}
    (hproto : ∀ one ∈ proto, one.appType.hasGame = true ∧ configured one.appType one.appId = true)
    {apps : AppTable} (happs : ∀ (id : UInt64) (info : AppInfo), apps[id]? = some info →
      info.appType.hasGame = true) (appId : UInt64) :
    Choosable (proto.foldl (fun apps one => parse configured apps one (-1)) apps) appId ↔
      Choosable apps appId ∨ ∃ one ∈ proto, one.appId = appId := by
  induction proto generalizing apps with
  | nil => simp
  | cons one rest ih =>
    obtain ⟨hgame, hconfigured⟩ := hproto one (List.mem_cons_self ..)
    have hparse : ∃ info : AppInfo, info.appType.hasGame = true ∧
        parse configured apps one (-1) = apps.insert one.appId info := by
      unfold parse
      cases happ : apps[one.appId]? with
      | none => exact ⟨⟨one.appType, one.online, -1⟩, hgame, if_pos hconfigured⟩
      | some info =>
        exact ⟨{ info with online := one.online, socket := -1 }, happs one.appId info happ, rfl⟩
    obtain ⟨info, hinfo, hinsert⟩ := hparse
    have hgames : ∀ (id : UInt64) (i : AppInfo),
        (parse configured apps one (-1))[id]? = some i → i.appType.hasGame = true := by
      intro id i hi
      rw [hinsert] at hi
      rcases OrdMap.of_getElem?_insert hi with ⟨-, rfl⟩ | ⟨-, hold⟩
      · exact hinfo
      · exact happs id i hold
    have hone : Choosable (parse configured apps one (-1)) appId ↔
        Choosable apps appId ∨ one.appId = appId := by
      unfold Choosable
      rw [hinsert, OrdMap.getElem?_insert]
      by_cases hid : one.appId = appId
      · rw [if_pos hid]
        exact iff_of_true ⟨info, rfl, hinfo⟩ (.inr hid)
      · rw [if_neg hid]
        exact ⟨.inl, fun h => h.resolve_right hid⟩
    rw [List.foldl_cons, ih (fun o ho => hproto o (List.mem_cons_of_mem _ ho)) hgames, hone,
      List.exists_mem_cons_iff, or_assoc]

/-- **What a list leaves to be chosen** are the game apps of the table that it was made from. -/
theorem choosable_handleAppInfoListSync {configured : AppType → UInt64 → Bool} {apps : AppTable}
    (h : AllConfigured configured apps) (appId : UInt64) :
    Choosable (handleAppInfoListSync configured (AppSyncComponent.gameInfos apps)) appId ↔
      Choosable apps appId := by
  have hproto : ∀ one ∈ AppSyncComponent.gameInfos apps,
      one.appType.hasGame = true ∧ configured one.appType one.appId = true := by
    intro one hone
    obtain ⟨info, hinfo, hgame, htype, -⟩ := AppSyncComponent.mem_gameInfos.1 hone
    rw [← htype]
    exact ⟨hgame, h one.appId info hinfo⟩
  have hempty : ¬ Choosable ∅ appId := by
    rintro ⟨info, hinfo, -⟩
    simp at hinfo
  unfold handleAppInfoListSync
  rw [choosable_foldl_parse hproto (by simp), AppSyncComponent.exists_mem_gameInfos]
  exact ⟨fun hor => hor.resolve_left hempty, .inr⟩

end AccountMgr

/-! ### The system -/

/-- What the app manager knew when it synchronised, and the list that it sent. -/
structure GameSync where
  known : AppTable
  sent : Option (List AppInfoSync)

/-- The app manager, a login server and the connection between them: the tables of both, and the
synchronisations that the login server has not seen yet.  `handled` is what the app manager knew at the
last one whose message, if there was one, the login server has handled. -/
structure GameDirectory where
  manager : AppTable
  login : AppTable
  connected : Bool
  inFlight : List GameSync
  handled : Option AppTable

/-- What happens. -/
inductive DirectoryEvent
  /-- The app manager handles the report of an app. -/
  | appInfoSync (proto : AppInfoSync) (socket : ℤ)
  /-- A connection of the app manager is closed. -/
  | networkDisconnect (socketKey : SocketKey)
  /-- The timer of `SyncGameInfoToLogin`. -/
  | syncTimer
  /-- `HandleHttpRequestLogin`: the app manager chooses a login server for a client. -/
  | httpRequestLogin
  /-- `HandleTokenToRedisRs`: the login server chooses a game app for a client. -/
  | tokenToRedisRs
  /-- The next synchronisation reaches the login server. -/
  | handle
  /-- The login server connects to the app manager. -/
  | connectLogin
  /-- The connection to the login server is lost, and the messages on it with it. -/
  | disconnectLogin
  /-- The login server is started again. -/
  | restartLogin

namespace GameDirectory

variable (configured : AppType → UInt64 → Bool)

/-- Nobody has reported yet. -/
def start : GameDirectory := ⟨∅, ∅, false, [], none⟩

/-- `SyncGameInfoToLogin`, for the login server. -/
def sync (s : GameDirectory) : GameDirectory :=
  if s.connected then
    { s with inFlight :=
        s.inFlight ++ [⟨s.manager, AppSyncComponent.syncGameInfoToLogin s.manager⟩] }
  else s

/-- One event. -/
def step (s : GameDirectory) : DirectoryEvent → Option GameDirectory
  | .appInfoSync proto socket => some { s with manager := parse configured s.manager proto socket }
  | .networkDisconnect socketKey =>
    if socketKey.netType.isTcp = false then some s
    else
      some ({ s with manager := handleNetworkDisconnect s.manager socketKey.socket } :
        GameDirectory).sync
  | .syncTimer => some s.sync
  | .httpRequestLogin =>
    match getOneApp (fun t => t = .login ∨ t = .allInOne) s.manager with
    | none => some s
    | some (_, apps) => some { s with manager := apps }
  | .tokenToRedisRs =>
    match getOneApp AppType.hasGame s.login with
    | none => some s
    | some (_, apps) => some { s with login := apps }
  | .handle =>
    match s.inFlight with
    | [] => none
    | one :: rest =>
      some { s with
        login :=
          match one.sent with
          | none => s.login
          | some proto => AccountMgr.handleAppInfoListSync configured proto
        inFlight := rest
        handled := some one.known }
  | .connectLogin => some { s with connected := true }
  | .disconnectLogin => some { s with connected := false, inFlight := [], handled := none }
  | .restartLogin =>
    some { s with login := ∅, connected := false, inFlight := [], handled := none }

/-- The system. -/
def system : Transition.System GameDirectory DirectoryEvent :=
  Transition.System.ofFun (fun s => s = .start) (step configured)

/-- **Convergence.**  The login server can choose the game apps that the app manager knew at the last
synchronisation that was handled. -/
def Converged (s : GameDirectory) : Prop :=
  ∀ known ∈ s.handled, ∀ appId, Choosable s.login appId ↔ Choosable known appId

/-- **Steps that announce the game apps.**  A synchronisation sends a list, or the login server has no
game app to choose when it would come. -/
def Announces (s : GameDirectory) : DirectoryEvent → Prop
  | .handle => ∀ one ∈ s.inFlight.head?, one.sent = none → ∀ appId, ¬ Choosable s.login appId
  | _ => True

variable {configured} {s t : GameDirectory}

/-- What holds in the runs of such steps. -/
structure Invariant (configured : AppType → UInt64 → Bool) (s : GameDirectory) : Prop where
  manager : AllConfigured configured s.manager
  known : ∀ one ∈ s.inFlight, AllConfigured configured one.known
  sent : ∀ one ∈ s.inFlight, one.sent = AppSyncComponent.syncGameInfoToLogin one.known
  converged : s.Converged

/-- Nothing is under way, and nothing was handled since the login server connected. -/
theorem invariant_disconnected {manager : AppTable} (h : AllConfigured configured manager)
    (login : AppTable) :
    (⟨manager, login, false, [], none⟩ : GameDirectory).Invariant configured where
  manager := h
  known one hone := by cases hone
  sent one hone := by cases hone
  converged known hknown := by cases hknown

/-- The app manager's table changes. -/
theorem Invariant.manager_changed (h : s.Invariant configured) {apps : AppTable}
    (happs : AllConfigured configured apps) :
    ({ s with manager := apps } : GameDirectory).Invariant configured :=
  ⟨happs, h.known, h.sent, h.converged⟩

/-- One more synchronisation is under way. -/
theorem Invariant.sync (h : s.Invariant configured) : s.sync.Invariant configured := by
  unfold GameDirectory.sync
  split
  · refine ⟨h.manager, fun one hone => ?_, fun one hone => ?_, h.converged⟩
    · rcases List.mem_append.1 hone with hold | hnew
      · exact h.known one hold
      · rw [List.mem_singleton.1 hnew]
        exact h.manager
    · rcases List.mem_append.1 hone with hold | hnew
      · exact h.sent one hold
      · rw [List.mem_singleton.1 hnew]
  · exact h

/-- **A synchronisation is handled**: both agree then exactly if a list was sent, or the login server had
no game app. -/
theorem Invariant.handle_iff (h : s.Invariant configured) {one : GameSync} {rest : List GameSync}
    (hq : s.inFlight = one :: rest) :
    ({ s with
        login :=
          match one.sent with
          | none => s.login
          | some proto => AccountMgr.handleAppInfoListSync configured proto
        inFlight := rest
        handled := some one.known } : GameDirectory).Converged ↔ s.Announces .handle := by
  have hmem : one ∈ s.inFlight := by rw [hq]; exact List.mem_cons_self ..
  have hsent := h.sent one hmem
  have hiff : s.Announces .handle ↔
      (one.sent = none → ∀ appId, ¬ Choosable s.login appId) := by
    simp [Announces, hq]
  rw [hiff]
  cases hone : one.sent with
  | none =>
    have hnone := AppSyncComponent.syncGameInfoToLogin_eq_none.1 (hsent.symm.trans hone)
    constructor
    · intro hconverged _ appId hlogin
      exact hnone appId ((hconverged one.known rfl appId).1 hlogin)
    · intro hempty known hknown appId
      obtain rfl := Option.some.inj hknown
      exact iff_of_false (hempty rfl appId) (hnone appId)
  | some proto =>
    refine iff_of_true (fun known hknown appId => ?_) (fun hnone => by cases hnone)
    obtain rfl := Option.some.inj hknown
    have hproto : proto = AppSyncComponent.gameInfos one.known := by
      rw [hone, AppSyncComponent.syncGameInfoToLogin] at hsent
      split at hsent
      · exact Option.some.inj hsent
      · cases hsent
    rw [hproto]
    exact AccountMgr.choosable_handleAppInfoListSync (h.known one hmem) appId

/-- **One step**, exactly. -/
theorem Invariant.step (h : s.Invariant configured) {e : DirectoryEvent}
    (hv : s.step configured e = some t) :
    (t.Converged ↔ s.Announces e) ∧ (s.Announces e → t.Invariant configured) := by
  have hkept (ht : t.Invariant configured) (he : s.Announces e) :
      (t.Converged ↔ s.Announces e) ∧ (s.Announces e → t.Invariant configured) :=
    ⟨iff_of_true ht.converged he, fun _ => ht⟩
  cases e with
  | appInfoSync proto socket =>
    obtain rfl := Option.some.inj hv
    exact hkept (h.manager_changed (h.manager.parse proto socket)) trivial
  | networkDisconnect socketKey =>
    simp only [GameDirectory.step] at hv
    split at hv
    · obtain rfl := Option.some.inj hv
      exact hkept h trivial
    · obtain rfl := Option.some.inj hv
      exact hkept (h.manager_changed (h.manager.handleNetworkDisconnect _)).sync trivial
  | syncTimer =>
    obtain rfl := Option.some.inj hv
    exact hkept h.sync trivial
  | httpRequestLogin =>
    simp only [GameDirectory.step] at hv
    split at hv
    · obtain rfl := Option.some.inj hv
      exact hkept h trivial
    · rename_i hone
      obtain rfl := Option.some.inj hv
      exact hkept (h.manager_changed (h.manager.getOneApp hone)) trivial
  | tokenToRedisRs =>
    simp only [GameDirectory.step] at hv
    split at hv
    · obtain rfl := Option.some.inj hv
      exact hkept h trivial
    · rename_i hone
      obtain rfl := Option.some.inj hv
      refine hkept ⟨h.manager, h.known, h.sent, fun known hknown appId => ?_⟩ trivial
      exact (choosable_getOneApp hone appId).trans (h.converged known hknown appId)
  | handle =>
    simp only [GameDirectory.step] at hv
    split at hv
    · cases hv
    · rename_i one rest hq
      obtain rfl := Option.some.inj hv
      refine ⟨h.handle_iff hq, fun hannounces => ⟨h.manager, fun o ho => ?_, fun o ho => ?_, ?_⟩⟩
      · exact h.known o (by rw [hq]; exact List.mem_cons_of_mem _ ho)
      · exact h.sent o (by rw [hq]; exact List.mem_cons_of_mem _ ho)
      · exact (h.handle_iff hq).2 hannounces
  | connectLogin =>
    obtain rfl := Option.some.inj hv
    exact hkept ⟨h.manager, h.known, h.sent, h.converged⟩ trivial
  | disconnectLogin =>
    obtain rfl := Option.some.inj hv
    exact hkept (invariant_disconnected h.manager s.login) trivial
  | restartLogin =>
    obtain rfl := Option.some.inj hv
    exact hkept (invariant_disconnected h.manager ∅) trivial

end GameDirectory

/-! ### Runs -/

/-- **Convergence, exactly.**  It holds in every run of steps that announce the game apps, and the next
step keeps it exactly if it is one of these. -/
theorem directory_exact {configured : AppType → UInt64 → Bool} {es : List DirectoryEvent}
    {s : GameDirectory}
    (hrun : ((GameDirectory.system configured).restrict GameDirectory.Announces).Run es s) :
    s.Converged ∧ ∀ e t, (GameDirectory.system configured).step s e t →
      (t.Converged ↔ s.Announces e) := by
  refine hrun.restrict_exact (p := GameDirectory.Invariant configured) ?_ ?_ ?_
  · rintro s rfl
    exact GameDirectory.invariant_disconnected AllConfigured.empty ∅
  · exact fun s h => h.converged
  · exact fun s e t h hstep => h.step hstep

/-- **A login server has the live game apps** of the app manager behind every synchronisation that was
handled, in every run of steps that announce them. -/
theorem directory_run {configured : AppType → UInt64 → Bool} {es : List DirectoryEvent}
    {s : GameDirectory}
    (hrun : ((GameDirectory.system configured).restrict GameDirectory.Announces).Run es s) :
    s.Converged :=
  (directory_exact hrun).1

instance (apps : AppTable) : Decidable (∀ appId, ¬ Choosable apps appId) :=
  letI : Decidable (∀ (appId : UInt64) (info : AppInfo), apps[appId]? = some info →
      ¬ info.appType.hasGame = true) := OrdMap.decidableForall
  decidable_of_iff (∀ (appId : UInt64) (info : AppInfo), apps[appId]? = some info →
      ¬ info.appType.hasGame = true)
    ⟨fun h appId ⟨info, hinfo, hgame⟩ => h appId info hinfo hgame,
      fun h appId info hinfo hgame => h appId ⟨info, hinfo, hgame⟩⟩

instance (s : GameDirectory) (e : DirectoryEvent) : Decidable (s.Announces e) :=
  match e with
  | .handle => Option.decidableForallMem _
  | .appInfoSync _ _ | .networkDisconnect _ | .syncTimer | .httpRequestLogin => .isTrue trivial
  | .tokenToRedisRs | .connectLogin | .disconnectLogin | .restartLogin => .isTrue trivial

/-- Two game apps report, and the first one goes. -/
def directoryEvents : List DirectoryEvent :=
  [.connectLogin, .appInfoSync ⟨201, .game, 0⟩ 5, .appInfoSync ⟨202, .game, 3⟩ 6, .syncTimer,
    .handle, .tokenToRedisRs, .networkDisconnect ⟨5, .tcpListen⟩, .handle]

theorem directory_events : ∃ s,
    ((GameDirectory.system fun _ _ => true).restrict GameDirectory.Announces).Run
      directoryEvents s ∧ (getOneApp AppType.hasGame s.login).map Prod.fst = some 202 ∧
        s.Converged := by
  have hrun : (Transition.System.execute (GameDirectory.step fun _ _ => true)
      GameDirectory.Announces .start directoryEvents).map (fun s =>
        (getOneApp AppType.hasGame s.login).map Prod.fst) = some (some 202) := by
    decide
  obtain ⟨s, hs, hchosen⟩ := Option.map_eq_some_iff.1 hrun
  have hevents : ((GameDirectory.system fun _ _ => true).restrict GameDirectory.Announces).Run
      directoryEvents s := Transition.System.run_of_execute rfl hs
  exact ⟨s, hevents, hchosen, directory_run hevents⟩

/-- The only game app reports, and goes. -/
def lastGameLeaves : List DirectoryEvent :=
  [.connectLogin, .appInfoSync ⟨201, .game, 0⟩ 5, .syncTimer, .handle,
    .networkDisconnect ⟨5, .tcpListen⟩, .handle]

/-- **The last game app** is never taken from the login server. -/
theorem not_converged : ¬ ∀ (configured : AppType → UInt64 → Bool) (es : List DirectoryEvent)
    (s : GameDirectory), (GameDirectory.system configured).Run es s → s.Converged := by
  intro hall
  have hrun : (Transition.System.execute (GameDirectory.step fun _ _ => true)
      (fun _ _ => True) .start lastGameLeaves).map (fun s =>
        (s.handled.map fun known => known.toList.length,
          s.login[(201 : UInt64)]?.map AppInfo.appType)) = some (some 0, some .game) := by
    decide
  obtain ⟨s, hs, hfound⟩ := Option.map_eq_some_iff.1 hrun
  obtain ⟨hhandled, hlogin⟩ := Prod.mk.inj hfound
  have hevents : (GameDirectory.system fun _ _ => true).Run lastGameLeaves s :=
    Transition.System.run_of_execute_true rfl hs
  obtain ⟨known, hknown, hempty⟩ := Option.map_eq_some_iff.1 hhandled
  obtain ⟨info, hinfo, htype⟩ := Option.map_eq_some_iff.1 hlogin
  have hchoosable : Choosable s.login 201 := ⟨info, hinfo, by rw [htype]; rfl⟩
  obtain ⟨other, hother, -⟩ :=
    (hall _ lastGameLeaves s hevents known hknown 201).1 hchoosable
  have hmem := ExtTreeMap.mem_toList_iff_getElem?_eq_some.2 hother
  rw [List.length_eq_zero_iff.1 hempty] at hmem
  cases hmem

end MmoServer
