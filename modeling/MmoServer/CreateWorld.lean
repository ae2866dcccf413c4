/-
**The app manager and the worlds it has created.**

The app manager knows the apps that are connected, and asks the space app with the fewest players to
create a public world when a game app requests it.  It remembers the worlds whose creation it has
requested, the public worlds, and the dungeons.  When an app disconnects, what was on it is
forgotten, and a world that was being created there is requested again.

App ids are not negative, and they are a `UInt64` like the numbers that they are a part of.

Main definitions:

* `MmoServer.AppType.value`, `MmoServer.getAppKey`, `MmoServer.generateSn` — the numbers that have an
  app id in them;
* `MmoServer.CreateWorldComponent`, with `getOneApp`, `reqCreateWorld`, `handleRequestWorld`,
  `handleBroadcastCreateWorld`, `handleNetworkDisconnect` and `parse`;
* `MmoServer.CreateWorldComponent.Records` — a world is remembered.

Main results:

* `MmoServer.idFromAppKey_getAppKey`, `MmoServer.appIdFromSn_generateSn` — a short app id is read
  back;
* `MmoServer.CreateWorldComponent.getOneApp_eq` — the table of apps is that of a `SyncComponent`;
* `MmoServer.CreateWorldComponent.getOneApp_some` — **the app that is chosen** is in the table;
* `MmoServer.CreateWorldComponent.handleRequestWorld_cases` — **what a request does**;
* `MmoServer.CreateWorldComponent.recreate_spec`,
  `MmoServer.CreateWorldComponent.handleNetworkDisconnect_spec` — **what a disconnect does**.
-/

import MmoServer.PlayerTransit
import MmoServer.SyncComponent
import MmoServer.Teleport

set_option relaxedAutoImplicit false
set_option autoImplicit false

namespace MmoServer

open Std

/-! ### Apps and serial numbers -/

/-- The bits of `APP_TYPE`. -/
def AppType.value : AppType → UInt64
  | dbMgr => 1
  | appMgr => 6
  | login => 8
  | game => 16
  | space => 32
  | allInOne => 63

/-- `GetAppKey`. -/
def getAppKey (appType : AppType) (appId : UInt64) : UInt64 := (appType.value <<< 32) + appId

/-- `Global::GenerateSN`: the time, the app, and a number that counts up. -/
def generateSn (timeTick appId : UInt64) (snTicket : UInt16) : UInt64 :=
  ((timeTick >>> 10) <<< 26) + (appId <<< 16) + snTicket.toUInt64

/-- The app ids that fit into a serial number. -/
def maxAppId : UInt64 := 1024

/-- **The app id of a key**. -/
theorem idFromAppKey_getAppKey (appType : AppType) {appId : UInt64} (h : appId < maxAppId) :
    idFromAppKey (getAppKey appType appId) = appId := by
  have hid : appId.toNat < 1024 := UInt64.lt_iff_toNat_lt.1 h
  have htype : (appType.value <<< 32).toNat % 65536 = 0 := by cases appType <;> rfl
  apply UInt64.toNat_inj.1
  unfold idFromAppKey getAppKey
  rw [UInt64.toNat_and, UInt64.toNat_add]
  have hmask : (0xFFFF : UInt64).toNat = 2 ^ 16 - 1 := rfl
  rw [hmask, Nat.and_two_pow_sub_one_eq_mod]
  omega

/-- **The app id of a serial number**. -/
theorem appIdFromSn_generateSn (timeTick : UInt64) {appId : UInt64} (snTicket : UInt16)
    (h : appId < maxAppId) : appIdFromSn (generateSn timeTick appId snTicket) = appId := by
  have hid : appId.toNat < 1024 := UInt64.lt_iff_toNat_lt.1 h
  have hticket : snTicket.toUInt64.toNat < 65536 := by
    rw [UInt16.toNat_toUInt64]
    exact UInt16.toNat_lt snTicket
  apply UInt64.toNat_inj.1
  unfold appIdFromSn generateSn
  simp only [UInt64.toNat_shiftRight, UInt64.toNat_shiftLeft, UInt64.toNat_add,
    Nat.shiftLeft_eq, Nat.shiftRight_eq_div_pow]
  have h38 : (38 : UInt64).toNat % 64 = 38 := rfl
  have h16 : (16 : UInt64).toNat % 64 = 16 := rfl
  have h26 : (26 : UInt64).toNat % 64 = 26 := rfl
  rw [h38, h16, h26]
  omega

/-! ### The component -/

/-- What stays of an app while its number of players changes. -/
def AppInfo.place (info : AppInfo) : AppType × ℤ := (info.appType, info.socket)

/-- `CreateWorldComponent`: the apps, and for worlds being created the space app, for public worlds
the serial number, and for the serial numbers of dungeons the world. -/
structure CreateWorldComponent where
  apps : ExtTreeMap UInt64 AppInfo compare
  creating : ExtTreeMap ℤ UInt64 compare
  created : ExtTreeMap ℤ UInt64 compare
  dungeons : ExtTreeMap UInt64 ℤ compare

/-- What the component sends. -/
inductive ManagerMsg
  /-- `G2S_CreateWorld`, to a space app. -/
  | createWorld (appId : UInt64) (worldId : ℤ)
  /-- `MI_BroadcastCreateWorld`, to the sender of a request. -/
  | broadcastCreateWorld (worldId : ℤ) (worldSn : UInt64)
  deriving DecidableEq

namespace CreateWorldComponent

/-- The state at the start. -/
def empty : CreateWorldComponent := ⟨∅, ∅, ∅, ∅⟩

/-- `SyncComponent::Parse`.  A new app must be in the configuration. -/
def parse (m : CreateWorldComponent) (configured : Bool) (appId : UInt64) (appType : AppType)
    (online : ℤ) (socket : ℤ) : CreateWorldComponent :=
  match m.apps[appId]? with
  | none => if configured then { m with apps := m.apps.insert appId ⟨appType, online, socket⟩ } else m
  | some info =>
    { m with apps := m.apps.insert appId { info with online := online, socket := socket } }

/-- The loop of `GetOneApp` behind the first app: the least number of players so far, and its app. -/
def leastOnline : List (UInt64 × AppInfo) → ℤ → UInt64 → UInt64
  | [], _, appId => appId
  | e :: rest, min, appId =>
    if min = 0 then appId
    else if e.2.appType.hasSpace = false then leastOnline rest min appId
    else if e.2.online < min then leastOnline rest e.2.online e.1
    else leastOnline rest min appId

/-- `GetOneApp` for a space app: the app, and the table in which it has one player more. -/
def getOneApp (apps : ExtTreeMap UInt64 AppInfo compare) :
    Option (UInt64 × ExtTreeMap UInt64 AppInfo compare) :=
  match apps.toList.dropWhile fun e => !e.2.appType.hasSpace with
  | [] => none
  | first :: rest =>
    let appId := leastOnline (first :: rest) first.2.online first.1
    (apps[appId]?).map fun info =>
      (appId, apps.insert appId { info with online := info.online + 1 })

/-- `ReqCreateWorld`: the app that was asked, or nothing for `INVALID_ID`. -/
def reqCreateWorld (m : CreateWorldComponent) (worldId : ℤ) :
    Option UInt64 × CreateWorldComponent × List ManagerMsg :=
  match getOneApp m.apps with
  | none => (none, m, [])
  | some (appId, apps) => (some appId, { m with apps := apps }, [.createWorld appId worldId])

/-- `HandleRequestWorld`. -/
def handleRequestWorld (worldType : ℤ → Option ResourceWorldType) (m : CreateWorldComponent)
    (worldId : ℤ) : CreateWorldComponent × List ManagerMsg :=
  match worldType worldId with
  | none => (m, [])
  | some t =>
    if t ≠ .publicWorld then (m, [])
    else
      match m.creating[worldId]? with
      | some _ => (m, [])
      | none =>
        match m.created[worldId]? with
        | some worldSn => (m, [.broadcastCreateWorld worldId worldSn])
        | none =>
          match m.reqCreateWorld worldId with
          | (none, m, sent) => (m, sent)
          | (some appId, m, sent) =>
            ({ m with creating := m.creating.insert worldId appId }, sent)

/-- `HandleBroadcastCreateWorld`; an unknown world is a null pointer. -/
def handleBroadcastCreateWorld (worldType : ℤ → Option ResourceWorldType)
    (m : CreateWorldComponent) (worldId : ℤ) (worldSn : UInt64) : Option CreateWorldComponent :=
  match worldType worldId with
  | none => none
  | some t =>
    if t = .publicWorld then
      some { m with
        created := m.created.insert worldId worldSn
        creating := m.creating.erase worldId }
    else some { m with dungeons := m.dungeons.insert worldSn worldId }

/-- `SyncComponent::HandleNetworkDisconnect`: the app that is connected by the socket is removed. -/
def removeApp (m : CreateWorldComponent) (socket : ℤ) : CreateWorldComponent :=
  match OrdMap.findIf m.apps fun _ info => info.socket = socket with
  | none => m
  | some (appId, _) => { m with apps := m.apps.erase appId }

/-- The first loop of `HandleNetworkDisconnect`, over the worlds that were being created on the app:
each of them is removed and requested again.  The result of the request is not used. -/
def recreate (m : CreateWorldComponent) : List ℤ → CreateWorldComponent × List ManagerMsg
  | [] => (m, [])
  | worldId :: rest =>
    let r := { m with creating := m.creating.erase worldId }.reqCreateWorld worldId
    let t := recreate r.2.1 rest
    (t.1, r.2.2 ++ t.2)

/-- The worlds that are being created on an app. -/
def creatingOn (m : CreateWorldComponent) (appId : UInt64) : List ℤ :=
  (m.creating.toList.filter fun e => e.2 = appId).map Prod.fst

/-- `HandleNetworkDisconnect`. -/
def handleNetworkDisconnect (m : CreateWorldComponent) (socketKey : SocketKey)
    (appKey : Option UInt64) : CreateWorldComponent × List ManagerMsg :=
  if socketKey.netType.isTcp = false then (m, [])
  else
    let m := m.removeApp socketKey.socket
    match appKey with
    | none => (m, [])
    | some key =>
      let appId := idFromAppKey key
      let r := m.recreate (m.creatingOn appId)
      ({ r.1 with
        created := OrdMap.eraseIf r.1.created fun _ worldSn => appIdFromSn worldSn = appId
        dungeons := OrdMap.eraseIf r.1.dungeons fun worldSn _ => appIdFromSn worldSn = appId }, r.2)

/-! ### What the functions do -/

/-- A world is remembered under its id if it is public, and under its serial number otherwise. -/
def Records (worldType : ℤ → Option ResourceWorldType) (m : CreateWorldComponent) (worldId : ℤ)
    (worldSn : UInt64) : Prop :=
  if worldType worldId = some .publicWorld then m.created[worldId]? = some worldSn
  else m.dungeons[worldSn]? = some worldId

/-- The table is that of a `SyncComponent`. -/
theorem parse_eq (m : CreateWorldComponent) (configured : AppType → UInt64 → Bool)
    (proto : AppInfoSync) (socket : ℤ) :
    (m.parse (configured proto.appType proto.appId) proto.appId proto.appType proto.online
      socket).apps = SyncComponent.parse configured m.apps proto socket := by
  unfold parse SyncComponent.parse
  cases m.apps[proto.appId]? with
  | none => cases configured proto.appType proto.appId <;> rfl
  | some info => rfl

theorem removeApp_eq (m : CreateWorldComponent) (socket : ℤ) :
    (m.removeApp socket).apps = SyncComponent.handleNetworkDisconnect m.apps socket := by
  unfold removeApp SyncComponent.handleNetworkDisconnect
  cases OrdMap.findIf m.apps fun _ info => info.socket = socket with
  | none => rfl
  | some e => rfl

theorem leastOnline_eq (l : List (UInt64 × AppInfo)) (min : ℤ) (appId : UInt64) :
    leastOnline l min appId = SyncComponent.leastOnline AppType.hasSpace l min appId := by
  induction l generalizing min appId with
  | nil => rfl
  | cons e rest ih => simp only [leastOnline, SyncComponent.leastOnline, ih]

theorem getOneApp_eq (apps : AppTable) :
    getOneApp apps = SyncComponent.getOneApp AppType.hasSpace apps := by
  unfold getOneApp SyncComponent.getOneApp
  cases apps.toList.dropWhile fun e => !e.2.appType.hasSpace with
  | nil => rfl
  | cons first rest => simp only [leastOnline_eq]

/-- **The app that is chosen** is in the table, it is a space app, and only its number of players
changes. -/
theorem getOneApp_some {apps apps' : ExtTreeMap UInt64 AppInfo compare} {appId : UInt64}
    (h : getOneApp apps = some (appId, apps')) :
    ∃ info : AppInfo, apps[appId]? = some info ∧ info.appType.hasSpace = true ∧
      apps' = apps.insert appId { info with online := info.online + 1 } := by
  rw [getOneApp_eq] at h
  exact SyncComponent.getOneApp_some h

/-- The apps of two tables are the same ones, with other numbers of players. -/
def SamePlaces (apps apps' : ExtTreeMap UInt64 AppInfo compare) : Prop :=
  ∀ appId : UInt64, apps'[appId]?.map AppInfo.place = apps[appId]?.map AppInfo.place

theorem samePlaces_refl (apps : ExtTreeMap UInt64 AppInfo compare) : SamePlaces apps apps :=
  fun _ => rfl

theorem SamePlaces.trans {apps apps' apps'' : ExtTreeMap UInt64 AppInfo compare}
    (h : SamePlaces apps apps') (h' : SamePlaces apps' apps'') : SamePlaces apps apps'' :=
  fun appId => (h' appId).trans (h appId)

/-- One more player is the same place. -/
theorem samePlaces_insert {apps : ExtTreeMap UInt64 AppInfo compare} {appId : UInt64}
    {info : AppInfo} (h : apps[appId]? = some info) (online : ℤ) :
    SamePlaces apps (apps.insert appId { info with online := online }) := by
  intro a
  rw [OrdMap.getElem?_insert]
  by_cases ha : appId = a
  · rw [if_pos ha, ← ha, h]
    rfl
  · rw [if_neg ha]

/-- An entry of one of the tables has a counterpart in the other one. -/
theorem SamePlaces.exists {apps apps' : ExtTreeMap UInt64 AppInfo compare}
    (h : SamePlaces apps apps') {appId : UInt64} {info' : AppInfo} (ha : apps'[appId]? = some info') :
    ∃ info, apps[appId]? = some info ∧ info.place = info'.place := by
  have hplace := h appId
  rw [ha, Option.map_some] at hplace
  exact Option.map_eq_some_iff.1 hplace.symm

/-- A space app is in the table. -/
def HasSpaceApp (apps : ExtTreeMap UInt64 AppInfo compare) (appId : UInt64) : Prop :=
  ∃ info : AppInfo, apps[appId]? = some info ∧ info.appType.hasSpace = true

theorem HasSpaceApp.of_samePlaces {apps apps' : ExtTreeMap UInt64 AppInfo compare}
    (h : SamePlaces apps apps') {appId : UInt64} (ha : HasSpaceApp apps' appId) :
    HasSpaceApp apps appId := by
  obtain ⟨info', hinfo', hspace⟩ := ha
  obtain ⟨info, hinfo, hplace⟩ := h.exists hinfo'
  refine ⟨info, hinfo, ?_⟩
  rw [show info.appType = info'.appType from congrArg Prod.fst hplace]
  exact hspace

/-- **What `ReqCreateWorld` does**: nothing, or one space app is asked. -/
theorem reqCreateWorld_cases (m : CreateWorldComponent) (worldId : ℤ) :
    m.reqCreateWorld worldId = (none, m, []) ∨
      ∃ appId apps, HasSpaceApp m.apps appId ∧ SamePlaces m.apps apps ∧
        m.reqCreateWorld worldId =
          (some appId, { m with apps := apps }, [.createWorld appId worldId]) := by
  unfold reqCreateWorld
  cases hone : getOneApp m.apps with
  | none => exact .inl rfl
  | some r =>
    obtain ⟨appId, apps⟩ := r
    obtain ⟨info, hinfo, hspace, happs⟩ := getOneApp_some hone
    refine .inr ⟨appId, apps, ⟨info, hinfo, hspace⟩, ?_, rfl⟩
    rw [happs]
    exact samePlaces_insert hinfo _

/-- **What a request does**: nothing but an answer to its sender, or the creation of a public world
that is neither created nor being created is requested, and remembered. -/
theorem handleRequestWorld_cases (worldType : ℤ → Option ResourceWorldType)
    (m : CreateWorldComponent) (worldId : ℤ) :
    ((m.handleRequestWorld worldType worldId).1 = m ∧
        ∀ msg ∈ (m.handleRequestWorld worldType worldId).2, ∃ sn, msg = .broadcastCreateWorld worldId sn) ∨
      (worldType worldId = some .publicWorld ∧ m.creating[worldId]? = none ∧
        m.created[worldId]? = none ∧ ∃ appId apps, HasSpaceApp m.apps appId ∧
          SamePlaces m.apps apps ∧ m.handleRequestWorld worldType worldId =
            ({ m with apps := apps, creating := m.creating.insert worldId appId },
              [.createWorld appId worldId])) := by
  have hnothing : ∀ msg ∈ ([] : List ManagerMsg), ∃ sn, msg = .broadcastCreateWorld worldId sn := by
    intro msg hmsg
    cases hmsg
  unfold handleRequestWorld
  cases htype : worldType worldId with
  | none => exact .inl ⟨rfl, hnothing⟩
  | some t =>
    by_cases ht : t = .publicWorld
    · subst ht
      simp only [ne_eq, not_true_eq_false, if_false]
      cases hcreating : m.creating[worldId]? with
      | some appId => exact .inl ⟨rfl, hnothing⟩
      | none =>
        cases hcreated : m.created[worldId]? with
        | some sn =>
          refine .inl ⟨rfl, fun msg hmsg => ⟨sn, List.mem_singleton.1 hmsg⟩⟩
        | none =>
          rcases m.reqCreateWorld_cases worldId with hreq | ⟨appId, apps, hspace, hplaces, hreq⟩
          · simp only [hreq]
            exact .inl ⟨trivial, hnothing⟩
          · simp only [hreq]
            exact .inr ⟨trivial, trivial, trivial, appId, apps, hspace, hplaces, rfl⟩
    · simp only [ne_eq, ht, not_false_eq_true, if_true]
      exact .inl ⟨trivial, hnothing⟩

/-- **What an announcement does**: a public world is not being created any more, and every world is
remembered. -/
theorem handleBroadcastCreateWorld_cases {worldType : ℤ → Option ResourceWorldType}
    {m m' : CreateWorldComponent} {worldId : ℤ} {worldSn : UInt64}
    (h : m.handleBroadcastCreateWorld worldType worldId worldSn = some m') :
    (worldType worldId = some .publicWorld ∧
        m' = { m with
          created := m.created.insert worldId worldSn
          creating := m.creating.erase worldId }) ∨
      (worldType worldId ≠ some .publicWorld ∧
        m' = { m with dungeons := m.dungeons.insert worldSn worldId }) := by
  unfold handleBroadcastCreateWorld at h
  cases htype : worldType worldId with
  | none =>
    rw [htype] at h
    cases h
  | some t =>
    rw [htype] at h
    simp only at h
    by_cases ht : t = .publicWorld
    · rw [if_pos ht] at h
      exact .inl ⟨congrArg some ht, (Option.some.inj h).symm⟩
    · rw [if_neg ht] at h
      exact .inr ⟨fun heq => ht (Option.some.inj heq), (Option.some.inj h).symm⟩

/-- **What the first loop of a disconnect does**: the worlds are forgotten, and some of them are
requested again, of apps that are in the table. -/
theorem recreate_spec (m : CreateWorldComponent) (worlds : List ℤ) :
    (m.recreate worlds).1.created = m.created ∧ (m.recreate worlds).1.dungeons = m.dungeons ∧
      SamePlaces m.apps (m.recreate worlds).1.apps ∧
      (∀ w : ℤ, (m.recreate worlds).1.creating[w]? =
        if w ∈ worlds then none else m.creating[w]?) ∧
      ∃ targets : List (UInt64 × ℤ), (targets.map Prod.snd).Sublist worlds ∧
        (∀ t ∈ targets, HasSpaceApp m.apps t.1) ∧
        (m.recreate worlds).2 = targets.map fun t => .createWorld t.1 t.2 := by
  induction worlds generalizing m with
  | nil => exact ⟨rfl, rfl, samePlaces_refl _, fun w => by simp [recreate], [], by simp [recreate]⟩
  | cons worldId rest ih =>
    have herase : ∀ (r : CreateWorldComponent), r.creating = m.creating.erase worldId →
        ∀ w : ℤ, (if w ∈ rest then none else r.creating[w]?) =
          if w ∈ worldId :: rest then none else m.creating[w]? := by
      intro r hr w
      rw [hr, OrdMap.getElem?_erase]
      by_cases hrest : w ∈ rest
      · rw [if_pos hrest, if_pos (List.mem_cons_of_mem _ hrest)]
      · by_cases hw : worldId = w
        · rw [if_neg hrest, if_pos hw, if_pos (hw ▸ List.mem_cons_self ..)]
        · rw [if_neg hrest, if_neg hw, if_neg fun hmem =>
            (List.mem_cons.1 hmem).elim (fun h => hw h.symm) hrest]
    unfold recreate
    rcases reqCreateWorld_cases { m with creating := m.creating.erase worldId } worldId with
      hreq | ⟨appId, apps, hspace, hplaces, hreq⟩
    · simp only [hreq, List.nil_append]
      obtain ⟨hcreated, hdungeons, hsame, hcreating, targets, hsub, htargets, hsent⟩ :=
        ih { m with creating := m.creating.erase worldId }
      exact ⟨hcreated, hdungeons, hsame, fun w => (hcreating w).trans (herase _ rfl w), targets,
        hsub.cons _, htargets, hsent⟩
    · simp only [hreq]
      obtain ⟨hcreated, hdungeons, hsame, hcreating, targets, hsub, htargets, hsent⟩ :=
        ih { m with apps := apps, creating := m.creating.erase worldId }
      refine ⟨hcreated, hdungeons, hplaces.trans hsame,
        fun w => (hcreating w).trans (herase _ rfl w), (appId, worldId) :: targets,
        hsub.cons_cons _, fun t ht => ?_, by rw [hsent]; rfl⟩
      rcases List.mem_cons.1 ht with rfl | htail
      · exact hspace
      · exact (htargets t htail).of_samePlaces hplaces

/-- The worlds that are being created on an app, each once. -/
theorem mem_creatingOn {m : CreateWorldComponent} {appId : UInt64} {w : ℤ} :
    w ∈ m.creatingOn appId ↔ m.creating[w]? = some appId := by
  unfold creatingOn
  simp only [List.mem_map, List.mem_filter]
  constructor
  · rintro ⟨e, ⟨he, happ⟩, rfl⟩
    rw [← of_decide_eq_true happ]
    exact ExtTreeMap.mem_toList_iff_getElem?_eq_some.1 he
  · intro h
    exact ⟨(w, appId), ⟨ExtTreeMap.mem_toList_iff_getElem?_eq_some.2 h, by simp⟩, rfl⟩

theorem nodup_creatingOn (m : CreateWorldComponent) (appId : UInt64) :
    (m.creatingOn appId).Nodup := by
  unfold creatingOn
  have hkeys := ExtTreeMap.distinct_keys_toList (t := m.creating)
  have hnodup : (m.creating.toList.map Prod.fst).Nodup := by
    rw [List.Nodup, List.pairwise_map]
    exact hkeys.imp fun hne heq => hne (LawfulEqCmp.compare_eq_iff_eq.2 heq)
  exact hnodup.sublist (List.filter_sublist.map _)

/-- **What a disconnect does**: what was on the app is forgotten, and some of the worlds that were
being created on it are requested again, of apps that are still in the table. -/
theorem handleNetworkDisconnect_spec (m : CreateWorldComponent) {socketKey : SocketKey}
    (htcp : socketKey.netType.isTcp = true) (key : UInt64) :
    (∀ w : ℤ, (m.handleNetworkDisconnect socketKey (some key)).1.creating[w]? =
        m.creating[w]?.filter fun appId => !decide (appId = idFromAppKey key)) ∧
      (∀ w : ℤ, (m.handleNetworkDisconnect socketKey (some key)).1.created[w]? =
        m.created[w]?.filter fun sn => !decide (appIdFromSn sn = idFromAppKey key)) ∧
      (∀ sn : UInt64, (m.handleNetworkDisconnect socketKey (some key)).1.dungeons[sn]? =
        m.dungeons[sn]?.filter fun _ => !decide (appIdFromSn sn = idFromAppKey key)) ∧
      SamePlaces (m.removeApp socketKey.socket).apps
        (m.handleNetworkDisconnect socketKey (some key)).1.apps ∧
      ∃ targets : List (UInt64 × ℤ), (targets.map Prod.snd).Nodup ∧
        (∀ t ∈ targets, m.creating[t.2]? = some (idFromAppKey key) ∧
          HasSpaceApp (m.removeApp socketKey.socket).apps t.1) ∧
        (m.handleNetworkDisconnect socketKey (some key)).2 =
          targets.map fun t => .createWorld t.1 t.2 := by
  have hsame : ∀ appId, (m.removeApp socketKey.socket).creatingOn appId = m.creatingOn appId ∧
      (m.removeApp socketKey.socket).creating = m.creating ∧
      (m.removeApp socketKey.socket).created = m.created ∧
      (m.removeApp socketKey.socket).dungeons = m.dungeons := by
    intro appId
    unfold removeApp creatingOn
    split <;> exact ⟨rfl, rfl, rfl, rfl⟩
  obtain ⟨hon, hcreatingEq, hcreatedEq, hdungeonsEq⟩ := hsame (idFromAppKey key)
  obtain ⟨hcreated, hdungeons, hplaces, hcreating, targets, hsub, htargets, hsent⟩ :=
    (m.removeApp socketKey.socket).recreate_spec
      ((m.removeApp socketKey.socket).creatingOn (idFromAppKey key))
  rw [hon] at hsub
  unfold handleNetworkDisconnect
  simp only [htcp, Bool.true_eq_false, if_false]
  refine ⟨fun w => ?_, fun w => ?_, fun sn => ?_, hplaces, targets,
    (m.nodup_creatingOn _).sublist hsub, fun t ht => ⟨?_, htargets t ht⟩, hsent⟩
  · rw [hcreating, hon, hcreatingEq]
    simp only [mem_creatingOn]
    cases hw : m.creating[w]? with
    | none => simp
    | some appId =>
      by_cases ha : appId = idFromAppKey key
      · rw [if_pos (by rw [ha]), Option.filter_some, decide_eq_true ha]
        rfl
      · rw [if_neg (fun h => ha (Option.some.inj h)), Option.filter_some, decide_eq_false ha]
        rfl
  · rw [OrdMap.getElem?_eraseIf, hcreated, hcreatedEq]
  · rw [OrdMap.getElem?_eraseIf, hdungeons, hdungeonsEq]
  · exact mem_creatingOn.1 (hsub.subset (List.mem_map_of_mem ht))

end CreateWorldComponent

end MmoServer
