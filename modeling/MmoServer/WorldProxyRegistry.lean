/-
**The proxies of a game process.**

The announcement of a world makes the locator ask for a proxy of it, which some thread creates later; the
proxy registers itself with the locator when it awakes.  The locator refuses the announcement of a public
world for whose id a proxy is registered, and does not look at the serial number of a dungeon at all.  A
proxy that is removed takes the entry of its world's id out of the locator, whoever that names.

Main definitions:

* `MmoServer.ProxyObject`, `MmoServer.ProxyRegistry` — the proxies, those that have not registered yet, and
  those that were asked for;
* `MmoServer.ProxyRegistry.Agree` — what should hold: one proxy for a serial number and for the id of a
  public world, and the locator names proxies that are there;
* `MmoServer.ProxyRegistry.Unregisters` — the removal of a proxy unregisters no other one;
* `MmoServer.ProxyRegistry.CreatesNew` — the steps that do not break them;
* `MmoServer.ProxyRegistry.Invariant` — the invariant of the runs of such steps.

Main results:

* `MmoServer.ProxyRegistry.Invariant.step_iff` — **one step**, exactly;
* `MmoServer.proxyRegistry_exact` — **the first step that is not allowed breaks the agreement**;
* `MmoServer.proxyRegistry_run` — **one proxy for a world** in every run of allowed steps;
* `MmoServer.not_proxyRegistry` — an announcement that is repeated before the proxy is there makes two.
-/

import MmoServer.LobbyWaiting

set_option relaxedAutoImplicit false
set_option autoImplicit false

namespace MmoServer

/-! ### The system -/

/-- `WorldProxy`, with the number of its creation. -/
structure ProxyObject where
  number : ℕ
  worldId : ℤ
  worldSn : UInt64
  deriving DecidableEq

/-- The locator of a game process, the creations that it has asked for, the proxies that some thread has
made but that have not registered yet, and the ones that have. -/
structure ProxyRegistry where
  locator : WorldProxyLocator
  requests : List WorldNotice
  created : ℕ
  constructed : List ProxyObject
  live : List ProxyObject

/-- What happens. -/
inductive ProxyEvent
  /-- The locator handles `MI_BroadcastCreateWorld`. -/
  | broadcastCreateWorld (worldId : ℤ) (worldSn lastWorldSn : UInt64)
  /-- A thread makes the proxy of a request. -/
  | construct (worldId : ℤ) (worldSn lastWorldSn : UInt64)
  /-- `WorldProxy::Awake`. -/
  | awake (proxy : ProxyObject)
  /-- A proxy handles the disconnect of its space app. -/
  | networkDisconnect (proxy : ProxyObject)

namespace ProxyRegistry

variable (worlds : ResourceWorldMgr)

/-- A game process whose lobby has registered itself. -/
def start (lobbySn : UInt64) : ProxyRegistry := ⟨.withLobby lobbySn, [], 0, [], []⟩

/-- All proxies of the process. -/
def objects (s : ProxyRegistry) : List ProxyObject := s.constructed ++ s.live

/-- One event. -/
def step (s : ProxyRegistry) : ProxyEvent → Option ProxyRegistry
  | .broadcastCreateWorld worldId worldSn lastWorldSn =>
    some { s with
      requests := s.requests ++
        s.locator.handleBroadcastCreateWorld worlds worldId worldSn lastWorldSn }
  | .construct worldId worldSn lastWorldSn =>
    if .createWorldProxy worldId worldSn lastWorldSn ∈ s.requests then
      some { s with
        requests := s.requests.erase (.createWorldProxy worldId worldSn lastWorldSn)
        created := s.created + 1
        constructed := s.constructed ++ [⟨s.created, worldId, worldSn⟩] }
    else none
  | .awake proxy =>
    if proxy ∈ s.constructed then
      (s.locator.registerToLocator worlds proxy.worldId proxy.worldSn).map fun locator =>
        { s with
          locator := locator
          constructed := s.constructed.erase proxy
          live := s.live ++ [proxy] }
    else none
  | .networkDisconnect proxy =>
    if proxy ∈ s.live then
      some { s with
        locator := s.locator.remove proxy.worldId proxy.worldSn
        live := s.live.erase proxy }
    else none

/-- The system. -/
def system : Transition.System ProxyRegistry ProxyEvent :=
  Transition.System.ofFun (fun s => ∃ lobbySn, s = .start lobbySn) (step worlds)

/-- **Agreement.**  A serial number has one proxy, the id of a public world has one proxy, and whatever
the locator names is a proxy that is there and registered. -/
structure Agree (s : ProxyRegistry) : Prop where
  sn_unique : ∀ p ∈ s.objects, ∀ q ∈ s.objects, p.worldSn = q.worldSn → p = q
  public_unique : ∀ p ∈ s.objects, ∀ q ∈ s.objects,
    worlds.getResource p.worldId = some .publicWorld → p.worldId = q.worldId → p = q
  named : ∀ worldId worldSn, s.locator.publics worldId = some worldSn →
    s.locator.worlds worldSn = true ∧ ∃ p ∈ s.live, p.worldId = worldId ∧ p.worldSn = worldSn

/-- **A removal unregisters no other proxy** of the same world id. -/
def Unregisters (s : ProxyRegistry) (e : ProxyEvent) (t : ProxyRegistry) : Prop :=
  match e with
  | .networkDisconnect proxy =>
    ∀ q ∈ s.live, q.worldId = proxy.worldId → q.worldSn ≠ proxy.worldSn →
      t.locator.publics q.worldId = s.locator.publics q.worldId ∧
        t.locator.worlds q.worldSn = s.locator.worlds q.worldSn
  | _ => True

/-- **Steps that create new proxies.**  When a proxy is made there is none with its serial number, and, if
its world is public, none with its world's id. -/
def CreatesNew (s : ProxyRegistry) : ProxyEvent → Prop
  | .construct worldId worldSn _ =>
    ∀ p ∈ s.objects, p.worldSn ≠ worldSn ∧
      (worlds.getResource worldId = some .publicWorld → p.worldId ≠ worldId)
  | _ => True

variable {worlds} {s t : ProxyRegistry}

/-! ### The invariant -/

/-- What holds in the runs of such steps. -/
structure Invariant (worlds : ResourceWorldMgr) (s : ProxyRegistry) : Prop where
  agree : s.Agree worlds
  requested : ∀ r ∈ s.requests, ∃ worldId worldSn lastWorldSn,
    r = .createWorldProxy worldId worldSn lastWorldSn ∧ (worlds.getResource worldId).isSome = true
  known : ∀ p ∈ s.objects, (worlds.getResource p.worldId).isSome = true
  number_lt : ∀ p ∈ s.objects, p.number < s.created
  nodup : s.objects.Nodup
  isPublic : ∀ worldId worldSn, s.locator.publics worldId = some worldSn →
    worlds.getResource worldId = some .publicWorld

theorem invariant_start (lobbySn : UInt64) : (start lobbySn).Invariant worlds where
  agree :=
    { sn_unique := fun p hp => by cases hp
      public_unique := fun p hp => by cases hp
      named := fun worldId worldSn h => by cases h }
  requested := fun r hr => by cases hr
  known := fun p hp => by cases hp
  number_lt := fun p hp => by cases hp
  nodup := List.nodup_nil
  isPublic := fun worldId worldSn h => by cases h

theorem mem_objects {p : ProxyObject} : p ∈ s.objects ↔ p ∈ s.constructed ∨ p ∈ s.live :=
  List.mem_append

/-- Whatever an announcement asks for is a world of the resources. -/
theorem handleBroadcastCreateWorld_mem {locator : WorldProxyLocator} {worldId : ℤ}
    {worldSn lastWorldSn : UInt64} {r : WorldNotice}
    (hr : r ∈ locator.handleBroadcastCreateWorld worlds worldId worldSn lastWorldSn) :
    r = .createWorldProxy worldId worldSn lastWorldSn ∧
      (worlds.getResource worldId).isSome = true := by
  unfold WorldProxyLocator.handleBroadcastCreateWorld at hr
  split at hr
  · cases hr
  · rename_i worldType hworld
    have hsome : (worlds.getResource worldId).isSome = true := by rw [hworld]; rfl
    split at hr
    · split at hr
      · cases hr
      · exact ⟨List.mem_singleton.1 hr, hsome⟩
    · split at hr
      · cases hr
      · exact ⟨List.mem_singleton.1 hr, hsome⟩

theorem Invariant.broadcast (h : s.Invariant worlds) (more : List WorldNotice)
    (hmore : ∀ r ∈ more, ∃ worldId worldSn lastWorldSn,
      r = .createWorldProxy worldId worldSn lastWorldSn ∧
        (worlds.getResource worldId).isSome = true) :
    ({ s with requests := s.requests ++ more } : ProxyRegistry).Invariant worlds where
  agree := ⟨h.agree.sn_unique, h.agree.public_unique, h.agree.named⟩
  requested := by
    intro r hr
    rcases List.mem_append.1 hr with hold | hnew
    · exact h.requested r hold
    · exact hmore r hnew
  known := h.known
  number_lt := h.number_lt
  nodup := h.nodup
  isPublic := h.isPublic

/-- **A new proxy** keeps the agreement exactly if nothing stands in its place. -/
theorem Invariant.construct_iff (h : s.Invariant worlds) {requests : List WorldNotice} {worldId : ℤ}
    {worldSn lastWorldSn : UInt64} :
    ({ s with
        requests := requests
        created := s.created + 1
        constructed := s.constructed ++ [⟨s.created, worldId, worldSn⟩] } :
      ProxyRegistry).Agree worlds ↔
      s.CreatesNew worlds (.construct worldId worldSn lastWorldSn) := by
  generalize hnew : (⟨s.created, worldId, worldSn⟩ : ProxyObject) = new
  have hmem : ∀ p, p ∈ (s.constructed ++ [new]) ++ s.live ↔ p ∈ s.objects ∨ p = new := by
    intro p
    simp only [mem_objects, List.mem_append, List.mem_singleton]
    exact or_right_comm
  have hne : ∀ p ∈ s.objects, p ≠ new := by
    rintro p hp rfl
    have hlt := h.number_lt p hp
    rw [← hnew] at hlt
    exact Nat.lt_irrefl _ hlt
  have hid : new.worldId = worldId := by rw [← hnew]
  have hsn : new.worldSn = worldSn := by rw [← hnew]
  constructor
  · rintro ⟨hunique, hpublic, -⟩ p hp
    refine ⟨fun heq => ?_, fun hworld heq => ?_⟩
    · exact hne p hp (hunique p ((hmem p).2 (.inl hp)) new ((hmem new).2 (.inr rfl))
        (heq.trans hsn.symm))
    · exact hne p hp (hpublic new ((hmem new).2 (.inr rfl)) p ((hmem p).2 (.inl hp))
        (hid ▸ hworld) (hid.trans heq.symm)).symm
  · intro hcreates
    have hfresh : ∀ p ∈ s.objects, p.worldSn ≠ worldSn ∧
        (worlds.getResource worldId = some .publicWorld → p.worldId ≠ worldId) := hcreates
    refine ⟨fun p hp q hq heq => ?_, fun p hp q hq hworld heq => ?_, h.agree.named⟩
    · rcases (hmem p).1 hp with hpold | hpnew <;> rcases (hmem q).1 hq with hqold | hqnew
      · exact h.agree.sn_unique p hpold q hqold heq
      · exact absurd (heq.trans (hqnew ▸ hsn)) (hfresh p hpold).1
      · exact absurd (heq.symm.trans (hpnew ▸ hsn)) (hfresh q hqold).1
      · rw [hpnew, hqnew]
    · rcases (hmem p).1 hp with hpold | hpnew <;> rcases (hmem q).1 hq with hqold | hqnew
      · exact h.agree.public_unique p hpold q hqold hworld heq
      · have hsame : p.worldId = worldId := heq.trans (hqnew ▸ hid)
        exact absurd hsame ((hfresh p hpold).2 (hsame ▸ hworld))
      · have hpid : p.worldId = worldId := hpnew ▸ hid
        exact absurd (heq.symm.trans hpid) ((hfresh q hqold).2 (hpid ▸ hworld))
      · rw [hpnew, hqnew]

theorem Invariant.construct (h : s.Invariant worlds) {worldId : ℤ} {worldSn lastWorldSn : UInt64}
    (hr : .createWorldProxy worldId worldSn lastWorldSn ∈ s.requests)
    (hcreates : s.CreatesNew worlds (.construct worldId worldSn lastWorldSn)) :
    ({ s with
        requests := s.requests.erase (.createWorldProxy worldId worldSn lastWorldSn)
        created := s.created + 1
        constructed := s.constructed ++ [⟨s.created, worldId, worldSn⟩] } :
      ProxyRegistry).Invariant worlds := by
  have hperm : (s.constructed ++ [(⟨s.created, worldId, worldSn⟩ : ProxyObject)] ++ s.live).Perm
      (⟨s.created, worldId, worldSn⟩ :: s.objects) := by
    rw [List.append_assoc]
    exact List.perm_middle
  have hmem : ∀ p ∈ s.constructed ++ [(⟨s.created, worldId, worldSn⟩ : ProxyObject)] ++ s.live,
      p = ⟨s.created, worldId, worldSn⟩ ∨ p ∈ s.objects := fun p hp =>
    List.mem_cons.1 (hperm.mem_iff.1 hp)
  refine ⟨h.construct_iff.2 hcreates, fun r hmore => h.requested r (List.mem_of_mem_erase hmore),
    fun p hp => ?_, fun p hp => ?_, ?_, h.isPublic⟩
  · rcases hmem p hp with rfl | hold
    · obtain ⟨i, n, l, heq, hsome⟩ := h.requested _ hr
      obtain ⟨rfl, -, -⟩ := WorldNotice.createWorldProxy.inj heq
      exact hsome
    · exact h.known p hold
  · rcases hmem p hp with rfl | hold
    · exact Nat.lt_succ_self _
    · exact Nat.lt_succ_of_lt (h.number_lt p hold)
  · refine hperm.nodup_iff.2 (List.nodup_cons.2 ⟨fun hold => ?_, h.nodup⟩)
    exact Nat.lt_irrefl _ (h.number_lt _ hold)

/-- A proxy registers itself. -/
theorem Invariant.awake (h : s.Invariant worlds) {proxy : ProxyObject}
    (hp : proxy ∈ s.constructed) {locator : WorldProxyLocator}
    (hlocator : s.locator.registerToLocator worlds proxy.worldId proxy.worldSn = some locator) :
    ({ s with
        locator := locator
        constructed := s.constructed.erase proxy
        live := s.live ++ [proxy] } : ProxyRegistry).Invariant worlds := by
  have hperm : (s.constructed.erase proxy ++ (s.live ++ [proxy])).Perm s.objects := by
    have hmoved : (s.constructed.erase proxy ++ (s.live ++ [proxy])).Perm
        (proxy :: s.constructed.erase proxy ++ s.live) := by
      rw [← List.append_assoc]
      exact List.perm_append_comm
    exact hmoved.trans ((List.perm_cons_erase hp).symm.append_right s.live)
  have hmem : ∀ p, p ∈ s.constructed.erase proxy ++ (s.live ++ [proxy]) → p ∈ s.objects :=
    fun p => hperm.mem_iff.1
  obtain ⟨worldType, hworld, rfl⟩ := Option.map_eq_some_iff.1 hlocator
  refine ⟨⟨fun p hp q hq => h.agree.sn_unique p (hmem p hp) q (hmem q hq),
    fun p hp q hq => h.agree.public_unique p (hmem p hp) q (hmem q hq), fun worldId worldSn hn => ?_⟩,
    h.requested, fun p hp => h.known p (hmem p hp), fun p hp => h.number_lt p (hmem p hp),
    hperm.nodup_iff.2 h.nodup, fun worldId worldSn hn => ?_⟩
  · have hold : s.locator.publics worldId = some worldSn →
        Function.update s.locator.worlds proxy.worldSn true worldSn = true ∧
          ∃ p ∈ s.live ++ [proxy], p.worldId = worldId ∧ p.worldSn = worldSn := by
      intro hpublics
      obtain ⟨hregistered, p, hlive, hspec⟩ := h.agree.named worldId worldSn hpublics
      refine ⟨?_, p, List.mem_append_left _ hlive, hspec⟩
      by_cases hsn : worldSn = proxy.worldSn
      · rw [hsn, Function.update_self]
      · rw [Function.update_of_ne hsn]
        exact hregistered
    by_cases hown : worldType = .publicWorld ∧ worldId = proxy.worldId
    · obtain ⟨hpublic, rfl⟩ := hown
      simp only [hpublic, if_true, Function.update_self] at hn
      obtain rfl := Option.some.inj hn
      exact ⟨Function.update_self .., proxy, List.mem_append_right _ (List.mem_singleton_self _),
        rfl, rfl⟩
    · refine hold ?_
      by_cases hpublic : worldType = .publicWorld
      · simp only [if_pos hpublic] at hn
        rwa [Function.update_of_ne fun hid => hown ⟨hpublic, hid⟩] at hn
      · simpa only [if_neg hpublic] using hn
  · by_cases hpublic : worldType = .publicWorld
    · simp only [if_pos hpublic] at hn
      by_cases hid : worldId = proxy.worldId
      · rw [hid, hworld, hpublic]
      · rw [Function.update_of_ne hid] at hn
        exact h.isPublic worldId worldSn hn
    · simp only [if_neg hpublic] at hn
      exact h.isPublic worldId worldSn hn

/-- A proxy is removed. -/
theorem Invariant.networkDisconnect (h : s.Invariant worlds) {proxy : ProxyObject}
    (hp : proxy ∈ s.live) :
    ({ s with
        locator := s.locator.remove proxy.worldId proxy.worldSn
        live := s.live.erase proxy } : ProxyRegistry).Invariant worlds ∧
      s.Unregisters (.networkDisconnect proxy)
        { s with
          locator := s.locator.remove proxy.worldId proxy.worldSn
          live := s.live.erase proxy } := by
  have hsub : (s.constructed ++ s.live.erase proxy).Sublist s.objects :=
    (List.Sublist.refl _).append List.erase_sublist
  have hmem : ∀ p, p ∈ s.constructed ++ s.live.erase proxy → p ∈ s.objects := fun p =>
    fun hin => hsub.subset hin
  have hin : proxy ∈ s.objects := mem_objects.2 (.inr hp)
  have hother : ∀ {worldId : ℤ} {worldSn : UInt64},
      (s.locator.remove proxy.worldId proxy.worldSn).publics worldId = some worldSn →
        worldId ≠ proxy.worldId ∧ s.locator.publics worldId = some worldSn := by
    intro worldId worldSn hn
    have hn' : Function.update s.locator.publics proxy.worldId none worldId = some worldSn := hn
    by_cases hid : worldId = proxy.worldId
    · rw [hid, Function.update_self] at hn'
      cases hn'
    · rw [Function.update_of_ne hid] at hn'
      exact ⟨hid, hn'⟩
  constructor
  · refine ⟨⟨fun p hp q hq => h.agree.sn_unique p (hmem p hp) q (hmem q hq),
      fun p hp q hq => h.agree.public_unique p (hmem p hp) q (hmem q hq),
      fun worldId worldSn hn => ?_⟩, h.requested, fun p hp => h.known p (hmem p hp),
      fun p hp => h.number_lt p (hmem p hp), hsub.nodup h.nodup,
      fun worldId worldSn hn => h.isPublic worldId worldSn (hother hn).2⟩
    obtain ⟨hid, hpublics⟩ := hother hn
    obtain ⟨hregistered, p, hlive, hpid, hpsn⟩ := h.agree.named worldId worldSn hpublics
    have hne : p ≠ proxy := by
      rintro rfl
      exact hid hpid.symm
    have hsn : worldSn ≠ proxy.worldSn := by
      intro heq
      exact hne (h.agree.sn_unique p (mem_objects.2 (.inr hlive)) proxy hin (hpsn.trans heq))
    refine ⟨?_, p, (List.mem_erase_of_ne hne).2 hlive, hpid, hpsn⟩
    show Function.update s.locator.worlds proxy.worldSn false worldSn = true
    rw [Function.update_of_ne hsn]
    exact hregistered
  · intro q hq hid hsn
    have hnone : s.locator.publics q.worldId = none := by
      cases hpublics : s.locator.publics q.worldId with
      | none => rfl
      | some worldSn =>
        have hpublic := h.isPublic q.worldId worldSn hpublics
        have hsame := h.agree.public_unique q (mem_objects.2 (.inr hq)) proxy hin hpublic hid
        exact absurd (congrArg ProxyObject.worldSn hsame) hsn
    refine ⟨?_, Function.update_of_ne hsn _ _⟩
    rw [hnone]
    show Function.update s.locator.publics proxy.worldId none q.worldId = none
    rw [hid, Function.update_self]

/-- **One step**, exactly. -/
theorem Invariant.step_iff (h : s.Invariant worlds) {e : ProxyEvent}
    (hv : s.step worlds e = some t) :
    (t.Agree worlds ∧ s.Unregisters e t ↔ s.CreatesNew worlds e) ∧
      (s.CreatesNew worlds e → t.Invariant worlds) := by
  cases e with
  | broadcastCreateWorld worldId worldSn lastWorldSn =>
    obtain rfl := Option.some.inj hv
    have ht := h.broadcast
      (s.locator.handleBroadcastCreateWorld worlds worldId worldSn lastWorldSn)
      fun r hr => ⟨worldId, worldSn, lastWorldSn, handleBroadcastCreateWorld_mem hr⟩
    exact ⟨iff_of_true ⟨ht.agree, trivial⟩ trivial, fun _ => ht⟩
  | construct worldId worldSn lastWorldSn =>
    simp only [step] at hv
    split at hv
    · rename_i hr
      obtain rfl := Option.some.inj hv
      exact ⟨(and_iff_left trivial).trans h.construct_iff, h.construct hr⟩
    · cases hv
  | awake proxy =>
    simp only [step] at hv
    split at hv
    · rename_i hp
      obtain ⟨locator, hlocator, rfl⟩ := Option.map_eq_some_iff.1 hv
      have ht := h.awake hp hlocator
      exact ⟨iff_of_true ⟨ht.agree, trivial⟩ trivial, fun _ => ht⟩
    · cases hv
  | networkDisconnect proxy =>
    simp only [step] at hv
    split at hv
    · rename_i hp
      obtain rfl := Option.some.inj hv
      obtain ⟨ht, hframe⟩ := h.networkDisconnect hp
      exact ⟨iff_of_true ⟨ht.agree, hframe⟩ trivial, fun _ => ht⟩
    · cases hv

/-- A proxy that was made always awakes: its world is in the resources. -/
theorem Invariant.awake_isSome (h : s.Invariant worlds) {proxy : ProxyObject}
    (hp : proxy ∈ s.constructed) : (s.step worlds (.awake proxy)).isSome = true := by
  simp only [step, if_pos hp, WorldProxyLocator.registerToLocator, Option.isSome_map]
  exact h.known proxy (mem_objects.2 (.inl hp))

end ProxyRegistry

/-! ### Runs -/

/-- **The registry, exactly.**  It agrees in every run of steps that create new proxies, and the next step
keeps it, and unregisters no other proxy, exactly if it is one of these. -/
theorem proxyRegistry_exact {worlds : ResourceWorldMgr} {es : List ProxyEvent} {s : ProxyRegistry}
    (hrun : ((ProxyRegistry.system worlds).restrict (ProxyRegistry.CreatesNew worlds)).Run es s) :
    s.Agree worlds ∧ ∀ e t, (ProxyRegistry.system worlds).step s e t →
      (t.Agree worlds ∧ s.Unregisters e t ↔ s.CreatesNew worlds e) := by
  have hinv : s.Invariant worlds := by
    refine hrun.restrict_invariant ?_ fun s e t hs hcreates hstep => ?_
    · rintro s ⟨lobbySn, rfl⟩
      exact ProxyRegistry.invariant_start lobbySn
    · exact (hs.step_iff hstep).2 hcreates
  exact ⟨hinv.agree, fun e t hstep => (hinv.step_iff hstep).1⟩

/-- **One proxy for a world** in every run of steps that create new proxies, and no removal unregisters
another proxy of the same world id. -/
theorem proxyRegistry_run {worlds : ResourceWorldMgr} {es : List ProxyEvent} {s : ProxyRegistry}
    (hrun : ((ProxyRegistry.system worlds).restrict (ProxyRegistry.CreatesNew worlds)).Run es s) :
    s.Agree worlds ∧ ∀ e t,
      ((ProxyRegistry.system worlds).restrict (ProxyRegistry.CreatesNew worlds)).step s e t →
        s.Unregisters e t := by
  obtain ⟨hagree, hexact⟩ := proxyRegistry_exact hrun
  exact ⟨hagree, fun e t hstep => ((hexact e t hstep.2).2 hstep.1).2⟩

instance (worlds : ResourceWorldMgr) (s : ProxyRegistry) (e : ProxyEvent) :
    Decidable (s.CreatesNew worlds e) :=
  match e with
  | .construct worldId worldSn _ =>
    inferInstanceAs (Decidable (∀ p ∈ s.objects, p.worldSn ≠ worldSn ∧
      (worlds.getResource worldId = some .publicWorld → p.worldId ≠ worldId)))
  | .broadcastCreateWorld _ _ _ | .awake _ | .networkDisconnect _ => .isTrue trivial

/-- A public world is announced and its proxy registers; an announcement that is repeated then is refused,
and the world comes again when the space app of the first one is gone. -/
def worldComesAgain : List ProxyEvent :=
  [.broadcastCreateWorld 1 19791873 0, .construct 1 19791873 0, .awake ⟨0, 1, 19791873⟩,
    .broadcastCreateWorld 1 19791873 0, .networkDisconnect ⟨0, 1, 19791873⟩,
    .broadcastCreateWorld 1 19791874 0, .construct 1 19791874 0, .awake ⟨1, 1, 19791874⟩]

/-- The locator names the proxy of the second world. -/
theorem proxyRegistry_created : ∃ s : ProxyRegistry,
    ((ProxyRegistry.system oneWorld).restrict (ProxyRegistry.CreatesNew oneWorld)).Run
      worldComesAgain s ∧ s.live = [⟨1, 1, 19791874⟩] ∧ s.locator.publics 1 = some 19791874 ∧
        s.Agree oneWorld := by
  have hrun : (Transition.System.execute (ProxyRegistry.step oneWorld)
      (ProxyRegistry.CreatesNew oneWorld) (.start 65536) worldComesAgain).map
        (fun s => (s.live, s.locator.publics 1)) =
          some ([⟨1, 1, 19791874⟩], some 19791874) := by
    decide
  obtain ⟨s, hs, hfacts⟩ := Option.map_eq_some_iff.1 hrun
  obtain ⟨hlive, hpublics⟩ := Prod.mk.inj hfacts
  have hevents : ((ProxyRegistry.system oneWorld).restrict
      (ProxyRegistry.CreatesNew oneWorld)).Run worldComesAgain s :=
    Transition.System.run_of_execute ⟨65536, rfl⟩ hs
  exact ⟨s, hevents, hlive, hpublics, (proxyRegistry_run hevents).1⟩

/-- The announcement is repeated before the proxy that it asks for is made. -/
def announcedTwice : List ProxyEvent :=
  [.broadcastCreateWorld 1 19791873 0, .broadcastCreateWorld 1 19791873 0,
    .construct 1 19791873 0, .construct 1 19791873 0]

/-- **Two proxies** of one world. -/
theorem not_proxyRegistry : ¬ ∀ (worlds : ResourceWorldMgr) (es : List ProxyEvent)
    (s : ProxyRegistry), (ProxyRegistry.system worlds).Run es s → s.Agree worlds := by
  intro hall
  have hrun : (Transition.System.execute (ProxyRegistry.step oneWorld) (fun _ _ => True)
      (.start 65536) announcedTwice).map ProxyRegistry.constructed =
        some [⟨0, 1, 19791873⟩, ⟨1, 1, 19791873⟩] := by
    decide
  obtain ⟨s, hs, hproxies⟩ := Option.map_eq_some_iff.1 hrun
  have hevents : (ProxyRegistry.system oneWorld).Run
      announcedTwice s := Transition.System.run_of_execute_true ⟨65536, rfl⟩ hs
  have hmem : ∀ p ∈ [(⟨0, 1, 19791873⟩ : ProxyObject), ⟨1, 1, 19791873⟩], p ∈ s.objects :=
    fun p hp => ProxyRegistry.mem_objects.2 (.inl (hproxies ▸ hp))
  have hsame := (hall oneWorld announcedTwice s hevents).sn_unique
    ⟨0, 1, 19791873⟩ (hmem _ (.head _)) ⟨1, 1, 19791873⟩ (hmem _ (.tail _ (.head _))) rfl
  cases hsame

end MmoServer
