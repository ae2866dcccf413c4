/-
**The behaviour of an NPC.**

An NPC is born, lives, and dies, and is born again if its configuration says so.  While it lives it looks for
players, senses when it is badly hurt or dead, and does one of its behaviours: it patrols, idles, pursues,
attacks or flees.  The leaves of its behaviour tree change the NPC, queue events, and tell the players.

Main definitions:

* `MmoServer.NpcFloats`, `MmoServer.Npc`, `MmoServer.PlayerRef` — an NPC, and its pointers to players;
* `MmoServer.BtEventQueue` — the events, in a heap by priority;
* `MmoServer.BtAct`, `MmoServer.npcActions` — the leaves, and what they do;
* `MmoServer.NpcObject`, `MmoServer.NpcObject.update` — an NPC with its `BtComponent`;
* `MmoServer.NpcObject.getDamage` — damage, and what a death grants;
* `MmoServer.parseTree`, `MmoServer.NpcObject.awake` — the tree of a configuration, and a new NPC.

Main results:

* `MmoServer.BtEventQueue.length_pop` — an event that is taken out is gone.
-/

import MmoServer.BtNode
import MmoServer.Heap
import MmoServer.Knapsack
import MmoServer.Recycling

set_option relaxedAutoImplicit false
set_option autoImplicit false

namespace MmoServer

/-! ### NPCs -/

/-- The numbers of a `float`, with the operations that the NPCs need. -/
structure NpcFloats extends FloatOps where
  ofInt : ℤ → F
  abs : F → F
  le : F → F → Bool
  /-- `hp * 1.0 / initHp * 1.0 <= 0.3`. -/
  lowHp : ℤ → ℤ → Bool
  /-- `hp >= static_cast<int>(initHp * 0.7)`. -/
  recovered : ℤ → ℤ → Bool

/-- A pointer to a player of a world: its serial number, and the number of its entry into the world.  The object is
given back when the player leaves; one that enters may get it, and the pointers that are left to it. -/
structure PlayerRef where
  sn : UInt64
  entry : ℕ
  deriving DecidableEq

/-- `Npc`. -/
structure Npc (fl : NpcFloats) where
  sn : UInt64
  id : ℤ
  lv : ℤ
  hp : ℤ
  initHp : ℤ
  atk : ℤ
  fleeing : Bool
  rebirth : Bool
  target : Option PlayerRef
  linker : Option PlayerRef
  initPos : Vector3 fl.toFloatOps
  currPos : Vector3 fl.toFloatOps
  nextPos : Vector3 fl.toFloatOps

/-- `Vector3::GetManhaDist`. -/
def Vector3.getManhaDist {fl : NpcFloats} (v point : Vector3 fl.toFloatOps) : fl.F :=
  fl.add (fl.abs (fl.sub point.x v.x)) (fl.abs (fl.sub point.z v.z))

namespace Npc

variable {fl : NpcFloats}

/-- The first point of a patrol. -/
def firstPoint : Fin 4 := 0

/-- `SetPatrolPoint`. -/
def setPatrolPoint (npc : Npc fl) (index : Fin 4) : Npc fl :=
  let five := fl.ofInt 5
  let x := if index.val < 2 then fl.sub npc.initPos.x five else fl.add npc.initPos.x five
  let z := if index.val % 2 = 0 then fl.sub npc.initPos.z five else fl.add npc.initPos.z five
  { npc with nextPos := { npc.nextPos with x := x, z := z } }

/-- `CanSee`, for a player at a position. -/
def canSee (npc : Npc fl) (position : Vector3 fl.toFloatOps) : Bool :=
  fl.le (npc.currPos.getDistance position) (fl.ofInt 8)

/-- `CanAttack`. -/
def canAttack (npc : Npc fl) (position : Vector3 fl.toFloatOps) : Bool :=
  fl.le (npc.currPos.getDistance position) (fl.ofInt 2)

/-- The hp behind a second of rest: `min(static_cast<int>(hp + initHp * 0.05), initHp)`.  The product and
the sum are rounded to a `double`; for numbers of 32 bits that does not reach the next whole number. -/
def heal (npc : Npc fl) : ℤ := min ((20 * npc.hp + npc.initHp).tdiv 20) npc.initHp

end Npc

/-! ### Events -/

/-- `BtEvent`. -/
structure BtEvent where
  id : BtEventId
  priority : ℤ
  deriving DecidableEq

/-- The order of events. -/
def BtEvent.less (lhs rhs : BtEvent) : Prop := lhs.priority < rhs.priority

/-- The priority queue of a `BtComponent`. -/
structure BtEventQueue where
  heap : List BtEvent
  isHeap : Heap.IsHeap BtEvent.less heap

namespace BtEventQueue

/-- No events. -/
def empty : BtEventQueue := ⟨[], Heap.isHeap_nil⟩

variable (algs : Heap.Algorithms BtEvent.less)

/-- `emplace`. -/
def emplace (q : BtEventQueue) (event : BtEvent) : BtEventQueue :=
  ⟨algs.pushHeap (q.heap ++ [event]), algs.isHeap_pushHeap _ _ q.isHeap⟩

theorem isHeap_dropLast_popHeap {a : BtEvent} {l : List BtEvent}
    (h : Heap.IsHeap BtEvent.less (a :: l)) :
    Heap.IsHeap BtEvent.less (algs.popHeap (a :: l)).dropLast := by
  obtain ⟨rest, hpop, -, hheap⟩ := algs.popHeap_eq a l h
  rw [hpop, List.dropLast_concat]
  exact hheap

/-- `const BtEvent& e = _events.top(); _events.pop();` and the id that is read through the reference then:
the reference is to the first place of the vector, where the next event stands now, or the same one if that
was the last. -/
def pop (q : BtEventQueue) : Option (BtEventId × BtEventQueue) :=
  match q with
  | ⟨[], _⟩ => none
  | ⟨a :: l, h⟩ =>
    let rest := (algs.popHeap (a :: l)).dropLast
    some ((rest.head?.getD a).id, ⟨rest, isHeap_dropLast_popHeap algs h⟩)

variable {algs} {q : BtEventQueue}

theorem mem_emplace {event e : BtEvent} :
    e ∈ (q.emplace algs event).heap ↔ e ∈ q.heap ∨ e = event := by
  rw [emplace, Heap.mem_pushHeap, List.mem_append, List.mem_singleton]

/-- The id that is handled is one of an event of the queue, and one event is gone. -/
theorem pop_eq {id : BtEventId} {rest : BtEventQueue} (h : q.pop algs = some (id, rest)) :
    (∃ e ∈ q.heap, e.id = id) ∧ (∀ e ∈ rest.heap, e ∈ q.heap) ∧
      q.heap.length = rest.heap.length + 1 := by
  obtain ⟨heap, hheap⟩ := q
  cases heap with
  | nil => cases h
  | cons a l =>
    obtain ⟨left, hpop, hperm, hleft⟩ := algs.popHeap_eq a l hheap
    simp only [pop, hpop, List.dropLast_concat, Option.some.injEq, Prod.mk.injEq] at h
    obtain ⟨rfl, rfl⟩ := h
    have hmem : ∀ e ∈ left, e ∈ a :: l := fun e he => .tail a (hperm.mem_iff.1 he)
    refine ⟨?_, hmem, by simp [hperm.length_eq]⟩
    cases left with
    | nil => exact ⟨a, .head l, rfl⟩
    | cons b left => exact ⟨b, hmem b (.head left), rfl⟩

theorem heap_of_pop_eq_none (h : q.pop algs = none) : q.heap = [] := by
  obtain ⟨heap, hheap⟩ := q
  cases heap with
  | nil => rfl
  | cons a l => cases h

theorem length_pop {id : BtEventId} {rest : BtEventQueue} (h : q.pop algs = some (id, rest)) :
    q.heap.length = rest.heap.length + 1 := (pop_eq h).2.2

end BtEventQueue

/-! ### The leaves -/

/-- What an NPC sends, and the ends of its births. -/
inductive NpcNote
  /-- `S2C_SyncBtAction`, to all players. -/
  | syncBtAction (id : BtEventId) (code : ℕ) (playerSn : UInt64)
  /-- `S2C_ReqLinkPlayer`. -/
  | reqLinkPlayer (player : PlayerRef) (linker : Bool)
  /-- `S2C_SyncNpcProps`, to all players. -/
  | syncNpcProps (hp : ℤ)
  /-- The birth action has ended. -/
  | born
  deriving DecidableEq

/-- What the NPC finds around it in a tick: the time, the players of its world in the order of their serial
numbers, where they are, and the next random number. -/
structure Surroundings (fl : NpcFloats) where
  timeTick : UInt64
  players : List PlayerRef
  position : PlayerRef → Vector3 fl.toFloatOps
  roll : Fin 4

/-- `World::GetNearestPlayer`. -/
def Surroundings.getNearestPlayer {fl : NpcFloats} (sur : Surroundings fl)
    (pos : Vector3 fl.toFloatOps) : Option PlayerRef :=
  (sur.players.foldl (fun (dist, player) one =>
    let temp := pos.getManhaDist (sur.position one)
    if fl.lt temp dist then (temp, some one) else (dist, player)) (fl.ofInt 9999, none)).2

/-- What the leaves read and write: the NPC, `curAct` and the events of its `BtComponent`, and what it
sends. -/
structure NpcEnv (fl : NpcFloats) where
  npc : Npc fl
  curAct : Option ℕ
  events : BtEventQueue
  notes : List NpcNote
  sur : Surroundings fl

/-- The classes of leaves. -/
inductive BtActKind
  | attack | birth | death | flee | idle | patrol | pursue | sense | view
  deriving DecidableEq

/-- A leaf: its class, the number of the object, `_lastTime`, and the `_index` of a patrol. -/
structure BtAct where
  kind : BtActKind
  number : ℕ
  lastTime : UInt64
  index : Fin 4
  deriving DecidableEq

namespace NpcEnv

variable {fl : NpcFloats} (algs : Heap.Algorithms BtEvent.less)

/-- `AddEvent`. -/
def addEvent (env : NpcEnv fl) (id : BtEventId) (priority : ℤ) : NpcEnv fl :=
  { env with events := env.events.emplace algs ⟨id, priority⟩ }

/-- A message is sent. -/
def send (env : NpcEnv fl) (note : NpcNote) : NpcEnv fl := { env with notes := env.notes ++ [note] }

/-- `Npc::SetLinkPlayer`: the old linker is told. -/
def setLinkPlayer (env : NpcEnv fl) (player : Option PlayerRef) : NpcEnv fl :=
  let env :=
    match env.npc.linker with
    | none => env
    | some old => env.send (.reqLinkPlayer old false)
  { env with npc := { env.npc with linker := player } }

/-- `Broadcast` of a leaf that names the target, if there is one. -/
def broadcastTarget (env : NpcEnv fl) (id : BtEventId) : NpcEnv fl :=
  match env.npc.target with
  | none => env
  | some target => env.send (.syncBtAction id 0 target.sn)

/-! #### Enter -/

/-- `BtActAttack::Enter`, and `BtActPursue::Enter`. -/
def enterTarget (act : BtAct) (id : BtEventId) (env : NpcEnv fl) : BtAct × NpcEnv fl :=
  (act, ({ env with curAct := some act.number } : NpcEnv fl).broadcastTarget id)

/-- `BtActBirth::Enter`. -/
def enterBirth (act : BtAct) (env : NpcEnv fl) : BtAct × NpcEnv fl :=
  ({ act with lastTime := env.sur.timeTick },
    { env with
      npc :=
        { env.npc with target := none, linker := none, fleeing := false, currPos := env.npc.initPos } })

/-- `BtActDeath::Enter`. -/
def enterDeath (act : BtAct) (env : NpcEnv fl) : BtAct × NpcEnv fl :=
  ({ act with lastTime := env.sur.timeTick },
    ({ env with npc := { env.npc with target := none, linker := none } } : NpcEnv fl).send
      (.syncBtAction .death 0 0))

/-- `BtActFlee::Enter`. -/
def enterFlee (act : BtAct) (env : NpcEnv fl) : BtAct × NpcEnv fl :=
  ({ act with lastTime := env.sur.timeTick },
    ({ env with
      npc := { env.npc with nextPos := env.npc.initPos }
      curAct := some act.number } : NpcEnv fl).send (.syncBtAction .flee 0 0))

/-- `BtActIdle::Enter`. -/
def enterIdle (act : BtAct) (env : NpcEnv fl) : BtAct × NpcEnv fl :=
  ({ act with lastTime := env.sur.timeTick },
    ({ env with
      npc := { env.npc with target := none }
      curAct := some act.number } : NpcEnv fl).send (.syncBtAction .idle 0 0))

/-- `BtActPatrol::Enter`. -/
def enterPatrol (act : BtAct) (env : NpcEnv fl) : BtAct × NpcEnv fl :=
  let index := env.sur.roll
  ({ act with index := index },
    ({ env with
      npc := { env.npc.setPatrolPoint index with target := none }
      curAct := some act.number } : NpcEnv fl).send (.syncBtAction .patrol index.val 0))

/-- `Enter` of the leaves. -/
def enter (act : BtAct) (env : NpcEnv fl) : BtAct × NpcEnv fl :=
  match act.kind with
  | .attack => enterTarget act .attack env
  | .birth => enterBirth act env
  | .death => enterDeath act env
  | .flee => enterFlee act env
  | .idle => enterIdle act env
  | .patrol => enterPatrol act env
  | .pursue => enterTarget act .pursue env
  | .sense | .view => (act, env)

/-! #### Exit -/

/-- `Exit` of the leaves. -/
def exit (act : BtAct) (env : NpcEnv fl) : BtAct × NpcEnv fl :=
  match act.kind with
  | .attack | .idle | .patrol | .pursue => (act, { env with curAct := none })
  | .flee =>
    (act, { env with npc := { env.npc with target := none, fleeing := false }, curAct := none })
  | .birth | .death | .sense | .view => (act, env)

/-! #### The tasks -/

/-- The player that a pointer leads to is near enough. -/
def near (env : NpcEnv fl) (can : Npc fl → Vector3 fl.toFloatOps → Bool)
    (player : Option PlayerRef) : Bool :=
  match player with
  | none => false
  | some player => can env.npc (env.sur.position player)

/-- `BtActAttack::AttackTask`. -/
def attackTask (act : BtAct) (env : NpcEnv fl) : BtStatus × BtAct × NpcEnv fl :=
  if ¬ env.near Npc.canAttack env.npc.target then (.suspend, act, env.addEvent algs .pursue 0)
  else if ¬ env.near Npc.canSee env.npc.target then (.suspend, act, env.addEvent algs .idle 0)
  else (.running, act, env)

/-- `BtActBirth::BirthTask`. -/
def birthTask (act : BtAct) (env : NpcEnv fl) : BtStatus × BtAct × NpcEnv fl :=
  if env.sur.players = [] then (.running, { act with lastTime := env.sur.timeTick }, env)
  else if env.sur.timeTick - act.lastTime < 2000 then (.running, act, env)
  else
    (.success, act,
      ({ env with npc := { env.npc with hp := env.npc.initHp } } : NpcEnv fl).send .born)

/-- `BtActDeath::DeathTask`. -/
def deathTask (act : BtAct) (env : NpcEnv fl) : BtStatus × BtAct × NpcEnv fl :=
  if env.sur.timeTick - act.lastTime < 8000 ∨ env.npc.rebirth = false then (.running, act, env)
  else (.success, act, env)

/-- `BtActFlee::FleeTask`. -/
def fleeTask (act : BtAct) (env : NpcEnv fl) : BtStatus × BtAct × NpcEnv fl :=
  if fl.le (env.npc.currPos.getDistance env.npc.nextPos) (fl.ofInt 1) then
    if fl.recovered env.npc.hp env.npc.initHp then (.suspend, act, env.addEvent algs .patrol 0)
    else if env.sur.timeTick - act.lastTime < 1000 then (.running, act, env)
    else
      let hp := env.npc.heal
      (.running, { act with lastTime := env.sur.timeTick },
        ({ env with npc := { env.npc with hp := hp } } : NpcEnv fl).send (.syncNpcProps hp))
  else (.running, act, env)

/-- `BtActIdle::IdleTask`. -/
def idleTask (act : BtAct) (env : NpcEnv fl) : BtStatus × BtAct × NpcEnv fl :=
  if env.sur.timeTick - act.lastTime < 2000 then (.running, act, env)
  else (.suspend, act, env.addEvent algs .patrol 0)

/-- `BtActPatrol::PatrolTask`. -/
def patrolTask (act : BtAct) (env : NpcEnv fl) : BtStatus × BtAct × NpcEnv fl :=
  if fl.le (env.npc.currPos.getDistance env.npc.nextPos) (fl.ofInt 1) then
    (.suspend, act, env.addEvent algs .idle 0)
  else (.running, act, env)

/-- `BtActPursue::PursueTask`. -/
def pursueTask (act : BtAct) (env : NpcEnv fl) : BtStatus × BtAct × NpcEnv fl :=
  if env.near Npc.canAttack env.npc.target then (.suspend, act, env.addEvent algs .attack 0)
  else if ¬ env.near Npc.canSee env.npc.target then (.suspend, act, env.addEvent algs .idle 0)
  else (.running, act, env)

/-- `BtActSense::SenseTask`. -/
def senseTask (act : BtAct) (env : NpcEnv fl) : BtStatus × BtAct × NpcEnv fl :=
  if env.npc.hp = 0 then (.aborted, act, env)
  else if env.npc.fleeing = false ∧ fl.lowHp env.npc.hp env.npc.initHp then
    (.running, act,
      ({ env with npc := { env.npc with fleeing := true } } : NpcEnv fl).addEvent algs .flee 1)
  else (.running, act, env)

/-- The first part of `BtActView::ViewTask`: an NPC without a linker gets the nearest player. -/
def viewLinker (env : NpcEnv fl) : NpcEnv fl :=
  match env.npc.linker with
  | some _ => env
  | none =>
    let player := env.sur.getNearestPlayer env.npc.currPos
    let env := env.setLinkPlayer player
    match player with
    | none => env
    | some player => env.send (.reqLinkPlayer player true)

/-- The second part: an NPC without a target takes the first player that is near enough. -/
def viewTarget (env : NpcEnv fl) : NpcEnv fl :=
  match env.npc.target with
  | some _ => env
  | none =>
    let near := env.sur.players.find? fun player =>
      env.near Npc.canAttack (some player) || env.near Npc.canSee (some player)
    match near with
    | none => env
    | some player =>
      let id := if env.near Npc.canAttack (some player) then .attack else .pursue
      ({ env with npc := { env.npc with target := some player } } : NpcEnv fl).addEvent algs id 0

/-- The third part: an NPC that is too far from home flees. -/
def viewHome (env : NpcEnv fl) : NpcEnv fl :=
  if env.npc.fleeing = false ∧
      fl.le (fl.ofInt 24) (env.npc.currPos.getDistance env.npc.initPos) then
    ({ env with npc := { env.npc with fleeing := true } } : NpcEnv fl).addEvent algs .flee 1
  else env

/-- `BtActView::ViewTask`. -/
def viewTask (act : BtAct) (env : NpcEnv fl) : BtStatus × BtAct × NpcEnv fl :=
  (.running, act, ((env.viewLinker).viewTarget algs).viewHome algs)

/-- The tasks of the leaves. -/
def task (act : BtAct) (env : NpcEnv fl) : BtStatus × BtAct × NpcEnv fl :=
  match act.kind with
  | .attack => attackTask algs act env
  | .birth => birthTask act env
  | .death => deathTask act env
  | .flee => fleeTask algs act env
  | .idle => idleTask algs act env
  | .patrol => patrolTask algs act env
  | .pursue => pursueTask algs act env
  | .sense => senseTask algs act env
  | .view => viewTask algs act env

end NpcEnv

/-- What the leaves of an NPC do. -/
def npcActions {fl : NpcFloats} (algs : Heap.Algorithms BtEvent.less) : BtAction BtAct (NpcEnv fl) where
  enter := NpcEnv.enter
  task := NpcEnv.task algs
  exit := NpcEnv.exit

/-! ### The component -/

/-- A `Npc` with its `BtComponent`. -/
structure NpcObject (fl : NpcFloats) where
  npc : Npc fl
  root : BtNode BtAct
  events : BtEventQueue
  curAct : Option ℕ

namespace NpcObject

variable {fl : NpcFloats}

/-- What the leaves find. -/
def env (o : NpcObject fl) (sur : Surroundings fl) : NpcEnv fl := ⟨o.npc, o.curAct, o.events, [], sur⟩

/-- The object behind the leaves. -/
def ofEnv (root : BtNode BtAct) (env : NpcEnv fl) : NpcObject fl :=
  ⟨env.npc, root, env.events, env.curAct⟩

variable (algs : Heap.Algorithms BtEvent.less)

/-- `AddEvent`. -/
def addEvent (o : NpcObject fl) (id : BtEventId) (priority : ℤ) : NpcObject fl :=
  { o with events := o.events.emplace algs ⟨id, priority⟩ }

/-- The loop of `BtComponent::Update`, for at most so many rounds: the events that were handled, and what is
left; nothing if a handler reads through a bad pointer, or the rounds do not suffice. -/
def handleEvents : ℕ → BtNode BtAct → NpcEnv fl → Option (List BtEventId × BtNode BtAct × NpcEnv fl)
  | rounds, root, env =>
    match env.events.pop algs with
    | none => some ([], root, env)
    | some (id, events) =>
      match rounds with
      | 0 => none
      | rounds + 1 =>
        (root.handleEvent (npcActions algs) id { env with events := events }).bind
          fun (root, env) => (handleEvents rounds root env).map fun (ids, rest) => (id :: ids, rest)

/-- `BtComponent::Update`: a tick, and the events. -/
def update (o : NpcObject fl) (sur : Surroundings fl) : Option (NpcObject fl × List NpcNote) :=
  let (root, env) := o.root.tick (npcActions algs) (o.env sur)
  (handleEvents algs env.events.heap.length root env).map fun (_, root, env) =>
    (ofEnv root env, env.notes)

end NpcObject

/-! ### Damage -/

/-- `ItemType::Potion`. -/
def ItemType.potion : ItemType := ⟨1⟩

/-- `ItemType::Weapon`. -/
def ItemType.weapon : ItemType := ⟨2⟩

/-- What the generators answer for a list of drops: whether there are potions, and one more than how many,
whether there is a weapon, and the ids and serial numbers of the items. -/
structure DropRolls where
  potion : Bool
  count : Fin 3
  potionId : ℕ → Int32
  weapon : Bool
  weaponId : Int32
  generateSN : ℕ → UInt64

/-- `Npc::GetDropList`. -/
def DropRolls.getDropList (rolls : DropRolls) : List ItemData :=
  let potions :=
    if rolls.potion then
      (List.range (rolls.count.val + 1)).map fun i =>
        ⟨rolls.generateSN i, .potion, rolls.potionId i, .world, 0⟩
    else []
  if rolls.weapon then
    potions ++ [⟨rolls.generateSN potions.length, .weapon, rolls.weaponId, .world, 0⟩]
  else potions

/-- `Proto::DropItemList`: what the death of an NPC grants. -/
structure DropItemList where
  npcSn : UInt64
  exp : ℤ
  gold : ℤ
  items : List ItemData
  deriving DecidableEq

/-- The rewards of an NPC. -/
def Npc.rewards {fl : NpcFloats} (npc : Npc fl) (rolls : DropRolls) : DropItemList :=
  ⟨npc.sn, (npc.atk + npc.lv) * 5, (npc.atk + npc.lv) * 10, rolls.getDropList⟩

/-- `Npc::GetDamage`, from an attacker with this attack: the NPC that is left, and the rewards that the
attacker is granted; whoever is granted rewards has its command reset. -/
def NpcObject.getDamage {fl : NpcFloats} (algs : Heap.Algorithms BtEvent.less) (o : NpcObject fl)
    (attacker : PlayerRef) (atk : ℤ) (rolls : DropRolls) : NpcObject fl × Option DropItemList :=
  let hp := max (o.npc.hp - atk) 0
  let o : NpcObject fl := { o with npc := { o.npc with hp := hp } }
  let o :=
    if o.npc.target ≠ some attacker then
      ({ o with npc := { o.npc with target := some attacker } } : NpcObject fl).addEvent algs .pursue 0
    else o
  (o, if hp = 0 then some (o.npc.rewards rolls) else none)

/-! ### The configuration -/

/-- `BtConfig`: whether the NPC is born again, and the names of its behaviours. -/
structure BtConfig where
  rebirth : Bool
  nodes : List String

/-- The class of a behaviour. -/
def BtActKind.ofName (name : String) : Option BtActKind :=
  if name = "BtActPatrol" then some .patrol
  else if name = "BtActIdle" then some .idle
  else if name = "BtActPursue" then some .pursue
  else if name = "BtActAttack" then some .attack
  else if name = "BtActFlee" then some .flee
  else none

/-- `GetEventId` of a behaviour. -/
def BtActKind.eventId : BtActKind → BtEventId
  | .attack => .attack
  | .birth | .death => .birth
  | .flee => .flee
  | .idle => .idle
  | .patrol => .patrol
  | .pursue => .pursue
  | .sense | .view => .unknow

/-- `BtEdSelector::AddChild` for one behaviour after the other: the first one of a class is registered for its
event. -/
def registerNodes (kinds : List BtActKind) : List (BtEventId × ℕ) :=
  kinds.zipIdx.foldl (fun nodes (kind, index) =>
    if nodes.any fun one => one.1 = kind.eventId then nodes else nodes ++ [(kind.eventId, index)]) []

/-- A new leaf. -/
def BtAct.new (kind : BtActKind) (number : ℕ) (index : Fin 4) : BtNode BtAct :=
  .action ⟨kind, number, 0, index⟩ .invalid

/-- `UINT_MAX`. -/
def uintMax : ℕ := 2 ^ 32 - 1

/-- `BtComponent::ParseConfig`: the tree.  A new composite stands at `end()`. -/
def parseTree (kinds : List BtActKind) (rolls : ℕ → Fin 4) : BtNode BtAct :=
  let behaviours := kinds.zipIdx.map fun (kind, number) => BtAct.new kind number (rolls number)
  let selBehav : BtNode BtAct :=
    .edSelector behaviours (registerNodes kinds) behaviours.length .invalid
  let parAlive : BtNode BtAct :=
    .parallel .sequence [BtAct.new .view kinds.length 0, BtAct.new .sense (kinds.length + 1) 0, selBehav] .invalid
  let seqLife : BtNode BtAct :=
    .sequence [BtAct.new .birth (kinds.length + 2) 0, parAlive, BtAct.new .death (kinds.length + 3) 0] 3 .invalid
  .repeat seqLife 0 uintMax .invalid

/-- `BtComponent::Awake`: the NPC is told whether it is born again, and a new patrol sets its first point. -/
def NpcObject.awake {fl : NpcFloats} (npc : Npc fl) (config : BtConfig) (rolls : ℕ → Fin 4) :
    NpcObject fl :=
  let kinds := config.nodes.filterMap BtActKind.ofName
  let npc := kinds.zipIdx.foldl (fun npc (kind, number) =>
    if kind = .patrol then npc.setPatrolPoint (rolls number) else npc)
      { npc with rebirth := config.rebirth }
  ⟨npc, parseTree kinds rolls, .empty, none⟩

end MmoServer
