/-
**Following a path, with exact numbers.**

`SetPath` takes the first target of a path and the direction to it.  `Update` compares the distance to
the target with the step, and then either puts the entity on the target and takes the next one, or moves
it by the step in the direction.  The direction is calculated once for each target, from the position at
that time.  A rebirth, and the positions that a client sends, put the entity somewhere else, and neither
the direction nor the end of the path is looked at again: the entity then moves on in parallel to its old
way, past the target, and an entity whose path is over moves as well.

The numbers are real.  What has no value, a zero divided by zero, is `none`.  The targets that are left
of the path are kept beside the component, and `Update` leaves a record each time.

Main definitions:

* `MmoServer.FloatOps.exact` — the real numbers as the numbers of the model;
* `MmoServer.PathState.step` — the three that change the position or the path;
* `MmoServer.PathMove.Follows` — what an `Update` should do;
* `MmoServer.PathState.InLine` — the condition: the target is near, or in the direction.

Main results:

* `MmoServer.sqrt_step_iff` — a step shortens the way by its length exactly in the direction of the
  target;
* `MmoServer.PathState.OnWay.updates` — without positions from outside a path is followed to its end;
* `MmoServer.path_run` — **the path is followed** as long as the condition is met, and not by the first
  `Update` that does not meet it;
* `MmoServer.not_path` — after a rebirth the entity moves away from its target.
-/

import Mathlib.Analysis.Real.Sqrt
import Mathlib.Tactic.Linarith
import Mathlib.Tactic.NormNum
import Mathlib.Tactic.NormNum.RealSqrt
import MmoServer.Recycling
import MmoServer.Transition

set_option relaxedAutoImplicit false
set_option autoImplicit false

namespace MmoServer

/-! ### A step in the plane -/

/-- The square of the distance after a step of length `d` in the direction `(x, z)`. -/
theorem sq_step {a b d x z : ℝ} (hunit : x * x + z * z = 1) :
    (a - d * x) * (a - d * x) + (b - d * z) * (b - d * z) =
      a * a + b * b - 2 * d * (a * x + b * z) + d * d := by
  calc (a - d * x) * (a - d * x) + (b - d * z) * (b - d * z)
      = a * a + b * b - 2 * d * (a * x + b * z) + d * d * (x * x + z * z) := by ring
    _ = a * a + b * b - 2 * d * (a * x + b * z) + d * d := by rw [hunit, mul_one]

/-- **A step shortens the way by its length** exactly if its direction is that of the way. -/
theorem sqrt_step_iff {a b d x z : ℝ} (hd : 0 < d) (hunit : x * x + z * z = 1)
    (hfar : d ≤ √(a * a + b * b)) :
    √((a - d * x) * (a - d * x) + (b - d * z) * (b - d * z)) + d = √(a * a + b * b) ↔
      √(a * a + b * b) * x = a ∧ √(a * a + b * b) * z = b := by
  have hsq : √(a * a + b * b) * √(a * a + b * b) = a * a + b * b :=
    Real.mul_self_sqrt (add_nonneg (mul_self_nonneg a) (mul_self_nonneg b))
  generalize √(a * a + b * b) = l at hfar hsq ⊢
  rw [sq_step hunit]
  constructor
  · intro hshort
    -- the way has no part across the direction
    have hnonneg : 0 ≤ a * a + b * b - 2 * d * (a * x + b * z) + d * d := by
      rw [← sq_step hunit]
      exact add_nonneg (mul_self_nonneg _) (mul_self_nonneg _)
    have hleft := Real.mul_self_sqrt hnonneg
    rw [eq_sub_of_add_eq hshort] at hleft
    have halong : a * x + b * z = l := by
      have hprod : d * (a * x + b * z) = d * l := by linarith
      exact mul_left_cancel₀ hd.ne' hprod
    have hacross : (l * x - a) * (l * x - a) + (l * z - b) * (l * z - b) = 0 := by
      calc (l * x - a) * (l * x - a) + (l * z - b) * (l * z - b)
          = l * l * (x * x + z * z) - 2 * l * (a * x + b * z) + (a * a + b * b) := by ring
        _ = 0 := by rw [hunit, halong, ← hsq]; ring
    obtain ⟨hx, hz⟩ := mul_self_add_mul_self_eq_zero.1 hacross
    exact ⟨sub_eq_zero.1 hx, sub_eq_zero.1 hz⟩
  · rintro ⟨hx, hz⟩
    have halong : a * x + b * z = l := by
      calc a * x + b * z = l * (x * x + z * z) := by rw [← hx, ← hz]; ring
        _ = l := by rw [hunit, mul_one]
    have hleft : a * a + b * b - 2 * d * (a * x + b * z) + d * d = (l - d) * (l - d) := by
      rw [halong, ← hsq]
      ring
    rw [hleft, Real.sqrt_mul_self (sub_nonneg.2 hfar), sub_add_cancel]

/-! ### Real numbers -/

/-- The real numbers.  A result that does not exist is `none`, and so is everything that is calculated
from it; it is not less than anything. -/
noncomputable abbrev FloatOps.exact : FloatOps where
  F := Option ℝ
  zero := some 0
  walkSpeed := some 1.56
  milli := some 0.001
  add a b := a.bind fun a => b.map fun b => a + b
  sub a b := a.bind fun a => b.map fun b => a - b
  mul a b := a.bind fun a => b.map fun b => a * b
  div a b := a.bind fun a => b.bind fun b => if b = 0 then none else some (a / b)
  sqrt a := a.bind fun a => if a < 0 then none else some (√a)
  lt a b := a.any fun a => b.any fun b => decide (a < b)

/-- Two steps in one direction are a longer one. -/
theorem FloatOps.exact_add_mul (a scale : Option ℝ) (d r : ℝ) :
    exact.add (exact.add a (exact.mul (some d) scale)) (exact.mul (some r) scale) =
      exact.add a (exact.mul (some (r + d)) scale) := by
  cases a with
  | none => rfl
  | some a =>
    cases scale with
    | none => rfl
    | some scale =>
      refine congrArg some ?_
      ring

/-- A position, or a target, that has a value. -/
@[ext]
structure Point where
  x : ℝ
  y : ℝ
  z : ℝ

/-- As a `Vector3`. -/
def Point.vector (p : Point) : Vector3 .exact := ⟨some p.x, some p.y, some p.z⟩

theorem Point.vector_injective : Function.Injective Point.vector := by
  intro p q heq
  simpa [Point.vector, Point.ext_iff] using heq

namespace Vector3

variable {p : Vector3 .exact} {target : Point} {l : ℝ}

/-- A distance has a value exactly if the position has one in the plane. -/
theorem getDistance_eq_some :
    p.getDistance target.vector = some l ↔
      ∃ x z : ℝ, p.x = some x ∧ p.z = some z ∧
        √((target.x - x) * (target.x - x) + (target.z - z) * (target.z - z)) = l := by
  obtain ⟨x, y, z⟩ := p
  cases x with
  | none => simp [getDistance, Point.vector]
  | some x =>
    cases z with
    | none => simp [getDistance, Point.vector]
    | some z =>
      have hnonneg : ¬ (target.x - x) * (target.x - x) + (target.z - z) * (target.z - z) < 0 :=
        not_lt.2 (add_nonneg (mul_self_nonneg _) (mul_self_nonneg _))
      simp [getDistance, Point.vector, hnonneg]

end Vector3

/-- The distance of two points. -/
theorem Point.getDistance_vector (p target : Point) : p.vector.getDistance target.vector =
    some √((target.x - p.x) * (target.x - p.x) + (target.z - p.z) * (target.z - p.z)) :=
  Vector3.getDistance_eq_some.2 ⟨p.x, p.z, rfl, rfl, rfl⟩

/-! ### Directions -/

namespace MoveVector3

/-- A direction to a target: it has length one, or no value. -/
structure Aims (v : MoveVector3 .exact) (target : Point) : Prop where
  target_eq : v.target = target.vector
  scale : (v.scaleX = none ∧ v.scaleZ = none) ∨
    ∃ x z : ℝ, v.scaleX = some x ∧ v.scaleZ = some z ∧ x * x + z * z = 1

/-- `SetTarget` calculates such a direction, wherever the entity is. -/
theorem setTarget_aims (target : Point) (p : Vector3 .exact) :
    (setTarget target.vector p).Aims target := by
  refine ⟨rfl, ?_⟩
  obtain ⟨x, y, z⟩ := p
  cases x with
  | none => simp [setTarget, Point.vector]
  | some x =>
    cases z with
    | none => simp [setTarget, Point.vector]
    | some z =>
      have hnonneg : 0 ≤ (target.x - x) * (target.x - x) + (target.z - z) * (target.z - z) :=
        add_nonneg (mul_self_nonneg _) (mul_self_nonneg _)
      have hsq := Real.mul_self_sqrt hnonneg
      simp only [setTarget, Point.vector, Option.bind_some, Option.map_some, not_lt.2 hnonneg,
        if_false]
      generalize √((target.x - x) * (target.x - x) + (target.z - z) * (target.z - z)) = l at hsq
      by_cases hzero : l = 0
      · exact Or.inl ⟨if_pos hzero, if_pos hzero⟩
      · refine Or.inr ⟨(target.x - x) / l, (target.z - z) / l, if_neg hzero, if_neg hzero, ?_⟩
        rw [div_mul_div_comm, div_mul_div_comm, ← add_div, ← hsq]
        exact div_self (mul_ne_zero hzero hzero)

/-- From `p`, the target is at the distance `l` in the direction. -/
def LeadsTo (v : MoveVector3 .exact) (p target : Vector3 .exact) (l : ℝ) : Prop :=
  FloatOps.exact.add p.x (FloatOps.exact.mul (some l) v.scaleX) = target.x ∧
    FloatOps.exact.add p.z (FloatOps.exact.mul (some l) v.scaleZ) = target.z

/-- A direction leads to its target from where it was calculated. -/
theorem setTarget_leadsTo (target p : Point) {l : ℝ}
    (hl : p.vector.getDistance target.vector = some l) :
    l = 0 ∨ (setTarget target.vector p.vector).LeadsTo p.vector target.vector l := by
  obtain rfl := Option.some.inj ((Point.getDistance_vector p target).symm.trans hl)
  refine or_iff_not_imp_left.2 fun hzero => ?_
  have hnonneg : ¬ (target.x - p.x) * (target.x - p.x) + (target.z - p.z) * (target.z - p.z) < 0 :=
    not_lt.2 (add_nonneg (mul_self_nonneg _) (mul_self_nonneg _))
  simp [LeadsTo, setTarget, Point.vector, hnonneg, hzero, mul_div_cancel₀]

/-- A position, moved by `d` in the direction. -/
noncomputable def move (v : MoveVector3 .exact) (p : Vector3 .exact) (d : ℝ) : Vector3 .exact :=
  { p with
    x := FloatOps.exact.add p.x (FloatOps.exact.mul (some d) v.scaleX)
    z := FloatOps.exact.add p.z (FloatOps.exact.mul (some d) v.scaleZ) }

variable {v : MoveVector3 .exact} {target : Point} {d l : ℝ}

/-- Where the direction leads to does not change on the way. -/
theorem leadsTo_move {p target : Vector3 .exact} {r : ℝ} :
    v.LeadsTo (v.move p d) target r ↔ v.LeadsTo p target (r + d) :=
  and_congr (Eq.congr_left (FloatOps.exact_add_mul p.x v.scaleX d r))
    (Eq.congr_left (FloatOps.exact_add_mul p.z v.scaleZ d r))

/-- A step that does not reach the target shortens the way by its length exactly if the direction leads
to the target. -/
theorem Aims.move_iff (haims : v.Aims target) {p : Vector3 .exact} (hd : 0 < d)
    (hl : p.getDistance target.vector = some l) (hfar : d ≤ l) :
    (∃ r : ℝ, p.getDistance target.vector = some (r + d) ∧
      (v.move p d).getDistance target.vector = some r) ↔ v.LeadsTo p target.vector l := by
  obtain ⟨x, z, hx, hz, rfl⟩ := Vector3.getDistance_eq_some.1 hl
  obtain ⟨hnoX, -⟩ | ⟨sx, sz, hsx, hsz, hunit⟩ := haims.scale
  · have hlost (r : ℝ) : (v.move p d).getDistance target.vector ≠ some r := by
      intro hr
      obtain ⟨x', z', hx', -, -⟩ := Vector3.getDistance_eq_some.1 hr
      simp [move, hnoX, hx] at hx'
    have haway : ¬ v.LeadsTo p target.vector
        √((target.x - x) * (target.x - x) + (target.z - z) * (target.z - z)) := by
      simp [LeadsTo, hnoX, hx, Point.vector]
    simp only [hlost, haway, and_false, exists_const]
  · have hmoved : (v.move p d).getDistance target.vector = some
        √((target.x - x - d * sx) * (target.x - x - d * sx) +
          (target.z - z - d * sz) * (target.z - z - d * sz)) :=
      Vector3.getDistance_eq_some.2 ⟨x + d * sx, z + d * sz, by simp [move, hx, hsx],
        by simp [move, hz, hsz], by rw [sub_sub, sub_sub]⟩
    have hstep := sqrt_step_iff hd hunit hfar
    rw [eq_sub_iff_add_eq', eq_sub_iff_add_eq'] at hstep
    rw [hl, hmoved]
    simpa [LeadsTo, hx, hz, hsx, hsz, Point.vector, eq_comm] using hstep

/-- No step leaves a position as it is. -/
theorem Aims.move_ne (haims : v.Aims target) (p : Point) (hd : 0 < d) :
    v.move p.vector d ≠ p.vector := by
  intro hsame
  obtain ⟨hnoX, -⟩ | ⟨sx, sz, hsx, hsz, hunit⟩ := haims.scale
  · simp [move, Point.vector, hnoX] at hsame
  · have hzero : sx = 0 ∧ sz = 0 := by
      simpa [move, Point.vector, hsx, hsz, hd.ne'] using hsame
    simp [hzero.1, hzero.2] at hunit

end MoveVector3

/-! ### A component and its entity -/

/-- The way of one step: the time is in milliseconds, the speed in units a second. -/
noncomputable def stepLength (timeElapsed speed : {r : ℝ // 0 < r}) : ℝ :=
  timeElapsed.1 * 0.001 * speed.1

theorem stepLength_pos (timeElapsed speed : {r : ℝ // 0 < r}) :
    0 < stepLength timeElapsed speed :=
  mul_pos (mul_pos timeElapsed.2 (by norm_num)) speed.2

namespace MoveComponent

variable {m : MoveComponent .exact} {p : Vector3 .exact} {timeElapsed speed : {r : ℝ // 0 < r}}

theorem lt_stepLength {l : ℝ} (hl : p.getDistance m.vector.target = some l)
    (hnear : l < stepLength timeElapsed speed) :
    FloatOps.exact.lt (p.getDistance m.vector.target) (some (stepLength timeElapsed speed)) = true := by
  rw [hl]
  exact decide_eq_true hnear

/-- Nearer than a step to the last target: the entity is put there. -/
theorem update_last {l : ℝ} (hl : p.getDistance m.vector.target = some l)
    (hnear : l < stepLength timeElapsed speed) (htargets : m.targets = []) :
    m.update (some timeElapsed.1) p (some speed.1) = (m, m.vector.target, true) := by
  refine (if_pos (lt_stepLength hl hnear)).trans ?_
  rw [htargets]

/-- Nearer than a step to another one: the next one is taken as well. -/
theorem update_next {l : ℝ} (hl : p.getDistance m.vector.target = some l)
    (hnear : l < stepLength timeElapsed speed) {v3 : Vector3 .exact} {rest : List (Vector3 .exact)}
    (htargets : m.targets = v3 :: rest) :
    m.update (some timeElapsed.1) p (some speed.1) =
      ({ m with targets := rest, vector := .setTarget v3 m.vector.target }, m.vector.target,
        false) := by
  refine (if_pos (lt_stepLength hl hnear)).trans ?_
  rw [htargets]

/-- Not nearer than a step, or at no distance at all. -/
theorem update_far (hfar : ∀ l : ℝ, p.getDistance m.vector.target = some l →
      stepLength timeElapsed speed ≤ l) :
    m.update (some timeElapsed.1) p (some speed.1) =
      (m, m.vector.move p (stepLength timeElapsed speed), false) := by
  have hlt : FloatOps.exact.lt (p.getDistance m.vector.target)
      (some (stepLength timeElapsed speed)) = false := by
    cases hl : p.getDistance m.vector.target with
    | none => rfl
    | some l => exact decide_eq_false (not_lt.2 (hfar l hl))
  exact if_neg (ne_true_of_eq_false hlt)

end MoveComponent

/-- What one `Update` did. -/
structure PathMove where
  /-- What was left of the path, the current target first; nothing before the first path. -/
  goals : Option (List Point)
  length : ℝ
  before : Vector3 .exact
  after : Vector3 .exact
  /-- The next target was taken, or the end of the path was told. -/
  advanced : Bool

/-- **What it should do**: put the entity on the current target and go on to the next one, or shorten
the way to it by the step; and leave it where it is when the last target has been reached. -/
def PathMove.Follows (m : PathMove) : Prop :=
  match m.goals with
  | none => True
  | some [] => m.after = m.before
  | some (target :: _) =>
    if m.advanced then m.after = target.vector
    else ∃ r : ℝ, m.before.getDistance target.vector = some (r + m.length) ∧
      m.after.getDistance target.vector = some r

/-- The component, the position of its entity, what is left of the path, and what was done. -/
structure PathState where
  move : MoveComponent .exact
  position : Vector3 .exact
  goals : Option (List Point)
  moves : List PathMove

/-- Who writes the position or the path. -/
inductive PathEvent
  /-- `SetPath`, as in `HandlePlayerMove` and `HandleNpcMove`, from where the entity is. -/
  | setPath (targets : List Point)
  | update (timeElapsed speed : {r : ℝ // 0 < r})
  /-- A rebirth, or a position that a client sends. -/
  | setCurrPos (position : Point)

namespace PathState

/-- One of them.  A path without targets is not a path. -/
noncomputable def step (s : PathState) : PathEvent → PathState
  | .setPath targets =>
    { s with
      move := s.move.setPath (targets.map Point.vector) s.position
      goals := if targets.isEmpty then s.goals else some targets }
  | .update timeElapsed speed =>
    let next := s.move.update (some timeElapsed.1) s.position (some speed.1)
    let advanced := next.2.2 || decide (next.1.targets.length < s.move.targets.length)
    { move := next.1
      position := next.2.1
      goals := if advanced then s.goals.map List.tail else s.goals
      moves := s.moves ++
        [⟨s.goals, stepLength timeElapsed speed, s.position, next.2.1, advanced⟩] }
  | .setCurrPos p => { s with position := p.vector }

/-- After `Awake`: there is no path yet, and the direction is whatever the last user left. -/
def Starts (s : PathState) : Prop :=
  s.move.targets = [] ∧ (∃ p : Point, s.position = p.vector) ∧ s.goals = none ∧ s.moves = []

/-- Every `Update` did what it should. -/
def Follows (s : PathState) : Prop := ∀ m ∈ s.moves, m.Follows

/-- **The condition**: the current target is nearer than the step, or in the direction, and an entity
that has reached the last target is still there. -/
def InLine (s : PathState) : PathEvent → Prop
  | .update timeElapsed speed =>
    match s.goals with
    | none => True
    | some [] => s.position = s.move.vector.target
    | some (target :: _) => ∃ l : ℝ, s.position.getDistance target.vector = some l ∧
        (l < stepLength timeElapsed speed ∨ s.move.vector.LeadsTo s.position target.vector l)
  | .setPath _ => True
  | .setCurrPos _ => True

/-- Where the component leads to: nowhere yet, on the last target, or to the current one. -/
inductive Heading (s : PathState) : Prop
  | unset (hgoals : s.goals = none)
  | reached (target position : Point) (hgoals : s.goals = some [])
      (haims : s.move.vector.Aims target) (htargets : s.move.targets = [])
      (hposition : s.position = position.vector)
  | toward (target : Point) (rest : List Point) (hgoals : s.goals = some (target :: rest))
      (haims : s.move.vector.Aims target) (htargets : s.move.targets = rest.map Point.vector)

/-! ### One step -/

variable {s t : PathState} {timeElapsed speed : {r : ℝ // 0 < r}} {target : Point}

/-- One more record. -/
theorem follows_append {m : PathMove} (hmoves : t.moves = s.moves ++ [m]) :
    t.Follows ↔ s.Follows ∧ m.Follows := by
  simp [Follows, hmoves, or_imp, forall_and]

/-- An `Update` that puts the entity on the last target. -/
theorem step_last {l : ℝ} (hl : s.position.getDistance s.move.vector.target = some l)
    (hnear : l < stepLength timeElapsed speed) (htargets : s.move.targets = []) :
    s.step (.update timeElapsed speed) =
      { s with
        position := s.move.vector.target
        goals := s.goals.map List.tail
        moves := s.moves ++ [⟨s.goals, stepLength timeElapsed speed, s.position,
          s.move.vector.target, true⟩] } := by
  simp [step, MoveComponent.update_last hl hnear htargets]

/-- An `Update` that puts the entity on a target before the last one. -/
theorem step_next {l : ℝ} (hl : s.position.getDistance s.move.vector.target = some l)
    (hnear : l < stepLength timeElapsed speed) {v3 : Vector3 .exact} {rest : List (Vector3 .exact)}
    (htargets : s.move.targets = v3 :: rest) :
    s.step (.update timeElapsed speed) =
      { s with
        move := { s.move with targets := rest, vector := .setTarget v3 s.move.vector.target }
        position := s.move.vector.target
        goals := s.goals.map List.tail
        moves := s.moves ++ [⟨s.goals, stepLength timeElapsed speed, s.position,
          s.move.vector.target, true⟩] } := by
  simp [step, MoveComponent.update_next hl hnear htargets, htargets]

/-- An `Update` on the way. -/
theorem step_far (hfar : ∀ l : ℝ, s.position.getDistance s.move.vector.target = some l →
      stepLength timeElapsed speed ≤ l) :
    s.step (.update timeElapsed speed) =
      { s with
        position := s.move.vector.move s.position (stepLength timeElapsed speed)
        moves := s.moves ++ [⟨s.goals, stepLength timeElapsed speed, s.position,
          s.move.vector.move s.position (stepLength timeElapsed speed), false⟩] } := by
  simp [step, MoveComponent.update_far hfar]

variable (timeElapsed speed) in
/-- Nothing is asked of an `Update` before the first path. -/
theorem update_unset (hgoals : s.goals = none) :
    ((s.step (.update timeElapsed speed)).Follows ↔ s.Follows) ∧
      (s.step (.update timeElapsed speed)).Heading := by
  constructor
  · have hrecord := follows_append (s := s) (t := s.step (.update timeElapsed speed)) rfl
    simpa [PathMove.Follows, hgoals] using hrecord
  · exact .unset (by simp [step, hgoals])

/-- An entity on the last target stays there, and no other one does. -/
theorem update_reached {position : Point} (hgoals : s.goals = some [])
    (haims : s.move.vector.Aims target) (htargets : s.move.targets = [])
    (hposition : s.position = position.vector) :
    ((s.step (.update timeElapsed speed)).Follows ↔
        s.Follows ∧ s.InLine (.update timeElapsed speed)) ∧
      (s.InLine (.update timeElapsed speed) → (s.step (.update timeElapsed speed)).Heading) := by
  have hguard : s.InLine (.update timeElapsed speed) ↔ position.vector = target.vector := by
    simp [InLine, hgoals, hposition, haims.target_eq]
  have hl := position.getDistance_vector target
  rw [← hposition, ← haims.target_eq] at hl
  rw [hguard]
  by_cases hnear : √((target.x - position.x) * (target.x - position.x) +
      (target.z - position.z) * (target.z - position.z)) < stepLength timeElapsed speed
  · rw [step_last hl hnear htargets]
    refine ⟨(follows_append rfl).trans (and_congr_right fun _ => ?_), fun _ => ?_⟩
    · simp [PathMove.Follows, hgoals, hposition, haims.target_eq, eq_comm]
    · exact .reached target target (by simp [hgoals]) haims htargets haims.target_eq
  · rw [step_far fun l hl' => (Option.some.inj (hl.symm.trans hl')) ▸ not_lt.1 hnear]
    -- neither is on the target, and the step has a length
    have haway : position.vector ≠ target.vector := by
      intro heq
      obtain rfl := Point.vector_injective heq
      simp [stepLength_pos] at hnear
    refine ⟨(follows_append rfl).trans (and_congr_right fun _ => ?_), fun heq => absurd heq haway⟩
    have hmoved := haims.move_ne position (stepLength_pos timeElapsed speed)
    simp [PathMove.Follows, hgoals, hposition, haway, hmoved]

variable (timeElapsed speed) in
/-- With a target before it, an entity reaches it or comes nearer by the step exactly if the target is near
or in the direction. -/
theorem update_toward {rest : List Point} (hgoals : s.goals = some (target :: rest))
    (haims : s.move.vector.Aims target) (htargets : s.move.targets = rest.map Point.vector) :
    ((s.step (.update timeElapsed speed)).Follows ↔
        s.Follows ∧ s.InLine (.update timeElapsed speed)) ∧
      (s.step (.update timeElapsed speed)).Heading := by
  by_cases hnear : ∃ l : ℝ, s.position.getDistance s.move.vector.target = some l ∧
      l < stepLength timeElapsed speed
  · obtain ⟨l, hl, hnear⟩ := hnear
    have hguard : s.InLine (.update timeElapsed speed) := by
      rw [haims.target_eq] at hl
      simpa [InLine, hgoals, hl] using Or.inl hnear
    cases rest with
    | nil =>
      rw [step_last hl hnear htargets]
      refine ⟨(follows_append rfl).trans (and_congr_right fun _ => ?_), ?_⟩
      · simp [PathMove.Follows, hgoals, haims.target_eq, hguard]
      · exact .reached target target (by simp [hgoals]) haims htargets haims.target_eq
    | cons next rest =>
      rw [step_next hl hnear htargets]
      refine ⟨(follows_append rfl).trans (and_congr_right fun _ => ?_), ?_⟩
      · simp [PathMove.Follows, hgoals, haims.target_eq, hguard]
      · exact .toward next rest (by simp [hgoals]) (MoveVector3.setTarget_aims next _) rfl
  · rw [step_far fun l hl => not_lt.1 fun hless => hnear ⟨l, hl, hless⟩]
    refine ⟨(follows_append rfl).trans (and_congr_right fun _ => ?_),
      .toward target rest hgoals haims htargets⟩
    rw [haims.target_eq] at hnear
    cases hl : s.position.getDistance target.vector with
    | none => simp [PathMove.Follows, InLine, hgoals, hl]
    | some l =>
      have hfar : stepLength timeElapsed speed ≤ l := not_lt.1 fun hless => hnear ⟨l, hl, hless⟩
      have hmove := haims.move_iff (stepLength_pos timeElapsed speed) hl hfar
      simpa [PathMove.Follows, InLine, hgoals, hl, not_lt.2 hfar] using hmove

/-- `SetPath` leads to the first target, if there is one. -/
theorem Heading.setPath (hs : s.Heading) (targets : List Point) :
    (s.step (.setPath targets)).Heading := by
  cases targets with
  | nil => exact hs
  | cons first rest => exact .toward first rest rfl (MoveVector3.setTarget_aims first _) rfl

/-- A position from outside leaves the direction and the path. -/
theorem Heading.setCurrPos (hs : s.Heading) (p : Point) : (s.step (.setCurrPos p)).Heading := by
  cases hs with
  | unset hgoals => exact .unset hgoals
  | reached target _ hgoals haims htargets _ => exact .reached target p hgoals haims htargets rfl
  | toward target rest hgoals haims htargets => exact .toward target rest hgoals haims htargets

/-- **One step**: it is right exactly if it meets the condition, which is enough for the next one. -/
theorem step_exact (hs : s.Heading) (e : PathEvent) :
    ((s.step e).Follows ↔ s.Follows ∧ s.InLine e) ∧ (s.InLine e → (s.step e).Heading) := by
  cases e with
  | setPath targets => exact ⟨(and_iff_left trivial).symm, fun _ => hs.setPath targets⟩
  | setCurrPos p => exact ⟨(and_iff_left trivial).symm, fun _ => hs.setCurrPos p⟩
  | update timeElapsed speed =>
    cases hs with
    | unset hgoals =>
      have hguard : s.InLine (.update timeElapsed speed) := by simp [InLine, hgoals]
      have hupdate := update_unset timeElapsed speed hgoals
      exact ⟨by simp [hupdate.1, hguard], fun _ => hupdate.2⟩
    | reached target position hgoals haims htargets hposition =>
      exact update_reached hgoals haims htargets hposition
    | toward target rest hgoals haims htargets =>
      have hupdate := update_toward timeElapsed speed hgoals haims htargets
      exact ⟨hupdate.1, fun _ => hupdate.2⟩

end PathState

/-! ### Without interruption -/

namespace PathState

/-- On a way that nobody else has changed: at its end, on the last target, or with the direction to the
current one. -/
inductive OnWay (s : PathState) : Prop
  | reached (target : Point) (hgoals : s.goals = some []) (haims : s.move.vector.Aims target)
      (htargets : s.move.targets = []) (hposition : s.position = target.vector)
  | toward (target : Point) (rest : List Point) (l : ℝ) (hgoals : s.goals = some (target :: rest))
      (haims : s.move.vector.Aims target) (htargets : s.move.targets = rest.map Point.vector)
      (hl : s.position.getDistance target.vector = some l)
      (hleads : l = 0 ∨ s.move.vector.LeadsTo s.position target.vector l)

variable {s : PathState} (timeElapsed speed : {r : ℝ // 0 < r})

theorem OnWay.heading (hs : s.OnWay) : s.Heading := by
  cases hs with
  | reached target hgoals haims htargets hposition =>
    exact .reached target target hgoals haims htargets hposition
  | toward target rest l hgoals haims htargets hl hleads =>
    exact .toward target rest hgoals haims htargets

/-- The condition is met. -/
theorem OnWay.inLine (hs : s.OnWay) : s.InLine (.update timeElapsed speed) := by
  cases hs with
  | reached target hgoals haims htargets hposition =>
    simp [InLine, hgoals, haims.target_eq, hposition]
  | toward target rest l hgoals haims htargets hl hleads =>
    have hnear : l < stepLength timeElapsed speed ∨
        s.move.vector.LeadsTo s.position target.vector l := by
      refine hleads.imp_left fun hzero => ?_
      rw [hzero]
      exact stepLength_pos timeElapsed speed
    simpa [InLine, hgoals, hl] using hnear

/-- From a position with a value, `SetPath` is the start of a way. -/
theorem OnWay.setPath {p : Point} (hposition : s.position = p.vector) (first : Point)
    (rest : List Point) : (s.step (.setPath (first :: rest))).OnWay := by
  have hl := p.getDistance_vector first
  have hleads := MoveVector3.setTarget_leadsTo first p hl
  rw [← hposition] at hl hleads
  exact .toward first rest _ rfl (MoveVector3.setTarget_aims first _) rfl hl hleads

/-- `Update` stays on the way. -/
theorem OnWay.update (hs : s.OnWay) : (s.step (.update timeElapsed speed)).OnWay := by
  cases hs with
  | reached target hgoals haims htargets hposition =>
    have hl : s.position.getDistance s.move.vector.target = some 0 := by
      rw [hposition, haims.target_eq, Point.getDistance_vector]
      simp
    rw [step_last hl (stepLength_pos timeElapsed speed) htargets]
    exact .reached target (by simp [hgoals]) haims htargets haims.target_eq
  | toward target rest l hgoals haims htargets hl hleads =>
    have hl' := hl
    rw [← haims.target_eq] at hl'
    by_cases hnear : l < stepLength timeElapsed speed
    · cases rest with
      | nil =>
        rw [step_last hl' hnear htargets]
        exact .reached target (by simp [hgoals]) haims htargets haims.target_eq
      | cons next rest =>
        rw [step_next hl' hnear htargets, haims.target_eq]
        have hnext := target.getDistance_vector next
        exact .toward next rest _ (by simp [hgoals]) (MoveVector3.setTarget_aims next _) rfl hnext
          (MoveVector3.setTarget_leadsTo next target hnext)
    · rw [step_far fun r hr => (Option.some.inj (hl'.symm.trans hr)) ▸ not_lt.1 hnear]
      have hfar := not_lt.1 hnear
      have hpos := stepLength_pos timeElapsed speed
      have hdirect := hleads.resolve_left (hpos.trans_le hfar).ne'
      obtain ⟨r, hr, hmoved⟩ := (haims.move_iff hpos hl hfar).2 hdirect
      obtain rfl := Option.some.inj (hl.symm.trans hr)
      exact .toward target rest r hgoals haims htargets hmoved
        (Or.inr (MoveVector3.leadsTo_move.2 hdirect))

/-- **Without positions from outside** a path is followed to its end, and every `Update` behind it leaves
the entity there. -/
theorem OnWay.updates (hs : s.OnWay) (hfollows : s.Follows)
    (updates : List ({r : ℝ // 0 < r} × {r : ℝ // 0 < r})) :
    (updates.foldl (fun s u => s.step (.update u.1 u.2)) s).Follows := by
  induction updates generalizing s with
  | nil => exact hfollows
  | cons u updates ih =>
    have hstep := (step_exact hs.heading (.update u.1 u.2)).1.2 ⟨hfollows, hs.inLine u.1 u.2⟩
    exact ih (hs.update u.1 u.2) hstep

end PathState

/-! ### Runs -/

/-- The component and the writers of its entity's position, in any order. -/
noncomputable def pathSystem : Transition.System PathState PathEvent where
  init := PathState.Starts
  step s e t := t = s.step e

/-- **The path is followed** in every run whose steps meet the condition, and a step that comes next is
right exactly if it meets the condition. -/
theorem path_run {es : List PathEvent} {t : PathState}
    (hrun : (pathSystem.restrict PathState.InLine).Run es t) :
    t.Follows ∧ ∀ e t', pathSystem.step t e t' → (t'.Follows ↔ t.InLine e) := by
  refine hrun.restrict_exact (p := fun s => s.Heading ∧ s.Follows) (q := PathState.Follows) ?_
    (fun _ hs => hs.2) ?_
  · rintro s ⟨-, -, hgoals, hmoves⟩
    exact ⟨.unset hgoals, by simp [PathState.Follows, hmoves]⟩
  · intro s e t' hs hstep
    obtain rfl : t' = s.step e := hstep
    have hexact := PathState.step_exact hs.1 e
    have hiff : (s.step e).Follows ↔ s.InLine e := hexact.1.trans (and_iff_right hs.2)
    exact ⟨hiff, fun hguard => ⟨hexact.2 hguard, hiff.2 hguard⟩⟩

/-- A new component, with its entity at the origin. -/
noncomputable def PathState.create : PathState :=
  ⟨⟨some 1.56, [], .create .exact⟩, (⟨0, 0, 0⟩ : Point).vector, none, []⟩

theorem PathState.create_starts : PathState.create.Starts := ⟨rfl, ⟨_, rfl⟩, rfl, rfl⟩

/-- An `Update` after a second, at two units a second. -/
noncomputable def PathEvent.second : PathEvent :=
  .update ⟨1000, by norm_num⟩ ⟨2, by norm_num⟩

/-- On a path of two targets, of which the first one is near: the entity is put on it, and then, by somebody else,
further on the way to the second one. -/
noncomputable def PathState.onTheWay : PathState :=
  ((PathState.create.step (.setPath [⟨1, 0, 0⟩, ⟨9, 0, 0⟩])).step .second).step (.setCurrPos ⟨3, 0, 0⟩)

/-- The first target is reached, and the direction is that to the second one. -/
theorem PathState.onTheWay_fields : PathState.onTheWay.goals = some [⟨9, 0, 0⟩] ∧
    PathState.onTheWay.move.vector = .setTarget (⟨9, 0, 0⟩ : Point).vector (⟨1, 0, 0⟩ : Point).vector ∧
    PathState.onTheWay.moves.map PathMove.advanced = [true] := by
  have hl : (PathState.create.step (.setPath [⟨1, 0, 0⟩, ⟨9, 0, 0⟩])).position.getDistance
      (PathState.create.step (.setPath [⟨1, 0, 0⟩, ⟨9, 0, 0⟩])).move.vector.target = some 1 := by
    refine (Point.getDistance_vector ⟨0, 0, 0⟩ ⟨1, 0, 0⟩).trans ?_
    norm_num
  have hnear : 1 < stepLength ⟨1000, by norm_num⟩ ⟨2, by norm_num⟩ := by
    norm_num [stepLength]
  have htargets : (PathState.create.step (.setPath [⟨1, 0, 0⟩, ⟨9, 0, 0⟩])).move.targets =
      [(⟨9, 0, 0⟩ : Point).vector] := rfl
  rw [PathState.onTheWay, PathEvent.second, PathState.step_next hl hnear htargets]
  exact ⟨rfl, rfl, rfl⟩

/-- The second target is six units away. -/
theorem PathState.onTheWay_distance :
    PathState.onTheWay.position.getDistance (⟨9, 0, 0⟩ : Point).vector = some 6 := by
  refine (Point.getDistance_vector ⟨3, 0, 0⟩ ⟨9, 0, 0⟩).trans ?_
  norm_num

/-- From where it was put, the direction leads to the second target. -/
theorem PathState.onTheWay_inLine : PathState.onTheWay.InLine .second := by
  obtain ⟨hgoals, hvector, -⟩ := PathState.onTheWay_fields
  have hposition : PathState.onTheWay.position = (⟨3, 0, 0⟩ : Point).vector := rfl
  simp only [PathState.InLine, PathEvent.second, hgoals]
  refine ⟨6, PathState.onTheWay_distance, Or.inr ?_⟩
  rw [hvector, hposition]
  norm_num [MoveVector3.LeadsTo, MoveVector3.setTarget, Point.vector]

/-- One more `Update` shortens the way to it. -/
theorem PathState.onTheWay_second : (PathState.onTheWay.step .second).goals = some [⟨9, 0, 0⟩] ∧
    (PathState.onTheWay.step .second).moves.map PathMove.advanced = [true, false] := by
  obtain ⟨hgoals, hvector, hmoves⟩ := PathState.onTheWay_fields
  have htarget : PathState.onTheWay.move.vector.target = (⟨9, 0, 0⟩ : Point).vector := by
    rw [hvector]
    rfl
  have hfar : ∀ l : ℝ, PathState.onTheWay.position.getDistance PathState.onTheWay.move.vector.target = some l →
      stepLength ⟨1000, by norm_num⟩ ⟨2, by norm_num⟩ ≤ l := by
    intro l hl
    rw [htarget, PathState.onTheWay_distance] at hl
    obtain rfl := Option.some.inj hl
    norm_num [stepLength]
  rw [PathEvent.second, PathState.step_far hfar]
  refine ⟨hgoals, ?_⟩
  rw [List.map_append, hmoves]
  rfl

/-- **Two targets**, of which the first one is reached, and a position from outside: the path is followed. -/
theorem path_twoTargets : ∃ t, (pathSystem.restrict PathState.InLine).Run
      [.setPath [⟨1, 0, 0⟩, ⟨9, 0, 0⟩], .second, .setCurrPos ⟨3, 0, 0⟩, .second] t ∧
    t.goals = some [⟨9, 0, 0⟩] ∧ t.moves.map PathMove.advanced = [true, false] ∧ t.Follows := by
  have hstart : (pathSystem.restrict PathState.InLine).Run [] .create :=
    .init PathState.create_starts
  have hpath : (pathSystem.restrict PathState.InLine).Run [.setPath [⟨1, 0, 0⟩, ⟨9, 0, 0⟩]] _ :=
    hstart.step ⟨trivial, rfl⟩
  have hway : (PathState.create.step (.setPath [⟨1, 0, 0⟩, ⟨9, 0, 0⟩])).OnWay := .setPath rfl _ _
  have hfirst : (pathSystem.restrict PathState.InLine).Run
      [.setPath [⟨1, 0, 0⟩, ⟨9, 0, 0⟩], .second] _ := hpath.step ⟨hway.inLine _ _, rfl⟩
  have hput : (pathSystem.restrict PathState.InLine).Run
      [.setPath [⟨1, 0, 0⟩, ⟨9, 0, 0⟩], .second, .setCurrPos ⟨3, 0, 0⟩] .onTheWay := hfirst.step ⟨trivial, rfl⟩
  have hsecond : (pathSystem.restrict PathState.InLine).Run
      [.setPath [⟨1, 0, 0⟩, ⟨9, 0, 0⟩], .second, .setCurrPos ⟨3, 0, 0⟩, .second] _ :=
    hput.step ⟨PathState.onTheWay_inLine, rfl⟩
  obtain ⟨hgoals, hmoves⟩ := PathState.onTheWay_second
  exact ⟨_, hsecond, hgoals, hmoves, (path_run hsecond).1⟩

/-- On the way to `(10, 0, 0)`, and then put behind it. -/
noncomputable def PathState.reborn : PathState :=
  (PathState.create.step (.setPath [⟨10, 0, 0⟩])).step (.setCurrPos ⟨20, 0, 0⟩)

theorem PathState.reborn_not_inLine : ¬ PathState.reborn.InLine .second := by
  rintro ⟨l, hl, hnear | ⟨hx, -⟩⟩
  all_goals
    obtain rfl := Option.some.inj ((Point.getDistance_vector _ _).symm.trans hl)
  · norm_num [stepLength] at hnear
  · norm_num [reborn, create, step, MoveComponent.setPath, MoveVector3.setTarget,
      Point.vector] at hx
    exact absurd (Option.some.inj hx) (by norm_num)

/-- **Reborn behind its target**, the entity goes on in the old direction, and away from it. -/
theorem not_path : ¬ ∀ es t, pathSystem.Run es t → t.Follows := by
  intro hall
  have hstart : pathSystem.Run [] .create := .init PathState.create_starts
  have hpath : pathSystem.Run [.setPath [⟨10, 0, 0⟩]] _ := hstart.step rfl
  have hborn : pathSystem.Run [.setPath [⟨10, 0, 0⟩], .setCurrPos ⟨20, 0, 0⟩] .reborn :=
    hpath.step rfl
  have hfollows := hall _ _ (hborn.step (e := .second) rfl)
  have hheading : PathState.reborn.Heading :=
    (PathState.Heading.setPath (.unset rfl) _).setCurrPos _
  exact PathState.reborn_not_inLine ((PathState.step_exact hheading .second).1.1 hfollows).2

end MmoServer
