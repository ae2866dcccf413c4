/-
**How hiredis splits a command.**

A command is given to hiredis as a format, like one of `printf`.  It is split at its spaces into
arguments, and a percent sign starts a conversion, unless it is the last character: two of them
stand for one, and all other conversions take arguments.  The server has formatted its commands
before, and passes no arguments with them.

Main definitions:

* `Hiredis.FormatState`, `Hiredis.scan`, `Hiredis.formatCommand` — the scanner of a format, without
  arguments;
* `Hiredis.joinArgs` — arguments with a space between them.

Main results:

* `Hiredis.scan_le`, `Hiredis.scan_lt` — no character is made up, and a percent sign takes one;
* `Hiredis.formatCommand_joinArgs_iff` — **arguments are split as they were joined** exactly if none
  is empty or has a space in it, and there is no percent sign but the last character.
-/

import Mathlib.Algebra.Order.BigOperators.Group.List
import Mathlib.Algebra.Order.Ring.Nat

set_option relaxedAutoImplicit false
set_option autoImplicit false

namespace Hiredis

/-! ### The scanner -/

/-- The space between arguments. -/
def space : UInt8 := 32

/-- The percent sign. -/
def percent : UInt8 := 37

/-- What `redisvFormatCommand` keeps while it scans a format. -/
structure FormatState where
  curargv : List (List UInt8)
  curarg : List UInt8
  touched : Bool

namespace FormatState

/-- No argument yet. -/
def start : FormatState := ⟨[], [], false⟩

/-- A character that becomes a part of the current argument. -/
def append (s : FormatState) (c : UInt8) : FormatState := ⟨s.curargv, s.curarg ++ [c], true⟩

/-- A character that starts no conversion. -/
def literal (s : FormatState) (c : UInt8) : FormatState :=
  if c = space then
    if s.touched then ⟨s.curargv ++ [s.curarg], [], false⟩ else s
  else s.append c

/-- The arguments at the end of the format. -/
def finish (s : FormatState) : List (List UInt8) :=
  if s.touched then s.curargv ++ [s.curarg] else s.curargv

end FormatState

/-- Scan a format.  A conversion other than `%%` is an error, or takes an argument that was not
passed. -/
def scan : List UInt8 → FormatState → Option FormatState
  | [], s => some s
  | [c], s => some (s.literal c)
  | c :: d :: rest, s =>
    if c ≠ percent then scan (d :: rest) (s.literal c)
    else if d = percent then scan rest (s.append percent)
    else none

/-- `redisFormatCommand` without arguments: the argument vector of the command. -/
def formatCommand (format : List UInt8) : Option (List (List UInt8)) :=
  (scan format FormatState.start).map FormatState.finish

/-! ### What a scan keeps -/

namespace FormatState

/-- The number of characters in all arguments. -/
def total (s : FormatState) : ℕ := (s.curargv.map List.length).sum + s.curarg.length

/-- The current argument is touched exactly if it is not empty, and no other one is empty. -/
structure Good (s : FormatState) : Prop where
  touched_iff : s.touched = true ↔ s.curarg ≠ []
  ne_nil : ∀ a ∈ s.curargv, a ≠ []

theorem good_start : start.Good where
  touched_iff := by simp [start]
  ne_nil := by
    intro a ha
    cases ha

theorem Good.append {s : FormatState} (h : s.Good) (c : UInt8) : (s.append c).Good where
  touched_iff := by simp [FormatState.append]
  ne_nil := h.ne_nil

theorem Good.literal {s : FormatState} (h : s.Good) (c : UInt8) : (s.literal c).Good := by
  unfold FormatState.literal
  split
  · split
    · rename_i htouched
      refine ⟨by simp, fun a ha => ?_⟩
      rcases List.mem_append.1 ha with hold | hnew
      · exact h.ne_nil a hold
      · rw [List.mem_singleton.1 hnew]
        exact h.touched_iff.1 htouched
    · exact h
  · exact h.append c

theorem total_append (s : FormatState) (c : UInt8) : (s.append c).total = s.total + 1 := by
  simp [total, append, Nat.add_assoc]

/-- A space is dropped, and every other character kept. -/
theorem total_literal (s : FormatState) (c : UInt8) :
    (s.literal c).total + [c].count space = s.total + 1 := by
  unfold literal
  by_cases hc : c = space
  · subst hc
    rw [if_pos rfl, List.count_singleton_self]
    split
    · simp [total]
    · rfl
  · rw [if_neg hc, total_append, List.count_eq_zero_of_not_mem]
    simpa using Ne.symm hc

/-- The arguments at the end have all characters, and none is empty. -/
theorem Good.finish {s : FormatState} (h : s.Good) :
    (s.finish.map List.length).sum = s.total ∧ ∀ a ∈ s.finish, a ≠ [] := by
  unfold FormatState.finish total
  by_cases htouched : s.touched = true
  · rw [if_pos htouched]
    refine ⟨by simp, fun a ha => ?_⟩
    rcases List.mem_append.1 ha with hold | hnew
    · exact h.ne_nil a hold
    · rw [List.mem_singleton.1 hnew]
      exact h.touched_iff.1 htouched
  · rw [if_neg htouched]
    have hempty : s.curarg = [] := by
      by_contra hne
      exact htouched (h.touched_iff.2 hne)
    rw [hempty]
    exact ⟨rfl, h.ne_nil⟩

end FormatState

open FormatState

theorem scan_good {format : List UInt8} {s t : FormatState} (h : scan format s = some t)
    (hs : s.Good) : t.Good := by
  induction format, s using scan.induct with
  | case1 s =>
    rw [← Option.some.inj h]
    exact hs
  | case2 c s =>
    rw [← Option.some.inj h]
    exact hs.literal c
  | case3 c d rest s hc ih =>
    rw [scan, if_pos hc] at h
    exact ih h (hs.literal c)
  | case4 c rest s hc ih =>
    rw [scan, if_neg hc, if_pos rfl] at h
    exact ih h (hs.append percent)
  | case5 c d rest s hc hd =>
    rw [scan, if_neg hc, if_neg hd] at h
    cases h

/-- The spaces of a format are those of its first character, and those of the rest. -/
theorem count_space_cons (c : UInt8) (rest : List UInt8) :
    (c :: rest).count space = [c].count space + rest.count space := by
  rw [← List.count_append, List.singleton_append]

/-- Two percent signs are no spaces. -/
theorem count_space_percents (rest : List UInt8) :
    (percent :: percent :: rest).count space = rest.count space := by
  rw [List.count_cons_of_ne (by decide), List.count_cons_of_ne (by decide)]

/-- **No character is made up**, and the spaces are dropped. -/
theorem scan_le {format : List UInt8} {s t : FormatState} (h : scan format s = some t) :
    t.total + format.count space ≤ s.total + format.length := by
  induction format, s using scan.induct with
  | case1 s =>
    rw [← Option.some.inj h]
    exact Nat.le_refl _
  | case2 c s =>
    rw [← Option.some.inj h, total_literal]
    exact Nat.le_refl _
  | case3 c d rest s hc ih =>
    rw [scan, if_pos hc] at h
    have hrest := ih h
    have hhead := total_literal s c
    rw [count_space_cons, List.length_cons]
    omega
  | case4 c rest s hc ih =>
    rw [scan, if_neg hc, if_pos rfl] at h
    have hrest := ih h
    rw [total_append] at hrest
    obtain rfl := not_not.1 hc
    rw [count_space_percents, List.length_cons, List.length_cons]
    omega
  | case5 c d rest s hc hd =>
    rw [scan, if_neg hc, if_neg hd] at h
    cases h

/-- **A percent sign** takes a character with it, unless it is the last one. -/
theorem scan_lt {format : List UInt8} {s t : FormatState} (h : scan format s = some t)
    (hmem : percent ∈ format.dropLast) :
    t.total + format.count space < s.total + format.length := by
  induction format, s using scan.induct with
  | case1 s => cases hmem
  | case2 c s => cases hmem
  | case3 c d rest s hc ih =>
    rw [scan, if_pos hc] at h
    rw [List.dropLast_cons_cons] at hmem
    rcases List.mem_cons.1 hmem with hhead | htail
    · exact absurd hhead.symm hc
    · have hrest := ih h htail
      have hhead := total_literal s c
      rw [count_space_cons, List.length_cons]
      omega
  | case4 c rest s hc ih =>
    rw [scan, if_neg hc, if_pos rfl] at h
    have hrest := scan_le h
    rw [total_append] at hrest
    obtain rfl := not_not.1 hc
    rw [count_space_percents, List.length_cons, List.length_cons]
    omega
  | case5 c d rest s hc hd =>
    rw [scan, if_neg hc, if_neg hd] at h
    cases h

/-! ### Splitting what was joined -/

/-- A format without a conversion is read character by character. -/
theorem scan_of_notMem {format : List UInt8} (s : FormatState)
    (h : percent ∉ format.dropLast) : scan format s = some (format.foldl literal s) := by
  induction format, s using scan.induct with
  | case1 s => rfl
  | case2 c s => rfl
  | case3 c d rest s hc ih =>
    rw [List.dropLast_cons_cons] at h
    rw [scan, if_pos hc, ih fun hmem => h (List.mem_cons_of_mem _ hmem)]
    rfl
  | case4 c rest s hc ih =>
    refine absurd ?_ h
    rw [List.dropLast_cons_cons, not_not.1 hc]
    exact List.mem_cons_self ..
  | case5 c d rest s hc hd =>
    refine absurd ?_ h
    rw [List.dropLast_cons_cons, not_not.1 hc]
    exact List.mem_cons_self ..

/-- A word is appended to the current argument. -/
theorem foldl_literal_word (s : FormatState) {word : List UInt8} (hne : word ≠ [])
    (hspace : space ∉ word) :
    word.foldl literal s = ⟨s.curargv, s.curarg ++ word, true⟩ := by
  induction word generalizing s with
  | nil => exact absurd rfl hne
  | cons c word ih =>
    obtain ⟨hc, hrest⟩ := not_or.1 fun hmem => hspace (List.mem_cons.2 hmem)
    have hhead : s.literal c = s.append c := if_neg (Ne.symm hc)
    rw [List.foldl_cons, hhead]
    by_cases hword : word = []
    · rw [hword]
      rfl
    · rw [ih (s.append c) hword hrest]
      simp [FormatState.append]

/-- Arguments with a space between them. -/
def joinArgs (args : List (List UInt8)) : List UInt8 := List.intercalate [space] args

theorem joinArgs_cons_cons (a b : List UInt8) (args : List (List UInt8)) :
    joinArgs (a :: b :: args) = a ++ space :: joinArgs (b :: args) := by
  simp [joinArgs, List.intercalate_cons_cons]

/-- Words that were joined are split again. -/
theorem finish_foldl_joinArgs (argv : List (List UInt8)) {args : List (List UInt8)}
    (hargs : ∀ a ∈ args, a ≠ [] ∧ space ∉ a) :
    ((joinArgs args).foldl literal ⟨argv, [], false⟩).finish = argv ++ args := by
  induction args generalizing argv with
  | nil => simp [joinArgs, FormatState.finish]
  | cons a args ih =>
    obtain ⟨hne, hspace⟩ := hargs a (List.mem_cons_self ..)
    cases args with
    | nil =>
      have hjoin : joinArgs [a] = a := by simp [joinArgs]
      rw [hjoin, foldl_literal_word _ hne hspace]
      simp [FormatState.finish]
    | cons b args =>
      have hlast : FormatState.literal ⟨argv, [] ++ a, true⟩ space = ⟨argv ++ [a], [], false⟩ := by
        simp [FormatState.literal]
      rw [joinArgs_cons_cons, List.foldl_append, foldl_literal_word _ hne hspace, List.foldl_cons,
        hlast, ih (argv ++ [a]) fun c hc => hargs c (List.mem_cons_of_mem _ hc)]
      simp

/-- The characters of arguments that are joined. -/
theorem length_joinArgs (args : List (List UInt8)) :
    (joinArgs args).length = (args.map List.length).sum + (args.length - 1) := by
  induction args with
  | nil => rfl
  | cons a args ih =>
    cases args with
    | nil => simp [joinArgs]
    | cons b args =>
      rw [joinArgs_cons_cons, List.length_append, List.length_cons, ih]
      simp only [List.map_cons, List.sum_cons, List.length_cons]
      omega

/-- The spaces of arguments that are joined: those between them, and those inside. -/
theorem count_joinArgs (args : List (List UInt8)) :
    (joinArgs args).count space = (args.map (List.count space)).sum + (args.length - 1) := by
  induction args with
  | nil => rfl
  | cons a args ih =>
    cases args with
    | nil => simp [joinArgs]
    | cons b args =>
      rw [joinArgs_cons_cons, List.count_append, List.count_cons_self, ih]
      simp only [List.map_cons, List.sum_cons, List.length_cons]
      omega

/-- **Fewer characters than were joined** are not the arguments that were joined. -/
theorem formatCommand_ne {format : List UInt8} {args : List (List UInt8)}
    (hlength : format.length < (joinArgs args).length)
    (hcount : args.length - 1 ≤ format.count space) : formatCommand format ≠ some args := by
  intro h
  obtain ⟨t, hscan, hfinish⟩ := Option.map_eq_some_iff.1 h
  have hle := scan_le hscan
  have htotal := (scan_good hscan good_start).finish.1
  rw [hfinish] at htotal
  rw [length_joinArgs] at hlength
  have hstart : FormatState.start.total = 0 := rfl
  omega

/-- The spaces between arguments that are not empty are not at the end. -/
theorem count_dropLast_joinArgs {args : List (List UInt8)} (hne : ∀ a ∈ args, a ≠ []) :
    args.length - 1 ≤ (joinArgs args).dropLast.count space := by
  induction args with
  | nil => exact Nat.zero_le _
  | cons a args ih =>
    cases args with
    | nil => exact Nat.zero_le _
    | cons b args =>
      have hrest := ih fun c hc => hne c (List.mem_cons_of_mem _ hc)
      have hlength := length_joinArgs (b :: args)
      have hb : 0 < b.length := List.length_pos_iff.2 (hne b (by simp))
      have hjoin : joinArgs (b :: args) ≠ [] := by
        intro hnil
        rw [hnil, List.map_cons, List.sum_cons, List.length_nil] at hlength
        omega
      rw [joinArgs_cons_cons, List.dropLast_append_of_ne_nil (List.cons_ne_nil _ _),
        List.dropLast_cons_of_ne_nil hjoin, List.count_append, List.count_cons_self]
      simp only [List.length_cons] at hrest ⊢
      omega

/-- Where a percent sign may be in arguments that are joined: at the end of the last one. -/
theorem percent_notMem_dropLast_joinArgs (args : List (List UInt8)) {last : List UInt8}
    (hlast : last ≠ []) :
    percent ∉ (joinArgs (args ++ [last])).dropLast ↔
      (∀ a ∈ args, percent ∉ a) ∧ percent ∉ last.dropLast := by
  induction args with
  | nil => simp [joinArgs]
  | cons a args ih =>
    obtain ⟨b, rest, hrest⟩ : ∃ b rest, args ++ [last] = b :: rest := by
      cases args with
      | nil => exact ⟨last, [], rfl⟩
      | cons b args => exact ⟨b, args ++ [last], rfl⟩
    have hjoin : joinArgs (b :: rest) ≠ [] := by
      intro hnil
      have hlength := length_joinArgs (args ++ [last])
      have hpos := List.length_pos_iff.2 hlast
      rw [hrest, hnil, ← hrest, List.map_append, List.sum_append] at hlength
      simp only [List.length_nil, List.map_cons, List.map_nil, List.sum_singleton] at hlength
      omega
    rw [List.cons_append, hrest, joinArgs_cons_cons,
      List.dropLast_append_of_ne_nil (List.cons_ne_nil _ _), List.dropLast_cons_of_ne_nil hjoin,
      List.mem_append, List.mem_cons, ← hrest, not_or, not_or, ih, List.forall_mem_cons]
    have hspace : ¬ percent = space := by decide
    tauto

/-- Arguments that lose their last character are not split as they were. -/
theorem formatCommand_dropLast_ne {args : List (List UInt8)} (hjoin : joinArgs args ≠ []) :
    formatCommand (joinArgs args).dropLast ≠ some args := by
  intro h
  obtain ⟨t, hscan, hfinish⟩ := Option.map_eq_some_iff.1 h
  have hne := (scan_good hscan good_start).finish.2
  rw [hfinish] at hne
  have hpos := List.length_pos_iff.2 hjoin
  refine formatCommand_ne ?_ (count_dropLast_joinArgs hne) h
  rw [List.length_dropLast]
  omega

/-- **Arguments are split as they were joined** exactly if none is empty or has a space, and there
is no percent sign but the last character. -/
theorem formatCommand_joinArgs_iff (args : List (List UInt8)) :
    formatCommand (joinArgs args) = some args ↔
      (∀ a ∈ args, a ≠ [] ∧ space ∉ a) ∧ percent ∉ (joinArgs args).dropLast := by
  constructor
  · intro h
    obtain ⟨t, hscan, hfinish⟩ := Option.map_eq_some_iff.1 h
    obtain ⟨htotal, hne⟩ := (scan_good hscan good_start).finish
    rw [hfinish] at htotal hne
    have hstart : FormatState.start.total = 0 := rfl
    have hle := scan_le hscan
    rw [length_joinArgs, count_joinArgs] at hle
    refine ⟨fun a ha => ⟨hne a ha, fun hspace => ?_⟩, fun hmem => ?_⟩
    · have hpos : 0 < a.count space := List.count_pos_iff.2 hspace
      have hsum : a.count space ≤ (args.map (List.count space)).sum :=
        List.le_sum_of_mem (List.mem_map_of_mem ha)
      omega
    · have hlt := scan_lt hscan hmem
      rw [length_joinArgs, count_joinArgs] at hlt
      omega
  · rintro ⟨hargs, hpercent⟩
    unfold formatCommand
    rw [scan_of_notMem _ hpercent, Option.map_some]
    exact congrArg some (finish_foldl_joinArgs [] hargs)

/-! ### Arguments inside of a command -/

/-- Scan a part of a format that goes on with another character than a percent sign. -/
def scanInner : List UInt8 → FormatState → Option FormatState
  | [], s => some s
  | [c], s => if c = percent then none else some (s.literal c)
  | c :: d :: rest, s =>
    if c ≠ percent then scanInner (d :: rest) (s.literal c)
    else if d = percent then scanInner rest (s.append percent)
    else none

/-- What a part of a format is split into, where a space follows. -/
def innerArgs (part : List UInt8) : Option (List (List UInt8)) :=
  (scanInner part start).map finish

/-- **A part of a format** is scanned by itself. -/
theorem scan_append {c : UInt8} (hc : c ≠ percent) (part rest : List UInt8) (s : FormatState) :
    scan (part ++ c :: rest) s = (scanInner part s).bind (scan (c :: rest)) := by
  induction part, s using scanInner.induct with
  | case1 s => rfl
  | case2 s =>
    rw [scanInner, if_pos rfl, List.singleton_append, scan, if_neg (not_not.2 rfl), if_neg hc]
    rfl
  | case3 d s hd =>
    rw [scanInner, if_neg hd, List.singleton_append, scan, if_pos hd]
    rfl
  | case4 d e part s hd ih =>
    rw [scanInner, if_pos hd, List.cons_append, List.cons_append, scan, if_pos hd]
    exact ih
  | case5 d part s hd ih =>
    rw [scanInner, if_neg hd, if_pos rfl, List.cons_append, List.cons_append, scan, if_neg hd, if_pos rfl]
    exact ih
  | case6 d e part s hd he =>
    rw [scanInner, if_neg hd, if_neg he, List.cons_append, List.cons_append, scan, if_neg hd, if_neg he]
    rfl

/-- Characters without a percent sign are scanned one by one. -/
theorem scan_plain_append {word : List UInt8} (hword : percent ∉ word) (rest : List UInt8)
    (s : FormatState) : scan (word ++ rest) s = scan rest (word.foldl literal s) := by
  induction word generalizing s with
  | nil => rfl
  | cons c word ih =>
    obtain ⟨hc, htail⟩ := not_or.1 fun hmem => hword (List.mem_cons.2 hmem)
    rw [List.foldl_cons, ← ih htail (s.literal c), List.cons_append]
    cases hrest : word ++ rest with
    | nil => rfl
    | cons d more => rw [scan, if_pos (Ne.symm hc)]

theorem scanInner_plain_append {word : List UInt8} (hword : percent ∉ word) (rest : List UInt8)
    (s : FormatState) : scanInner (word ++ rest) s = scanInner rest (word.foldl literal s) := by
  induction word generalizing s with
  | nil => rfl
  | cons c word ih =>
    obtain ⟨hc, htail⟩ := not_or.1 fun hmem => hword (List.mem_cons.2 hmem)
    rw [List.foldl_cons, ← ih htail (s.literal c), List.cons_append]
    cases hrest : word ++ rest with
    | nil =>
      rw [scanInner, scanInner, if_neg (Ne.symm hc)]
    | cons d more => rw [scanInner, if_pos (Ne.symm hc)]

namespace FormatState

/-- A state behind further arguments. -/
def behind (argv : List (List UInt8)) (s : FormatState) : FormatState :=
  ⟨argv ++ s.curargv, s.curarg, s.touched⟩

theorem behind_append (argv : List (List UInt8)) (s : FormatState) (c : UInt8) :
    (s.behind argv).append c = (s.append c).behind argv := rfl

theorem behind_literal (argv : List (List UInt8)) (s : FormatState) (c : UInt8) :
    (s.behind argv).literal c = (s.literal c).behind argv := by
  unfold literal
  split
  · by_cases htouched : s.touched = true
    · have hbehind : (s.behind argv).touched = true := htouched
      rw [if_pos htouched, if_pos hbehind]
      simp only [behind, List.append_assoc]
    · have hbehind : ¬ (s.behind argv).touched = true := htouched
      rw [if_neg htouched, if_neg hbehind]
  · rfl

theorem finish_behind (argv : List (List UInt8)) (s : FormatState) :
    (s.behind argv).finish = argv ++ s.finish := by
  unfold finish
  by_cases htouched : s.touched = true
  · have hbehind : (s.behind argv).touched = true := htouched
    rw [if_pos htouched, if_pos hbehind]
    simp only [behind, List.append_assoc]
  · have hbehind : ¬ (s.behind argv).touched = true := htouched
    rw [if_neg htouched, if_neg hbehind]
    rfl

end FormatState

/-- A scan does not look at the arguments that are complete. -/
theorem scan_behind (argv : List (List UInt8)) (format : List UInt8) (s : FormatState) :
    scan format (s.behind argv) = (scan format s).map (behind argv) := by
  induction format, s using scan.induct with
  | case1 s => rfl
  | case2 c s => rw [scan, scan, behind_literal, Option.map_some]
  | case3 c d rest s hc ih => rw [scan, scan, if_pos hc, if_pos hc, behind_literal, ih]
  | case4 c rest s hc ih =>
    rw [scan, scan, if_neg hc, if_neg hc, if_pos rfl, if_pos rfl, behind_append, ih]
  | case5 c d rest s hc hd =>
    rw [scan, scan, if_neg hc, if_neg hc, if_neg hd, if_neg hd]
    rfl

theorem scanInner_good {part : List UInt8} {s t : FormatState} (h : scanInner part s = some t)
    (hs : s.Good) : t.Good := by
  induction part, s using scanInner.induct with
  | case1 s => exact Option.some.inj h ▸ hs
  | case2 s =>
    rw [scanInner, if_pos rfl] at h
    cases h
  | case3 c s hc =>
    rw [scanInner, if_neg hc] at h
    exact Option.some.inj h ▸ hs.literal c
  | case4 c d part s hc ih =>
    rw [scanInner, if_pos hc] at h
    exact ih h (hs.literal c)
  | case5 c part s hc ih =>
    rw [scanInner, if_neg hc, if_pos rfl] at h
    exact ih h (hs.append percent)
  | case6 c d part s hc hd =>
    rw [scanInner, if_neg hc, if_neg hd] at h
    cases h

/-- A space ends the argument. -/
theorem literal_space {s : FormatState} (h : s.Good) : s.literal space = ⟨s.finish, [], false⟩ := by
  unfold literal finish
  rw [if_pos rfl]
  by_cases htouched : s.touched = true
  · rw [if_pos htouched, if_pos htouched]
  · have hempty : s.curarg = [] := by
      by_contra hne
      exact htouched (h.touched_iff.2 hne)
    have huntouched : s.touched = false := Bool.not_eq_true _ ▸ htouched
    rw [if_neg htouched, if_neg htouched, ← hempty, ← huntouched]

/-- The name of a command, and the space behind it. -/
theorem foldl_literal_name {name : List UInt8} (hne : name ≠ []) (hspace : space ∉ name) :
    (name ++ [space]).foldl literal start = start.behind [name] := by
  rw [List.foldl_append, foldl_literal_word start hne hspace]
  rfl

/-- **A command with one more part** behind its name. -/
theorem formatCommand_name {name : List UInt8} (hne : name ≠ []) (hspace : space ∉ name)
    (hpercent : percent ∉ name) (part : List UInt8) :
    formatCommand (name ++ [space] ++ part) = (formatCommand part).map (name :: ·) := by
  have hword : percent ∉ name ++ [space] := by
    intro hmem
    obtain hname | hlast := List.mem_append.1 hmem
    · exact hpercent hname
    · exact absurd (List.mem_singleton.1 hlast) (by decide)
  rw [formatCommand, scan_plain_append hword, foldl_literal_name hne hspace, scan_behind, formatCommand,
    Option.map_map, Option.map_map]
  refine congrArg (Option.map · _) (funext fun s => ?_)
  exact finish_behind [name] s

/-- **A part of a command with a word behind it.** -/
theorem formatCommand_inner {word : List UInt8} (hne : word ≠ []) (hspace : space ∉ word)
    (hpercent : percent ∉ word) (part : List UInt8) :
    formatCommand (part ++ space :: word) = (innerArgs part).map (· ++ [word]) := by
  have hrest : percent ∉ (space :: word).dropLast := by
    intro hmem
    obtain hhead | htail := List.mem_cons.1 ((List.dropLast_sublist _).subset hmem)
    · exact absurd hhead (by decide)
    · exact hpercent htail
  rw [formatCommand, innerArgs, scan_append (by decide)]
  cases hscan : scanInner part start with
  | none => rfl
  | some s =>
    rw [Option.bind_some, scan_of_notMem s hrest, List.foldl_cons,
      literal_space (scanInner_good hscan good_start), foldl_literal_word _ hne hspace]
    rfl

/-- A word is an argument of its own. -/
theorem innerArgs_word {word : List UInt8} (hne : word ≠ []) (hspace : space ∉ word)
    (hpercent : percent ∉ word) : innerArgs word = some [word] := by
  have hscan := scanInner_plain_append hpercent [] start
  rw [List.append_nil] at hscan
  rw [innerArgs, hscan, foldl_literal_word start hne hspace]
  rfl

/-! ### The first argument -/

/-- The first argument begins with `word`. -/
def BeginsWith (word : List UInt8) (s : FormatState) : Prop :=
  ∃ first more, s.curargv ++ [s.curarg] = first :: more ∧ word <+: first

theorem BeginsWith.append {word : List UInt8} {s : FormatState} (h : BeginsWith word s) (c : UInt8) :
    BeginsWith word (s.append c) := by
  obtain ⟨first, more, heq, hword⟩ := h
  cases hargv : s.curargv with
  | nil =>
    rw [hargv] at heq
    obtain ⟨rfl, rfl⟩ := List.cons.inj heq
    refine ⟨s.curarg ++ [c], [], ?_, hword.trans (List.prefix_append _ _)⟩
    rw [FormatState.append, hargv]
    rfl
  | cons a argv =>
    rw [hargv] at heq
    obtain ⟨rfl, -⟩ := List.cons.inj heq
    refine ⟨a, argv ++ [s.curarg ++ [c]], ?_, hword⟩
    rw [FormatState.append, hargv]
    rfl

theorem BeginsWith.literal {word : List UInt8} {s : FormatState} (h : BeginsWith word s) (c : UInt8) :
    BeginsWith word (s.literal c) := by
  unfold FormatState.literal
  split
  · split
    · obtain ⟨first, more, heq, hword⟩ := h
      refine ⟨first, more ++ [[]], ?_, hword⟩
      rw [heq]
      rfl
    · exact h
  · exact h.append c

theorem BeginsWith.scan {word format : List UInt8} {s t : FormatState} (h : BeginsWith word s)
    (hscan : Hiredis.scan format s = some t) : BeginsWith word t := by
  induction format, s using scan.induct with
  | case1 s => exact Option.some.inj hscan ▸ h
  | case2 c s => exact Option.some.inj hscan ▸ h.literal c
  | case3 c d rest s hc ih =>
    rw [Hiredis.scan, if_pos hc] at hscan
    exact ih (h.literal c) hscan
  | case4 c rest s hc ih =>
    rw [Hiredis.scan, if_neg hc, if_pos rfl] at hscan
    exact ih (h.append percent) hscan
  | case5 c d rest s hc hd =>
    rw [Hiredis.scan, if_neg hc, if_neg hd] at hscan
    cases hscan

theorem BeginsWith.scanInner {word part : List UInt8} {s t : FormatState} (h : BeginsWith word s)
    (hscan : Hiredis.scanInner part s = some t) : BeginsWith word t := by
  induction part, s using scanInner.induct with
  | case1 s => exact Option.some.inj hscan ▸ h
  | case2 s =>
    rw [Hiredis.scanInner, if_pos rfl] at hscan
    cases hscan
  | case3 c s hc =>
    rw [Hiredis.scanInner, if_neg hc] at hscan
    exact Option.some.inj hscan ▸ h.literal c
  | case4 c d part s hc ih =>
    rw [Hiredis.scanInner, if_pos hc] at hscan
    exact ih (h.literal c) hscan
  | case5 c part s hc ih =>
    rw [Hiredis.scanInner, if_neg hc, if_pos rfl] at hscan
    exact ih (h.append percent) hscan
  | case6 c d part s hc hd =>
    rw [Hiredis.scanInner, if_neg hc, if_neg hd] at hscan
    cases hscan

theorem BeginsWith.finish {word key : List UInt8} {s : FormatState} (h : BeginsWith word s)
    (hone : s.finish = [key]) : word <+: key := by
  obtain ⟨first, more, heq, hword⟩ := h
  unfold FormatState.finish at hone
  split at hone
  · rw [heq] at hone
    exact (List.cons.inj hone).1 ▸ hword
  · rw [hone] at heq
    exact (List.cons.inj heq).1 ▸ hword

/-- A word in front of everything else. -/
theorem beginsWith_word {word : List UInt8} (hne : word ≠ []) (hspace : space ∉ word) :
    BeginsWith word (word.foldl FormatState.literal start) := by
  rw [foldl_literal_word start hne hspace]
  exact ⟨word, [], rfl, List.prefix_rfl⟩

/-- **A single argument begins like its format.** -/
theorem prefix_of_formatCommand {word rest key : List UInt8} (hne : word ≠ []) (hspace : space ∉ word)
    (hpercent : percent ∉ word) (h : formatCommand (word ++ rest) = some [key]) : word <+: key := by
  obtain ⟨t, hscan, hfinish⟩ := Option.map_eq_some_iff.1 h
  rw [scan_plain_append hpercent] at hscan
  exact ((beginsWith_word hne hspace).scan hscan).finish hfinish

theorem prefix_of_innerArgs {word rest key : List UInt8} (hne : word ≠ []) (hspace : space ∉ word)
    (hpercent : percent ∉ word) (h : innerArgs (word ++ rest) = some [key]) : word <+: key := by
  obtain ⟨t, hscan, hfinish⟩ := Option.map_eq_some_iff.1 h
  rw [scanInner_plain_append hpercent] at hscan
  exact ((beginsWith_word hne hspace).scanInner hscan).finish hfinish

end Hiredis
