/-
**The lines of the tables.**

A table is a file with one resource in each line, and `ParserLine` takes a line apart.  It looks at the first
byte: a field that begins with a quotation mark goes up to the next one, and any other field goes up to the
next comma.  What it has taken is erased from the front of the line, together with one byte behind it.

Behind a quoted field that byte is the second quotation mark, and the comma is left.  A separator in the first
place counts as none.  So the parser takes the rest of the line for one field when it comes to an empty field,
or has a quoted one behind it, and an empty field at the end is no field.  An empty line has no first byte.

Main definitions:

* `MmoServer.parserLine`, `MmoServer.renderLine` — the parser, and the lines that it is for;
* `MmoServer.ResourceClass`, `MmoServer.ResourceManagerTemplate` — a class of resources, and its manager,
  with `loadProperty`, `loadReference`, `parserHead` and `initializeTable`;
* `MmoServer.Parsable` — the condition: no field is empty, and only the last one has commas.

Main results:

* `MmoServer.parserLine_renderLine_iff` — **which fields are read as they are**;
* `MmoServer.parserLine_eq_none_iff` — **which lines abort the parser**;
* `MmoServer.ResourceManagerTemplate.loadReference_eq_none_iff` — which lines abort loading;
* `MmoServer.resource_lines` — **both together**;
* `MmoServer.not_resource_lines` — an empty field, a quoted field, and a blank line.
-/

import Mathlib.Data.List.DropRight
import MmoServer.HttpHeader
import MmoServer.OnlineFlag
import MmoServer.OrdMap

set_option relaxedAutoImplicit false
set_option autoImplicit false

namespace MmoServer

/-! ### Strings -/

/-- `strutil::trim`. -/
def trim (s : List UInt8) : List UInt8 := (s.dropWhile isSpace).rdropWhile isSpace

/-- `int index = line.find(c)`. -/
def findInt (c : UInt8) (line : List UInt8) : ℤ :=
  match line.findIdx? (· == c) with
  | none => -1
  | some n => toInt32 (n % 2 ^ 32)

/-- `line.erase(0, index + 1)`.  Behind the greatest `int` comes the least one, and that is a length which no
string has. -/
def eraseFront (line : List UInt8) (index : ℤ) : List UInt8 :=
  if toInt32 (index.toNat + 1) < 0 then [] else line.drop (index.toNat + 1)

/-- `'"'`. -/
def quotationMark : UInt8 := 34

/-- `','`. -/
def comma : UInt8 := 44

theorem length_eraseFront_lt {line : List UInt8} {index : ℤ} (h : eraseFront line index ≠ []) :
    (eraseFront line index).length < line.length := by
  unfold eraseFront at h ⊢
  split at h
  · exact absurd rfl h
  · rename_i hfits
    rw [if_neg hfits, List.length_drop]
    have hlength := List.length_pos_iff.2 h
    rw [List.length_drop] at hlength
    omega

/-! ### The parser -/

/-- The loop of `ParserLine`.  Nothing is returned where `at` throws. -/
def parserLoop (line : List UInt8) : Option (List (List UInt8)) :=
  match line with
  | [] => none
  | first :: behind =>
    let isQuoted : Bool := first = quotationMark
    let line := if isQuoted then behind else first :: behind
    let index := findInt (if isQuoted then quotationMark else comma) line
    if 0 < index then
      let rest := eraseFront line index
      if _h : rest = [] then some [line.take index.toNat]
      else (parserLoop rest).map (line.take index.toNat :: ·)
    else some [line]
termination_by line.length
decreasing_by
  refine (length_eraseFront_lt _h).trans_le ?_
  dsimp only [line]
  split
  · exact Nat.le_succ _
  · exact Nat.le_refl _

/-- `ResourceBase::ParserLine`. -/
def parserLine (line : List UInt8) : Option (List (List UInt8)) := parserLoop (trim line)

/-! ### Tables -/

/-- `_head`: the names of the columns, with their places. -/
abbrev ResourceHead : Type := Std.ExtTreeMap (List UInt8) ℕ

/-- A class of resources. -/
structure ResourceClass where
  Data : Type
  /-- `GenStruct`, of the fields of a line.  It may throw. -/
  genStruct : ResourceHead → List (List UInt8) → Option Data
  check : Data → Bool
  /-- `AfterInit` of the manager. -/
  afterInit : Std.ExtTreeMap Int32 Data → Bool

/-- `ResourceManagerTemplate`. -/
structure ResourceManagerTemplate (cls : ResourceClass) where
  head : ResourceHead
  refs : Std.ExtTreeMap Int32 cls.Data

namespace ResourceManagerTemplate

variable {cls : ResourceClass}

/-- `_id` and the data, of the fields of a line that has enough of them. -/
def genResource (mgr : ResourceManagerTemplate cls) (propertyList : List (List UInt8)) :
    Option (Int32 × cls.Data) :=
  let props := propertyList.map trim
  (props.head?.bind stoi).bind fun id => (cls.genStruct mgr.head props).map fun data => (id, data)

/-- `LoadProperty` of a new resource.  It is left out, inside, if the line has too few fields; nothing is
returned where something is thrown. -/
def loadProperty (mgr : ResourceManagerTemplate cls) (line : List UInt8) :
    Option (Option (Int32 × cls.Data)) :=
  (parserLine line).bind fun propertyList =>
    if propertyList.length < mgr.head.size then some none
    else (mgr.genResource propertyList).map some

/-- `LoadReference`. -/
def loadReference (mgr : ResourceManagerTemplate cls) (line : List UInt8) :
    Option (Bool × ResourceManagerTemplate cls) :=
  (mgr.loadProperty line).map fun loaded =>
    match loaded with
    | none => (false, mgr)
    | some resource =>
      if cls.check resource.2 then (true, { mgr with refs := mgr.refs.insertIfNew resource.1 resource.2 })
      else (false, mgr)

/-- `ParserHead`. -/
def parserHead (mgr : ResourceManagerTemplate cls) (line : List UInt8) :
    Option (Bool × ResourceManagerTemplate cls) :=
  if line = [] then some (false, mgr)
  else (parserLine line).map fun propertyList =>
    (true, { mgr with
      head := propertyList.zipIdx.foldl (fun head name => head.insertIfNew name.1 name.2) mgr.head })

/-- One round of the loop of `Initialize`.  An empty line is passed over. -/
def loadLine (mgr : ResourceManagerTemplate cls) (line : List UInt8) :
    Option (ResourceManagerTemplate cls) :=
  if line = [] then some mgr else (mgr.loadReference (line.map toLower)).map Prod.snd

/-- The loop of `Initialize`, over the lines behind the head. -/
def loadLines (mgr : ResourceManagerTemplate cls) (lines : List (List UInt8)) :
    Option (ResourceManagerTemplate cls) := lines.foldlM loadLine mgr

/-- `Initialize`, of a file with the given bytes. -/
def initializeTable (mgr : ResourceManagerTemplate cls) (file : List UInt8) :
    Option (Bool × ResourceManagerTemplate cls) :=
  let lines := file.splitOn 10
  (mgr.parserHead ((lines.headD []).map toLower)).bind fun parsed =>
    if parsed.1 then (parsed.2.loadLines lines.tail).map fun mgr => (cls.afterInit mgr.refs, mgr)
    else some (false, parsed.2)

end ResourceManagerTemplate

/-! ### Lines -/

/-- There are no blanks around a string. -/
structure Solid (s : List UInt8) : Prop where
  front : ∀ b ∈ s.head?, isSpace b = false
  back : ∀ b ∈ s.getLast?, isSpace b = false

/-- A field that a line is made of. -/
structure IsField (f : List UInt8) : Prop extends Solid f where
  quote : quotationMark ∉ f
  lineFeed : (10 : UInt8) ∉ f
  carriageReturn : (13 : UInt8) ∉ f

instance (s : List UInt8) : Decidable (Solid s) :=
  @decidable_of_iff _ ((∀ b ∈ s.head?, isSpace b = false) ∧ ∀ b ∈ s.getLast?, isSpace b = false)
    ⟨fun h => ⟨h.1, h.2⟩, fun h => ⟨h.front, h.back⟩⟩
    (@instDecidableAnd _ _ (Option.decidableForallMem s.head?) (Option.decidableForallMem s.getLast?))

instance (f : List UInt8) : Decidable (IsField f) :=
  decidable_of_iff (Solid f ∧ quotationMark ∉ f ∧ (10 : UInt8) ∉ f ∧ (13 : UInt8) ∉ f)
    ⟨fun h => ⟨h.1, h.2.1, h.2.2.1, h.2.2.2⟩,
      fun h => ⟨h.toSolid, h.quote, h.lineFeed, h.carriageReturn⟩⟩

/-- A field with commas is quoted. -/
def renderField (f : List UInt8) : List UInt8 :=
  if comma ∈ f then quotationMark :: (f ++ [quotationMark]) else f

/-- A line, with commas between its fields. -/
def renderLine (fields : List (List UInt8)) : List UInt8 :=
  [comma].intercalate (fields.map renderField)

/-- There is nothing on a line. -/
def Blank (line : List UInt8) : Prop := ∀ b ∈ line, isSpace b = true

instance (line : List UInt8) : Decidable (Blank line) :=
  List.decidableBAll (fun b => isSpace b = true) line

/-- A line has fewer columns than the head of its table, as `LoadProperty` counts them. -/
def ResourceManagerTemplate.Ragged {cls : ResourceClass} (mgr : ResourceManagerTemplate cls)
    (line : List UInt8) : Prop :=
  ∀ propertyList ∈ parserLine line, propertyList.length < mgr.head.size

/-- **The condition**: no field is empty, and no field but the last one has commas.  An `int` has to count
the bytes. -/
structure Parsable (fields : List (List UInt8)) : Prop where
  nonempty : ∀ f ∈ fields, f ≠ []
  front : ∀ f ∈ fields.dropLast, comma ∉ f ∧ f.length < 2 ^ 31 - 1
  last : ∀ f ∈ fields.getLast?, comma ∈ f → f.length < 2 ^ 31

/-! ### Searching -/

section

variable {c : UInt8} {f rest : List UInt8}

theorem findIdx?_of_notMem (h : c ∉ f) : f.findIdx? (· == c) = none := by
  rw [List.findIdx?_eq_none_iff]
  intro b hb
  simpa using fun heq : b = c => h (heq ▸ hb)

theorem findInt_of_notMem (h : c ∉ f) : findInt c f = -1 := by
  rw [findInt, findIdx?_of_notMem h]

/-- What is found is the first separator. -/
theorem findInt_append (h : c ∉ f) : findInt c (f ++ c :: rest) = toInt32 (f.length % 2 ^ 32) := by
  have hfirst : (f ++ c :: rest).findIdx? (· == c) = some f.length := by
    rw [List.findIdx?_append, findIdx?_of_notMem h, List.findIdx?_cons]
    simp
  rw [findInt, hfirst]

/-- The text in front of a separator is taken, and the separator goes with it. -/
theorem eraseFront_append (hlength : f.length < 2 ^ 31 - 1) :
    eraseFront (f ++ c :: rest) f.length = rest := by
  have hfits : ¬ toInt32 ((f.length : ℤ).toNat + 1) < 0 := by
    rw [Int.toNat_natCast, toInt32, if_pos (by omega)]
    omega
  rw [eraseFront, if_neg hfits, Int.toNat_natCast, List.drop_append]
  simp

theorem eraseFront_max (line : List UInt8) : eraseFront line (2 ^ 31 - 1 : ℕ) = [] := if_pos (by decide)

end

/-! ### One round of the loop -/

/-- What the loop does with a line, behind its search. -/
def parserTake (line : List UInt8) (index : ℤ) : Option (List (List UInt8)) :=
  if 0 < index then
    if eraseFront line index = [] then some [line.take index.toNat]
    else (parserLoop (eraseFront line index)).map (line.take index.toNat :: ·)
  else some [line]

theorem parserLoop_nil : parserLoop [] = none := by rw [parserLoop]

theorem parserLoop_quoted (behind : List UInt8) :
    parserLoop (quotationMark :: behind) = parserTake behind (findInt quotationMark behind) := by
  rw [parserLoop]
  simp [parserTake]

theorem parserLoop_plain {line : List UInt8} (hne : line ≠ [])
    (hquote : ∀ b ∈ line.head?, b ≠ quotationMark) :
    parserLoop line = parserTake line (findInt comma line) := by
  cases line with
  | nil => exact absurd rfl hne
  | cons first behind =>
    have hfirst : first ≠ quotationMark := hquote first rfl
    rw [parserLoop]
    simp [parserTake, hfirst]

/-- **The loop throws only at an empty line.** -/
theorem parserLoop_eq_none_iff {line : List UInt8} : parserLoop line = none ↔ line = [] := by
  refine ⟨fun h => by_contra fun hne => ?_, fun h => h ▸ parserLoop_nil⟩
  obtain ⟨taken, index, htaken⟩ : ∃ taken index, parserLoop line = parserTake taken index ∧
      taken.length ≤ line.length := by
    cases line with
    | nil => exact absurd rfl hne
    | cons first behind =>
      by_cases hfirst : first = quotationMark
      · exact ⟨behind, _, hfirst ▸ parserLoop_quoted behind, Nat.le_succ _⟩
      · refine ⟨first :: behind, _, parserLoop_plain hne ?_, Nat.le_refl _⟩
        rintro b hb
        exact Option.some.inj hb ▸ hfirst
  rw [htaken.1, parserTake] at h
  split at h
  · split at h
    · cases h
    · rename_i hmore
      exact hmore (parserLoop_eq_none_iff.1 (Option.map_eq_none_iff.1 h))
  · cases h
termination_by line.length
decreasing_by exact (length_eraseFront_lt ‹_›).trans_le htaken.2

/-- The first field that is read. -/
theorem parserTake_head {line g : List UInt8} {index : ℤ} {more : List (List UInt8)}
    (h : parserTake line index = some (g :: more)) :
    g = if 0 < index then line.take index.toNat else line := by
  unfold parserTake at h
  split at h
  · rename_i hpos
    rw [if_pos hpos]
    split at h
    · exact (List.cons.inj (Option.some.inj h)).1.symm
    · obtain ⟨_, -, heq⟩ := Option.map_eq_some_iff.1 h
      exact (List.cons.inj heq).1.symm
  · rename_i hnot
    rw [if_neg hnot]
    exact (List.cons.inj (Option.some.inj h)).1.symm

section

variable {c : UInt8} {f rest : List UInt8} {gs : List (List UInt8)}

/-- A field in front of a separator, and then the rest of the line. -/
theorem parserTake_append (hlength : f.length < 2 ^ 31 - 1) (hne : f ≠ []) :
    parserTake (f ++ c :: rest) (toInt32 (f.length % 2 ^ 32)) =
      if rest = [] then some [f] else (parserLoop rest).map (f :: ·) := by
  have hindex : toInt32 (f.length % 2 ^ 32) = f.length := by
    rw [Nat.mod_eq_of_lt (by omega), toInt32, if_pos (by omega)]
  have hpos : (0 : ℤ) < f.length := by exact_mod_cast List.length_pos_iff.2 hne
  rw [hindex, parserTake, eraseFront_append hlength, if_pos hpos, Int.toNat_natCast, List.take_left]

/-- Behind as many bytes as an `int` can count, nothing is left of the line. -/
theorem parserTake_append_max (hlength : f.length = 2 ^ 31 - 1) :
    parserTake (f ++ c :: rest) (toInt32 (f.length % 2 ^ 32)) = some [f] := by
  have hindex : toInt32 (f.length % 2 ^ 32) = (2 ^ 31 - 1 : ℕ) := by
    rw [hlength]
    rfl
  have htake : (f ++ c :: rest).take ((2 ^ 31 - 1 : ℕ) : ℤ).toNat = f := by
    rw [Int.toNat_natCast, ← hlength]
    exact List.take_left
  rw [hindex, parserTake, if_pos (by decide), if_pos (eraseFront_max _), htake]

/-- Where the number of the bytes is no `int`, the field is cut, or not at all. -/
theorem parserTake_append_ne (hlength : 2 ^ 31 - 1 < f.length) :
    parserTake (f ++ c :: rest) (toInt32 (f.length % 2 ^ 32)) ≠ some (f :: gs) := by
  intro h
  have hindex : toInt32 (f.length % 2 ^ 32) < 2 ^ 31 := by
    rw [toInt32]
    split <;> omega
  generalize toInt32 (f.length % 2 ^ 32) = index at h hindex
  have htaken := congrArg List.length (parserTake_head h)
  split at htaken
  · rw [List.length_take] at htaken
    omega
  · rw [List.length_append, List.length_cons] at htaken
    omega

/-- **A field is read as it is** if it is in front of a separator, not empty, and not too long for an `int`;
then the rest of the line is read, if there is one. -/
theorem parserTake_eq_iff (hc : c ∉ f) :
    parserTake (f ++ c :: rest) (findInt c (f ++ c :: rest)) = some (f :: gs) ↔
      f ≠ [] ∧ (f.length < 2 ^ 31 - 1 ∧ rest ≠ [] ∧ parserLoop rest = some gs ∨
        f.length < 2 ^ 31 ∧ gs = [] ∧ (rest = [] ∨ f.length = 2 ^ 31 - 1)) := by
  have hone : some [f] = some (f :: gs) ↔ gs = [] := by simp [eq_comm]
  rw [findInt_append hc]
  rcases Nat.lt_trichotomy f.length (2 ^ 31 - 1) with hlt | heq | hgt
  · by_cases hnil : f = []
    · simp [hnil, parserTake, toInt32]
    · rw [parserTake_append hlt hnil]
      by_cases hrest : rest = []
      · rw [if_pos hrest, hone]
        constructor
        · exact fun hgs => ⟨hnil, .inr ⟨by omega, hgs, .inl hrest⟩⟩
        · rintro ⟨-, ⟨-, hmore, -⟩ | ⟨-, hgs, -⟩⟩
          · exact absurd hrest hmore
          · exact hgs
      · have hcons : (parserLoop rest).map (f :: ·) = some (f :: gs) ↔ parserLoop rest = some gs := by
          simp
        rw [if_neg hrest, hcons]
        constructor
        · exact fun hthen => ⟨hnil, .inl ⟨hlt, hrest, hthen⟩⟩
        · rintro ⟨-, ⟨-, -, hthen⟩ | ⟨-, -, hend | hlength⟩⟩
          · exact hthen
          · exact absurd hend hrest
          · omega
  · rw [parserTake_append_max heq, hone]
    constructor
    · exact fun hgs => ⟨List.length_pos_iff.1 (by omega), .inr ⟨by omega, hgs, .inr heq⟩⟩
    · rintro ⟨-, ⟨hlength, -⟩ | ⟨-, hgs, -⟩⟩
      · omega
      · exact hgs
  · exact iff_of_false (parserTake_append_ne hgt)
      (by rintro ⟨-, ⟨hlength, -⟩ | ⟨hlength, -⟩⟩ <;> omega)

/-- A field in the last place. -/
theorem parserLoop_last (hc : comma ∉ f) (hquote : quotationMark ∉ f) (hne : f ≠ []) :
    parserLoop f = some [f] := by
  rw [parserLoop_plain hne, findInt_of_notMem hc]
  · rfl
  · rintro b hb rfl
    exact hquote (List.mem_of_mem_head? hb)

/-- A line that begins with a comma is one field. -/
theorem parserLoop_comma (rest : List UInt8) : parserLoop (comma :: rest) = some [comma :: rest] := by
  have hfind : findInt comma ([] ++ comma :: rest) = toInt32 (0 % 2 ^ 32) :=
    findInt_append List.not_mem_nil
  rw [parserLoop_plain (List.cons_ne_nil _ _), ← List.nil_append (comma :: rest), hfind]
  · rfl
  · rintro b hb
    exact Option.some.inj hb ▸ (by decide)

end

/-! ### Reading a line back -/

theorem renderLine_singleton (f : List UInt8) : renderLine [f] = renderField f :=
  List.intercalate_singleton

theorem renderLine_cons_cons (f g : List UInt8) (gs : List (List UInt8)) :
    renderLine (f :: g :: gs) = renderField f ++ comma :: renderLine (g :: gs) := by
  simp [renderLine, List.intercalate_cons_cons]

theorem length_le_renderField (f : List UInt8) : f.length ≤ (renderField f).length := by
  unfold renderField
  split
  · simp
    omega
  · exact Nat.le_refl _

theorem length_le_renderLine (f : List UInt8) (fs : List (List UInt8)) :
    f.length ≤ (renderLine (f :: fs)).length := by
  cases fs with
  | nil =>
    rw [renderLine_singleton]
    exact length_le_renderField f
  | cons g gs =>
    rw [renderLine_cons_cons, List.length_append]
    exact (length_le_renderField f).trans (Nat.le_add_right _ _)

theorem parsable_singleton {f : List UInt8} :
    Parsable [f] ↔ f ≠ [] ∧ (comma ∈ f → f.length < 2 ^ 31) := by
  constructor
  · exact fun h => ⟨h.nonempty f (by simp), h.last f rfl⟩
  · rintro ⟨hne, hlast⟩
    exact ⟨by simpa using hne, by simp, by simpa using hlast⟩

theorem parsable_cons_cons {f g : List UInt8} {gs : List (List UInt8)} :
    Parsable (f :: g :: gs) ↔
      f ≠ [] ∧ comma ∉ f ∧ f.length < 2 ^ 31 - 1 ∧ Parsable (g :: gs) := by
  constructor
  · intro h
    have hfront := h.front f (by simp)
    refine ⟨h.nonempty f (by simp), hfront.1, hfront.2, ?_, ?_, ?_⟩
    · exact fun k hk => h.nonempty k (List.mem_cons_of_mem _ hk)
    · exact fun k hk => h.front k (List.mem_cons_of_mem _ hk)
    · simpa using h.last
  · rintro ⟨hne, hcomma, hlength, hmore⟩
    refine ⟨List.forall_mem_cons.2 ⟨hne, hmore.nonempty⟩, ?_, by simpa using hmore.last⟩
    rw [List.dropLast_cons_of_ne_nil (List.cons_ne_nil g gs)]
    exact List.forall_mem_cons.2 ⟨⟨hcomma, hlength⟩, hmore.front⟩

/-- **Which fields the loop reads as they are.** -/
theorem parserLoop_renderLine_iff {fields : List (List UInt8)} (hne : fields ≠ [])
    (hquote : ∀ f ∈ fields, quotationMark ∉ f) :
    parserLoop (renderLine fields) = some fields ↔ Parsable fields := by
  induction fields with
  | nil => exact absurd rfl hne
  | cons f fs ih =>
    have hf : quotationMark ∉ f := hquote f List.mem_cons_self
    cases fs with
    | nil =>
      rw [renderLine_singleton, parsable_singleton, renderField]
      by_cases hcomma : comma ∈ f
      · rw [if_pos hcomma, parserLoop_quoted, parserTake_eq_iff hf]
        simp [hcomma]
      · rw [if_neg hcomma]
        by_cases hnil : f = []
        · simp [hnil, parserLoop_nil]
        · simp [parserLoop_last hcomma hf hnil, hnil, hcomma]
    | cons g gs =>
      have ih := ih (List.cons_ne_nil _ _) fun k hk => hquote k (List.mem_cons_of_mem _ hk)
      rw [renderLine_cons_cons, parsable_cons_cons, ← ih, renderField]
      by_cases hcomma : comma ∈ f
      · -- the comma behind the second quotation mark is taken for an empty field
        have hnot : parserLoop (comma :: renderLine (g :: gs)) ≠ some (g :: gs) := by
          rw [parserLoop_comma]
          intro heq
          have hg := congrArg List.length (List.cons.inj (Option.some.inj heq)).1
          have hle := length_le_renderLine g gs
          rw [List.length_cons] at hg
          omega
        have hline : quotationMark :: (f ++ [quotationMark]) ++ comma :: renderLine (g :: gs) =
            quotationMark :: (f ++ quotationMark :: comma :: renderLine (g :: gs)) := by simp
        rw [if_pos hcomma, hline, parserLoop_quoted, parserTake_eq_iff hf]
        simp [hnot, hcomma]
      · rw [if_neg hcomma, parserLoop_plain (by simp), parserTake_eq_iff hcomma]
        · have hrest : parserLoop (renderLine (g :: gs)) = some (g :: gs) → renderLine (g :: gs) ≠ [] := by
            intro hsome hnil
            rw [hnil, parserLoop_nil] at hsome
            cases hsome
          constructor
          · rintro ⟨hnil, ⟨hlength, -, hthen⟩ | ⟨-, hgs, -⟩⟩
            · exact ⟨hnil, hcomma, hlength, hthen⟩
            · cases hgs
          · rintro ⟨hnil, -, hlength, hthen⟩
            exact ⟨hnil, .inl ⟨hlength, hrest hthen, hthen⟩⟩
        · intro b hb
          cases f with
          | nil => exact Option.some.inj hb ▸ (by decide)
          | cons first behind =>
            obtain rfl : first = b := Option.some.inj hb
            exact fun heq => hf (heq ▸ List.mem_cons_self)

/-! ### Blanks -/

theorem trim_eq_nil_iff {s : List UInt8} : trim s = [] ↔ Blank s := by
  rw [trim, List.rdropWhile_eq_nil_iff]
  constructor
  · intro hall
    have hnil : s.dropWhile isSpace = [] := by
      by_contra hne
      have hspace := hall _ (List.head_mem hne)
      rw [List.head_dropWhile_not isSpace hne] at hspace
      cases hspace
    exact List.dropWhile_eq_nil_iff.1 hnil
  · intro hblank b hb
    exact hblank b ((List.dropWhile_suffix _).subset hb)

theorem Solid.trim_eq {s : List UInt8} (h : Solid s) : trim s = s := by
  have hfront : s.dropWhile isSpace = s := by
    cases s with
    | nil => rfl
    | cons b rest => exact List.dropWhile_cons_of_neg (by simp [h.front b rfl])
  rw [trim, hfront, List.rdropWhile_eq_self_iff]
  intro hne
  rw [h.back _ (List.getLast?_eq_getLast_of_ne_nil hne)]
  exact Bool.false_ne_true

/-- No blanks come in with a comma. -/
theorem Solid.append {s t : List UInt8} (hs : Solid s) (ht : Solid t) : Solid (s ++ comma :: t) := by
  constructor
  · cases s with
    | nil => exact fun b hb => Option.some.inj hb ▸ rfl
    | cons c rest => exact hs.front
  · cases t with
    | nil =>
      rw [List.getLast?_concat]
      exact fun b hb => Option.some.inj hb ▸ rfl
    | cons c rest =>
      rw [List.getLast?_append_cons, List.getLast?_cons_cons]
      exact ht.back

theorem Solid.renderField {f : List UInt8} (h : Solid f) : Solid (renderField f) := by
  unfold MmoServer.renderField
  split
  · constructor
    · exact fun b hb => Option.some.inj hb ▸ rfl
    · rw [← List.cons_append, List.getLast?_concat]
      exact fun b hb => Option.some.inj hb ▸ rfl
  · exact h

theorem solid_renderLine {fields : List (List UInt8)} (h : ∀ f ∈ fields, Solid f) :
    Solid (renderLine fields) := by
  induction fields with
  | nil => exact ⟨nofun, nofun⟩
  | cons f fs ih =>
    have hf := (h f List.mem_cons_self).renderField
    cases fs with
    | nil =>
      rw [renderLine_singleton]
      exact hf
    | cons g gs =>
      rw [renderLine_cons_cons]
      exact hf.append (ih fun k hk => h k (List.mem_cons_of_mem _ hk))

/-! ### Lines and tables -/

theorem parserLine_renderLine {fields : List (List UInt8)} (h : ∀ f ∈ fields, Solid f) :
    parserLine (renderLine fields) = parserLoop (renderLine fields) := by
  rw [parserLine, (solid_renderLine h).trim_eq]

/-- **Which fields are read as they are.** -/
theorem parserLine_renderLine_iff {fields : List (List UInt8)} (hne : fields ≠ [])
    (h : ∀ f ∈ fields, IsField f) :
    parserLine (renderLine fields) = some fields ↔ Parsable fields := by
  rw [parserLine_renderLine fun f hf => (h f hf).toSolid]
  exact parserLoop_renderLine_iff hne fun f hf => (h f hf).quote

/-- **Which lines abort the parser.** -/
theorem parserLine_eq_none_iff {line : List UInt8} : parserLine line = none ↔ Blank line :=
  parserLoop_eq_none_iff.trans trim_eq_nil_iff

/-- `tolower` leaves blanks alone. -/
theorem isSpace_toLower (b : UInt8) : isSpace (toLower b) = isSpace b := by
  have hall : ∀ n : Fin 256, isSpace (toLower (.ofFin n)) = isSpace (.ofFin n) := by decide +kernel
  exact hall b.toFin

theorem blank_map_toLower {line : List UInt8} : Blank (line.map toLower) ↔ Blank line := by
  simp [Blank, isSpace_toLower]

namespace ResourceManagerTemplate

variable {cls : ResourceClass} {mgr : ResourceManagerTemplate cls} {line : List UInt8}

/-- **Which lines abort loading**: blank ones, and those with enough columns for which `std::stoi` or
`GenStruct` throws. -/
theorem loadReference_eq_none_iff : mgr.loadReference line = none ↔ Blank line ∨
    ∃ propertyList, parserLine line = some propertyList ∧ mgr.head.size ≤ propertyList.length ∧
      mgr.genResource propertyList = none := by
  rw [loadReference, Option.map_eq_none_iff, loadProperty, ← parserLine_eq_none_iff]
  cases hparsed : parserLine line with
  | none => simp
  | some propertyList =>
    by_cases hfew : propertyList.length < mgr.head.size
    · simp [hfew]
    · simp [hfew, not_lt.1 hfew]

/-- A line with too few columns is left out. -/
theorem Ragged.loadReference (h : mgr.Ragged line) (hblank : ¬ Blank line) :
    mgr.loadReference line = some (false, mgr) := by
  obtain ⟨propertyList, hparsed⟩ := Option.ne_none_iff_exists'.1 (mt parserLine_eq_none_iff.1 hblank)
  rw [ResourceManagerTemplate.loadReference, loadProperty, hparsed, Option.bind_some,
    if_pos (h propertyList hparsed)]
  rfl

/-- A blank line that is not empty aborts the loop. -/
theorem loadLine_of_blank (hne : line ≠ []) (hblank : Blank line) : mgr.loadLine line = none := by
  rw [loadLine, if_neg hne, Option.map_eq_none_iff]
  exact loadReference_eq_none_iff.2 (.inl (blank_map_toLower.2 hblank))

/-- **A table with such a line is not loaded**, whatever else is in it. -/
theorem loadLines_of_blank {lines : List (List UInt8)} (hline : line ∈ lines) (hne : line ≠ [])
    (hblank : Blank line) : mgr.loadLines lines = none := by
  induction lines generalizing mgr with
  | nil => cases hline
  | cons first rest ih =>
    rw [loadLines, List.foldlM_cons]
    rcases List.mem_cons.1 hline with rfl | hrest
    · rw [loadLine_of_blank hne hblank]
      rfl
    · cases hfirst : mgr.loadLine first with
      | none => rfl
      | some mgr' => exact ih hrest

/-- **A file with such a line** aborts `Initialize`, if it has a head. -/
theorem initializeTable_of_blank {file : List UInt8} (hhead : (file.splitOn 10).headD [] ≠ [])
    (hline : line ∈ (file.splitOn 10).tail) (hne : line ≠ []) (hblank : Blank line) :
    mgr.initializeTable file = none := by
  have hlower : ((file.splitOn 10).headD []).map toLower ≠ [] := mt List.map_eq_nil_iff.1 hhead
  dsimp only [initializeTable, parserHead]
  rw [if_neg hlower]
  cases parserLine (((file.splitOn 10).headD []).map toLower) with
  | none => rfl
  | some propertyList =>
    dsimp only [Option.map_some, Option.bind_some]
    rw [if_pos rfl, loadLines_of_blank hline hne hblank]
    rfl

/-- A line with too few columns does not abort the loop, unless there is nothing on it. -/
theorem loadLine_ne_none_iff (h : Blank line ∨ mgr.Ragged (line.map toLower)) :
    mgr.loadLine line ≠ none ↔ line = [] ∨ ¬ Blank line := by
  by_cases hnil : line = []
  · simp [loadLine, hnil]
  · by_cases hblank : Blank line
    · simp [loadLine_of_blank hnil hblank, hnil, hblank]
    · have hragged := (h.resolve_left hblank).loadReference (mt blank_map_toLower.1 hblank)
      simp [loadLine, hnil, hblank, hragged]

end ResourceManagerTemplate

/-- **Which lines are read**: fields none of which is empty and only the last of which has commas are read
as they are, and no others; a line aborts the parser exactly if it is blank; and a blank line, or one with too
few columns, is passed over by the loop exactly if it is empty or not blank. -/
theorem resource_lines {fields : List (List UInt8)} (hne : fields ≠ []) (hfields : ∀ f ∈ fields, IsField f)
    (line : List UInt8) {cls : ResourceClass} (mgr : ResourceManagerTemplate cls) :
    (parserLine (renderLine fields) = some fields ↔ Parsable fields) ∧
    (parserLine line ≠ none ↔ ¬ Blank line) ∧
    (Blank line ∨ mgr.Ragged (line.map toLower) →
      (mgr.loadLine line ≠ none ↔ line = [] ∨ ¬ Blank line)) :=
  ⟨parserLine_renderLine_iff hne hfields, not_congr parserLine_eq_none_iff,
    fun h => ResourceManagerTemplate.loadLine_ne_none_iff h⟩

/-- `1,sword` is read as its two fields, and a carriage return alone on a line aborts the loop. -/
theorem resource_lines_sword :
    parserLine (renderLine [[49], [115, 119, 111, 114, 100]]) =
        some [[49], [115, 119, 111, 114, 100]] ∧
      (⟨∅, ∅⟩ : ResourceManagerTemplate ⟨Unit, fun _ _ => none, fun _ => true, fun _ => true⟩).loadLine
        [13] = none := by
  have hblank : Blank [13] := by decide
  obtain ⟨hread, -, hloads⟩ := resource_lines
    (List.cons_ne_nil [49] [[115, 119, 111, 114, 100]]) (by decide) [13]
    (⟨∅, ∅⟩ : ResourceManagerTemplate ⟨Unit, fun _ _ => none, fun _ => true, fun _ => true⟩)
  constructor
  · refine hread.2 ?_
    simp [parsable_cons_cons, parsable_singleton, comma]
  · simpa [hblank] using hloads (.inl hblank)

/-- The fields `0,0` and `1` are read as `0,0` and `,1`, and the fields `1` and nothing as `1`. -/
theorem parserLine_shifted :
    parserLine (renderLine [[48, 44, 48], [49]]) = some [[48, 44, 48], [44, 49]] ∧
      parserLine (renderLine [[49], []]) = some [[49]] := by
  constructor
  · rw [parserLine_renderLine (by decide)]
    change parserLoop (quotationMark :: ([48, 44, 48] ++ quotationMark :: [comma, 49])) = _
    rw [parserLoop_quoted, parserTake_eq_iff (by decide)]
    exact ⟨by simp, .inl ⟨by simp, by simp, parserLoop_comma [49]⟩⟩
  · rw [parserLine_renderLine (by decide)]
    change parserLoop ([49] ++ comma :: []) = _
    rw [parserLoop_plain (by simp) (by simp [quotationMark]), parserTake_eq_iff (by decide)]
    exact ⟨by simp, .inr ⟨by simp, rfl, .inl rfl⟩⟩

/-- **A quoted field that is not the last one** takes the comma behind it along to the next field, an empty
one at the end is lost, and a carriage return alone on a line aborts the parser. -/
theorem not_resource_lines :
    (¬ ∀ fields : List (List UInt8), fields ≠ [] → (∀ f ∈ fields, IsField f) →
      parserLine (renderLine fields) = some fields) ∧
    ¬ ∀ line, parserLine line ≠ none := by
  constructor
  · intro hall
    have hread := hall [[48, 44, 48], [49]] (List.cons_ne_nil _ _) (by decide)
    rw [parserLine_shifted.1] at hread
    cases hread
  · exact fun hall => hall [13] (parserLine_eq_none_iff.2 (by decide))

end MmoServer
