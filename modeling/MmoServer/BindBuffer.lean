/-
**The bind buffer of a prepared statement.**

The values of the parameters of a statement, and the lengths of those values, lie in one buffer that
is allocated with the statement.  A parameter that is added is assigned from an index on, and the
index is moved behind it.  A string is checked against a limit of its own; the index is not checked
against the size of the buffer.

The parameters are listed here as assignments, before any of them is made: an assignment past the end
of the buffer is one of them.

Main definitions:

* `MmoServer.Assignment`, `MmoServer.Assignment.writeAll` — bytes for a region, and the buffer after
  they were written;
* `MmoServer.BindCursor` and its operations — `AddParamUint64`, `AddParamStr` and `AddParamBlob`;
* `MmoServer.BindRequest`, `MmoServer.BindRequest.bound` — what the two statements bind;
* `MmoServer.BindRequest.RegionsSafe`, `MmoServer.BindRequest.BindSafe` — no assignment is past the
  end or overlaps another one, and no value that does not fit is bound.

Main results:

* `MmoServer.Assignment.readAt_writeAll` — **regions that are disjoint** are read as they were
  written;
* `MmoServer.BindRequest.read_string` — **what MySQL reads** of a string, if the regions are safe;
* `MmoServer.BindRequest.bindSafe_iff` — **a save is always safe**; a player is created safely exactly
  if its two strings are short enough, each alone and both together.
-/

import MmoServer.PlayerTable

set_option relaxedAutoImplicit false
set_option autoImplicit false

namespace MmoServer

open CyclicList

/-! ### Assignments to a buffer -/

/-- Bytes that are assigned from an offset on. -/
structure Assignment where
  offset : ℕ
  bytes : List UInt8

namespace Assignment

/-- Where the region of an assignment ends. -/
def limit (a : Assignment) : ℕ := a.offset + a.bytes.length

/-- No byte is in both regions. -/
def Disjoint (a b : Assignment) : Prop := a.limit ≤ b.offset ∨ b.limit ≤ a.offset

/-- The buffer after all assignments; nothing if one of them goes past its end. -/
def writeAll : List UInt8 → List Assignment → Option (List UInt8)
  | buffer, [] => some buffer
  | buffer, a :: as => (writeAt buffer a.offset a.bytes).bind fun buffer' => writeAll buffer' as

/-- **The assignments can be made** exactly if each of them ends inside the buffer. -/
theorem isSome_writeAll_iff (as : List Assignment) (buffer : List UInt8) :
    (writeAll buffer as).isSome = true ↔ ∀ a ∈ as, a.limit ≤ buffer.length := by
  induction as generalizing buffer with
  | nil => simp [writeAll]
  | cons a as ih =>
    rw [writeAll, List.forall_mem_cons]
    by_cases hfit : a.offset + a.bytes.length ≤ buffer.length
    · rw [writeAt_eq hfit, Option.bind_some, ih, length_overwrite hfit]
      exact (and_iff_right hfit).symm
    · have hnone : writeAt buffer a.offset a.bytes = none := if_neg hfit
      rw [hnone]
      simp only [Option.bind_none, Option.isSome_none, Bool.false_eq_true, false_iff]
      rintro ⟨hle, -⟩
      exact hfit hle

/-- What lies outside of the region that is written is read as before. -/
theorem readAt_writeAt_of_disjoint {bytes bytes' : List UInt8} {a b : Assignment}
    (h : writeAt bytes b.offset b.bytes = some bytes') (hdisjoint : a.Disjoint b) :
    readAt bytes' a.offset a.bytes.length = readAt bytes a.offset a.bytes.length := by
  rcases hdisjoint with hbefore | hbehind
  · exact readAt_writeAt_of_le h hbefore
  · unfold limit at hbehind
    have hlength := length_writeAt h
    unfold writeAt at h
    split at h
    · rename_i hfit
      obtain rfl := Option.some.inj h
      unfold readAt
      rw [hlength]
      split
      · refine congrArg some (List.ext_getElem? fun k => ?_)
        rw [List.getElem?_take, List.getElem?_take]
        split
        · rw [List.getElem?_drop, List.getElem?_drop, getElem?_overwrite hfit, if_neg (by omega)]
        · rfl
      · rfl
    · cases h

/-- A region that no later assignment touches is read as before all of them. -/
theorem readAt_writeAll_of_disjoint {as : List Assignment} {buffer buffer' : List UInt8}
    {a : Assignment} (h : writeAll buffer as = some buffer') (hdisjoint : ∀ b ∈ as, a.Disjoint b) :
    readAt buffer' a.offset a.bytes.length = readAt buffer a.offset a.bytes.length := by
  induction as generalizing buffer with
  | nil => rw [Option.some.inj h]
  | cons b as ih =>
    obtain ⟨between, hwrite, hrest⟩ := Option.bind_eq_some_iff.1 h
    rw [ih hrest fun c hc => hdisjoint c (List.mem_cons_of_mem b hc)]
    exact readAt_writeAt_of_disjoint hwrite (hdisjoint b List.mem_cons_self)

/-- **Regions that are disjoint** are read as they were written. -/
theorem readAt_writeAll {as : List Assignment} {buffer buffer' : List UInt8}
    (h : writeAll buffer as = some buffer') (hdisjoint : as.Pairwise Disjoint) {a : Assignment}
    (ha : a ∈ as) : readAt buffer' a.offset a.bytes.length = some a.bytes := by
  induction as generalizing buffer with
  | nil => cases ha
  | cons b as ih =>
    obtain ⟨between, hwrite, hrest⟩ := Option.bind_eq_some_iff.1 h
    obtain ⟨hfirst, hothers⟩ := List.pairwise_cons.1 hdisjoint
    rcases List.mem_cons.1 ha with rfl | hlater
    · rw [readAt_writeAll_of_disjoint hrest hfirst]
      exact readAt_writeAt_self hwrite
    · exact ih hrest hothers hlater

end Assignment

/-! ### Adding parameters -/

/-- `MAX_BIND_STR`. -/
def maxBindStr : ℕ := 30000

/-- `strncpy`: at most `n` bytes of a string, and zeros behind its end. -/
def strncpy (src : List UInt8) (n : ℕ) : List UInt8 := (cStr src ++ List.replicate n 0).take n

theorem length_strncpy (src : List UInt8) (n : ℕ) : (strncpy src n).length = n := by
  unfold strncpy
  rw [List.length_take, List.length_append, List.length_replicate]
  omega

/-- `bind_buffer_index` of a statement, and what was assigned since it was cleared. -/
structure BindCursor where
  bindBufferIndex : ℕ
  assigned : List Assignment

namespace BindCursor

/-- `ClearStmtParam`. -/
def clearStmtParam : BindCursor := ⟨0, []⟩

/-- `AddParamBlob`: the value stays where it is; its length is assigned behind eight bytes. -/
def addParamBlob (c : BindCursor) (val : List UInt8) : BindCursor where
  bindBufferIndex := c.bindBufferIndex + 16
  assigned := c.assigned ++
    [⟨c.bindBufferIndex + 8, LittleEndian.toBytes 8 (boundLength val.length)⟩]

/-- `AddParamUint64`. -/
def addParamUint64 (c : BindCursor) (val : UInt64) : BindCursor where
  bindBufferIndex := c.bindBufferIndex + 8
  assigned := c.assigned ++ [⟨c.bindBufferIndex, LittleEndian.toBytes 8 val.toNat⟩]

/-- The length that `AddParamStr` goes on with. -/
def strLength (val : List UInt8) : ℕ :=
  if maxBindStr ≤ (cStr val).length then maxBindStr - 1 else (cStr val).length

/-- `AddParamStr`: the string with one more byte, and its length behind it. -/
def addParamStr (c : BindCursor) (val : List UInt8) : BindCursor :=
  let len := strLength val
  { bindBufferIndex := c.bindBufferIndex + (len + 1 + 8)
    assigned := c.assigned ++
      [⟨c.bindBufferIndex, strncpy val (len + 1)⟩,
        ⟨c.bindBufferIndex + len + 1, LittleEndian.toBytes 8 len⟩] }

/-- The string that is bound is as long as its length says. -/
theorem take_strncpy (val : List UInt8) :
    (strncpy val (strLength val + 1)).take (strLength val) = boundStr val := by
  unfold strncpy strLength boundStr maxBindStr
  rw [List.take_take, Nat.min_eq_left (Nat.le_succ _)]
  by_cases hlong : 30000 ≤ (cStr val).length
  · rw [if_pos hlong, if_neg (Nat.not_lt.2 hlong), List.take_append_of_le_length (by omega)]
  · rw [if_neg hlong, if_pos (Nat.not_le.1 hlong), List.take_append_of_le_length (Nat.le_refl _),
      List.take_length]

/-- A string is cut off exactly if it reaches the limit. -/
theorem boundStr_eq_iff (val : List UInt8) :
    boundStr val = cStr val ↔ (cStr val).length < maxBindStr := by
  unfold boundStr maxBindStr
  constructor
  · intro h
    by_contra hlong
    rw [if_neg hlong] at h
    have hlength := congrArg List.length h
    rw [List.length_take] at hlength
    omega
  · intro hshort
    exact if_pos hshort

end BindCursor

/-! ### The statement that is prepared -/

/-- A statement after a blob was added: its buffer is written as the list says. -/
theorem DatabaseStmt.addParamBlob_eq (stmt : DatabaseStmt) (val : List UInt8) :
    (stmt.addParamBlob val).map (fun s => (s.bindBufferIndex, s.bindBuffer)) =
      (Assignment.writeAll stmt.bindBuffer
        (BindCursor.addParamBlob ⟨stmt.bindBufferIndex, []⟩ val).assigned).map
          ((BindCursor.addParamBlob ⟨stmt.bindBufferIndex, []⟩ val).bindBufferIndex, ·) := by
  unfold DatabaseStmt.addParamBlob BindCursor.addParamBlob
  simp only [List.nil_append, Assignment.writeAll, Option.map_map, Option.bind_fun_some]
  rfl

/-- A statement after a number was added. -/
theorem DatabaseStmt.addParamUint64_eq (stmt : DatabaseStmt) (val : UInt64) :
    (stmt.addParamUint64 val).map (fun s => (s.bindBufferIndex, s.bindBuffer)) =
      (Assignment.writeAll stmt.bindBuffer
        (BindCursor.addParamUint64 ⟨stmt.bindBufferIndex, []⟩ val).assigned).map
          ((BindCursor.addParamUint64 ⟨stmt.bindBufferIndex, []⟩ val).bindBufferIndex, ·) := by
  unfold DatabaseStmt.addParamUint64 BindCursor.addParamUint64
  simp only [List.nil_append, Assignment.writeAll, Option.map_map, Option.bind_fun_some]
  rfl

/-! ### The two statements -/

/-- What is bound to the parameters of a statement. -/
inductive BindRequest
  /-- `HandleCreatePlayer`. -/
  | create (sn : UInt64) (account name : List UInt8)
  /-- `OnSavePlayer`, with the parts of the player serialized. -/
  | save (base knap misc : List UInt8) (sn : UInt64)

namespace BindRequest

open BindCursor

/-- The parameters are added one after the other; then the statement is executed in any case. -/
def bound : BindRequest → BindCursor
  | create sn account name =>
    ((clearStmtParam.addParamUint64 sn).addParamStr account).addParamStr name
  | save base knap misc sn =>
    (((clearStmtParam.addParamBlob base).addParamBlob knap).addParamBlob misc).addParamUint64 sn

/-- The strings that are copied to the buffer. -/
def strings : BindRequest → List (List UInt8)
  | create _ account name => [account, name]
  | save _ _ _ _ => []

/-- **No assignment goes past the end** of the buffer, and none overlaps another one. -/
def RegionsSafe (r : BindRequest) : Prop :=
  (∀ a ∈ r.bound.assigned, a.limit ≤ maxBindBuffer) ∧ r.bound.assigned.Pairwise Assignment.Disjoint

/-- The regions are safe, **and no value that does not fit is bound**.  Nothing makes a request fail
before its statement is executed, so a string has to be bound as it is. -/
def BindSafe (r : BindRequest) : Prop := r.RegionsSafe ∧ ∀ s ∈ r.strings, boundStr s = cStr s

/-- The regions of all parameters have room in the buffer. -/
def HasRoom : BindRequest → Prop
  | create _ account name => strLength account + strLength name ≤ 40934
  | save _ _ _ _ => True

/-- No string reaches its limit, and both together have room in the buffer. -/
def Fits : BindRequest → Prop
  | create _ account name =>
    (cStr account).length < maxBindStr ∧ (cStr name).length < maxBindStr ∧
      (cStr account).length + (cStr name).length ≤ 40934
  | save _ _ _ _ => True

/-- The assignments never overlap: each begins behind the one before. -/
theorem pairwise_disjoint (r : BindRequest) :
    r.bound.assigned.Pairwise Assignment.Disjoint := by
  have hordered : r.bound.assigned.Pairwise fun a b => a.limit ≤ b.offset := by
    cases r with
    | create sn account name =>
      simp [bound, clearStmtParam, addParamUint64, addParamStr, Assignment.limit, length_strncpy]
      omega
    | save base knap misc sn =>
      simp [bound, clearStmtParam, addParamUint64, addParamBlob, Assignment.limit]
  exact hordered.imp fun h => .inl h

/-- **The regions are safe** exactly if they have room together. -/
theorem regionsSafe_iff (r : BindRequest) : r.RegionsSafe ↔ r.HasRoom := by
  have hlimits : (∀ a ∈ r.bound.assigned, a.limit ≤ maxBindBuffer) ↔ r.HasRoom := by
    cases r with
    | create sn account name =>
      simp [bound, clearStmtParam, addParamUint64, addParamStr, Assignment.limit, length_strncpy,
        HasRoom, maxBindBuffer]
      omega
    | save base knap misc sn =>
      simp [bound, clearStmtParam, addParamUint64, addParamBlob, Assignment.limit, HasRoom,
        maxBindBuffer]
  exact ⟨fun h => hlimits.1 h.1, fun h => ⟨hlimits.2 h, r.pairwise_disjoint⟩⟩

/-- The strings fit exactly if they have room, and none of them is cut off. -/
theorem fits_iff (r : BindRequest) :
    r.Fits ↔ r.HasRoom ∧ ∀ s ∈ r.strings, boundStr s = cStr s := by
  cases r with
  | create sn account name =>
    simp only [strings, List.forall_mem_cons, List.not_mem_nil, false_implies, implies_true,
      and_true, boundStr_eq_iff, Fits, HasRoom]
    constructor
    · rintro ⟨haccount, hname, hroom⟩
      rw [strLength, strLength, if_neg (Nat.not_le.2 haccount), if_neg (Nat.not_le.2 hname)]
      exact ⟨hroom, haccount, hname⟩
    · rintro ⟨hroom, haccount, hname⟩
      rw [strLength, strLength, if_neg (Nat.not_le.2 haccount), if_neg (Nat.not_le.2 hname)] at hroom
      exact ⟨haccount, hname, hroom⟩
  | save base knap misc sn => simp [Fits, HasRoom, strings]

/-- **What MySQL reads** of the strings of a player, when the regions are safe: at the offset of each,
with the length behind it. -/
theorem read_string {sn : UInt64} {account name buffer buffer' : List UInt8}
    (hsafe : (create sn account name).RegionsSafe)
    (hwrite : Assignment.writeAll buffer (create sn account name).bound.assigned = some buffer') :
    (readAt buffer' 8 (strLength account + 1)).map (List.take (strLength account)) =
        some (boundStr account) ∧
      (readAt buffer' (strLength account + 17) (strLength name + 1)).map
        (List.take (strLength name)) = some (boundStr name) := by
  have hread := fun a => Assignment.readAt_writeAll (a := a) hwrite hsafe.2
  have haccount := hread ⟨8, strncpy account (strLength account + 1)⟩
    (by simp [bound, clearStmtParam, addParamUint64, addParamStr])
  have hname := hread ⟨strLength account + 17, strncpy name (strLength name + 1)⟩
    (by simp [bound, clearStmtParam, addParamUint64, addParamStr]; omega)
  rw [length_strncpy] at haccount hname
  rw [haccount, hname, Option.map_some, Option.map_some, take_strncpy, take_strncpy]
  exact ⟨rfl, rfl⟩

/-- **A save is always safe.  A player is created** without an assignment past the end exactly if the
strings, as they are cut off, have room in the buffer together; and no string is cut off exactly if
besides each is shorter than the limit. -/
theorem bindSafe_iff (r : BindRequest) :
    (r.RegionsSafe ↔ r.HasRoom) ∧ (r.BindSafe ↔ r.Fits) := by
  refine ⟨r.regionsSafe_iff, ?_⟩
  rw [BindSafe, regionsSafe_iff, fits_iff]

/-- **Two strings below the limit** that do not have room together: the second one goes past the end
of the buffer. -/
theorem not_regionsSafe_two_strings :
    ¬ (create 1 (List.replicate 25000 97) (List.replicate 25000 98)).RegionsSafe ∧
      ¬ ∀ r : BindRequest, r.BindSafe := by
  have hlength : ∀ b : UInt8, b ≠ 0 → strLength (List.replicate 25000 b) = 25000 := by
    intro b hb
    have hstr : cStr (List.replicate 25000 b) = List.replicate 25000 b := by
      rw [cStr_eq_iff]
      intro hmem
      exact hb (List.eq_of_mem_replicate hmem).symm
    rw [strLength, hstr, List.length_replicate]
    rfl
  have hpastEnd : ¬ (create 1 (List.replicate 25000 97) (List.replicate 25000 98)).RegionsSafe := by
    rw [regionsSafe_iff, HasRoom, hlength 97 (by decide), hlength 98 (by decide)]
    omega
  exact ⟨hpastEnd, fun hall => hpastEnd (hall _).1⟩

end BindRequest

end MmoServer
