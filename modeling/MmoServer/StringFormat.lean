/-
**Formatted strings.**

`strutil::format` has `vsnprintf` count the characters of the text, makes room for them in an empty
`std::string` if it has not enough, and has `vsnprintf` write the text over the characters of the string.
What the string takes for its size is set by `resize` alone.

A string has an allocation of its capacity and one character more.  How large the one of an empty string is,
and how it grows, is up to the library.

Main definitions:

* `MmoServer.StringStorage` — a string with its allocation;
* `MmoServer.StringStorage.vsnprintf` — what is written into it;
* `MmoServer.StringStorage.format` — `strutil::format`, given the text that is to be written.

Main results:

* `MmoServer.StringStorage.format_short`, `MmoServer.StringStorage.format_long` — what the string is on
  both sides of the capacity of an empty one;
* `MmoServer.StringStorage.format_refines` — the strings that commands are made of;
* `MmoServer.format_eq_iff` — **a formatted string is equal to its text** exactly if that is empty;
* `MmoServer.not_format_eq` — a text of one character.
-/

import MmoServer.RedisConnector

set_option relaxedAutoImplicit false
set_option autoImplicit false

namespace MmoServer

open CyclicList

/-- What a library leaves open about `std::string`: the capacity of an empty string, and the new capacity
of one that grows. -/
structure StringImpl where
  capacity : ℕ
  grow : ℕ → ℕ → ℕ
  le_grow : ∀ old n, n ≤ grow old n

/-- `std::string`, whose size is less than its allocation. -/
structure StringStorage where
  size : ℕ
  buffer : List UInt8
  size_lt : size < buffer.length

namespace StringStorage

/-- `capacity()`. -/
def capacity (s : StringStorage) : ℕ := s.buffer.length - 1

/-- The characters of a string. -/
def value (s : StringStorage) : List UInt8 := s.buffer.take s.size

/-- An empty string. -/
def empty (impl : StringImpl) : StringStorage where
  size := 0
  buffer := List.replicate (impl.capacity + 1) 0
  size_lt := by
    rw [List.length_replicate]
    exact Nat.succ_pos _

/-- The capacity of a string behind `resize`. -/
def resizedCapacity (impl : StringImpl) (s : StringStorage) (n : ℕ) : ℕ :=
  if n ≤ s.capacity then s.capacity else impl.grow s.capacity n

theorem le_resizedCapacity (impl : StringImpl) (s : StringStorage) (n : ℕ) :
    n ≤ s.resizedCapacity impl n := by
  unfold resizedCapacity
  split
  · assumption
  · exact impl.le_grow _ _

/-- `resize`: new characters are zero. -/
def resize (impl : StringImpl) (s : StringStorage) (n : ℕ) : StringStorage where
  size := n
  buffer := s.buffer.take (min s.size n) ++
    List.replicate (s.resizedCapacity impl n + 1 - min s.size n) 0
  size_lt := by
    have hsize := s.size_lt
    have hle := s.le_resizedCapacity impl n
    rw [List.length_append, List.length_take, List.length_replicate]
    omega

/-- `vsnprintf` without a buffer: the number of characters, or a negative number if an `int` cannot hold
it. -/
def vsnprintfCount (text : List UInt8) : ℤ :=
  if text.length < 2 ^ 31 then text.length else -1

/-- `vsnprintf`, for a buffer of so many bytes: the text is cut off to leave room for a zero.  There is no
result if it is written beyond the allocation. -/
def vsnprintf (s : StringStorage) (count : ℕ) (text : List UInt8) : Option StringStorage :=
  if count = 0 then some s
  else if h : (text.take (count - 1) ++ [0]).length ≤ s.buffer.length then
    some
      { size := s.size
        buffer := overwrite s.buffer 0 (text.take (count - 1) ++ [0])
        size_lt := by
          rw [length_overwrite ((Nat.zero_add _).symm ▸ h)]
          exact s.size_lt }
  else none

/-- The string of `format` when it has made room: a negative number of characters is a `size_t` like every
other. -/
def sized (impl : StringImpl) (text : List UInt8) : StringStorage :=
  let numOfChars := (vsnprintfCount text % 2 ^ 64).toNat
  -- one more than the largest `size_t` is zero
  if (empty impl).capacity < numOfChars then (empty impl).resize impl ((numOfChars + 1) % 2 ^ 64)
  else empty impl

/-- `strutil::format`, for a format and arguments that make up the text. -/
def format (impl : StringImpl) (text : List UInt8) : Option StringStorage :=
  (sized impl text).vsnprintf (sized impl text).capacity text

/-! ### What is written -/

@[simp]
theorem capacity_empty (impl : StringImpl) : (empty impl).capacity = impl.capacity := by
  rw [capacity, empty, List.length_replicate]
  rfl

@[simp]
theorem capacity_resize (impl : StringImpl) (s : StringStorage) (n : ℕ) :
    (s.resize impl n).capacity = s.resizedCapacity impl n := by
  have hsize := s.size_lt
  have hle := s.le_resizedCapacity impl n
  simp only [capacity, resize, List.length_append, List.length_take, List.length_replicate]
  omega

/-- `vsnprintf` stays inside of a string when it is given the capacity, and does not touch the size. -/
theorem vsnprintf_capacity (s : StringStorage) (text : List UInt8) :
    ∃ t, s.vsnprintf s.capacity text = some t ∧ t.size = s.size ∧
      (0 < s.capacity → ∃ rest, t.buffer = text.take (s.capacity - 1) ++ 0 :: rest) := by
  have hlt := s.size_lt
  unfold vsnprintf
  split
  · rename_i hzero
    exact ⟨s, rfl, rfl, fun hpos => absurd hzero (by omega)⟩
  · rename_i hpos
    have hfit : (text.take (s.capacity - 1) ++ [0]).length ≤ s.buffer.length := by
      rw [List.length_append, List.length_take, List.length_singleton]
      unfold capacity at hpos ⊢
      omega
    rw [dif_pos hfit]
    refine ⟨_, rfl, rfl, fun _ => ⟨s.buffer.drop (0 + (text.take (s.capacity - 1) ++ [0]).length), ?_⟩⟩
    simp only [overwrite, List.take_zero, List.nil_append, List.append_assoc, List.singleton_append]

theorem sized_short {impl : StringImpl} {text : List UInt8} (h : text.length ≤ impl.capacity)
    (hint : text.length < 2 ^ 31) : sized impl text = empty impl := by
  have hcount : (vsnprintfCount text % 2 ^ 64).toNat = text.length := by
    rw [vsnprintfCount, if_pos hint]
    omega
  simp only [sized, hcount, capacity_empty, if_neg (Nat.not_lt.2 h)]

theorem sized_long {impl : StringImpl} {text : List UInt8} (h : impl.capacity < text.length)
    (hint : text.length < 2 ^ 31) : sized impl text = (empty impl).resize impl (text.length + 1) := by
  have hcount : (vsnprintfCount text % 2 ^ 64).toNat = text.length := by
    rw [vsnprintfCount, if_pos hint]
    omega
  have hmod : (text.length + 1) % 2 ^ 64 = text.length + 1 := by omega
  simp only [sized, hcount, capacity_empty, if_pos h, hmod]

/-- A number of characters that is too large wraps around to a size of zero. -/
theorem size_sized_of_le {impl : StringImpl} {text : List UInt8} (hint : 2 ^ 31 ≤ text.length) :
    (sized impl text).size = 0 := by
  have hcount : (vsnprintfCount text % 2 ^ 64).toNat = 2 ^ 64 - 1 := by
    rw [vsnprintfCount, if_neg (by omega)]
    decide
  simp only [sized, hcount]
  split
  · rfl
  · rfl

/-- **A text that fits into an empty string** is written behind its end, and cut off at one less than the
capacity. -/
theorem format_short {impl : StringImpl} {text : List UInt8} (h : text.length ≤ impl.capacity)
    (hint : text.length < 2 ^ 31) :
    ∃ s, format impl text = some s ∧ s.size = 0 ∧
      (0 < impl.capacity → ∃ rest, s.buffer = text.take (impl.capacity - 1) ++ 0 :: rest) := by
  obtain ⟨s, hs, hsize, hbuffer⟩ := (empty impl).vsnprintf_capacity text
  rw [capacity_empty] at hbuffer
  refine ⟨s, ?_, hsize, hbuffer⟩
  rw [format, sized_short h hint]
  exact hs

/-- **A text that does not fit** is written whole, and the zero behind it counts. -/
theorem format_long {impl : StringImpl} {text : List UInt8} (h : impl.capacity < text.length)
    (hint : text.length < 2 ^ 31) :
    ∃ s, format impl text = some s ∧ s.size = text.length + 1 ∧ ∃ rest, s.buffer = text ++ 0 :: rest := by
  obtain ⟨s, hs, hsize, hbuffer⟩ :=
    ((empty impl).resize impl (text.length + 1)).vsnprintf_capacity text
  have hle := (empty impl).le_resizedCapacity impl (text.length + 1)
  rw [capacity_resize] at hbuffer
  obtain ⟨rest, hrest⟩ := hbuffer (by omega)
  refine ⟨s, ?_, hsize, rest, ?_⟩
  · rw [format, sized_long h hint]
    exact hs
  · rw [hrest, List.take_of_length_le (by omega)]

/-- A buffer with a text in front of a zero. -/
theorem cStr_append_zero {text : List UInt8} (hzero : 0 ∉ text) (rest : List UInt8) :
    cStr (text ++ 0 :: rest) = text := by
  have hrest : cStr (0 :: rest) = [] := List.takeWhile_cons_of_neg (by decide)
  rw [cStr_append hzero, hrest, List.append_nil]

/-- **The strings that commands are made of**, where an empty string has room for fifteen characters. -/
theorem format_refines {impl : StringImpl} (himpl : impl.capacity = stringCapacity) {text : List UInt8}
    (hzero : 0 ∉ text) (hint : text.length < 2 ^ 31) :
    ∃ s, format impl text = some s ∧ (⟨s.size, cStr s.buffer⟩ : StdString) = MmoServer.format text := by
  rw [MmoServer.format]
  split
  · rename_i hlong
    obtain ⟨s, hs, hsize, rest, hbuffer⟩ := format_long (himpl ▸ hlong : impl.capacity < text.length) hint
    refine ⟨s, hs, ?_⟩
    rw [hsize, hbuffer, cStr_append_zero hzero]
  · rename_i hshort
    obtain ⟨s, hs, hsize, hbuffer⟩ := format_short (himpl ▸ Nat.not_lt.1 hshort : text.length ≤ impl.capacity) hint
    obtain ⟨rest, hrest⟩ := hbuffer (himpl ▸ by decide)
    have htake : 0 ∉ text.take (impl.capacity - 1) := fun hmem => hzero (List.mem_of_mem_take hmem)
    refine ⟨s, hs, ?_⟩
    rw [hsize, hrest, cStr_append_zero htake, himpl]

end StringStorage

/-! ### Whether the string is the text -/

/-- **When a formatted string is equal to its text.**  It has the size and the characters of the text
exactly if the text is empty, whatever the library does for strings. -/
theorem format_eq_iff (impl : StringImpl) (text : List UInt8) :
    (∃ s, StringStorage.format impl text = some s ∧ s.size = text.length ∧ s.value = text) ↔
      text = [] := by
  constructor
  · rintro ⟨s, hs, hlength, -⟩
    refine List.length_eq_zero_iff.1 ?_
    by_cases hint : text.length < 2 ^ 31
    · obtain hlong | hshort := Nat.lt_or_ge impl.capacity text.length
      · obtain ⟨t, ht, hsize, -⟩ := StringStorage.format_long hlong hint
        obtain rfl := Option.some.inj (hs.symm.trans ht)
        omega
      · obtain ⟨t, ht, hsize, -⟩ := StringStorage.format_short hshort hint
        obtain rfl := Option.some.inj (hs.symm.trans ht)
        omega
    · obtain ⟨t, ht, hsize, -⟩ := (StringStorage.sized impl text).vsnprintf_capacity text
      obtain rfl := Option.some.inj (hs.symm.trans ht)
      rw [StringStorage.size_sized_of_le (Nat.not_lt.1 hint)] at hsize
      omega
  · rintro rfl
    have hfit : ([] : List UInt8).length ≤ impl.capacity := Nat.zero_le _
    obtain ⟨s, hs, hsize, -⟩ := StringStorage.format_short hfit (by decide)
    refine ⟨s, hs, hsize, ?_⟩
    rw [StringStorage.value, hsize]
    rfl

/-- Strings with room for fifteen characters that double their capacity. -/
def fifteen : StringImpl := ⟨stringCapacity, fun old n => max n (2 * old), fun _ _ => Nat.le_max_left ..⟩

/-- **A text of one character**: the string stays empty. -/
theorem not_format_eq : ¬ ∀ (impl : StringImpl) (text : List UInt8),
    ∃ s, StringStorage.format impl text = some s ∧ s.size = text.length ∧ s.value = text := by
  intro h
  obtain ⟨s, hs, hlength, -⟩ := h fifteen [65]
  have hfit : ([65] : List UInt8).length ≤ fifteen.capacity := by decide
  obtain ⟨t, ht, hsize, -⟩ := StringStorage.format_short hfit (by decide)
  obtain rfl := Option.some.inj (hs.symm.trans ht)
  rw [hsize] at hlength
  cases hlength

end MmoServer
