/-
**Taking an HTTP message out of the receive buffer.**

`GetHttpPacket` has the header parsed, looks for the length of the body, and waits while it has not arrived.
The parser answers with an `int`: the length of the header, zero while that is incomplete, and -1 if it is
malformed; `Content-Length` is an `int` too.  Both are stored in an `unsigned int`, and added before they are
compared with the number of bytes.  For a body in chunks `GetHttpPacket` looks for an empty line, and takes all
the bytes there are.

The parser is a parameter; all that is used of it is what it promises about the length.

Main definitions:

* `MmoServer.httpDecision`, `MmoServer.NetworkBuffer.afterDecision` — what `GetHttpPacket` decides;
* `MmoServer.HttpSafe` — it stays inside of the bytes, and refuses what it should;
* `MmoServer.HttpFits` — when it does.

Main results:

* `MmoServer.httpSafe_iff` — **it is safe exactly if the length is not negative**, nor a body in chunks taken
  for complete.
-/

import MmoServer.HttpHeader
import MmoServer.StrandedBytes

set_option relaxedAutoImplicit false
set_option autoImplicit false

namespace MmoServer

/-! ### What is decided -/

/-- An `int` in an `unsigned int`. -/
def toUnsigned (n : ℤ) : ℕ := (n % 2 ^ 32).toNat

/-- The end of `GetHttpPacket`: the connection is closed, there is no packet yet, or `ParseHttp` is called with
a header and a body of so many bytes. -/
inductive HttpDecision
  | close
  | wait
  | parse (headerLen bodyLen : ℕ) (isChunked : Bool)

/-- The bytes that the parser is given. -/
def NetworkBuffer.seen (b : NetworkBuffer) : List UInt8 :=
  (b.bytes.drop b.beginIndex).take (sub32 b.endIndex b.beginIndex)

/-- `RecvNetworkBuffer::GetHttpPacket`, up to the call of `ParseHttp`.  Nothing is decided where it reads outside
of the allocation. -/
def httpDecision (parse : HttpParser) (isConnector : Bool) (b : NetworkBuffer) : Option HttpDecision :=
  if b.endIndex < b.beginIndex then some .close
  else
    let recvBufLength := sub32 b.endIndex b.beginIndex
    (readAt b.bytes b.beginIndex recvBufLength).bind fun s =>
      let parsed := parse (!isConnector) s
      let headerLen := toUnsigned parsed.1
      let bodyLen := toUnsigned (parsed.2.contentLength.getD 0)
      if headerLen = 0 then some .wait
      else if 0 < bodyLen ∧ recvBufLength < add32 bodyLen headerLen then some .wait
      else if parsed.2.isChunked then
        if recvBufLength = headerLen then some .wait
        else
          (readAt b.bytes (b.beginIndex + headerLen) (sub32 recvBufLength headerLen)).bind fun rest =>
            if toUnsigned (mgHttpGetRequestLen rest) = 0 then some .wait
            else some (.parse headerLen (sub32 (sub32 b.endIndex b.beginIndex) headerLen) true)
      else some (.parse headerLen bodyLen false)

/-- The buffer behind it: `RemoveData(bodyLen + headerLen)`. -/
def NetworkBuffer.afterDecision (b : NetworkBuffer) : HttpDecision → NetworkBuffer
  | .close => b
  | .wait => b
  | .parse headerLen bodyLen _ => b.removeData (add32 bodyLen headerLen)

/-! ### What is asked of it -/

/-- The bytes begin with a whole body in chunks. -/
def CompleteChunks (s : List UInt8) : Prop :=
  ∃ body : ChunkedBody, body.bytes <+: s ∧ (body.trailer = crlf ∨ crlf ++ crlf <:+ body.trailer)

/-- **The input is malformed or incomplete**: the parser says so, the length is negative or more than there is,
or the body in chunks is not complete. -/
def HttpRefused (parse : HttpParser) (isConnector : Bool) (s : List UInt8) : Prop :=
  let parsed := parse (!isConnector) s
  parsed.1 ≤ 0 ∨
    if parsed.2.isChunked then ¬ CompleteChunks (s.drop parsed.1.toNat)
    else ∃ n, parsed.2.contentLength = some n ∧ (n < 0 ∨ s.length < parsed.1 + n)

/-- **`GetHttpPacket` is safe.**  Header and body lie inside of the bytes that were received, no more than the
buffer holds is removed, and what is malformed or incomplete makes no packet and leaves the buffer. -/
def HttpSafe (parse : HttpParser) (isConnector : Bool) (b : NetworkBuffer) : Prop :=
  ∃ d, httpDecision parse isConnector b = some d ∧
    (∀ headerLen bodyLen isChunked, d = .parse headerLen bodyLen isChunked →
      headerLen + bodyLen ≤ b.seen.length ∧ add32 bodyLen headerLen ≤ b.dataSize) ∧
    (HttpRefused parse isConnector b.seen →
      (∀ headerLen bodyLen isChunked, d ≠ .parse headerLen bodyLen isChunked) ∧ b.afterDecision d = b)

/-- **When it is.**  The bytes run over the end of the ring, so that the connection is closed; the header is
incomplete; the wrapped sum of the lengths is more than there is; or the header is well formed, and the length
is not negative, or for a body in chunks, that is not there, has no empty line, or is complete. -/
def HttpFits (parse : HttpParser) (isConnector : Bool) (b : NetworkBuffer) : Prop :=
  let parsed := parse (!isConnector) b.seen
  b.endIndex < b.beginIndex ∨ parsed.1 = 0 ∨
    (∃ n, parsed.2.contentLength = some n ∧ n ≠ 0 ∧ b.seen.length < (n + parsed.1) % 2 ^ 32) ∨
    0 < parsed.1 ∧
      if parsed.2.isChunked then
        b.seen.length = parsed.1 ∨ mgHttpGetRequestLen (b.seen.drop parsed.1.toNat) = 0 ∨
          CompleteChunks (b.seen.drop parsed.1.toNat)
      else ∀ n, parsed.2.contentLength = some n → 0 ≤ n

/-! ### The decision, case by case -/

theorem toUnsigned_eq {n : ℤ} (hn : 0 ≤ n) (hlt : n < 2 ^ 32) : toUnsigned n = n.toNat := by
  rw [toUnsigned]
  omega

/-- As an unsigned number, too, it is zero only if it is. -/
theorem toUnsigned_requestLen (s : List UInt8) :
    toUnsigned (mgHttpGetRequestLen s) = 0 ↔ mgHttpGetRequestLen s = 0 := by
  rw [mgHttpGetRequestLen, toUnsigned]
  split
  · rcases requestLenFrom_cases 0 s with h | ⟨h₀, h₁⟩
    · rw [h]
      decide
    · omega
  · decide

section

variable {parse : HttpParser} {isConnector : Bool} {b : NetworkBuffer}

/-- The bytes of a ring that do not run over its end are one piece. -/
theorem NetworkBuffer.Ring.readAt_seen (hring : b.Ring) (hle : b.beginIndex ≤ b.endIndex) :
    readAt b.bytes b.beginIndex (sub32 b.endIndex b.beginIndex) = some b.seen ∧
      b.seen.length = b.endIndex - b.beginIndex ∧ sub32 b.endIndex b.beginIndex = b.seen.length ∧
      b.seen.length ≤ b.dataSize ∧ b.seen.length < 2 ^ 32 - 1 := by
  have hend := hring.end_lt
  have hlt := hring.size_lt
  have hsize := hring.size_le
  have hadd : additionalSize = 131072 := rfl
  have hsub : sub32 b.endIndex b.beginIndex = b.endIndex - b.beginIndex := sub32_eq (by omega) hle
  have hB : b.bufferSize = b.bytes.length := rfl
  have hlen : b.seen.length = b.endIndex - b.beginIndex := by
    rw [NetworkBuffer.seen, List.length_take, List.length_drop, hsub]
    omega
  have hdata := hring.endIndex_eq
  exact ⟨readAt_eq (by omega), hlen, by omega, by omega, by omega⟩

/-- What is seen of a ring whose bytes do not come to its end are all of them. -/
theorem NetworkBuffer.Ring.seen_eq (hring : b.Ring) (hlt : b.beginIndex + b.dataSize < b.bufferSize) :
    b.beginIndex ≤ b.endIndex ∧ b.seen = b.contents := by
  have hend := hring.endIndex_eq
  have hsize := hring.size_lt
  have hB : b.bufferSize = b.bytes.length := rfl
  have hsub : sub32 b.endIndex b.beginIndex = b.dataSize := by
    rw [sub32_eq (by omega) (by omega)]
    omega
  refine ⟨by omega, ?_⟩
  rw [NetworkBuffer.seen, NetworkBuffer.contents, hsub, CyclicList.window_of_le (by omega)]

/-- What is seen behind so many bytes. -/
theorem NetworkBuffer.Ring.drop_seen (hring : b.Ring) (hle : b.beginIndex ≤ b.endIndex) (n : ℕ) :
    (b.bytes.drop (b.beginIndex + n)).take (b.seen.length - n) = b.seen.drop n := by
  obtain ⟨-, -, hsub, -⟩ := hring.readAt_seen hle
  conv_rhs => rw [NetworkBuffer.seen, List.drop_take, List.drop_drop, hsub]

/-- The decision, on the bytes that are seen. -/
theorem NetworkBuffer.Ring.httpDecision_eq (hring : b.Ring) (hle : b.beginIndex ≤ b.endIndex) :
    httpDecision parse isConnector b =
      if toUnsigned (parse (!isConnector) b.seen).1 = 0 then some .wait
      else if 0 < toUnsigned ((parse (!isConnector) b.seen).2.contentLength.getD 0) ∧
          b.seen.length < add32 (toUnsigned ((parse (!isConnector) b.seen).2.contentLength.getD 0))
            (toUnsigned (parse (!isConnector) b.seen).1) then some .wait
      else if (parse (!isConnector) b.seen).2.isChunked then
        if b.seen.length = toUnsigned (parse (!isConnector) b.seen).1 then some .wait
        else
          (readAt b.bytes (b.beginIndex + toUnsigned (parse (!isConnector) b.seen).1)
              (sub32 b.seen.length (toUnsigned (parse (!isConnector) b.seen).1))).bind fun rest =>
            if toUnsigned (mgHttpGetRequestLen rest) = 0 then some .wait
            else some (.parse (toUnsigned (parse (!isConnector) b.seen).1)
              (sub32 b.seen.length (toUnsigned (parse (!isConnector) b.seen).1)) true)
      else some (.parse (toUnsigned (parse (!isConnector) b.seen).1)
        (toUnsigned ((parse (!isConnector) b.seen).2.contentLength.getD 0)) false) := by
  obtain ⟨hread, -, hsub, -⟩ := hring.readAt_seen hle
  rw [httpDecision, if_neg (by omega)]
  dsimp only
  rw [hread, Option.bind_some, hsub]

/-- The sum of the lengths, as it is compared. -/
theorem waits_iff (hparse : parse.Contract) (isConnector : Bool) (s : List UInt8) :
    (0 < toUnsigned ((parse (!isConnector) s).2.contentLength.getD 0) ∧
        s.length < add32 (toUnsigned ((parse (!isConnector) s).2.contentLength.getD 0))
          (toUnsigned (parse (!isConnector) s).1)) ↔
      ∃ n, (parse (!isConnector) s).2.contentLength = some n ∧ n ≠ 0 ∧
        s.length < (n + (parse (!isConnector) s).1) % 2 ^ 32 := by
  cases hlength : (parse (!isConnector) s).2.contentLength with
  | none =>
    rw [Option.getD_none]
    refine iff_of_false (fun h => absurd h.1 (by decide)) ?_
    rintro ⟨n, hn, -⟩
    cases hn
  | some n =>
    have hrange := hparse.contentLength (!isConnector) s n hlength
    have hadd : add32 (toUnsigned n) (toUnsigned (parse (!isConnector) s).1) =
        ((n + (parse (!isConnector) s).1) % 2 ^ 32).toNat := by
      simp only [toUnsigned, add32]
      omega
    have hpos : 0 < toUnsigned n ↔ n ≠ 0 := by
      simp only [toUnsigned]
      omega
    rw [Option.getD_some, hadd, hpos]
    constructor
    · rintro ⟨hne, hlt⟩
      exact ⟨n, rfl, hne, by omega⟩
    · rintro ⟨n', hn', hne, hlt⟩
      obtain rfl := Option.some.inj hn'
      exact ⟨hne, by omega⟩

/-- Nothing but a call of `ParseHttp` can be unsafe. -/
theorem httpSafe_of_not_parse {d : HttpDecision} (h : httpDecision parse isConnector b = some d)
    (hnot : ∀ headerLen bodyLen isChunked, d ≠ .parse headerLen bodyLen isChunked) :
    HttpSafe parse isConnector b := by
  refine ⟨d, h, fun headerLen bodyLen isChunked hd => absurd hd (hnot _ _ _), fun _ => ⟨hnot, ?_⟩⟩
  cases d with
  | close => rfl
  | wait => rfl
  | parse headerLen bodyLen isChunked => exact absurd rfl (hnot _ _ _)

theorem httpSafe_wait (h : httpDecision parse isConnector b = some .wait) : HttpSafe parse isConnector b :=
  httpSafe_of_not_parse h fun _ _ _ hd => by cases hd

/-- A call of `ParseHttp` is safe if header and body are there, and the input is not to be refused. -/
theorem httpSafe_parse_iff {headerLen bodyLen : ℕ} {isChunked : Bool}
    (h : httpDecision parse isConnector b = some (.parse headerLen bodyLen isChunked))
    (hdata : b.seen.length ≤ b.dataSize) :
    HttpSafe parse isConnector b ↔
      headerLen + bodyLen ≤ b.seen.length ∧ ¬ HttpRefused parse isConnector b.seen := by
  constructor
  · rintro ⟨d, hd, hinside, hrefused⟩
    rw [h] at hd
    obtain rfl := Option.some.inj hd
    exact ⟨(hinside _ _ _ rfl).1, fun href => (hrefused href).1 _ _ _ rfl⟩
  · rintro ⟨hinside, hnot⟩
    refine ⟨_, h, fun headerLen' bodyLen' isChunked' hd => ?_, fun href => absurd href hnot⟩
    cases hd
    have hmod : add32 bodyLen headerLen ≤ bodyLen + headerLen := Nat.mod_le _ _
    exact ⟨hinside, by omega⟩

/-- Without a message, there is nothing to be safe. -/
theorem not_httpSafe_of_none (h : httpDecision parse isConnector b = none) : ¬ HttpSafe parse isConnector b := by
  rintro ⟨d, hd, -⟩
  rw [h] at hd
  cases hd

end

/-! ### When it is safe -/

section

variable {parse : HttpParser} {isConnector : Bool} {b : NetworkBuffer}

/-- A header that is malformed: its length is taken for 4294967295. -/
theorem httpSafe_iff_of_malformed (hparse : parse.Contract) (hring : b.Ring) (hle : b.beginIndex ≤ b.endIndex)
    (hlen : (parse (!isConnector) b.seen).1 = -1) :
    HttpSafe parse isConnector b ↔ HttpFits parse isConnector b := by
  obtain ⟨hread, hseen, hsub, hdata, hlt⟩ := hring.readAt_seen hle
  have hwaits := waits_iff hparse isConnector b.seen
  have hheader : toUnsigned (parse (!isConnector) b.seen).1 = 2 ^ 32 - 1 := by
    rw [hlen]
    rfl
  have hfits : HttpFits parse isConnector b ↔ ∃ n, (parse (!isConnector) b.seen).2.contentLength = some n ∧
      n ≠ 0 ∧ b.seen.length < (n + (parse (!isConnector) b.seen).1) % 2 ^ 32 := by
    simp only [HttpFits, hlen]
    constructor
    · rintro (hend | hzero | hwait | ⟨hpos, -⟩)
      · omega
      · omega
      · exact hwait
      · omega
    · exact fun hwait => .inr (.inr (.inl hwait))
  rw [hfits, ← hwaits]
  by_cases hwait : 0 < toUnsigned ((parse (!isConnector) b.seen).2.contentLength.getD 0) ∧
      b.seen.length < add32 (toUnsigned ((parse (!isConnector) b.seen).2.contentLength.getD 0))
        (toUnsigned (parse (!isConnector) b.seen).1)
  · refine iff_of_true (httpSafe_wait ?_) hwait
    rw [hring.httpDecision_eq hle, if_neg (by omega), if_pos hwait]
  · refine iff_of_false ?_ hwait
    cases hchunked : (parse (!isConnector) b.seen).2.isChunked with
    | true =>
      refine not_httpSafe_of_none ?_
      have hout : readAt b.bytes (b.beginIndex + (2 ^ 32 - 1)) (sub32 b.seen.length (2 ^ 32 - 1)) = none := by
        have hsize := hring.size_le
        have hadd : additionalSize = 131072 := rfl
        have hB : b.bufferSize = b.bytes.length := rfl
        exact if_neg (by omega)
      rw [hring.httpDecision_eq hle, if_neg (by omega), if_neg hwait, hchunked, if_pos rfl, if_neg (by omega),
        hheader, hout, Option.bind_none]
    | false =>
      have hd : httpDecision parse isConnector b = some (.parse (toUnsigned (parse (!isConnector) b.seen).1)
          (toUnsigned ((parse (!isConnector) b.seen).2.contentLength.getD 0)) false) := by
        rw [hring.httpDecision_eq hle, if_neg (by omega), if_neg hwait, hchunked, if_neg Bool.false_ne_true]
      rw [httpSafe_parse_iff hd hdata]
      rintro ⟨hinside, -⟩
      omega

/-- A header that is well formed. -/
theorem httpSafe_iff_of_wellFormed (hparse : parse.Contract) (hring : b.Ring) (hle : b.beginIndex ≤ b.endIndex)
    (hpos : 0 < (parse (!isConnector) b.seen).1)
    (hlen : (parse (!isConnector) b.seen).1 ≤ b.seen.length ∧ (parse (!isConnector) b.seen).1 < 2 ^ 31) :
    HttpSafe parse isConnector b ↔ HttpFits parse isConnector b := by
  obtain ⟨hread, hseen, hsub, hdata, hlt⟩ := hring.readAt_seen hle
  have hwaits := waits_iff hparse isConnector b.seen
  have hheader : toUnsigned (parse (!isConnector) b.seen).1 = (parse (!isConnector) b.seen).1.toNat :=
    toUnsigned_eq (by omega) (by omega)
  have hnonzero : ¬ toUnsigned (parse (!isConnector) b.seen).1 = 0 := by omega
  by_cases hwait : 0 < toUnsigned ((parse (!isConnector) b.seen).2.contentLength.getD 0) ∧
      b.seen.length < add32 (toUnsigned ((parse (!isConnector) b.seen).2.contentLength.getD 0))
        (toUnsigned (parse (!isConnector) b.seen).1)
  · refine iff_of_true (httpSafe_wait ?_) (.inr (.inr (.inl (hwaits.1 hwait))))
    rw [hring.httpDecision_eq hle, if_neg hnonzero, if_pos hwait]
  · have hdecision : httpDecision parse isConnector b =
        if (parse (!isConnector) b.seen).2.isChunked then
          if b.seen.length = (parse (!isConnector) b.seen).1.toNat then some .wait
          else
            (readAt b.bytes (b.beginIndex + (parse (!isConnector) b.seen).1.toNat)
                (sub32 b.seen.length (parse (!isConnector) b.seen).1.toNat)).bind fun rest =>
              if toUnsigned (mgHttpGetRequestLen rest) = 0 then some .wait
              else some (.parse (parse (!isConnector) b.seen).1.toNat
                (sub32 b.seen.length (parse (!isConnector) b.seen).1.toNat) true)
        else some (.parse (parse (!isConnector) b.seen).1.toNat
          (toUnsigned ((parse (!isConnector) b.seen).2.contentLength.getD 0)) false) := by
      rw [hring.httpDecision_eq hle, if_neg hnonzero, if_neg hwait, hheader]
    have hfits : HttpFits parse isConnector b ↔
        if (parse (!isConnector) b.seen).2.isChunked then
          b.seen.length = (parse (!isConnector) b.seen).1 ∨
            mgHttpGetRequestLen (b.seen.drop (parse (!isConnector) b.seen).1.toNat) = 0 ∨
            CompleteChunks (b.seen.drop (parse (!isConnector) b.seen).1.toNat)
        else ∀ n, (parse (!isConnector) b.seen).2.contentLength = some n → 0 ≤ n := by
      rw [HttpFits]
      constructor
      · rintro (hend | hzero | hwait' | ⟨-, h⟩)
        · omega
        · omega
        · exact absurd (hwaits.2 hwait') hwait
        · exact h
      · exact fun h => .inr (.inr (.inr ⟨hpos, h⟩))
    rw [hfits]
    cases hchunked : (parse (!isConnector) b.seen).2.isChunked with
    | true =>
      rw [hchunked, if_pos rfl] at hdecision
      rw [if_pos rfl]
      by_cases hall : b.seen.length = (parse (!isConnector) b.seen).1.toNat
      · rw [if_pos hall] at hdecision
        exact iff_of_true (httpSafe_wait hdecision) (.inl (by omega))
      · have hrest : sub32 b.seen.length (parse (!isConnector) b.seen).1.toNat =
            b.seen.length - (parse (!isConnector) b.seen).1.toNat := sub32_eq (by omega) (by omega)
        have hend := hring.end_lt
        have hB : b.bufferSize = b.bytes.length := rfl
        rw [if_neg hall, hrest, readAt_eq (by omega), Option.bind_some,
          hring.drop_seen hle] at hdecision
        by_cases hzero : mgHttpGetRequestLen (b.seen.drop (parse (!isConnector) b.seen).1.toNat) = 0
        · rw [if_pos ((toUnsigned_requestLen _).2 hzero)] at hdecision
          exact iff_of_true (httpSafe_wait hdecision) (.inr (.inl hzero))
        · rw [if_neg fun h => hzero ((toUnsigned_requestLen _).1 h)] at hdecision
          rw [httpSafe_parse_iff hdecision hdata, HttpRefused, hchunked, if_pos rfl]
          constructor
          · rintro ⟨-, hnot⟩
            exact .inr (.inr (by_contra fun h => hnot (.inr h)))
          · rintro (heq | h | hcomplete)
            · omega
            · exact absurd h hzero
            · exact ⟨by omega, fun h => h.elim (by omega) fun h => h hcomplete⟩
    | false =>
      rw [hchunked, if_neg Bool.false_ne_true] at hdecision
      rw [if_neg Bool.false_ne_true, httpSafe_parse_iff hdecision hdata, HttpRefused, hchunked,
        if_neg Bool.false_ne_true]
      cases hlength : (parse (!isConnector) b.seen).2.contentLength with
      | none =>
        refine iff_of_true ⟨by rw [Option.getD_none]; exact (Nat.add_zero _).trans_le (by omega), ?_⟩ ?_
        · rintro (h | ⟨n, hn, -⟩)
          · omega
          · cases hn
        · intro n hn
          cases hn
      | some n =>
        have hrange := hparse.contentLength (!isConnector) b.seen n hlength
        rw [hlength, Option.getD_some] at hwait
        rw [Option.getD_some]
        constructor
        · rintro ⟨-, hnot⟩ n' hn'
          obtain rfl := Option.some.inj hn'
          by_contra hneg
          exact hnot (.inr ⟨n, rfl, .inl (by omega)⟩)
        · intro hnonneg
          have hn := hnonneg n rfl
          have hbody : toUnsigned n = n.toNat := toUnsigned_eq (by omega) (by omega)
          rw [hbody, hheader, add32] at hwait
          have hinside : (parse (!isConnector) b.seen).1.toNat + n.toNat ≤ b.seen.length := by omega
          refine ⟨by omega, ?_⟩
          rintro (h | ⟨n', hn', h⟩)
          · omega
          · obtain rfl := Option.some.inj hn'
            omega

end

/-- **`GetHttpPacket` is safe exactly if the lengths are what they are taken for**, whatever a parser says that
keeps its promises. -/
theorem httpSafe_iff {parse : HttpParser} {isConnector : Bool} {b : NetworkBuffer} (hparse : parse.Contract)
    (hring : b.Ring) : HttpSafe parse isConnector b ↔ HttpFits parse isConnector b := by
  rcases Nat.lt_or_ge b.endIndex b.beginIndex with hlt | hle
  · refine iff_of_true (httpSafe_of_not_parse (d := .close) (if_pos hlt) fun _ _ _ hd => ?_) (.inl hlt)
    cases hd
  · rcases hparse.length (!isConnector) b.seen with hlen | ⟨hnonneg, hlen⟩
    · exact httpSafe_iff_of_malformed hparse hring hle hlen
    · rcases hnonneg.eq_or_lt with hzero | hpos
      · refine iff_of_true (httpSafe_wait ?_) (.inr (.inl hzero.symm))
        rw [hring.httpDecision_eq hle, ← hzero, if_pos (by rfl)]
      · exact httpSafe_iff_of_wellFormed hparse hring hle hpos hlen

/-- A ring with these bytes. -/
theorem exists_seen (src : List UInt8) (hlt : src.length < defaultBufferSize) :
    ∃ b : NetworkBuffer, b.Ring ∧ b.beginIndex ≤ b.endIndex ∧ b.seen = src := by
  have hring := NetworkBuffer.ring_create_default
  have hsize := NetworkBuffer.bufferSize_create defaultBufferSize
  have hzero : (NetworkBuffer.create defaultBufferSize).dataSize = 0 := rfl
  obtain ⟨b, hb, hbring, hcontents, hbsize, hbdata⟩ := hring.write src (by omega)
  have hbegin : b.beginIndex = 0 := (NetworkBuffer.memcpyToBuffer_fields hb).2
  obtain ⟨hle, hseen⟩ := hbring.seen_eq (by omega)
  refine ⟨b, hbring, hle, hseen.trans ?_⟩
  rw [hcontents, NetworkBuffer.contents_create, List.nil_append]

/-- `"GET / HTTP/1.1"`, and an empty line. -/
def shortRequest : List UInt8 := [71, 69, 84, 32, 47, 32, 72, 84, 84, 80, 47, 49, 46, 49, 13, 10, 13, 10]

theorem httpSafe_shortRequest :
    ∃ b : NetworkBuffer, b.Ring ∧ b.seen = shortRequest ∧ HttpSafe mgParseHttp false b := by
  obtain ⟨b, hring, -, hseen⟩ := exists_seen shortRequest (by decide)
  refine ⟨b, hring, hseen, (httpSafe_iff mgParseHttp_contract hring).2 (.inr (.inr (.inr ?_)))⟩
  rw [hseen]
  have hparse : mgParseHttp (!false) shortRequest = (18, ⟨[71, 69, 84], [47], 0, none, none⟩) := by
    decide +kernel
  rw [hparse]
  refine ⟨by decide, fun n hn => ?_⟩
  cases hn

/-- **A byte that cannot be printed** makes the header malformed, and is parsed all the same. -/
theorem not_httpSafe : ¬ ∀ (parse : HttpParser) (isConnector : Bool) (b : NetworkBuffer), parse.Contract →
    b.Ring → HttpSafe parse isConnector b := by
  intro hsafe
  obtain ⟨b, hring, hle, hseen⟩ := exists_seen [1] (by decide)
  have hlen : (mgParseHttp (!false) b.seen).1 = -1 := by
    rw [hseen]
    rfl
  rcases (httpSafe_iff_of_malformed mgParseHttp_contract hring hle hlen).1
    (hsafe mgParseHttp false b mgParseHttp_contract hring) with hend | hzero | ⟨n, hn, -⟩ | ⟨hpos, -⟩
  · omega
  · omega
  · rw [hseen] at hn
    cases hn
  · omega

end MmoServer
