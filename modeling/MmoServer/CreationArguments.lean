/-
**What arrives of the arguments.**

The arguments of a component go through a packet on their way to its thread.  There may be four of them,
says the check of the receiver, but the call that would be made with the fourth is the one that ends the
recursion; `c_str()` ends a text at its first zero; a text that is not UTF-8 ends the reading of the packet;
and the length of a packet is an `unsigned short`.

Main definitions:

* `MmoServer.Creates` — the packet of a creation creates the component that was asked for;
* `MmoServer.creationSize` — how long the packet is;
* `MmoServer.ArgsArrive` — the arguments for which it does.

Main results:

* `MmoServer.dynamicCall_analyseParam` — three arguments at most get through;
* `MmoServer.arriving_analyseParam` — the parameters that are read;
* `MmoServer.CreateComponentProto.weight_parse_le` — a packet holds no more text than it has bytes;
* `MmoServer.creates_iff` — **which arguments arrive**;
* `MmoServer.not_creates` — four of them do not.
-/

import MmoServer.CreateComponent
import MmoServer.FrameLength

set_option relaxedAutoImplicit false
set_option autoImplicit false

namespace MmoServer

/-! ### What is asked for, and when it happens -/

/-- **The packet of a creation creates the component**: of the class, with the number, and with exactly the
arguments. -/
def Creates (skipField : Wire.SkipField) (p : Packet) (f : ComponentFactories) (iType : Int32) (sn : UInt64)
    (isToAllThread : Bool) (className : ClassName) (args : List ComponentArg) : Prop :=
  let sent := createComponentWithSn f iType sn isToAllThread className args
  ∃ q, p.Serialized sent.2.serialize q ∧
    sent.1.handleCreateComponent (CreateComponentProto.parseToProto skipField q) =
      some ⟨className.bytes, sn, args⟩

/-- The bytes of a number in a message. -/
def numberSize (value : UInt64) : ℕ := (Wire.varint value).length

/-- The bytes of a text or a nested message of some length, with its length. -/
def delimitedSize (length : ℕ) : ℕ := numberSize (.ofNat length) + length

/-- The bytes of an argument: its type, unless it is an `int`, and its value, unless it is the default. -/
def ComponentArg.size : ComponentArg → ℕ
  | int value => if value ≠ 0 then 1 + numberSize (Wire.ofInt32 value) else 0
  | string value => 2 + if cStr value ≠ [] then 1 + delimitedSize (cStr value).length else 0
  | uint64 value => 2 + if value ≠ 0 then 1 + numberSize value else 0

/-- The bytes of the packet for a creation. -/
def creationSize (iType : Int32) (sn : UInt64) (isToAllThread : Bool) (className : ClassName)
    (args : List ComponentArg) : ℕ :=
  (if iType ≠ 0 then 1 + numberSize (Wire.ofInt32 iType) else 0) +
  (if className.bytes ≠ [] then 1 + delimitedSize className.bytes.length else 0) +
  (if isToAllThread then 2 else 0) +
  (args.map fun a => 1 + delimitedSize a.size).sum +
  (if sn ≠ 0 then 1 + numberSize sn else 0)

/-- **The arguments that arrive.**  They are three at most; no text has a zero; every text is UTF-8, but for
the last argument of a component without a number, behind which nothing is lost; and the packet, of so many
bytes, is short enough. -/
structure ArgsArrive (sn : UInt64) (args : List ComponentArg) (size : ℕ) : Prop where
  count : args.length ≤ 3
  no_zero : ∀ s, .string s ∈ args → 0 ∉ s
  text : ∀ s, .string s ∈ (if sn = 0 then args.dropLast else args) → Wire.validUtf8 s = true
  short : size ≤ 65535

/-! ### The arguments in the message -/

namespace ComponentArg

/-- An argument behind `c_str()`. -/
def sent : ComponentArg → ComponentArg
  | int value => .int value
  | string value => .string (cStr value)
  | uint64 value => .uint64 value

/-- Its text is read to the end. -/
def valid : ComponentArg → Bool
  | int _ | uint64 _ => true
  | string value => Wire.validUtf8 (cStr value)

@[simp] theorem kind_sent (a : ComponentArg) : a.sent.kind = a.kind := by
  cases a with
  | int value => rfl
  | string value => rfl
  | uint64 value => rfl

theorem sent_eq_iff (a : ComponentArg) : a.sent = a ↔ ∀ s, a = .string s → 0 ∉ s := by
  cases a with
  | int value => simp [sent]
  | uint64 value => simp [sent]
  | string value =>
    simp only [sent, string.injEq, cStr_eq_iff]
    exact ⟨fun h s hs => hs ▸ h, fun h => h value rfl⟩

theorem map_sent_eq_iff (args : List ComponentArg) :
    args.map sent = args ↔ ∀ s, .string s ∈ args → 0 ∉ s := by
  have hself : args.map sent = args ↔ ∀ a ∈ args, a.sent = a := by
    conv_lhs => rhs; rw [← List.map_id args]
    exact List.map_inj_left
  rw [hself]
  constructor
  · intro h s hs
    exact (sent_eq_iff _).1 (h _ hs) s rfl
  · intro h a ha
    exact (sent_eq_iff a).2 fun s hs => h s (hs ▸ ha)

end ComponentArg

/-- **Three arguments at most get through.** -/
theorem dynamicCall_analyseParam (count : ℕ) (t1 args : List ComponentArg) :
    dynamicCall count t1 (args.map analyseParam) =
      if args.length < count then some (t1 ++ args.map ComponentArg.sent) else none := by
  induction args generalizing count t1 with
  | nil =>
    cases count with
    | zero => rfl
    | succ count => simp [dynamicCall]
  | cons a args ih =>
    cases count with
    | zero => rfl
    | succ count =>
      have hcall : dynamicCall (count + 1) t1 ((a :: args).map analyseParam) =
          dynamicCall count (t1 ++ [a.sent]) (args.map analyseParam) := by
        cases a with
        | int value => rfl
        | string value => rfl
        | uint64 value => rfl
      rw [hcall, ih, List.append_assoc]
      simp only [List.length_cons, Nat.add_lt_add_iff_right, List.map_cons, List.singleton_append]

/-- The arguments up to the first one whose text is not read to the end, and whether these are all. -/
def arrivingArgs : List ComponentArg → List ComponentArg × Bool
  | [] => ([], true)
  | a :: args => if a.valid then (a :: (arrivingArgs args).1, (arrivingArgs args).2) else ([a], false)

/-- **The parameters that are read.** -/
theorem arriving_analyseParam (args : List ComponentArg) :
    CreateComponentProto.arriving (args.map analyseParam) =
      ((arrivingArgs args).1.map analyseParam, (arrivingArgs args).2) := by
  induction args with
  | nil => rfl
  | cons a args ih =>
    have htext : Wire.validUtf8 (analyseParam a).stringParam = a.valid := by
      cases a with
      | int value => rfl
      | string value => rfl
      | uint64 value => rfl
    rw [List.map_cons, CreateComponentProto.arriving, arrivingArgs, htext, ih]
    cases hvalid : a.valid with
    | true => rfl
    | false =>
      cases a with
      | int value => cases hvalid
      | string value => rfl
      | uint64 value => cases hvalid

/-- All arguments are there **exactly if only the last text may be cut**. -/
theorem length_arrivingArgs_eq_iff (args : List ComponentArg) :
    (arrivingArgs args).1.length = args.length ↔ ∀ a ∈ args.dropLast, a.valid = true := by
  induction args with
  | nil => simp [arrivingArgs]
  | cons a args ih =>
    rw [arrivingArgs]
    cases args with
    | nil => cases a.valid <;> simp [arrivingArgs]
    | cons b args =>
      rw [List.dropLast_cons_cons, List.forall_mem_cons, ← ih]
      cases hvalid : a.valid with
      | true => simp
      | false => simp

theorem arrivingArgs_snd_iff (args : List ComponentArg) :
    (arrivingArgs args).2 = true ↔ ∀ a ∈ args, a.valid = true := by
  induction args with
  | nil => simp [arrivingArgs]
  | cons a args ih =>
    rw [arrivingArgs, List.forall_mem_cons, ← ih]
    cases hvalid : a.valid with
    | true => simp
    | false => simp

theorem prefix_arrivingArgs (args : List ComponentArg) : (arrivingArgs args).1 <+: args := by
  induction args with
  | nil => exact List.prefix_refl _
  | cons a args ih =>
    rw [arrivingArgs]
    split
    · exact (List.prefix_cons_inj a).2 ih
    · exact ⟨args, rfl⟩

/-! ### A packet that is cut -/

namespace CreateComponentProto

/-- The bytes of text in a message. -/
def weight (m : CreateComponentProto) : ℕ :=
  m.className.length + (m.params.map fun p => p.stringParam.length).sum

theorem weight_param_le (skipField : Wire.SkipField) (tag : ℕ) (p : CreateComponentParam)
    (bytes : List UInt8) :
    (CreateComponentParam.mergeField skipField tag p bytes).1.stringParam.length +
        ((CreateComponentParam.mergeField skipField tag p bytes).2.elim 0 List.length) ≤
      p.stringParam.length + bytes.length := by
  unfold CreateComponentParam.mergeField
  split
  · refine Wire.weight_readField_le (fun p : CreateComponentParam => p.stringParam.length) ?_ bytes
    exact fun _ => rfl
  · refine Wire.weight_readField_le (fun p : CreateComponentParam => p.stringParam.length) ?_ bytes
    exact fun _ => rfl
  · exact Wire.length_readString_if_le p.stringParam bytes _
  · refine Wire.weight_readField_le (fun p : CreateComponentParam => p.stringParam.length) ?_ bytes
    exact fun _ => rfl
  · exact Nat.add_le_add_left (skipField.length_skip_le tag bytes) _

theorem weight_mergeField_le (skipField : Wire.SkipField) (tag : ℕ) (m : CreateComponentProto)
    (bytes : List UInt8) :
    (mergeField skipField tag m bytes).1.weight + ((mergeField skipField tag m bytes).2.elim 0 List.length) ≤
      m.weight + bytes.length := by
  unfold mergeField
  split
  · refine Wire.weight_readField_le weight ?_ bytes
    exact fun _ => rfl
  · have hle := Wire.length_readString_if_le m.className bytes
      (Wire.validUtf8 (Wire.readString m.className bytes).1 = true)
    simp only [weight]
    omega
  · refine Wire.weight_readField_le weight ?_ bytes
    exact fun _ => rfl
  · have hnested : ∀ bytes, (Wire.merge (CreateComponentParam.mergeField skipField) .empty
        bytes).1.stringParam.length ≤ bytes.length := fun bytes => by
      have hle := Wire.weight_mergeFields_le (fun p : CreateComponentParam => p.stringParam.length)
        (weight_param_le skipField) bytes.length .empty bytes
      exact hle.trans (Nat.le_of_eq (Nat.zero_add _))
    have hle := Wire.weight_readMessage_le (fun p : CreateComponentParam => p.stringParam.length)
      .empty rfl hnested bytes
    simp only [weight, List.map_append, List.sum_append, List.map_cons, List.map_nil, List.sum_cons,
      List.sum_nil]
    omega
  · refine Wire.weight_readField_le weight ?_ bytes
    exact fun _ => rfl
  · exact Nat.add_le_add_left (skipField.length_skip_le tag bytes) _

/-- **A packet holds no more text than it has bytes.** -/
theorem weight_parse_le (skipField : Wire.SkipField) (p : Packet) :
    (parseToProto skipField p).weight ≤ p.body.length := by
  have hle := Wire.weight_mergeFields_le weight (weight_mergeField_le skipField) p.body.length empty p.body
  exact hle.trans (Nat.le_of_eq (Nat.zero_add _))

theorem length_field_le (c : Prop) [Decidable c] (tag : UInt8) (value : UInt64) :
    (if c then tag :: Wire.varint value else []).length ≤ 11 := by
  have hle : (Wire.varint value).length ≤ 10 := Wire.length_varint_le value
  split
  · rw [List.length_cons]
    omega
  · exact Nat.zero_le _

theorem length_delimited_le (s : List UInt8) : (Wire.delimited s).length ≤ s.length + 10 := by
  have hle : (Wire.varint (UInt64.ofNat s.length)).length ≤ 10 := Wire.length_varint_le _
  rw [Wire.delimited, List.length_append]
  omega

theorem length_text_field_le (tag : UInt8) (s : List UInt8) :
    (if s ≠ [] then tag :: Wire.delimited s else []).length ≤ s.length + 11 := by
  have hle := length_delimited_le s
  split
  · rw [List.length_cons]
    omega
  · exact Nat.zero_le _

theorem length_serialize_param_le (p : CreateComponentParam) :
    p.serialize.length ≤ p.stringParam.length + 44 := by
  have htype := length_field_le (p.type ≠ 0) 8 (Wire.ofInt32 p.type)
  have hint := length_field_le (p.intParam ≠ 0) 16 (Wire.ofInt32 p.intParam)
  have htext := length_text_field_le 26 p.stringParam
  have huint64 := length_field_le (p.uint64Param ≠ 0) 32 p.uint64Param
  simp only [CreateComponentParam.serialize, List.length_append]
  omega

theorem length_serializeParams_le (params : List CreateComponentParam) :
    (serializeParams params).length ≤
      (params.map fun p => p.stringParam.length).sum + 55 * params.length := by
  induction params with
  | nil => exact Nat.le_refl _
  | cons p params ih =>
    have hp := length_serialize_param_le p
    have hdelimited := length_delimited_le p.serialize
    rw [serializeParams_cons]
    simp only [List.length_cons, List.length_append, List.map_cons, List.sum_cons]
    omega

/-- **A packet has few bytes besides its text.** -/
theorem length_serialize_le (m : CreateComponentProto) :
    m.serialize.length ≤ m.weight + 44 + 55 * m.params.length := by
  have htype := length_field_le (m.threadType ≠ 0) 8 (Wire.ofInt32 m.threadType)
  have hname := length_text_field_le 18 m.className
  have hall := length_field_le (m.isToAllThread = true) 24 1
  have hparams := length_serializeParams_le m.params
  have hsn := length_field_le (m.sn ≠ 0) 40 m.sn
  rw [serializeParams] at hparams
  simp only [serialize, weight, List.length_append]
  omega

end CreateComponentProto

/-- The bytes of text in an argument. -/
def ComponentArg.text : ComponentArg → ℕ
  | int _ | uint64 _ => 0
  | string value => value.length

/-- The arguments of a call hold no more text than the parameters, and are as many. -/
theorem text_dynamicCall_le {count : ℕ} {t1 args : List ComponentArg} {params : List CreateComponentParam}
    (h : dynamicCall count t1 params = some args) :
    params.length < count ∧ args.length = t1.length + params.length ∧
      (args.map ComponentArg.text).sum ≤
        (t1.map ComponentArg.text).sum + (params.map fun p => p.stringParam.length).sum := by
  induction count generalizing t1 params with
  | zero => cases h
  | succ count ih =>
    cases params with
    | nil =>
      obtain rfl := Option.some.inj h
      exact ⟨Nat.succ_pos _, rfl, Nat.le_refl _⟩
    | cons p params =>
      have hnext : ∃ a : ComponentArg, a.text ≤ p.stringParam.length ∧
          dynamicCall count (t1 ++ [a]) params = some args := by
        rw [dynamicCall] at h
        split at h
        · exact ⟨_, Nat.zero_le _, h⟩
        · split at h
          · exact ⟨_, Nat.le_refl _, h⟩
          · split at h
            · exact ⟨_, Nat.zero_le _, h⟩
            · cases h
      obtain ⟨a, ha, hcall⟩ := hnext
      obtain ⟨hlt, hlen, htext⟩ := ih hcall
      simp only [List.length_append, List.length_cons, List.length_nil, List.map_append, List.map_cons,
        List.map_nil, List.sum_append, List.sum_cons, List.sum_nil] at hlen htext ⊢
      exact ⟨by omega, by omega, by omega⟩

theorem text_analyseParam_le (args : List ComponentArg) :
    ((args.map analyseParam).map fun p => p.stringParam.length).sum ≤ (args.map ComponentArg.text).sum := by
  induction args with
  | nil => exact Nat.le_refl _
  | cons a args ih =>
    have ha : (analyseParam a).stringParam.length ≤ a.text := by
      cases a with
      | int value => exact Nat.le_refl _
      | string value => exact length_cStr_le value
      | uint64 value => exact Nat.le_refl _
    simp only [List.map_cons, List.sum_cons]
    exact Nat.add_le_add ha ih

/-! ### Which arguments arrive -/

section Arrive

variable {skipField : Wire.SkipField} {p q : Packet} {f : ComponentFactories} {iType : Int32} {sn : UInt64}
  {isToAllThread : Bool} {className : ClassName} {args : List ComponentArg}

theorem ClassName.cStr_bytes (className : ClassName) : cStr className.bytes = className.bytes :=
  (cStr_eq_iff _).2 fun hzero => absurd (className.ascii 0 hzero).1 (Nat.lt_irrefl 0)

theorem ClassName.validUtf8_bytes (className : ClassName) : Wire.validUtf8 className.bytes = true :=
  Wire.validUtf8_of_ascii fun b hb => (className.ascii b hb).2

/-- A packet that is not cut is read as its message. -/
theorem parse_of_short {m : CreateComponentProto} (hq : p.Serialized m.serialize q) (hp : p.Pooled)
    (hshort : m.serialize.length ≤ 65535) (hvalid : Wire.validUtf8 m.className = true) :
    CreateComponentProto.parseToProto skipField q =
      { m with
        params := (CreateComponentProto.arriving m.params).1
        sn := if (CreateComponentProto.arriving m.params).2 then m.sn else 0 } := by
  have hbody := (hq.holds hp).1.body_eq_iff.2 hshort
  rw [CreateComponentProto.parseToProto, hbody]
  exact CreateComponentProto.merge_serialize (by omega) hvalid

/-- What is created from the arguments that are read. -/
theorem handle_arriving (f : ComponentFactories) (m : CreateComponentProto) (args : List ComponentArg) :
    f.handleCreateComponent { m with params := args.map analyseParam } =
      if args.length < maxDynamicCall ∧ f.isRegisted (args.map ComponentArg.kind) m.className then
        some ⟨m.className, m.sn, args.map ComponentArg.sent⟩
      else none := by
  have hkinds : (args.map ComponentArg.sent).map ComponentArg.kind = args.map ComponentArg.kind := by
    rw [List.map_map]
    exact List.map_congr_left fun a _ => a.kind_sent
  rw [ComponentFactories.handleCreateComponent, CreateComponentProto.request, List.length_map,
    dynamicCall_analyseParam]
  by_cases hlt : args.length < maxDynamicCall
  · rw [if_neg (by omega), if_pos hlt, List.nil_append, Option.bind_some, hkinds]
    simp only [hlt, true_and]
  · rw [if_neg hlt, ite_self, if_neg fun h => hlt h.1, Option.bind_none]

/-- **A packet that is cut creates nothing of what was asked for.** -/
theorem not_creates_of_long (hp : p.Pooled)
    (hlong : 65535 < (createComponentWithSn f iType sn isToAllThread className args).2.serialize.length) :
    ¬ Creates skipField p f iType sn isToAllThread className args := by
  rintro ⟨q, hq, hhandle⟩
  have hlen : q.body.length ≤
      (createComponentWithSn f iType sn isToAllThread className args).2.serialize.length - 65536 := by
    rw [Packet.body, (hq.holds hp).1.getDataLength_eq, List.length_take]
    omega
  have hread := CreateComponentProto.weight_parse_le skipField q
  have hsize := CreateComponentProto.length_serialize_le
    (createComponentWithSn f iType sn isToAllThread className args).2
  obtain ⟨got, hrequest, hcreate⟩ := Option.bind_eq_some_iff.1 hhandle
  split at hcreate
  · obtain ⟨hname, -, rfl⟩ := CreatedComponent.mk.inj (Option.some.inj hcreate)
    rw [CreateComponentProto.request] at hrequest
    split at hrequest
    · cases hrequest
    · -- all of the text is in the packet, which is too short for it
      obtain ⟨hcount, hargs, htext⟩ := text_dynamicCall_le hrequest
      have hsent := text_analyseParam_le got
      have hweight : (createComponentWithSn f iType sn isToAllThread className got).2.weight ≤
          className.bytes.length + (got.map ComponentArg.text).sum := by
        simp only [CreateComponentProto.weight, createComponentWithSn, className.cStr_bytes]
        omega
      have hparams : (createComponentWithSn f iType sn isToAllThread className got).2.params.length =
          got.length := List.length_map _
      have hfour : maxDynamicCall = 4 := rfl
      simp only [CreateComponentProto.weight, hname, List.length_nil, List.map_nil, List.sum_nil]
        at hread hargs htext
      rw [CreateComponentProto.weight] at hweight hsize
      omega
  · cases hcreate

/-- Texts without a zero are read to their end exactly if they are valid. -/
theorem valid_iff_text {l : List ComponentArg} (hzero : ∀ s, .string s ∈ l → 0 ∉ s) :
    (∀ a ∈ l, a.valid = true) ↔ ∀ s, .string s ∈ l → Wire.validUtf8 s = true := by
  constructor
  · intro h s hs
    have hvalid := h _ hs
    rwa [ComponentArg.valid, (cStr_eq_iff s).2 (hzero s hs)] at hvalid
  · intro h a ha
    cases a with
    | int value => rfl
    | uint64 value => rfl
    | string s =>
      rw [ComponentArg.valid, (cStr_eq_iff s).2 (hzero s ha)]
      exact h s ha

/-- The arguments that are read are those that were given. -/
theorem arrive_iff (sn : UInt64) (args : List ComponentArg) :
    ((arrivingArgs args).1.length < maxDynamicCall ∧ (arrivingArgs args).1.map ComponentArg.sent = args ∧
        (if (arrivingArgs args).2 then sn else 0) = sn) ↔
      args.length ≤ 3 ∧ (∀ s, .string s ∈ args → 0 ∉ s) ∧
        ∀ s, .string s ∈ (if sn = 0 then args.dropLast else args) → Wire.validUtf8 s = true := by
  have hfour : maxDynamicCall = 4 := rfl
  constructor
  · rintro ⟨hcount, hsent, hsn⟩
    have hlen : (arrivingArgs args).1.length = args.length := by
      rw [← List.length_map ComponentArg.sent, hsent]
    have hall : (arrivingArgs args).1 = args := (prefix_arrivingArgs args).eq_of_length hlen
    rw [hall] at hsent hcount
    have hzero := (ComponentArg.map_sent_eq_iff args).1 hsent
    refine ⟨by omega, hzero, ?_⟩
    by_cases h0 : sn = 0
    · rw [if_pos h0]
      have hzero' : ∀ s, .string s ∈ args.dropLast → 0 ∉ s := fun s hs =>
        hzero s (List.dropLast_sublist args |>.subset hs)
      exact (valid_iff_text hzero').1 ((length_arrivingArgs_eq_iff args).1 hlen)
    · rw [if_neg h0]
      refine (valid_iff_text hzero).1 ((arrivingArgs_snd_iff args).1 ?_)
      by_contra hcut
      rw [if_neg hcut] at hsn
      exact h0 hsn.symm
  · rintro ⟨hcount, hzero, htext⟩
    have hdrop : ∀ s, .string s ∈ args.dropLast → 0 ∉ s := fun s hs =>
      hzero s (List.dropLast_sublist args |>.subset hs)
    have hvalid : ∀ a ∈ args.dropLast, a.valid = true := by
      refine (valid_iff_text hdrop).2 fun s hs => htext s ?_
      split
      · exact hs
      · exact List.dropLast_sublist args |>.subset hs
    have hall : (arrivingArgs args).1 = args :=
      (prefix_arrivingArgs args).eq_of_length ((length_arrivingArgs_eq_iff args).2 hvalid)
    rw [hall]
    refine ⟨by omega, (ComponentArg.map_sent_eq_iff args).2 hzero, ?_⟩
    by_cases h0 : sn = 0
    · rw [h0, ite_self]
    · rw [if_neg h0] at htext
      rw [if_pos ((arrivingArgs_snd_iff args).2 ((valid_iff_text hzero).2 htext))]

/-- What the receiver makes of a packet that is not cut. -/
theorem handle_iff_of_short (hp : p.Pooled) (f : ComponentFactories)
    (hshort : (createComponentWithSn f iType sn isToAllThread className args).2.serialize.length ≤ 65535)
    (hq : p.Serialized (createComponentWithSn f iType sn isToAllThread className args).2.serialize q) :
    (createComponentWithSn f iType sn isToAllThread className args).1.handleCreateComponent
        (CreateComponentProto.parseToProto skipField q) = some ⟨className.bytes, sn, args⟩ ↔
      (arrivingArgs args).1.length < maxDynamicCall ∧
        (arrivingArgs args).1.map ComponentArg.sent = args ∧
          (if (arrivingArgs args).2 then sn else 0) = sn := by
  have hname : (createComponentWithSn f iType sn isToAllThread className args).2.className =
      className.bytes := className.cStr_bytes
  have hparse : CreateComponentProto.parseToProto skipField q =
      { (createComponentWithSn f iType sn isToAllThread className args).2 with
        params := (arrivingArgs args).1.map analyseParam
        sn := if (arrivingArgs args).2 then sn else 0 } := by
    rw [parse_of_short hq hp hshort (hname ▸ className.validUtf8_bytes)]
    simp only [createComponentWithSn, arriving_analyseParam]
  rw [hparse, handle_arriving _ { (createComponentWithSn f iType sn isToAllThread className args).2 with
    sn := if (arrivingArgs args).2 then sn else 0 } (arrivingArgs args).1]
  simp only [hname]
  constructor
  · intro h
    split at h
    · rename_i hcreated
      obtain ⟨-, hsn, hargs⟩ := CreatedComponent.mk.inj (Option.some.inj h)
      exact ⟨hcreated.1, hargs, hsn⟩
    · cases h
  · rintro ⟨hcount, hargs, hsn⟩
    have hkinds : (arrivingArgs args).1.map ComponentArg.kind = args.map ComponentArg.kind := by
      conv_rhs => rw [← hargs, List.map_map]
      exact List.map_congr_left fun a _ => a.kind_sent.symm
    have hregisted := f.isRegisted_regist (args.map ComponentArg.kind) className.bytes
    rw [if_pos ⟨hcount, hkinds ▸ hregisted⟩, hargs, hsn]

/-- The length of a field that is left out where it has its default. -/
theorem length_field (c : Prop) [Decidable c] (tag : UInt8) (payload : List UInt8) :
    (if c then tag :: payload else []).length = if c then 1 + payload.length else 0 := by
  split
  · rw [List.length_cons, Nat.add_comm]
  · rfl

theorem length_delimited (s : List UInt8) : (Wire.delimited s).length = delimitedSize s.length := by
  rw [Wire.delimited, List.length_append]
  rfl

/-- The length of a parameter. -/
theorem length_serialize_analyseParam (a : ComponentArg) : (analyseParam a).serialize.length = a.size := by
  have htype : (Wire.varint (Wire.ofInt32 1)).length = 1 ∧ (Wire.varint (Wire.ofInt32 2)).length = 1 := by
    decide
  simp only [CreateComponentParam.serialize, List.length_append, length_field, length_delimited]
  cases a with
  | int value =>
    by_cases hzero : value = 0
    · simp [analyseParam, ComponentArg.size, hzero]
    · simp [analyseParam, ComponentArg.size, numberSize, hzero]
  | string value =>
    by_cases hnil : cStr value = []
    · simp [analyseParam, ComponentArg.size, htype, hnil]
    · simp [analyseParam, ComponentArg.size, htype, hnil]
  | uint64 value =>
    by_cases hzero : value = 0
    · simp [analyseParam, ComponentArg.size, htype, hzero]
    · simp [analyseParam, ComponentArg.size, numberSize, htype, hzero]

/-- **The length of the packet**, from what it is made of. -/
theorem length_createComponentWithSn (f : ComponentFactories) (iType : Int32) (sn : UInt64)
    (isToAllThread : Bool) (className : ClassName) (args : List ComponentArg) :
    (createComponentWithSn f iType sn isToAllThread className args).2.serialize.length =
      creationSize iType sn isToAllThread className args := by
  have hparams : ((args.map analyseParam).flatMap fun p => 34 :: Wire.delimited p.serialize).length =
      (args.map fun a => 1 + delimitedSize a.size).sum := by
    induction args with
    | nil => rfl
    | cons a args ih =>
      rw [List.map_cons, List.flatMap_cons, List.length_append, ih, List.length_cons, length_delimited,
        length_serialize_analyseParam, Nat.add_comm (delimitedSize a.size)]
      rfl
  have hone : (Wire.varint 1).length = 1 := by
    decide
  simp only [createComponentWithSn, CreateComponentProto.serialize, List.length_append, length_field,
    length_delimited, hparams, hone, className.cStr_bytes]
  rfl

/-- **Which arguments arrive.** -/
theorem creates_iff (skipField : Wire.SkipField) {p : Packet} (hp : p.Pooled) (f : ComponentFactories)
    (iType : Int32) (sn : UInt64) (isToAllThread : Bool) (className : ClassName)
    (args : List ComponentArg) :
    Creates skipField p f iType sn isToAllThread className args ↔
      ArgsArrive sn args (creationSize iType sn isToAllThread className args) := by
  rw [← length_createComponentWithSn f]
  by_cases hlong : 65535 < (createComponentWithSn f iType sn isToAllThread className args).2.serialize.length
  · refine ⟨fun h => absurd h (not_creates_of_long hp hlong), fun h => ?_⟩
    have hshort := h.short
    omega
  · have hshort := Nat.not_lt.1 hlong
    have hadd : additionalSize = 131072 := rfl
    constructor
    · rintro ⟨q, hq, hhandle⟩
      obtain ⟨hcount, hzero, htext⟩ := (arrive_iff sn args).1 ((handle_iff_of_short hp f hshort hq).1 hhandle)
      exact ⟨hcount, hzero, htext, hshort⟩
    · intro h
      obtain ⟨q, hq⟩ := hp.exists_serialized (Nat.lt_of_le_of_lt hshort (by omega))
      refine ⟨q, hq, (handle_iff_of_short hp f hshort hq).2 ?_⟩
      exact (arrive_iff sn args).2 ⟨h.count, h.no_zero, h.text⟩

end Arrive

/-- A reader that skips nothing: no field of these packets is unknown. -/
def skipNothing : Wire.SkipField := ⟨fun _ _ => none, fun h => by cases h⟩

/-- `typeid(T).name()` of a class `Lobby`. -/
def lobbyName : ClassName := ⟨[53, 76, 111, 98, 98, 121], by decide +kernel⟩

/-- A number, a text and a serial number for a class that no one has created yet. -/
theorem creates_lobby : Creates skipNothing Packet.create ⟨fun _ => []⟩ 2 7 false lobbyName
    [.int (-1), .string [97, 98], .uint64 5] := by
  refine (creates_iff skipNothing Packet.pooled_create ⟨fun _ => []⟩ 2 7 false lobbyName _).2
    ⟨by decide, ?_, ?_, by decide +kernel⟩
  · intro s hs
    obtain rfl : s = [97, 98] := by simpa using hs
    decide
  · intro s hs
    obtain rfl : s = [97, 98] := by simpa using hs
    decide +kernel

/-- **Four numbers create nothing.** -/
theorem not_creates : ¬ ∀ (p : Packet) (f : ComponentFactories) (iType : Int32) (sn : UInt64)
    (isToAllThread : Bool) (className : ClassName) (args : List ComponentArg), p.Pooled →
    args.length ≤ maxDynamicCall → Creates skipNothing p f iType sn isToAllThread className args := by
  intro h
  obtain ⟨q, hq, hhandle⟩ := h Packet.create ⟨fun _ => []⟩ 2 7 false lobbyName
    [.int 1, .int 2, .int 3, .int 4] Packet.pooled_create (by decide)
  have hcount := ((handle_iff_of_short Packet.pooled_create _ (by decide +kernel) hq).1 hhandle).1
  exact absurd hcount (by decide)

end MmoServer
