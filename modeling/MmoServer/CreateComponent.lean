/-
**Creating a component in another thread.**

`ThreadMgr::CreateComponentWithSn` puts the name of a class, a serial number and the arguments for its
`Awake` into a message, which travels as a packet to the thread that is to have the component.  There
`HandleCreateComponent` takes the arguments out of the message one by one, each with the type it was sent
with, and has the factory for these types create the component.

A class is named by `typeid(T).name()`, which is seven-bit text.

Main definitions:

* `MmoServer.CreateComponentParam`, `MmoServer.CreateComponentProto` — the messages, with the bytes that are
  written for them and read back;
* `MmoServer.ComponentFactories` — which classes can be created from which arguments;
* `MmoServer.createComponentWithSn` — the message, with its class registered;
* `MmoServer.dynamicCall`, `MmoServer.ComponentFactories.handleCreateComponent` — the receiver.

Main results:

* `MmoServer.CreateComponentParam.merge_serialize` — an argument that is read back, with and without valid
  text;
* `MmoServer.CreateComponentProto.merge_serialize` — **what is read of a message**: all of it, or its
  arguments up to the first one with a text that is not UTF-8.
-/

import MmoServer.Packet
import MmoServer.Wire

set_option relaxedAutoImplicit false
set_option autoImplicit false

namespace MmoServer

/-! ### The messages -/

/-- `Proto::CreateComponentParam`.  Its type is 0 for `Int`, 1 for `String` and 2 for `UInt64`, and may be
any number in a message that is received. -/
structure CreateComponentParam where
  type : Int32
  intParam : Int32
  stringParam : List UInt8
  uint64Param : UInt64
  deriving DecidableEq

/-- `Proto::CreateComponent`. -/
structure CreateComponentProto where
  threadType : Int32
  className : List UInt8
  isToAllThread : Bool
  params : List CreateComponentParam
  sn : UInt64
  deriving DecidableEq

namespace CreateComponentParam

/-- A new parameter. -/
def empty : CreateComponentParam := ⟨0, 0, [], 0⟩

/-- The bytes of a parameter.  A field with its default is left out. -/
def serialize (p : CreateComponentParam) : List UInt8 :=
  (if p.type ≠ 0 then 8 :: Wire.varint (Wire.ofInt32 p.type) else []) ++
  (if p.intParam ≠ 0 then 16 :: Wire.varint (Wire.ofInt32 p.intParam) else []) ++
  (if p.stringParam ≠ [] then 26 :: Wire.delimited p.stringParam else []) ++
  (if p.uint64Param ≠ 0 then 32 :: Wire.varint p.uint64Param else [])

/-- Merge one field. -/
def mergeField (skipField : Wire.SkipField) (tag : ℕ) (p : CreateComponentParam) (bytes : List UInt8) :
    CreateComponentParam × Option (List UInt8) :=
  match tag with
  | 8 => Wire.readField p (fun value => { p with type := Wire.toInt32 value }) bytes
  | 16 => Wire.readField p (fun value => { p with intParam := Wire.toInt32 value }) bytes
  | 26 =>
    -- the text is stored before it is checked
    let read := Wire.readString p.stringParam bytes
    ({ p with stringParam := read.1 }, if Wire.validUtf8 read.1 then read.2 else none)
  | 32 => Wire.readField p (fun value => { p with uint64Param := value }) bytes
  | _ => (p, skipField.skip tag bytes)

end CreateComponentParam

namespace CreateComponentProto

/-- A new message. -/
def empty : CreateComponentProto := ⟨0, [], false, [], 0⟩

/-- The bytes of a message. -/
def serialize (m : CreateComponentProto) : List UInt8 :=
  (if m.threadType ≠ 0 then 8 :: Wire.varint (Wire.ofInt32 m.threadType) else []) ++
  (if m.className ≠ [] then 18 :: Wire.delimited m.className else []) ++
  (if m.isToAllThread then 24 :: Wire.varint 1 else []) ++
  (m.params.flatMap fun p => 34 :: Wire.delimited p.serialize) ++
  (if m.sn ≠ 0 then 40 :: Wire.varint m.sn else [])

/-- Merge one field. -/
def mergeField (skipField : Wire.SkipField) (tag : ℕ) (m : CreateComponentProto) (bytes : List UInt8) :
    CreateComponentProto × Option (List UInt8) :=
  match tag with
  | 8 => Wire.readField m (fun value => { m with threadType := Wire.toInt32 value }) bytes
  | 18 =>
    let read := Wire.readString m.className bytes
    ({ m with className := read.1 }, if Wire.validUtf8 read.1 then read.2 else none)
  | 24 => Wire.readField m (fun value => { m with isToAllThread := value ≠ 0 }) bytes
  | 34 =>
    let read := Wire.readMessage .empty (Wire.merge (CreateComponentParam.mergeField skipField) .empty) bytes
    ({ m with params := m.params ++ [read.1] }, read.2)
  | 40 => Wire.readField m (fun value => { m with sn := value }) bytes
  | _ => (m, skipField.skip tag bytes)

/-- `ParseToProto`.  Whether all of it could be read is not asked. -/
def parseToProto (skipField : Wire.SkipField) (p : Packet) : CreateComponentProto :=
  (Wire.merge (mergeField skipField) .empty p.body).1

end CreateComponentProto

/-! ### Arguments and factories -/

/-- The types of arguments. -/
inductive ArgKind
  | int | string | uint64
  deriving DecidableEq

/-- An argument for `Awake`. -/
inductive ComponentArg
  | int (value : Int32)
  | string (value : List UInt8)
  | uint64 (value : UInt64)
  deriving DecidableEq

def ComponentArg.kind : ComponentArg → ArgKind
  | int _ => .int
  | string _ => .string
  | uint64 _ => .uint64

/-- `typeid(T).name()`. -/
structure ClassName where
  bytes : List UInt8
  ascii : ∀ b ∈ bytes, 0 < b.toNat ∧ b.toNat < 128

/-- A component that was created.  A number of 0 stands for one that is generated. -/
structure CreatedComponent where
  className : List UInt8
  sn : UInt64
  args : List ComponentArg
  deriving DecidableEq

/-- The factories of the process: for every list of types, the classes that were registered for it. -/
structure ComponentFactories where
  classes : List ArgKind → List (List UInt8)

namespace ComponentFactories

/-- `IsRegisted`. -/
def isRegisted (f : ComponentFactories) (kinds : List ArgKind) (className : List UInt8) : Bool :=
  className ∈ f.classes kinds

/-- `Regist`. -/
def regist (f : ComponentFactories) (kinds : List ArgKind) (className : List UInt8) :
    ComponentFactories :=
  if f.isRegisted kinds className then f
  else ⟨Function.update f.classes kinds (className :: f.classes kinds)⟩

theorem isRegisted_regist (f : ComponentFactories) (kinds : List ArgKind) (className : List UInt8) :
    (f.regist kinds className).isRegisted kinds className = true := by
  unfold regist
  split
  · assumption
  · simp [isRegisted]

/-- A class stays registered. -/
theorem isRegisted_regist_of {f : ComponentFactories} {kinds kinds' : List ArgKind}
    {className className' : List UInt8} (h : f.isRegisted kinds className = true) :
    (f.regist kinds' className').isRegisted kinds className = true := by
  unfold regist
  split
  · exact h
  · by_cases hkinds : kinds = kinds'
    · subst hkinds
      simp only [isRegisted, decide_eq_true_eq, Function.update_self] at h ⊢
      exact .tail _ h
    · simp only [isRegisted, Function.update_of_ne hkinds]
      exact h

end ComponentFactories

/-! ### The sender -/

/-- `AnalyseParam`: the message goes through `c_str()` for a string. -/
def analyseParam : ComponentArg → CreateComponentParam
  | .int value => ⟨0, value, [], 0⟩
  | .string value => ⟨1, 0, cStr value, 0⟩
  | .uint64 value => ⟨2, 0, [], value⟩

/-- `CreateComponentWithSn`: the message, and the factories with the class. -/
def createComponentWithSn (f : ComponentFactories) (iType : Int32) (sn : UInt64) (isToAllThread : Bool)
    (className : ClassName) (args : List ComponentArg) : ComponentFactories × CreateComponentProto :=
  (f.regist (args.map ComponentArg.kind) className.bytes,
    { threadType := iType
      className := cStr className.bytes
      isToAllThread := isToAllThread
      params := args.map analyseParam
      sn := sn })

/-! ### The receiver -/

/-- `MaxDynamicCall`. -/
def maxDynamicCall : ℕ := 4

/-- `DynamicCall<ICount>::Invoke`: the arguments that the component is created with, if it gets that far. -/
def dynamicCall : ℕ → List ComponentArg → List CreateComponentParam → Option (List ComponentArg)
  -- behind `MaxDynamicCall` parameters nobody looks whether there are any left
  | 0, _, _ => none
  | _ + 1, t1, [] => some t1
  | count + 1, t1, param :: params =>
    if param.type = 0 then dynamicCall count (t1 ++ [.int param.intParam]) params
    else if param.type = 1 then dynamicCall count (t1 ++ [.string param.stringParam]) params
    else if param.type = 2 then dynamicCall count (t1 ++ [.uint64 param.uint64Param]) params
    else none

namespace CreateComponentProto

/-- What `HandleCreateComponent` asks the factory for: the arguments that go with the name and the number. -/
def request (proto : CreateComponentProto) : Option (List ComponentArg) :=
  if maxDynamicCall < proto.params.length then none else dynamicCall maxDynamicCall [] proto.params

end CreateComponentProto

/-- `HandleCreateComponent`, while no factory is locked. -/
def ComponentFactories.handleCreateComponent (f : ComponentFactories) (proto : CreateComponentProto) :
    Option CreatedComponent :=
  proto.request.bind fun args =>
    if f.isRegisted (args.map ComponentArg.kind) proto.className then
      some ⟨proto.className, proto.sn, args⟩
    else none

/-! ### What is read of a message -/

section Read

variable {skipField : Wire.SkipField}

/-- A field that is left out where it has its default. -/
theorem reads_field {M : Type} {field : ℕ → M → List UInt8 → M × Option (List UInt8)} {m m' : M}
    {c : Prop} [Decidable c] {tag : UInt8} {payload : List UInt8} (hpos : 0 < tag.toNat)
    (hlt : tag.toNat < 128) (hread : c → ∀ rest, field tag.toNat m (payload ++ rest) = (m', some rest))
    (hdefault : ¬ c → m' = m) : Wire.Reads field m (if c then tag :: payload else []) m' := by
  by_cases hc : c
  · rw [if_pos hc]
    exact .one hpos hlt (hread hc)
  · rw [if_neg hc, hdefault hc]
    exact .nil field m

theorem length_le_delimited (s : List UInt8) : s.length ≤ (Wire.delimited s).length := by
  rw [Wire.delimited, List.length_append]
  exact Nat.le_add_left _ _

namespace CreateComponentParam

/-- The type and the number come first. -/
theorem reads_numbers (skipField : Wire.SkipField) (p : CreateComponentParam) :
    Wire.Reads (mergeField skipField) empty
      ((if p.type ≠ 0 then 8 :: Wire.varint (Wire.ofInt32 p.type) else []) ++
        (if p.intParam ≠ 0 then 16 :: Wire.varint (Wire.ofInt32 p.intParam) else []))
      ⟨p.type, p.intParam, [], 0⟩ := by
  have htype : Wire.Reads (mergeField skipField) empty
      (if p.type ≠ 0 then 8 :: Wire.varint (Wire.ofInt32 p.type) else []) ⟨p.type, 0, [], 0⟩ := by
    refine reads_field (by decide) (by decide) (fun _ rest => ?_) fun hzero => ?_
    · have hread := Wire.readField_varint empty (fun value => { empty with type := Wire.toInt32 value })
        (Wire.ofInt32 p.type) rest
      rw [Wire.toInt32_ofInt32] at hread
      exact hread
    · rw [not_not.1 hzero]
      rfl
  refine htype.append (reads_field (by decide) (by decide) (fun _ rest => ?_) fun hzero => ?_)
  · have hread := Wire.readField_varint (⟨p.type, 0, [], 0⟩ : CreateComponentParam)
      (fun value => ⟨p.type, Wire.toInt32 value, [], 0⟩) (Wire.ofInt32 p.intParam) rest
    rw [Wire.toInt32_ofInt32] at hread
    exact hread
  · rw [not_not.1 hzero]

theorem length_stringParam_le (p : CreateComponentParam) :
    p.stringParam.length ≤ p.serialize.length := by
  have hle := length_le_delimited p.stringParam
  by_cases hnil : p.stringParam = []
  · rw [hnil]
    exact Nat.zero_le _
  · simp only [serialize, ne_eq, hnil, not_false_eq_true, if_true, List.length_append, List.length_cons]
    omega

/-- The text is taken whatever it is, and what follows only if it is valid. -/
theorem mergeField_string {p : CreateComponentParam} {s : List UInt8} (h : s.length < 2 ^ 31)
    (rest : List UInt8) :
    mergeField skipField 26 p (Wire.delimited s ++ rest) =
      ({ p with stringParam := s }, if Wire.validUtf8 s then some rest else none) := by
  simp only [mergeField, Wire.readString_delimited h]

/-- **What is read of a parameter**: all of it, or what comes before the number of 64 bits. -/
theorem merge_serialize {p : CreateComponentParam} (h : p.serialize.length < 2 ^ 31) :
    Wire.merge (mergeField skipField) empty p.serialize =
      if Wire.validUtf8 p.stringParam then (p, true) else ({ p with uint64Param := 0 }, false) := by
  have hlen : p.stringParam.length < 2 ^ 31 := Nat.lt_of_le_of_lt p.length_stringParam_le h
  have hnumbers := reads_numbers skipField p
  by_cases hvalid : Wire.validUtf8 p.stringParam = true
  · have hstring : Wire.Reads (mergeField skipField) ⟨p.type, p.intParam, [], 0⟩
        (if p.stringParam ≠ [] then 26 :: Wire.delimited p.stringParam else [])
        ⟨p.type, p.intParam, p.stringParam, 0⟩ := by
      refine reads_field (by decide) (by decide) (fun _ rest => ?_) fun hnil => ?_
      · exact (mergeField_string hlen rest).trans (by rw [if_pos hvalid])
      · rw [not_not.1 hnil]
    rw [if_pos hvalid]
    refine Wire.merge_of_reads ((hnumbers.append hstring).append ?_)
    · refine reads_field (by decide) (by decide) (fun _ rest => ?_) fun hzero => ?_
      · exact Wire.readField_varint _ _ _ rest
      · rw [← not_not.1 hzero]
  · have hne : p.stringParam ≠ [] := by
      rintro hnil
      rw [hnil] at hvalid
      exact hvalid rfl
    rw [if_neg hvalid]
    simp only [serialize, if_pos hne, List.append_assoc, List.cons_append]
    rw [← List.append_assoc]
    refine Wire.merge_of_fails hnumbers (by decide) (by decide) ?_
    exact (mergeField_string hlen _).trans (by rw [if_neg hvalid])

end CreateComponentParam

namespace CreateComponentProto

/-- The parameters up to the first one whose text is not valid, and whether these are all. -/
def arriving : List CreateComponentParam → List CreateComponentParam × Bool
  | [] => ([], true)
  | p :: params =>
    if Wire.validUtf8 p.stringParam then (p :: (arriving params).1, (arriving params).2)
    else ([{ p with uint64Param := 0 }], false)

/-- The bytes of the parameters. -/
def serializeParams (params : List CreateComponentParam) : List UInt8 :=
  params.flatMap fun p => 34 :: Wire.delimited p.serialize

theorem serializeParams_cons (p : CreateComponentParam) (params : List CreateComponentParam) :
    serializeParams (p :: params) = 34 :: (Wire.delimited p.serialize ++ serializeParams params) := by
  rw [serializeParams, List.flatMap_cons]
  rfl

/-- A parameter is added, and is the last one if it could not be read to its end. -/
theorem mergeField_param {p : CreateComponentParam} (h : p.serialize.length < 2 ^ 31)
    (m : CreateComponentProto) (rest : List UInt8) :
    mergeField skipField 34 m (Wire.delimited p.serialize ++ rest) =
      if Wire.validUtf8 p.stringParam then ({ m with params := m.params ++ [p] }, some rest)
      else ({ m with params := m.params ++ [{ p with uint64Param := 0 }] }, none) := by
  simp only [mergeField, Wire.readMessage_delimited h, CreateComponentParam.merge_serialize h]
  by_cases hvalid : Wire.validUtf8 p.stringParam = true
  · simp only [if_pos hvalid, if_true]
  · simp only [if_neg hvalid, Bool.false_eq_true, if_false]

/-- Parameters that are all read. -/
theorem reads_params (skipField : Wire.SkipField) {params : List CreateComponentParam}
    (hlen : ∀ p ∈ params, p.serialize.length < 2 ^ 31) (hall : (arriving params).2 = true)
    (m : CreateComponentProto) :
    (arriving params).1 = params ∧
      Wire.Reads (mergeField skipField) m (serializeParams params)
        { m with params := m.params ++ params } := by
  induction params generalizing m with
  | nil =>
    refine ⟨rfl, ?_⟩
    rw [List.append_nil]
    exact .nil _ m
  | cons p params ih =>
    have hp := hlen p (.head _)
    simp only [arriving] at hall ⊢
    split at hall
    · rename_i hvalid
      obtain ⟨heq, hreads⟩ := ih (fun q hq => hlen q (.tail _ hq)) hall { m with params := m.params ++ [p] }
      have hone : Wire.Reads (mergeField skipField) m (34 :: Wire.delimited p.serialize)
          { m with params := m.params ++ [p] } :=
        .one (by decide) (by decide) fun rest => (mergeField_param hp m rest).trans (by rw [if_pos hvalid])
      rw [if_pos hvalid, heq, serializeParams_cons, ← List.cons_append]
      refine ⟨rfl, ?_⟩
      have hboth := hone.append hreads
      simp only [List.append_assoc, List.singleton_append] at hboth
      exact hboth
    · cases hall

/-- Parameters of which one is not read to its end: it is the last one. -/
theorem fails_params (skipField : Wire.SkipField) {params : List CreateComponentParam}
    (hlen : ∀ p ∈ params, p.serialize.length < 2 ^ 31) (hsome : (arriving params).2 = false)
    (m : CreateComponentProto) (tail : List UInt8) :
    ∃ front m' payload, serializeParams params ++ tail = front ++ 34 :: payload ∧
      Wire.Reads (mergeField skipField) m front m' ∧
      mergeField skipField 34 m' payload =
        ({ m with params := m.params ++ (arriving params).1 }, none) := by
  induction params generalizing m with
  | nil => cases hsome
  | cons p params ih =>
    have hp := hlen p (.head _)
    rw [serializeParams_cons, List.cons_append, List.append_assoc]
    simp only [arriving] at hsome ⊢
    split at hsome
    · rename_i hvalid
      obtain ⟨front, m', payload, hsplit, hreads, hfail⟩ :=
        ih (fun q hq => hlen q (.tail _ hq)) hsome { m with params := m.params ++ [p] }
      have hone : Wire.Reads (mergeField skipField) m (34 :: Wire.delimited p.serialize)
          { m with params := m.params ++ [p] } :=
        .one (by decide) (by decide) fun rest => (mergeField_param hp m rest).trans (by rw [if_pos hvalid])
      refine ⟨_, m', payload, ?_, hone.append hreads, ?_⟩
      · rw [hsplit, List.cons_append, List.cons_append, List.append_assoc]
      · rw [hfail, if_pos hvalid, List.append_assoc, List.singleton_append]
    · rename_i hvalid
      refine ⟨[], m, _, rfl, .nil _ m, ?_⟩
      rw [mergeField_param hp, if_neg hvalid, if_neg hvalid]

/-- The fields in front of the parameters. -/
theorem reads_front (skipField : Wire.SkipField) {m : CreateComponentProto} (hlen : m.className.length < 2 ^ 31)
    (hvalid : Wire.validUtf8 m.className = true) :
    Wire.Reads (mergeField skipField) empty
      ((if m.threadType ≠ 0 then 8 :: Wire.varint (Wire.ofInt32 m.threadType) else []) ++
        (if m.className ≠ [] then 18 :: Wire.delimited m.className else []) ++
        (if m.isToAllThread then 24 :: Wire.varint 1 else []))
      { m with params := [], sn := 0 } := by
  have htype : Wire.Reads (mergeField skipField) empty
      (if m.threadType ≠ 0 then 8 :: Wire.varint (Wire.ofInt32 m.threadType) else [])
      ⟨m.threadType, [], false, [], 0⟩ := by
    refine reads_field (by decide) (by decide) (fun _ rest => ?_) fun hzero => ?_
    · have hread := Wire.readField_varint empty
        (fun value => { empty with threadType := Wire.toInt32 value }) (Wire.ofInt32 m.threadType) rest
      rw [Wire.toInt32_ofInt32] at hread
      exact hread
    · rw [not_not.1 hzero]
      rfl
  have hname : Wire.Reads (mergeField skipField) ⟨m.threadType, [], false, [], 0⟩
      (if m.className ≠ [] then 18 :: Wire.delimited m.className else [])
      ⟨m.threadType, m.className, false, [], 0⟩ := by
    refine reads_field (by decide) (by decide) (fun _ rest => ?_) fun hnil => ?_
    · have hread := Wire.readString_delimited hlen [] rest
      have hfield : mergeField skipField 18 ⟨m.threadType, [], false, [], 0⟩
          (Wire.delimited m.className ++ rest) =
            (⟨m.threadType, m.className, false, [], 0⟩, some rest) := by
        simp only [mergeField, hread, hvalid, if_true]
      exact hfield
    · rw [not_not.1 hnil]
  refine (htype.append hname).append (reads_field (by decide) (by decide) (fun hall rest => ?_) fun hall => ?_)
  · have hread := Wire.readField_varint (⟨m.threadType, m.className, false, [], 0⟩ : CreateComponentProto)
      (fun value => ⟨m.threadType, m.className, value ≠ 0, [], 0⟩) 1 rest
    rw [hall]
    exact hread
  · have hnot : m.isToAllThread = false := by simpa using hall
    rw [hnot]

theorem length_serialize (m : CreateComponentProto) :
    m.className.length ≤ m.serialize.length ∧
      ∀ p ∈ m.params, p.serialize.length ≤ m.serialize.length := by
  constructor
  · have hle := length_le_delimited m.className
    by_cases hnil : m.className = []
    · rw [hnil]
      exact Nat.zero_le _
    · simp only [serialize, ne_eq, hnil, not_false_eq_true, if_true, List.length_append, List.length_cons]
      omega
  · intro p hp
    have hle := length_le_delimited p.serialize
    have hmem : (34 :: Wire.delimited p.serialize) ∈
        m.params.map fun p => 34 :: Wire.delimited p.serialize := List.mem_map_of_mem hp
    have hpart := (List.sublist_flatten_of_mem hmem).length_le
    simp only [serialize, List.flatMap_def, List.length_append]
    rw [List.length_cons] at hpart
    omega

/-- **What is read of a message**: all of it, or the parameters up to the first one with a text that is not
valid, and no number. -/
theorem merge_serialize {m : CreateComponentProto} (h : m.serialize.length < 2 ^ 31)
    (hvalid : Wire.validUtf8 m.className = true) :
    (Wire.merge (mergeField skipField) empty m.serialize).1 =
      { m with
        params := (arriving m.params).1
        sn := if (arriving m.params).2 then m.sn else 0 } := by
  obtain ⟨hname, hparams⟩ := m.length_serialize
  have hlen : ∀ p ∈ m.params, p.serialize.length < 2 ^ 31 := fun p hp =>
    Nat.lt_of_le_of_lt (hparams p hp) h
  have hfront := reads_front skipField (Nat.lt_of_le_of_lt hname h) hvalid
  cases hall : (arriving m.params).2 with
  | true =>
    obtain ⟨heq, hreads⟩ := reads_params skipField hlen hall { m with params := [], sn := 0 }
    have hsn : Wire.Reads (mergeField skipField) { m with sn := 0 }
        (if m.sn ≠ 0 then 40 :: Wire.varint m.sn else []) m := by
      refine reads_field (by decide) (by decide) (fun _ rest => ?_) fun hzero => ?_
      · exact Wire.readField_varint _ _ _ rest
      · rw [← not_not.1 hzero]
    rw [if_pos rfl, heq]
    exact congrArg Prod.fst (Wire.merge_of_reads ((hfront.append hreads).append hsn))
  | false =>
    obtain ⟨front, m', payload, hsplit, hreads, hfail⟩ := fails_params skipField hlen hall
      { m with params := [], sn := 0 } (if m.sn ≠ 0 then 40 :: Wire.varint m.sn else [])
    have hbytes : m.serialize = (((if m.threadType ≠ 0 then 8 :: Wire.varint (Wire.ofInt32 m.threadType) else []) ++
        (if m.className ≠ [] then 18 :: Wire.delimited m.className else []) ++
        (if m.isToAllThread then 24 :: Wire.varint 1 else [])) ++ front) ++ 34 :: payload := by
      rw [List.append_assoc, ← hsplit, serialize, serializeParams, List.append_assoc]
    have hlast : mergeField skipField (34 : UInt8).toNat m' payload =
        ({ m with params := (arriving m.params).1, sn := 0 }, none) := hfail
    rw [hbytes, Wire.merge_of_fails (hfront.append hreads) (by decide) (by decide) hlast]
    rfl

end CreateComponentProto

end Read

end MmoServer
