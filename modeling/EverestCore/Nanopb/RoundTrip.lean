import EverestCore.Nanopb.Fields

/-! Messages are decoded as they were encoded, whatever fields the peer adds that are not known
here. The decoder is compared with one that looks fields up by their tags. -/
namespace EverestCore.Nanopb
open ShiftRegister StreamReader

section Records

variable {σ : Type} (fields : List (PbField σ))

/-- One tag, and what belongs to it. -/
def decodeRecord (s : σ) : PbReader σ := do
  let (wireType, tag) ← pbDecodeTag
  ensure (tag ≠ 0)
  match fields.find? fun field => field.tag = tag with
  | none => do
      pbSkipField wireType
      pure s
  | some field => field.decodeField wireType s

/-- A record is a tag and a field, and both are local. -/
theorem local_decodeRecord (s : σ) : (decodeRecord fields s).Local := by
  apply local_decodeTag.bind
  intro tag
  apply (local_ensure _).bind
  intro _
  split
  · exact (local_skipField _).bind fun _ => local_pure _
  · exact PbField.local_decodeField _ _ _

variable {fields}

/-- A record is never empty. -/
theorem decodeRecord_shorter {s result : σ} {stream rest : List UInt8}
    (h : (decodeRecord fields s).run stream = some (result, rest)) :
    rest.length < stream.length := by
  obtain ⟨front, rfl, hReads⟩ := local_decodeRecord fields s stream result rest h
  cases front with
  | nil => cases hReads []
  | cons byte others =>
      rw [List.length_append, List.length_cons]
      omega

variable (fields)

/-- All records of a stream. -/
def decodeRecords (stream : List UInt8) (s : σ) : Option σ :=
  if stream = [] then some s
  else
    match _hRecord : (decodeRecord fields s).run stream with
    | none => none
    | some (s, rest) => decodeRecords rest s
termination_by stream.length
decreasing_by exact decodeRecord_shorter _hRecord

variable {fields}

/-- At the end of the stream the message is complete. -/
theorem decodeRecords_nil (s : σ) : decodeRecords fields [] s = some s := by
  rw [decodeRecords, if_pos rfl]

/-- One record after the other. -/
theorem decodeRecords_reads {s s' : σ} {record : List UInt8}
    (hReads : (decodeRecord fields s).Reads record s') (rest : List UInt8) :
    decodeRecords fields (record ++ rest) s = decodeRecords fields rest s' := by
  have hNonempty : record ++ rest ≠ [] := by
    intro hNil
    have hRun := hReads rest
    rw [hNil] at hRun
    cases hRun
  rw [decodeRecords, if_neg hNonempty]
  have hRun := hReads rest
  split
  · next hNone => cases hNone.symm.trans hRun
  · next hSome =>
    obtain ⟨rfl, rfl⟩ := Prod.mk.inj (Option.some.inj (hSome.symm.trans hRun))
    rfl

/-- Two messages one after the other are merged. -/
theorem decodeRecords_append {front : List UInt8} {s s' : σ}
    (hFront : decodeRecords fields front s = some s') (back : List UInt8) :
    decodeRecords fields (front ++ back) s = decodeRecords fields back s' := by
  induction hLength : front.length using Nat.strong_induction_on generalizing front s with
  | _ count ih =>
      rw [decodeRecords] at hFront
      split at hFront
      · next hNil =>
        rw [hNil, List.nil_append, Option.some.inj hFront]
      · split at hFront
        · cases hFront
        · next middle rest hSome =>
          have hShorter := decodeRecord_shorter hSome
          obtain ⟨record, rfl, hReads⟩ := local_decodeRecord fields s _ _ _ hSome
          rw [List.append_assoc, decodeRecords_reads hReads]
          exact ih rest.length (hLength ▸ hShorter) hFront rfl

/-- A record with a tag that is not in the list. -/
def Unknown (tags : List ℕ) (record : List UInt8) : Prop :=
  ∃ wireType tag front back, record = front ++ back ∧ tag ≠ 0 ∧ tag ∉ tags ∧
    pbDecodeTag.Reads front (wireType, tag) ∧ (pbSkipField wireType).Reads back ()

/-- A record with an unknown tag is skipped and changes nothing. -/
theorem Unknown.reads {record : List UInt8} (hUnknown : Unknown (fields.map PbField.tag) record)
    (s : σ) : (decodeRecord fields s).Reads record s := by
  obtain ⟨wireType, tag, front, back, rfl, hTag, hNone, hFront, hBack⟩ := hUnknown
  apply hFront.bind
  apply (reads_ensure hTag).bind_nil
  have hFind : (fields.find? fun field => field.tag = tag) = none := by
    rw [List.find?_eq_none]
    intro field hField hSame
    exact hNone (of_decide_eq_true hSame ▸ List.mem_map_of_mem hField)
  rw [hFind]
  exact hBack.bind_pure (reads_pure s)

/-- Records that are not known make no difference. -/
theorem decodeRecords_unknown {records : List (List UInt8)}
    (hUnknown : ∀ record ∈ records, Unknown (fields.map PbField.tag) record) (rest : List UInt8)
    (s : σ) : decodeRecords fields (records.flatten ++ rest) s = decodeRecords fields rest s := by
  induction records with
  | nil => rfl
  | cons record others ih =>
      have hReads := (hUnknown record List.mem_cons_self).reads s
      rw [List.flatten_cons, List.append_assoc, decodeRecords_reads hReads]
      exact ih fun other hOther => hUnknown other (List.mem_cons_of_mem _ hOther)

/-- The tags are in order, and they can be encoded. -/
structure Ordered (fields : List (PbField σ)) : Prop where
  increasing : (fields.map PbField.tag).Pairwise (· < ·)
  positive : ∀ field ∈ fields, 0 < field.tag
  small : ∀ field ∈ fields, field.tag < 2 ^ 29

/-- In an ordered list of fields, a tag belongs to one field only. -/
theorem Ordered.find?_eq (hOrdered : Ordered fields) {field : PbField σ} (hField : field ∈ fields) :
    (fields.find? fun other => other.tag = field.tag) = some field := by
  have hNodup : (fields.map PbField.tag).Nodup := hOrdered.increasing.imp Nat.ne_of_lt
  cases hFind : fields.find? fun other => other.tag = field.tag with
  | none => exact absurd (List.find?_eq_none.mp hFind field hField) (by simp)
  | some other =>
      have hTag : other.tag = field.tag := by simpa using List.find?_some hFind
      rw [List.inj_on_of_nodup_map hNodup (List.mem_of_find?_eq_some hFind) hField hTag]

/-- The iterator finds what is looked up. -/
theorem Ordered.lookup_eq (hOrdered : Ordered fields) {index tag : ℕ}
    (hIndex : Stands fields.length index) (hTag : tag ≠ 0) :
    (if (pbFieldIterFind (fields.map PbField.tag) index tag).1
      then fields[(pbFieldIterFind (fields.map PbField.tag) index tag).2]? else none) =
        (fields.find? fun field => field.tag = tag) ∧
      Stands fields.length (pbFieldIterFind (fields.map PbField.tag) index tag).2 := by
  rw [← List.length_map PbField.tag] at hIndex ⊢
  rcases pbFieldIterFind_spec hOrdered.increasing hIndex hTag with
    ⟨place, hPlace, hFound⟩ | ⟨hNone, hFound⟩
  · rw [hFound, if_pos rfl]
    rw [List.getElem?_map, Option.map_eq_some_iff] at hPlace
    obtain ⟨field, hField, rfl⟩ := hPlace
    rw [hField, hOrdered.find?_eq (List.mem_of_getElem? hField)]
    refine ⟨rfl, ?_⟩
    have hLess := (List.getElem?_eq_some_iff.mp hField).1
    unfold Stands
    rw [List.length_map]
    exact lt_max_of_lt_right hLess
  · rw [hFound, if_neg Bool.false_ne_true]
    refine ⟨(List.find?_eq_none.mpr fun field hField hSame => ?_).symm, hIndex⟩
    have hEq : field.tag = tag := by simpa using hSame
    exact hNone (hEq ▸ List.mem_map_of_mem hField)

/-- The iterator does what a search in the list of fields does, wherever it stands. -/
theorem run_decodeRound (hOrdered : Ordered fields) {index : ℕ}
    (hIndex : Stands fields.length index) (s : σ) (stream : List UInt8) :
    ∃ next, Stands fields.length next ∧ (decodeRound fields index s).run stream =
      ((decodeRecord fields s).run stream).map fun read => ((next, read.1), read.2) := by
  rw [decodeRound, decodeRecord, run_bind, run_bind]
  rcases pbDecodeTag.run stream with _ | ⟨⟨wireType, tag⟩, left⟩
  · exact ⟨index, hIndex, rfl⟩
  · rw [Option.bind_some, Option.bind_some]
    dsimp only
    by_cases hTag : tag ≠ 0
    · obtain ⟨hLookup, hNext⟩ := hOrdered.lookup_eq hIndex hTag
      refine ⟨_, hNext, ?_⟩
      rw [run_ensure_bind_pos hTag, run_ensure_bind_pos hTag, hLookup]
      cases fields.find? fun field => field.tag = tag with
      | none =>
          dsimp only
          rw [run_bind, run_bind]
          cases (pbSkipField wireType).run left <;> rfl
      | some field =>
          dsimp only
          rw [run_bind]
          cases (field.decodeField wireType s).run left <;> rfl
    · refine ⟨index, hIndex, ?_⟩
      rw [run_ensure_bind_neg hTag, run_ensure_bind_neg hTag]
      rfl

/-- Where the iterator stands makes no difference. -/
theorem pbDecodeInner_eq (hOrdered : Ordered fields) {index : ℕ}
    (hIndex : Stands fields.length index) (stream : List UInt8) (s : σ) :
    pbDecodeInner fields index stream s = decodeRecords fields stream s := by
  induction hLength : stream.length using Nat.strong_induction_on
      generalizing stream s index with
  | _ count ih =>
      rw [pbDecodeInner, decodeRecords]
      obtain ⟨next, hNext, hRun⟩ := run_decodeRound hOrdered hIndex s stream
      split
      · rfl
      · cases hRecord : (decodeRecord fields s).run stream with
        | none =>
            rw [hRecord] at hRun
            split
            · rfl
            · next hSome => cases hSome.symm.trans hRun
        | some read =>
            rw [hRecord] at hRun
            split
            · next hNone => cases hNone.symm.trans hRun
            · next hSome =>
              obtain ⟨hPair, rfl⟩ := Prod.mk.inj (Option.some.inj (hSome.symm.trans hRun))
              obtain ⟨rfl, rfl⟩ := Prod.mk.inj hPair
              exact ih _ (hLength ▸ decodeRecord_shorter hRecord) hNext _ _ rfl

end Records

namespace PbLtype

/-- The bytes of a value. -/
def bytes : (ltype : PbLtype) → ltype.Data → List UInt8
  | bool, value => Varint.bytes (if value then 1 else 0)
  | varint, value => Varint.bytes (BitVec.signExtend 64 value).toNat
  | uvarint, value => Varint.bytes (BitVec.toNat value)
  | fixed32, value => toBytes 4 value
  | string _, value => Varint.bytes value.bytes.length ++ value.bytes

/-- A string has room for its length. -/
def Fits : PbLtype → Prop
  | string maxLength => maxLength + 1 < 2 ^ 32
  | _ => True

/-- Each type of data writes the bytes that are given for it. -/
theorem writes_encode {ltype : PbLtype} (hFits : ltype.Fits) (value : ltype.Data) :
    Writes (ltype.encode value) (ltype.bytes value) := by
  cases ltype with
  | bool =>
      have hWrites := writes_encodeVarint (if value then 1 else 0)
      cases value <;> exact hWrites
  | varint => exact writes_encodeVarint _
  | uvarint =>
      have hWrites := writes_encodeVarint (BitVec.setWidth 64 value)
      have hWide : (BitVec.setWidth 64 value).toNat = BitVec.toNat value := by
        rw [BitVec.toNat_setWidth]
        exact Nat.mod_eq_of_lt (by omega)
      rwa [hWide] at hWrites
  | fixed32 => exact writes_encodeFixed32 value
  | string maxLength =>
      have hShort : value.bytes.length < maxLength + 1 := value.terminated
      exact writes_encodeString (hShort.trans hFits)

/-- Each type of data reads back what it has written. -/
theorem reads_decode {ltype : PbLtype} (hFits : ltype.Fits) (value : ltype.Data) :
    ltype.decode.Reads (ltype.bytes value) value := by
  cases ltype with
  | bool => exact reads_decodeBool value
  | varint => exact reads_decVarint value
  | uvarint => exact reads_decUvarint value
  | fixed32 => exact reads_decodeFixed32 value
  | string maxLength => exact reads_decString hFits value

/-- A value that is left out as default is the one that the decoder starts from. -/
theorem eq_zero_of_isDefault {ltype : PbLtype} {value : ltype.Data}
    (hDefault : ltype.isDefault value) : value = ltype.zero := by
  cases ltype with
  | bool => exact Bool.not_eq_true' _ ▸ hDefault
  | varint => exact eq_of_beq hDefault
  | uvarint => exact eq_of_beq hDefault
  | fixed32 => exact eq_of_beq hDefault
  | string maxLength => exact CString.ext (List.isEmpty_iff.mp hDefault)

/-- The largest number of bytes that a value takes. -/
def maxSize : PbLtype → ℕ
  | bool => 1
  | varint => 10
  | uvarint => 5
  | fixed32 => 4
  | string maxLength => (if maxLength < 128 then 1 else 5) + maxLength

/-- The bound that the generated sizes are made of. -/
theorem length_bytes_le {ltype : PbLtype} (hFits : ltype.Fits) (value : ltype.Data) :
    (ltype.bytes value).length ≤ ltype.maxSize := by
  cases ltype with
  | bool => cases value <;> exact Varint.length_bytes_le (by decide)
  | varint =>
      apply Varint.length_bytes_le
      exact (BitVec.isLt _).trans_le (by decide)
  | uvarint =>
      apply Varint.length_bytes_le
      exact (BitVec.isLt value).trans_le (by decide)
  | fixed32 => exact (length_toBytes 4 value).le
  | string maxLength =>
      have hShort : value.bytes.length < maxLength + 1 := value.terminated
      change maxLength + 1 < 2 ^ 32 at hFits
      rw [bytes, maxSize, List.length_append]
      split
      · have hLength : (Varint.bytes value.bytes.length).length ≤ 1 :=
          Varint.length_bytes_le (by omega)
        omega
      · have hLength : (Varint.bytes value.bytes.length).length ≤ 5 :=
          Varint.length_bytes_le (by omega)
        omega

end PbLtype

section Laws

variable {σ : Type}

/-- What `pb_encode` makes of a struct. -/
def PbMsgdesc.bytes (desc : PbMsgdesc σ) (s : σ) : List UInt8 := encoded (desc.encode s)

/-- Every struct is decoded as it was encoded, and what is not known is skipped. -/
structure PbMsgdesc.Lawful (desc : PbMsgdesc σ) : Prop where
  writes : ∀ s, Writes (desc.encode s) (desc.bytes s)
  short : ∀ s, (desc.bytes s).length < 2 ^ 32
  decodes : ∀ s, desc.decodeInner (desc.bytes s) desc.zero = some s
  skips : ∀ s front records back, (desc.decodeInner front s).isSome →
    (∀ record ∈ records, Unknown desc.tags record) →
    desc.decodeInner (front ++ (List.flatten records ++ back)) s =
      desc.decodeInner (front ++ back) s

namespace PbField

/-- The bytes of a field. -/
def bytes (field : PbField σ) (s : σ) : List UInt8 :=
  match field with
  | singular ltype member tag =>
      if ltype.isDefault (member.get s) then []
      else Varint.bytes (8 * tag + ltype.wireType.code) ++ ltype.bytes (member.get s)
  | oneof member which submsg tag =>
      match (member.get s).get? which with
      | none => []
      | some content =>
          Varint.bytes (8 * tag + PbWireType.string.code) ++
            (Varint.bytes (submsg.bytes content).length ++ submsg.bytes content)

/-- The type of the field can be encoded. -/
def Lawful : PbField σ → Prop
  | singular ltype _ _ => ltype.Fits
  | oneof _ _ submsg _ => submsg.Lawful

/-- A field writes its tag and its value, or nothing at all. -/
theorem writes_encodeField {field : PbField σ} (hLawful : field.Lawful)
    (hTag : field.tag < 2 ^ 29) (s : σ) : Writes (field.encodeField s) (field.bytes s) := by
  cases field with
  | singular ltype member tag =>
      unfold encodeField bytes
      dsimp only
      split
      · exact writes_nothing
      · exact (writes_encodeTag hTag).bind (PbLtype.writes_encode hLawful _)
  | oneof member which submsg tag =>
      unfold encodeField bytes
      dsimp only
      cases (member.get s).get? which with
      | none => exact writes_nothing
      | some content =>
          exact (writes_encodeTag hTag).bind
            (writes_encodeSubmessage (hLawful.writes content) (hLawful.short content))

/-- Nothing of the field is in the struct yet. -/
def Fresh (field : PbField σ) (s : σ) : Prop :=
  match field with
  | singular ltype member _ => member.set ltype.zero s = s
  | oneof member which _ _ => (member.get s).get? which = none

/-- The struct with the field of another one. -/
def copy (field : PbField σ) (source s : σ) : σ :=
  match field with
  | singular _ member _ => member.set (member.get source) s
  | oneof member which _ _ =>
      match (member.get source).get? which with
      | none => s
      | some content => member.set (.of which content) s

/-- A message in the union, whatever bytes it was made of. -/
theorem decodes_submessage {Tag : Type} {Struct : Tag → Type} [DecidableEq Tag]
    {member : Member σ (Union Struct)} {which : Tag} {submsg : PbMsgdesc (Struct which)} {tag : ℕ}
    {fields : List (PbField σ)} (hOrdered : Ordered fields)
    (hField : oneof member which submsg tag ∈ fields) {s : σ}
    (hFresh : (member.get s).get? which = none) {inner : List UInt8} {content : Struct which}
    (hInner : submsg.decodeInner inner submsg.zero = some content)
    (hShort : inner.length < 2 ^ 32) (rest : List UInt8) :
    decodeRecords fields (Varint.bytes (8 * tag + PbWireType.string.code) ++
        (Varint.bytes inner.length ++ inner) ++ rest) s =
      decodeRecords fields rest (member.set (.of which content) s) := by
  have hFind := hOrdered.find?_eq hField
  apply decodeRecords_reads
  apply (reads_decodeTag (hOrdered.small _ hField)).bind
  apply (reads_ensure (hOrdered.positive _ hField).ne').bind_nil
  rw [hFind]
  apply (reads_ensure rfl).bind_nil
  apply (reads_stringSubstream hShort).bind_pure
  rw [hFresh, Option.getD_none, hInner]
  exact reads_pure _

/-- A field that is still as in the fresh message gets the value of the source, and the other fields
stay. -/
theorem decodes {field : PbField σ} (hLawful : field.Lawful) {source s : σ}
    (hFresh : field.Fresh s) {fields : List (PbField σ)} (hOrdered : Ordered fields)
    (hField : field ∈ fields) (rest : List UInt8) :
    decodeRecords fields (field.bytes source ++ rest) s =
      decodeRecords fields rest (field.copy source s) := by
  have hTag := hOrdered.small field hField
  have hPositive : field.tag ≠ 0 := (hOrdered.positive field hField).ne'
  have hFind := hOrdered.find?_eq hField
  cases field with
  | singular ltype member tag =>
      unfold bytes copy
      dsimp only
      split
      · next hDefault =>
        rw [PbLtype.eq_zero_of_isDefault hDefault, hFresh, List.nil_append]
      · apply decodeRecords_reads
        apply (reads_decodeTag hTag).bind
        apply (reads_ensure hPositive).bind_nil
        rw [hFind]
        apply (reads_ensure rfl).bind_nil
        exact (PbLtype.reads_decode hLawful _).bind_pure (reads_pure _)
  | oneof member which submsg tag =>
      unfold bytes copy
      dsimp only
      cases hSource : (member.get source).get? which with
      | none => rfl
      | some content =>
          exact decodes_submessage hOrdered hField hFresh (hLawful.decodes content)
            (hLawful.short content) rest

end PbField

/-- The fields bring over all of the struct, none of them twice. -/
def Rebuilds : List (PbField σ) → σ → σ → Prop
  | [], source, s => s = source
  | field :: rest, source, s => field.Fresh s ∧ Rebuilds rest source (field.copy source s)

/-- Field after field, in the order of the descriptor. The message is rebuilt step by step. -/
theorem decodeRecords_flatMap {fields : List (PbField σ)} (hOrdered : Ordered fields)
    {rest : List (PbField σ)} (hRest : ∀ field ∈ rest, field ∈ fields)
    (hLawful : ∀ field ∈ rest, field.Lawful) {source s : σ} (hRebuilds : Rebuilds rest source s) :
    decodeRecords fields (rest.flatMap fun field => field.bytes source) s = some source := by
  induction rest generalizing s with
  | nil =>
      obtain rfl : s = source := hRebuilds
      exact decodeRecords_nil s
  | cons field others ih =>
      obtain ⟨hFresh, hOthers⟩ := hRebuilds
      rw [List.flatMap_cons, PbField.decodes (hLawful field List.mem_cons_self) hFresh hOrdered
        (hRest field List.mem_cons_self)]
      exact ih (fun other hOther => hRest other (List.mem_cons_of_mem _ hOther))
        (fun other hOther => hLawful other (List.mem_cons_of_mem _ hOther)) hOthers

/-- A message writes the bytes of its fields. -/
theorem writes_pbEncode {fields : List (PbField σ)} (hLawful : ∀ field ∈ fields, field.Lawful)
    (hSmall : ∀ field ∈ fields, field.tag < 2 ^ 29) (s : σ) :
    Writes (pbEncode fields s) (fields.flatMap fun field => field.bytes s) := by
  induction fields with
  | nil => exact writes_nothing
  | cons field rest ih =>
      have hHead := PbField.writes_encodeField (hLawful field List.mem_cons_self)
        (hSmall field List.mem_cons_self) s
      have hTail := ih (fun other hOther => hLawful other (List.mem_cons_of_mem _ hOther))
        fun other hOther => hSmall other (List.mem_cons_of_mem _ hOther)
      exact hHead.bind hTail

variable {fields : List (PbField σ)} {zero : σ}

/-- As a submessage it has the same bytes. -/
theorem bytes_msgdesc (hOrdered : Ordered fields) (hLawful : ∀ field ∈ fields, field.Lawful)
    (s : σ) : (msgdesc fields zero).bytes s = fields.flatMap fun field => field.bytes s :=
  (writes_pbEncode hLawful hOrdered.small s).encoded_eq

/-- A descriptor with every member of the struct is lawful. -/
theorem lawful_msgdesc (hOrdered : Ordered fields) (hLawful : ∀ field ∈ fields, field.Lawful)
    (hRebuilds : ∀ source, Rebuilds fields source zero)
    (hShort : ∀ s, ((msgdesc fields zero).bytes s).length < 2 ^ 32) :
    (msgdesc fields zero).Lawful where
  writes s := by
    rw [bytes_msgdesc hOrdered hLawful]
    exact writes_pbEncode hLawful hOrdered.small s
  short := hShort
  decodes s := by
    have hStands : Stands fields.length 0 := lt_max_of_lt_left Nat.one_pos
    rw [bytes_msgdesc hOrdered hLawful]
    exact (pbDecodeInner_eq hOrdered hStands _ _).trans
      (decodeRecords_flatMap hOrdered (fun _ => id) hLawful (hRebuilds s))
  skips s front records back hFront hUnknown := by
    have hStands : Stands fields.length 0 := lt_max_of_lt_left Nat.one_pos
    have hInner (stream : List UInt8) : (msgdesc fields zero).decodeInner stream s =
        decodeRecords fields stream s := pbDecodeInner_eq hOrdered hStands stream s
    rw [hInner] at hFront
    obtain ⟨s', hDecoded⟩ := Option.isSome_iff_exists.mp hFront
    rw [hInner, hInner, decodeRecords_append hDecoded, decodeRecords_append hDecoded]
    exact decodeRecords_unknown hUnknown back s'

end Laws

end EverestCore.Nanopb
