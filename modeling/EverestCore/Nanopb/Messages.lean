import Mathlib.Algebra.Order.BigOperators.Group.List
import EverestCore.Nanopb.RoundTrip

/-! The two shapes of the messages of the serial links: structs of single fields, and a union of
such structs. What is checked of a field list here is what its descriptor is lawful for, and how
many bytes its messages take at most. -/
namespace EverestCore.Nanopb

/-- The size of a tag. -/
def tagSize (tag : ℕ) : ℕ := if tag < 16 then 1 else if tag < 2048 then 2 else 5

/-- The generated sizes count the tag with its number of bytes. -/
theorem length_tag_le {tag : ℕ} (hTag : tag < 2 ^ 29) (wireType : PbWireType) :
    (Varint.bytes (8 * tag + wireType.code)).length ≤ tagSize tag := by
  have hCode := wireType.code_lt
  unfold tagSize
  split_ifs
  · exact Varint.length_bytes_le (by omega)
  · exact Varint.length_bytes_le (by omega)
  · exact Varint.length_bytes_le (by omega)

/-- No struct takes more bytes. -/
def PbMsgdesc.Bounded {σ : Type} (desc : PbMsgdesc σ) (size : ℕ) : Prop :=
  ∀ s, (desc.bytes s).length ≤ size

section Plain

variable {σ : Type} {fields : List (PbField σ)} {zero : σ}

instance (ltype : PbLtype) : Decidable ltype.Fits :=
  match ltype with
  | .bool => inferInstanceAs (Decidable True)
  | .varint => inferInstanceAs (Decidable True)
  | .uvarint => inferInstanceAs (Decidable True)
  | .fixed32 => inferInstanceAs (Decidable True)
  | .string maxLength => inferInstanceAs (Decidable (maxLength + 1 < 2 ^ 32))

namespace PbField

/-- A single field whose type can be encoded. -/
def plain : PbField σ → Bool
  | singular ltype _ _ => ltype.Fits
  | oneof _ _ _ _ => false

/-- The size of a single field. -/
def plainSize : PbField σ → ℕ
  | singular ltype _ tag => tagSize tag + ltype.maxSize
  | oneof _ _ _ _ => 0

variable {field : PbField σ}

/-- A field of a basic type follows the laws. -/
theorem lawful_of_plain (hPlain : field.plain) : field.Lawful := by
  cases field with
  | singular ltype member tag =>
      have hFits : ltype.Fits := of_decide_eq_true hPlain
      exact hFits
  | oneof member which submsg tag => cases hPlain

/-- A field of a basic type is no longer than its size says. -/
theorem length_bytes_le (hPlain : field.plain) (hTag : field.tag < 2 ^ 29) (s : σ) :
    (field.bytes s).length ≤ field.plainSize := by
  cases field with
  | singular ltype member tag =>
      unfold bytes plainSize
      dsimp only
      split
      · exact Nat.zero_le _
      · rw [List.length_append]
        exact Nat.add_le_add (length_tag_le hTag _)
          (PbLtype.length_bytes_le (of_decide_eq_true hPlain) _)
  | oneof member which submsg tag => cases hPlain

end PbField

/-- A struct of single fields, all of its members among them. -/
structure Plain (fields : List (PbField σ)) (zero : σ) : Prop where
  ordered : Ordered fields
  plain : ∀ field ∈ fields, field.plain
  rebuilds : ∀ source, Rebuilds fields source zero

/-- The most bytes that a struct of single fields takes. -/
def plainSizes (fields : List (PbField σ)) : ℕ := (fields.map PbField.plainSize).sum

namespace Plain

variable (h : Plain fields zero)

include h

/-- Each field of a plain message is lawful. -/
theorem lawful_fields : ∀ field ∈ fields, field.Lawful := fun field hField =>
  PbField.lawful_of_plain (h.plain field hField)

/-- The size of a plain message is the sum of the sizes of its fields. -/
theorem bounded : (msgdesc fields zero).Bounded (plainSizes fields) := by
  intro s
  rw [bytes_msgdesc h.ordered h.lawful_fields, List.length_flatMap]
  apply List.sum_le_sum
  intro field hField
  exact PbField.length_bytes_le (h.plain field hField) (h.ordered.small field hField) s

/-- A plain message may stand in another one. -/
theorem lawful (hShort : plainSizes fields < 2 ^ 32) : (msgdesc fields zero).Lawful :=
  lawful_msgdesc h.ordered h.lawful_fields h.rebuilds fun s => (h.bounded s).trans_lt hShort

/-- In a union that has room for it. -/
theorem known {tag limit : ℕ}
    (hSize : plainSizes fields < 128 ∧ tagSize tag + (1 + plainSizes fields) ≤ limit) :
    (msgdesc fields zero).Lawful ∧ ∃ size < 128, (msgdesc fields zero).Bounded size ∧
      tagSize tag + (1 + size) ≤ limit :=
  ⟨h.lawful (by omega), _, hSize.1, h.bounded, hSize.2⟩

end Plain

/-- The fields of a message, each within its own size. -/
theorem length_flatMap_le {sizes : List ℕ} (hSizes : List.Forall₂
      (fun field size => ∀ s, (PbField.bytes field s).length ≤ size) fields sizes) (s : σ) :
    (fields.flatMap fun field => field.bytes s).length ≤ sizes.sum := by
  induction hSizes with
  | nil => exact Nat.zero_le _
  | cons hField hRest ih =>
      rw [List.flatMap_cons, List.length_append, List.sum_cons]
      exact Nat.add_le_add (hField s) ih

end Plain

/-- An entry of the field list of a union. -/
structure UnionField {Tag : Type} (Struct : Tag → Type) where
  which : Tag
  submsg : PbMsgdesc (Struct which)
  tag : ℕ

section Unions

variable {Tag : Type} {Struct : Tag → Type} [DecidableEq Tag] {σ : Type}

def UnionField.field (member : Member σ (Union Struct)) (entry : UnionField Struct) : PbField σ :=
  .oneof member entry.which entry.submsg entry.tag

/-- A union holds one member at a time. -/
theorem Union.get?_other {tag other : Tag} (hOther : tag ≠ other) (content : Struct tag) :
    (of tag content : Union Struct).get? other = Option.none := by
  change (if hSame : tag = other then some (hSame ▸ content) else Option.none) = Option.none
  rw [dif_neg hOther]

/-- A union is determined by the member that it holds. -/
theorem Union.eq_of_get? {union : Union Struct} {tag : Tag} {content : Struct tag}
    (hUsed : union.get? tag = some content) : union = of tag content := by
  rcases union with _ | ⟨used, held⟩
  · cases hUsed
  · by_cases hSame : used = tag
    · subst hSame
      change (if hSame : used = used then some (hSame ▸ held) else Option.none) = _ at hUsed
      rw [dif_pos rfl] at hUsed
      obtain rfl : held = content := Option.some.inj hUsed
      rfl
    · cases (get?_other hSame held).symm.trans hUsed

/-- A union in which no member is found holds none. -/
theorem Union.eq_none_of_get? {union : Union Struct}
    (hUnused : ∀ tag, union.get? tag = Option.none) : union = none := by
  rcases union with _ | ⟨used, held⟩
  · rfl
  · have hNone := hUnused used
    change (if hSame : used = used then some (hSame ▸ held) else Option.none) = _ at hNone
    rw [dif_pos rfl] at hNone
    cases hNone

/-- A message in a union whose descriptor is lawful, and which takes at most `limit` bytes together
with its tag and its length. -/
def UnionField.Known (limit : ℕ) (entry : UnionField Struct) : Prop :=
  entry.submsg.Lawful ∧
    ∃ size < 128, entry.submsg.Bounded size ∧ tagSize entry.tag + (1 + size) ≤ limit

variable {member : Member σ (Union Struct)} {entries : List (UnionField Struct)} {source s : σ}

/-- What is not in use is not sent. -/
theorem UnionField.bytes_none {entry : UnionField Struct}
    (hNone : (member.get s).get? entry.which = none) : (entry.field member).bytes s = [] := by
  unfold field PbField.bytes
  dsimp only
  rw [hNone]

/-- An entry is written if it is the one in use, and is empty otherwise. -/
theorem UnionField.Known.length_le {limit : ℕ} {entry : UnionField Struct}
    (hKnown : entry.Known limit) (hTag : entry.tag < 2 ^ 29) (s : σ) :
    ((entry.field member).bytes s).length ≤ limit := by
  obtain ⟨-, size, hSmall, hBounded, hLimit⟩ := hKnown
  unfold field PbField.bytes
  dsimp only
  cases (member.get s).get? entry.which with
  | none => exact Nat.zero_le _
  | some content =>
      have hLength := hBounded content
      have hCount : (Varint.bytes (entry.submsg.bytes content).length).length ≤ 1 :=
        Varint.length_bytes_le (by omega)
      have hName := length_tag_le hTag .string
      rw [List.length_append, List.length_append]
      omega

/-- One member of the union is sent at most. -/
theorem length_union_le {limit : ℕ} (hNodup : (entries.map UnionField.which).Nodup)
    (hSmall : ∀ entry ∈ entries, entry.tag < 2 ^ 29)
    (hKnown : ∀ entry ∈ entries, entry.Known limit) (s : σ) :
    ((entries.map (UnionField.field member)).flatMap fun field => field.bytes s).length ≤
      limit := by
  induction entries with
  | nil => exact Nat.zero_le _
  | cons entry rest ih =>
      rw [List.map_cons] at hNodup
      obtain ⟨hEntry, hRest⟩ := List.nodup_cons.mp hNodup
      rw [List.map_cons, List.flatMap_cons, List.length_append]
      cases hUsed : (member.get s).get? entry.which with
      | none =>
          rw [UnionField.bytes_none hUsed, List.length_nil, Nat.zero_add]
          exact ih hRest (fun other hOther => hSmall other (List.mem_cons_of_mem _ hOther))
            fun other hOther => hKnown other (List.mem_cons_of_mem _ hOther)
      | some content =>
          have hNothing : ((rest.map (UnionField.field member)).flatMap
              fun field => field.bytes s) = [] := by
            rw [List.flatMap_eq_nil_iff]
            intro field hField
            obtain ⟨other, hOther, rfl⟩ := List.mem_map.mp hField
            apply UnionField.bytes_none
            have hDiffer : entry.which ≠ other.which := fun hSame =>
              hEntry (hSame ▸ List.mem_map_of_mem hOther)
            rw [Union.eq_of_get? hUsed]
            exact Union.get?_other hDiffer content
          rw [hNothing, List.length_nil, Nat.add_zero]
          exact (hKnown entry List.mem_cons_self).length_le (hSmall entry List.mem_cons_self) s

/-- A message as it is sent in the union. -/
def UnionField.enclose (entry : UnionField Struct) (inner : List UInt8) : List UInt8 :=
  Varint.bytes (8 * entry.tag + PbWireType.string.code) ++
    (Varint.bytes inner.length ++ inner)

/-- The union is all that the struct has. -/
structure Member.IsUnion (member : Member σ (Union Struct)) (zero : σ) : Prop where
  get_zero : member.get zero = .none
  set_get : ∀ source s, member.set (member.get source) s = source

/-- Nothing more is brought over. -/
theorem rebuilds_done (hDone : ∀ entry ∈ entries, (member.get source).get? entry.which = none) :
    Rebuilds (entries.map (UnionField.field member)) source source := by
  induction entries with
  | nil => rfl
  | cons entry rest ih =>
      have hNone := hDone entry List.mem_cons_self
      have hCopy : (entry.field member).copy source source = source := by
        unfold UnionField.field PbField.copy
        dsimp only
        rw [hNone]
      rw [List.map_cons, Rebuilds, hCopy]
      exact ⟨hNone, ih fun other hOther => hDone other (List.mem_cons_of_mem _ hOther)⟩

/-- Among the entries of a union, the one in use is rebuilt, and all others are skipped. -/
theorem rebuilds_union {zero : σ} (hUnion : member.IsUnion zero)
    (hNodup : (entries.map UnionField.which).Nodup)
    (hUsed : ∀ tag, (member.get source).get? tag ≠ none → tag ∈ entries.map UnionField.which) :
    Rebuilds (entries.map (UnionField.field member)) source zero := by
  induction entries with
  | nil =>
      have hNone : member.get source = .none := Union.eq_none_of_get? fun tag =>
        not_not.mp fun hSome => List.not_mem_nil (hUsed tag hSome)
      have hSource := hUnion.set_get source zero
      rw [hNone, ← hUnion.get_zero, hUnion.set_get] at hSource
      exact hSource
  | cons entry rest ih =>
      rw [List.map_cons] at hNodup hUsed
      obtain ⟨hEntry, hRest⟩ := List.nodup_cons.mp hNodup
      have hFresh : (entry.field member).Fresh zero := by
        change (member.get zero).get? entry.which = none
        rw [hUnion.get_zero]
        rfl
      rw [List.map_cons]
      refine ⟨hFresh, ?_⟩
      unfold UnionField.field PbField.copy
      dsimp only
      cases hSome : (member.get source).get? entry.which with
      | none =>
          apply ih hRest
          intro tag hTag
          rcases List.mem_cons.mp (hUsed tag hTag) with rfl | hMem
          · exact absurd hSome hTag
          · exact hMem
      | some content =>
          have hContent := Union.eq_of_get? hSome
          dsimp only
          rw [← hContent, hUnion.set_get]
          apply rebuilds_done
          intro other hOther
          have hDiffer : entry.which ≠ other.which := fun hSame =>
            hEntry (hSame ▸ List.mem_map_of_mem hOther)
          rw [hContent]
          exact Union.get?_other hDiffer content

/-- The field list of a union with lawful messages. -/
structure UnionFields (member : Member σ (Union Struct)) (entries : List (UnionField Struct))
    (zero : σ) (limit : ℕ) : Prop where
  ordered : Ordered (entries.map (UnionField.field member))
  nodup : (entries.map UnionField.which).Nodup
  complete : ∀ tag, tag ∈ entries.map UnionField.which
  known : ∀ entry ∈ entries, entry.Known limit
  union : member.IsUnion zero

namespace UnionFields

variable {zero : σ} {limit : ℕ} (h : UnionFields member entries zero limit)

include h

theorem lawful_fields : ∀ field ∈ entries.map (UnionField.field member), field.Lawful := by
  intro field hField
  obtain ⟨entry, hEntry, rfl⟩ := List.mem_map.mp hField
  exact (h.known entry hEntry).1

theorem bounded : (msgdesc (entries.map (UnionField.field member)) zero).Bounded limit := by
  intro s
  rw [bytes_msgdesc h.ordered h.lawful_fields]
  apply length_union_le h.nodup _ h.known
  intro entry hEntry
  exact h.ordered.small _ (List.mem_map_of_mem hEntry)

theorem lawful (hLimit : limit < 2 ^ 32) :
    (msgdesc (entries.map (UnionField.field member)) zero).Lawful :=
  lawful_msgdesc h.ordered h.lawful_fields
    (fun _ => rebuilds_union h.union h.nodup fun tag _ => h.complete tag)
    fun s => (h.bounded s).trans_lt hLimit

/-- The struct is all zeros, whatever it held before. -/
theorem set_to_defaults (garbage : σ) :
    pbMessageSetToDefaults (entries.map (UnionField.field member)) garbage = zero := by
  have hDefault (entry : UnionField Struct) (s : σ) :
      (entry.field member).setToDefault s = zero := by
    change member.set .none s = zero
    rw [← h.union.get_zero, h.union.set_get]
  rw [pbMessageSetToDefaults, List.foldl_map]
  rcases List.eq_nil_or_concat' entries with hNil | ⟨front, last, rfl⟩
  · have hNone : member.get garbage = .none := Union.eq_none_of_get? fun tag =>
      absurd (h.complete tag) (by simp [hNil])
    rw [hNil, List.foldl_nil, ← h.union.set_get garbage zero, hNone, ← h.union.get_zero,
      h.union.set_get]
  · rw [List.foldl_append, List.foldl_cons, List.foldl_nil, hDefault]

/-- Into a buffer that is large enough for its messages. -/
theorem round_trip {bufsize : ℕ} (hLimit : limit < 2 ^ 32) (hFits : limit ≤ bufsize)
    (s garbage : σ) :
    ∃ payload, (pbEncode (entries.map (UnionField.field member)) s
        (pbOstreamFromBuffer bufsize)).map PbOstream.written = some payload ∧
      payload.length ≤ limit ∧
      pbDecode (entries.map (UnionField.field member)) payload garbage = some s := by
  have hLawful := h.lawful hLimit
  have hLength := h.bounded s
  refine ⟨_, ?_, hLength, ?_⟩
  · have hRoom : 0 + (PbMsgdesc.bytes (msgdesc (entries.map (UnionField.field member)) zero)
        s).length ≤ bufsize := by omega
    have hWrites := hLawful.writes s (pbOstreamFromBuffer bufsize)
    rw [pbWrite_fits rfl hRoom] at hWrites
    exact congrArg (Option.map PbOstream.written) hWrites
  · rw [pbDecode, h.set_to_defaults]
    exact hLawful.decodes s

/-- A message, and records around it that are not known. -/
theorem decodes_enclosed {entry : UnionField Struct} (hEntry : entry ∈ entries)
    {inner : List UInt8} {content : Struct entry.which}
    (hInner : entry.submsg.decodeInner inner entry.submsg.zero = some content)
    (hShort : inner.length < 2 ^ 32) {before after : List (List UInt8)}
    (hBefore : ∀ record ∈ before, Unknown (entries.map UnionField.tag) record)
    (hAfter : ∀ record ∈ after, Unknown (entries.map UnionField.tag) record) (garbage : σ) :
    pbDecode (entries.map (UnionField.field member))
        (before.flatten ++ (entry.enclose inner ++ after.flatten)) garbage =
      some (member.set (.of entry.which content) zero) := by
  have hTags : (entries.map (UnionField.field member)).map PbField.tag =
      entries.map UnionField.tag := List.map_map
  have hStands : Stands (entries.map (UnionField.field member)).length 0 :=
    lt_max_of_lt_left Nat.one_pos
  have hFresh : (member.get zero).get? entry.which = none := by
    rw [h.union.get_zero]
    rfl
  have hMem : PbField.oneof member entry.which entry.submsg entry.tag ∈
      entries.map (UnionField.field member) := List.mem_map_of_mem hEntry
  rw [← hTags] at hBefore hAfter
  rw [pbDecode, h.set_to_defaults, pbDecodeInner_eq h.ordered hStands,
    decodeRecords_unknown hBefore, UnionField.enclose,
    PbField.decodes_submessage h.ordered hMem hFresh hInner hShort]
  have hRest := decodeRecords_unknown hAfter [] (member.set (.of entry.which content) zero)
  rw [List.append_nil, decodeRecords_nil] at hRest
  exact hRest

end UnionFields

end Unions

end EverestCore.Nanopb
