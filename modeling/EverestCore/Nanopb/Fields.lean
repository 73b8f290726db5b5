import EverestCore.Nanopb.Istream

/-! The descriptors of messages, and the walks of nanopb over them. What is here are the kinds of
fields that the messages of the serial links have: numbers, strings and messages in a union. -/
namespace EverestCore.Nanopb
open StreamReader

/-- The types of single fields. -/
inductive PbLtype where
  | bool
  | varint
  | uvarint
  | fixed32
  | string (maxLength : ℕ)

namespace PbLtype

abbrev Data : PbLtype → Type
  | bool => Bool
  | varint => BitVec 32
  | uvarint => BitVec 32
  | fixed32 => BitVec 32
  | string maxLength => CString (maxLength + 1)

/-- What `memset` leaves. -/
def zero : (ltype : PbLtype) → ltype.Data
  | bool => false
  | varint => 0#32
  | uvarint => 0#32
  | fixed32 => 0#32
  | string _ => ⟨[], List.not_mem_nil, Nat.succ_pos _⟩

/-- The wire types of `pb_encode_tag_for_field`. -/
def wireType : PbLtype → PbWireType
  | bool => .varint
  | varint => .varint
  | uvarint => .varint
  | fixed32 => .bit32
  | string _ => .string

/-- `pb_check_proto3_default_value`. -/
def isDefault : (ltype : PbLtype) → ltype.Data → Bool
  | bool, value => !value
  | varint, value => value == 0#32
  | uvarint, value => value == 0#32
  | fixed32, value => value == 0#32
  | string _, value => value.bytes.isEmpty

/-- The encoders that `encode_basic_field` selects. -/
def encode : (ltype : PbLtype) → ltype.Data → PbOstream → Option PbOstream
  | bool, value => pbEncodeVarint (if value then 1 else 0)
  | varint, value => pbEncodeVarint (BitVec.signExtend 64 value)
  | uvarint, value => pbEncodeVarint (BitVec.setWidth 64 value)
  | fixed32, value => pbEncodeFixed32 value
  | string _, value => pbEncodeString value.bytes

/-- The decoders that `decode_basic_field` selects. -/
def decode : (ltype : PbLtype) → PbReader ltype.Data
  | bool => pbDecodeBool
  | varint => pbDecVarint
  | uvarint => pbDecUvarint
  | fixed32 => pbDecodeFixed32
  | string maxLength => pbDecString (maxLength + 1)

end PbLtype

/-- A member of a struct. -/
structure Member (σ α : Type) where
  get : σ → α
  set : α → σ → σ

/-- A union together with the field that tells which of its members is in use, if any. -/
def Union {Tag : Type} (Struct : Tag → Type) : Type := Option ((tag : Tag) × Struct tag)

namespace Union

variable {Tag : Type} {Struct : Tag → Type}

/-- No member is in use. -/
def none : Union Struct := Option.none

def of (tag : Tag) (content : Struct tag) : Union Struct := some ⟨tag, content⟩

def get? [DecidableEq Tag] (union : Union Struct) (tag : Tag) : Option (Struct tag) :=
  match union with
  | Option.none => Option.none
  | some ⟨used, content⟩ => if hUsed : used = tag then some (hUsed ▸ content) else Option.none

end Union

/-- What stands for `pb_msgdesc_t` in a field: a struct of zeros, the tags of the fields, and
`pb_encode` and `pb_decode_inner` for them. -/
structure PbMsgdesc (σ : Type) where
  zero : σ
  tags : List ℕ
  encode : σ → PbOstream → Option PbOstream
  decodeInner : List UInt8 → σ → Option σ

/-- An entry of a field list: `STATIC, SINGULAR`, or `STATIC, ONEOF, MESSAGE`. -/
inductive PbField (σ : Type) : Type 1 where
  | singular (ltype : PbLtype) (member : Member σ ltype.Data) (tag : ℕ)
  | oneof {Tag : Type} {Struct : Tag → Type} [DecidableEq Tag] (member : Member σ (Union Struct))
      (which : Tag) (submsg : PbMsgdesc (Struct which)) (tag : ℕ)

namespace PbField

variable {σ : Type}

def tag : PbField σ → ℕ
  | singular _ _ tag => tag
  | oneof _ _ _ tag => tag

/-- `encode_field`. -/
def encodeField (field : PbField σ) (s : σ) (stream : PbOstream) : Option PbOstream :=
  match field with
  | singular ltype member tag =>
      if ltype.isDefault (member.get s) then some stream
      else (pbEncodeTag ltype.wireType tag stream).bind (ltype.encode (member.get s))
  | oneof member which submsg tag =>
      match (member.get s).get? which with
      | none => some stream
      | some content =>
          (pbEncodeTag .string tag stream).bind (pbEncodeSubmessage (submsg.encode content))

/-- `pb_field_set_to_default`. -/
def setToDefault (field : PbField σ) (s : σ) : σ :=
  match field with
  | singular ltype member _ => member.set ltype.zero s
  | oneof member _ _ _ => member.set Union.none s

/-- `decode_field`. A member of a union that is not in use is set to zeros first. -/
def decodeField (field : PbField σ) (wireType : PbWireType) (s : σ) : PbReader σ :=
  match field with
  | singular ltype member _ => do
      ensure (wireType = ltype.wireType)
      let value ← ltype.decode
      pure (member.set value s)
  | oneof member which submsg _ => do
      ensure (wireType = .string)
      let substream ← pbStringSubstream
      match submsg.decodeInner substream (((member.get s).get? which).getD submsg.zero) with
      | none => fail
      | some content => pure (member.set (.of which content) s)

end PbField

/-- `advance_iterator`. -/
def advanceIterator (count index : ℕ) : ℕ := if count ≤ index + 1 then 0 else index + 1

/-- The loop of `pb_field_iter_find`, with a bound on the rounds. -/
def findLoop (tags : List ℕ) (tag start : ℕ) : ℕ → ℕ → Bool × ℕ
  | 0, index => (false, index)
  | rounds + 1, index =>
      let next := advanceIterator tags.length index
      if tags[next]? = some tag then (true, next)
      else if next ≠ start then findLoop tags tag start rounds next
      else (false, next)

/-- `pb_field_iter_find`: whether there is a field with the tag, and where the iterator stands.
`largest_tag` is the tag of the last field. -/
def pbFieldIterFind (tags : List ℕ) (index tag : ℕ) : Bool × ℕ :=
  if tags.getD index 0 = tag then (true, index)
  else if tags.getLastD 0 < tag then (false, index)
  else
    findLoop tags tag index (tags.length + 1)
      (if tag < tags.getD index 0 then tags.length else index)

section Messages

variable {σ : Type} (fields : List (PbField σ))

/-- `pb_encode`. -/
def pbEncode (s : σ) (stream : PbOstream) : Option PbOstream :=
  fields.foldlM (fun stream field => field.encodeField s stream) stream

/-- `pb_message_set_to_defaults`. -/
def pbMessageSetToDefaults (s : σ) : σ := fields.foldl (fun s field => field.setToDefault s) s

/-- A round of the loop of `pb_decode_inner`, with the position of the iterator. -/
def decodeRound (index : ℕ) (s : σ) : PbReader (ℕ × σ) := do
  let (wireType, tag) ← pbDecodeTag
  ensure (tag ≠ 0)
  let found := pbFieldIterFind (fields.map PbField.tag) index tag
  match if found.1 then fields[found.2]? else none with
  | none => do
      pbSkipField wireType
      pure (found.2, s)
  | some field => do
      let s ← field.decodeField wireType s
      pure (found.2, s)

end Messages

section Decode

variable {σ : Type} {fields : List (PbField σ)}

/-- A field is decoded from its own bytes, by one of the local readers. -/
theorem PbField.local_decodeField (field : PbField σ) (wireType : PbWireType) (s : σ) :
    (field.decodeField wireType s).Local := by
  cases field with
  | singular ltype member tag =>
      have hDecode : ltype.decode.Local := by
        cases ltype with
        | bool => exact local_decodeBool
        | varint => exact local_decVarint
        | uvarint => exact local_decUvarint
        | fixed32 => exact local_decodeFixed32
        | string maxLength => exact local_decString _
      exact (local_ensure _).bind fun _ => hDecode.bind fun _ => local_pure _
  | oneof member which submsg tag =>
      apply (local_ensure _).bind
      intro _
      apply local_stringSubstream.bind
      intro substream
      cases submsg.decodeInner substream (((member.get s).get? which).getD submsg.zero) with
      | none => exact local_fail
      | some content => exact local_pure _

/-- Each round of the decoder takes at least the tag, so that it ends. -/
theorem decodeRound_shorter {index : ℕ} {s : σ} {stream rest : List UInt8} {result : ℕ × σ}
    (h : (decodeRound fields index s).run stream = some (result, rest)) :
    rest.length < stream.length := by
  obtain ⟨tag, left, hTag, hRest⟩ := run_bind_eq_some h
  have hLocal (next : PbReader (ℕ × σ)) (hNext : next.Local)
      (hRun : next.run left = some (result, rest)) : rest.length < stream.length :=
    (hNext.length_le hRun).trans_lt (decodeTag_shorter hTag)
  apply hLocal _ _ hRest
  apply (local_ensure _).bind
  intro _
  dsimp only
  split
  · exact (local_skipField _).bind fun _ => local_pure _
  · exact (PbField.local_decodeField _ _ _).bind fun _ => local_pure _

end Decode

/-- `pb_decode_inner`, for a struct that is initialised. -/
def pbDecodeInner {σ : Type} (fields : List (PbField σ)) (index : ℕ) (stream : List UInt8)
    (s : σ) : Option σ :=
  if stream = [] then some s
  else
    match _hRound : (decodeRound fields index s).run stream with
    | none => none
    | some ((next, s), rest) => pbDecodeInner fields next rest s
termination_by stream.length
decreasing_by exact decodeRound_shorter _hRound

/-- The descriptor of a message with these fields. -/
def msgdesc {σ : Type} (fields : List (PbField σ)) (zero : σ) : PbMsgdesc σ where
  zero := zero
  tags := fields.map PbField.tag
  encode := pbEncode fields
  decodeInner := pbDecodeInner fields 0

/-- `pb_decode`. The struct may hold anything before. -/
def pbDecode {σ : Type} (fields : List (PbField σ)) (stream : List UInt8) (s : σ) : Option σ :=
  pbDecodeInner fields 0 stream (pbMessageSetToDefaults fields s)

/-! The iterator finds every field, wherever it stands. -/

/-- The places that the loop still looks at. -/
def Ahead (count start index place : ℕ) : Prop :=
  place < count ∧ (index < place ∧ (index < start → place ≤ start) ∨
    start ≤ index ∧ place ≤ start)

/-- The search of the iterator goes once around the fields, from the one it stands on. -/
theorem findLoop_spec {tags : List ℕ} {tag start : ℕ} (hStart : start < tags.length)
    {rounds index : ℕ} (hIndex : index ≤ tags.length)
    (hRounds : (if index < start then start - index
      else max 1 (tags.length - index) + start) < rounds) :
    (∃ place, tags[place]? = some tag ∧ findLoop tags tag start rounds index = (true, place)) ∨
      (∀ place, Ahead tags.length start index place → tags[place]? ≠ some tag) ∧
        findLoop tags tag start rounds index = (false, start) := by
  induction rounds generalizing index with
  | zero => exact absurd hRounds (Nat.not_lt_zero _)
  | succ rounds ih =>
      rw [findLoop]
      by_cases hFound : tags[advanceIterator tags.length index]? = some tag
      · rw [if_pos hFound]
        exact Or.inl ⟨_, hFound, rfl⟩
      · rw [if_neg hFound]
        by_cases hDone : advanceIterator tags.length index = start
        · rw [if_neg (not_not.mpr hDone)]
          right
          constructor
          · intro place hAhead hTag
            have hPlace : place = advanceIterator tags.length index := by
              unfold Ahead at hAhead
              unfold advanceIterator at hDone ⊢
              split at hDone <;> split <;> omega
            exact hFound (hPlace ▸ hTag)
          · rw [hDone]
        · rw [if_pos hDone]
          have hNext : advanceIterator tags.length index < tags.length := by
            unfold advanceIterator
            split <;> omega
          have hRest : (if advanceIterator tags.length index < start
              then start - advanceIterator tags.length index
              else max 1 (tags.length - advanceIterator tags.length index) + start) < rounds := by
            unfold advanceIterator at hDone ⊢
            split_ifs at hRounds hDone ⊢ <;> omega
          rcases ih hNext.le hRest with hSome | ⟨hNone, hResult⟩
          · exact Or.inl hSome
          · right
            constructor
            · intro place hAhead hTag
              by_cases hPlace : place = advanceIterator tags.length index
              · exact hFound (hPlace ▸ hTag)
              · apply hNone place _ hTag
                unfold Ahead at hAhead ⊢
                unfold advanceIterator at hDone hPlace ⊢
                split_ifs at hDone hPlace ⊢ <;> omega
            · exact hResult

/-- The iterator stands at a field, if there is any. -/
def Stands (count index : ℕ) : Prop := index < max 1 count

/-- The search finds the field with a tag, if there is one, and otherwise comes back to where it
was. -/
theorem pbFieldIterFind_spec {tags : List ℕ} (hOrdered : tags.Pairwise (· < ·)) {index tag : ℕ}
    (hIndex : Stands tags.length index) (hTag : tag ≠ 0) :
    (∃ place, tags[place]? = some tag ∧ pbFieldIterFind tags index tag = (true, place)) ∨
      tag ∉ tags ∧ pbFieldIterFind tags index tag = (false, index) := by
  unfold pbFieldIterFind
  rcases Nat.eq_zero_or_pos tags.length with hEmpty | hSome
  · obtain rfl := List.length_eq_zero_iff.mp hEmpty
    right
    rw [if_neg (by simpa using hTag.symm), if_pos (by simpa using Nat.pos_of_ne_zero hTag)]
    exact ⟨List.not_mem_nil, rfl⟩
  · have hStart : index < tags.length := by
      unfold Stands at hIndex
      omega
    have hCurrent : tags.getD index 0 = tags[index] := by
      rw [List.getD_eq_getElem?_getD, List.getElem?_eq_getElem hStart, Option.getD_some]
    have hMono (i j : ℕ) (hi : i < tags.length) (hj : j < tags.length) (hLess : i < j) :
        tags[i] < tags[j] := List.pairwise_iff_getElem.mp hOrdered i j hi hj hLess
    rw [hCurrent]
    by_cases hHere : tags[index] = tag
    · rw [if_pos hHere]
      exact Or.inl ⟨index, by rw [List.getElem?_eq_getElem hStart, hHere], rfl⟩
    · rw [if_neg hHere]
      by_cases hLarge : tags.getLastD 0 < tag
      · rw [if_pos hLarge]
        refine Or.inr ⟨fun hMem => ?_, rfl⟩
        obtain ⟨place, hPlace, rfl⟩ := List.getElem_of_mem hMem
        have hLast : tags.getLastD 0 = tags[tags.length - 1] := by
          rw [List.getLastD_eq_getLast?, List.getLast?_eq_getElem?,
            List.getElem?_eq_getElem (by omega), Option.getD_some]
        rw [hLast] at hLarge
        rcases Nat.lt_or_ge place (tags.length - 1) with hBefore | hEnd
        · have hLess := hMono place (tags.length - 1) hPlace (by omega) hBefore
          exact absurd hLess (Nat.lt_asymm hLarge)
        · obtain rfl : place = tags.length - 1 := by omega
          exact absurd hLarge (Nat.lt_irrefl _)
      · rw [if_neg hLarge]
        have hFrom : (if tag < tags[index] then tags.length else index) ≤ tags.length := by
          split <;> omega
        have hRounds : (if (if tag < tags[index] then tags.length else index) < index
            then index - (if tag < tags[index] then tags.length else index)
            else max 1 (tags.length - (if tag < tags[index] then tags.length else index)) + index) <
              tags.length + 1 := by
          split_ifs <;> omega
        rcases findLoop_spec hStart hFrom hRounds with hSome | ⟨hNone, hResult⟩
        · exact Or.inl hSome
        · refine Or.inr ⟨fun hMem => ?_, hResult⟩
          obtain ⟨place, hPlace, hEq⟩ := List.getElem_of_mem hMem
          apply hNone place _ (by rw [List.getElem?_eq_getElem hPlace, hEq])
          -- the tags are in order, so a smaller one stands before the iterator
          unfold Ahead
          rcases Nat.lt_trichotomy place index with hBefore | rfl | hBehind
          · have hLess := hMono place index hPlace hStart hBefore
            rw [hEq] at hLess
            rw [if_pos hLess]
            omega
          · exact absurd hEq hHere
          · have hMore := hMono index place hStart hPlace hBehind
            rw [hEq] at hMore
            rw [if_neg (Nat.lt_asymm hMore)]
            omega

end EverestCore.Nanopb
