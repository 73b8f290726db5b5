import EverestCore.Data.Decimal
import Mathlib.Logic.Function.Basic

/-! `PersistentStore/main/kvsImpl.cpp`: the key-value store, whose rows hold a value as a text
and the name of its type. The json library and the rounding of a number to a `double` are
parameters. -/
namespace EverestCore.PersistentStore

open Decimal

/-- The bytes of a `std::string`. -/
abbrev Text := List UInt8

/-- What a reader of a C string sees: the bytes up to the first NUL. -/
def cString (text : Text) : Text := text.takeWhile (· ≠ 0)

/-- `boost::variant<boost::blank, Array, Object, bool, double, int, std::string>`. A `double` is
given by the number that it stands for. -/
inductive Value (Array Object : Type) where
  | blank
  | array (value : Array)
  | object (value : Object)
  | bool (value : Bool)
  | double (value : ℚ)
  | int (value : Int32)
  | string (value : Text)

/-- `dump` and `parse` of the json library. A parser may throw. -/
structure Json (Array Object : Type) where
  dumpArray : Array → Text
  dumpObject : Object → Text
  parseArray : Text → Option Array
  parseObject : Text → Option Object

variable {Array Object : Type}

/-- `TypeNameVisitor`. -/
def typeName : Value Array Object → String
  | .blank => "boost::blank"
  | .array _ => "Array"
  | .object _ => "Object"
  | .bool _ => "bool"
  | .double _ => "double"
  | .int _ => "int"
  | .string _ => "std::string"

/-- The nearest integer, the even one of two. -/
def roundHalfEven (q : ℚ) : ℤ :=
  let below := q.floor
  let rest := q - below
  if rest < 1 / 2 then below
  else if 1 / 2 < rest then below + 1
  else if below % 2 = 0 then below else below + 1

/-- A number in units of the sixth decimal. -/
def millionths (value : ℚ) : ℕ := (roundHalfEven (|value| * 1000000)).toNat

/-- `std::to_string` of a `double`: six decimals. -/
def doubleText (value : ℚ) : Text := fixedPoint 6 (value < 0) (millionths value)

/-- `StringValueVisitor`. -/
def stringValue (json : Json Array Object) : Value Array Object → Text
  | .blank => []
  | .array value => json.dumpArray value
  | .object value => json.dumpObject value
  | .bool true => asciiBytes "true"
  | .bool false => asciiBytes "false"
  | .double value => doubleText value
  | .int value => intNumeral value.toInt
  | .string value => value

/-- `std::stod`, with the nearest `double` to a number. -/
def stod (toDouble : ℚ → ℚ) (text : Text) : Option ℚ := (readDecimal? text).map toDouble

/-- `std::stoi` throws when the number is no `int`. -/
def stoi (text : Text) : Option Int32 := do
  let value ← readInt? text
  if -2147483648 ≤ value ∧ value ≤ 2147483647 then some (.ofInt value) else none

/-- The columns `VALUE` and `TYPE`. -/
structure Row where
  value : Text
  type : String

/-- The table `KVS`, by its unique keys. -/
abbrev Database := Text → Option Row

section Handlers

variable (json : Json Array Object) (toDouble : ℚ → ℚ) (db : Database) (key : Text)

/-- All texts are bound as C strings. -/
def handleStore (value : Value Array Object) : Database :=
  Function.update db (cString key) (some ⟨cString (stringValue json value), typeName value⟩)

/-- The value in a row, if no parser throws. -/
def rowValue (row : Row) : Option (Value Array Object) :=
  if row.type = "Array" then (json.parseArray row.value).map .array
  else if row.type = "Object" then (json.parseObject row.value).map .object
  else if row.type = "bool" then
    some (if row.value = asciiBytes "true" then .bool true else .bool false)
  else if row.type = "double" then (stod toDouble row.value).map .double
  else if row.type = "int" then (stoi row.value).map .int
  else if row.type = "std::string" then some (.string row.value)
  else some .blank

def handleLoad : Option (Value Array Object) :=
  match db (cString key) with
  | none => some .blank
  | some row => rowValue json toDouble row

def handleDelete : Database := Function.update db (cString key) none

def handleExists : Bool := (db (cString key)).isSome

end Handlers

/-- The calls of the interface. -/
inductive Call (Array Object : Type) where
  | store (key : Text) (value : Value Array Object)
  | load (key : Text)
  | delete (key : Text)
  | existence (key : Text)

namespace Call

def key : Call Array Object → Text
  | .store key _ | .load key | .delete key | .existence key => key

/-- What a call makes of the database. -/
def perform (json : Json Array Object) (db : Database) : Call Array Object → Database
  | .store key value => handleStore json db key value
  | .delete key => handleDelete db key
  | .load _ | .existence _ => db

end Call

/-- The database after these calls, of which the last comes first, from an empty one on. -/
def after (json : Json Array Object) : List (Call Array Object) → Database
  | [] => fun _ => none
  | call :: earlier => call.perform json (after json earlier)

/-- The value of the last store to a key that no delete of this key has followed. -/
def lastStored : List (Call Array Object) → Text → Option (Value Array Object)
  | [], _ => none
  | .store other value :: earlier, key =>
      if other = key then some value else lastStored earlier key
  | .delete other :: earlier, key => if other = key then none else lastStored earlier key
  | .load _ :: earlier, key | .existence _ :: earlier, key => lastStored earlier key

/-- A parser undoes its `dump`, which escapes control characters. -/
structure Json.Inverse (json : Json Array Object) : Prop where
  array : ∀ value, json.parseArray (json.dumpArray value) = some value
  object : ∀ value, json.parseObject (json.dumpObject value) = some value
  arrayText : ∀ value, ∀ byte ∈ json.dumpArray value, byte ≠ 0
  objectText : ∀ value, ∀ byte ∈ json.dumpObject value, byte ≠ 0

/-- A number, rounded to six decimals. -/
def sixDecimals (value : ℚ) : ℚ :=
  if value < 0 then -((millionths value : ℚ) / 10 ^ 6) else (millionths value : ℚ) / 10 ^ 6

/-- The values whose texts keep them: no string with a NUL, and no `double` that is not the
nearest one to its six decimals. -/
def Kept (toDouble : ℚ → ℚ) : Value Array Object → Prop
  | .double value => toDouble (sixDecimals value) = value
  | .string value => ∀ byte ∈ value, byte ≠ 0
  | .blank | .array _ | .object _ | .bool _ | .int _ => True

theorem cString_eq_self {text : Text} (hText : ∀ byte ∈ text, byte ≠ 0) : cString text = text := by
  have hTaken := @List.takeWhile_append_of_pos _ (fun byte : UInt8 => decide (byte ≠ 0)) text []
    fun byte hByte => decide_eq_true (hText byte hByte)
  rwa [List.append_nil, List.takeWhile_nil, List.append_nil] at hTaken

theorem stod_doubleText (toDouble : ℚ → ℚ) (value : ℚ) :
    stod toDouble (doubleText value) = some (toDouble (sixDecimals value)) := by
  rw [stod, doubleText, readDecimal?_fixedPoint, Option.map_some, sixDecimals]
  simp only [decide_eq_true_eq]

theorem stoi_intNumeral (value : Int32) : stoi (intNumeral value.toInt) = some value := by
  have hRange : -2147483648 ≤ value.toInt ∧ value.toInt ≤ 2147483647 :=
    ⟨value.le_toInt, Int.le_of_lt_add_one value.toInt_lt⟩
  rw [stoi, readInt?_intNumeral]
  change (if -2147483648 ≤ value.toInt ∧ value.toInt ≤ 2147483647 then
    some (Int32.ofInt value.toInt) else none) = some value
  rw [if_pos hRange, Int32.ofInt_toInt]

/-- What has been stored is read back from its row. -/
theorem rowValue_stored {json : Json Array Object} (hJson : json.Inverse) {toDouble : ℚ → ℚ}
    {value : Value Array Object} (hKept : Kept toDouble value) :
    rowValue json toDouble ⟨cString (stringValue json value), typeName value⟩ = some value := by
  cases value with
  | blank => rfl
  | array value =>
      rw [stringValue, cString_eq_self (hJson.arrayText value)]
      exact congrArg (Option.map Value.array) (hJson.array value)
  | object value =>
      rw [stringValue, cString_eq_self (hJson.objectText value)]
      exact congrArg (Option.map Value.object) (hJson.object value)
  | bool value => cases value <;> rfl
  | double value =>
      rw [stringValue, doubleText, cString_eq_self (ne_zero_of_mem_fixedPoint _ _ _)]
      change (stod toDouble (doubleText value)).map Value.double = _
      rw [stod_doubleText, Option.map_some, hKept]
  | int value =>
      rw [stringValue, cString_eq_self (ne_zero_of_mem_intNumeral _)]
      exact congrArg (Option.map Value.int) (stoi_intNumeral value)
  | string value =>
      rw [stringValue, cString_eq_self hKept]
      rfl

/-- The table has the row of the last store, as long as no two keys are one C string. -/
theorem after_eq_lastStored (json : Json Array Object) {history : List (Call Array Object)}
    {key : Text}
    (hKeys : ∀ call ∈ history, cString call.key = cString key → call.key = key) :
    after json history (cString key) = (lastStored history key).map fun value =>
      ⟨cString (stringValue json value), typeName value⟩ := by
  induction history with
  | nil => rfl
  | cons call earlier ih =>
      have hEarlier := ih fun other hOther => hKeys other (List.mem_cons_of_mem _ hOther)
      have hCall := hKeys call List.mem_cons_self
      cases call with
      | store other value =>
          rw [after, Call.perform, handleStore, lastStored]
          by_cases hKey : other = key
          · rw [if_pos hKey, hKey, Function.update_self, Option.map_some]
          · have hOther : cString key ≠ cString other := fun hSame => hKey (hCall hSame.symm)
            rw [if_neg hKey, Function.update_of_ne hOther, hEarlier]
      | delete other =>
          rw [after, Call.perform, handleDelete, lastStored]
          by_cases hKey : other = key
          · rw [if_pos hKey, hKey, Function.update_self, Option.map_none]
          · have hOther : cString key ≠ cString other := fun hSame => hKey (hCall hSame.symm)
            rw [if_neg hKey, Function.update_of_ne hOther, hEarlier]
      | load other | existence other => exact hEarlier

/-- A last value has been stored. -/
theorem exists_store_of_lastStored {history : List (Call Array Object)} {key : Text}
    {value : Value Array Object} (hLast : lastStored history key = some value) :
    ∃ other, Call.store other value ∈ history := by
  induction history with
  | nil => cases hLast
  | cons call earlier ih =>
      have hLater : lastStored earlier key = some value →
          ∃ other, Call.store other value ∈ call :: earlier := fun hEarlier =>
        (ih hEarlier).imp fun other hStored => List.mem_cons_of_mem call hStored
      cases call with
      | store other stored =>
          rw [lastStored] at hLast
          by_cases hKey : other = key
          · rw [if_pos hKey] at hLast
            exact ⟨other, by rw [Option.some.inj hLast]; exact List.mem_cons_self⟩
          · rw [if_neg hKey] at hLast
            exact hLater hLast
      | delete other =>
          rw [lastStored] at hLast
          by_cases hKey : other = key
          · rw [if_pos hKey] at hLast
            cases hLast
          · rw [if_neg hKey] at hLast
            exact hLater hLast
      | load other | existence other => exact hLater hLast

/-- The store is a map, in every run on keys that are different C strings and values that their
texts keep. -/
theorem load_exists_eq_lastStored (json : Json Array Object) (hJson : json.Inverse)
    (toDouble : ℚ → ℚ) (history : List (Call Array Object)) (key : Text)
    (hKeys : ∀ call ∈ history, cString call.key = cString key → call.key = key)
    (hValues : ∀ other value, Call.store other value ∈ history → Kept toDouble value) :
    handleLoad json toDouble (after json history) key =
        some ((lastStored history key).getD .blank) ∧
      handleExists (after json history) key = (lastStored history key).isSome := by
  have hRow := after_eq_lastStored json hKeys
  rw [handleLoad, handleExists, hRow]
  cases hLast : lastStored history key with
  | none => exact ⟨rfl, rfl⟩
  | some value =>
      obtain ⟨other, hStored⟩ := exists_store_of_lastStored hLast
      exact ⟨rowValue_stored hJson (hValues other value hStored), rfl⟩

/-- Arrays and objects that are texts of their own. -/
def plainJson : Json Unit Unit where
  dumpArray _ := asciiBytes "[]"
  dumpObject _ := asciiBytes "\x7b\x7d"
  parseArray _ := some ()
  parseObject _ := some ()

theorem plainJson_inverse : plainJson.Inverse :=
  ⟨fun _ => rfl, fun _ => rfl, fun _ => by simp [plainJson, asciiBytes],
    fun _ => by simp [plainJson, asciiBytes]⟩

/-- A half is stored, and loaded after another key has been deleted. -/
theorem load_exists_eq_lastStored_half :
    let history : List (Call Unit Unit) :=
      [.delete (asciiBytes "other"), .store (asciiBytes "key") (.double (1 / 2))]
    handleLoad plainJson id (after plainJson history) (asciiBytes "key") =
        some ((lastStored history (asciiBytes "key")).getD .blank) ∧
      handleExists (after plainJson history) (asciiBytes "key") =
        (lastStored history (asciiBytes "key")).isSome :=
  load_exists_eq_lastStored plainJson plainJson_inverse id
    [.delete (asciiBytes "other"), .store (asciiBytes "key") (.double (1 / 2))] (asciiBytes "key")
    (by decide) fun other value hStored => by
      rcases List.mem_cons.mp hStored with hDelete | hStored
      · cases hDelete
      · cases List.mem_singleton.mp hStored
        have hHalf : sixDecimals (1 / 2) = 1 / 2 := by decide +kernel
        exact hHalf

/-- The number `2 ^ -21` is loaded as zero. -/
theorem load_exists_eq_lastStored_small :
    ¬∀ (Array Object : Type) (json : Json Array Object), json.Inverse →
      ∀ (toDouble : ℚ → ℚ) (history : List (Call Array Object)) (key : Text),
        handleLoad json toDouble (after json history) key =
            some ((lastStored history key).getD .blank) ∧
          handleExists (after json history) key = (lastStored history key).isSome := by
  intro hAll
  obtain ⟨hLoad, _⟩ := hAll Unit Unit plainJson plainJson_inverse id
    [.store (asciiBytes "key") (.double (1 / 2097152))] (asciiBytes "key")
  have hRow : handleLoad plainJson id (after plainJson
      [.store (asciiBytes "key") (.double (1 / 2097152))]) (asciiBytes "key") =
        (stod id (doubleText (1 / 2097152))).map Value.double := by
    rw [handleLoad, after_eq_lastStored plainJson (by decide)]
    change rowValue plainJson id ⟨cString (doubleText _), "double"⟩ = _
    have hText : cString (doubleText (1 / 2097152)) = doubleText (1 / 2097152) :=
      cString_eq_self (ne_zero_of_mem_fixedPoint _ _ _)
    rw [hText]
    rfl
  rw [hRow, stod_doubleText] at hLoad
  have hValue : sixDecimals (1 / 2097152) = 1 / 2097152 :=
    Value.double.inj (Option.some.inj hLoad)
  exact absurd hValue (by decide +kernel)

end EverestCore.PersistentStore
