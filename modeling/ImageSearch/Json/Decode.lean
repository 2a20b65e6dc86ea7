import ImageSearch.Json.Draft
import ImageSearch.Number.Shortest
import ImageSearch.Text.Quoted

set_option autoImplicit false

namespace ImageSearch.Json

open ImageSearch.Text

inductive Found where
  | integer (n : Int)
  | float (x : Float)
  | string (s : String)
  | boolean (b : Bool)
  | null
  | sequence
  | map
  deriving Repr

def Found.describe : Found → String
  | .integer n => s!"integer `{n}`"
  | .float x => s!"floating point `{Number.shortestText x}`"
  | .string s => s!"string {quoted s}"
  | .boolean b => s!"boolean `{b}`"
  | .null => "null"
  | .sequence => "sequence"
  | .map => "map"

inductive DecodeError where
  | malformed
  | missingField (name : String)
  | duplicateField (name : String)
  | unknownField (name : String) (known : List String)
  | unknownVariant (name : String) (known : List String)
  | invalidType (found : Found) (expected : String)
  | invalidValue (found : Found) (expected : String)
  | invalidLength (length : Nat) (expected : String)
  deriving Repr

def ticked (name : String) : String := s!"`{name}`"

/-- An enumeration of names: one alone, two with "or", more after "one of". -/
def oneOf : List String → String
  | [] => ""
  | [a] => ticked a
  | [a, b] => s!"{ticked a} or {ticked b}"
  | names => "one of " ++ ", ".intercalate (names.map ticked)

def DecodeError.message : DecodeError → String
  | .malformed => "invalid JSON"
  | .missingField name => s!"missing field {ticked name}"
  | .duplicateField name => s!"duplicate field {ticked name}"
  | .unknownField name known => s!"unknown field {ticked name}, expected {oneOf known}"
  | .unknownVariant name known => s!"unknown variant {ticked name}, expected {oneOf known}"
  | .invalidType found expected => s!"invalid type: {found.describe}, expected {expected}"
  | .invalidValue found expected => s!"invalid value: {found.describe}, expected {expected}"
  | .invalidLength length expected => s!"invalid length {length}, expected {expected}"

/-- Where a draft comes from: a text, in which containers nest less than `depth` deep and an extra
item is a flaw, or a value in memory. -/
inductive Source where
  | text (depth : Nat)
  | memory
  deriving Repr, DecidableEq

/-- The number of containers around which no text is read. -/
def maxDepth : Nat := 128

def Source.enter : Source → Except DecodeError Source
  | .text depth => if depth ≤ 1 then .error .malformed else .ok (.text (depth - 1))
  | .memory => .ok .memory

/-- The error for an array of `length` items in place of a shorter one. -/
def Source.leftover (length : Nat) : Source → DecodeError
  | .text _ => .malformed
  | .memory => .invalidLength length "fewer elements in array"

/-- The first thing that does not fit, from left to right, is the error; a flaw of the text counts
where it is met. -/
abbrev Decoder (α : Type) := Source → Draft → Except DecodeError α

def Draft.found? : Draft → Option Found
  | .null => some .null
  | .bool b => some (.boolean b)
  | .number (some (.int n)) => some (.integer n)
  | .number (some (.float x)) => some (.float x)
  | .string (some s) => some (.string s)
  | .array _ _ => some .sequence
  | .object _ _ => some .map
  | .number none | .string none | .broken => none

def Draft.mismatch (d : Draft) (expected : String) : DecodeError :=
  match d.found? with
  | some found => .invalidType found expected
  | none => .malformed

mutual

def Draft.sound : Draft → Bool
  | .null | .bool _ | .number _ | .string _ => true
  | .array items closed => closed && soundItems items
  | .object members closed => closed && soundMembers members
  | .broken => false

def soundItems : List Draft → Bool
  | [] => true
  | item :: rest => item.sound && soundItems rest

def soundMembers : List (Option String × Draft) → Bool
  | [] => true
  | (_, value) :: rest => value.sound && soundMembers rest

end

def decodeString (expected : String) : Decoder String := fun _ d =>
  match d with
  | .string (some s) => .ok s
  | d => .error (d.mismatch expected)

def decodeFloat : Decoder Float := fun _ d =>
  match d with
  | .number (some (.float x)) => .ok x
  | .number (some (.int n)) => .ok (Float.ofInt n)
  | d => .error (d.mismatch "f64")

/-- A whole number of 64 bits without sign. -/
def decodeWord : Decoder Nat := fun _ d =>
  match d with
  | .number (some (.int n)) =>
    if n < 0 then .error (.invalidValue (.integer n) "u64") else .ok n.toNat
  | d => .error (d.mismatch "u64")

def decodeOption {α : Type} (item : Decoder α) : Decoder (Option α) := fun source d =>
  match d with
  | .null => .ok none
  | d => some <$> item source d

def decodeList {α : Type} (item : Decoder α) : Decoder (List α) := fun source d =>
  match d with
  | .array items closed => do
    let inner ← source.enter
    let decoded ← items.mapM (item inner)
    if closed then return decoded else throw .malformed
  | d => .error (d.mismatch "a sequence")

def decodePair {α : Type} (item : Decoder α) : Decoder (α × α) := fun source d =>
  let expected := "an array of length 2"
  match d with
  | .array items closed => do
    let inner ← source.enter
    let short (n : Nat) : DecodeError :=
      if closed then .invalidLength n expected else .malformed
    match items with
    | [] => throw (short 0)
    | a :: more =>
      let x ← item inner a
      match more with
      | [] => throw (short 1)
      | b :: extra =>
        let y ← item inner b
        if extra.isEmpty then
          if closed then return (x, y) else throw .malformed
        else throw (source.leftover items.length)
  | d => .error (d.mismatch "an array of length 2")

/-- One field of a record: its names, the first of which errors show, whether it must be there,
and what its value does to the record. -/
structure Field (σ : Type) where
  names : List String
  required : Bool
  put : Source → Draft → σ → Except DecodeError σ

def Field.name {σ : Type} (f : Field σ) : String := f.names.headD ""

/-- A record type: `label` is its name in errors, and a strict record has no other fields. -/
structure Schema (σ : Type) where
  label : String
  strict : Bool
  fields : List (Field σ)

def Schema.fieldNames {σ : Type} (s : Schema σ) : List String :=
  s.fields.flatMap Field.names

/-- Members in their order; `seen` holds the fields that have a value already. -/
def Schema.readMembers {σ : Type} (s : Schema σ) (source : Source) (seen : List String) (record : σ) :
    List (Option String × Draft) → Except DecodeError (List String × σ)
  | [] => .ok (seen, record)
  | (none, _) :: _ => .error .malformed
  | (some key, value) :: rest =>
    match s.fields.find? (·.names.contains key) with
    | some field =>
      if seen.contains field.name then .error (.duplicateField field.name)
      else do
        let record ← field.put source value record
        s.readMembers source (field.name :: seen) record rest
    | none =>
      if s.strict then .error (.unknownField key s.fieldNames)
      else if value.sound then s.readMembers source seen record rest
      else .error .malformed

/-- Items as the values of the fields in their order. -/
def Schema.readItems {σ : Type} (s : Schema σ) (source : Source) (closed : Bool) (index : Nat)
    (record : σ) : List (Field σ) → List Draft → Except DecodeError (List Draft × σ)
  | [], items => .ok (items, record)
  | field :: fields, item :: items => do
    let record ← field.put source item record
    s.readItems source closed (index + 1) record fields items
  | field :: fields, [] =>
    if !closed then .error .malformed
    else if field.required then
      .error (.invalidLength index s!"{s.label} with {s.fields.length} elements")
    else s.readItems source closed (index + 1) record fields []

/-- A record given as an object, or as the array of its fields. -/
def Schema.decode {σ : Type} (s : Schema σ) (empty : σ) : Decoder σ := fun source d =>
  match d with
  | .object members closed => do
    let inner ← source.enter
    let (seen, record) ← s.readMembers inner [] empty members
    if !closed then throw .malformed
    match s.fields.find? fun f => f.required && !seen.contains f.name with
    | some field => throw (.missingField field.name)
    | none => return record
  | .array items closed => do
    let inner ← source.enter
    let (extra, record) ← s.readItems inner closed 0 empty s.fields items
    if !extra.isEmpty then throw (source.leftover items.length)
    if !closed then throw .malformed
    return record
  | d => .error (d.mismatch s.label)

mutual

def Draft.toValue (source : Source) : Draft → Except DecodeError Value
  | .null => .ok .null
  | .bool b => .ok (.bool b)
  | .number (some n) => .ok (.number n)
  | .string (some s) => .ok (.string s)
  | .array items closed => do
    let inner ← source.enter
    let values ← toValues inner items
    if closed then return .array values else throw .malformed
  | .object members closed => do
    let inner ← source.enter
    let values ← toMembers inner members
    if closed then return Value.ofMembers values else throw .malformed
  | .number none | .string none | .broken => .error .malformed

def toValues (source : Source) : List Draft → Except DecodeError (List Value)
  | [] => .ok []
  | item :: rest => do
    let value ← item.toValue source
    return value :: (← toValues source rest)

def toMembers (source : Source) :
    List (Option String × Draft) → Except DecodeError (List (String × Value))
  | [] => .ok []
  | (none, _) :: _ => .error .malformed
  | (some key, item) :: rest => do
    let value ← item.toValue source
    return (key, value) :: (← toMembers source rest)

end

mutual

def Value.toDraft : Value → Draft
  | .null => .null
  | .bool b => .bool b
  | .number n => .number (some n)
  | .string s => .string (some s)
  | .array items => .array (toDrafts items) true
  | .object members => .object (toDraftMembers members) true

def toDrafts : List Value → List Draft
  | [] => []
  | item :: rest => item.toDraft :: toDrafts rest

def toDraftMembers : List (String × Value) → List (Option String × Draft)
  | [] => []
  | (key, value) :: rest => (some key, value.toDraft) :: toDraftMembers rest

end

/-- Reads a whole text: nothing may follow the value. -/
def decodeText {α : Type} (decoder : Decoder α) (s : String) : Except DecodeError α := do
  let reading := Reading.ofText s
  let result ← decoder (.text maxDepth) reading.draft
  if reading.ended then return result else throw .malformed

def decodeValue {α : Type} (decoder : Decoder α) (v : Value) : Except DecodeError α :=
  decoder .memory v.toDraft

end ImageSearch.Json
