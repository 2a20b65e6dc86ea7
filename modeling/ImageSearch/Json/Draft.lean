import ImageSearch.Json.Numeral

set_option autoImplicit false

namespace ImageSearch.Json

/-- A text read as far as it is well formed, so that a flaw further on does not hide what a reader
meets first. A number is absent when it is too large for a double, a string when its escapes name
half of a surrogate pair; both are well formed and may be skipped, but not read. -/
inductive Draft where
  | null
  | bool (b : Bool)
  | number (value? : Option Number)
  | string (text? : Option String)
  | array (items : List Draft) (closed : Bool)
  | object (members : List (Option String × Draft)) (closed : Bool)
  | broken
  deriving Repr

/-- One piece of a string: a character, or an escape with four hexadecimal digits. -/
inductive Piece where
  | char (c : Char)
  | unit (n : Nat)
  deriving Repr, DecidableEq

def isJsonBlank (c : Char) : Bool := c == ' ' || c == '\n' || c == '\t' || c == '\r'

def skipBlank (cs : List Char) : List Char := cs.dropWhile isJsonBlank

def hexValue? (c : Char) : Option Nat :=
  if '0' ≤ c ∧ c ≤ '9' then some (c.toNat - '0'.toNat)
  else if 'a' ≤ c ∧ c ≤ 'f' then some (c.toNat - 'a'.toNat + 10)
  else if 'A' ≤ c ∧ c ≤ 'F' then some (c.toNat - 'A'.toNat + 10)
  else none

def hexUnit? (a b c d : Char) : Option Nat := do
  return ((← hexValue? a) * 16 + (← hexValue? b)) * 256 + (← hexValue? c) * 16 + (← hexValue? d)

def simpleEscape? : Char → Option Char
  | '"' => some '"'
  | '\\' => some '\\'
  | '/' => some '/'
  | 'b' => some '\x08'
  | 'f' => some '\x0c'
  | 'n' => some '\n'
  | 'r' => some '\r'
  | 't' => some '\t'
  | _ => none

def readPieces : List Char → Option (List Piece × List Char)
  | [] => none
  | '"' :: rest => some ([], rest)
  | '\\' :: 'u' :: a :: b :: c :: d :: rest => do
    let n ← hexUnit? a b c d
    let (pieces, after) ← readPieces rest
    return (.unit n :: pieces, after)
  | '\\' :: e :: rest => do
    let c ← simpleEscape? e
    let (pieces, after) ← readPieces rest
    return (.char c :: pieces, after)
  | ['\\'] => none
  | c :: rest =>
    if c.toNat < 32 then none
    else do
      let (pieces, after) ← readPieces rest
      return (.char c :: pieces, after)

def isHighSurrogate (n : Nat) : Bool := 0xD800 ≤ n && n ≤ 0xDBFF

def isLowSurrogate (n : Nat) : Bool := 0xDC00 ≤ n && n ≤ 0xDFFF

/-- The characters of a string; surrogates must come in pairs. -/
def joinPieces : List Piece → Option (List Char)
  | [] => some []
  | .char c :: rest => (joinPieces rest).map (c :: ·)
  | .unit high :: .unit low :: rest =>
    if isHighSurrogate high && isLowSurrogate low then
      (joinPieces rest).map (Char.ofNat ((high - 0xD800) * 0x400 + (low - 0xDC00) + 0x10000) :: ·)
    else if isHighSurrogate high || isLowSurrogate high then none
    else (joinPieces (.unit low :: rest)).map (Char.ofNat high :: ·)
  | .unit n :: rest =>
    if isHighSurrogate n || isLowSurrogate n then none
    else (joinPieces rest).map (Char.ofNat n :: ·)

def readString (cs : List Char) : Option (Option String × List Char) :=
  (readPieces cs).map fun (pieces, rest) => ((joinPieces pieces).map String.ofList, rest)

def readDigits (cs : List Char) : Option (List Char × List Char) :=
  let digits := cs.takeWhile Char.isDigit
  if digits.isEmpty then none else some (digits, cs.dropWhile Char.isDigit)

/-- The whole part has no leading zero. -/
def readWhole (cs : List Char) : Option (List Char × List Char) := do
  let (digits, rest) ← readDigits cs
  if digits.length > 1 ∧ digits.head? = some '0' then none else return (digits, rest)

def readFraction : List Char → Option (List Char × List Char)
  | '.' :: rest => readDigits rest
  | cs => some ([], cs)

def readExponent : List Char → Option (Option (Bool × List Char) × List Char)
  | c :: rest =>
    if c = 'e' ∨ c = 'E' then do
      let (negative, unsigned) := match rest with
        | '-' :: r => (true, r)
        | '+' :: r => (false, r)
        | r => (false, r)
      let (digits, after) ← readDigits unsigned
      return (some (negative, digits), after)
    else some (none, c :: rest)
  | [] => some (none, [])

def readNumeral (cs : List Char) : Option (Numeral × List Char) := do
  let (negative, unsigned) := match cs with
    | '-' :: r => (true, r)
    | r => (false, r)
  let (whole, rest) ← readWhole unsigned
  let (fraction, rest) ← readFraction rest
  let (exponent, rest) ← readExponent rest
  return (⟨negative, whole, fraction, exponent⟩, rest)

def expect : List Char → List Char → Option (List Char)
  | [], cs => some cs
  | w :: ws, c :: cs => if w = c then expect ws cs else none
  | _ :: _, [] => none

def readWord (word : String) (draft : Draft) (cs : List Char) : Draft × Option (List Char) :=
  match expect word.toList cs with
  | some rest => (draft, some rest)
  | none => (.broken, none)

def readScalar (cs : List Char) : Draft × Option (List Char) :=
  match cs with
  | 'n' :: _ => readWord "null" .null cs
  | 't' :: _ => readWord "true" (.bool true) cs
  | 'f' :: _ => readWord "false" (.bool false) cs
  | '"' :: rest =>
    match readString rest with
    | some (text?, after) => (.string text?, some after)
    | none => (.broken, none)
  | _ =>
    match readNumeral cs with
    | some (numeral, after) => (.number numeral.value?, some after)
    | none => (.broken, none)

mutual

/-- A value at the front of a text, and the rest unless the text is flawed. -/
def readValue : Nat → List Char → Draft × Option (List Char)
  | 0, _ => (.broken, none)
  | fuel + 1, cs =>
    match skipBlank cs with
    | [] => (.broken, none)
    | c :: rest =>
      if c = '[' then
        let (items, after?) :=
          match skipBlank rest with
          | ']' :: after => ([], some after)
          | _ => readItems fuel rest
        (.array items after?.isSome, after?)
      else if c = openBrace then
        let (members, after?) :=
          match skipBlank rest with
          | [] => ([], none)
          | d :: after => if d = closeBrace then ([], some after) else readMembers fuel rest
        (.object members after?.isSome, after?)
      else readScalar (c :: rest)

def readItems : Nat → List Char → List Draft × Option (List Char)
  | 0, _ => ([.broken], none)
  | fuel + 1, cs =>
    match readValue fuel cs with
    | (item, none) => ([item], none)
    | (item, some rest) =>
      match skipBlank rest with
      | ']' :: after => ([item], some after)
      | ',' :: after =>
        match skipBlank after with
        | ']' :: _ => ([item], none)
        | _ =>
          let (items, after?) := readItems fuel after
          (item :: items, after?)
      | _ => ([item], none)

def readMembers : Nat → List Char → List (Option String × Draft) × Option (List Char)
  | 0, _ => ([], none)
  | fuel + 1, cs =>
    match skipBlank cs with
    | '"' :: rest =>
      match readString rest with
      | none => ([], none)
      | some (key, afterKey) =>
        match skipBlank afterKey with
        | ':' :: valueText =>
          match readValue fuel valueText with
          | (value, none) => ([(key, value)], none)
          | (value, some after) =>
            match skipBlank after with
            | ',' :: next =>
              let (members, after?) := readMembers fuel next
              ((key, value) :: members, after?)
            | c :: closed => ([(key, value)], if c = closeBrace then some closed else none)
            | [] => ([(key, value)], none)
        | _ => ([(key, .broken)], none)
    | _ => ([], none)

end

/-- A whole text; `ended` tells that nothing but white space follows the value. -/
structure Reading where
  draft : Draft
  ended : Bool
  deriving Repr

def Reading.ofText (s : String) : Reading :=
  let cs := s.toList
  match readValue (2 * cs.length + 2) cs with
  | (draft, some rest) => ⟨draft, (skipBlank rest).isEmpty⟩
  | (draft, none) => ⟨draft, false⟩

end ImageSearch.Json
