import ImageSearch.Json.Draft

set_option autoImplicit false

namespace ImageSearch.Yaml

structure Cursor where
  column : Nat
  rest : List Char
  deriving Repr, DecidableEq

def isLineBlank (c : Char) : Bool := c == ' ' || c == '\t'

def endsToken : List Char → Bool
  | [] => true
  | c :: _ => isLineBlank c || c == '\n'

def isFlowMark (c : Char) : Bool := [',', '[', ']', '\x7b', '\x7d'].contains c

/-- A part of a scalar: a character that stays, a blank, or a line break. -/
inductive ScalarPart where
  | shown (c : Char)
  | blank (c : Char)
  | lineBreak
  deriving Repr, DecidableEq

/-- Blanks, or the line breaks that replace them. -/
def foldedGap (blanks : List Char) : Nat → List Char
  | 0 => blanks
  | 1 => [' ']
  | breaks + 2 => List.replicate (breaks + 1) '\n'

/-- The text of a scalar; `blanks` and `breaks` are the gap before the next part. Line breaks fold:
one counts as a space, and of several the first one vanishes. -/
def foldParts (blanks : List Char) (breaks : Nat) : List ScalarPart → List Char
  | [] => foldedGap blanks breaks
  | .shown c :: rest => foldedGap blanks breaks ++ c :: foldParts [] 0 rest
  | .blank c :: rest =>
    if breaks = 0 then foldParts (blanks ++ [c]) 0 rest else foldParts [] breaks rest
  | .lineBreak :: rest => foldParts [] (breaks + 1) rest

def textOfParts (parts : List ScalarPart) : String := String.ofList (foldParts [] 0 parts)

def partOf (c : Char) : ScalarPart :=
  if c = '\n' then .lineBreak else if isLineBlank c then .blank c else .shown c

def Cursor.next (c : Cursor) : Cursor :=
  match c.rest with
  | [] => c
  | '\n' :: rest => ⟨0, rest⟩
  | _ :: rest => ⟨c.column + 1, rest⟩

/-- The parts up to the closing single quote; two quotes stand for one. -/
def readSingle (column : Nat) : List Char → Option (List ScalarPart × Cursor)
  | [] => none
  | '\'' :: '\'' :: rest => do
    let (parts, after) ← readSingle (column + 2) rest
    return (.shown '\'' :: parts, after)
  | '\'' :: rest => some ([], ⟨column + 1, rest⟩)
  | c :: rest => do
    let (parts, after) ← readSingle (if c = '\n' then 0 else column + 1) rest
    return (partOf c :: parts, after)

def letterEscape? : Char → Option Char
  | '0' => some '\x00'
  | 'a' => some '\x07'
  | 'b' => some '\x08'
  | 't' => some '\t'
  | '\t' => some '\t'
  | 'n' => some '\n'
  | 'v' => some '\x0b'
  | 'f' => some '\x0c'
  | 'r' => some '\r'
  | 'e' => some '\x1b'
  | ' ' => some ' '
  | '"' => some '"'
  | '/' => some '/'
  | '\\' => some '\\'
  | 'N' => some '\u0085'
  | '_' => some '\u00a0'
  | 'L' => some '\u2028'
  | 'P' => some '\u2029'
  | _ => none

def escapeDigits? : Char → Option Nat
  | 'x' => some 2
  | 'u' => some 4
  | 'U' => some 8
  | _ => none

def charOf? (n : Nat) : Option Char := if n.isValidChar then some (Char.ofNat n) else none

def hexValueOf? (digits : List Char) : Option Nat :=
  digits.foldlM (fun n c => (Json.hexValue? c).map (n * 16 + ·)) 0

def readDouble : Nat → Nat → List Char → Option (List ScalarPart × Cursor)
  | 0, _, _ => none
  | _ + 1, _, [] => none
  | _ + 1, column, '"' :: rest => some ([], ⟨column + 1, rest⟩)
  | fuel + 1, _, '\\' :: '\n' :: rest => readDouble fuel 0 (rest.dropWhile isLineBlank)
  | fuel + 1, column, '\\' :: e :: rest =>
    match escapeDigits? e with
    | some count => do
      let digits := rest.take count
      if digits.length < count then none
      let c ← charOf? (← hexValueOf? digits)
      let (parts, after) ← readDouble fuel (column + 2 + count) (rest.drop count)
      return (.shown c :: parts, after)
    | none => do
      let c ← letterEscape? e
      let (parts, after) ← readDouble fuel (column + 2) rest
      return (.shown c :: parts, after)
  | fuel + 1, column, c :: rest => do
    let (parts, after) ← readDouble fuel (if c = '\n' then 0 else column + 1) rest
    return (partOf c :: parts, after)

def startsPlain : List Char → Bool
  | [] => false
  | c :: rest =>
    if ['-', '?', ':'].contains c then
      match rest with
      | [] => false
      | d :: _ => !isLineBlank d && d != '\n' && !isFlowMark d
    else
      !isFlowMark c && !endsToken [c]
        && !(['#', '&', '*', '!', '|', '>', '\'', '"', '%', '@', '\x60'].contains c)

/-- Where a plain scalar ends on its line. -/
def endsPlain (flow afterBlank : Bool) : List Char → Bool
  | [] => true
  | '\n' :: _ => true
  | ':' :: rest =>
    endsToken rest || (flow && match rest with
      | d :: _ => isFlowMark d
      | [] => true)
  | '#' :: _ => afterBlank
  | c :: _ => flow && isFlowMark c

def plainLine (flow afterBlank : Bool) (column : Nat) : List Char → List ScalarPart × Cursor
  | [] => ([], ⟨column, []⟩)
  | c :: rest =>
    if endsPlain flow afterBlank (c :: rest) then ([], ⟨column, c :: rest⟩)
    else
      let (parts, after) := plainLine flow (isLineBlank c) (column + 1) rest
      (partOf c :: parts, after)

/-- The number of line breaks before the next content, and the place of that content. -/
def nextLine (breaks column : Nat) : List Char → Nat × Cursor
  | [] => (breaks, ⟨column, []⟩)
  | '\n' :: rest => nextLine (breaks + 1) 0 rest
  | c :: rest =>
    if isLineBlank c then nextLine breaks (column + 1) rest else (breaks, ⟨column, c :: rest⟩)

/-- A plain scalar goes on over lines whose content begins at `minColumn` or right of it. -/
def readPlain (flow : Bool) (minColumn : Nat) : Nat → Cursor → List ScalarPart × Cursor
  | 0, c => ([], c)
  | fuel + 1, c =>
    let (parts, after) := plainLine flow false c.column c.rest
    match after.rest with
    | '\n' :: _ =>
      let (breaks, content) := nextLine 0 after.column after.rest
      if !content.rest.isEmpty && (flow || minColumn ≤ content.column)
          && !endsPlain flow true content.rest then
        let (more, last) := readPlain flow minColumn fuel content
        (parts ++ List.replicate breaks .lineBreak ++ more, last)
      else (parts, after)
    | _ => (parts, after)

def dropFinalBlanks (parts : List ScalarPart) : List ScalarPart :=
  (parts.reverse.dropWhile fun p => match p with
    | .blank _ => true
    | _ => false).reverse

end ImageSearch.Yaml
