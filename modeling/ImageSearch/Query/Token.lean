import ImageSearch.Text.Blank
import ImageSearch.Text.WordChar

set_option autoImplicit false

namespace ImageSearch.Query

open ImageSearch.Text

inductive Token where
  | word (text : String)
  | quoted (text : String)
  | and
  | or
  | not
  | opening
  | closing
  deriving Repr, DecidableEq

def Token.describe : Token → String
  | .word text => s!"word '{text}'"
  | .quoted text => s!"literal \"{text}\""
  | .and => "'&'"
  | .or => "'|'"
  | .not => "'!'"
  | .opening => "'('"
  | .closing => "')'"

/-- A token and the byte offset of its first character in UTF-8. -/
structure Placed where
  position : Nat
  token : Token
  deriving Repr, DecidableEq

inductive Fault where
  | unterminatedQuote
  | emptyQuote
  | unexpectedChar (c : Char)
  | emptyQuery
  | tooDeep
  | unexpectedEnd
  | missingClosing (openedAt : Nat)
  | expectedOperand (found : Token)
  | unmatchedClosing
  | unexpectedToken (found : Token)
  deriving Repr, DecidableEq

def Fault.message : Fault → String
  | .unterminatedQuote => "unterminated quoted literal"
  | .emptyQuote => "empty quoted literal"
  | .unexpectedChar c => s!"unexpected character '{c}'"
  | .emptyQuery => "empty query"
  | .tooDeep => "query nested too deeply"
  | .unexpectedEnd => "unexpected end of query"
  | .missingClosing openedAt => s!"missing ')' for '(' at position {openedAt}"
  | .expectedOperand found => s!"expected a word or '(' but found {found.describe}"
  | .unmatchedClosing => "unmatched ')'"
  | .unexpectedToken found => s!"unexpected {found.describe}"

structure ParseError where
  fault : Fault
  position : Nat
  deriving Repr, DecidableEq

def ParseError.message (e : ParseError) : String := e.fault.message

def ParseError.display (e : ParseError) : String :=
  s!"query syntax error at position {e.position}: {e.message}"

def textSize : List Char → Nat
  | [] => 0
  | c :: cs => c.utf8Size + textSize cs

def operator? : Char → Option Token
  | '&' => some .and
  | '|' => some .or
  | '!' => some .not
  | '(' => some .opening
  | ')' => some .closing
  | _ => none

def isQuote (c : Char) : Bool := c == '"' || c == '\''

/-- Scans the rest of a text that begins at byte `position`. -/
def scanFrom (position : Nat) : List Char → Except ParseError (List Placed)
  | [] => .ok []
  | c :: rest =>
    if isBlank c then scanFrom (position + c.utf8Size) rest
    else
      match operator? c with
      | some token => (⟨position, token⟩ :: ·) <$> scanFrom (position + c.utf8Size) rest
      | none =>
        if isQuote c then
          let text := rest.takeWhile (· != c)
          match h : rest.dropWhile (· != c) with
          | [] => .error ⟨.unterminatedQuote, position⟩
          | _ :: after =>
            if text.isEmpty then .error ⟨.emptyQuote, position⟩
            else
              have : after.length < rest.length := by
                have le := (List.dropWhile_suffix (· != c) (l := rest)).length_le
                simp only [h, List.length_cons] at le
                omega
              (⟨position, .quoted (String.ofList text)⟩ :: ·) <$>
                scanFrom (position + textSize text + 2 * c.utf8Size) after
        else if isBareWordChar c then
          let text := c :: rest.takeWhile isBareWordChar
          have : (rest.dropWhile isBareWordChar).length < (c :: rest).length :=
            Nat.lt_succ_of_le (List.dropWhile_suffix isBareWordChar).length_le
          (⟨position, .word (String.ofList text)⟩ :: ·) <$>
            scanFrom (position + textSize text) (rest.dropWhile isBareWordChar)
        else .error ⟨.unexpectedChar c, position⟩
  termination_by cs => cs.length
  decreasing_by all_goals simp_all <;> omega

/-- The tokens of a text, in order. -/
def scan (cs : List Char) : Except ParseError (List Placed) := scanFrom 0 cs

end ImageSearch.Query
