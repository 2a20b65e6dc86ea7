import ImageSearch.Text.Printable

set_option autoImplicit false

namespace ImageSearch.Text

/-- Lower-case hexadecimal digits, most significant first, none for zero. -/
def hexDigits (n : Nat) : List Char :=
  if n = 0 then [] else hexDigits (n / 16) ++ [Nat.digitChar (n % 16)]

/-- At least one hexadecimal digit. -/
def hexNumeral (n : Nat) : List Char := if n = 0 then ['0'] else hexDigits n

def quotedChar (c : Char) : List Char :=
  match c with
  | '\x00' => ['\\', '0']
  | '\t' => ['\\', 't']
  | '\r' => ['\\', 'r']
  | '\n' => ['\\', 'n']
  | '"' => ['\\', '"']
  | '\\' => ['\\', '\\']
  | c =>
    if isPrintable c && !isGraphemeExtend c then [c]
    else ['\\', 'u', '\x7b'] ++ hexNumeral c.toNat ++ ['\x7d']

def quoted (s : String) : String :=
  String.ofList ('"' :: s.toList.flatMap quotedChar ++ ['"'])

end ImageSearch.Text
