import ImageSearch.Text.Split

set_option autoImplicit false

namespace ImageSearch.Text

/-- The bytes before `validTo` are a text. What follows is a flawed sequence of `length` bytes, or
a sequence that the end of the input cuts short. -/
structure Utf8Error where
  validTo : Nat
  length : Option Nat
  deriving Repr, DecidableEq

def Utf8Error.message (e : Utf8Error) : String :=
  match e.length with
  | some n => s!"invalid utf-8 sequence of {n} bytes from index {e.validTo}"
  | none => s!"incomplete utf-8 byte sequence from index {e.validTo}"

/-- How a sequence goes on after its first byte: the number of bytes, the payload of the first, and
the range of the second. -/
structure Lead where
  size : Nat
  payload : Nat
  low : Nat
  high : Nat
  deriving Repr, DecidableEq

def lead? (b : Nat) : Option Lead :=
  if b < 0x80 then some ⟨1, b, 0, 0⟩
  else if 0xC2 ≤ b ∧ b ≤ 0xDF then some ⟨2, b - 0xC0, 0x80, 0xBF⟩
  else if b = 0xE0 then some ⟨3, 0, 0xA0, 0xBF⟩
  else if b = 0xED then some ⟨3, 0xD, 0x80, 0x9F⟩
  else if 0xE1 ≤ b ∧ b ≤ 0xEF then some ⟨3, b - 0xE0, 0x80, 0xBF⟩
  else if b = 0xF0 then some ⟨4, 0, 0x90, 0xBF⟩
  else if 0xF1 ≤ b ∧ b ≤ 0xF3 then some ⟨4, b - 0xF0, 0x80, 0xBF⟩
  else if b = 0xF4 then some ⟨4, 4, 0x80, 0x8F⟩
  else none

/-- The bytes after the first one of a sequence: `low` and `high` bound the next byte, `good` counts
the bytes that fit so far. Gives the code point and the rest. -/
def readTail : Nat → Nat → Nat → Nat → Nat → List Nat → Except (Option Nat) (Nat × List Nat)
  | 0, value, _, _, _, rest => .ok (value, rest)
  | _ + 1, _, _, _, _, [] => .error none
  | left + 1, value, low, high, good, b :: rest =>
    if low ≤ b ∧ b ≤ high then readTail left (value * 64 + (b - 0x80)) 0x80 0xBF (good + 1) rest
    else .error (some good)

def readUtf8From : Nat → Nat → List Nat → Except Utf8Error (List Char)
  | _, _, [] => .ok []
  | 0, _, _ => .ok []
  | fuel + 1, position, b :: rest =>
    match lead? b with
    | none => .error ⟨position, some 1⟩
    | some lead =>
      match readTail (lead.size - 1) lead.payload lead.low lead.high 1 rest with
      | .error length => .error ⟨position, length⟩
      | .ok (value, after) =>
        (Char.ofNat value :: ·) <$> readUtf8From fuel (position + lead.size) after

def readUtf8 (bytes : List Nat) : Except Utf8Error (List Char) :=
  readUtf8From bytes.length 0 bytes

def charBytes (c : Char) : List Nat :=
  let n := c.toNat
  if n < 0x80 then [n]
  else if n < 0x800 then [0xC0 + n / 64, 0x80 + n % 64]
  else if n < 0x10000 then [0xE0 + n / 4096, 0x80 + n / 64 % 64, 0x80 + n % 64]
  else [0xF0 + n / 262144, 0x80 + n / 4096 % 64, 0x80 + n / 64 % 64, 0x80 + n % 64]

def textBytes (cs : List Char) : List Nat := cs.flatMap charBytes

end ImageSearch.Text
