import CodeNav.Text.Blank
import CodeNav.Text.Cut

/-! Whole numbers as people type them: blanks around, one sign, decimal digits of any script,
and single underscores between digits. -/
namespace CodeNav.Text

def zeroDigits : List Nat := [
  0x30, 0x660, 0x6F0, 0x7C0, 0x966, 0x9E6, 0xA66, 0xAE6, 0xB66, 0xBE6,
  0xC66, 0xCE6, 0xD66, 0xDE6, 0xE50, 0xED0, 0xF20, 0x1040, 0x1090, 0x17E0,
  0x1810, 0x1946, 0x19D0, 0x1A80, 0x1A90, 0x1B50, 0x1BB0, 0x1C40, 0x1C50, 0xA620,
  0xA8D0, 0xA900, 0xA9D0, 0xA9F0, 0xAA50, 0xABF0, 0xFF10, 0x104A0, 0x10D30, 0x11066,
  0x110F0, 0x11136, 0x111D0, 0x112F0, 0x11450, 0x114D0, 0x11650, 0x116C0, 0x11730, 0x118E0,
  0x11950, 0x11C50, 0x11D50, 0x11DA0, 0x16A60, 0x16AC0, 0x16B50, 0x1D7CE, 0x1D7D8, 0x1D7E2,
  0x1D7EC, 0x1D7F6, 0x1E140, 0x1E2F0, 0x1E950, 0x1FBF0
]

def digitValue? (c : Char) : Option Nat :=
  (zeroDigits.find? fun first => first ≤ c.toNat && c.toNat < first + 10).map (c.toNat - ·)

def isNumeralBlank (c : Char) : Bool :=
  if c.toNat < 0x80 then c == ' ' || (0x9 ≤ c.toNat && c.toNat ≤ 0xD) else isBlank c

def maxNumeralDigits : Nat := 4300

/-- The digits of a number, most significant first. An underscore stands between two digits;
`afterDigit` says that a digit came directly before. -/
def digits? (afterDigit : Bool) : List Char → Option (List Nat)
  | [] => if afterDigit then some [] else none
  | c :: rest =>
    if c == '_' then if afterDigit then digits? false rest else none
    else match digitValue? c with
      | some d => (digits? true rest).map (d :: ·)
      | none => none

def ofDigits (value : Nat) (digits : List Nat) : Nat := digits.foldl (fun n d => 10 * n + d) value

def natural? (text : List Char) : Option Nat := do
  let digits ← digits? false text
  if digits.length ≤ maxNumeralDigits then some (ofDigits 0 digits) else none

def integer? (text : String) : Option Int :=
  match trimBoth isNumeralBlank text.toList with
  | '-' :: rest => (natural? rest).map fun n => -(n : Int)
  | '+' :: rest => (natural? rest).map fun n => (n : Int)
  | unsigned => (natural? unsigned).map fun n => (n : Int)

end CodeNav.Text
