import Promotions.Text

/-!
# Numerals

Whole numbers as settings and identifiers write them: digits of any script, with underscores between
them, signs, and blanks around them. `Text.integer?` reads decimal numerals and `Text.hexadecimal?`
hexadecimal ones. The numerals of forms have digits of ASCII: `Text.plain?` reads those without any
ornament, and `Text.simplified?` takes the ornaments away.
-/

namespace Promotions.Text

/-- The zeros of the characters with the property Decimal_Number of Unicode 14. The other nine
digits follow their zero. -/
def decimalZeros : List Nat :=
  [0x30, 0x660, 0x6f0, 0x7c0, 0x966, 0x9e6, 0xa66, 0xae6, 0xb66, 0xbe6, 0xc66, 0xce6, 0xd66, 0xde6,
    0xe50, 0xed0, 0xf20, 0x1040, 0x1090, 0x17e0, 0x1810, 0x1946, 0x19d0, 0x1a80, 0x1a90, 0x1b50,
    0x1bb0, 0x1c40, 0x1c50, 0xa620, 0xa8d0, 0xa900, 0xa9d0, 0xa9f0, 0xaa50, 0xabf0, 0xff10, 0x104a0,
    0x10d30, 0x11066, 0x110f0, 0x11136, 0x111d0, 0x112f0, 0x11450, 0x114d0, 0x11650, 0x116c0,
    0x11730, 0x118e0, 0x11950, 0x11c50, 0x11d50, 0x11da0, 0x16a60, 0x16ac0, 0x16b50, 0x1d7ce,
    0x1d7d8, 0x1d7e2, 0x1d7ec, 0x1d7f6, 0x1e140, 0x1e2f0, 0x1e950, 0x1fbf0]

/-- A decimal digit of any script as the digit of ASCII with its value; other characters stay. -/
def asciiDigit (c : Char) : Char :=
  if c.toNat < 128 then c
  else
    match decimalZeros.find? fun first => first ≤ c.toNat && c.toNat < first + 10 with
    | some first => Char.ofNat (c.toNat - first + 48)
    | none => c

/-- The value of a decimal digit of ASCII. -/
def digit? (c : Char) : Option Nat := if c.isDigit then some (c.toNat - 48) else none

/-- The number that the rest of a numeral makes of the digits before it, which are worth `value`.
Two digits may have an underscore between them. -/
def continued? (base : Nat) (digit? : Char → Option Nat) (value : Nat) : List Char → Option Nat
  | [] => some value
  | '_' :: c :: rest => (digit? c).bind fun d => continued? base digit? (value * base + d) rest
  | c :: rest => (digit? c).bind fun d => continued? base digit? (value * base + d) rest

/-- The number of a numeral without a sign, which starts with a digit. -/
def unsigned? (base : Nat) (digit? : Char → Option Nat) : List Char → Option Nat
  | [] => none
  | c :: rest => (digit? c).bind fun d => continued? base digit? d rest

/-- The most digits that a decimal numeral may have. -/
def digitLimit : Nat := 4300

/-- The integer of a decimal numeral: a sign and digits between blanks. -/
def integer? (text : List Char) : Option Int :=
  let bare := (stripped isWhiteSpace text).map asciiDigit
  if digitLimit < bare.countP Char.isDigit then none
  else
    match bare with
    | '-' :: rest => (unsigned? 10 digit? rest).map fun n => -(n : Int)
    | '+' :: rest => (unsigned? 10 digit? rest).map fun n => (n : Int)
    | rest => (unsigned? 10 digit? rest).map fun n => (n : Int)

/-- A text without a plus sign at its start. -/
def withoutPlus : List Char → List Char
  | '+' :: rest => rest
  | text => text

/-- The number of a hexadecimal numeral between blanks. A plus sign may come before the digits, and
after it the mark `0x`, with or without an underscore. -/
def hexadecimal? (text : List Char) : Option Nat :=
  match withoutPlus ((stripped isWhiteSpace text).map asciiDigit) with
  | '0' :: 'x' :: '_' :: rest | '0' :: 'X' :: '_' :: rest => unsigned? 16 hexDigit? rest
  | '0' :: 'x' :: rest | '0' :: 'X' :: rest => unsigned? 16 hexDigit? rest
  | rest => unsigned? 16 hexDigit? rest

/-- Some underscore stands beside another one. -/
def hasDoubleUnderscore : List Char → Bool
  | '_' :: '_' :: _ => true
  | _ :: rest => hasDoubleUnderscore rest
  | [] => false

/-- A text without its underscores, none of which may stand at an end or beside another one. -/
def withoutUnderscores? (text : List Char) : Option (List Char) :=
  if text.head? = some '_' || text.getLast? = some '_' || hasDoubleUnderscore text then none
  else some (text.filter (· != '_'))

/-- A decimal digit that is not zero. -/
def isLeadingDigit (c : Char) : Bool := c.isDigit && c != '0'

/-- The sign and the digits of a plain numeral at the start of a text: perhaps a minus, then digits
of which the first is not zero. -/
def plainStart (text : List Char) : List Char :=
  let (sign, rest) := text.span (· = '-')
  if sign.length ≤ 1 && rest.head?.any isLeadingDigit then sign ++ rest.takeWhile Char.isDigit
  else []

/-- The integer of a plain numeral: zero, or digits of which the first is not zero, perhaps after a
minus, and not too many of them. -/
def plain? (text : List Char) : Option Int :=
  let (negative, digits) := match text with
    | '-' :: rest => (true, rest)
    | rest => (false, rest)
  if digitLimit < text.length || (digits.head? = some '0' && digits != ['0']) then none
  else (number? digits).map fun n => if negative then -(n : Int) else n

/-- What the rest of a text leaves of zeros and underscores before it, of which `last` is the last.
A digit or a minus takes their place, and a point follows the last of them. -/
def afterZeros? (last : Char) : List Char → Option (List Char)
  | [] => some [last]
  | c :: rest =>
    if c = '0' || c = '_' then afterZeros? c rest
    else if c = '.' then some (last :: c :: rest)
    else if c = '-' || c.isDigit then some (c :: rest)
    else none

/-- A text that begins with a digit, without needless zeros in front. -/
def withoutZeros? : List Char → Option (List Char)
  | '0' :: rest => afterZeros? '0' rest
  | c :: rest => if c.isDigit then some (c :: rest) else none
  | [] => none

/-- A text without a fraction of zeros, of which there has to be one. -/
def withoutFraction (text : List Char) : List Char :=
  let (whole, places) := text.span (· != '.')
  if 2 ≤ places.length && (places.drop 1).all (· = '0') then whole else text

/-- A numeral without what plain numerals do not have: a plus, needless zeros, a fraction of zeros,
and underscores between digits. -/
def simplified? (text : List Char) : Option (List Char) :=
  let bare := match text with
    | '+' :: rest => withoutZeros? rest
    | '-' :: rest => (withoutZeros? rest).map ('-' :: ·)
    | rest => withoutZeros? rest
  bare.bind fun bare => withoutUnderscores? (withoutFraction bare)

end Promotions.Text
