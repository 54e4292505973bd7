/-!
# Characters and digits

Small rules about text that several modules share: which characters are blank, how a text is
stripped of them, how numbers are padded with zeros and read from digits, and when a filter wants a
word.
-/

namespace Promotions.Text

/-- A character of ASCII that is white space: the space, and the controls from the tabulator to the
carriage return. -/
def isAsciiSpace (c : Char) : Bool := c = ' ' || (9 ≤ c.toNat && c.toNat ≤ 13)

/-- A character with the property White_Space. -/
def isWhiteSpace (c : Char) : Bool :=
  isAsciiSpace c || c.toNat = 0x85 || c.toNat = 0xa0 || c.toNat = 0x1680 ||
    (0x2000 ≤ c.toNat && c.toNat ≤ 0x200a) || c.toNat = 0x2028 || c.toNat = 0x2029 ||
    c.toNat = 0x202f || c.toNat = 0x205f || c.toNat = 0x3000

/-- A blank: white space, or one of the separators among the control characters. -/
def isBlank (c : Char) : Bool := isWhiteSpace c || (28 ≤ c.toNat && c.toNat ≤ 31)

/-- A text without the characters of a class at its ends. -/
def stripped (isOuter : Char → Bool) (text : List Char) : List Char :=
  ((text.dropWhile isOuter).reverse.dropWhile isOuter).reverse

/-- The words of a text, between white space of ASCII. -/
def words : List Char → List (List Char)
  | [] => []
  | c :: rest =>
    if isAsciiSpace c then words rest
    else
      match rest with
      | [] => [[c]]
      | next :: _ =>
        if isAsciiSpace next then [c] :: words rest
        else
          match words rest with
          | [] => [[c]]
          | word :: more => (c :: word) :: more

/-- The value of a hexadecimal digit of either case. -/
def hexDigit? (c : Char) : Option Nat :=
  if '0' ≤ c ∧ c ≤ '9' then some (c.toNat - 48)
  else if 'a' ≤ c ∧ c ≤ 'f' then some (c.toNat - 87)
  else if 'A' ≤ c ∧ c ≤ 'F' then some (c.toNat - 55)
  else none

/-- Hexadecimal digits of a number, with zeros in front up to a width. -/
def hexPadded (width n : Nat) : List Char :=
  let digits := Nat.toDigits 16 n
  List.replicate (width - digits.length) '0' ++ digits

/-- A word is wanted: none is named, or the empty one, or just this one. -/
def isWanted (wanted : Option String) (word : String) : Bool :=
  wanted.all fun w => w = "" || w = word

/-- The number that decimal digits write. -/
def digitsValue (digits : List Char) : Nat := digits.foldl (fun n c => n * 10 + (c.toNat - 48)) 0

/-- The number that decimal digits write, if there are some and nothing else. -/
def number? (text : List Char) : Option Nat :=
  if text.isEmpty || !text.all Char.isDigit then none else some (digitsValue text)

/-- Decimal digits of a number, with zeros in front up to a width. -/
def padded (width : Nat) (n : Nat) : String :=
  let digits := Nat.toDigits 10 n
  String.ofList (List.replicate (width - digits.length) '0' ++ digits)

end Promotions.Text
