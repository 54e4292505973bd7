import Promotions.Double
import Promotions.Text.Numeral

/-!
# Doubles as decimal text

`Double.ofText?` reads a decimal number: a sign, digits with a point before, among or after them,
and a power of ten. `Double.text` writes a double with the fewest digits that read back as it, and
of those the nearest: positionally for sizes from 10 ^ (-4) to below 10 ^ 16, and otherwise with a
power of ten of at least two digits.
-/

namespace Promotions.Double

/-! ### Reading -/

/-- A sign in front of a text, true for a minus, and the rest. -/
def sign : List Char → Bool × List Char
  | '-' :: rest => (true, rest)
  | '+' :: rest => (false, rest)
  | rest => (false, rest)

/-- A power of ten is cut at this size, beyond which every double is zero or infinite. -/
def exponentLimit : Int := 100000

/-- A power of ten after its letter, and the rest of the text. -/
def exponent? (text : List Char) : Option (Int × List Char) :=
  let (negative, text) := sign text
  match text.span Char.isDigit with
  | ([], _) => none
  | (digits, rest) =>
    let size : Int := Text.digitsValue digits
    some (max (-exponentLimit) (min exponentLimit (if negative then -size else size)), rest)

/-- The doubles that words name, whatever the case of their letters. -/
def ofWord? (negative : Bool) (word : List Char) : Option Double :=
  match String.ofList (word.map Char.toLower) with
  | "inf" | "infinity" => some (infinity negative)
  | "nan" => some (notANumber negative)
  | _ => none

/-- The double nearest to a decimal number. -/
def ofText? (text : List Char) : Option Double :=
  let (negative, text) := sign text
  let (whole, rest) := text.span Char.isDigit
  let (places, rest) := match rest with
    | '.' :: more => more.span Char.isDigit
    | rest => ([], rest)
  let mantissa := Text.digitsValue (whole ++ places)
  if whole.isEmpty && places.isEmpty then ofWord? negative text
  else
    match rest with
    | [] => some (ofDecimal negative mantissa places.length)
    | 'e' :: more | 'E' :: more =>
      match exponent? more with
      | some (power, []) => some (ofDecimal negative mantissa (places.length - power))
      | _ => none
    | _ => none

/-! ### Writing -/

/-- The power of ten just above a positive number. -/
def decimalExponent (x : Rat) : Int :=
  let isBelow := fun (e : Int) =>
    x.num.natAbs * Nat.pow 10 (-e).toNat < x.den * Nat.pow 10 e.toNat
  (((List.range 700).map fun i => Int.ofNat i - 350).find? isBelow).getD 350

/-- The decimal number with `n` digits next to a positive double, if one of its two neighbours reads
back as the double; of both, the nearer one. `e` is the power of ten just above the double. -/
def roundedTo? (d : Double) (x : Rat) (e : Int) (n : Nat) : Option Nat :=
  let places : Int := n - e
  let num := x.num.natAbs * Nat.pow 10 places.toNat
  let den := x.den * Nat.pow 10 (-places).toNat
  let below := num / den
  let fits := fun mantissa => decide (ofDecimal false mantissa places = d)
  match fits below, fits (below + 1) with
  | true, true => if 2 * (num % den) ≤ den then some below else some (below + 1)
  | true, false => some below
  | false, true => some (below + 1)
  | false, false => none

/-- The fewest digits of a positive double, and the power of ten of a point before them. -/
def shortest (d : Double) (x : Rat) : List Char × Int :=
  let e := decimalExponent x
  match (List.range 17).findSome? fun n => roundedTo? d x e (n + 1) |>.map fun m => (n + 1, m) with
  | none => (['0'], 1)
  | some (n, mantissa) =>
    let digits := Nat.toDigits 10 mantissa
    ((digits.reverse.dropWhile (· = '0')).reverse, e + (digits.length - n))

/-- Digits with the point at a power of ten. -/
def pointed (digits : List Char) (point : Int) : List Char :=
  if point ≤ 0 then '0' :: '.' :: List.replicate (-point).toNat '0' ++ digits
  else
    let whole := digits.take point.toNat
    let places := digits.drop point.toNat
    whole ++ List.replicate (point.toNat - whole.length) '0' ++
      '.' :: (if places.isEmpty then ['0'] else places)

/-- Digits with a point after the first and a power of ten. -/
def scientific (digits : List Char) (point : Int) : List Char :=
  let power := point - 1
  digits.take 1 ++ (if digits.length ≤ 1 then [] else '.' :: digits.drop 1) ++
    'e' :: (if power < 0 then '-' else '+') :: (Text.padded 2 power.natAbs).toList

/-- The text of a double. -/
def text (d : Double) : String :=
  let mark := if d.isNegative then ['-'] else []
  match d.toRat? with
  | none =>
    if d = infinity false then "inf" else if d = infinity true then "-inf" else "nan"
  | some x =>
    if x = 0 then String.ofList (mark ++ ['0', '.', '0'])
    else
      let (digits, point) := shortest ⟨d.bits &&& 0x7fffffffffffffff⟩ x
      let written :=
        if -4 < point ∧ point ≤ 16 then pointed digits point else scientific digits point
      String.ofList (mark ++ written)

end Promotions.Double
