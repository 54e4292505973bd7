import Promotions.Double.Decimal
import Promotions.Json

/-!
# Reading JSON text

`Json.read?` reads one value that fills the text. A number with a point or an exponent is a double,
any other number an integer; the words `Infinity` and `NaN` are doubles too. When an object repeats
a name, the last value wins and takes the place of the first. A step of the reader answers with its
result and the rest of the text.
-/

namespace Promotions.Json.Reader

/-- The rest of the text after blanks. -/
def skipBlanks : List Char → List Char
  | c :: rest => if c = ' ' ∨ c = '\n' ∨ c = '\t' ∨ c = '\r' then skipBlanks rest else c :: rest
  | [] => []

/-- Four hexadecimal digits. -/
def unit : List Char → Option (Nat × List Char)
  | a :: b :: c :: d :: rest => do
    let a ← Text.hexDigit? a
    let b ← Text.hexDigit? b
    let c ← Text.hexDigit? c
    let d ← Text.hexDigit? d
    some (((a * 16 + b) * 16 + c) * 16 + d, rest)
  | _ => none

/-- The character of a `\u` escape, whose four digits come next; a high surrogate takes the low
surrogate's escape that follows it. -/
def escaped (text : List Char) : Option (Char × List Char) := do
  let (high, rest) ← unit text
  if 0xD800 ≤ high ∧ high < 0xDC00 then
    match rest with
    | '\\' :: 'u' :: rest =>
      let (low, rest) ← unit rest
      some (Char.ofNat (0x10000 + (high - 0xD800) * 0x400 + (low - 0xDC00)), rest)
    | _ => none
  else some (Char.ofNat high, rest)

/-- The rest of a string after its opening quote; `read` holds the characters read, last first. -/
def chars : Nat → List Char → List Char → Option (String × List Char)
  | 0, _, _ => none
  | fuel + 1, read, text =>
    match text with
    | '"' :: rest => some (String.ofList read.reverse, rest)
    | '\\' :: 'u' :: rest => do
      let (c, rest) ← escaped rest
      chars fuel (c :: read) rest
    | '\\' :: c :: rest =>
      match c with
      | '"' | '\\' | '/' => chars fuel (c :: read) rest
      | 'b' => chars fuel ('\x08' :: read) rest
      | 'f' => chars fuel ('\x0c' :: read) rest
      | 'n' => chars fuel ('\n' :: read) rest
      | 'r' => chars fuel ('\r' :: read) rest
      | 't' => chars fuel ('\t' :: read) rest
      | _ => none
    | c :: rest => chars fuel (c :: read) rest
    | [] => none

/-- A number after its sign. -/
def number (negative : Bool) (text : List Char) : Option (Json × List Char) :=
  match text.span Char.isDigit with
  | ([], _) => none
  | (whole, rest) =>
    let (places, rest, pointed) := match rest with
      | '.' :: more => let (places, rest) := more.span Char.isDigit; (places, rest, true)
      | _ => ([], rest, false)
    let mantissa := Text.digitsValue (whole ++ places)
    match rest with
    | 'e' :: more | 'E' :: more => do
      let (power, rest) ← Double.exponent? more
      some (.double (.ofDecimal negative mantissa (places.length - power)), rest)
    | _ =>
      if pointed then some (.double (.ofDecimal negative mantissa places.length), rest)
      else some (.int (if negative then -(mantissa : Int) else mantissa), rest)

/-- The rest of a text after the word `Infinity`, whose first letter has been read. -/
def infinity : List Char → Option (List Char)
  | 'n' :: 'f' :: 'i' :: 'n' :: 'i' :: 't' :: 'y' :: rest => some rest
  | _ => none

mutual

/-- One value. -/
def value : Nat → List Char → Option (Json × List Char)
  | 0, _ => none
  | fuel + 1, text =>
    match skipBlanks text with
    | 'n' :: 'u' :: 'l' :: 'l' :: rest => some (.null, rest)
    | 't' :: 'r' :: 'u' :: 'e' :: rest => some (.bool true, rest)
    | 'f' :: 'a' :: 'l' :: 's' :: 'e' :: rest => some (.bool false, rest)
    | '"' :: rest => (chars (rest.length + 1) [] rest).map fun (s, rest) => (.str s, rest)
    | '[' :: rest =>
      match skipBlanks rest with
      | ']' :: rest => some (.arr [], rest)
      | rest => (items fuel [] rest).map fun (xs, rest) => (.arr xs, rest)
    | '{' :: rest =>
      match skipBlanks rest with
      | '}' :: rest => some (.obj [], rest)
      | rest => (members fuel [] rest).map fun (ms, rest) => (.obj ms, rest)
    | 'N' :: 'a' :: 'N' :: rest => some (.double (.notANumber false), rest)
    | 'I' :: rest => (infinity rest).map fun rest => (.double (.infinity false), rest)
    | '-' :: 'I' :: rest => (infinity rest).map fun rest => (.double (.infinity true), rest)
    | '-' :: rest => number true rest
    | rest => number false rest

/-- The items of a list up to its end; `read` holds the items read, last first. -/
def items : Nat → List Json → List Char → Option (List Json × List Char)
  | 0, _, _ => none
  | fuel + 1, read, text => do
    let (item, rest) ← value fuel text
    match skipBlanks rest with
    | ',' :: rest => items fuel (item :: read) rest
    | ']' :: rest => some ((item :: read).reverse, rest)
    | _ => none

/-- The members of an object up to its end; `read` holds the members read, in order. -/
def members : Nat → List (String × Json) → List Char →
    Option (List (String × Json) × List Char)
  | 0, _, _ => none
  | fuel + 1, read, text => do
    let '"' :: rest := skipBlanks text | none
    let (name, rest) ← chars (rest.length + 1) [] rest
    let ':' :: rest := skipBlanks rest | none
    let (item, rest) ← value fuel rest
    match skipBlanks rest with
    | ',' :: rest => members fuel (assign name item read) rest
    | '}' :: rest => some (assign name item read, rest)
    | _ => none

end

end Reader

/-- The value that a text writes, if it writes one. -/
def read? (text : String) : Option Json :=
  let chars := text.toList
  match Reader.value (2 * chars.length + 2) chars with
  | some (value, rest) => if Reader.skipBlanks rest = [] then some value else none
  | none => none

end Promotions.Json
