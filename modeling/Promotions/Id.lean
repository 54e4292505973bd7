import Promotions.Json.Literal

/-!
# Row identifiers

An identifier is a number, written as 32 lower-case hexadecimal digits in groups of 8, 4, 4, 4 and
12; the store keeps the digits alone. Requests are read strictly (`Id.read?`: four spellings); lists
of reward identifiers are read leniently (`Id.parse`), as stored texts are: a fixed list of
decorations is dropped first, and what is left has to be a hexadecimal numeral of 32 characters.
-/

namespace Promotions

/-- The identifier of a row. -/
structure Id where
  val : Nat
  deriving DecidableEq, Repr, Inhabited

/-- Why a text is no identifier. -/
inductive IdFault where
  /-- The text has not exactly 32 characters, its decorations apart. -/
  | malformed
  /-- The text has 32 characters, which are no hexadecimal numeral. -/
  | notHexadecimal
  deriving DecidableEq, Repr

namespace Id

/-- The hexadecimal digits of an identifier, at least 32. -/
def digits (id : Id) : List Char := Text.hexPadded 32 id.val

/-- **An identifier reads as a number**: its digits are decimal ones, or decimal ones around a
single `e`, as in `12e3`. The store keeps such a text as the number that it spells. -/
def isNumeral (id : Id) : Bool :=
  let (mantissa, exponent) := id.digits.span Char.isDigit
  match exponent with
  | [] => true
  | 'e' :: exponent => !mantissa.isEmpty && !exponent.isEmpty && exponent.all Char.isDigit
  | _ => false

/-- The content of a column of identifiers can be read again. -/
def isReadable (id : Option Id) : Bool := !id.any isNumeral

/-- Splits digits into the five groups of the written form. -/
def grouped (digits : List Char) : List Char :=
  digits.take 8 ++ '-' :: (digits.drop 8).take 4 ++ '-' :: (digits.drop 12).take 4 ++
    '-' :: (digits.drop 16).take 4 ++ '-' :: digits.drop 20

/-- The canonical text of an identifier. -/
def text (id : Id) : String := String.ofList (grouped id.digits)

/-- The number that hexadecimal digits write, after the digits that `start` stands for. -/
def hexValue? (start : Nat) : List Char → Option Nat
  | [] => some start
  | c :: rest => (Text.hexDigit? c).bind fun d => hexValue? (start * 16 + d) rest

/-- The identifier of exactly 32 hexadecimal digits. -/
def ofDigits? (digits : List Char) : Option Id :=
  if digits.length = 32 then (hexValue? 0 digits).map Id.mk else none

/-- The identifier of digits in their five groups. -/
def ofGrouped? (text : List Char) : Option Id :=
  let bare := text.take 8 ++ (text.drop 9).take 4 ++ (text.drop 14).take 4 ++
    (text.drop 19).take 4 ++ text.drop 24
  if text = grouped bare then ofDigits? bare else none

/-- The identifier that a request's text spells: grouped digits, digits alone, grouped digits
between braces, or grouped digits after `urn:uuid:`. -/
def read? (text : String) : Option Id :=
  let chars := text.toList
  match ofGrouped? chars with
  | some id => some id
  | none =>
    match ofDigits? chars with
    | some id => some id
    | none =>
      match chars with
      | '{' :: rest => if rest.getLast? = some '}' then ofGrouped? rest.dropLast else none
      | 'u' :: 'r' :: 'n' :: ':' :: 'u' :: 'u' :: 'i' :: 'd' :: ':' :: rest => ofGrouped? rest
      | _ => none

/-- A text without any occurrence of a word, found from left to right. -/
def without (word : List Char) : Nat → List Char → List Char
  | 0, text => text
  | _ + 1, [] => []
  | fuel + 1, c :: rest =>
    if word.isPrefixOf (c :: rest) then without word fuel ((c :: rest).drop word.length)
    else c :: without word fuel rest

/-- A text without `urn:` and `uuid:`, without braces at its ends, and without dashes. -/
def undecorated (text : List Char) : List Char :=
  let bare := without ['u', 'r', 'n', ':'] text.length text
  let bare := without ['u', 'u', 'i', 'd', ':'] bare.length bare
  (Text.stripped (fun c => c = '{' || c = '}') bare).filter (· != '-')

/-- The identifier that a text spells once its decorations are dropped. -/
def parse (text : String) : Except IdFault Id :=
  let bare := undecorated text.toList
  if bare.length = 32 then
    match Text.hexadecimal? bare with
    | some value => .ok ⟨value⟩
    | none => .error .notHexadecimal
  else .error .malformed

/-- The identifier that a stored JSON value spells: a text by itself, any other value by its literal
text. -/
def ofJson : Json → Except IdFault Id
  | .str text => parse text
  | value => parse (String.ofList value.literal)

end Id

/-- An identifier in a list of wanted rewards: given as such, or by a text still to be read. -/
inductive IdSpelling where
  | known (id : Id)
  | written (value : Json)
  deriving Repr

namespace IdSpelling

/-- The identifier that is meant. -/
def resolve : IdSpelling → Except IdFault Id
  | .known id => .ok id
  | .written value => Id.ofJson value

end IdSpelling

namespace Id

/-- The identifiers that spellings mean, each once, in order of first occurrence; the first spelling
that means none decides the failure. -/
def orderedUnique (spellings : List IdSpelling) : Except IdFault (List Id) :=
  match spellings.mapM IdSpelling.resolve with
  | .ok ids => .ok ids.eraseDups
  | .error fault => .error fault

end Id

end Promotions
