import Promotions.Double.Decimal
import Promotions.Json
import Promotions.Text.Printable

/-!
# The literal text of a value

A value that stands where a text is expected is taken by its literal text: texts inside it stand
between quotes, lists and objects between their brackets, with a blank after each comma and colon.
-/

namespace Promotions.Json

/-- A character of a literal text between quotes. -/
def literalChar (quote c : Char) : List Char :=
  if c = quote || c = '\\' then ['\\', c]
  else if c = '\n' then ['\\', 'n']
  else if c = '\r' then ['\\', 'r']
  else if c = '\t' then ['\\', 't']
  else if Text.isPrintable c then [c]
  else if c.toNat < 0x100 then '\\' :: 'x' :: Text.hexPadded 2 c.toNat
  else if c.toNat < 0x10000 then '\\' :: 'u' :: Text.hexPadded 4 c.toNat
  else '\\' :: 'U' :: Text.hexPadded 8 c.toNat

/-- A text between single quotes, or between double quotes if only single quotes occur in it. -/
def literalText (text : String) : List Char :=
  let chars := text.toList
  let quote := if chars.contains '\'' && !chars.contains '"' then '"' else '\''
  quote :: chars.flatMap (literalChar quote) ++ [quote]

mutual

/-- The literal text of a value. -/
def literal : Json → List Char
  | .null => "None".toList
  | .bool true => "True".toList
  | .bool false => "False".toList
  | .int value => (toString value).toList
  | .double value => value.text.toList
  | .str text => literalText text
  | .arr items => '[' :: literalItems items ++ [']']
  | .obj members => '\x7b' :: literalMembers members ++ ['\x7d']

/-- The literal texts of items, with commas between them. -/
def literalItems : List Json → List Char
  | [] => []
  | [item] => literal item
  | item :: next :: rest => literal item ++ ',' :: ' ' :: literalItems (next :: rest)

/-- The literal texts of members, with commas between them. -/
def literalMembers : List (String × Json) → List Char
  | [] => []
  | [(name, value)] => literalText name ++ ':' :: ' ' :: literal value
  | (name, value) :: next :: rest =>
    literalText name ++ ':' :: ' ' :: literal value ++ ',' :: ' ' :: literalMembers (next :: rest)

end

end Promotions.Json
