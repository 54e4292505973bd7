import Promotions.Json
import Promotions.Text

/-!
# Writing JSON text

`Json.write` is the compact form: no blanks, members in their order, and only the characters that
JSON requires to be escaped are escaped. How a double is written is left to the caller.
-/

namespace Promotions.Json

/-- A character inside a string: quotes, backslashes and control characters are escaped. -/
def writeChar (c : Char) : String :=
  if c = '"' then "\\\""
  else if c = '\\' then "\\\\"
  else if c.toNat < 32 then String.ofList ('\\' :: 'u' :: Text.hexPadded 4 c.toNat)
  else c.toString

/-- A string between quotes. -/
def writeString (text : String) : String :=
  "\"" ++ text.foldl (fun written c => written ++ writeChar c) "" ++ "\""

mutual

/-- The compact text of a value. -/
def write (double : Double → String) : Json → String
  | .null => "null"
  | .bool true => "true"
  | .bool false => "false"
  | .int value => toString value
  | .double value => double value
  | .str text => writeString text
  | .arr items => "[" ++ writeItems double items ++ "]"
  | .obj members => "\x7b" ++ writeMembers double members ++ "\x7d"

/-- Items with commas between them. -/
def writeItems (double : Double → String) : List Json → String
  | [] => ""
  | [item] => write double item
  | item :: next :: rest => write double item ++ "," ++ writeItems double (next :: rest)

/-- Members with commas between them. -/
def writeMembers (double : Double → String) : List (String × Json) → String
  | [] => ""
  | [(name, value)] => writeString name ++ ":" ++ write double value
  | (name, value) :: next :: rest =>
    writeString name ++ ":" ++ write double value ++ "," ++ writeMembers double (next :: rest)

end

end Promotions.Json
