import Promotions.Vocabulary
import Promotions.Id
import Promotions.Calendar.Reader
import Promotions.Form.Issue

/-!
# Reading fields

A `Checked` value is a value or the issues that stand against it. Readers of single values turn a
JSON value into a typed one; several readings are put together with `Checked.ap`, which collects the
issues of both sides in order. The members of an object are read by name: `required`, `optional`
(absent and null are no value), `withDefault`, and `edit`, which tells an absent field from a null
one. `filled`, `filledOptional` and `filledEdit` take the values from another form instead.
-/

namespace Promotions

/-- A value, or the issues that stand against it. -/
abbrev Checked (α : Type) := Except (List Issue) α

namespace Checked

variable {α β : Type}

/-- A single issue with the value itself. -/
def fail (kind : IssueKind) : Checked α := .error [⟨[], kind⟩]

/-- Changes the value, if there is one. -/
def map (f : α → β) : Checked α → Checked β
  | .ok x => .ok (f x)
  | .error issues => .error issues

/-- Applies a checked function to a checked value, with the issues of both. -/
def ap (f : Checked (α → β)) (x : Checked α) : Checked β :=
  match f, x with
  | .ok f, .ok x => .ok (f x)
  | .ok _, .error issues => .error issues
  | .error issues, .ok _ => .error issues
  | .error issues, .error more => .error (issues ++ more)

/-- The issues seen from one level further out. -/
def under (step : String) (x : Checked α) : Checked α :=
  match x with
  | .ok x => .ok x
  | .error issues => .error (issues.map (·.under step))

/-- Both values, with the issues of both. -/
def both (x : Checked α) (y : Checked β) : Checked (α × β) := (x.map Prod.mk).ap y

end Checked

/-- A change to a column: left as it is, cleared, or set. -/
inductive Edit (α : Type) where
  | keep
  | clear
  | set (value : α)
  deriving DecidableEq, Repr, Inhabited

namespace Edit

variable {α β : Type}

/-- The field was given. -/
def isGiven : Edit α → Bool
  | keep => false
  | _ => true

/-- The column was cleared. -/
def isClear : Edit α → Bool
  | clear => true
  | _ => false

/-- The value that was set. -/
def value? : Edit α → Option α
  | set value => some value
  | _ => none

/-- The new content of a column that may be empty. -/
def apply (old : Option α) : Edit α → Option α
  | keep => old
  | clear => none
  | set value => some value

/-- The new content of a column that may not be empty; clearing leaves it. -/
def getD (old : α) : Edit α → α
  | set value => value
  | _ => old

/-- Changes the value that is set. -/
def map (f : α → β) : Edit α → Edit β
  | keep => keep
  | clear => clear
  | set value => set (f value)

/-- What is handed on of a field to another form: nothing if it was not given, else its value or
null. -/
def handedOn : Edit α → Option (Option α)
  | keep => none
  | clear => some none
  | set value => some (some value)

end Edit

namespace FormField

variable {α : Type}

/-- Any value. -/
def any (value : Json) : Checked Json := .ok value

/-- A string. -/
def text : Json → Checked String
  | .str value => .ok value
  | _ => .fail .notText

/-- A string that is not empty. -/
def someText : Json → Checked String
  | .str value => if value = "" then .fail .emptyText else .ok value
  | _ => .fail .notText

/-- One of the listed words. -/
def word [Word α] : Json → Checked α
  | .str value =>
    if value ∈ Word.words α then .ok (Word.ofName value) else .fail (.notListed (Word.words α))
  | _ => .fail (.notListed (Word.words α))

/-- An object. -/
def object : Json → Checked Json
  | .obj members => .ok (.obj members)
  | _ => .fail .notObject

/-- A list that is not empty. -/
def someList : Json → Checked (List Json)
  | .arr [] => .fail .emptyList
  | .arr items => .ok items
  | _ => .fail .notList

/-- The integer that a text writes between blanks. If the text begins with a plain numeral, that has
to keep the limit of digits, whatever follows; other numerals over the limit are not understood. -/
def integerText (text : String) : Checked Int :=
  let numeral := Text.stripped Text.isWhiteSpace text.toList
  if Text.digitLimit < (Text.plainStart numeral).length then .fail .oversizedInteger
  else
    match (Text.simplified? numeral).bind Text.plain? with
    | some n => .ok n
    | none => .fail .unclearInteger

/-- The integer that a double stands for. It has to lie within the bounds of 64 bits. -/
def integerDouble (d : Double) : Checked Int :=
  match d.toRat? with
  | none => .fail .infiniteInteger
  | some number =>
    if number.den ≠ 1 then .fail .fractionalInteger
    else if number.num.natAbs < 9223372036854775808 then .ok number.num
    else .fail .oversizedInteger

/-- An integer: a number without fraction, a boolean as zero or one, or a text that writes one. -/
def integer : Json → Checked Int
  | .int value => .ok value
  | .bool value => .ok (if value then 1 else 0)
  | .double value => integerDouble value
  | .str value => integerText value
  | _ => .fail .notInteger

/-- An integer that is not below a bound. -/
def integerFrom (bound : Int) (value : Json) : Checked Int :=
  match integer value with
  | .ok number => if number < bound then .fail (.integerBelow bound) else .ok number
  | .error issues => .error issues

/-- The words for true. -/
def yesWords : List String := ["true", "t", "yes", "y", "on", "1"]

/-- The words for false. -/
def noWords : List String := ["false", "f", "no", "n", "off", "0"]

/-- A boolean from an integer: one or zero. -/
def flagOfInt (n : Int) : Checked Bool :=
  if n = 1 then .ok true
  else if n = 0 then .ok false
  else .fail .unclearFlag

/-- A boolean: itself, a one or zero, or one of the words for true and false in any case. -/
def flag : Json → Checked Bool
  | .bool value => .ok value
  | .str value =>
    let word := String.ofList (value.toList.map Char.toLower)
    if word ∈ yesWords then .ok true
    else if word ∈ noWords then .ok false
    else .fail .unclearFlag
  | .int value => if fits64 value then flagOfInt value else .fail .notFlag
  | .double value =>
    match integerDouble value with
    | .ok number => flagOfInt number
    | .error _ => .fail .notFlag
  | _ => .fail .notFlag

/-- An identifier in one of its strict spellings. -/
def identifier : Json → Checked Id
  | .str value =>
    match Id.read? value with
    | some id => .ok id
    | none => .fail .malformedId
  | _ => .fail .notId

/-- A timestamp. -/
def timestamp (value : Json) : Checked Timestamp :=
  match Timestamp.ofJson? value with
  | some timestamp => .ok timestamp
  | none => .fail .notTimestamp

/-- The items of a list read one by one, the first of which has number `index`. -/
def itemsFrom (read : Json → Checked α) : Nat → List Json → Checked (List α)
  | _, [] => .ok []
  | index, item :: rest =>
    (((read item).under (toString index)).map List.cons).ap (itemsFrom read (index + 1) rest)

/-- A list, item by item. -/
def list (read : Json → Checked α) : Json → Checked (List α)
  | .arr items => itemsFrom read 0 items
  | _ => .fail .notList

/-- A value or null. -/
def nullable (read : Json → Checked α) : Json → Checked (Option α)
  | .null => .ok none
  | value => (read value).map some

/-- The field of a name, which has to be there. -/
def required (name : String) (read : Json → Checked α) (form : List (String × Json)) : Checked α :=
  match Json.lookup name form with
  | some value => (read value).under name
  | none => .error [⟨[name], .missing⟩]

/-- The field of a name, or its default. -/
def withDefault (name : String) (default : α) (read : Json → Checked α)
    (form : List (String × Json)) : Checked α :=
  match Json.lookup name form with
  | some value => (read value).under name
  | none => .ok default

/-- The field of a name, if it is there and not null. -/
def optional (name : String) (read : Json → Checked α) (form : List (String × Json)) :
    Checked (Option α) :=
  withDefault name none (nullable read) form

/-- The change that the field of a name asks for. -/
def edit (name : String) (read : Json → Checked α) (form : List (String × Json)) :
    Checked (Edit α) :=
  match Json.lookup name form with
  | none => .ok .keep
  | some .null => .ok .clear
  | some value => ((read value).under name).map .set

/-! ### Checking once more

A form can be filled in with values that another form has read. They are checked once more then,
each as what it has become: a word as its text, a number as an integer. Dates and identifiers pass
as they are. -/

/-- A text that is handed on. -/
def textAgain (value : String) : Checked String := text (.str value)

/-- A text that is handed on and may not be empty. -/
def someTextAgain (value : String) : Checked String := someText (.str value)

/-- A word that is handed on. -/
def wordAgain [Word α] (value : α) : Checked α := word (.str (Word.name value))

/-- A boolean that is handed on. -/
def flagAgain (value : Bool) : Checked Bool := flag (.bool value)

/-- An integer that is handed on. -/
def integerAgain (bound value : Int) : Checked Int := integerFrom bound (.int value)

/-- The field of a name, filled in with a value. -/
def filled (name : String) (check : α → Checked α) (value : α) : Checked α :=
  (check value).under name

/-- The field of a name, filled in with a value or null. -/
def filledOptional (name : String) (check : α → Checked α) : Option α → Checked (Option α)
  | none => .ok none
  | some value => (filled name check value).map some

/-- The change that the field of a name asks for, filled in with what was handed on of it. -/
def filledEdit (name : String) (check : α → Checked α) : Option (Option α) → Checked (Edit α)
  | none => .ok .keep
  | some none => .ok .clear
  | some (some value) => (filled name check value).map .set

end FormField

end Promotions
