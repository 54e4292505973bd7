/-!
# Issues with a form

A form that does not fit its schema is answered with a list of issues: where each one is, a short
code of its kind, and a message.
-/

namespace Promotions

/-- What is wrong with a value. -/
inductive IssueKind where
  | missing
  | notText
  | emptyText
  | notListed (words : List String)
  | notObject
  | notList
  | emptyList
  | purchaseMissing
  | notFlag
  | unclearFlag
  | notInteger
  | unclearInteger
  | fractionalInteger
  /-- An integer of more digits than texts may have, or a double beyond 64 bits. -/
  | oversizedInteger
  /-- An infinity or a not-a-number where an integer should be. -/
  | infiniteInteger
  | integerBelow (bound : Int)
  | notNumber
  | unclearNumber
  | notId
  | malformedId
  | notTimestamp
  /-- The whole form is no object; the name is that of its schema. -/
  | notForm (schema : String)
  /-- The whole body of a request is no object. -/
  | notFields
  deriving DecidableEq, Repr

namespace IssueKind

/-- Words between single quotes, with commas and a final "or". -/
def choice : List String → String
  | [] => ""
  | [word] => "'" ++ word ++ "'"
  | [word, last] => "'" ++ word ++ "' or '" ++ last ++ "'"
  | word :: rest => "'" ++ word ++ "', " ++ choice rest

/-- The code of an issue. -/
def code : IssueKind → String
  | missing => "missing"
  | notText => "string_type"
  | emptyText => "string_too_short"
  | notListed _ => "literal_error"
  | notObject => "dict_type"
  | notList => "list_type"
  | emptyList => "too_short"
  | purchaseMissing => "value_error"
  | notFlag => "bool_type"
  | unclearFlag => "bool_parsing"
  | notInteger => "int_type"
  | unclearInteger => "int_parsing"
  | fractionalInteger => "int_from_float"
  | oversizedInteger => "int_parsing_size"
  | infiniteInteger => "finite_number"
  | integerBelow _ => "greater_than_equal"
  | notNumber => "float_type"
  | unclearNumber => "float_parsing"
  | notId => "uuid_type"
  | malformedId => "uuid_parsing"
  | notTimestamp => "datetime"
  | notForm _ => "model_type"
  | notFields => "model_attributes_type"

/-- The message of an issue. -/
def message : IssueKind → String
  | missing => "Field required"
  | notText => "Input should be a valid string"
  | emptyText => "String should have at least 1 character"
  | notListed words => "Input should be " ++ choice words
  | notObject => "Input should be a valid dictionary"
  | notList => "Input should be a valid list"
  | emptyList => "List should have at least 1 item after validation, not 0"
  | purchaseMissing => "Value error, purchaseId is required"
  | notFlag => "Input should be a valid boolean"
  | unclearFlag => "Input should be a valid boolean, unable to interpret input"
  | notInteger => "Input should be a valid integer"
  | unclearInteger => "Input should be a valid integer, unable to parse string as an integer"
  | fractionalInteger =>
    "Input should be a valid integer, got a number with a fractional part"
  | oversizedInteger => "Unable to parse input string as an integer, exceeded maximum size"
  | infiniteInteger => "Input should be a finite number"
  | integerBelow bound => "Input should be greater than or equal to " ++ toString bound
  | notNumber => "Input should be a valid number"
  | unclearNumber => "Input should be a valid number, unable to parse string as a number"
  | notId => "UUID input should be a string, bytes or UUID object"
  | malformedId => "Input should be a valid UUID"
  | notTimestamp => "Input should be a valid datetime"
  | notForm schema => "Input should be a valid dictionary or instance of " ++ schema
  | notFields => "Input should be a valid dictionary or object to extract fields from"

end IssueKind

/-- An issue: the path to the value, and what is wrong with it. -/
structure Issue where
  path : List String
  kind : IssueKind
  deriving DecidableEq, Repr

namespace Issue

/-- The same issue, seen from one level further out. -/
def under (step : String) (issue : Issue) : Issue := { issue with path := step :: issue.path }

/-- The path with dots, a colon and the message. -/
def line (issue : Issue) : String :=
  ".".intercalate issue.path ++ ": " ++ issue.kind.message

/-- The lines of several issues, with semicolons between them. -/
def lines (issues : List Issue) : String := "; ".intercalate (issues.map line)

end Issue

end Promotions
