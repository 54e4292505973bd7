import Promotions.Outcome

/-!
# Copying metadata

A grant gets a copy of its reward's metadata. An object is copied as it is, and so is any value that
counts as no value. Of other metadata the parts are taken, each of which has to have two parts
itself: the name of a member and its content. A name that comes again sets the content anew.
-/

namespace Promotions.Metadata

/-- The name and the content that an item stands for. -/
def pair (item : Json) : Except Fault (Json × Json) :=
  match item.parts? with
  | some [name, content] => .ok (name, content)
  | some _ => .error .unpairedMetadata
  | none => .error .badMetadata

/-- A value can be the name of a member: it is neither a list nor an object. -/
def canName : Json → Bool
  | .arr _ | .obj _ => false
  | _ => true

/-- Sets the content of a name: in its place if it is there, else at the end. -/
def assign (name content : Json) : List (Json × Json) → List (Json × Json)
  | [] => [(name, content)]
  | (known, old) :: rest =>
    if Json.looselyEq known name then (known, content) :: rest
    else (known, old) :: assign name content rest

/-- The members that items make, added to those before them. -/
def gather (members : List (Json × Json)) : List Json → Except Fault (List (Json × Json))
  | [] => .ok members
  | item :: rest =>
    match pair item with
    | .error fault => .error fault
    | .ok (name, content) =>
      if canName name then gather (assign name content members) rest else .error .badMetadata

/-- The name of a member as a step of a path, if it is no text. -/
def oddName? : Json → Option String
  | .str _ => none
  | .bool value => some (if value then "1" else "0")
  | value => some (String.ofList value.literal)

/-- Copied metadata. -/
structure Copied where
  content : Json
  /-- The names of its members that are no texts, with which the copy cannot be shown. -/
  oddNames : List String := []
  deriving Repr

namespace Copied

/-- The issues of the names that are no texts. -/
def issues (copied : Copied) : List Issue :=
  copied.oddNames.map fun name => ⟨["meta", name, "[key]"], .notText⟩

/-- A view of a row that holds the copy, if all names are texts. -/
def checked (copied : Copied) (view : Except Fault Json) : Except Fault Json :=
  if copied.oddNames.isEmpty then view else .error (.unshowable copied.issues)

end Copied

/-- The members of an object, those with texts as names. -/
def named (members : List (Json × Json)) : List (String × Json) :=
  members.filterMap fun
    | (.str name, content) => some (name, content)
    | _ => none

/-- Copies metadata. -/
def copy (metadata : Json) : Except Fault Copied :=
  if metadata.isObject || !metadata.truthy then .ok { content := metadata }
  else
    match metadata.parts? with
    | none => .error .badMetadata
    | some items =>
      match gather [] items with
      | .ok members =>
        .ok { content := .obj (named members), oddNames := members.filterMap (oddName? ·.1) }
      | .error fault => .error fault

end Promotions.Metadata
