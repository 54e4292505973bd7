import Promotions.Double

/-!
# JSON values

Free-form payloads (condition values, metadata, proofs, journal details) are JSON trees. Booleans,
integers and doubles are three different values here; `Json.looselyEq` is the coarser comparison
that identifies numbers of one value and ignores the order of object members, and which decides
whether a stored column has to be written again.

An object is the list of its members in order. Objects built by this library never repeat a key;
look-ups take the first member of a name, and a comparison passes over the others.

Texts are sequences of Unicode scalar values, so that a payload never holds a lone surrogate.
-/

namespace Promotions

/-- An integer fits into 64 bits. -/
def fits64 (n : Int) : Bool := -9223372036854775808 ≤ n && n ≤ 9223372036854775807

/-- A JSON value. -/
inductive Json where
  | null
  | bool (value : Bool)
  | int (value : Int)
  | double (value : Double)
  | str (value : String)
  | arr (items : List Json)
  | obj (members : List (String × Json))
  deriving BEq, Repr, Inhabited

namespace Json

/-- The object without members. -/
def empty : Json := .obj []

/-- Text, or null where there is none. -/
def ofText? : Option String → Json
  | some text => .str text
  | none => .null

/-- A stored number: an integer, or the nearest double if it does not fit into 64 bits. -/
def ofStored (n : Int) : Json := if fits64 n then .int n else .double (.ofInt n)

/-- The first member of a name. -/
def lookup (name : String) : List (String × Json) → Option Json
  | [] => none
  | (key, value) :: rest => if key = name then some value else lookup name rest

/-- The member of a name, if the value is an object that has one. -/
def get? (name : String) : Json → Option Json
  | .obj members => lookup name members
  | _ => none

/-- Sets the member of a name: in its place if there is one, else at the end. -/
def assign (name : String) (value : Json) : List (String × Json) → List (String × Json)
  | [] => [(name, value)]
  | (key, old) :: rest =>
    if key = name then (key, value) :: rest else (key, old) :: assign name value rest

/-- An object is a JSON value with named members. -/
def isObject : Json → Bool
  | .obj _ => true
  | _ => false

/-- A value is an object or absent (null). -/
def isObjectOrNull : Json → Bool
  | .obj _ => true
  | .null => true
  | _ => false

/-- Null, false, zero, and the empty string, list and object count as no value. -/
def truthy : Json → Bool
  | .null => false
  | .bool value => value
  | .int value => value != 0
  | .double value => value.toRat? != some 0
  | .str value => value != ""
  | .arr items => !items.isEmpty
  | .obj members => !members.isEmpty

/-- The parts of a value: the items of a list, the characters of a text, the names in an object.
Other values have no parts. -/
def parts? : Json → Option (List Json)
  | .arr items => some items
  | .str text => some (text.toList.map fun c => .str (String.ofList [c]))
  | .obj members => some (members.map fun (name, _) => .str name)
  | _ => none

/-- A payload that counts as no value is kept as the empty object. -/
def orEmpty (payload : Json) : Json := if payload.truthy then payload else empty

/-- The number that a value counts as; `true` counts as one and `false` as zero. -/
def toRat? : Json → Option Rat
  | .bool value => some (if value then 1 else 0)
  | .int value => some value
  | .double value => value.toRat?
  | _ => none

/-- Two values count as one number, or are one and the same double that is none. -/
def sameNumber (a b : Json) : Bool :=
  match a.toRat?, b.toRat? with
  | some x, some y => x == y
  | _, _ =>
    match a, b with
    | .double x, .double y => x == y
    | _, _ => false

mutual

/-- Two values are loosely the same: numbers (booleans among them) by their value, lists item by
item, objects member by member in any order. -/
def looselyEq : Json → Json → Bool
  | .null, .null => true
  | .str a, .str b => a == b
  | .arr a, .arr b => itemsLooselyEq a b
  | .obj a, .obj b => a.length == b.length && membersLooselyEq [] a b
  | a, b => sameNumber a b

/-- Two lists are loosely the same item by item. -/
def itemsLooselyEq : List Json → List Json → Bool
  | [], [] => true
  | a :: as, b :: bs => looselyEq a b && itemsLooselyEq as bs
  | _, _ => false

/-- Every member of the first list, but for those of the names given, has a loosely equal member of
its name in the second. Of several members of one name the first counts. -/
def membersLooselyEq (passed : List String) :
    List (String × Json) → List (String × Json) → Bool
  | [], _ => true
  | (key, a) :: rest, bs =>
    (passed.contains key ||
      match lookup key bs with
      | some b => looselyEq a b
      | none => false) && membersLooselyEq (key :: passed) rest bs

end

mutual

/-- The height of a value: one for a value without parts, otherwise one more than that of its
highest part. -/
def height : Json → Nat
  | .arr items => heightOfItems items + 1
  | .obj members => heightOfMembers members + 1
  | _ => 1

/-- The greatest height among the items of a list. -/
def heightOfItems : List Json → Nat
  | [] => 0
  | item :: rest => max (height item) (heightOfItems rest)

/-- The greatest height among the members of an object. -/
def heightOfMembers : List (String × Json) → Nat
  | [] => 0
  | (_, value) :: rest => max (height value) (heightOfMembers rest)

end

mutual

/-- Lists and objects are nested at most `depth` deep, and integers have at most `digits` digits. -/
def isWithin (digits : Nat) : Nat → Json → Bool
  | _, .int value => (Nat.toDigits 10 value.natAbs).length ≤ digits
  | 0, .arr _ | 0, .obj _ => false
  | depth + 1, .arr items => itemsWithin digits depth items
  | depth + 1, .obj members => membersWithin digits depth members
  | _, _ => true

/-- `isWithin` for the items of a list. -/
def itemsWithin (digits depth : Nat) : List Json → Bool
  | [] => true
  | item :: rest => isWithin digits depth item && itemsWithin digits depth rest

/-- `isWithin` for the members of an object. -/
def membersWithin (digits depth : Nat) : List (String × Json) → Bool
  | [] => true
  | (_, value) :: rest => isWithin digits depth value && membersWithin digits depth rest

end

/-- Values up to this height can be shown as parts of a payload. -/
def greatestHeight : Nat := 255

/-- A payload whose parts are all low enough to be shown. -/
def isShallow : Json → Bool
  | .obj members => members.all fun (_, value) => value.height ≤ greatestHeight
  | _ => true

mutual

/-- A value as it is shown: a double that stands for no number is shown as null, at every depth. -/
def finite : Json → Json
  | .double value => if value.isFinite then .double value else .null
  | .arr items => .arr (finiteItems items)
  | .obj members => .obj (finiteMembers members)
  | value => value

/-- `finite` on the items of a list. -/
def finiteItems : List Json → List Json
  | [] => []
  | item :: rest => finite item :: finiteItems rest

/-- `finite` on the members of an object. -/
def finiteMembers : List (String × Json) → List (String × Json)
  | [] => []
  | (name, value) :: rest => (name, finite value) :: finiteMembers rest

end

/-- Member names that start with `_sa` are reserved and are never shown or written to the
journal. -/
def isReserved (name : String) : Bool := ['_', 's', 'a'].isPrefixOf name.toList

mutual

/-- A value without its reserved members, at every depth. -/
def withoutReserved : Json → Json
  | .arr items => .arr (withoutReservedItems items)
  | .obj members => .obj (withoutReservedMembers members)
  | value => value

/-- `withoutReserved` on the items of a list. -/
def withoutReservedItems : List Json → List Json
  | [] => []
  | item :: rest => withoutReserved item :: withoutReservedItems rest

/-- `withoutReserved` on the members of an object. -/
def withoutReservedMembers : List (String × Json) → List (String × Json)
  | [] => []
  | (name, value) :: rest =>
    if isReserved name then withoutReservedMembers rest
    else (name, withoutReserved value) :: withoutReservedMembers rest

end

end Json

end Promotions
