import Promotions.Form.Field

/-!
# Forms for rewards

`RewardDraft` describes a new reward, `RewardPatch` the changes to one. Either can be filled into
another form of its kind once it was read (`refilled`).
-/

namespace Promotions

/-- A new reward. -/
structure RewardDraft where
  eventId : Id
  name : String
  description : Option String
  type : RewardType
  value : String
  metadata : Option Json
  totalQuantity : Int
  expiryDate : Option Timestamp
  deriving Repr

/-- Changes to a reward. -/
structure RewardPatch where
  name : Edit String := .keep
  description : Edit String := .keep
  type : Edit RewardType := .keep
  value : Edit String := .keep
  metadata : Edit Json := .keep
  totalQuantity : Edit Int := .keep
  expiryDate : Edit Timestamp := .keep
  deriving Repr

open FormField

namespace RewardDraft

/-- Reads a new reward. -/
def read (form : List (String × Json)) : Checked RewardDraft :=
  ((required "event_id" identifier form).map mk)
    |>.ap (required "name" someText form)
    |>.ap (optional "description" text form)
    |>.ap (required "type" word form)
    |>.ap (required "value" text form)
    |>.ap (optional "metadata" object form)
    |>.ap (required "total_quantity" (integerFrom 0) form)
    |>.ap (optional "expiry_date" timestamp form)

/-- A form for a new reward, filled in with a draft. -/
def refilled (draft : RewardDraft) : Checked RewardDraft :=
  ((filled "event_id" .ok draft.eventId).map mk)
    |>.ap (filled "name" someTextAgain draft.name)
    |>.ap (filledOptional "description" textAgain draft.description)
    |>.ap (filled "type" wordAgain draft.type)
    |>.ap (filled "value" textAgain draft.value)
    |>.ap (filledOptional "metadata" object draft.metadata)
    |>.ap (filled "total_quantity" (integerAgain 0) draft.totalQuantity)
    |>.ap (filledOptional "expiry_date" .ok draft.expiryDate)

end RewardDraft

namespace RewardPatch

/-- Reads changes to a reward. -/
def read (form : List (String × Json)) : Checked RewardPatch :=
  ((edit "name" someText form).map mk)
    |>.ap (edit "description" text form)
    |>.ap (edit "type" word form)
    |>.ap (edit "value" text form)
    |>.ap (edit "metadata" object form)
    |>.ap (edit "total_quantity" (integerFrom 0) form)
    |>.ap (edit "expiry_date" timestamp form)

/-- A form for changes to a reward, filled in with what a patch hands on. -/
def refilled (patch : RewardPatch) : Checked RewardPatch :=
  ((filledEdit "name" someTextAgain patch.name.handedOn).map mk)
    |>.ap (filledEdit "description" textAgain patch.description.handedOn)
    |>.ap (filledEdit "type" wordAgain patch.type.handedOn)
    |>.ap (filledEdit "value" textAgain patch.value.handedOn)
    |>.ap (filledEdit "metadata" object patch.metadata.handedOn)
    |>.ap (filledEdit "total_quantity" (integerAgain 0) patch.totalQuantity.handedOn)
    |>.ap (filledEdit "expiry_date" .ok patch.expiryDate.handedOn)

/-- The names of the fields that a patch gives, in alphabetical order. -/
def changes (patch : RewardPatch) : List String :=
  [("description", patch.description.isGiven),
    ("expiry_date", patch.expiryDate.isGiven),
    ("metadata", patch.metadata.isGiven),
    ("name", patch.name.isGiven),
    ("total_quantity", patch.totalQuantity.isGiven),
    ("type", patch.type.isGiven),
    ("value", patch.value.isGiven)].filterMap fun (name, given) => if given then some name else none

end RewardPatch

end Promotions
