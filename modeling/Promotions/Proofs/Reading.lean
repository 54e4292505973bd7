import Promotions.Web.Command
import Promotions.Proofs.Spelling

/-!
# Forms that are read

What it means that a reading succeeds: for the readings put together with `Checked.ap`, for the
single fields, and for a form that is filled in with what another form has read. The latter finds
nothing that the first has not found (`EventDraft.refilled_eq_ok` and its like): what was not given
stays so, and what was cleared stays cleared.
-/

namespace Promotions

namespace Checked

variable {α β : Type}

@[simp]
theorem map_eq_ok_iff {f : α → β} {x : Checked α} {b : β} :
    x.map f = .ok b ↔ ∃ a, x = .ok a ∧ f a = b := by
  cases x <;> simp [Checked.map]

@[simp]
theorem ap_eq_ok_iff {f : Checked (α → β)} {x : Checked α} {b : β} :
    f.ap x = .ok b ↔ ∃ g a, f = .ok g ∧ x = .ok a ∧ g a = b := by
  cases f <;> cases x <;> simp [Checked.ap]

@[simp]
theorem under_eq_ok_iff {step : String} {x : Checked α} {a : α} :
    x.under step = .ok a ↔ x = .ok a := by
  cases x <;> simp [Checked.under]

@[simp]
theorem both_eq_ok_iff {x : Checked α} {y : Checked β} {a : α} {b : β} :
    x.both y = .ok (a, b) ↔ x = .ok a ∧ y = .ok b := by
  simp only [both, ap_eq_ok_iff, map_eq_ok_iff]
  constructor
  · rintro ⟨_, b', ⟨a', ha, rfl⟩, hb, hab⟩
    cases hab
    exact ⟨ha, hb⟩
  · rintro ⟨ha, hb⟩
    exact ⟨_, b, ⟨a, ha, rfl⟩, hb, rfl⟩

end Checked

namespace FormField

variable {α : Type}

theorem required_eq_ok {name : String} {read : Json → Checked α}
    {form : List (String × Json)} {a : α} (h : required name read form = .ok a) :
    ∃ value, read value = .ok a := by
  unfold required at h
  split at h
  · next value _ => exact ⟨value, Checked.under_eq_ok_iff.mp h⟩
  · cases h

theorem le_of_integerFrom {bound n : Int} {value : Json} (h : integerFrom bound value = .ok n) :
    bound ≤ n := by
  unfold integerFrom at h
  split at h
  · split at h
    · cases h
    · next hle =>
      cases Except.ok.inj h
      omega
  · cases h

theorem mem_listed_of_ofName [Word α] {word : String} (h : word ∈ Word.words α) :
    (Word.ofName word : α) ∈ (Word.listed : List α) := by
  obtain ⟨value, hvalue, rfl⟩ := List.mem_map.mp h
  unfold Word.ofName
  cases hfind : (Word.listed : List α).find? fun found => Word.name found = Word.name value with
  | none => exact absurd (by simp) (List.find?_eq_none.mp hfind value hvalue)
  | some found => exact List.mem_of_find?_eq_some hfind

theorem mem_listed_of_word [Word α] {value : Json} {a : α} (h : word value = .ok a) :
    a ∈ (Word.listed : List α) := by
  unfold word at h
  split at h
  · split at h
    · next hmem =>
      rw [← Except.ok.inj h]
      exact mem_listed_of_ofName hmem
    · cases h
  · cases h

theorem withDefault_eq_ok {name : String} {default a : α} {read : Json → Checked α}
    {form : List (String × Json)} (h : withDefault name default read form = .ok a) :
    a = default ∨ ∃ value, read value = .ok a := by
  unfold withDefault at h
  split at h
  · next value _ => exact Or.inr ⟨value, Checked.under_eq_ok_iff.mp h⟩
  · exact Or.inl (Except.ok.inj h).symm

theorem nullable_eq_ok {read : Json → Checked α} {value : Json} {a : α}
    (h : nullable read value = .ok (some a)) : read value = .ok a := by
  unfold nullable at h
  split at h
  · cases h
  · obtain ⟨found, hfound, heq⟩ := Checked.map_eq_ok_iff.mp h
    cases heq
    exact hfound

theorem optional_eq_ok {name : String} {read : Json → Checked α} {form : List (String × Json)}
    {a : α} (h : optional name read form = .ok (some a)) : ∃ value, read value = .ok a := by
  rcases withDefault_eq_ok h with hnone | ⟨value, hvalue⟩
  · cases hnone
  · exact ⟨value, nullable_eq_ok hvalue⟩

theorem edit_eq_ok {name : String} {read : Json → Checked α} {form : List (String × Json)} {a : α}
    (h : edit name read form = .ok (.set a)) : ∃ value, read value = .ok a := by
  unfold edit at h
  split at h
  · cases h
  · cases h
  · next value _ _ =>
    obtain ⟨found, hfound, heq⟩ := Checked.map_eq_ok_iff.mp h
    cases heq
    exact ⟨value, Checked.under_eq_ok_iff.mp hfound⟩

theorem ne_empty_of_someText {value : Json} {word : String} (h : someText value = .ok word) :
    word ≠ "" := by
  unfold someText at h
  split at h
  · split at h
    · cases h
    · next hne =>
      rw [← Except.ok.inj h]
      exact hne
  · cases h

theorem isObject_of_object {value payload : Json} (h : object value = .ok payload) :
    payload.isObject = true := by
  unfold object at h
  split at h
  · rw [← Except.ok.inj h]
    rfl
  · cases h

theorem isObjectOrNull_of_optional {name : String} {form : List (String × Json)}
    {payload : Option Json} (h : optional name object form = .ok payload) :
    (payload.getD .null).isObjectOrNull = true := by
  cases payload with
  | none => rfl
  | some payload =>
    obtain ⟨value, hvalue⟩ := optional_eq_ok h
    have hobject := isObject_of_object hvalue
    cases payload with
    | obj members => rfl
    | null | bool | int | double | str | arr => cases hobject

theorem isSpelled_of_identifier {value : Json} {id : Id} (h : identifier value = .ok id) :
    id.IsSpelled := by
  unfold identifier at h
  split at h
  · next text =>
    split at h
    · next found hfound =>
      rw [← Except.ok.inj h]
      exact ⟨text, hfound⟩
    · cases h
  · cases h

theorem itemsFrom_eq_ok {read : Json → Checked α} {index : Nat} {items : List Json} {as : List α}
    (h : itemsFrom read index items = .ok as) : ∀ a ∈ as, ∃ value, read value = .ok a := by
  induction items generalizing index as with
  | nil =>
    cases Except.ok.inj h
    simp
  | cons item rest ih =>
    simp only [itemsFrom, Checked.ap_eq_ok_iff, Checked.map_eq_ok_iff] at h
    obtain ⟨_, others, ⟨first, hfirst, rfl⟩, hrest, rfl⟩ := h
    intro a ha
    rcases List.mem_cons.mp ha with rfl | ha
    · exact ⟨item, Checked.under_eq_ok_iff.mp hfirst⟩
    · exact ih hrest a ha

theorem list_eq_ok {read : Json → Checked α} {value : Json} {as : List α}
    (h : list read value = .ok as) : ∀ a ∈ as, ∃ item, read item = .ok a := by
  unfold list at h
  split at h
  · exact itemsFrom_eq_ok h
  · cases h

/-- A draft or a patch is what reading some form gives. -/
def IsRead {α : Type} (read : List (String × Json) → Checked α) (a : α) : Prop :=
  ∃ form, read form = .ok a

/-! ### Fields that are filled in -/

/-- What was read passes a check as it is. -/
def Confirms (check : α → Checked α) (read : Json → Checked α) : Prop :=
  ∀ {value a}, read value = .ok a → check a = .ok a

theorem textAgain_confirms : Confirms textAgain text := by
  intro value a _
  rfl

theorem someTextAgain_confirms : Confirms someTextAgain someText := by
  intro value a h
  simp only [someTextAgain, someText, if_neg (ne_empty_of_someText h)]

theorem wordAgain_confirms [Word α] : Confirms (wordAgain : α → Checked α) word := by
  intro value a h
  unfold word at h
  split at h
  · split at h
    · next hmem =>
      cases Except.ok.inj h
      simp only [wordAgain, word, Word.name_ofName, if_pos hmem]
    · cases h
  · cases h

theorem flagAgain_confirms : Confirms flagAgain flag := by
  intro value a _
  rfl

theorem integerAgain_confirms (bound : Int) : Confirms (integerAgain bound) (integerFrom bound) := by
  intro value a h
  simp only [integerAgain, integerFrom, integer, if_neg (Int.not_lt.mpr (le_of_integerFrom h))]

theorem object_confirms : Confirms object object := by
  intro value payload h
  have hobject := isObject_of_object h
  cases payload with
  | obj members => rfl
  | null | bool | int | double | str | arr => cases hobject

theorem ok_confirms {read : Json → Checked α} : Confirms .ok read := by
  intro value a _
  rfl

section Filled
variable {name : String} {check : α → Checked α} {read : Json → Checked α}
  (hcheck : Confirms check read) {form : List (String × Json)}
include hcheck

theorem filled_of_required {a : α} (h : required name read form = .ok a) :
    filled name check a = .ok a := by
  obtain ⟨value, hvalue⟩ := required_eq_ok h
  exact Checked.under_eq_ok_iff.mpr (hcheck hvalue)

theorem filled_of_withDefault {default a : α} (hdefault : check default = .ok default)
    (h : withDefault name default read form = .ok a) : filled name check a = .ok a := by
  rcases withDefault_eq_ok h with rfl | ⟨value, hvalue⟩
  · exact Checked.under_eq_ok_iff.mpr hdefault
  · exact Checked.under_eq_ok_iff.mpr (hcheck hvalue)

theorem filledOptional_of_optional {a : Option α} (h : optional name read form = .ok a) :
    filledOptional name check a = .ok a := by
  cases a with
  | none => rfl
  | some a =>
    obtain ⟨value, hvalue⟩ := optional_eq_ok h
    exact Checked.map_eq_ok_iff.mpr ⟨a, Checked.under_eq_ok_iff.mpr (hcheck hvalue), rfl⟩

/-- A field that was not given stays so, one that was cleared stays cleared, and a value that was
set stays the same. -/
theorem filledEdit_of_edit {a : Edit α} (h : edit name read form = .ok a) :
    filledEdit name check a.handedOn = .ok a := by
  cases a with
  | keep | clear => rfl
  | set a =>
    obtain ⟨value, hvalue⟩ := edit_eq_ok h
    exact Checked.map_eq_ok_iff.mpr ⟨a, Checked.under_eq_ok_iff.mpr (hcheck hvalue), rfl⟩

end Filled

end FormField

open FormField

/-! ### Forms that are filled in -/

/-- The fields of a draft of an event, each as it was read. -/
structure EventDraft.ReadFrom (form : List (String × Json)) (draft : EventDraft) : Prop where
  title : required "title" someText form = .ok draft.title
  description : withDefault "description" "" text form = .ok draft.description
  startDate : required "start_date" timestamp form = .ok draft.startDate
  endDate : required "end_date" timestamp form = .ok draft.endDate
  status : withDefault "status" .draft word form = .ok draft.status
  conditionType : required "condition_type" word form = .ok draft.conditionType
  conditionValue : withDefault "condition_value" .empty object form = .ok draft.conditionValue
  autoReward : withDefault "auto_reward" false flag form = .ok draft.autoReward
  allowMultiple :
    withDefault "allow_multiple_participation" false flag form = .ok draft.allowMultiple
  maxParticipants : optional "max_participants" (integerFrom 1) form = .ok draft.maxParticipants

namespace EventDraft

variable {form : List (String × Json)} {draft : EventDraft}

theorem readFrom_of_read (h : read form = .ok draft) : draft.ReadFrom form := by
  simp only [read, Checked.ap_eq_ok_iff, Checked.map_eq_ok_iff] at h
  obtain ⟨_, _, ⟨_, _, ⟨_, _, ⟨_, _, ⟨_, _, ⟨_, _, ⟨_, _, ⟨_, _, ⟨_, _, ⟨_, h0, rfl⟩, h1, rfl⟩, h2,
    rfl⟩, h3, rfl⟩, h4, rfl⟩, h5, rfl⟩, h6, rfl⟩, h7, rfl⟩, h8, rfl⟩, h9, rfl⟩ := h
  exact ⟨h0, h1, h2, h3, h4, h5, h6, h7, h8, h9⟩

/-- **A draft that was read passes another form** as it is. -/
theorem refilled_eq_ok (h : read form = .ok draft) : draft.refilled = .ok draft := by
  have h := readFrom_of_read h
  have hdraft : wordAgain EventStatus.draft = .ok .draft := rfl
  unfold refilled
  rw [filled_of_required someTextAgain_confirms h.title,
    filled_of_withDefault textAgain_confirms rfl h.description,
    filled_of_required ok_confirms h.startDate, filled_of_required ok_confirms h.endDate,
    filled_of_withDefault wordAgain_confirms hdraft h.status,
    filled_of_required wordAgain_confirms h.conditionType,
    filled_of_withDefault object_confirms rfl h.conditionValue,
    filled_of_withDefault flagAgain_confirms rfl h.autoReward,
    filled_of_withDefault flagAgain_confirms rfl h.allowMultiple,
    filledOptional_of_optional (integerAgain_confirms 1) h.maxParticipants]
  rfl

end EventDraft

/-- The fields of a patch of an event, each as it was read. -/
structure EventPatch.ReadFrom (form : List (String × Json)) (patch : EventPatch) : Prop where
  title : edit "title" someText form = .ok patch.title
  description : edit "description" text form = .ok patch.description
  startDate : edit "start_date" timestamp form = .ok patch.startDate
  endDate : edit "end_date" timestamp form = .ok patch.endDate
  status : edit "status" word form = .ok patch.status
  conditionType : edit "condition_type" word form = .ok patch.conditionType
  conditionValue : edit "condition_value" object form = .ok patch.conditionValue
  autoReward : edit "auto_reward" flag form = .ok patch.autoReward
  allowMultiple : edit "allow_multiple_participation" flag form = .ok patch.allowMultiple
  maxParticipants : edit "max_participants" (integerFrom 1) form = .ok patch.maxParticipants

namespace EventPatch

variable {form : List (String × Json)} {patch : EventPatch}

theorem readFrom_of_read (h : read form = .ok patch) : patch.ReadFrom form := by
  simp only [read, Checked.ap_eq_ok_iff, Checked.map_eq_ok_iff] at h
  obtain ⟨_, _, ⟨_, _, ⟨_, _, ⟨_, _, ⟨_, _, ⟨_, _, ⟨_, _, ⟨_, _, ⟨_, _, ⟨_, h0, rfl⟩, h1, rfl⟩, h2,
    rfl⟩, h3, rfl⟩, h4, rfl⟩, h5, rfl⟩, h6, rfl⟩, h7, rfl⟩, h8, rfl⟩, h9, rfl⟩ := h
  exact ⟨h0, h1, h2, h3, h4, h5, h6, h7, h8, h9⟩

/-- **A patch that was read passes another form** as it is. -/
theorem refilled_eq_ok (h : read form = .ok patch) : patch.refilled = .ok patch := by
  have h := readFrom_of_read h
  unfold refilled
  rw [filledEdit_of_edit someTextAgain_confirms h.title,
    filledEdit_of_edit textAgain_confirms h.description,
    filledEdit_of_edit ok_confirms h.startDate, filledEdit_of_edit ok_confirms h.endDate,
    filledEdit_of_edit wordAgain_confirms h.status,
    filledEdit_of_edit wordAgain_confirms h.conditionType,
    filledEdit_of_edit object_confirms h.conditionValue,
    filledEdit_of_edit flagAgain_confirms h.autoReward,
    filledEdit_of_edit flagAgain_confirms h.allowMultiple,
    filledEdit_of_edit (integerAgain_confirms 1) h.maxParticipants]
  rfl

end EventPatch

/-- The fields of a draft of a reward, each as it was read. -/
structure RewardDraft.ReadFrom (form : List (String × Json)) (draft : RewardDraft) : Prop where
  eventId : required "event_id" identifier form = .ok draft.eventId
  name : required "name" someText form = .ok draft.name
  description : optional "description" text form = .ok draft.description
  type : required "type" word form = .ok draft.type
  value : required "value" text form = .ok draft.value
  metadata : optional "metadata" object form = .ok draft.metadata
  totalQuantity : required "total_quantity" (integerFrom 0) form = .ok draft.totalQuantity
  expiryDate : optional "expiry_date" timestamp form = .ok draft.expiryDate

namespace RewardDraft

variable {form : List (String × Json)} {draft : RewardDraft}

theorem readFrom_of_read (h : read form = .ok draft) : draft.ReadFrom form := by
  simp only [read, Checked.ap_eq_ok_iff, Checked.map_eq_ok_iff] at h
  obtain ⟨_, _, ⟨_, _, ⟨_, _, ⟨_, _, ⟨_, _, ⟨_, _, ⟨_, _, ⟨_, h0, rfl⟩, h1, rfl⟩, h2, rfl⟩, h3, rfl⟩,
    h4, rfl⟩, h5, rfl⟩, h6, rfl⟩, h7, rfl⟩ := h
  exact ⟨h0, h1, h2, h3, h4, h5, h6, h7⟩

theorem totalQuantity_nonneg (h : read form = .ok draft) : 0 ≤ draft.totalQuantity := by
  obtain ⟨value, hvalue⟩ := required_eq_ok (readFrom_of_read h).totalQuantity
  exact le_of_integerFrom hvalue

/-- **A draft that was read passes another form** as it is. -/
theorem refilled_eq_ok (h : read form = .ok draft) : draft.refilled = .ok draft := by
  have h := readFrom_of_read h
  unfold refilled
  rw [filled_of_required ok_confirms h.eventId, filled_of_required someTextAgain_confirms h.name,
    filledOptional_of_optional textAgain_confirms h.description,
    filled_of_required wordAgain_confirms h.type, filled_of_required textAgain_confirms h.value,
    filledOptional_of_optional object_confirms h.metadata,
    filled_of_required (integerAgain_confirms 0) h.totalQuantity,
    filledOptional_of_optional ok_confirms h.expiryDate]
  rfl

end RewardDraft

/-- The fields of a patch of a reward, each as it was read. -/
structure RewardPatch.ReadFrom (form : List (String × Json)) (patch : RewardPatch) : Prop where
  name : edit "name" someText form = .ok patch.name
  description : edit "description" text form = .ok patch.description
  type : edit "type" word form = .ok patch.type
  value : edit "value" text form = .ok patch.value
  metadata : edit "metadata" object form = .ok patch.metadata
  totalQuantity : edit "total_quantity" (integerFrom 0) form = .ok patch.totalQuantity
  expiryDate : edit "expiry_date" timestamp form = .ok patch.expiryDate

namespace RewardPatch

variable {form : List (String × Json)} {patch : RewardPatch}

theorem readFrom_of_read (h : read form = .ok patch) : patch.ReadFrom form := by
  simp only [read, Checked.ap_eq_ok_iff, Checked.map_eq_ok_iff] at h
  obtain ⟨_, _, ⟨_, _, ⟨_, _, ⟨_, _, ⟨_, _, ⟨_, _, ⟨_, h0, rfl⟩, h1, rfl⟩, h2, rfl⟩, h3, rfl⟩, h4,
    rfl⟩, h5, rfl⟩, h6, rfl⟩ := h
  exact ⟨h0, h1, h2, h3, h4, h5, h6⟩

/-- **A patch that was read passes another form** as it is. -/
theorem refilled_eq_ok (h : read form = .ok patch) : patch.refilled = .ok patch := by
  have h := readFrom_of_read h
  unfold refilled
  rw [filledEdit_of_edit someTextAgain_confirms h.name,
    filledEdit_of_edit textAgain_confirms h.description,
    filledEdit_of_edit wordAgain_confirms h.type, filledEdit_of_edit textAgain_confirms h.value,
    filledEdit_of_edit object_confirms h.metadata,
    filledEdit_of_edit (integerAgain_confirms 0) h.totalQuantity,
    filledEdit_of_edit ok_confirms h.expiryDate]
  rfl

end RewardPatch

namespace Command

/-- **What was read stays as it is** when it is handed on to a form that takes it as it is. -/
theorem handedOn_eq_self {α β : Type} {refilled : α → Checked α} {x : Checked (α × β)}
    (h : ∀ {a b}, x = .ok (a, b) → refilled a = .ok a) : handedOn refilled x = x := by
  cases x with
  | error issues => rfl
  | ok pair =>
    obtain ⟨a, b⟩ := pair
    exact Checked.map_eq_ok_iff.mpr ⟨a, h rfl, rfl⟩

section
variable {α : Type} {refilled : α → Checked α} {read : List (String × Json) → Checked α}
  (hread : ∀ {form a}, read form = .ok a → refilled a = .ok a)
include hread

theorem handedOn_withUser (payload : List (String × Json)) :
    handedOn refilled (withUser read payload) = withUser read payload :=
  handedOn_eq_self fun h => hread (Checked.both_eq_ok_iff.mp h).1

theorem handedOn_withCaller (field : String) (payload : List (String × Json)) :
    handedOn refilled (withCaller field read payload) = withCaller field read payload :=
  handedOn_eq_self fun h => hread (Checked.both_eq_ok_iff.mp h).1

end

end Command

end Promotions
