import Promotions.Form.Schema
import Promotions.Proofs.Activity
import Promotions.Proofs.Surfaces

/-!
# Which proofs meet a condition

An event takes a proof while it is active, if the proof meets its condition. The word of the
condition and one member of the proof decide that (`Proves`): a presence needs no proof, a purchase
a `purchaseId` that counts as something (`Json.IsNaught`), and invitations a list `invitedUsers`
with some item.

The check goes a longer way (`Event.verifies`). It looks the word up in a register of verifiers,
takes a proof that is no object for the empty object, and lets the verifier hold it against a
schema, which keeps all members that it does not know. Both ways come to the same
(`Event.verifies_eq`), so that a schema is asked for nothing but its own member, and no word has a
verifier but those of the register.
-/

namespace Promotions

/-! ### Values that count as none -/

/-- **The doubles that count as zero** are the two zeros. -/
theorem Double.toRat?_eq_zero_iff {d : Double} :
    d.toRat? = some 0 ↔ d.bits = 0 ∨ d.bits = 0x8000000000000000 := by
  have hbound : d.bits.toNat < 2 ^ 64 := d.bits.toNat_lt
  rw [← UInt64.toNat_inj, ← UInt64.toNat_inj, UInt64.toNat_ofNat, UInt64.toNat_ofNat]
  unfold toRat?
  simp -zeta only [Nat.shiftRight_eq_div_pow, Nat.one_shiftLeft]
  generalize d.bits.toNat = n at hbound ⊢
  extract_lets bits fraction exponent magnitude signed
  have hfraction : fraction = bits % 2 ^ 52 := rfl
  have hexponent : exponent = bits / 2 ^ 52 % 2 ^ 11 := rfl
  have hmagnitude : magnitude = if exponent = 0 then fraction else fraction + 2 ^ 52 := rfl
  have hsign : signed = 0 ↔ magnitude = 0 := by
    unfold signed
    split_ifs <;> omega
  clear_value fraction exponent magnitude signed
  -- a number is zero if its bits are, the sign apart
  have hzero : signed = 0 ↔ bits = 0 ∨ bits = 2 ^ 63 := by
    rw [hsign, hmagnitude]
    by_cases hexp : exponent = 0
    · rw [if_pos hexp]
      omega
    · rw [if_neg hexp]
      omega
  have hpositive (k : Nat) : 2 ^ k ≠ 0 := Nat.ne_of_gt (Nat.two_pow_pos k)
  split_ifs with hspecial hsmall
  · exact iff_of_false (by simp) (by omega)
  · rw [Option.some.injEq, Rat.mkRat_eq_zero (hpositive _)]
    exact hzero
  · rw [Option.some.injEq, Rat.mkRat_eq_zero Nat.one_ne_zero, Int.mul_eq_zero, hzero]
    exact or_iff_left (by exact_mod_cast hpositive _)

namespace Json

/-- **A value that counts as none**: null, false, a zero, or an empty text, list or object. -/
inductive IsNaught : Json → Prop
  | null : IsNaught .null
  | no : IsNaught (.bool false)
  | zero : IsNaught (.int 0)
  | positiveZero : IsNaught (.double ⟨0⟩)
  | negativeZero : IsNaught (.double ⟨0x8000000000000000⟩)
  | emptyText : IsNaught (.str "")
  | emptyList : IsNaught (.arr [])
  | emptyObject : IsNaught (.obj [])

theorem truthy_eq_false_iff {value : Json} : value.truthy = false ↔ value.IsNaught := by
  constructor
  · intro h
    cases value with
    | null => exact .null
    | bool value =>
      cases (show value = false from h)
      exact .no
    | int value =>
      cases (show value = 0 by simpa [truthy] using h)
      exact .zero
    | double value =>
      have hzero : value.toRat? = some 0 := by simpa [truthy] using h
      obtain ⟨bits⟩ := value
      rcases Double.toRat?_eq_zero_iff.mp hzero with rfl | rfl
      · exact .positiveZero
      · exact .negativeZero
    | str value =>
      cases (show value = "" by simpa [truthy] using h)
      exact .emptyText
    | arr items =>
      cases (show items = [] by simpa [truthy] using h)
      exact .emptyList
    | obj members =>
      cases (show members = [] by simpa [truthy] using h)
      exact .emptyObject
  · intro h
    cases h with
    | positiveZero => simp [truthy, Double.toRat?_eq_zero_iff]
    | negativeZero => simp [truthy, Double.toRat?_eq_zero_iff]
    | null | no | zero | emptyText | emptyList | emptyObject => rfl

/-- A proof as a verifier gets it: one that is no object counts as the empty object. -/
def asObject (proof : Json) : Json := if proof.isObject then proof else empty

theorem lookup_filter_of_ne {name other : String} (hne : other ≠ name)
    (members : List (String × Json)) :
    lookup other (members.filter fun member => member.1 ≠ name) = lookup other members := by
  induction members with
  | nil => rfl
  | cons member rest ih =>
    obtain ⟨key, value⟩ := member
    by_cases hkey : key = name
    · simpa [hkey, lookup, hne.symm] using ih
    · simp only [hkey, List.filter_cons, lookup, ne_eq, not_false_eq_true, decide_true, if_true]
      rw [ih]

end Json

/-! ### The schemas of proofs -/

namespace Schema

/-- A value fits a schema. -/
def accepts (schema : Schema) (value : Json) : Bool := (schema.validate value).isOk

/-- **A schema of one field** asks for that field alone, and for none of the members beside it. -/
theorem accepts_asObject {schema : Schema} {field : String} {read : Json → Checked Json}
    (hcheck : schema.check = single field read) (proof : Json) :
    schema.accepts proof.asObject = (proof.get? field).any fun value => (read value).isOk := by
  obtain ⟨members, hobject, hfield⟩ : ∃ members, proof.asObject = .obj members ∧
      proof.get? field = Json.lookup field members := by
    cases proof <;> exact ⟨_, rfl, rfl⟩
  rw [hobject, hfield]
  unfold accepts validate
  dsimp only
  rw [hcheck]
  unfold single FormField.required
  cases Json.lookup field members with
  | none => rfl
  | some value =>
    dsimp only [Option.any_some]
    cases read value <;> rfl

theorem accepts_purchaseProof {proof : Json} : purchaseProof.accepts proof.asObject = true ↔
    ∃ value, proof.get? "purchaseId" = some value ∧ ¬value.IsNaught := by
  rw [accepts_asObject rfl, Option.any_eq_true]
  refine exists_congr fun value => and_congr_right fun _ => ?_
  rw [← Json.truthy_eq_false_iff]
  cases value.truthy <;> simp [Checked.fail, Except.isOk, Except.toBool]

theorem accepts_invitationProof {proof : Json} : invitationProof.accepts proof.asObject = true ↔
    ∃ items, proof.get? "invitedUsers" = some (.arr items) ∧ items ≠ [] := by
  have hlist (value : Json) : ((FormField.someList value).map Json.arr).isOk = true ↔
      ∃ items, value = .arr items ∧ items ≠ [] := by
    unfold FormField.someList
    split <;> simp_all [Checked.fail, Checked.map, Except.isOk, Except.toBool]
  rw [accepts_asObject rfl, Option.any_eq_true]
  constructor
  · rintro ⟨value, hvalue, hok⟩
    obtain ⟨items, rfl, hsome⟩ := (hlist value).mp hok
    exact ⟨items, hvalue, hsome⟩
  · rintro ⟨items, hitems, hsome⟩
    exact ⟨_, hitems, (hlist _).mpr ⟨items, rfl, hsome⟩⟩

end Schema

/-! ### Conditions -/

/-- **A proof meets the condition of a word**: any proof is one of presence, a purchase is named by
something, and somebody is listed as invited. -/
def Proves (word : String) (proof : Json) : Prop :=
  (word = "LOGIN_DAYS" ∨ word = "ATTENDANCE") ∨
  (word = "PURCHASE_AMOUNT" ∧
    ∃ value, proof.get? "purchaseId" = some value ∧ ¬value.IsNaught) ∨
  (word = "INVITE_FRIENDS" ∧
    ∃ items, proof.get? "invitedUsers" = some (.arr items) ∧ items ≠ [])

/-- The member of a proof that a condition is about, if it is about one. -/
def decisiveMember? (word : String) : Option String :=
  if word = "PURCHASE_AMOUNT" then some "purchaseId"
  else if word = "INVITE_FRIENDS" then some "invitedUsers"
  else none

/-- The verifiers, by the words of the conditions that they are for. -/
def verifiers : List (String × (Json → Bool)) :=
  [("LOGIN_DAYS", fun _ => true), ("ATTENDANCE", fun _ => true),
    ("PURCHASE_AMOUNT", Schema.purchaseProof.accepts),
    ("INVITE_FRIENDS", Schema.invitationProof.accepts)]

/-- The verifier of a condition. -/
def verifier? (word : String) : Option (Json → Bool) :=
  (verifiers.find? fun entry => entry.1 = word).map Prod.snd

/-- Checks a proof with the verifier of the event's condition, if the event is active. -/
def Event.verifies (event : Event) (proof : Json) (now : Instant) : Bool :=
  if !event.isActiveAt now then false
  else
    match verifier? event.conditionType.name with
    | none => false
    | some verifier => verifier proof.asObject

section
variable {word : String} {proof : Json}

theorem isMetBy_iff :
    (Word.ofName word : ConditionType).isMetBy proof = true ↔ Proves word proof := by
  constructor
  · -- the word is that of the condition which it is read as
    have hword : (Word.ofName word : ConditionType).name = word :=
      show Word.name (Word.ofName word : ConditionType) = word from Word.name_ofName word
    intro h
    generalize (Word.ofName word : ConditionType) = condition at h hword
    subst hword
    cases condition with
    | loginDays => exact Or.inl (Or.inl rfl)
    | attendance => exact Or.inl (Or.inr rfl)
    | purchaseAmount =>
      obtain ⟨value, hvalue, htruthy⟩ := (Option.any_eq_true _ _).mp h
      refine Or.inr (Or.inl ⟨rfl, value, hvalue, fun hnaught => ?_⟩)
      rw [Json.truthy_eq_false_iff.mpr hnaught] at htruthy
      cases htruthy
    | inviteFriends =>
      simp only [ConditionType.isMetBy] at h
      split at h
      · next hitems => exact Or.inr (Or.inr ⟨rfl, _, hitems, by simp⟩)
      · cases h
    | questCompletion | custom | unlisted => cases h
  · rintro ((rfl | rfl) | ⟨rfl, value, hvalue, hsome⟩ | ⟨rfl, items, hitems, hsome⟩)
    · rfl
    · rfl
    · refine (Option.any_eq_true _ _).mpr ⟨value, hvalue, ?_⟩
      rwa [← Json.truthy_eq_false_iff, Bool.not_eq_false] at hsome
    · obtain ⟨item, rest, rfl⟩ := List.exists_cons_of_ne_nil hsome
      show ConditionType.inviteFriends.isMetBy proof = true
      simp only [ConditionType.isMetBy, hitems]

/-- **What a verifier takes** is what meets the condition that it is for. -/
theorem any_verifier?_iff :
    (verifier? word).any (fun verifier => verifier proof.asObject) = true ↔ Proves word proof := by
  unfold Proves
  by_cases hlogin : word = "LOGIN_DAYS"
  · subst hlogin
    simp [verifier?, verifiers]
  by_cases hattendance : word = "ATTENDANCE"
  · subst hattendance
    simp [verifier?, verifiers]
  by_cases hpurchase : word = "PURCHASE_AMOUNT"
  · subst hpurchase
    simp [verifier?, verifiers, Schema.accepts_purchaseProof]
  by_cases hinvitation : word = "INVITE_FRIENDS"
  · subst hinvitation
    simp [verifier?, verifiers, Schema.accepts_invitationProof]
  · have hnone : verifier? word = none := by
      simp [verifier?, verifiers, eq_comm, hlogin, hattendance, hpurchase, hinvitation]
    simp [hnone, hlogin, hattendance, hpurchase, hinvitation]

/-- Proofs that agree in the member that a condition is about meet it alike. -/
theorem Proves.of_get?_eq {other : Json} (h : Proves word proof)
    (hsame : ∀ name, decisiveMember? word = some name → other.get? name = proof.get? name) :
    Proves word other := by
  rcases h with hpresence | ⟨rfl, hpurchase⟩ | ⟨rfl, hinvitation⟩
  · exact Or.inl hpresence
  · rw [← hsame "purchaseId" rfl] at hpurchase
    exact Or.inr (Or.inl ⟨rfl, hpurchase⟩)
  · rw [← hsame "invitedUsers" rfl] at hinvitation
    exact Or.inr (Or.inr ⟨rfl, hinvitation⟩)

end

namespace Event

variable {event : Event} {word : String}
  (hword : event.conditionType = Word.ofName word) {now : Instant}
include hword

theorem admits_iff {proof : Json} : event.admits proof now = true ↔
    (event.status = .active ∧ event.startDate ≤ now ∧ now ≤ event.endDate) ∧
      Proves word proof := by
  unfold admits
  rw [Bool.and_eq_true, Books.isActiveAt_iff, hword, isMetBy_iff]

theorem verifies_eq (proof : Json) : event.verifies proof now = event.admits proof now := by
  have hname : event.conditionType.name = word := by
    rw [hword]
    exact show Word.name (Word.ofName word : ConditionType) = word from Word.name_ofName word
  have hverifier : (verifier? word).any (fun verifier => verifier proof.asObject) = true ↔
      Proves word proof := any_verifier?_iff
  rw [← isMetBy_iff, ← Bool.eq_iff_iff] at hverifier
  unfold verifies admits
  rw [hname, hword, ← hverifier]
  cases event.isActiveAt now <;> cases verifier? word <;> rfl

theorem admits_congr {proof other : Json}
    (hsame : ∀ name, decisiveMember? word = some name → other.get? name = proof.get? name) :
    event.admits other now = event.admits proof now := by
  rw [Bool.eq_iff_iff, admits_iff hword, admits_iff hword]
  refine and_congr_right fun _ => ⟨fun h => h.of_get?_eq fun name hname => ?_,
    fun h => h.of_get?_eq hsame⟩
  exact (hsame name hname).symm

theorem admits_invitedUsers (members : List (String × Json)) {items others : List Json}
    (hitems : items ≠ []) (hothers : others ≠ []) :
    event.admits (.obj (Json.assign "invitedUsers" (.arr others) members)) now =
      event.admits (.obj (Json.assign "invitedUsers" (.arr items) members)) now := by
  by_cases hinvitation : word = "INVITE_FRIENDS"
  · have hproves {listed : List Json} (hlisted : listed ≠ []) :
        Proves word (.obj (Json.assign "invitedUsers" (.arr listed) members)) :=
      Or.inr (Or.inr ⟨hinvitation, listed, Json.lookup_assign_self _ _ _, hlisted⟩)
    rw [Bool.eq_iff_iff, admits_iff hword, admits_iff hword]
    exact and_congr_right fun _ => iff_of_true (hproves hothers) (hproves hitems)
  · refine admits_congr hword fun name hname => ?_
    have hne : name ≠ "invitedUsers" := by
      rintro rfl
      unfold decisiveMember? at hname
      rw [if_neg hinvitation] at hname
      split_ifs at hname
      simp at hname
    exact (Json.lookup_assign_of_ne hne _ _).trans (Json.lookup_assign_of_ne hne _ _).symm

end Event

/-- **What a proof is held against.** For an event with a condition of any word, active at a time or
not, and for every JSON value that is given as a proof, the check comes to an answer, be the event
stored or not and whoever asks: the verifier that the word has, if it has one, takes the proof. The
proof is taken just if the event is active, both ends of its window included, and the word is one of
presence, or that of a purchase and the proof is an object whose `purchaseId` counts as something,
or that of invitations and the proof is an object whose `invitedUsers` is a list with some item. So
nothing changes with the members that the word is not about, be they added, changed or taken away,
or with the items of a list that keeps some. -/
theorem verification_decides {event : Event} {word : String}
    (hword : event.conditionType = Word.ofName word) (now : Instant) :
    (∀ s db eventId userId proof time, db.books.events.find? eventId = some event →
      time.getD s.clock = now →
      (Action.verify eventId userId proof time).perform s db =
        .ok (.truth (event.admits proof now), db)) ∧
    (∀ proof, event.sketch.admits proof { reading := now } = .ok (event.admits proof now) ∧
      event.verifies proof now = event.admits proof now) ∧
    (∀ proof, event.admits proof now = true ↔
      (event.status = .active ∧ event.startDate ≤ now ∧ now ≤ event.endDate) ∧
        ((word = "LOGIN_DAYS" ∨ word = "ATTENDANCE") ∨
        (word = "PURCHASE_AMOUNT" ∧ ∃ members value, proof = .obj members ∧
          Json.lookup "purchaseId" members = some value ∧ ¬value.IsNaught) ∨
        (word = "INVITE_FRIENDS" ∧ ∃ members items, proof = .obj members ∧
          Json.lookup "invitedUsers" members = some (.arr items) ∧ items ≠ []))) ∧
    (∀ members name, decisiveMember? word ≠ some name →
      (∀ value, event.admits (.obj (Json.assign name value members)) now =
        event.admits (.obj members) now) ∧
      event.admits (.obj (members.filter fun member => member.1 ≠ name)) now =
        event.admits (.obj members) now) ∧
    (∀ members items others, items ≠ [] → others ≠ [] →
      event.admits (.obj (Json.assign "invitedUsers" (.arr others) members)) now =
        event.admits (.obj (Json.assign "invitedUsers" (.arr items) members)) now) := by
  refine ⟨fun s db eventId userId proof time hfound htime => ?_, fun proof => ?_, fun proof => ?_,
    fun members name hname => ?_, fun members items others => Event.admits_invitedUsers hword members⟩
  · simp only [Action.perform, Books.findEvent, hfound, htime]
    rfl
  · exact ⟨Event.admits_sketch event proof now, Event.verifies_eq hword proof⟩
  · rw [Event.admits_iff hword]
    -- only an object has members
    refine and_congr_right fun _ => ?_
    cases proof <;> simp [Proves, Json.get?]
  · have hother {other : String} (hdecisive : decisiveMember? word = some other) : other ≠ name :=
      fun heq => hname (heq ▸ hdecisive)
    exact ⟨fun value => Event.admits_congr hword fun other hdecisive =>
        Json.lookup_assign_of_ne (hother hdecisive) value members,
      Event.admits_congr hword fun other hdecisive =>
        Json.lookup_filter_of_ne (hother hdecisive) members⟩

/-- While it is active, an event for invitations takes a proof that names an invited user, and does
not take one that names a purchase. -/
theorem verification_decides_inviting :
    let event : Event :=
      { (default : Event) with status := .active, conditionType := .inviteFriends }
    let now := event.startDate
    event.admits (.obj [("invitedUsers", .arr [.str "bob"])]) now = true ∧
      event.admits (.obj [("purchaseId", .int 7)]) now = false := by
  intro event now
  have hadmits := (verification_decides
    (show event.conditionType = Word.ofName "INVITE_FRIENDS" by decide) now).2.2.1
  constructor
  · refine (hadmits _).mpr ⟨⟨rfl, ?_, ?_⟩, Or.inr (Or.inr ⟨rfl, _, _, rfl, rfl, by simp⟩)⟩
    · decide
    · decide
  · rw [← Bool.not_eq_true, hadmits]
    simp [Json.lookup]

end Promotions
