import Mathlib.Data.List.Forall2
import Mathlib.Tactic.SplitIfs
import Mathlib.Tactic.IntervalCases
import Promotions.Id

/-!
# The canonical text of an identifier

The text of an identifier is read back as that identifier and as no other (`parse_text_eq_ok`), so
that different identifiers have different texts (`text_injective`), also where something follows
them after a colon (`eq_of_text_append`). An identifier of more than 32 digits has a text too, but
one that nothing reads: whatever is read, strictly or leniently, has 32 digits (`isSpelled_iff`,
`lt_of_ofJson`).

The digits of a number are the characters of a list of values below 16 (`hexPadded_eq`). A text of
such characters passes through every step of the reading unchanged: it has no decoration, no blank,
no sign and no mark, and the number of its values is what is read (`hexadecimal?_text`). Decorations
that it has are dropped first (`undecorated_of_mem`). The strict reading of a request takes 32
digits only, and takes the text of what it has read (`IsSpelled.read?_text`).
-/

namespace Promotions

theorem nodup_eraseDups {α : Type} [BEq α] [LawfulBEq α] (items : List α) :
    items.eraseDups.Nodup := by
  induction hn : items.length using Nat.strongRecOn generalizing items with
  | _ n ih =>
    cases items with
    | nil => simp
    | cons first rest =>
      have hlt : (rest.filter fun other => !other == first).length < n := by
        have := List.length_filter_le (fun other => !other == first) rest
        rw [List.length_cons] at hn
        omega
      rw [List.eraseDups_cons, List.nodup_cons]
      refine ⟨fun hmem => ?_, ih _ hlt _ rfl⟩
      have := List.mem_filter.mp (List.mem_eraseDups.mp hmem)
      simp at this

end Promotions

namespace Promotions.Id

/-- The number that digits of the given values write. -/
def ofValues (values : List Nat) : Nat := values.foldl (fun n d => n * 16 + d) 0

/-- The characters of hexadecimal digits of the given values. -/
def digitsOf (values : List Nat) : List Char := values.map Nat.digitChar

/-! ### Digits -/

theorem exists_values (n : Nat) :
    ∃ values, (∀ d ∈ values, d < 16) ∧ Nat.toDigits 16 n = digitsOf values ∧
      ofValues values = n := by
  induction n using Nat.strongRecOn with
  | _ n ih =>
    by_cases hn : n < 16
    · refine ⟨[n], by simpa using hn, ?_, by simp [ofValues]⟩
      rw [Nat.toDigits_of_lt_base hn]; rfl
    · obtain ⟨values, hlt, hdigits, hvalue⟩ := ih (n / 16) (by omega)
      refine ⟨values ++ [n % 16], ?_, ?_, ?_⟩
      · intro d hd
        rcases List.mem_append.mp hd with hd | hd
        · exact hlt d hd
        · rw [List.mem_singleton.mp hd]; omega
      · rw [Nat.toDigits_of_base_le (by omega) (by omega), hdigits]
        simp [digitsOf]
      · unfold ofValues at hvalue ⊢
        rw [List.foldl_append, hvalue]
        simp only [List.foldl_cons, List.foldl_nil]
        omega

theorem ofValues_zeros (k : Nat) (values : List Nat) :
    ofValues (List.replicate k 0 ++ values) = ofValues values := by
  unfold ofValues
  rw [List.foldl_append]
  congr 1
  induction k with
  | zero => rfl
  | succ k ih => simpa [List.replicate_succ] using ih

/-- **The digits of a number** are the characters of a list of values that write it. -/
theorem hexPadded_eq (width n : Nat) :
    ∃ values, (∀ d ∈ values, d < 16) ∧ values ≠ [] ∧ Text.hexPadded width n = digitsOf values ∧
      ofValues values = n := by
  obtain ⟨values, hlt, hdigits, hvalue⟩ := exists_values n
  have hne : values ≠ [] := by
    rintro rfl
    simp [digitsOf] at hdigits
  refine ⟨List.replicate (width - (digitsOf values).length) 0 ++ values, ?_, by simp [hne], ?_, ?_⟩
  · intro d hd
    rcases List.mem_append.mp hd with hd | hd
    · rw [List.eq_of_mem_replicate hd]; omega
    · exact hlt d hd
  · unfold Text.hexPadded
    rw [hdigits]
    simp [digitsOf]
  · rw [ofValues_zeros, hvalue]

/-- **A plain character**: reading a text leaves it alone. -/
structure IsPlain (c : Char) : Prop where
  ne_dash : c ≠ '-'
  ne_decoration : c ≠ 'u' ∧ c ≠ '{' ∧ c ≠ '}'
  ne_plus : c ≠ '+'
  ne_mark : c ≠ 'x' ∧ c ≠ 'X'
  ne_underscore : c ≠ '_'
  not_blank : Text.isWhiteSpace c = false
  ascii : Text.asciiDigit c = c

theorem isPlain_digitChar {d : Nat} (hd : d < 16) : IsPlain d.digitChar := by
  interval_cases d <;> constructor <;> decide

theorem hexDigit?_digitChar {d : Nat} (hd : d < 16) : Text.hexDigit? d.digitChar = some d := by
  interval_cases d <;> decide

/-! ### Texts that reading leaves alone -/

theorem without_eq_self {c : Char} {word : List Char} (fuel : Nat) {text : List Char}
    (h : c ∉ text) : without (c :: word) fuel text = text := by
  induction fuel generalizing text with
  | zero => rfl
  | succ fuel ih =>
    cases text with
    | nil => rfl
    | cons d rest =>
      have hcd : c ≠ d := fun hcd => h (by simp [hcd])
      rw [without, if_neg (by simp [List.isPrefixOf, hcd]), ih fun hc => h (by simp [hc])]

theorem dropWhile_eq_self {p : Char → Bool} {text : List Char} (h : ∀ c ∈ text, p c = false) :
    text.dropWhile p = text := by
  cases text with
  | nil => rfl
  | cons c rest => simp [h c (by simp)]

theorem stripped_eq_self {p : Char → Bool} {text : List Char} (h : ∀ c ∈ text, p c = false) :
    Text.stripped p text = text := by
  unfold Text.stripped
  rw [dropWhile_eq_self h, dropWhile_eq_self fun c hc => h c (List.mem_reverse.mp hc),
    List.reverse_reverse]

theorem mem_grouped {digits : List Char} {c : Char} (hc : c ∈ grouped digits) :
    c = '-' ∨ c ∈ digits := by
  unfold grouped at hc
  simp only [List.mem_append, List.mem_cons] at hc
  have hpart : ∀ n, c ∈ (digits.drop n).take 4 → c ∈ digits := fun n h =>
    List.mem_of_mem_drop (List.mem_of_mem_take h)
  rcases hc with (((h | h | h) | h | h) | h | h) | h | h
  · exact Or.inr (List.mem_of_mem_take h)
  · exact Or.inl h
  · exact Or.inr (hpart 8 h)
  · exact Or.inl h
  · exact Or.inr (hpart 12 h)
  · exact Or.inl h
  · exact Or.inr (hpart 16 h)
  · exact Or.inl h
  · exact Or.inr (List.mem_of_mem_drop h)

theorem drop_take_append_drop (digits : List Char) (n m : Nat) :
    (digits.drop n).take m ++ digits.drop (n + m) = digits.drop n := by
  rw [← List.drop_drop, List.take_append_drop]

theorem filter_grouped {digits : List Char} (h : '-' ∉ digits) :
    (grouped digits).filter (· != '-') = digits := by
  have hall : digits.filter (· != '-') = digits := by
    refine List.filter_eq_self.mpr fun c hc => ?_
    have : c ≠ '-' := fun hc' => h (hc' ▸ hc)
    simpa using this
  calc (grouped digits).filter (· != '-')
      = (digits.take 8 ++ ((digits.drop 8).take 4 ++ ((digits.drop 12).take 4 ++
          ((digits.drop 16).take 4 ++ digits.drop 20)))).filter (· != '-') := by
        simp [grouped, List.filter_append]
    _ = digits := by
        rw [drop_take_append_drop digits 16, drop_take_append_drop digits 12,
          drop_take_append_drop digits 8, List.take_append_drop, hall]

theorem stripped_between {p : Char → Bool} {first last : Char} (hfirst : p first = true)
    (hlast : p last = true) {body : List Char} (h : ∀ c ∈ body, p c = false) :
    Text.stripped p (first :: body ++ [last]) = body := by
  unfold Text.stripped
  cases body with
  | nil => simp [hfirst, hlast]
  | cons c rest =>
    have hc : p c = false := h c List.mem_cons_self
    have hrest : (rest.reverse ++ [c]).dropWhile p = rest.reverse ++ [c] :=
      dropWhile_eq_self fun d hd => h d (by simpa [or_comm] using hd)
    simp [hfirst, hlast, hc, hrest]

/-- **Whatever decorations digits have**, they are dropped: the dashes between their groups,
`urn:uuid:` before them, and braces around them. -/
theorem undecorated_of_mem {digits body text : List Char} (h : ∀ c ∈ digits, IsPlain c)
    (hbody : body ∈ [digits, grouped digits])
    (htext : text ∈ [body, "urn:uuid:".toList ++ body, '{' :: body ++ ['}']]) :
    undecorated text = digits := by
  simp only [List.mem_cons, List.not_mem_nil, or_false] at hbody htext
  have hdash : '-' ∉ digits := fun hc => (h _ hc).ne_dash rfl
  have hmem : ∀ c ∈ body, c = '-' ∨ c ∈ digits := by
    intro c hc
    rcases hbody with rfl | rfl
    · exact Or.inr hc
    · exact mem_grouped hc
  have hletter : 'u' ∉ body := by
    intro hc
    rcases hmem 'u' hc with hc | hc
    · cases hc
    · exact (h _ hc).ne_decoration.1 rfl
  have hbrace : ∀ c ∈ body, (decide (c = '{') || decide (c = '}')) = false := by
    intro c hc
    rcases hmem c hc with rfl | hc
    · rfl
    · simp [(h c hc).ne_decoration]
  have hfilter : body.filter (· != '-') = digits := by
    rcases hbody with rfl | rfl
    · exact List.filter_eq_self.mpr fun c hc => by simpa using (h c hc).ne_dash
    · exact filter_grouped hdash
  unfold undecorated
  dsimp only
  rcases htext with rfl | rfl | rfl
  · rw [without_eq_self _ hletter, without_eq_self _ hletter, stripped_eq_self hbrace, hfilter]
  · have hfirst : without ['u', 'r', 'n', ':'] ("urn:uuid:".toList ++ body).length
        ("urn:uuid:".toList ++ body) = "uuid:".toList ++ body := by
      simp [without, List.isPrefixOf, without_eq_self _ hletter]
    have hsecond : without ['u', 'u', 'i', 'd', ':'] ("uuid:".toList ++ body).length
        ("uuid:".toList ++ body) = body := by
      simp [without, List.isPrefixOf, without_eq_self _ hletter]
    rw [hfirst, hsecond, stripped_eq_self hbrace, hfilter]
  · have hletter : 'u' ∉ '{' :: body ++ ['}'] := by simpa using hletter
    rw [without_eq_self _ hletter, without_eq_self _ hletter, stripped_between rfl rfl hbrace,
      hfilter]

theorem withoutPlus_eq_self {text : List Char} (h : '+' ∉ text) : Text.withoutPlus text = text := by
  unfold Text.withoutPlus
  split
  · simp at h
  · rfl

theorem hexadecimal?_of_isPlain {text : List Char} (h : ∀ c ∈ text, IsPlain c) :
    Text.hexadecimal? text = Text.unsigned? 16 Text.hexDigit? text := by
  have hbare : (Text.stripped Text.isWhiteSpace text).map Text.asciiDigit = text := by
    rw [stripped_eq_self fun c hc => (h c hc).not_blank]
    exact (List.map_congr_left fun c hc => (h c hc).ascii).trans (List.map_id _)
  have hplus : '+' ∉ text := fun hc => (h _ hc).ne_plus rfl
  unfold Text.hexadecimal?
  rw [hbare, withoutPlus_eq_self hplus]
  split
  · exact absurd rfl (h 'x' (by simp)).ne_mark.1
  · exact absurd rfl (h 'X' (by simp)).ne_mark.2
  · exact absurd rfl (h 'x' (by simp)).ne_mark.1
  · exact absurd rfl (h 'X' (by simp)).ne_mark.2
  · rfl

/-- **What reading makes of a digit**: it is left alone, and has its value. -/
structure IsDigitOf (c : Char) (d : Nat) : Prop where
  isPlain : IsPlain c
  hexDigit?_eq : Text.hexDigit? c = some d

theorem forall₂_digitsOf {values : List Nat} (hlt : ∀ d ∈ values, d < 16) :
    List.Forall₂ IsDigitOf (digitsOf values) values := by
  rw [digitsOf, List.forall₂_map_left_iff, List.forall₂_same]
  exact fun d hd => ⟨isPlain_digitChar (hlt d hd), hexDigit?_digitChar (hlt d hd)⟩

section
variable {digits : List Char} {values : List Nat} (h : List.Forall₂ IsDigitOf digits values)
include h

theorem isPlain_of_forall₂ : ∀ c ∈ digits, IsPlain c := by
  induction h with
  | nil => simp
  | cons hhead _ ih =>
    intro c hc
    rcases List.mem_cons.mp hc with rfl | hc
    · exact hhead.isPlain
    · exact ih c hc

theorem continued?_of_forall₂ (start : Nat) : Text.continued? 16 Text.hexDigit? start digits =
    some (values.foldl (fun n d => n * 16 + d) start) := by
  induction h generalizing start with
  | nil => rfl
  | cons hhead _ ih =>
    rw [Text.continued?]
    · rw [hhead.hexDigit?_eq, Option.bind_some]
      exact ih _
    · exact fun _ _ hmark _ => hhead.isPlain.ne_underscore hmark

/-- **Digits are read** as the number that their values write. -/
theorem hexadecimal?_of_forall₂ (hne : values ≠ []) :
    Text.hexadecimal? digits = some (ofValues values) := by
  rw [hexadecimal?_of_isPlain (isPlain_of_forall₂ h)]
  cases h with
  | nil => exact absurd rfl hne
  | cons hhead hrest =>
    rw [Text.unsigned?, hhead.hexDigit?_eq, Option.bind_some, continued?_of_forall₂ hrest]
    simp [ofValues]

end

/-! ### Identifiers -/

theorem undecorated_text (id : Id) : undecorated id.text.toList = id.digits := by
  obtain ⟨values, hlt, -, hdigits, -⟩ := hexPadded_eq 32 id.val
  have hplain := isPlain_of_forall₂ (forall₂_digitsOf hlt)
  rw [text, String.toList_ofList, digits, hdigits]
  exact undecorated_of_mem hplain (List.mem_cons_of_mem _ List.mem_cons_self) List.mem_cons_self

/-- **The text of an identifier spells its number.** -/
theorem hexadecimal?_text (id : Id) :
    Text.hexadecimal? (undecorated id.text.toList) = some id.val := by
  obtain ⟨values, hlt, hne, hdigits, hvalue⟩ := hexPadded_eq 32 id.val
  rw [undecorated_text, digits, hdigits, hexadecimal?_of_forall₂ (forall₂_digitsOf hlt) hne, hvalue]

/-- **Different identifiers have different texts.** -/
theorem text_injective : Function.Injective text := by
  intro a b hab
  have h := hexadecimal?_text a
  rw [hab, hexadecimal?_text b] at h
  cases a
  cases b
  simpa using h.symm

theorem colon_notMem_text (id : Id) : ':' ∉ id.text.toList := by
  obtain ⟨values, hlt, -, hdigits, -⟩ := hexPadded_eq 32 id.val
  rw [text, String.toList_ofList, digits, hdigits]
  intro hmem
  rcases mem_grouped hmem with hdash | hdigit
  · cases hdash
  · obtain ⟨d, hd, hchar⟩ := List.mem_map.mp hdigit
    have hread := hexDigit?_digitChar (hlt d hd)
    rw [hchar] at hread
    cases hread

/-- **The text before the first colon** tells an identifier that is followed by one. -/
theorem eq_of_text_append {a b : Id} {rest rest' : String}
    (h : a.text ++ ":" ++ rest = b.text ++ ":" ++ rest') : a = b ∧ rest = rest' := by
  have hcolon : ":".toList = [':'] := by decide
  have hchars : a.text.toList ++ ':' :: rest.toList = b.text.toList ++ ':' :: rest'.toList := by
    simpa only [String.toList_append, List.append_assoc, hcolon, List.cons_append, List.nil_append]
      using congrArg String.toList h
  have hstart (id : Id) (rest : List Char) :
      (id.text.toList ++ ':' :: rest).takeWhile (· ≠ ':') = id.text.toList := by
    rw [List.takeWhile_append_of_pos]
    · simp
    · intro c hc
      exact decide_eq_true fun hcolon => id.colon_notMem_text (hcolon ▸ hc)
  have htext : a.text.toList = b.text.toList := by
    rw [← hstart a rest.toList, hchars, hstart]
  rw [htext] at hchars
  have hrest := (List.cons.inj (List.append_cancel_left hchars)).2
  exact ⟨text_injective (String.toList_inj.mp htext), String.toList_inj.mp hrest⟩

/-- **A text that was written for an identifier is read as that one only.** -/
theorem parse_text_eq_ok {id read : Id} (h : parse id.text = .ok read) : read = id := by
  unfold parse at h
  simp only [hexadecimal?_text] at h
  split_ifs at h with hlength
  exact (Except.ok.inj h).symm

/-! ### Strict spellings -/

theorem lt_of_hexDigit? {c : Char} {d : Nat} (h : Text.hexDigit? c = some d) : d < 16 := by
  have hle : ∀ {a b : Char}, a ≤ b → a.toNat ≤ b.toNat := fun hab => hab
  unfold Text.hexDigit? at h
  split_ifs at h with hdigit hlower hupper
  · have hnine : c.toNat ≤ 57 := hle hdigit.2
    have hvalue := Option.some.inj h
    omega
  · have hf : c.toNat ≤ 102 := hle hlower.2
    have hvalue := Option.some.inj h
    omega
  · have hf : c.toNat ≤ 70 := hle hupper.2
    have hvalue := Option.some.inj h
    omega

theorem lt_of_hexValue? {text : List Char} {start n : Nat} (h : hexValue? start text = some n) :
    n < (start + 1) * 16 ^ text.length := by
  induction text generalizing start with
  | nil =>
    cases h
    simp
  | cons c rest ih =>
    obtain ⟨d, hd, hrest⟩ := Option.bind_eq_some_iff.mp h
    have hlt := lt_of_hexDigit? hd
    calc n < (start * 16 + d + 1) * 16 ^ rest.length := ih hrest
      _ ≤ (start + 1) * 16 * 16 ^ rest.length := Nat.mul_le_mul_right _ (by omega)
      _ = (start + 1) * 16 ^ (c :: rest).length := by
        rw [List.length_cons, Nat.pow_succ, Nat.mul_assoc, Nat.mul_comm 16]

theorem length_toDigits_le {k n : Nat} (h : n < 16 ^ (k + 1)) :
    (Nat.toDigits 16 n).length ≤ k + 1 := by
  induction k generalizing n with
  | zero =>
    rw [Nat.toDigits_of_lt_base (by simpa using h)]
    simp
  | succ k ih =>
    by_cases hn : n < 16
    · rw [Nat.toDigits_of_lt_base hn]
      simp
    · have hquotient : n / 16 < 16 ^ (k + 1) := by
        rw [Nat.pow_succ] at h
        omega
      rw [Nat.toDigits_of_base_le (by omega) (by omega), List.length_append, List.length_singleton]
      exact Nat.add_le_add_right (ih hquotient) 1

theorem length_digits {id : Id} (h : id.val < 16 ^ 32) : id.digits.length = 32 := by
  have hle : (Nat.toDigits 16 id.val).length ≤ 32 := length_toDigits_le h
  simp only [digits, Text.hexPadded, List.length_append, List.length_replicate]
  omega

theorem hexValue?_digitsOf {values : List Nat} (hlt : ∀ d ∈ values, d < 16) (start : Nat) :
    hexValue? start (digitsOf values) = some (values.foldl (fun n d => n * 16 + d) start) := by
  induction values generalizing start with
  | nil => rfl
  | cons d rest ih =>
    simp only [digitsOf, List.map_cons, hexValue?, List.foldl_cons]
    rw [hexDigit?_digitChar (hlt d (by simp)), Option.bind_some]
    exact ih (fun e he => hlt e (by simp [he])) _

theorem ofDigits?_digits {id : Id} (h : id.val < 16 ^ 32) : ofDigits? id.digits = some id := by
  obtain ⟨values, hlt, -, hdigits, hvalue⟩ := hexPadded_eq 32 id.val
  have hread : hexValue? 0 id.digits = some id.val := by
    rw [digits, hdigits, hexValue?_digitsOf hlt, ← hvalue]
    rfl
  rw [ofDigits?, if_pos (length_digits h), hread]
  rfl

theorem ofGrouped?_grouped {digits : List Char} (h : digits.length = 32) :
    ofGrouped? (grouped digits) = ofDigits? digits := by
  obtain ⟨a, b, c, d, e, ha, hb, hc, hd, rfl⟩ : ∃ a b c d e : List Char, a.length = 8 ∧
      b.length = 4 ∧ c.length = 4 ∧ d.length = 4 ∧ digits = a ++ (b ++ (c ++ (d ++ e))) := by
    refine ⟨digits.take 8, (digits.drop 8).take 4, (digits.drop 12).take 4, (digits.drop 16).take 4,
      digits.drop 20, by simp [h], by simp [h], by simp [h], by simp [h], ?_⟩
    rw [drop_take_append_drop digits 16, drop_take_append_drop digits 12,
      drop_take_append_drop digits 8, List.take_append_drop]
  have hgrouped : grouped (a ++ (b ++ (c ++ (d ++ e)))) =
      a ++ '-' :: (b ++ '-' :: (c ++ '-' :: (d ++ '-' :: e))) := by
    simp (disch := omega) [grouped, List.drop_append, List.drop_of_length_le, ha, hb, hc]
  have hbare : ∀ text, text = a ++ '-' :: (b ++ '-' :: (c ++ '-' :: (d ++ '-' :: e))) →
      text.take 8 ++ (text.drop 9).take 4 ++ (text.drop 14).take 4 ++ (text.drop 19).take 4 ++
        text.drop 24 = a ++ (b ++ (c ++ (d ++ e))) := by
    rintro text rfl
    simp (disch := omega) [List.drop_append, List.drop_of_length_le, ha, hb, hc, hd]
  unfold ofGrouped?
  simp only
  rw [hbare _ hgrouped, if_pos rfl]

theorem lt_of_ofDigits? {text : List Char} {id : Id} (h : ofDigits? text = some id) :
    id.val < 16 ^ 32 := by
  unfold ofDigits? at h
  split_ifs at h with hlength
  obtain ⟨n, hn, rfl⟩ := Option.map_eq_some_iff.mp h
  have hlt := lt_of_hexValue? hn
  rwa [hlength, Nat.zero_add, Nat.one_mul] at hlt

theorem lt_of_ofGrouped? {text : List Char} {id : Id} (h : ofGrouped? text = some id) :
    id.val < 16 ^ 32 := by
  unfold ofGrouped? at h
  simp only at h
  split_ifs at h
  exact lt_of_ofDigits? h

theorem lt_of_read? {text : String} {id : Id} (h : read? text = some id) : id.val < 16 ^ 32 := by
  unfold read? at h
  simp only at h
  split at h
  · next found hfound =>
    rw [← Option.some.inj h]
    exact lt_of_ofGrouped? hfound
  · split at h
    · next found hfound =>
      rw [← Option.some.inj h]
      exact lt_of_ofDigits? hfound
    · split at h
      · split_ifs at h
        exact lt_of_ofGrouped? h
      · exact lt_of_ofGrouped? h
      · cases h

theorem read?_text_of_lt {id : Id} (h : id.val < 16 ^ 32) : read? id.text = some id := by
  have hgrouped : ofGrouped? id.text.toList = some id := by
    rw [Id.text, String.toList_ofList, ofGrouped?_grouped (length_digits h), ofDigits?_digits h]
  simp only [read?, hgrouped]

/-- A request can spell the identifier. -/
def IsSpelled (id : Id) : Prop := ∃ text, read? text = some id

theorem isSpelled_iff {id : Id} : id.IsSpelled ↔ id.val < 16 ^ 32 := by
  constructor
  · rintro ⟨text, htext⟩
    exact lt_of_read? htext
  · intro h
    exact ⟨id.text, read?_text_of_lt h⟩

/-- **The text of an identifier that was read** is read as that identifier. -/
theorem IsSpelled.read?_text {id : Id} (h : id.IsSpelled) : read? id.text = some id :=
  read?_text_of_lt (isSpelled_iff.mp h)

/-! ### Lenient spellings -/

theorem lt_of_continued? {text : List Char} {value n : Nat}
    (h : Text.continued? 16 Text.hexDigit? value text = some n) :
    n < (value + 1) * 16 ^ text.length := by
  have hstep : ∀ {value d k : Nat}, d < 16 →
      (value * 16 + d + 1) * 16 ^ k ≤ (value + 1) * 16 ^ (k + 1) := by
    intro value d k hd
    calc (value * 16 + d + 1) * 16 ^ k ≤ (value + 1) * 16 * 16 ^ k :=
          Nat.mul_le_mul_right _ (by omega)
      _ = (value + 1) * 16 ^ (k + 1) := by rw [Nat.pow_succ, Nat.mul_assoc, Nat.mul_comm 16]
  fun_induction Text.continued? 16 Text.hexDigit? value text with
  | case1 value =>
    cases h
    simp
  | case2 value c rest ih =>
    -- an underscore adds to the length alone
    obtain ⟨d, hd, hrest⟩ := Option.bind_eq_some_iff.mp h
    calc n < (value * 16 + d + 1) * 16 ^ rest.length := ih d hrest
      _ ≤ (value + 1) * 16 ^ (rest.length + 1) := hstep (lt_of_hexDigit? hd)
      _ ≤ (value + 1) * 16 ^ ('_' :: c :: rest).length :=
        Nat.mul_le_mul_left _ (Nat.pow_le_pow_right (by omega) (by simp))
  | case3 value c rest _ ih =>
    obtain ⟨d, hd, hrest⟩ := Option.bind_eq_some_iff.mp h
    exact (ih d hrest).trans_le (hstep (lt_of_hexDigit? hd))

theorem lt_of_unsigned? {text : List Char} {n : Nat}
    (h : Text.unsigned? 16 Text.hexDigit? text = some n) : n < 16 ^ text.length := by
  cases text with
  | nil => cases h
  | cons c rest =>
    obtain ⟨d, hd, hrest⟩ := Option.bind_eq_some_iff.mp h
    have hlt := lt_of_hexDigit? hd
    calc n < (d + 1) * 16 ^ rest.length := lt_of_continued? hrest
      _ ≤ 16 * 16 ^ rest.length := Nat.mul_le_mul_right _ (by omega)
      _ = 16 ^ (c :: rest).length := by rw [List.length_cons, Nat.pow_succ, Nat.mul_comm]

theorem length_stripped_le (p : Char → Bool) (text : List Char) :
    (Text.stripped p text).length ≤ text.length := by
  unfold Text.stripped
  have hfirst := (List.dropWhile_sublist p (l := text)).length_le
  have hlast := (List.dropWhile_sublist p (l := (text.dropWhile p).reverse)).length_le
  rw [List.length_reverse] at hlast ⊢
  omega

theorem length_withoutPlus_le (text : List Char) :
    (Text.withoutPlus text).length ≤ text.length := by
  unfold Text.withoutPlus
  split <;> simp

theorem lt_of_hexadecimal? {text : List Char} {n : Nat} (h : Text.hexadecimal? text = some n) :
    n < 16 ^ text.length := by
  have hread : ∀ {bare : List Char},
      bare.length ≤ (Text.withoutPlus ((Text.stripped Text.isWhiteSpace text).map
        Text.asciiDigit)).length → Text.unsigned? 16 Text.hexDigit? bare = some n →
      n < 16 ^ text.length := by
    intro bare hbare hunsigned
    refine (lt_of_unsigned? hunsigned).trans_le (Nat.pow_le_pow_right (by omega) (hbare.trans ?_))
    refine (length_withoutPlus_le _).trans ?_
    rw [List.length_map]
    exact length_stripped_le _ text
  unfold Text.hexadecimal? at h
  split at h <;> refine hread ?_ h
  all_goals simp_all
  all_goals omega

theorem lt_of_ofJson {value : Json} {id : Id} (h : ofJson value = .ok id) : id.val < 16 ^ 32 := by
  have hparse : ∀ {text : String}, parse text = .ok id → id.val < 16 ^ 32 := by
    intro text hparse
    unfold parse at hparse
    simp only at hparse
    split_ifs at hparse with hlength
    split at hparse
    · next value hvalue =>
      rw [← Except.ok.inj hparse, ← hlength]
      exact lt_of_hexadecimal? hvalue
    · cases hparse
  unfold ofJson at h
  split at h
  · exact hparse h
  · exact hparse h

/-- **The text of an identifier of 32 digits** spells that identifier. -/
theorem parse_text {id : Id} (h : id.val < 16 ^ 32) : parse id.text = .ok id := by
  unfold parse
  simp only [hexadecimal?_text]
  rw [undecorated_text, if_pos (length_digits h)]

/-! ### Lists of wanted identifiers -/

theorem mapM_resolve_known (ids : List Id) :
    (ids.map IdSpelling.known).mapM IdSpelling.resolve = .ok ids := by
  induction ids with
  | nil => rfl
  | cons id rest ih =>
    rw [List.map_cons, List.mapM_cons, ih]
    rfl

theorem mem_of_orderedUnique_known {ids found : List Id}
    (h : orderedUnique (ids.map .known) = .ok found) {id : Id} (hid : id ∈ found) : id ∈ ids := by
  unfold orderedUnique at h
  rw [mapM_resolve_known] at h
  rw [← Except.ok.inj h] at hid
  exact List.mem_eraseDups.mp hid

theorem exists_of_mapM_eq_ok {ε α β : Type} {f : α → Except ε β} {items : List α} {values : List β}
    (h : items.mapM f = .ok values) {value : β} (hvalue : value ∈ values) :
    ∃ item ∈ items, f item = .ok value := by
  induction items generalizing values with
  | nil =>
    cases Except.ok.inj h
    cases hvalue
  | cons item rest ih =>
    rw [List.mapM_cons] at h
    cases hfirst : f item with
    | error fault =>
      rw [hfirst] at h
      cases h
    | ok first =>
      cases hrest : rest.mapM f with
      | error fault =>
        rw [hfirst, hrest] at h
        cases h
      | ok others =>
        rw [hfirst, hrest] at h
        cases Except.ok.inj h
        rcases List.mem_cons.mp hvalue with rfl | hvalue
        · exact ⟨item, List.mem_cons_self, hfirst⟩
        · obtain ⟨found, hfound, hf⟩ := ih hrest hvalue
          exact ⟨found, List.mem_cons_of_mem _ hfound, hf⟩

theorem isSpelled_of_orderedUnique {spellings : List IdSpelling} {ids : List Id}
    (h : orderedUnique spellings = .ok ids)
    (hknown : ∀ id, IdSpelling.known id ∈ spellings → id.IsSpelled) {id : Id} (hid : id ∈ ids) :
    id.IsSpelled := by
  unfold orderedUnique at h
  split at h
  · next found hfound =>
    rw [← Except.ok.inj h] at hid
    obtain ⟨spelling, hspelling, hresolve⟩ :=
      exists_of_mapM_eq_ok hfound (List.mem_eraseDups.mp hid)
    cases spelling with
    | known given =>
      rw [← Except.ok.inj hresolve]
      exact hknown given hspelling
    | written value => exact isSpelled_iff.mpr (lt_of_ofJson hresolve)
  · cases h

theorem nodup_of_orderedUnique {spellings : List IdSpelling} {ids : List Id}
    (h : orderedUnique spellings = .ok ids) : ids.Nodup := by
  unfold orderedUnique at h
  split at h
  · rw [← Except.ok.inj h]
    exact nodup_eraseDups _
  · cases h

end Promotions.Id
