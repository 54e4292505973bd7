import Mathlib.Data.List.Forall2
import Mathlib.Data.List.Nodup
import Mathlib.Data.List.TakeDrop
import Mathlib.Data.List.TakeWhile
import Promotions.Proofs.Calendar
import Promotions.Proofs.Timetables

/-!
# What the field of an expression means

The grammar of a field of a cron expression, with its meaning. A field has a list of items between
commas; the items are written by `CronItem.IsWritten` and stand for the numbers of `CronItem.Means`.
Reading a field finds just what the grammar says: a text can be read if items write it
(`CronField.exists_of_values?`, `CronField.values?_of_isWritten`), and what is read are the numbers
that they stand for.

Three rules of the grammar may surprise. A range from a number to itself covers the field
(`CronField.Covers`). One that wraps round leaves out, after the end of the field, what its last
step has left of the end (`CronField.restart`). And a day field is free to be any day if one of its
items is the star, or if it has every day and there is a star in the other one (`CronField.IsFree`).
-/

namespace Promotions

/-- A value, as an expression writes it: a number, or the name at a place among those of
the field. -/
inductive CronValue where
  | number (n : Nat)
  | name (place : Nat)

/-- An item of a field: all of the field, a value or a range, perhaps with a step. A value with a
step runs on to the end of the field. -/
inductive CronItem where
  | all (step : Option Nat)
  | single (value : CronValue) (step : Option Nat)
  | range (low high : CronValue) (step : Option Nat)

/-! ### Texts -/

namespace Text

theorem span_eq_iff {text before after : List Char} {mark : Char} :
    text.span (· != mark) = (before, after) ↔
      text = before ++ after ∧ mark ∉ before ∧ ∀ c ∈ after.head?, c = mark := by
  rw [List.span_eq_takeWhile_dropWhile, Prod.mk.injEq]
  constructor
  · rintro ⟨rfl, rfl⟩
    refine ⟨List.takeWhile_append_dropWhile.symm, fun hmem => ?_, fun c hc => ?_⟩
    · simpa using List.mem_takeWhile_imp hmem
    · have hnot := List.head?_dropWhile_not (· != mark) text
      rw [Option.mem_def.mp hc] at hnot
      simpa using hnot
  · rintro ⟨rfl, hbefore, hafter⟩
    have hall : ∀ c ∈ before, (c != mark) = true := fun c hc =>
      bne_iff_ne.mpr fun heq => hbefore (heq ▸ hc)
    rw [List.takeWhile_append_of_pos hall, List.dropWhile_append_of_pos hall]
    cases after with
    | nil => simp
    | cons c rest =>
      obtain rfl := hafter c rfl
      simp

theorem digits_of_number? {text : List Char} {n : Nat} (h : number? text = some n) :
    text ≠ [] ∧ ∀ c ∈ text, c.isDigit = true := by
  unfold number? at h
  split_ifs at h with hnot
  simpa using hnot

end Text

/-! ### Values -/

namespace CronField

/-- **A field whose names can be told from numbers** and from the marks between them. -/
structure IsProper (field : CronField) : Prop where
  first_le : field.first ≤ field.last
  names_nodup : field.names.Nodup
  names_ne_nil : ∀ name ∈ field.names, name.toList ≠ []
  names_letters : ∀ name ∈ field.names,
    name.toList.all (fun c => c.isAlphanum && !c.isDigit) = true

theorem isProper_minute : minute.IsProper := ⟨by decide, by decide, by decide, by decide⟩

theorem isProper_hour : hour.IsProper := ⟨by decide, by decide, by decide, by decide⟩

theorem isProper_monthDay : monthDay.IsProper := ⟨by decide, by decide, by decide, by decide⟩

theorem isProper_month : month.IsProper := ⟨by decide, by decide, by decide, by decide⟩

theorem isProper_weekday : weekday.IsProper := ⟨by decide, by decide, by decide, by decide⟩

end CronField

namespace CronValue

variable (field : CronField)

/-- The value in a field. The second spelling of the first value counts as the first. -/
def value : CronValue → Nat
  | number n => if field.alias? = some n then field.first else n
  | name place => field.named + place

/-- The text of a value: digits, or a name. -/
def IsWritten : CronValue → List Char → Prop
  | number n, text => Text.number? text = some n
  | name place, text => field.names[place]? = some (String.ofList text)

instance (value : CronValue) (text : List Char) : Decidable (value.IsWritten field text) :=
  match value with
  | number n => inferInstanceAs (Decidable (Text.number? text = some n))
  | name place => inferInstanceAs (Decidable (field.names[place]? = some (String.ofList text)))

variable {field} (hfield : field.IsProper) {value : CronValue} {text : List Char}
include hfield

theorem IsWritten.letters {place : Nat} (h : (name place).IsWritten field text) :
    text ≠ [] ∧ ∀ c ∈ text, c.isAlphanum = true ∧ c.isDigit = false := by
  have hmem : String.ofList text ∈ field.names := List.mem_of_getElem? h
  have hempty := hfield.names_ne_nil _ hmem
  have hletters := hfield.names_letters _ hmem
  rw [String.toList_ofList] at hempty hletters
  refine ⟨hempty, fun c hc => ?_⟩
  simpa using List.all_eq_true.mp hletters c hc

theorem IsWritten.alphanum (h : value.IsWritten field text) :
    text ≠ [] ∧ ∀ c ∈ text, c.isAlphanum = true := by
  cases value with
  | number n =>
    obtain ⟨hempty, hdigits⟩ := Text.digits_of_number? h
    exact ⟨hempty, fun c hc => by rw [Char.isAlphanum, hdigits c hc, Bool.or_true]⟩
  | name place =>
    obtain ⟨hempty, hletters⟩ := h.letters hfield
    exact ⟨hempty, fun c hc => (hletters c hc).1⟩

theorem IsWritten.notMem (h : value.IsWritten field text) {c : Char} (hc : c.isAlphanum = false) :
    c ∉ text := by
  intro hmem
  rw [(h.alphanum hfield).2 c hmem] at hc
  cases hc

theorem IsWritten.number?_eq_none {place : Nat} (h : (name place).IsWritten field text) :
    Text.number? text = none := by
  obtain ⟨hempty, hletters⟩ := h.letters hfield
  obtain ⟨c, hc⟩ := List.exists_mem_of_ne_nil text hempty
  refine Option.eq_none_iff_forall_ne_some.mpr fun n hn => ?_
  have hdigit := (Text.digits_of_number? hn).2 c hc
  rw [(hletters c hc).2] at hdigit
  cases hdigit

theorem value?_eq_some_iff {n : Nat} : field.value? text = some n ↔
    ∃ value : CronValue, value.IsWritten field text ∧ value.value field = n := by
  constructor
  · intro h
    unfold CronField.value? at h
    cases hnumber : Text.number? text with
    | some k =>
      rw [hnumber] at h
      exact ⟨.number k, hnumber, Option.some.inj h⟩
    | none =>
      rw [hnumber] at h
      obtain ⟨place, hplace, rfl⟩ := Option.map_eq_some_iff.mp h
      obtain ⟨hlt, hname, -⟩ := List.idxOf?_eq_some_iff.mp hplace
      exact ⟨.name place, List.getElem?_eq_some_iff.mpr ⟨hlt, hname⟩, rfl⟩
  · rintro ⟨value, hwritten, rfl⟩
    unfold CronField.value?
    cases value with
    | number k =>
      have hnumber : Text.number? text = some k := hwritten
      rw [hnumber]
      rfl
    | name place =>
      rw [hwritten.number?_eq_none hfield]
      obtain ⟨hlt, hname⟩ := List.getElem?_eq_some_iff.mp hwritten
      have hplace : field.names.idxOf? (String.ofList text) = some place := by
        refine List.idxOf?_eq_some_iff.mpr ⟨hlt, hname, fun other hother hsame => ?_⟩
        have heq := (List.Nodup.getElem_inj_iff hfield.names_nodup).mp (hsame.trans hname.symm)
        omega
      rw [hplace]
      rfl

end CronValue

/-! ### Ranges -/

/-- A number of a range is a whole number of steps after the first one. -/
def IsStep (low high step n : Nat) : Prop := low ≤ n ∧ n ≤ high ∧ step ∣ n - low

namespace CronField

variable {field : CronField} {low high step n : Nat}

theorem holds_iff : field.holds n = true ↔ field.first ≤ n ∧ n ≤ field.last := by
  unfold holds
  rw [Bool.and_eq_true, decide_eq_true_eq, decide_eq_true_eq]

theorem mem_steps : n ∈ steps low high step ↔ IsStep low high step n := by
  unfold steps IsStep
  simp only [List.mem_filterMap, List.mem_range, Option.ite_none_right_eq_some, Option.some.injEq,
    Nat.dvd_iff_mod_eq_zero]
  constructor
  · rintro ⟨i, hi, hstep, rfl⟩
    exact ⟨by omega, by omega, by rwa [Nat.add_sub_cancel_left]⟩
  · rintro ⟨hlow, hhigh, hstep⟩
    exact ⟨n - low, by omega, hstep, by omega⟩

theorem succ_mod_of_ne_zero {k : Nat} (hpos : 0 < step) (h : (k + 1) % step ≠ 0) :
    (k + 1) % step = k % step + 1 := by
  have hparts : k + 1 = step * (k / step) + (k % step + 1) := by
    rw [← Nat.add_assoc, Nat.div_add_mod]
  have hlt : k % step < step := Nat.mod_lt k hpos
  have hne : k % step + 1 ≠ step := by
    intro heq
    rw [hparts, heq, ← Nat.mul_succ, Nat.mul_mod_right] at h
    exact h rfl
  rw [hparts, Nat.mul_add_mod]
  exact Nat.mod_eq_of_lt (by omega)

/-- The last one of a range, by induction on the length: it goes on at each step. -/
theorem getLast?_steps (hpos : 0 < step) (h : low ≤ high) :
    (steps low high step).getLast? = some (high - (high - low) % step) := by
  obtain ⟨k, rfl⟩ := Nat.exists_eq_add_of_le h
  have hsize : low + k + 1 - low = k + 1 := by omega
  unfold steps
  rw [hsize, Nat.add_sub_cancel_left]
  clear h hsize
  induction k with
  | zero => simp
  | succ k ih =>
    rw [List.range_succ, List.filterMap_append, List.filterMap_cons, List.filterMap_nil]
    by_cases hstep : (k + 1) % step = 0
    · simp only [hstep, if_true, List.getLast?_append, List.getLast?_singleton, Option.some_or]
      rfl
    · have hnext := succ_mod_of_ne_zero hpos hstep
      have hle := Nat.mod_le k step
      simp only [hstep, if_false, List.append_nil, ih]
      rw [hnext]
      congr 1
      omega

/-- **Where a wrapping range goes on** after the end of the field. If its last step does not end
right there, what has been left of the field is left out. -/
def restart (field : CronField) (low step : Nat) : Nat :=
  let left := (field.last - low) % step
  if left + 1 < step then field.first + (step - left) else field.first

/-- **What a range covers**: the numbers between its ends or, if these are the other way round,
those to the end of the field and those from its start. A range from a number to itself covers the
field. -/
def Covers (field : CronField) (low high step n : Nat) : Prop :=
  if low < high then IsStep low high step n
  else if low = high then IsStep field.first field.last step n
  else IsStep low field.last step n ∨ IsStep (field.restart low step) high step n

/-- The bounds of a range. Just a range that covers the field may begin before it. -/
structure IsRange (field : CronField) (low high step : Nat) : Prop where
  step_pos : 0 < step
  low_le : low ≤ field.last
  high_le : high ≤ field.last
  first_le : low ≠ high → field.first ≤ low

theorem mem_range (h : field.IsRange low high step) :
    n ∈ field.range low high step ↔ field.Covers low high step n := by
  obtain ⟨hstep, hlow, -, hfirst⟩ := h
  unfold range Covers
  split_ifs with hlt heq
  · exact mem_steps
  · exact mem_steps
  · have hfirst := hfirst heq
    have hmod := Nat.mod_lt (field.last - low) hstep
    have hmodle := Nat.mod_le (field.last - low) step
    have hstart : field.first + (if field.last - (field.last - low) % step - field.first + step >
          field.size ∧ field.last - (field.last - (field.last - low) % step) < step then
          step - (field.last - (field.last - (field.last - low) % step)) else 0) =
        field.restart low step := by
      unfold restart size
      dsimp only
      split_ifs <;> omega
    dsimp only
    rw [getLast?_steps hstep hlow, Option.getD_some, hstart, List.mem_append, mem_steps, mem_steps]

theorem Covers.holds (h : field.IsRange low high step) (hn : field.Covers low high step n) :
    field.holds n = true := by
  obtain ⟨-, hlow, hhigh, hfirst⟩ := h
  have hrestart : field.first ≤ field.restart low step := by
    unfold restart
    dsimp only
    split_ifs <;> omega
  unfold Covers IsStep at hn
  rw [holds_iff]
  split_ifs at hn with hlt heq <;> omega

theorem length_steps_one : (steps field.first field.last 1).length = field.size := by
  unfold steps size
  simp [Nat.mod_one]

theorem first_mem_steps (h : low ≤ high) : low ∈ steps low high step :=
  mem_steps.mpr ⟨le_rfl, h, by simp⟩

theorem all_holds_range_iff (hpos : 0 < step) (hlow : low ≤ field.last) (hhigh : high ≤ field.last) :
    ((field.range low high step).all field.holds) = true ↔ field.IsRange low high step := by
  constructor
  · refine fun h => ⟨hpos, hlow, hhigh, fun hne => ?_⟩
    have hmem : low ∈ field.range low high step := by
      unfold range
      split_ifs with hlt
      · exact first_mem_steps hlt.le
      · exact List.mem_append_left _ (first_mem_steps hlow)
    exact (holds_iff.mp (List.all_eq_true.mp h low hmem)).1
  · exact fun h => List.all_eq_true.mpr fun n hn => ((mem_range h).mp hn).holds h

theorem range?_eq_some_iff (hfield : field.IsProper) {start stop : List Char} {values : List Nat} :
    field.range? start stop step = some values ↔
      ∃ low high : CronValue, low.IsWritten field start ∧ high.IsWritten field stop ∧
        field.IsRange (low.value field) (high.value field) step ∧
        values = field.range (low.value field) (high.value field) step := by
  unfold range?
  constructor
  · intro h
    obtain ⟨n, hn, h⟩ := Option.bind_eq_some_iff.mp h
    obtain ⟨m, hm, h⟩ := Option.bind_eq_some_iff.mp h
    dsimp only at h
    split_ifs at h with hout hall
    obtain ⟨hpos, hmax⟩ := not_or.mp hout
    have hrange := (all_holds_range_iff (by omega) (by omega) (by omega)).mp hall
    obtain ⟨low, hlow, rfl⟩ := (CronValue.value?_eq_some_iff hfield).mp hn
    obtain ⟨high, hhigh, rfl⟩ := (CronValue.value?_eq_some_iff hfield).mp hm
    exact ⟨low, high, hlow, hhigh, hrange, (Option.some.inj h).symm⟩
  · rintro ⟨low, high, hlow, hhigh, hrange, rfl⟩
    obtain ⟨hpos, hle, hle', -⟩ := id hrange
    have hall := (all_holds_range_iff hpos hle hle').mpr hrange
    have hout : ¬(step = 0 ∨ max (low.value field) (high.value field) > field.last) := by omega
    rw [(CronValue.value?_eq_some_iff hfield).mpr ⟨low, hlow, rfl⟩,
      (CronValue.value?_eq_some_iff hfield).mpr ⟨high, hhigh, rfl⟩]
    simp only [bind, Option.bind_some, hout, if_false, hall, if_true]

theorem onward?_eq_some_iff {values : List Nat} : field.onward? low step = some values ↔
    (0 < step ∧ field.first ≤ low ∧ low ≤ field.last) ∧ values = steps low field.last step := by
  have hall : low ≤ field.last →
      (((steps low field.last step).all field.holds) = true ↔ field.first ≤ low) := by
    intro hle
    simp only [List.all_eq_true, mem_steps, holds_iff]
    exact ⟨fun h => (h low (mem_steps.mp (first_mem_steps hle))).1,
      fun h n hn => ⟨h.trans hn.1, hn.2.1⟩⟩
  unfold onward?
  dsimp only
  constructor
  · intro h
    split_ifs at h with hout hholds
    obtain ⟨hpos, hle⟩ := not_or.mp hout
    exact ⟨⟨by omega, (hall (by omega)).mp hholds, by omega⟩, (Option.some.inj h).symm⟩
  · rintro ⟨⟨hpos, hfirst, hle⟩, rfl⟩
    rw [if_neg (by omega), if_pos ((hall hle).mpr hfirst)]

end CronField

/-! ### Items -/

namespace CronItem

/-- The text of a step, which may be missing. -/
def StepIsWritten : Option Nat → List Char → Prop
  | none, text => text = []
  | some step, text => ∃ digits, Text.number? digits = some step ∧ text = '/' :: digits

theorem StepIsWritten.head? {step : Option Nat} {rest : List Char} (h : StepIsWritten step rest) :
    ∀ c ∈ rest.head?, c = '/' := by
  cases step with
  | none =>
    obtain rfl : rest = [] := h
    nofun
  | some n =>
    obtain ⟨digits, -, rfl⟩ := h
    intro c hc
    exact (Option.some.inj hc).symm

theorem StepIsWritten.star_notMem {step : Option Nat} {rest : List Char}
    (h : StepIsWritten step rest) : '*' ∉ rest := by
  cases step with
  | none =>
    obtain rfl : rest = [] := h
    exact List.not_mem_nil
  | some n =>
    obtain ⟨digits, hdigits, rfl⟩ := h
    intro hmem
    rcases List.mem_cons.mp hmem with hmark | hmem
    · exact absurd hmark (by decide)
    · exact absurd ((Text.digits_of_number? hdigits).2 '*' hmem) (by decide)

/-- **The text of an item.** -/
def IsWritten (field : CronField) : CronItem → List Char → Prop
  | all step, text => ∃ rest, StepIsWritten step rest ∧ text = '*' :: rest
  | single value step, text =>
    ∃ body rest, value.IsWritten field body ∧ StepIsWritten step rest ∧ text = body ++ rest
  | range low high step, text =>
    ∃ start stop rest, low.IsWritten field start ∧ high.IsWritten field stop ∧
      StepIsWritten step rest ∧ text = start ++ '-' :: stop ++ rest

/-- **The numbers of an item are those of its field**, and its step is a step. -/
def IsWithin (field : CronField) : CronItem → Prop
  | all step => step ≠ some 0
  | single value step => step ≠ some 0 ∧ field.holds (value.value field) = true
  | range low high step => field.IsRange (low.value field) (high.value field) (step.getD 1)

/-- **The numbers that an item stands for.** -/
def Means (field : CronField) : CronItem → Nat → Prop
  | all step, n => IsStep field.first field.last (step.getD 1) n
  | single value none, n => n = value.value field
  | single value (some step), n => IsStep (value.value field) field.last step n
  | range low high step, n => field.Covers (low.value field) (high.value field) (step.getD 1) n

/-- The numbers that an item stands for, as a list. -/
def values (field : CronField) : CronItem → List Nat
  | all step => CronField.steps field.first field.last (step.getD 1)
  | single value none => [value.value field]
  | single value (some step) => CronField.steps (value.value field) field.last step
  | range low high step =>
    field.range (low.value field) (high.value field) (step.getD 1)

variable {field : CronField} {item : CronItem}

theorem mem_values (h : item.IsWithin field) {n : Nat} :
    n ∈ item.values field ↔ item.Means field n := by
  cases item with
  | all step => exact CronField.mem_steps
  | single value step =>
    cases step with
    | none => exact List.mem_singleton
    | some step => exact CronField.mem_steps
  | range low high step => exact CronField.mem_range h

theorem Means.holds (h : item.IsWithin field) {n : Nat} (hn : item.Means field n) :
    field.holds n = true := by
  cases item with
  | all step =>
    obtain ⟨hfirst, hlast, -⟩ := hn
    exact CronField.holds_iff.mpr ⟨hfirst, hlast⟩
  | single value step =>
    obtain ⟨-, hvalue⟩ := h
    cases step with
    | none => exact hn ▸ hvalue
    | some step =>
      obtain ⟨hfrom, hlast, -⟩ := hn
      have hfirst := (CronField.holds_iff.mp hvalue).1
      exact CronField.holds_iff.mpr ⟨hfirst.trans hfrom, hlast⟩
  | range low high step => exact CronField.Covers.holds h hn

end CronItem

namespace CronField

variable {field : CronField} {text body rest start stop : List Char} {values : List Nat}

section Shapes
variable {mark dash : Char} {digits : List Char}

theorem item?_of_single (hbody : text.span (· != '/') = (body, []))
    (hstart : body.span (· != '-') = (start, [])) : field.item? text =
      if body = ['*'] then some (steps field.first field.last 1)
      else (field.value? body).bind fun value => if field.holds value then some [value] else none := by
  unfold item?
  simp only [hbody, hstart]

theorem item?_of_onward (hbody : text.span (· != '/') = (body, mark :: digits))
    (hstart : body.span (· != '-') = (start, [])) :
    field.item? text = (Text.number? digits).bind fun step =>
      if body = ['*'] then field.onward? field.first step
      else (field.value? body).bind fun low => field.onward? low step := by
  unfold item?
  simp only [hbody, hstart]
  cases Text.number? digits <;> rfl

theorem item?_of_range (hbody : text.span (· != '/') = (body, []))
    (hstart : body.span (· != '-') = (start, dash :: stop)) :
    field.item? text = field.range? start stop 1 := by
  unfold item?
  simp only [hbody, hstart]

theorem item?_of_steps (hbody : text.span (· != '/') = (body, mark :: digits))
    (hstart : body.span (· != '-') = (start, dash :: stop)) :
    field.item? text = (Text.number? digits).bind fun step => field.range? start stop step := by
  unfold item?
  simp only [hbody, hstart]
  cases Text.number? digits <;> rfl

end Shapes

variable (hfield : field.IsProper)
include hfield

theorem exists_of_item? (h : field.item? text = some values) : ∃ item : CronItem,
    item.IsWritten field text ∧ item.IsWithin field ∧ values = item.values field := by
  obtain ⟨⟨body, rest⟩, hbody⟩ : ∃ split, text.span (· != '/') = split := ⟨_, rfl⟩
  obtain ⟨⟨start, tail⟩, hstart⟩ : ∃ split, body.span (· != '-') = split := ⟨_, rfl⟩
  obtain ⟨htext, -, hmark⟩ := Text.span_eq_iff.mp hbody
  obtain ⟨hsplit, -, hdash⟩ := Text.span_eq_iff.mp hstart
  cases tail with
  | nil =>
    cases rest with
    | nil =>
      rw [item?_of_single hbody hstart] at h
      split_ifs at h with hall
      · exact ⟨.all none, ⟨[], rfl, by rw [htext, hall]; rfl⟩, nofun, (Option.some.inj h).symm⟩
      · obtain ⟨n, hn, h⟩ := Option.bind_eq_some_iff.mp h
        split_ifs at h with hholds
        obtain ⟨value, hvalue, rfl⟩ := (CronValue.value?_eq_some_iff hfield).mp hn
        exact ⟨.single value none, ⟨body, [], hvalue, rfl, htext⟩, ⟨nofun, hholds⟩,
          (Option.some.inj h).symm⟩
    | cons mark digits =>
      obtain rfl := hmark mark rfl
      rw [item?_of_onward hbody hstart] at h
      obtain ⟨step, hstep, h⟩ := Option.bind_eq_some_iff.mp h
      split_ifs at h with hall
      · obtain ⟨⟨hpos, -, -⟩, rfl⟩ := onward?_eq_some_iff.mp h
        exact ⟨.all (some step), ⟨_, ⟨digits, hstep, rfl⟩, by rw [htext, hall]; rfl⟩,
          fun hzero => hpos.ne' (Option.some.inj hzero), rfl⟩
      · obtain ⟨n, hn, h⟩ := Option.bind_eq_some_iff.mp h
        obtain ⟨value, hvalue, rfl⟩ := (CronValue.value?_eq_some_iff hfield).mp hn
        obtain ⟨⟨hpos, hfirst, hlast⟩, rfl⟩ := onward?_eq_some_iff.mp h
        exact ⟨.single value (some step), ⟨body, _, hvalue, ⟨digits, hstep, rfl⟩, htext⟩,
          ⟨fun hzero => hpos.ne' (Option.some.inj hzero), holds_iff.mpr ⟨hfirst, hlast⟩⟩, rfl⟩
  | cons dash stop =>
    obtain rfl := hdash dash rfl
    cases rest with
    | nil =>
      rw [item?_of_range hbody hstart] at h
      obtain ⟨low, high, hlow, hhigh, hrange, rfl⟩ := (range?_eq_some_iff hfield).mp h
      exact ⟨.range low high none, ⟨start, stop, [], hlow, hhigh, rfl, by rw [htext, hsplit]⟩,
        hrange, rfl⟩
    | cons mark digits =>
      obtain rfl := hmark mark rfl
      rw [item?_of_steps hbody hstart] at h
      obtain ⟨step, hstep, h⟩ := Option.bind_eq_some_iff.mp h
      obtain ⟨low, high, hlow, hhigh, hrange, rfl⟩ := (range?_eq_some_iff hfield).mp h
      exact ⟨.range low high (some step),
        ⟨start, stop, _, hlow, hhigh, ⟨digits, hstep, rfl⟩, by rw [htext, hsplit]⟩, hrange, rfl⟩

/-- **Reading an item.** -/
theorem item?_of_isWritten {item : CronItem} (h : item.IsWritten field text)
    (hin : item.IsWithin field) : field.item? text = some (item.values field) := by
  cases item with
  | all step =>
    obtain ⟨rest, hrest, rfl⟩ := h
    have hbody : ('*' :: rest).span (· != '/') = (['*'], rest) :=
      Text.span_eq_iff.mpr ⟨rfl, by decide, hrest.head?⟩
    have hstart : ['*'].span (· != '-') = (['*'], []) := by decide
    cases step with
    | none =>
      obtain rfl : rest = [] := hrest
      rw [item?_of_single hbody hstart, if_pos rfl]
      rfl
    | some step =>
      obtain ⟨digits, hstep, rfl⟩ := hrest
      have hpos : 0 < step := Nat.pos_of_ne_zero fun hzero => hin (hzero ▸ rfl)
      rw [item?_of_onward hbody hstart, hstep, Option.bind_some, if_pos rfl]
      exact onward?_eq_some_iff.mpr ⟨⟨hpos, le_rfl, hfield.first_le⟩, rfl⟩
  | single value step =>
    obtain ⟨body, rest, hvalue, hrest, rfl⟩ := h
    obtain ⟨hne, hholds⟩ := hin
    have hbody : (body ++ rest).span (· != '/') = (body, rest) :=
      Text.span_eq_iff.mpr ⟨rfl, hvalue.notMem hfield (by decide), hrest.head?⟩
    have hstart : body.span (· != '-') = (body, []) :=
      Text.span_eq_iff.mpr ⟨(List.append_nil body).symm, hvalue.notMem hfield (by decide), nofun⟩
    have hstar : body ≠ ['*'] := by
      rintro rfl
      exact hvalue.notMem hfield (by decide : Char.isAlphanum '*' = false) List.mem_cons_self
    have hread := (CronValue.value?_eq_some_iff hfield).mpr ⟨value, hvalue, rfl⟩
    cases step with
    | none =>
      obtain rfl : rest = [] := hrest
      rw [item?_of_single hbody hstart, if_neg hstar, hread, Option.bind_some, if_pos hholds]
      rfl
    | some step =>
      obtain ⟨digits, hstep, rfl⟩ := hrest
      have hpos : 0 < step := Nat.pos_of_ne_zero fun hzero => hne (hzero ▸ rfl)
      have hwithin := holds_iff.mp hholds
      rw [item?_of_onward hbody hstart, hstep, Option.bind_some, if_neg hstar, hread,
        Option.bind_some]
      exact onward?_eq_some_iff.mpr ⟨⟨hpos, hwithin⟩, rfl⟩
  | range low high step =>
    obtain ⟨start, stop, rest, hlow, hhigh, hrest, rfl⟩ := h
    have hbody : (start ++ '-' :: stop ++ rest).span (· != '/') = (start ++ '-' :: stop, rest) := by
      refine Text.span_eq_iff.mpr ⟨rfl, ?_, hrest.head?⟩
      rw [List.mem_append, List.mem_cons]
      rintro (hmem | hdash | hmem)
      · exact hlow.notMem hfield (by decide) hmem
      · exact absurd hdash (by decide)
      · exact hhigh.notMem hfield (by decide) hmem
    have hstart : (start ++ '-' :: stop).span (· != '-') = (start, '-' :: stop) :=
      Text.span_eq_iff.mpr ⟨rfl, hlow.notMem hfield (by decide), by simp⟩
    cases step with
    | none =>
      obtain rfl : rest = [] := hrest
      rw [item?_of_range hbody hstart]
      exact (range?_eq_some_iff hfield).mpr ⟨low, high, hlow, hhigh, hin, rfl⟩
    | some step =>
      obtain ⟨digits, hstep, rfl⟩ := hrest
      rw [item?_of_steps hbody hstart, hstep, Option.bind_some]
      exact (range?_eq_some_iff hfield).mpr ⟨low, high, hlow, hhigh, hin, rfl⟩

end CronField

/-! ### Fields -/

namespace CronField

/-- **The text of a field**: those of its items, between commas. -/
structure IsWritten (field : CronField) (chosen : List CronItem) (text : List Char) : Prop where
  within : ∀ item ∈ chosen, item.IsWithin field
  parts : List.Forall₂ (fun item part => item.IsWritten field part) chosen (text.splitOn ',')

/-- **A number is one of a field.** -/
def Means (field : CronField) (chosen : List CronItem) (n : Nat) : Prop :=
  ∃ item ∈ chosen, item.Means field n

/-- **A day field is free to be any day**: one of its items is the star, or it has every day and
there is a star in the other one. -/
def IsFree (field : CronField) (chosen others : List CronItem) : Prop :=
  .all none ∈ chosen ∨
    (∀ n, field.holds n = true → field.Means chosen n) ∧ ∃ step, .all step ∈ others

theorem exists_mem_iff_of_forall₂ {α β : Type} {r : α → β → Prop} {p : α → Prop} {q : β → Prop}
    {l : List α} {m : List β} (h : List.Forall₂ r l m) (hpq : ∀ a b, r a b → (q b ↔ p a)) :
    (∃ b ∈ m, q b) ↔ ∃ a ∈ l, p a := by
  induction h with
  | nil => simp
  | cons hab _ ih => simp [hpq _ _ hab, ih]

theorem mem_iff_of_splitOn {c mark : Char} (hc : c ≠ mark) (text : List Char) :
    c ∈ text ↔ ∃ part ∈ text.splitOn mark, c ∈ part := by
  unfold List.splitOn
  induction text with
  | nil => simp
  | cons head rest ih =>
    rw [List.splitOnP_cons_eq_if_modifyHead, List.mem_cons, ih]
    obtain ⟨part, more, hsplit⟩ : ∃ part more, rest.splitOnP (· == mark) = part :: more :=
      List.exists_cons_of_ne_nil (List.splitOnP_ne_nil _ rest)
    rw [hsplit]
    by_cases hhead : head = mark
    · simp [hhead, hc]
    · simp [hhead, or_assoc]

theorem items_eq_splitOn (text : List Char) : items text = text.splitOn ',' := by
  unfold List.splitOn
  induction text with
  | nil => rfl
  | cons c rest ih =>
    rw [List.splitOnP_cons_eq_if_modifyHead, ← ih]
    by_cases hc : c = ','
    · subst hc
      rfl
    · obtain ⟨item, more, hitems⟩ : ∃ item more, items rest = item :: more :=
        List.exists_cons_of_ne_nil (ih ▸ List.splitOnP_ne_nil _ rest)
      rw [if_neg (by simpa using hc), items, hitems]
      · rfl
      · exact hc

section Fields
variable {field other : CronField} {chosen others : List CronItem} {text otherText : List Char}
  {values : List Nat} (hfield : field.IsProper)
include hfield

theorem mapM_item?_of_isWritten (h : field.IsWritten chosen text) :
    (items text).mapM field.item? = some (chosen.map (·.values field)) := by
  obtain ⟨hwithin, hparts⟩ := h
  rw [items_eq_splitOn]
  generalize text.splitOn ',' = parts at hparts ⊢
  induction hparts with
  | nil => rfl
  | cons hitem _ ih =>
    have hrest := ih fun item hmem => hwithin item (List.mem_cons_of_mem _ hmem)
    rw [List.mapM_cons, item?_of_isWritten hfield hitem (hwithin _ List.mem_cons_self), hrest]
    rfl

theorem exists_of_values? (h : field.values? text = some values) :
    ∃ chosen, field.IsWritten chosen text := by
  suffices hall : ∀ (parts : List (List Char)) found, parts.mapM field.item? = some found →
      ∃ chosen : List CronItem, (∀ item ∈ chosen, item.IsWithin field) ∧
        List.Forall₂ (fun item part => item.IsWritten field part) chosen parts by
    obtain ⟨found, hfound, -⟩ := Option.bind_eq_some_iff.mp h
    rw [items_eq_splitOn] at hfound
    obtain ⟨chosen, hwithin, hparts⟩ := hall _ found hfound
    exact ⟨chosen, hwithin, hparts⟩
  intro parts
  induction parts with
  | nil => exact fun _ _ => ⟨[], nofun, .nil⟩
  | cons part rest ih =>
    intro found hfound
    rw [List.mapM_cons] at hfound
    obtain ⟨first, hfirst, hfound⟩ := Option.bind_eq_some_iff.mp hfound
    obtain ⟨more, hmore, -⟩ := Option.bind_eq_some_iff.mp hfound
    obtain ⟨item, hwritten, hitem, -⟩ := exists_of_item? hfield hfirst
    obtain ⟨chosen, hwithin, hchosen⟩ := ih more hmore
    exact ⟨item :: chosen, List.forall_mem_cons.mpr ⟨hitem, hwithin⟩, .cons hwritten hchosen⟩

theorem values?_of_isWritten (h : field.IsWritten chosen text) :
    ∃ values, field.values? text = some values ∧ (∀ n, n ∈ values ↔ field.Means chosen n) ∧
      (values.length = field.size ↔ ∀ n, field.holds n = true → field.Means chosen n) := by
  have hwithin := h.within
  have hmem : ∀ n, (chosen.map (·.values field)).flatten.contains n = true ↔
      field.Means chosen n := fun n => by
    rw [List.contains_iff_mem, List.mem_flatten]
    constructor
    · rintro ⟨values, hvalues, hn⟩
      obtain ⟨item, hitem, rfl⟩ := List.mem_map.mp hvalues
      exact ⟨item, hitem, (CronItem.mem_values (hwithin item hitem)).mp hn⟩
    · rintro ⟨item, hitem, hn⟩
      exact ⟨_, List.mem_map_of_mem hitem, (CronItem.mem_values (hwithin item hitem)).mpr hn⟩
  have hholds : ∀ n, n ∈ steps field.first field.last 1 ↔ field.holds n = true := fun n => by
    rw [mem_steps, holds_iff]
    exact ⟨fun hn => ⟨hn.1, hn.2.1⟩, fun hn => ⟨hn.1, hn.2, Nat.one_dvd _⟩⟩
  refine ⟨_, by unfold values?; rw [mapM_item?_of_isWritten hfield h]; rfl, fun n => ?_, ?_⟩
  · rw [List.mem_filter, hmem, hholds]
    refine ⟨And.right, fun hn => ⟨?_, hn⟩⟩
    obtain ⟨item, hitem, hmeans⟩ := hn
    exact hmeans.holds (hwithin item hitem)
  · rw [← length_steps_one, List.length_filter_eq_length_iff]
    simp only [hmem, hholds]

/-- A text of an item has a star in it if the item is all of the field, perhaps with a step. -/
theorem star_mem_iff {item : CronItem} {part : List Char} (h : item.IsWritten field part) :
    '*' ∈ part ↔ ∃ step, item = .all step := by
  have hvalue : ∀ {value : CronValue} {body}, value.IsWritten field body → '*' ∉ body :=
    fun hvalue => hvalue.notMem hfield (by decide)
  cases item with
  | all step =>
    obtain ⟨rest, -, rfl⟩ := h
    exact ⟨fun _ => ⟨step, rfl⟩, fun _ => List.mem_cons_self⟩
  | single value step =>
    obtain ⟨body, rest, hbody, hrest, rfl⟩ := h
    simp [hvalue hbody, hrest.star_notMem]
  | range low high step =>
    obtain ⟨start, stop, rest, hlow, hhigh, hrest, rfl⟩ := h
    simp [hvalue hlow, hvalue hhigh, hrest.star_notMem]

theorem eq_star_iff {item : CronItem} {part : List Char} (h : item.IsWritten field part) :
    part = ['*'] ↔ item = .all none := by
  constructor
  · rintro rfl
    obtain ⟨step, rfl⟩ := (star_mem_iff hfield h).mp List.mem_cons_self
    obtain ⟨rest, hrest, hpart⟩ := h
    obtain rfl : [] = rest := (List.cons.inj hpart).2
    cases step with
    | none => rfl
    | some step =>
      obtain ⟨digits, -, hdigits⟩ := hrest
      cases hdigits
  · rintro rfl
    obtain ⟨rest, rfl, rfl⟩ := h
    rfl

theorem star_mem_items_iff (h : field.IsWritten chosen text) :
    (items text).contains ['*'] = true ↔ .all none ∈ chosen := by
  rw [items_eq_splitOn, List.contains_iff_mem]
  simpa using exists_mem_iff_of_forall₂ h.parts fun item part hpart => eq_star_iff hfield hpart

theorem star_mem_text_iff (h : field.IsWritten chosen text) :
    text.contains '*' = true ↔ ∃ step, .all step ∈ chosen := by
  rw [List.contains_iff_mem, mem_iff_of_splitOn (by decide : '*' ≠ ',')]
  have hiff := exists_mem_iff_of_forall₂ h.parts fun item part hpart => star_mem_iff hfield hpart
  rw [hiff]
  constructor
  · rintro ⟨item, hitem, step, rfl⟩
    exact ⟨step, hitem⟩
  · rintro ⟨step, hitem⟩
    exact ⟨_, hitem, step, rfl⟩

/-- **Reading whether a day field is free**, from the texts of both. -/
theorem isOpen_iff (hother : other.IsProper) (h : field.IsWritten chosen text)
    (hothers : other.IsWritten others otherText) {values : List Nat}
    (hvalues : values.length = field.size ↔ ∀ n, field.holds n = true → field.Means chosen n) :
    Cron.isOpen field values text otherText = true ↔ field.IsFree chosen others := by
  unfold Cron.isOpen IsFree
  rw [Bool.or_eq_true, Bool.and_eq_true, decide_eq_true_eq, star_mem_items_iff hfield h,
    star_mem_text_iff hother hothers, hvalues]

end Fields

theorem IsFree.means {field : CronField} {chosen others : List CronItem}
    (h : field.IsFree chosen others) {n : Nat} (hn : field.holds n = true) :
    field.Means chosen n := by
  rcases h with hstar | ⟨hall, -⟩
  · obtain ⟨hfirst, hlast⟩ := holds_iff.mp hn
    exact ⟨.all none, hstar, hfirst, hlast, Nat.one_dvd _⟩
  · exact hall n hn

end CronField

end Promotions
