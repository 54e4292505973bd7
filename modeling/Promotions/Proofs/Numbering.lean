import Mathlib.Data.List.Nodup
import Promotions.Store.Database

/-!
# Numbered tables

Rows get their identifiers from a counter, and no operation of the business deletes a row. So the
rows of a table carry the identifiers that were given out, in order: the table is `Numbered`. An
identifier then names at most one row (`Numbered.eq_of_id_eq`), and the next one names none
(`Numbered.id_ne_nextId`).

`Evolves R t u` says that `u` is a later version of the table `t`: every row of `t` keeps its place
and changes only as `R` allows, and rows that were added come after them. These are `newRows t u`,
the rows with identifiers that `t` does not have.
-/

namespace Promotions.Table

variable {ρ : Type} [Row ρ]

/-- The first identifiers of a kind of row. -/
def firstIds (ρ : Type) [Row ρ] (n : Nat) : List Id :=
  (List.range n).map fun k => ⟨Row.origin ρ + k + 1⟩

/-- The rows carry the identifiers that were given out, in order. -/
def Numbered (t : Table ρ) : Prop := t.rows.map Row.id = firstIds ρ t.added

theorem firstIds_succ (n : Nat) :
    firstIds ρ (n + 1) = firstIds ρ n ++ [⟨Row.origin ρ + n + 1⟩] := by
  simp [firstIds, List.range_succ]

theorem nodup_firstIds (n : Nat) : (firstIds ρ n).Nodup := by
  refine List.Nodup.map_on ?_ List.nodup_range
  intro a _ b _ hab
  have := congrArg Id.val hab
  simp only at this
  omega

theorem nextId_notMem_firstIds (t : Table ρ) : t.nextId ∉ firstIds ρ t.added := by
  simp only [firstIds, List.mem_map, List.mem_range, nextId, Id.mk.injEq, not_exists, not_and]
  intro k hk
  omega

theorem isSome_find?_iff {t : Table ρ} {id : Id} :
    (t.find? id).isSome = true ↔ id ∈ t.rows.map Row.id := by
  simp [find?]

theorem numbered_empty : Numbered ({} : Table ρ) := by simp [Numbered, firstIds]

section Numbered
variable {t : Table ρ} (h : t.Numbered)
include h

theorem Numbered.nodup : (t.rows.map Row.id).Nodup := by
  rw [h]; exact nodup_firstIds _

theorem Numbered.eq_of_id_eq {a b : ρ} (ha : a ∈ t.rows) (hb : b ∈ t.rows)
    (hid : Row.id a = Row.id b) : a = b :=
  List.inj_on_of_nodup_map h.nodup ha hb hid

theorem Numbered.id_ne_nextId {row : ρ} (hrow : row ∈ t.rows) : Row.id row ≠ t.nextId := by
  intro heq
  refine nextId_notMem_firstIds t ?_
  rw [← h, ← heq]
  exact List.mem_map_of_mem hrow

theorem Numbered.find?_eq_some_iff {id : Id} {row : ρ} :
    t.find? id = some row ↔ row ∈ t.rows ∧ Row.id row = id := by
  constructor
  · intro hf
    exact ⟨mem_of_find?_eq_some hf, id_of_find?_eq_some hf⟩
  · rintro ⟨hrow, rfl⟩
    cases hf : t.find? (Row.id row) with
    | none => exact absurd rfl (find?_eq_none_iff.mp hf row hrow)
    | some found =>
      rw [h.eq_of_id_eq (mem_of_find?_eq_some hf) hrow (id_of_find?_eq_some hf)]

theorem Numbered.push {row : ρ} (hid : Row.id row = t.nextId) : (t.push row).Numbered := by
  unfold Numbered at h ⊢
  rw [rows_push, added_push, List.map_append, h, firstIds_succ]
  simp [hid, nextId]

omit h in
theorem ids_modify {id : Id} {f : ρ → ρ} (hf : ∀ row, Row.id row = id → Row.id (f row) = id) :
    (t.modify id f).rows.map Row.id = t.rows.map Row.id := by
  simp only [rows_modify, List.map_map]
  refine List.map_congr_left fun row _ => ?_
  simp only [Function.comp]
  split_ifs with hrow
  · rw [hf row hrow, hrow]
  · rfl

omit h in
theorem find?_modify {id other : Id} {f : ρ → ρ}
    (hf : ∀ row, Row.id row = other → Row.id (f row) = other) :
    (t.modify other f).find? id =
      (t.find? id).map fun row => if Row.id row = other then f row else row := by
  have hsame : ((fun row => decide (Row.id row = id)) ∘
      fun row => if Row.id row = other then f row else row) = fun row => decide (Row.id row = id) := by
    funext row
    simp only [Function.comp]
    split_ifs with hrow
    · rw [hf row hrow, hrow]
    · rfl
  unfold find?
  rw [rows_modify, List.find?_map, hsame]

omit h in
theorem find?_modify_of_ne {id other : Id} {f : ρ → ρ}
    (hf : ∀ row, Row.id row = other → Row.id (f row) = other) (hne : id ≠ other) :
    (t.modify other f).find? id = t.find? id := by
  rw [find?_modify hf]
  cases hfind : t.find? id with
  | none => rfl
  | some row =>
    rw [Option.map_some, if_neg fun hother => hne ((id_of_find?_eq_some hfind).symm.trans hother)]

theorem Numbered.modify {id : Id} {f : ρ → ρ}
    (hf : ∀ row, Row.id row = id → Row.id (f row) = id) : (t.modify id f).Numbered := by
  unfold Numbered at h ⊢
  rw [ids_modify hf, h, added_modify]

theorem Numbered.put (row : ρ) : (t.put row).Numbered := h.modify fun _ _ => rfl

theorem Numbered.map {f : ρ → ρ} (hf : ∀ row, Row.id (f row) = Row.id row) :
    ({ t with rows := t.rows.map f } : Table ρ).Numbered := by
  unfold Numbered at h ⊢
  simp only [List.map_map]
  rw [← h]
  exact List.map_congr_left fun row _ => hf row

theorem Numbered.find?_push {row : ρ} (hid : Row.id row = t.nextId) :
    (t.push row).find? (Row.id row) = some row :=
  (h.push hid).find?_eq_some_iff.mpr ⟨by simp, rfl⟩

theorem Numbered.put_push {row new : ρ} (hid : Row.id row = t.nextId)
    (hnew : Row.id new = Row.id row) : (t.push row).put new = t.push new := by
  have hold : (t.rows.map fun r => if Row.id r = Row.id row then new else r) = t.rows := by
    refine (List.map_congr_left fun r hr => ?_).trans (List.map_id _)
    exact if_neg (by rw [hid]; exact h.id_ne_nextId hr)
  unfold Table.put Table.modify Table.push
  simp [hnew, hold]

omit h in
/-- **The rows after a row was put in the place of an old one.** -/
theorem mem_put_iff {new old row : ρ} (hold : old ∈ t.rows)
    (hid : Row.id new = Row.id old) :
    row ∈ (t.put new).rows ↔ row = new ∨ row ∈ t.rows ∧ Row.id row ≠ Row.id old := by
  simp only [Table.put, rows_modify, List.mem_map, hid]
  constructor
  · rintro ⟨r, hr, rfl⟩
    split_ifs with hrid
    · exact Or.inl rfl
    · exact Or.inr ⟨hr, hrid⟩
  · rintro (rfl | ⟨hrow, hne⟩)
    · exact ⟨old, hold, if_pos rfl⟩
    · exact ⟨row, hrow, if_neg hne⟩

end Numbered

/-! ### Later versions of a table -/

/-- Every row keeps its place and changes only as `R` allows; new rows may come after them. -/
def Evolves (R : ρ → ρ → Prop) (t u : Table ρ) : Prop :=
  ∀ (i : Nat) (row : ρ), t.rows[i]? = some row → ∃ row', u.rows[i]? = some row' ∧ R row row'

/-- The rows of a later version of a table with identifiers that the table does not have. -/
def newRows (t u : Table ρ) : List ρ :=
  u.rows.filter fun row => (t.find? (Row.id row)).isNone

section Evolves
variable {R : ρ → ρ → Prop} {t u v : Table ρ}

omit [Row ρ] in
theorem Evolves.refl (hR : ∀ row, R row row) (t : Table ρ) : Evolves R t t :=
  fun _ row hrow => ⟨row, hrow, hR row⟩

omit [Row ρ] in
theorem Evolves.trans (hR : ∀ a b c, R a b → R b c → R a c) (h : Evolves R t u)
    (h' : Evolves R u v) : Evolves R t v := by
  intro i row hrow
  obtain ⟨row', hrow', hR'⟩ := h i row hrow
  obtain ⟨row'', hrow'', hR''⟩ := h' i row' hrow'
  exact ⟨row'', hrow'', hR _ _ _ hR' hR''⟩

omit [Row ρ] in
theorem Evolves.mono {S : ρ → ρ → Prop} (h : Evolves R t u) (hRS : ∀ a b, R a b → S a b) :
    Evolves S t u := by
  intro i row hrow
  obtain ⟨row', hrow', hR⟩ := h i row hrow
  exact ⟨row', hrow', hRS _ _ hR⟩

omit [Row ρ] in
theorem Evolves.push (hR : ∀ row, R row row) (t : Table ρ) (row : ρ) :
    Evolves R t (t.push row) := by
  intro i old hold
  refine ⟨old, ?_, hR old⟩
  rw [rows_push, List.getElem?_append_left (List.getElem?_eq_some_iff.mp hold).1, hold]

omit [Row ρ] in
theorem Evolves.map {f : ρ → ρ} (hf : ∀ row ∈ t.rows, R row (f row)) (n : Nat) :
    Evolves R t { rows := t.rows.map f, added := n } := by
  intro i row hrow
  exact ⟨f row, by simp [hrow], hf row (List.mem_of_getElem? hrow)⟩

theorem Evolves.modify {id : Id} {f : ρ → ρ} (hR : ∀ row, R row row)
    (hf : ∀ row ∈ t.rows, Row.id row = id → R row (f row)) : Evolves R t (t.modify id f) := by
  refine Evolves.map (fun row hrow => ?_) _
  split_ifs with hid
  · exact hf row hrow hid
  · exact hR row

theorem Evolves.put {old new : ρ} (hR : ∀ row, R row row) (ht : t.Numbered) (hold : old ∈ t.rows)
    (hid : Row.id new = Row.id old) (hnew : R old new) : Evolves R t (t.put new) := by
  refine Evolves.modify hR fun row hrow hrid => ?_
  rw [ht.eq_of_id_eq hrow hold (hrid.trans hid)]
  exact hnew

omit [Row ρ] in
theorem Evolves.exists_mem (h : Evolves R t u) {row : ρ} (hrow : row ∈ t.rows) :
    ∃ row' ∈ u.rows, R row row' := by
  obtain ⟨i, hi⟩ := List.mem_iff_getElem?.mp hrow
  obtain ⟨row', hrow', hR⟩ := h i row hi
  exact ⟨row', List.mem_of_getElem? hrow', hR⟩

theorem Evolves.exists_find? (h : Evolves R t u) (hu : u.Numbered)
    (hid : ∀ a b, R a b → Row.id b = Row.id a) {id : Id} {row : ρ} (hrow : t.find? id = some row) :
    ∃ row', u.find? id = some row' ∧ R row row' := by
  obtain ⟨row', hrow', hR⟩ := h.exists_mem (mem_of_find?_eq_some hrow)
  refine ⟨row', hu.find?_eq_some_iff.mpr ⟨hrow', ?_⟩, hR⟩
  rw [hid _ _ hR, id_of_find?_eq_some hrow]

omit [Row ρ] in
theorem Evolves.map_take {α : Type} {f : ρ → α} (h : Evolves R t u)
    (hf : ∀ a b, R a b → f b = f a) :
    (u.rows.take t.rows.length).map f = t.rows.map f := by
  refine List.ext_getElem? fun i => ?_
  rw [List.getElem?_map, List.getElem?_map, List.getElem?_take]
  split_ifs with hlt
  · obtain ⟨row', hrow', hR⟩ := h i _ (List.getElem?_eq_getElem hlt)
    rw [hrow', List.getElem?_eq_getElem hlt, Option.map_some, Option.map_some, hf _ _ hR]
  · rw [List.getElem?_eq_none (Nat.not_lt.mp hlt)]

/-- **The new rows of a numbered table** are those after the places of the old ones. -/
theorem Evolves.newRows_eq (h : Evolves R t u) (hu : u.Numbered)
    (hid : ∀ a b, R a b → Row.id b = Row.id a) : newRows t u = u.rows.drop t.rows.length := by
  have hold : ∀ row ∈ u.rows.take t.rows.length, (t.find? (Row.id row)).isNone = false := by
    intro row hrow
    obtain ⟨i, hi⟩ := List.mem_iff_getElem?.mp hrow
    rw [List.getElem?_take] at hi
    split_ifs at hi with hlt
    obtain ⟨row', hrow', hR⟩ := h i _ (List.getElem?_eq_getElem hlt)
    rw [hi] at hrow'
    cases hf : t.find? (Row.id row) with
    | none =>
      refine absurd ?_ (find?_eq_none_iff.mp hf _ (List.getElem_mem hlt))
      rw [Option.some.inj hrow', hid _ _ hR]
    | some found => rfl
  have hnew : ∀ row ∈ u.rows.drop t.rows.length, (t.find? (Row.id row)).isNone = true := by
    intro row hrow
    obtain ⟨i, hi⟩ := List.mem_iff_getElem?.mp hrow
    rw [List.getElem?_drop] at hi
    cases hf : t.find? (Row.id row) with
    | none => rfl
    | some found =>
      -- an old row of the same identifier would have a second place
      obtain ⟨j, hj⟩ := List.mem_iff_getElem?.mp (mem_of_find?_eq_some hf)
      obtain ⟨row', hrow', hR⟩ := h j _ hj
      have hjlt := (List.getElem?_eq_some_iff.mp hj).1
      have hids : (u.rows.map Row.id)[j]? = (u.rows.map Row.id)[t.rows.length + i]? := by
        simp only [List.getElem?_map, hrow', hi, Option.map_some]
        rw [hid _ _ hR, id_of_find?_eq_some hf]
      have hlt : j < (u.rows.map Row.id).length := by
        rw [List.length_map]
        exact (List.getElem?_eq_some_iff.mp hrow').1
      have := (List.getElem?_inj hlt hu.nodup).mp hids
      omega
  unfold newRows
  conv_lhs => rw [← List.take_append_drop t.rows.length u.rows]
  rw [List.filter_append, List.filter_eq_nil_iff.mpr fun row hrow => by simp [hold row hrow],
    List.filter_eq_self.mpr hnew, List.nil_append]

theorem Evolves.mem (h : Evolves R t u) (hu : u.Numbered)
    (hid : ∀ a b, R a b → Row.id b = Row.id a) {row' : ρ} (hrow' : row' ∈ u.rows) :
    (∃ row ∈ t.rows, R row row') ∨ row' ∈ newRows t u := by
  obtain ⟨i, hi⟩ := List.mem_iff_getElem?.mp hrow'
  by_cases hlt : i < t.rows.length
  · obtain ⟨found, hfound, hR⟩ := h i _ (List.getElem?_eq_getElem hlt)
    rw [hi, Option.some.injEq] at hfound
    exact Or.inl ⟨t.rows[i], List.getElem_mem hlt, hfound ▸ hR⟩
  · refine Or.inr ?_
    rw [h.newRows_eq hu hid]
    refine List.mem_iff_getElem?.mpr ⟨i - t.rows.length, ?_⟩
    rw [List.getElem?_drop, Nat.add_sub_cancel' (Nat.not_lt.mp hlt), hi]

theorem newRows_eq_nil (h : ∀ row ∈ u.rows, ∃ old ∈ t.rows, Row.id old = Row.id row) :
    newRows t u = [] := by
  refine List.filter_eq_nil_iff.mpr fun row hrow hnone => ?_
  obtain ⟨old, hold, hid⟩ := h row hrow
  exact find?_eq_none_iff.mp (Option.isNone_iff_eq_none.mp hnone) old hold hid

theorem newRows_self (t : Table ρ) : newRows t t = [] :=
  newRows_eq_nil fun row hrow => ⟨row, hrow, rfl⟩

theorem newRows_modify {id : Id} {f : ρ → ρ} (hf : ∀ row, Row.id row = id → Row.id (f row) = id) :
    newRows t (t.modify id f) = [] := by
  refine newRows_eq_nil fun row hrow => ?_
  have hmem := List.mem_map_of_mem (f := Row.id) hrow
  rw [ids_modify hf] at hmem
  exact List.mem_map.mp hmem

theorem Numbered.newRows_append (hu : u.Numbered) {rows : List ρ}
    (hrows : u.rows = t.rows ++ rows) : newRows t u = rows := by
  have hevolves : Evolves Eq t u := by
    intro i row hrow
    refine ⟨row, ?_, rfl⟩
    rw [hrows, List.getElem?_append_left (List.getElem?_eq_some_iff.mp hrow).1, hrow]
  rw [hevolves.newRows_eq hu fun a b hab => congrArg Row.id hab.symm, hrows, List.drop_left]

theorem Numbered.newRows_push (h : t.Numbered) {row : ρ} (hid : Row.id row = t.nextId) :
    newRows t (t.push row) = [row] :=
  (h.push hid).newRows_append (rows_push t row)

end Evolves

end Promotions.Table
