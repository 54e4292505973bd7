import Promotions.Proofs.InPlace
import Promotions.Proofs.Snapshots

/-!
# Approval is all or nothing

What is granted when a request is approved are its wanted rewards that exist (`Books.existing`), in
whatever state the tables are. Each piece that is taken and each grant that is added may stand in
the way of a later one: of the same reward, if that is wanted twice. Granting the first reward of a
list leaves the others as grantable as they were after it (`Books.grantable_cons_iff`), so that by
induction the whole list is granted if nothing stands in the way at the beginning, and that
otherwise the first reward which something stands in the way of decides the failure
(`Books.issueEach_cases`).

The failure of an approval leaves nothing behind, not only because a failing operation is taken back
as a whole: the rewards are issued in a savepoint, and nothing is written before it
(`InPlace.approveRequest_eq_error`).
-/

namespace Promotions

theorem Grant.shown_eq {g : Grant} (h : g.metadata.isObjectOrNull = true) :
    g.shown = if g.metadata.isShallow then .ok g.view else .error .unwritable := by
  have hissues : g.issues = [] := Json.payloadIssues_eq_nil_iff.mpr h
  unfold shown showable
  rw [hissues]
  simp

/-! ### Wanted lists of any spelling -/

theorem mapM_eq_ok_of_map_eq {α β ε : Type} {f : α → Except ε β} {items : List α}
    {values : List β} (h : items.map f = values.map .ok) : items.mapM f = .ok values := by
  induction items generalizing values with
  | nil =>
    have hvalues : values = [] := by simpa using h
    rw [hvalues]
    rfl
  | cons item rest ih =>
    cases values with
    | nil => simp at h
    | cons value others =>
      obtain ⟨hvalue, hothers⟩ := List.cons.inj h
      rw [List.mapM_cons, hvalue, ih hothers]
      rfl

/-- **The wanted list spells these identifiers**, in any spelling and as often as it likes. -/
def RewardRequest.Reads (q : RewardRequest) (ids : List Id) : Prop :=
  ∃ texts : List String, q.rewardIds = .arr (texts.map .str) ∧ texts.map Id.parse = ids.map .ok

namespace RewardRequest

variable {q : RewardRequest} {ids : List Id}

theorem map_itemId_eq {texts : List String} (h : texts.map Id.parse = ids.map .ok) :
    (texts.map Json.str).map itemId = ids.map .ok := by
  have hitem (text : String) : itemId (.str text) = (Id.parse text).mapError .badId := by
    unfold itemId Id.ofJson
    dsimp only
    cases Id.parse text <;> rfl
  calc (texts.map Json.str).map itemId = (texts.map Id.parse).map (Except.mapError .badId) := by
        rw [List.map_map, List.map_map]
        refine List.map_congr_left fun text _ => ?_
        rw [Function.comp_apply, Function.comp_apply, hitem]
    _ = ids.map .ok := by
        rw [h, List.map_map]
        rfl

theorem Reads.wanted_eq_ok (h : q.Reads ids) : q.wanted = .ok ids := by
  obtain ⟨texts, htexts, hids⟩ := h
  unfold wanted items itemsOf
  rw [htexts]
  exact mapM_eq_ok_of_map_eq (map_itemId_eq hids)

theorem reads_of_eq (h : q.rewardIds = .arr (ids.map fun id => .str id.text))
    (hspelled : ∀ id ∈ ids, id.IsSpelled) : q.Reads ids := by
  refine ⟨ids.map Id.text, by rw [h, List.map_map]; rfl, ?_⟩
  rw [List.map_map]
  refine List.map_congr_left fun id hid => ?_
  rw [Function.comp_apply, Id.parse_text (Id.isSpelled_iff.mp (hspelled id hid))]

theorem Reads.exists_requestMoved (h : q.Reads ids) (logType : LogType) (operator : Option String)
    (old : RewardRequest) (more : List (String × Json)) :
    ∃ note, Books.requestMoved logType operator old q more = .ok note := by
  obtain ⟨texts, htexts, hids⟩ := h
  have hitems : q.items = .ok (texts.map .str) := by
    unfold items itemsOf
    rw [htexts]
    rfl
  have hfirst : ∃ first, q.firstReward = .ok first := by
    unfold firstReward
    rw [hitems, htexts]
    cases texts with
    | nil => exact ⟨none, rfl⟩
    | cons text rest =>
      cases ids with
      | nil => simp at hids
      | cons id others =>
        have hid : itemId (.str text) = .ok id := (List.cons.inj (map_itemId_eq hids)).1
        refine ⟨some id, ?_⟩
        simp only [List.map_cons, hid]
        rfl
  obtain ⟨first, hfirst⟩ := hfirst
  unfold Books.requestMoved
  rw [hfirst, hitems]
  exact ⟨_, rfl⟩

end RewardRequest

namespace Books

/-! ### What stands in the way -/

/-- The identifiers of a list that are those of rewards, as often as the list has them. -/
def existing (books : Books) (ids : List Id) : List Id :=
  ids.filter fun id => (books.rewards.find? id).isSome

/-- **The rewards of a list can be granted** for a request: they are wanted once each, they are in
stock, and they were not granted for it before. -/
structure Grantable (books : Books) (requestId : Id) (ids : List Id) : Prop where
  nodup : ids.Nodup
  inStock : books.InStock ids
  ungranted : books.Ungranted requestId ids

/-- The metadata of the rewards of a list can be written out. -/
def Writable (books : Books) (ids : List Id) : Prop :=
  ∀ id ∈ ids, ∀ reward, books.rewards.find? id = some reward → reward.metadata.isShallow = true

/-- **Something stands in the way** of a reward of the list, after others that can be granted. -/
def Obstructed (books : Books) (requestId : Id) (ids : List Id) : Prop :=
  ∃ before id, before ++ [id] <+: ids ∧ books.Grantable requestId before ∧ books.Writable before ∧
    ¬books.Grantable requestId (before ++ [id])

/-- **A grant cannot be written out**, although nothing stands in the way of it, nor of those before
it. -/
def Overloaded (books : Books) (requestId : Id) (ids : List Id) : Prop :=
  ∃ before id, before ++ [id] <+: ids ∧ books.Grantable requestId (before ++ [id]) ∧
    books.Writable before ∧ ¬books.Writable [id]

section
variable {books : Books} {requestId : Id} {ids others : List Id}

theorem grantable_nil : books.Grantable requestId [] where
  nodup := .nil
  inStock := by simp [InStock]
  ungranted := by simp [Ungranted]

theorem writable_nil : books.Writable [] := by simp [Writable]

theorem Grantable.of_prefix (h : books.Grantable requestId ids) (hbegins : others <+: ids) :
    books.Grantable requestId others where
  nodup := h.nodup.sublist hbegins.sublist
  inStock := fun id hid => h.inStock id (hbegins.subset hid)
  ungranted := fun g hg hrequest hmem => h.ungranted g hg hrequest (hbegins.subset hmem)

theorem Writable.of_prefix (h : books.Writable ids) (hbegins : others <+: ids) :
    books.Writable others :=
  fun id hid => h id (hbegins.subset hid)

theorem Obstructed.ne_nil (h : books.Obstructed requestId ids) : ids ≠ [] := by
  obtain ⟨before, id, hbegins, -⟩ := h
  rintro rfl
  simp at hbegins

theorem Overloaded.ne_nil (h : books.Overloaded requestId ids) : ids ≠ [] := by
  obtain ⟨before, id, hbegins, -⟩ := h
  rintro rfl
  simp at hbegins

theorem Obstructed.not_grantable (h : books.Obstructed requestId ids) :
    ¬books.Grantable requestId ids := by
  obtain ⟨before, id, hbegins, -, -, hnot⟩ := h
  exact fun hall => hnot (hall.of_prefix hbegins)

theorem Overloaded.not_writable (h : books.Overloaded requestId ids) : ¬books.Writable ids := by
  obtain ⟨before, id, hbegins, -, -, hnot⟩ := h
  intro hall
  refine hnot fun other hother => hall other (hbegins.subset ?_)
  exact List.mem_append_right _ hother

theorem Obstructed.not_overloaded (h : books.Obstructed requestId ids) :
    ¬books.Overloaded requestId ids := by
  rintro ⟨fine, tall, htall, hfine, -, hnot⟩
  obtain ⟨before, id, hid, hbefore, hwritable, hstop⟩ := h
  rcases List.prefix_or_prefix_of_prefix hid htall with hle | hle
  · exact hstop (hfine.of_prefix hle)
  · rcases List.prefix_concat_iff.mp hle with heq | hle
    · exact hstop (heq ▸ hfine)
    · refine hnot fun other hother => hwritable other (hle.subset ?_)
      exact List.mem_append_right _ hother

end

/-! ### Granting the first of a list -/

section
variable {books : Books} {stamp : Instant} {grant : Grant} {requestId id : Id} {ids : List Id}

theorem existing_withGrant : (books.withGrant stamp grant).existing ids = books.existing ids := by
  simp only [existing, find?_withGrant, Option.isSome_map]

theorem writable_withGrant_iff : (books.withGrant stamp grant).Writable ids ↔ books.Writable ids := by
  unfold Writable
  refine forall₂_congr fun id _ => ?_
  rw [find?_withGrant]
  cases books.rewards.find? id with
  | none => simp
  | some reward =>
    simp only [Option.map_some, Option.some.injEq, forall_eq']
    split <;> rfl

theorem isObjectOrNull_withGrant (h : ∀ r ∈ books.rewards.rows, r.metadata.isObjectOrNull = true)
    (stamp : Instant) (grant : Grant) :
    ∀ r ∈ (books.withGrant stamp grant).rewards.rows, r.metadata.isObjectOrNull = true := by
  intro r hr
  obtain ⟨old, hold, rfl⟩ := List.mem_map.mp hr
  split
  · exact h old hold
  · exact h old hold

theorem obstructed_of_first (h : ¬books.Grantable requestId [id]) :
    books.Obstructed requestId (id :: ids) :=
  ⟨[], id, ⟨ids, rfl⟩, grantable_nil, writable_nil, h⟩

theorem overloaded_of_first (h : books.Grantable requestId [id]) (hnot : ¬books.Writable [id]) :
    books.Overloaded requestId (id :: ids) :=
  ⟨[], id, ⟨ids, rfl⟩, h, writable_nil, hnot⟩

section
variable {reward : Reward} (hreward : books.rewards.find? reward.id = some reward)
include hreward

theorem writable_cons_iff :
    books.Writable (reward.id :: ids) ↔ reward.metadata.isShallow = true ∧ books.Writable ids := by
  simp [Writable, hreward]

variable (hstock : reward.issuedQuantity < reward.totalQuantity)
  (hnew : ∀ g ∈ books.grants.rows, ¬(g.requestId = grant.requestId ∧ g.rewardId = reward.id))
  (hgrant : grant.rewardId = reward.id)
include hstock hnew hgrant

/-- **Once a reward is granted**, others can be granted if they could be together with it. -/
theorem grantable_cons_iff (stamp : Instant) :
    books.Grantable grant.requestId (reward.id :: ids) ↔
      (books.withGrant stamp grant).Grantable grant.requestId ids := by
  have hother {other : Id} (hne : other ≠ reward.id) :
      (books.withGrant stamp grant).rewards.find? other = books.rewards.find? other :=
    find?_withGrant_of_ne books stamp (by rwa [hgrant])
  constructor
  · intro h
    obtain ⟨hid, hnodup⟩ := List.nodup_cons.mp h.nodup
    refine ⟨hnodup, fun other hmem found hfound => ?_, fun g hg hrequest hmem => ?_⟩
    · rw [hother fun heq => hid (heq ▸ hmem)] at hfound
      exact h.inStock other (List.mem_cons_of_mem _ hmem) found hfound
    · rcases List.mem_append.mp hg with hg | hg
      · exact h.ungranted g hg hrequest (List.mem_cons_of_mem _ hmem)
      · rw [List.mem_singleton.mp hg, hgrant] at hmem
        exact hid hmem
  · intro h
    -- the new grant is not to be repeated
    have hid : reward.id ∉ ids := by
      rw [← hgrant]
      exact h.ungranted grant (List.mem_append_right _ List.mem_cons_self) rfl
    refine ⟨List.nodup_cons.mpr ⟨hid, h.nodup⟩, fun other hmem found hfound => ?_,
      fun g hg hrequest hmem => ?_⟩
    · by_cases hsame : other = reward.id
      · rw [hsame, hreward] at hfound
        cases hfound
        exact hstock
      · rw [← hother hsame] at hfound
        exact h.inStock other ((List.mem_cons.mp hmem).resolve_left hsame) found hfound
    · rcases List.mem_cons.mp hmem with heq | hmem
      · exact hnew g hg ⟨hrequest, heq⟩
      · exact h.ungranted g (List.mem_append_left _ hg) hrequest hmem

variable (hshallow : reward.metadata.isShallow = true)
include hshallow

theorem Obstructed.cons (h : (books.withGrant stamp grant).Obstructed grant.requestId ids) :
    books.Obstructed grant.requestId (reward.id :: ids) := by
  obtain ⟨before, id, hbegins, hbefore, hwritable, hnot⟩ := h
  have hcons (others : List Id) : books.Grantable grant.requestId (reward.id :: others) ↔
      (books.withGrant stamp grant).Grantable grant.requestId others :=
    grantable_cons_iff hreward hstock hnew hgrant stamp
  refine ⟨reward.id :: before, id, (List.prefix_cons_inj _).mpr hbegins, (hcons _).mpr hbefore, ?_,
    fun hall => hnot ((hcons _).mp hall)⟩
  exact (writable_cons_iff hreward).mpr ⟨hshallow, writable_withGrant_iff.mp hwritable⟩

theorem Overloaded.cons (h : (books.withGrant stamp grant).Overloaded grant.requestId ids) :
    books.Overloaded grant.requestId (reward.id :: ids) := by
  obtain ⟨before, id, hbegins, hall, hwritable, hnot⟩ := h
  refine ⟨reward.id :: before, id, (List.prefix_cons_inj _).mpr hbegins, ?_, ?_,
    fun hfits => hnot (writable_withGrant_iff.mpr hfits)⟩
  · exact (grantable_cons_iff hreward hstock hnew hgrant stamp).mpr hall
  · exact (writable_cons_iff hreward).mpr ⟨hshallow, writable_withGrant_iff.mp hwritable⟩

end

end

/-! ### Issuing a list -/

section
variable (s : Session) (request : RewardRequest) (operator : Option String) (now : Instant)
  (books : Books)

/-- **Granting one reward** whose metadata is an object or absent, in all cases. -/
theorem issueOne_eq {reward : Reward} (hobject : reward.metadata.isObjectOrNull = true) :
    books.issueOne s request operator now reward =
      let grant := Grant.ofReward books.grants.nextId request reward reward.metadata now
      if reward.totalQuantity ≤ reward.issuedQuantity then
        Failure.refuse (.outOfStock reward.id reward.name)
      else if ∃ g ∈ books.grants.rows, g.requestId = request.id ∧ g.rewardId = reward.id then
        Failure.refuse (.alreadyIssued reward.id request.id)
      else if reward.metadata.isShallow = true then
        .ok
          { answer := grant
            books := books.withGrant s.stamp grant
            notes := [rewardIssued grant grant.view operator] }
      else Failure.breakOff .unwritable := by
  unfold issueOne
  rw [Metadata.copy_eq_ok hobject]
  dsimp only
  by_cases hstock : reward.totalQuantity ≤ reward.issuedQuantity
  · rw [if_pos hstock, if_pos hstock]
  · rw [if_neg hstock, if_neg hstock]
    by_cases htaken : ∃ g ∈ books.grants.rows, g.requestId = request.id ∧ g.rewardId = reward.id
    · have hnone : (books.takeOne reward.id s.stamp).addGrant? (Grant.ofReward books.grants.nextId
          request reward reward.metadata now) = none := by
        unfold addGrant?
        dsimp only
        rw [if_pos]
        simp only [Table.any, List.any_eq_true, Bool.and_eq_true, decide_eq_true_eq]
        exact htaken
      rw [if_pos htaken, hnone]
    · have hnew : ∀ g ∈ books.grants.rows, ¬(g.requestId = request.id ∧ g.rewardId = reward.id) :=
        fun g hg hsame => htaken ⟨g, hg, hsame⟩
      have hadded : (books.takeOne reward.id s.stamp).addGrant? (Grant.ofReward books.grants.nextId
          request reward reward.metadata now) = some (books.withGrant s.stamp (Grant.ofReward
            books.grants.nextId request reward reward.metadata now)) := addGrant?_of_new hnew
      have hshown := Grant.shown_eq (g := Grant.ofReward books.grants.nextId request reward
        reward.metadata now) hobject
      rw [if_neg htaken, hadded]
      dsimp only [Metadata.Copied.checked]
      rw [hshown]
      dsimp only [Grant.ofReward]
      by_cases hshallow : reward.metadata.isShallow = true
      · simp [hshallow]
      · simp [hshallow, Failure.breakOff]

variable {books} {ids : List Id}

/-- **Issuing a list**, in all cases: all rewards of it that exist are granted, or the first one
that cannot be granted or written out decides how the whole fails. -/
theorem issueEach_cases (hobjects : ∀ r ∈ books.rewards.rows, r.metadata.isObjectOrNull = true) :
    (books.Grantable request.id (books.existing ids) ∧ books.Writable (books.existing ids) ∧
      ∃ after grants notes, Granting s request operator now books ids after grants notes) ∨
    (books.Obstructed request.id (books.existing ids) ∧ ∃ refusal : Refusal,
      refusal.kind = .conflict ∧
        issueEach s request operator now books ids = Failure.refuse refusal) ∨
    (books.Overloaded request.id (books.existing ids) ∧
      issueEach s request operator now books ids = Failure.breakOff .unwritable) := by
  induction ids generalizing books with
  | nil =>
    exact Or.inl ⟨grantable_nil, by simp [existing, Writable], books, [], [], .done books⟩
  | cons id rest ih =>
    cases hreward : books.rewards.find? id with
    | none =>
      have hexisting : books.existing (id :: rest) = books.existing rest := by
        simp [existing, hreward]
      have hissue : issueEach s request operator now books (id :: rest) =
          issueEach s request operator now books rest := by
        rw [issueEach, hreward]
      rw [hexisting, hissue]
      refine (ih hobjects).imp_left ?_
      rintro ⟨hgrantable, hwritable, after, grants, notes, hgranting⟩
      exact ⟨hgrantable, hwritable, after, grants, notes, .skipped hreward hgranting⟩
    | some reward =>
      obtain rfl : reward.id = id := Table.id_of_find?_eq_some hreward
      have hobject := hobjects reward (Table.mem_of_find?_eq_some hreward)
      have hexisting : books.existing (reward.id :: rest) = reward.id :: books.existing rest := by
        simp [existing, hreward]
      have hone := issueOne_eq s request operator now books hobject
      rw [hexisting, issueEach, hreward]
      dsimp only at hone ⊢
      split_ifs at hone with hout htaken hshallow
      · -- it is out of stock
        refine Or.inr (Or.inl ⟨obstructed_of_first fun h => ?_, _, rfl, by rw [hone]; rfl⟩)
        exact absurd (h.inStock reward.id List.mem_cons_self reward hreward) (Int.not_lt.mpr hout)
      · -- it was granted before, perhaps for the same list
        obtain ⟨g, hg, hrequest, hsame⟩ := htaken
        refine Or.inr (Or.inl ⟨obstructed_of_first fun h => ?_, _, rfl, by rw [hone]; rfl⟩)
        exact h.ungranted g hg hrequest (hsame ▸ List.mem_cons_self)
      · -- it is granted, and the others see the grant
        obtain ⟨hstock, hnew, -, copied, view, hcopied, hgrant, hview, hnotes⟩ := issueOne_eq_ok hone
        have hrest := ih (isObjectOrNull_withGrant hobjects s.stamp
          (Grant.ofReward books.grants.nextId request reward reward.metadata now))
        rw [existing_withGrant] at hrest
        rw [hone]
        rcases hrest with ⟨hgrants, hwrites, after, grants, notes, hgranting⟩ |
          ⟨hobstructed, refusal, hkind, hfails⟩ | ⟨hoverloaded, hfails⟩
        · refine Or.inl ⟨(grantable_cons_iff hreward hstock hnew rfl s.stamp).mpr hgrants, ?_, _, _, _,
            .granted hreward hstock hcopied hgrant hnew hview hgranting⟩
          exact (writable_cons_iff hreward).mpr ⟨hshallow, writable_withGrant_iff.mp hwrites⟩
        · refine Or.inr (Or.inl ⟨hobstructed.cons hreward hstock hnew rfl hshallow, refusal, hkind, ?_⟩)
          dsimp only
          rw [hfails]
          rfl
        · refine Or.inr (Or.inr ⟨hoverloaded.cons hreward hstock hnew rfl hshallow, ?_⟩)
          dsimp only
          rw [hfails]
          rfl
      · -- it could be granted, but not be written out
        have hnew : ∀ g ∈ books.grants.rows, ¬(g.requestId = request.id ∧ g.rewardId = reward.id) :=
          fun g hg hsame => htaken ⟨g, hg, hsame⟩
        let grant := Grant.ofReward books.grants.nextId request reward reward.metadata now
        have hgrantable : books.Grantable grant.requestId [reward.id] :=
          (grantable_cons_iff hreward (Int.not_le.mp hout) hnew rfl s.stamp).mpr grantable_nil
        refine Or.inr (Or.inr ⟨overloaded_of_first hgrantable fun h => hshallow ?_, ?_⟩)
        · exact h reward.id List.mem_cons_self reward hreward
        · rw [hone]
          rfl

/-! ### What is granted -/

variable {s request operator now} {after : Books} {grants : List Grant} {notes : List Note}

section Granted
variable (h : Granting s request operator now books ids after grants notes)
include h

/-- **What is granted are the rewards of the list that exist**, in its order. -/
theorem Granting.rewardIds_eq_existing : grants.map Grant.rewardId = books.existing ids := by
  induction h with
  | done books => rfl
  | skipped hnone hrest ih => simpa [existing, hnone] using ih
  | @granted books after id rest grants notes reward copied grant view hreward hstock hcopied hgrant
      hnew hview hrest ih =>
    have hid : grant.rewardId = id := by
      rw [hgrant]
      exact Table.id_of_find?_eq_some hreward
    rw [List.map_cons, hid, ih, existing_withGrant]
    simp [existing, hreward]

theorem Granting.rows_rewards (hnodup : (books.existing ids).Nodup) :
    after.rewards.rows = books.rewards.rows.map fun r =>
      if r.id ∈ books.existing ids then
        { r with issuedQuantity := r.issuedQuantity + 1, updatedAt := some s.stamp }
      else r := by
  induction h with
  | done books => simp [existing]
  | @skipped books after id rest grants notes hnone hrest ih =>
    have hexisting : books.existing (id :: rest) = books.existing rest := by
      simp [existing, hnone]
    rw [hexisting] at hnodup ⊢
    exact ih hnodup
  | @granted books after id rest grants notes reward copied grant view hreward hstock hcopied hgrant
      hnew hview hrest ih =>
    have hexisting : books.existing (id :: rest) = id :: books.existing rest := by
      simp [existing, hreward]
    have hid : grant.rewardId = id := by
      rw [hgrant]
      exact Table.id_of_find?_eq_some hreward
    rw [hexisting] at hnodup ⊢
    obtain ⟨hfresh, hnodup⟩ := List.nodup_cons.mp hnodup
    rw [existing_withGrant] at ih
    rw [ih hnodup, withGrant, takeOne, Table.rows_modify, List.map_map, hid]
    refine List.map_congr_left fun r _ => ?_
    have hrow : Row.id r = r.id := rfl
    by_cases hsame : r.id = id
    · simp [hrow, hsame, hfresh]
    · simp [hrow, hsame]

theorem Granting.exists_ofReward
    (hobjects : ∀ r ∈ books.rewards.rows, r.metadata.isObjectOrNull = true) :
    ∀ g ∈ grants, ∃ r, books.rewards.find? g.rewardId = some r ∧
      g = Grant.ofReward g.id request r r.metadata now := by
  induction h with
  | done books => simp
  | skipped hnone hrest ih => exact ih hobjects
  | @granted books after id rest grants notes reward copied grant view hreward hstock hcopied hgrant
      hnew hview hrest ih =>
    intro g hg
    rcases List.mem_cons.mp hg with rfl | hg
    · have hid : reward.id = id := Table.id_of_find?_eq_some hreward
      rw [Metadata.copy_eq_ok (hobjects reward (Table.mem_of_find?_eq_some hreward))] at hcopied
      cases hcopied
      rw [hgrant]
      exact ⟨reward, by rw [← hreward, ← hid]; rfl, rfl⟩
    · obtain ⟨r, hr, heq⟩ := ih (isObjectOrNull_withGrant hobjects s.stamp grant) g hg
      rw [find?_withGrant] at hr
      obtain ⟨old, hold, rfl⟩ := Option.map_eq_some_iff.mp hr
      refine ⟨old, hold, heq.trans ?_⟩
      split <;> rfl

end Granted

/-! ### Approving a request -/

/-- **A request is approved**: what the tables are like afterwards. -/
structure Approves (s : Session) (books : Books) (q : RewardRequest) (operator : Option String)
    (now : Instant) (rewardIds : List Id) (after : Books) : Prop where
  /-- A piece of each reward is taken, and no other reward changes. -/
  rewards_eq : after.rewards.rows = books.rewards.rows.map fun r =>
    if r.id ∈ rewardIds then
      { r with issuedQuantity := r.issuedQuantity + 1, updatedAt := some s.stamp }
    else r
  /-- One active grant is added for each reward, in order. -/
  grants_eq : ∃ grants, after.grants.rows = books.grants.rows ++ grants ∧
    grants.map Grant.rewardId = rewardIds ∧
    ∀ g ∈ grants, g.status = .active ∧ ∃ r, books.rewards.find? g.rewardId = some r ∧
      g = Grant.ofReward g.id q r r.metadata now
  /-- The request is approved now, and no other request changes. -/
  requests_eq : after.requests.rows = books.requests.rows.map fun row =>
    if row.id = q.id then
      { q with
        status := .approved, approvedAt := some now, issuedAt := some now, processedBy := operator
        updatedAt := some s.stamp }
    else row
  claims_eq : after.claims = books.claims
  events_eq : after.events = books.events
  /-- The user's participation is marked as rewarded if it carries the request. -/
  participations_eq : after.participations = (books.markRewarded q now).participations

theorem latestParticipation?_congr (hsame : after.participations = books.participations)
    (eventId : Id) (userId : String) :
    after.latestParticipation? eventId userId = books.latestParticipation? eventId userId := by
  unfold latestParticipation? participationsOf
  rw [hsame]

theorem participations_markRewarded_congr (request : RewardRequest) (now : Instant)
    (hsame : after.participations = books.participations) :
    (after.markRewarded request now).participations =
      (books.markRewarded request now).participations := by
  unfold markRewarded
  rw [latestParticipation?_congr hsame]
  split
  · exact hsame
  · split
    · rw [hsame]
    · exact hsame

theorem Granting.approves (h : Granting s request operator now books ids after grants notes)
    (hnodup : (books.existing ids).Nodup)
    (hobjects : ∀ r ∈ books.rewards.rows, r.metadata.isObjectOrNull = true) :
    Approves s books request operator now (books.existing ids)
      ((after.putRequest s (request.approved operator now)).markRewarded request now) := by
  obtain ⟨participations, -, heq⟩ := exists_markRewarded_eq
    (after.putRequest s (request.approved operator now)) request now
  obtain ⟨rewards, table, hafter⟩ := h.exists_eq
  have hsame : (after.putRequest s (request.approved operator now)).participations =
      books.participations := by
    rw [hafter]
    rfl
  have hparticipations := participations_markRewarded_congr request now hsame
  refine ⟨?_, ⟨grants, ?_, h.rewardIds_eq_existing, fun g hg => ?_⟩, ?_, ?_, ?_, hparticipations⟩
  · rw [heq]
    exact h.rows_rewards hnodup
  · rw [heq]
    exact h.rows_grants
  · obtain ⟨r, hr, hcopy⟩ := h.exists_ofReward hobjects g hg
    exact ⟨by rw [hcopy]; rfl, r, hr, hcopy⟩
  · rw [heq, hafter]
    rfl
  · rw [heq, hafter]
    rfl
  · rw [heq, hafter]
    rfl

/-- **Why issuing a list fails**: it has no reward that exists, something stands in the way of one,
or a grant cannot be written out. -/
inductive Denied (books : Books) (requestId : Id) (rewardIds : List Id) : Failure → Prop
  | nothing {refusal : Refusal} (hnone : rewardIds = []) (hkind : refusal.kind = .badRequest) :
      Denied books requestId rewardIds (.refused refusal)
  | obstructed {refusal : Refusal} (hobstructed : books.Obstructed requestId rewardIds)
      (hkind : refusal.kind = .conflict) : Denied books requestId rewardIds (.refused refusal)
  | overloaded (hoverloaded : books.Overloaded requestId rewardIds) :
      Denied books requestId rewardIds (.fault .unwritable)

section Denied
variable {requestId : Id} {rewardIds : List Id} {failure : Failure}
  (h : books.Denied requestId rewardIds failure)
include h

theorem Denied.not_approvable :
    ¬(rewardIds ≠ [] ∧ books.Grantable requestId rewardIds ∧ books.Writable rewardIds) := by
  rintro ⟨hsome, hgrantable, hwritable⟩
  cases h with
  | nothing hnone => exact hsome hnone
  | obstructed hobstructed => exact hobstructed.not_grantable hgrantable
  | overloaded hoverloaded => exact hoverloaded.not_writable hwritable

theorem Denied.exists_badRequest (hnone : rewardIds = []) :
    ∃ refusal, failure = .refused refusal ∧ refusal.kind = .badRequest := by
  cases h with
  | @nothing refusal _ hkind => exact ⟨refusal, rfl, hkind⟩
  | obstructed hobstructed => exact absurd hnone hobstructed.ne_nil
  | overloaded hoverloaded => exact absurd hnone hoverloaded.ne_nil

theorem Denied.exists_conflict (hsome : rewardIds ≠ [])
    (hfits : ¬books.Overloaded requestId rewardIds) :
    ∃ refusal, failure = .refused refusal ∧ refusal.kind = .conflict := by
  cases h with
  | nothing hnone => exact absurd hnone hsome
  | @obstructed refusal _ hkind => exact ⟨refusal, rfl, hkind⟩
  | overloaded hoverloaded => exact absurd hoverloaded hfits

theorem Denied.eq_unwritable (hoverloaded : books.Overloaded requestId rewardIds) :
    failure = .fault .unwritable := by
  cases h with
  | nothing hnone => exact absurd hnone hoverloaded.ne_nil
  | obstructed hobstructed => exact absurd hoverloaded hobstructed.not_overloaded
  | overloaded => rfl

end Denied

section Approving
variable (s operator now) (hids : request.Reads ids)
  (hobjects : ∀ r ∈ books.rewards.rows, r.metadata.isObjectOrNull = true)
include hids hobjects

/-- **Issuing the rewards of a request**, in all cases. -/
theorem issueRequest_cases :
    ((books.existing ids ≠ [] ∧ books.Grantable request.id (books.existing ids) ∧
        books.Writable (books.existing ids)) ∧
      ∃ after grants notes, Granting s request operator now books ids after grants notes) ∨
    ∃ failure, books.Denied request.id (books.existing ids) failure ∧
      books.issueRequest s request operator now = .error failure := by
  unfold issueRequest
  rw [hids.wanted_eq_ok]
  dsimp only
  by_cases hempty : ids = []
  · exact Or.inr ⟨_, .nothing (by rw [hempty]; rfl) rfl, by rw [hempty]; rfl⟩
  · rw [if_neg (by simpa using hempty)]
    rcases issueEach_cases s request operator now hobjects with
      ⟨hgrantable, hwritable, after, grants, notes, hgranting⟩ |
      ⟨hobstructed, refusal, hkind, hfails⟩ | ⟨hoverloaded, hfails⟩
    · by_cases hnone : books.existing ids = []
      · -- nothing was granted, since nothing exists
        have hgrants : grants = [] :=
          List.map_eq_nil_iff.mp (hgranting.rewardIds_eq_existing.trans hnone)
        refine Or.inr ⟨_, .nothing hnone (rfl : Refusal.rewardsGone.kind = .badRequest), ?_⟩
        rw [hgranting.issueEach_eq, hgrants]
        rfl
      · exact Or.inl ⟨⟨hnone, hgrantable, hwritable⟩, after, grants, notes, hgranting⟩
    · exact Or.inr ⟨_, .obstructed hobstructed hkind, by rw [hfails]; rfl⟩
    · exact Or.inr ⟨_, .overloaded hoverloaded, by rw [hfails]; rfl⟩

/-- **Approving a pending request**, in all cases. -/
theorem transition_cases (hfound : books.requests.find? request.id = some request)
    (hpending : request.status = .pending) (reason : Option String) :
    ((books.existing ids ≠ [] ∧ books.Grantable request.id (books.existing ids) ∧
        books.Writable (books.existing ids)) ∧
      ∃ after notes, Approves s books request operator now (books.existing ids) after ∧
        books.transition s request.id .approved operator reason now = .ok
          { answer := { request.approved operator now with updatedAt := some s.stamp }
            books := after
            notes }) ∨
    ∃ failure, books.Denied request.id (books.existing ids) failure ∧
      books.issueRequest s request operator now = .error failure ∧
      books.transition s request.id .approved operator reason now = .error failure := by
  rcases issueRequest_cases s operator now hids hobjects with
    ⟨⟨hsome, hgrantable, hwritable⟩, issued, grants, notes, hgranting⟩ | ⟨failure, hdenied, hissue⟩
  · have hread : (request.approved operator now).Reads ids := hids
    obtain ⟨note, hnote⟩ := hread.exists_requestMoved .rewardApproved operator request
      [("grantCount", .int grants.length)]
    have hgrants : grants ≠ [] := by
      intro hnone
      apply hsome
      rw [← hgranting.rewardIds_eq_existing, hnone]
      rfl
    have hids' : ids ≠ [] := by
      rintro rfl
      exact hsome rfl
    have hmoving : Moving s books request operator reason now .approved _ _ :=
      .approved hids.wanted_eq_ok hids' hgranting hgrants hnote
    exact Or.inl ⟨⟨hsome, hgrantable, hwritable⟩, _, _,
      hgranting.approves hgrantable.nodup hobjects, hmoving.transition_eq hfound hpending⟩
  · refine Or.inr ⟨failure, hdenied, hissue, ?_⟩
    rw [transition_eq_approveRequest hfound hpending]
    unfold approveRequest
    rw [hissue]

end Approving

end

end Books

open Books

namespace InPlace

open Work

variable (s : Session) (wreck : Wreck) (sheet : Sheet) {request : RewardRequest}
  (operator : Option String) (now : Instant)

theorem transition_eq_approveRequest
    (hfound : sheet.books.requests.find? request.id = some request)
    (hpending : request.status = .pending) (reason : Option String) :
    transition s wreck request.id .approved operator reason now sheet =
      approveRequest s wreck request operator now sheet := by
  have hfind : sheet.books.findRequest request.id = .ok request := by
    unfold findRequest
    rw [hfound]
  have hlisted : RequestStatus.approved ∈ RequestStatus.listed := by decide
  simp [transition, hlisted, hfind, hpending, RequestStatus.mayBecome]

/-- **An approval in place whose rewards cannot be issued** leaves nothing that it has written. -/
theorem approveRequest_eq_error {failure : Failure}
    (h : sheet.books.issueRequest s request operator now = .error failure) :
    ∃ tried, approveRequest s wreck request operator now sheet =
      (.error failure, { sheet with tried }) := by
  have hissue := does_issueRequest s wreck sheet request operator now
  rw [h] at hissue
  obtain ⟨left, hleft⟩ := hissue
  exact ⟨left.tried, by simp [approveRequest, hleft]⟩

end InPlace

/-- **Approval is all or nothing.** Take any tables in which the metadata of rewards are objects or
absent, and a pending request whose wanted list holds texts of identifiers, perhaps with repetitions
and of rewards that do not exist. It is approved if and only if some of its rewards exist, those
that do are wanted once each, are in stock, were not granted for it before, and have metadata that
can be written out. Then a piece of each of them is taken, a grant of each is added in order, and
the request is approved; nothing else changes but the mark on the user's participation. Otherwise
the approval is refused as a bad request if no wanted reward exists, breaks off if metadata that is
too high is all that stands in the way when its reward is reached, and is a conflict in every other
case. Nothing changes then: not after the approval, nor in the store itself where rewards were
reserved one after the other. -/
theorem approval_all_or_nothing {s : Session} {db : Database} {q : RewardRequest} {ids : List Id}
    (hfound : db.books.requests.find? q.id = some q) (hpending : q.status = .pending)
    (hids : q.Reads ids)
    (hobjects : ∀ r ∈ db.books.rewards.rows, r.metadata.isObjectOrNull = true)
    (operator reason : Option String) (now : Option Instant) :
    let action := Action.transition q.id .approved operator reason now
    let time := now.getD s.clock
    let wanted := db.books.existing ids
    ((∃ success, action.perform s db = .ok success) ↔
      wanted ≠ [] ∧ db.books.Grantable q.id wanted ∧ db.books.Writable wanted) ∧
    (∀ reply after, action.perform s db = .ok (reply, after) →
      reply = .request
        { q with
          status := .approved, approvedAt := some time, issuedAt := some time
          processedBy := operator, updatedAt := some s.stamp } ∧
      Approves s db.books q operator time wanted after.books) ∧
    ∀ failure, action.perform s db = .error failure →
      ((wanted = [] → ∃ refusal, failure = .refused refusal ∧ refusal.kind = .badRequest) ∧
        (db.books.Overloaded q.id wanted → failure = .fault .unwritable) ∧
        (wanted ≠ [] → ¬db.books.Overloaded q.id wanted →
          ∃ refusal, failure = .refused refusal ∧ refusal.kind = .conflict)) ∧
      (⟨s, .call action⟩ : Moment).after db = db ∧
      ∀ (wreck : Wreck) (sheet : Sheet), sheet.books = db.books → ∃ tried,
        InPlace.transition s wreck q.id .approved operator reason time sheet =
          (.error failure, { sheet with tried }) := by
  intro action time wanted
  rcases transition_cases s operator time hids hobjects hfound hpending reason with
    ⟨happrovable, approved, notes, happroves, hmoved⟩ | ⟨failure, hdenied, hissue, hfails⟩
  · have hperform : action.perform s db = .ok (_, _) := congrArg (Action.settle s db .request) hmoved
    refine ⟨⟨fun _ => happrovable, fun _ => ⟨_, hperform⟩⟩, fun reply after hok => ?_,
      fun failure hfails => ?_⟩
    · obtain ⟨rfl, rfl⟩ := Prod.mk.inj (Except.ok.inj (hperform.symm.trans hok))
      exact ⟨rfl, happroves⟩
    · rw [hperform] at hfails
      cases hfails
  · have hperform : action.perform s db = .error failure :=
      congrArg (Action.settle s db .request) hfails
    refine ⟨⟨fun ⟨success, hok⟩ => ?_, fun happrovable => ?_⟩, fun reply after hok => ?_,
      fun other hother => ?_⟩
    · rw [hperform] at hok
      cases hok
    · exact absurd happrovable hdenied.not_approvable
    · rw [hperform] at hok
      cases hok
    · cases hperform.symm.trans hother
      refine ⟨⟨?_, ?_, ?_⟩, Moment.after_call_eq_self hperform, fun wreck sheet hsheet => ?_⟩
      · exact fun hnone => hdenied.exists_badRequest hnone
      · exact fun hoverloaded => hdenied.eq_unwritable hoverloaded
      · exact fun hsome hfits => hdenied.exists_conflict hsome hfits
      · rw [← hsheet] at hfound hissue
        rw [InPlace.transition_eq_approveRequest s wreck sheet operator time hfound hpending reason]
        exact InPlace.approveRequest_eq_error s wreck sheet operator time hissue

/-- Tables with a reward of which one piece is left, a sold-out one, and a pending request whose
wanted list spells some identifiers. -/
def wantingTables (metadata : Json) (ids : List Id) : Database :=
  let reward : Reward := { (default : Reward) with id := ⟨1⟩, metadata, totalQuantity := 1 }
  let request : RewardRequest :=
    { (default : RewardRequest) with
      id := ⟨1⟩, rewardIds := .arr ((ids.map Id.text).map .str), status := .pending }
  { books :=
      { rewards := { rows := [reward, { reward with id := ⟨2⟩, issuedQuantity := 1 }], added := 2 }
        requests := { rows := [request], added := 1 } } }

/-- The request of `wantingTables` is approved. -/
def approveWanting : Action := .transition ⟨1⟩ .approved (some "admin") none none

theorem reads_wantingTables (metadata : Json) {ids : List Id} (hids : ∀ id ∈ ids, id.val < 16 ^ 32) :
    ∀ q ∈ (wantingTables metadata ids).books.requests.rows, q.Reads ids := by
  intro q hq
  simp only [wantingTables, List.mem_singleton] at hq
  rw [hq]
  refine RewardRequest.reads_of_eq ?_ fun id hid => Id.isSpelled_iff.mpr (hids id hid)
  rw [List.map_map]
  rfl

theorem grantable_wantingTables (metadata : Json) (ids : List Id) :
    (wantingTables metadata ids).books.Grantable ⟨1⟩ [⟨1⟩] where
  nodup := List.nodup_singleton _
  inStock := by
    intro id hid reward hreward
    rw [List.mem_singleton.mp hid] at hreward
    cases hreward
    exact Int.zero_lt_one
  ungranted := by simp [Ungranted, wantingTables]

/-- A reward that is there is granted although another one is not; together with one that is sold
out, or twice, it is not granted. -/
theorem approval_all_or_nothing_wantingTables :
    let s : Session := { clock := ⟨1000000⟩ }
    (∃ reply after, approveWanting.perform s (wantingTables .null [⟨3⟩, ⟨1⟩]) =
        .ok (reply, after) ∧
      after.books.rewards.rows.map Reward.issuedQuantity = [1, 1]) ∧
    ∀ n ∈ [1, 2], ∃ refusal, approveWanting.perform s (wantingTables .null [⟨1⟩, ⟨n⟩]) =
      .error (.refused refusal) ∧ refusal.kind = .conflict := by
  intro s
  have hwritable (ids others : List Id) : (wantingTables .null ids).books.Writable others := by
    intro id hid reward hreward
    have hmem := Table.mem_of_find?_eq_some hreward
    simp only [wantingTables, List.mem_cons, List.not_mem_nil, or_false] at hmem
    rcases hmem with rfl | rfl <;> rfl
  have hobjects (ids : List Id) : ∀ r ∈ (wantingTables .null ids).books.rewards.rows,
      r.metadata.isObjectOrNull = true := by
    simp [wantingTables, Json.isObjectOrNull]
  -- what the theorem says for a list of such identifiers
  have happly {ids : List Id} (hids : ∀ id ∈ ids, id.val < 16 ^ 32) :=
    @approval_all_or_nothing s _ _ _ rfl rfl
      (reads_wantingTables (.null) hids _ List.mem_cons_self) (hobjects ids) (some "admin") none none
  constructor
  · obtain ⟨hiff, happroved, -⟩ := @happly [⟨3⟩, ⟨1⟩] (by decide)
    obtain ⟨⟨reply, after⟩, hok⟩ := hiff.mpr
      ⟨by decide +kernel, grantable_wantingTables _ _, hwritable _ _⟩
    obtain ⟨-, happroves⟩ := happroved reply after hok
    refine ⟨reply, after, hok, ?_⟩
    rw [happroves.rewards_eq]
    decide +kernel
  · have hrefused {n : Nat} (hn : n < 16 ^ 32)
        (hsome : (wantingTables .null [⟨1⟩, ⟨n⟩]).books.existing [⟨1⟩, ⟨n⟩] = [⟨1⟩, ⟨n⟩])
        (hnot : ¬(wantingTables .null [⟨1⟩, ⟨n⟩]).books.Grantable ⟨1⟩ [⟨1⟩, ⟨n⟩]) :
        ∃ refusal, approveWanting.perform s (wantingTables .null [⟨1⟩, ⟨n⟩]) =
          .error (.refused refusal) ∧ refusal.kind = .conflict := by
      obtain ⟨hiff, -, hfails⟩ := @happly [⟨1⟩, ⟨n⟩] (by simpa using hn)
      rw [hsome] at hiff hfails
      cases hresult : approveWanting.perform s (wantingTables .null [⟨1⟩, ⟨n⟩]) with
      | ok success => exact absurd (hiff.mp ⟨success, hresult⟩).2.1 hnot
      | error failure =>
        obtain ⟨⟨-, -, hconflict⟩, -⟩ := hfails failure hresult
        obtain ⟨refusal, rfl, hkind⟩ := hconflict (List.cons_ne_nil _ _)
          fun h => h.not_writable (hwritable _ _)
        exact ⟨refusal, rfl, hkind⟩
    intro n hn
    rcases List.mem_pair.mp hn with rfl | rfl
    · exact hrefused (by decide) (by decide +kernel) fun h => absurd h.nodup (by decide)
    · refine hrefused (by decide) (by decide +kernel) fun h => ?_
      exact absurd (h.inStock ⟨2⟩ (by decide) _ rfl) (Int.lt_irrefl 1)

theorem approveWanting_eq_unwritable {metadata : Json} (hobject : metadata.isObjectOrNull = true)
    (hhigh : ¬metadata.isShallow = true) (s : Session) :
    approveWanting.perform s (wantingTables metadata [⟨1⟩]) = .error (.fault .unwritable) := by
  let db := wantingTables metadata [⟨1⟩]
  have hobjects : ∀ r ∈ db.books.rewards.rows, r.metadata.isObjectOrNull = true := by
    simp [db, wantingTables, hobject]
  have hreads := reads_wantingTables metadata (by decide : ∀ id ∈ [(⟨1⟩ : Id)], id.val < 16 ^ 32)
  have hexisting : db.books.existing [⟨1⟩] = [⟨1⟩] := rfl
  have hnot : ¬db.books.Writable [⟨1⟩] := fun h => hhigh (h ⟨1⟩ List.mem_cons_self _ rfl)
  rcases transition_cases s (some "admin") s.clock (hreads _ List.mem_cons_self) hobjects rfl rfl
    none with ⟨⟨-, -, hwritable⟩, -⟩ | ⟨failure, hdenied, -, hfails⟩
  · rw [hexisting] at hwritable
    exact absurd hwritable hnot
  · rw [hexisting] at hdenied
    cases hdenied.eq_unwritable (overloaded_of_first (grantable_wantingTables _ _) hnot)
    exact congrArg (Action.settle s db .request) hfails

/-- Lists of one item, one in another. -/
def towering : Nat → Json
  | 0 => .arr []
  | n + 1 => .arr [towering n]

theorem height_towering (n : Nat) : (towering n).height = n + 1 := by
  induction n with
  | zero => rfl
  | succ n ih => simp [towering, Json.height, Json.heightOfItems, ih]

/-- **Metadata that is too high stands in the way of an approval**, although the reward that a
pending request wants is there, in stock, and not granted yet. The approval is not even refused. -/
theorem towering_metadata_is_not_approved :
    let db := wantingTables (.obj [("deep", towering 255)]) [⟨1⟩]
    (∀ r ∈ db.books.rewards.rows, r.metadata.isObjectOrNull = true) ∧
      (∀ q ∈ db.books.requests.rows, q.status = .pending ∧ q.Reads [⟨1⟩]) ∧
      db.books.existing [⟨1⟩] = [⟨1⟩] ∧ db.books.Grantable ⟨1⟩ [⟨1⟩] ∧
      approveWanting.perform { clock := ⟨1000000⟩ } db = .error (.fault .unwritable) := by
  intro db
  refine ⟨?_, fun q hq => ⟨?_, reads_wantingTables _ (by decide) q hq⟩, by decide +kernel,
    grantable_wantingTables _ _, approveWanting_eq_unwritable rfl ?_ _⟩
  · simp [db, wantingTables, Json.isObjectOrNull]
  · rw [List.mem_singleton.mp hq]
  · simp [Json.isShallow, height_towering, Json.greatestHeight]

end Promotions
