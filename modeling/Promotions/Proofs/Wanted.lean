import Promotions.Proofs.Rows

/-!
# What requests want

A request keeps its wanted rewards as a list of texts. In every database that can be reached these
are the texts of identifiers, each of them once, and of rewards of the request's event
(`Database.Reachable.spelled`). So the list can be read in one way only: `RewardRequest.Lists` says
that a reward is on it, and `Spells.wanted_eq` that reading it back gives the identifiers that were
written.
-/

namespace Promotions

open Table (Evolves)

namespace RewardRequest

/-- The request lists a reward among those that it wants. -/
def Lists (q : RewardRequest) (rewardId : Id) : Prop :=
  ∃ items, q.rewardIds = .arr items ∧ .str rewardId.text ∈ items

/-- The wanted list holds the texts of some identifiers, each of them once. -/
structure Spells (q : RewardRequest) (ids : List Id) : Prop where
  rewardIds_eq : q.rewardIds = .arr (ids.map fun id => .str id.text)
  nodup : ids.Nodup
  nonempty : ids ≠ []

theorem lists_iff {q : RewardRequest} {ids : List Id}
    (h : q.rewardIds = .arr (ids.map fun id => .str id.text)) {rewardId : Id} :
    q.Lists rewardId ↔ rewardId ∈ ids := by
  constructor
  · rintro ⟨items, hitems, hmem⟩
    rw [h] at hitems
    cases hitems
    obtain ⟨id, hid, htext⟩ := List.mem_map.mp hmem
    rwa [← Id.text_injective (Json.str.inj htext)]
  · intro hmem
    exact ⟨_, h, List.mem_map_of_mem hmem⟩

theorem eq_of_itemId {id read : Id} (h : itemId (.str id.text) = .ok read) : read = id := by
  unfold itemId Id.ofJson at h
  split at h
  · next found hfound =>
    rw [← Except.ok.inj h]
    exact Id.parse_text_eq_ok hfound
  · cases h

theorem eq_of_mapM_itemId {ids read : List Id}
    (h : (ids.map fun id => Json.str id.text).mapM itemId = .ok read) : read = ids := by
  induction ids generalizing read with
  | nil => exact (Except.ok.inj h).symm
  | cons id rest ih =>
    rw [List.map_cons, List.mapM_cons] at h
    cases hfirst : itemId (.str id.text) with
    | error fault =>
      rw [hfirst] at h
      cases h
    | ok first =>
      cases hrest : (rest.map fun id => Json.str id.text).mapM itemId with
      | error fault =>
        rw [hfirst, hrest] at h
        cases h
      | ok others =>
        rw [hfirst, hrest] at h
        rw [← Except.ok.inj h, eq_of_itemId hfirst, ih hrest]

/-- **A wanted list is read back** as the identifiers that were written, if it can be read. -/
theorem Spells.wanted_eq {q : RewardRequest} {ids read : List Id} (h : q.Spells ids)
    (hread : q.wanted = .ok read) : read = ids := by
  unfold wanted items itemsOf at hread
  rw [h.rewardIds_eq] at hread
  exact eq_of_mapM_itemId hread

theorem itemId_text {id : Id} (h : id.IsSpelled) : itemId (.str id.text) = .ok id := by
  unfold itemId Id.ofJson
  dsimp only
  rw [Id.parse_text (Id.isSpelled_iff.mp h)]

theorem mapM_itemId {ids : List Id} (h : ∀ id ∈ ids, id.IsSpelled) :
    (ids.map fun id => Json.str id.text).mapM itemId = .ok ids := by
  induction ids with
  | nil => rfl
  | cons id rest ih =>
    rw [List.map_cons, List.mapM_cons, itemId_text (h id List.mem_cons_self),
      ih fun other hother => h other (List.mem_cons_of_mem _ hother)]
    rfl

theorem Spells.items_eq {q : RewardRequest} {ids : List Id} (h : q.Spells ids) :
    q.items = .ok (ids.map fun id => .str id.text) := by
  unfold items itemsOf
  rw [h.rewardIds_eq]
  rfl

theorem Spells.wanted_eq_ok {q : RewardRequest} {ids : List Id} (h : q.Spells ids)
    (hspelled : ∀ id ∈ ids, id.IsSpelled) : q.wanted = .ok ids := by
  unfold wanted
  rw [h.items_eq]
  exact mapM_itemId hspelled

theorem Spells.firstReward_eq {q : RewardRequest} {first : Id} {rest : List Id}
    (h : q.Spells (first :: rest)) :
    q.firstReward = (itemId (.str first.text)).map some := by
  unfold firstReward
  rw [h.items_eq, h.rewardIds_eq]
  rfl

theorem Spells.mem_of_firstReward {q : RewardRequest} {ids : List Id} (h : q.Spells ids)
    {first : Id} (hfirst : q.firstReward = .ok (some first)) : first ∈ ids := by
  cases ids with
  | nil => exact absurd rfl h.nonempty
  | cons id rest =>
    rw [h.firstReward_eq] at hfirst
    cases hread : itemId (.str id.text) with
    | error fault =>
      rw [hread] at hfirst
      cases hfirst
    | ok read =>
      rw [hread] at hfirst
      cases Except.ok.inj hfirst
      rw [eq_of_itemId hread]
      exact List.mem_cons_self

theorem Spells.continues {q q' : RewardRequest} {ids : List Id} (h : q.Spells ids)
    (hq : q.Continues q') : q'.Spells ids := by
  obtain ⟨_, _, _, _, _, _, rfl⟩ := hq
  exact ⟨h.rewardIds_eq, h.nodup, h.nonempty⟩

theorem Continues.lists_iff {q q' : RewardRequest} (h : q.Continues q') {rewardId : Id} :
    q'.Lists rewardId ↔ q.Lists rewardId := by
  obtain ⟨_, _, _, _, _, _, rfl⟩ := h
  rfl

end RewardRequest

theorem countP_eq_one_of_pairwise {α : Type} {R : α → α → Prop} {rows : List α}
    (h : rows.Pairwise fun a b => ¬R a b) {p : α → Bool}
    (hp : ∀ a b, p a = true → p b = true → R a b) {row : α} (hrow : row ∈ rows)
    (hprow : p row = true) : rows.countP p = 1 := by
  obtain ⟨before, after, rfl⟩ := List.append_of_mem hrow
  obtain ⟨-, hafter, hbefore⟩ := List.pairwise_append.mp h
  have hbefore' : before.countP p = 0 := by
    refine List.countP_eq_zero.mpr fun a ha hpa => ?_
    exact hbefore a ha row List.mem_cons_self (hp a row hpa hprow)
  have hafter' : after.countP p = 0 := by
    refine List.countP_eq_zero.mpr fun b hb hpb => ?_
    exact (List.pairwise_cons.mp hafter).1 b hb (hp row b hprow hpb)
  rw [List.countP_append, List.countP_cons_of_pos hprow, hbefore', hafter']

namespace Books

/-- **Every request wants rewards of its event**, each of them once. -/
def Spelled (books : Books) : Prop :=
  ∀ q ∈ books.requests.rows, ∃ ids, q.Spells ids ∧ ∀ id ∈ ids, ∃ reward,
    books.rewards.find? id = some reward ∧ reward.eventId = q.eventId

end Books

open Books

theorem Change.spelled {s : Session} {books after : Books} {action : Action} {notes : List Note}
    (h : Change s books action after notes) (hbooks : books.Numbered) (hspelled : books.Spelled) :
    after.Spelled := by
  have hrewards : ∀ {id reward}, books.rewards.find? id = some reward → ∃ reward',
      after.rewards.find? id = some reward' ∧ reward'.eventId = reward.eventId := by
    intro id reward hfound
    obtain ⟨reward', hfound', hcontinues⟩ := (h.rewards_evolve hbooks).exists_find?
      (h.numbered hbooks).rewards (fun _ _ hcontinues => hcontinues.id_eq) hfound
    exact ⟨reward', hfound', hcontinues.eventId_eq⟩
  have hkept : ∀ {q q' : RewardRequest}, q ∈ books.requests.rows → q.Continues q' →
      ∃ ids, q'.Spells ids ∧ ∀ id ∈ ids, ∃ reward,
        after.rewards.find? id = some reward ∧ reward.eventId = q'.eventId := by
    rintro q q' hq ⟨_, _, _, _, _, _, rfl⟩
    obtain ⟨ids, hids, hfound⟩ := hspelled q hq
    refine ⟨ids, ⟨hids.rewardIds_eq, hids.nodup, hids.nonempty⟩, fun id hid => ?_⟩
    obtain ⟨reward, hreward, hevent⟩ := hfound id hid
    obtain ⟨reward', hreward', hevent'⟩ := hrewards hreward
    exact ⟨reward', hreward', hevent'.trans hevent⟩
  intro q hq
  rcases h.mem_requests hbooks hq with hq | ⟨old, hold, move, -, -, -, rfl⟩ | hmakes
  · exact hkept hq (.refl q)
  · exact hkept hold (old.continues_moved _ _ _ _ _)
  · obtain ⟨_, _, _, _, _, _, event, rewards, -, hadmitted, hq⟩ := hmakes
    have hfiled : ∀ id ∈ rewards, ∃ reward,
        after.rewards.find? id = some reward ∧ reward.eventId = event.id := by
      intro id hid
      obtain ⟨reward, hreward, hevent⟩ := hadmitted.rewards_found id hid
      obtain ⟨reward', hreward', hevent'⟩ := hrewards hreward
      exact ⟨reward', hreward', hevent'.trans hevent⟩
    have hnodup := Id.nodup_of_orderedUnique hadmitted.resolved
    rcases hq with rfl | ⟨-, rfl⟩
    · exact ⟨rewards, ⟨rfl, hnodup, hadmitted.nonempty⟩, hfiled⟩
    · exact ⟨rewards, ⟨rfl, hnodup, hadmitted.nonempty⟩, hfiled⟩

/-- **In every database that can be reached**, requests want rewards of their events. -/
theorem Database.Reachable.spelled {P : Action → Prop} {db : Database} (h : db.Reachable P) :
    db.books.Spelled := by
  refine And.right (a := db.books.Numbered) ?_
  refine (h.mono (Q := fun _ => True) fun _ _ => trivial).keeps (fun _ _ => trivial)
    (I := fun books => books.Numbered ∧ books.Spelled) ⟨numbered_empty, by simp [Spelled]⟩ ?_
  rintro s books action after notes - ⟨hnumbered, hspelled⟩ hchange
  exact ⟨hchange.numbered hnumbered, hchange.spelled hnumbered hspelled⟩

end Promotions
