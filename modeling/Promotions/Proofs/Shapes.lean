import Promotions.Proofs.Forms
import Promotions.Proofs.Rows

/-!
# Rows that can be shown

A row is shown only if its payloads have the shape that showing expects. An event, a reward and
their changes are shown before they are stored, for the journal; so where operations are called as
forms would have it, every stored event and reward can be shown, but for an event with more
participants than an integer of 64 bits counts. A request is stored without being shown. Its wanted
list and its payload have their shape all the same, but the payload may be too high to be written
out (`Database.Reachable.shaped`).
-/

namespace Promotions

/-! ### Showing -/

theorem showable_eq_ok_iff {issues : List Issue} {payloads : List Json} {view shown : Json} :
    showable issues payloads view = .ok shown ↔
      issues = [] ∧ (∀ payload ∈ payloads, payload.isShallow = true) ∧ view = shown := by
  unfold showable
  cases issues with
  | nil =>
    rw [← List.all_eq_true]
    cases payloads.all Json.isShallow <;> simp
  | cons issue rest => simp

theorem showable_eq_unshowable_iff {issues found : List Issue} {payloads : List Json} {view : Json} :
    showable issues payloads view = .error (.unshowable found) ↔ issues ≠ [] ∧ issues = found := by
  unfold showable
  cases issues with
  | nil => cases payloads.all Json.isShallow <;> simp
  | cons issue rest => simp

theorem Json.payloadIssues_eq_nil_iff {name : String} {payload : Json} :
    Json.payloadIssues name payload = [] ↔ payload.isObjectOrNull = true := by
  unfold Json.payloadIssues
  split <;> simp_all

namespace Event

/-- The condition's value of an event is an object that can be written out. -/
structure IsShaped (e : Event) : Prop where
  isObject : e.conditionValue.isObject = true
  isShallow : e.conditionValue.isShallow = true

theorem issues_eq_nil_iff {e : Event} :
    e.issues = [] ↔ e.conditionValue.isObject = true ∧ fits64 e.participantCount = true := by
  unfold issues
  cases e.conditionValue.isObject <;> cases fits64 e.participantCount <;> simp

theorem isShaped_of_shown {e : Event} {view : Json} (h : e.shown = .ok view) : e.IsShaped := by
  obtain ⟨hissues, hshallow, -⟩ := showable_eq_ok_iff.mp h
  exact ⟨(issues_eq_nil_iff.mp hissues).1, hshallow _ List.mem_cons_self⟩

theorem IsShaped.shown_eq {e : Event} (h : e.IsShaped) (hcount : fits64 e.participantCount = true) :
    e.shown = .ok e.view :=
  showable_eq_ok_iff.mpr ⟨issues_eq_nil_iff.mpr ⟨h.isObject, hcount⟩, by simp [h.isShallow], rfl⟩

theorem IsShaped.stored {old new : Event} (hold : old.IsShaped) (hnew : new.IsShaped) :
    (old.stored new).IsShaped := by
  unfold Event.stored
  split
  · exact ⟨hold.isObject, hold.isShallow⟩
  · exact ⟨hnew.isObject, hnew.isShallow⟩

end Event

namespace Reward

/-- The metadata of a reward is an object that can be written out, or absent. -/
structure IsShaped (r : Reward) : Prop where
  isObjectOrNull : r.metadata.isObjectOrNull = true
  isShallow : r.metadata.isShallow = true

theorem isShaped_of_shown {r : Reward} {view : Json} (h : r.shown = .ok view) : r.IsShaped := by
  obtain ⟨hissues, hshallow, -⟩ := showable_eq_ok_iff.mp h
  exact ⟨Json.payloadIssues_eq_nil_iff.mp hissues, hshallow _ List.mem_cons_self⟩

theorem IsShaped.shown_eq {r : Reward} (h : r.IsShaped) : r.shown = .ok r.view :=
  showable_eq_ok_iff.mpr
    ⟨Json.payloadIssues_eq_nil_iff.mpr h.isObjectOrNull, by simp [h.isShallow], rfl⟩

theorem IsShaped.stored {old new : Reward} (hold : old.IsShaped) (hnew : new.IsShaped) :
    (old.stored new).IsShaped := by
  unfold Reward.stored
  split
  · exact ⟨hold.isObjectOrNull, hold.isShallow⟩
  · exact ⟨hnew.isObjectOrNull, hnew.isShallow⟩

end Reward

namespace RewardRequest

/-- The wanted list of a request is a list of identifiers, and its payload an object or absent. -/
def IsShaped (q : RewardRequest) : Prop := q.issues = []

theorem IsShaped.shown_eq {q : RewardRequest} (h : q.IsShaped) :
    q.shown = if q.verificationData.isShallow then .ok q.view else .error .unwritable := by
  unfold shown showable
  rw [show q.issues = [] from h]
  simp

theorem Continues.isShaped {q q' : RewardRequest} (h : q.Continues q') (hq : q.IsShaped) :
    q'.IsShaped := by
  obtain ⟨_, _, _, _, _, _, rfl⟩ := h
  exact hq

theorem itemIssues_eq_nil {ids : List Id} (h : ∀ id ∈ ids, id.IsSpelled) (index : Nat) :
    itemIssues index (ids.map fun id => .str id.text) = [] := by
  induction ids generalizing index with
  | nil => rfl
  | cons id rest ih =>
    have hshown : shownId (.str id.text) = .ok (.str id.text) := by
      simp only [shownId, (h id List.mem_cons_self).read?_text]
    rw [List.map_cons, itemIssues, hshown,
      ih fun other hother => h other (List.mem_cons_of_mem _ hother)]
    rfl

end RewardRequest

theorem Json.isObjectOrNull_orEmpty {payload : Json} (h : payload.isObjectOrNull = true) :
    payload.orEmpty.isObjectOrNull = true := by
  unfold orEmpty
  split
  · exact h
  · rfl

theorem RewardRequest.isShaped_filed {spellings : List IdSpelling} {verificationData : Json}
    {rewards ids : List Id}
    (hpayload : verificationData.isObjectOrNull = true) (hids : spellings = ids.map .known)
    (hspelled : ∀ id ∈ ids, id.IsSpelled) (hresolved : Id.orderedUnique spellings = .ok rewards)
    (userId : String) (id eventId : Id) (now stamp : Instant) :
    (filed id eventId (rewards.map fun id => .str id.text) userId verificationData now
      stamp).IsShaped := by
  have hrewards : ∀ id ∈ rewards, id.IsSpelled := fun id hid =>
    hspelled id (Id.mem_of_orderedUnique_known (hids ▸ hresolved) hid)
  refine List.append_eq_nil_iff.mpr ⟨itemIssues_eq_nil hrewards 0, ?_⟩
  exact Json.payloadIssues_eq_nil_iff.mpr (Json.isObjectOrNull_orEmpty hpayload)

namespace Books

/-- **The rows of the books have the shape in which they are shown.** -/
structure Shaped (books : Books) : Prop where
  events : ∀ e ∈ books.events.rows, e.IsShaped
  rewards : ∀ r ∈ books.rewards.rows, r.IsShaped
  requests : ∀ q ∈ books.requests.rows, q.IsShaped

theorem shaped_empty : ({} : Books).Shaped := ⟨by simp, by simp, by simp⟩

theorem shaped_withGrant {books : Books} {stamp : Instant} {grant : Grant}
    (hbooks : ∀ r ∈ books.rewards.rows, r.IsShaped) :
    ∀ r ∈ (books.withGrant stamp grant).rewards.rows, r.IsShaped := by
  intro r hr
  obtain ⟨old, hold, rfl⟩ := List.mem_map.mp hr
  split
  · exact ⟨(hbooks old hold).isObjectOrNull, (hbooks old hold).isShallow⟩
  · exact hbooks old hold

end Books

open Books

namespace Change

variable {s : Session} {books after : Books} {action : Action} {notes : List Note}
  (h : Change s books action after notes)
include h

theorem shaped_events (hbooks : ∀ e ∈ books.events.rows, e.IsShaped) :
    ∀ e ∈ after.events.rows, e.IsShaped := by
  intro e he
  rcases h.mem_events he with hold | ⟨_, _, _, _, view, -, -, -, hview⟩ |
    ⟨old, hold, _, _, _, _, _, new, view, -, -, -, hview, rfl⟩ | ⟨old, hold, rfl⟩
  · exact hbooks e hold
  · exact Event.isShaped_of_shown hview
  · exact (hbooks old hold).stored (Event.isShaped_of_shown hview)
  · exact ⟨(hbooks old hold).isObject, (hbooks old hold).isShallow⟩

theorem shaped_rewards (hbooks : ∀ r ∈ books.rewards.rows, r.IsShaped) :
    ∀ r ∈ after.rewards.rows, r.IsShaped := by
  intro r hr
  rcases h.mem_rewards hr with ⟨old, hold, _, _, rfl⟩ | ⟨_, _, _, _, view, -, -, -, hview⟩ |
    ⟨old, hold, _, _, _, _, new, view, -, -, hview, rfl⟩
  · exact ⟨(hbooks old hold).isObjectOrNull, (hbooks old hold).isShallow⟩
  · exact Reward.isShaped_of_shown hview
  · exact (hbooks old hold).stored (Reward.isShaped_of_shown hview)

/-- **Every change keeps the shape of the rows**, if it is asked for as forms would have it. -/
theorem shaped (hformed : action.IsFormed) (hnumbered : books.Numbered) (hbooks : books.Shaped) :
    after.Shaped where
  events := h.shaped_events hbooks.events
  rewards := h.shaped_rewards hbooks.rewards
  requests := by
    intro q hq
    rcases h.mem_requests hnumbered hq with hq | ⟨old, hold, move, -, -, -, rfl⟩ | hmakes
    · exact hbooks.requests q hq
    · exact (old.continues_moved _ _ _ _ _).isShaped (hbooks.requests old hold)
    · obtain ⟨_, _, userId, _, now, _, event, rewards, rfl, hadmitted, hq⟩ := hmakes
      obtain ⟨-, hpayload, ids, hids, hspelled⟩ := hformed
      have hfiled := RewardRequest.isShaped_filed hpayload hids hspelled
        hadmitted.resolved userId books.requests.nextId event.id (now.getD s.clock) s.stamp
      rcases hq with rfl | ⟨-, rfl⟩
      · exact hfiled
      · exact (RewardRequest.continues_moved _ _ _ _ _ _).isShaped hfiled

end Change

/-- **In every database that can be reached** by requests, by commands and by calls of operations as
forms would have it, the rows have the shape in which they are shown. -/
theorem Database.Reachable.shaped {db : Database} (h : db.Reachable Action.IsFormed) :
    db.books.Shaped := by
  obtain ⟨ms, hms, rfl⟩ := h
  refine And.right (a := (Database.empty.after ms).books.Numbered) ?_
  refine keeps_writes (Q := fun _ => True) (I := fun db => db.books.Numbered ∧ db.books.Shaped)
    (fun _ hasked => hasked.isFormed) ?_ ⟨numbered_empty, shaped_empty⟩
    fun m hm => ⟨hms m hm, trivial⟩
  rintro s db action after hformed - ⟨hnumbered, hshaped⟩ ⟨notes, hchange, -⟩
  exact ⟨hchange.numbered hnumbered, hchange.shaped hformed hnumbered hshaped⟩

/-- The rewards have their shape whatever is called. -/
theorem Database.Reachable.shaped_rewards {P : Action → Prop} {db : Database} (h : db.Reachable P) :
    ∀ r ∈ db.books.rewards.rows, r.IsShaped :=
  (h.mono (Q := fun _ => True) fun _ _ => trivial).keeps (fun _ _ => trivial)
    (I := fun books => ∀ r ∈ books.rewards.rows, r.IsShaped) (by simp)
    fun _ hbooks hchange => hchange.shaped_rewards hbooks

end Promotions
