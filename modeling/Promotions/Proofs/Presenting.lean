import Promotions.Proofs.Showing

/-!
# Answers that can be shown

An answer is shown by a command as it is at hand, and by a web request once it was read again. An
action that writes answers with what it stores, or with what is stored but for a part that is
loosely the same. So an action that succeeds can be shown on either way
(`Action.Writing.presentable`), unless it answers with a request whose payload is too high to be
written out; then it can be shown on neither.
-/

namespace Promotions

namespace Books

/-! ### What is answered -/

section Answers
variable {s : Session} {books : Books}

theorem createEvent_answer {draft : EventDraft} {actor : String} {o : Outcome Event}
    (h : books.createEvent s draft actor = .ok o) :
    o.answer ∈ o.books.events.rows ∧ ∃ view, o.answer.shown = .ok view := by
  unfold createEvent at h
  split at h
  · cases h
  · split at h
    · cases h
    · split at h
      · cases h
      · split at h
        · cases h
        · dsimp only at h
          split at h
          · cases h
          · next view hview =>
            cases Except.ok.inj h
            exact ⟨List.mem_append_right _ List.mem_cons_self, view, orBreakOff_eq_ok hview⟩

/-- The new version of an event is answered, of which a part may not be stored. -/
theorem updateEvent_answer {id : Id} {patch : EventPatch} {actor : String} {o : Outcome Event}
    (h : books.updateEvent s id patch actor = .ok o) :
    ∃ old ∈ books.events.rows, o.answer.id = old.id ∧
      o.books.events = books.events.put (old.stored o.answer) ∧
        ∃ view, o.answer.shown = .ok view := by
  obtain ⟨old, startDate, endDate, view, hold, -, -, -, -, hnew, hview, hbooks, -⟩ :=
    Action.updateEvent_eq_ok h
  refine ⟨old, Table.mem_of_find?_eq_some hold, ?_, ?_, view, hview⟩
  · rw [hnew]
    rfl
  · rw [hbooks]

theorem createReward_answer {draft : RewardDraft} {actor : String} {o : Outcome Reward}
    (h : books.createReward s draft actor = .ok o) :
    o.answer ∈ o.books.rewards.rows ∧ ∃ view, o.answer.shown = .ok view := by
  unfold createReward at h
  split at h
  · cases h
  · split at h
    · cases h
    · split at h
      · cases h
      · dsimp only at h
        split at h
        · cases h
        · split at h
          · cases h
          · next view hview =>
            cases Except.ok.inj h
            exact ⟨List.mem_append_right _ List.mem_cons_self, view, orBreakOff_eq_ok hview⟩

theorem updateReward_answer {id : Id} {patch : RewardPatch} {actor : String} {o : Outcome Reward}
    (h : books.updateReward s id patch actor = .ok o) :
    ∃ old ∈ books.rewards.rows, o.answer.id = old.id ∧
      o.books.rewards = books.rewards.put (old.stored o.answer) ∧
        ∃ view, o.answer.shown = .ok view := by
  obtain ⟨old, expiryDate, view, hold, -, -, -, hnew, hview, hbooks, -⟩ :=
    Action.updateReward_eq_ok h
  refine ⟨old, Table.mem_of_find?_eq_some hold, ?_, ?_, view, hview⟩
  · rw [hnew]
    rfl
  · rw [hbooks]

theorem participate_answer {eventId : Id} {userId : String} {verificationData additionalData : Json}
    {now : Instant} {o : Outcome Participation}
    (h : books.participate s eventId userId verificationData additionalData now = .ok o) :
    o.answer ∈ o.books.participations.rows ∧ ∃ view, o.answer.shown = .ok view := by
  unfold participate at h
  split at h
  · cases h
  · dsimp only at h
    split at h
    · cases h
    · split at h
      · cases h
      · split at h
        · cases h
        · split at h
          · cases h
          · split at h
            · cases h
            · next added hadded =>
              split at h
              · cases h
              · next view hview =>
                cases Except.ok.inj h
                obtain ⟨rfl, -⟩ := addParticipation?_eq_some hadded
                exact ⟨List.mem_append_right _ List.mem_cons_self, view, orBreakOff_eq_ok hview⟩

section Requests
variable {operator reason : Option String} {now : Instant} {o : Outcome RewardRequest}

theorem settleRequest_answer {request settled : RewardRequest} {logType : LogType}
    {more : List (String × Json)}
    (h : books.settleRequest s request settled logType operator more = .ok o) :
    o.answer = { settled with updatedAt := some s.stamp } := by
  unfold settleRequest at h
  split at h
  · cases h
  · cases Except.ok.inj h
    rfl

theorem moveRequest_answer {request : RewardRequest} {target : RequestStatus}
    (h : books.moveRequest s request target operator reason now = .ok o) :
    o.answer = request.moved target operator reason now s.stamp := by
  unfold moveRequest at h
  split at h
  · unfold approveRequest at h
    split at h
    · cases h
    · dsimp only at h
      split at h
      · cases h
      · cases Except.ok.inj h
        rfl
  · exact settleRequest_answer h
  · exact settleRequest_answer h
  · exact settleRequest_answer h
  · cases Except.ok.inj h
    rfl
  · cases Except.ok.inj h
    rfl

theorem transition_answer {id : Id} {target : RequestStatus}
    (h : books.transition s id target operator reason now = .ok o) :
    o.answer ∈ o.books.requests.rows ∧
      ∃ q, books.requests.find? id = some q ∧ q.Continues o.answer := by
  obtain ⟨request, hfound, hmoved⟩ := transition_eq_ok h
  have hmem := Table.mem_of_find?_eq_some hfound
  have hfind : books.findRequest id = .ok request := by
    unfold findRequest
    rw [hfound]
  unfold transition at h
  rw [hfind] at h
  split at h
  · cases h
  · dsimp only at h
    split at h
    · cases Except.ok.inj h
      exact ⟨hmem, request, hfound, .refl _⟩
    · next hother =>
      split at h
      · cases h
      · rcases hmoved with ⟨hsame, -⟩ | ⟨-, hmoving⟩
        · exact absurd hsame hother
        · rw [moveRequest_answer h]
          refine ⟨(mem_requests_put hmoving.requests_eq hmem ?_).mpr (Or.inl rfl), request,
            hfound, ?_⟩
          · exact request.id_moved target operator reason now s.stamp
          · exact request.continues_moved target operator reason now s.stamp

theorem createRequest_answer {eventId : Id} {spellings : List IdSpelling} {userId : String}
    {verificationData : Json} {rival : Option Claim} (hnumbered : books.Numbered)
    (h : books.createRequest s eventId spellings userId verificationData now rival = .ok o) :
    o.answer ∈ o.books.requests.rows ∧ ∃ event rewards,
      Admitted books eventId spellings userId verificationData now event rewards ∧
        (RewardRequest.filed books.requests.nextId event.id (rewards.map fun id => .str id.text)
          userId verificationData now s.stamp).Continues o.answer := by
  obtain ⟨event, rewards, raced, filed, hadmitted, hraced, hfiling, h⟩ := createRequest_eq_ok h
  have hfiled : filed.answer ∈ filed.books.requests.rows := by
    rw [hfiling.requests_eq]
    exact List.mem_append_right _ List.mem_cons_self
  have hrequest := hfiling.request_eq
  rw [hraced.requests_eq] at hrequest
  suffices hanswer : o.answer ∈ o.books.requests.rows ∧ filed.answer.Continues o.answer from
    ⟨hanswer.1, event, rewards, hadmitted, hrequest ▸ hanswer.2⟩
  split at h
  · unfold approveAtOnce at h
    split at h
    · next approved happroved =>
      obtain ⟨hmem, q, hq, hcontinues⟩ := transition_answer happroved
      rw [hfiling.find?_eq (hraced.numbered hnumbered)] at hq
      cases Except.ok.inj h
      exact ⟨hmem, Option.some.inj hq ▸ hcontinues⟩
    · cases Except.ok.inj h
      exact ⟨hfiled, .refl _⟩
    · cases h
  · cases Except.ok.inj h
    exact ⟨hfiled, .refl _⟩

end Requests

end Answers

end Books

open Books

/-! ### The actions -/

theorem Table.Numbered.find?_getD {ρ : Type} [Row ρ] {t : Table ρ} (h : t.Numbered) {row : ρ}
    (hrow : row ∈ t.rows) : (t.find? (Row.id row)).getD row = row := by
  rw [h.find?_eq_some_iff.mpr ⟨hrow, rfl⟩]
  rfl

theorem Table.Numbered.find?_put {ρ : Type} [Row ρ] {t : Table ρ} (h : t.Numbered) {old new : ρ}
    (hold : old ∈ t.rows) (hid : Row.id new = Row.id old) :
    new ∈ (t.put new).rows ∧ (t.put new).find? (Row.id new) = some new := by
  have hmem : new ∈ (t.put new).rows := (mem_put_iff hold hid).mpr (Or.inl rfl)
  exact ⟨hmem, (h.put new).find?_eq_some_iff.mpr ⟨hmem, rfl⟩⟩

theorem Table.Numbered.find?_put_of_find? {ρ : Type} [Row ρ] {t : Table ρ} (h : t.Numbered)
    {id : Id} {old new : ρ} (hfound : t.find? id = some old) (hid : Row.id new = Row.id old) :
    (t.put new).find? id = some new := by
  have hput := (h.find?_put (mem_of_find?_eq_some hfound) hid).2
  rwa [hid, id_of_find?_eq_some hfound] at hput

namespace Action

/-- **The action stores or moves a request whose payload is too high** to be written out. -/
def TooHigh (books : Books) : Action → Prop
  | .createRequest _ _ _ verificationData _ _ => verificationData.isShallow = false
  | .transition id _ _ _ _ =>
    ∃ q, books.requests.find? id = some q ∧ q.verificationData.isShallow = false
  | _ => False

theorem settle_eq_ok {α : Type} {s : Session} {db after : Database} {reply : α → Reply}
    {result : Except Failure (Outcome α)} {answer : Reply}
    (h : settle s db reply result = .ok (answer, after)) :
    ∃ o, result = .ok o ∧ answer = reply o.answer ∧ after.books = o.books := by
  cases result with
  | ok o =>
    cases Except.ok.inj h
    exact ⟨o, rfl, rfl, rfl⟩
  | error failure => cases h

end Action

namespace Reply

/-- The answer can be shown, both as it is at hand and once it was read again. -/
def IsPresentable (reply : Reply) (after : Database) : Prop :=
  ∃ data body, reply.shown = .ok data ∧ Web.bodyOf (reply.reread after) = .ok body

/-- The answer can be written out on neither way. -/
def IsUnwritable (reply : Reply) (after : Database) : Prop :=
  reply.shown = .error .unwritable ∧ Web.bodyOf (reply.reread after) = .error .unwritable

theorem isPresentable_of_stored {reply : Reply} {after : Database} {view : Json}
    (hreread : reply.reread after = reply) (hone : Web.bodyOf reply = reply.shown)
    (hshown : reply.shown = .ok view) : reply.IsPresentable after :=
  ⟨view, view, hshown, by rw [hreread, hone, hshown]⟩

section
variable {db after : Database} (hnumbered : db.books.Numbered)
include hnumbered

theorem reread_of_put_event {old new : Event} (hold : old ∈ db.books.events.rows)
    (hid : new.id = old.id) (hput : after.books.events = db.books.events.put (old.stored new)) :
    old.stored new ∈ after.books.events.rows ∧
      (Reply.event new).reread after = .event (old.stored new) := by
  obtain ⟨hmem, hfind⟩ := hnumbered.events.find?_put hold
    (show Row.id (old.stored new) = Row.id old from hid)
  rw [← hput] at hmem hfind
  refine ⟨hmem, ?_⟩
  show Reply.event ((after.books.events.find? (Row.id (old.stored new))).getD new) = _
  rw [hfind]
  rfl

theorem reread_of_put_reward {old new : Reward} (hold : old ∈ db.books.rewards.rows)
    (hid : new.id = old.id) (hput : after.books.rewards = db.books.rewards.put (old.stored new)) :
    old.stored new ∈ after.books.rewards.rows ∧
      (Reply.reward new).reread after = .reward (old.stored new) := by
  obtain ⟨hmem, hfind⟩ := hnumbered.rewards.find?_put hold
    (show Row.id (old.stored new) = Row.id old from hid)
  rw [← hput] at hmem hfind
  refine ⟨hmem, ?_⟩
  show Reply.reward ((after.books.rewards.find? (Row.id (old.stored new))).getD new) = _
  rw [hfind]
  rfl

end

/-- A stored request can be shown on both ways, or on neither if its payload is too high. -/
theorem isPresentable_or_isUnwritable {q : RewardRequest} {after : Database}
    (hnumbered : after.books.Numbered) (hshaped : after.books.Shaped)
    (hq : q ∈ after.books.requests.rows) :
    (Reply.request q).IsPresentable after ∨
      q.verificationData.isShallow = false ∧ (Reply.request q).IsUnwritable after := by
  have hreread : (Reply.request q).reread after = .request q :=
    congrArg Reply.request (hnumbered.requests.find?_getD hq)
  have hshown := (hshaped.requests q hq).shown_eq
  cases hshallow : q.verificationData.isShallow with
  | true =>
    rw [hshallow] at hshown
    exact Or.inl (isPresentable_of_stored hreread rfl hshown)
  | false =>
    rw [hshallow] at hshown
    refine Or.inr ⟨rfl, hshown, ?_⟩
    rw [hreread]
    exact hshown

end Reply

theorem Json.isShallow_of_orEmpty {payload : Json} (h : payload.orEmpty.isShallow = false) :
    payload.isShallow = false := by
  unfold orEmpty at h
  split at h
  · exact h
  · cases h

/-- **An action that succeeds can be shown** on both ways, unless its answer is a request with a
payload that is too high; then it can be shown on neither. -/
theorem Action.Writing.presentable {s : Session} {db after : Database} {action : Action}
    (hwriting : action.Writing) (hnumbered : db.books.Numbered) (hafter : after.books.Numbered)
    (hshaped : after.books.Shaped) {reply : Reply}
    (h : action.perform s db = .ok (reply, after)) :
    reply.IsPresentable after ∨ action.TooHigh db.books ∧ reply.IsUnwritable after := by
  cases action with
  | createEvent draft actor =>
    obtain ⟨o, ho, rfl, hbooks⟩ := settle_eq_ok h
    obtain ⟨hmem, view, hview⟩ := createEvent_answer ho
    rw [← hbooks] at hmem
    exact Or.inl (Reply.isPresentable_of_stored
      (congrArg Reply.event (hafter.events.find?_getD hmem)) rfl hview)
  | updateEvent id patch actor =>
    obtain ⟨o, ho, rfl, hbooks⟩ := settle_eq_ok h
    obtain ⟨old, hold, hid, hput, view, hview⟩ := updateEvent_answer ho
    obtain ⟨hmem, hreread⟩ := Reply.reread_of_put_event hnumbered hold hid (hbooks ▸ hput)
    have hcount : fits64 o.answer.participantCount = true :=
      (Event.issues_eq_nil_iff.mp (showable_eq_ok_iff.mp hview).1).2
    refine Or.inl ⟨view, (old.stored o.answer).view, hview, ?_⟩
    rw [hreread]
    exact (hshaped.events _ hmem).shown_eq hcount
  | createReward draft actor =>
    obtain ⟨o, ho, rfl, hbooks⟩ := settle_eq_ok h
    obtain ⟨hmem, view, hview⟩ := createReward_answer ho
    rw [← hbooks] at hmem
    exact Or.inl (Reply.isPresentable_of_stored
      (congrArg Reply.reward (hafter.rewards.find?_getD hmem)) rfl hview)
  | updateReward id patch actor =>
    obtain ⟨o, ho, rfl, hbooks⟩ := settle_eq_ok h
    obtain ⟨old, hold, hid, hput, view, hview⟩ := updateReward_answer ho
    obtain ⟨hmem, hreread⟩ := Reply.reread_of_put_reward hnumbered hold hid (hbooks ▸ hput)
    refine Or.inl ⟨view, (old.stored o.answer).view, hview, ?_⟩
    rw [hreread]
    exact (hshaped.rewards _ hmem).shown_eq
  | participate eventId userId verificationData additionalData now =>
    obtain ⟨o, ho, rfl, hbooks⟩ := settle_eq_ok h
    obtain ⟨hmem, view, hview⟩ := participate_answer ho
    rw [← hbooks] at hmem
    exact Or.inl (Reply.isPresentable_of_stored
      (congrArg (Reply.participation ∘ some) (hafter.participations.find?_getD hmem)) rfl hview)
  | createRequest eventId spellings userId verificationData now rival =>
    obtain ⟨o, ho, rfl, hbooks⟩ := settle_eq_ok h
    obtain ⟨hmem, event, rewards, -, hcontinues⟩ := createRequest_answer hnumbered ho
    rw [← hbooks] at hmem
    refine (Reply.isPresentable_or_isUnwritable hafter hshaped hmem).imp_right ?_
    rintro ⟨hhigh, hunwritable⟩
    rw [hcontinues.verificationData_eq] at hhigh
    exact ⟨Json.isShallow_of_orEmpty hhigh, hunwritable⟩
  | transition id target operator reason now =>
    obtain ⟨o, ho, rfl, hbooks⟩ := settle_eq_ok h
    obtain ⟨hmem, q, hq, hcontinues⟩ := transition_answer ho
    rw [← hbooks] at hmem
    refine (Reply.isPresentable_or_isUnwritable hafter hshaped hmem).imp_right ?_
    rintro ⟨hhigh, hunwritable⟩
    rw [hcontinues.verificationData_eq] at hhigh
    exact ⟨⟨q, hq, hhigh⟩, hunwritable⟩
  | _ => exact hwriting.elim

end Promotions
