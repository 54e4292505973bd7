import Promotions.Proofs.ReadBack
import Promotions.Proofs.TakingPart

/-!
# How a written row is shown

A verb that succeeds is answered with a row, and it is rendered three times: the endpoint reads the
stored row again, whoever asks for it afterwards is shown the stored row, too, and a command shows
the row that the operation has at hand, without reserved members. All of them show the same but for
two things. A command leaves out the members of free-form payloads whose names are reserved, at
every depth. And after a change it shows the free-form column as it was given, where the stored one
stays if it is loosely the same (`WritingVerb.Hands`).

A participation has no path of its own; it is read among those of its user. For that, all of these
have to be shown, so that it is proved that every participation can be
(`Database.Reachable.participations_shown`).
-/

namespace Promotions

/-! ### Every participation can be shown -/

/-- The participation can be shown. -/
def Participation.IsShaped (p : Participation) : Prop := p.shown = .ok p.view

theorem Participation.IsShaped.of_payloads {p q : Participation} (hp : p.IsShaped)
    (hverification : q.verificationData = p.verificationData)
    (hadditional : q.additionalData = p.additionalData) : q.IsShaped := by
  obtain ⟨hissues, hshallow, -⟩ := showable_eq_ok_iff.mp hp
  refine showable_eq_ok_iff.mpr ⟨?_, ?_, rfl⟩
  · simpa only [issues, hverification, hadditional] using hissues
  · simpa only [hverification, hadditional] using hshallow

namespace Books

/-- Every participation can be shown. -/
def ShowsParticipations (books : Books) : Prop := ∀ p ∈ books.participations.rows, p.IsShaped

section
variable {s : Session} {books after : Books} {request : RewardRequest} {now : Instant}
  (hbooks : books.ShowsParticipations)
include hbooks

theorem ShowsParticipations.modify {id : Id} {f : Participation → Participation}
    (hverification : ∀ p, (f p).verificationData = p.verificationData)
    (hadditional : ∀ p, (f p).additionalData = p.additionalData) :
    ({ books with participations := books.participations.modify id f } :
      Books).ShowsParticipations := by
  intro p hp
  obtain ⟨old, hold, rfl⟩ := List.mem_map.mp hp
  split
  · exact (hbooks old hold).of_payloads (hverification old) (hadditional old)
  · exact hbooks old hold

theorem ShowsParticipations.linkParticipation (request : RewardRequest) (now : Instant) :
    (books.linkParticipation request now).ShowsParticipations := by
  unfold Books.linkParticipation
  split
  · exact hbooks
  · exact hbooks.modify (fun _ => rfl) fun _ => rfl

theorem ShowsParticipations.markRewarded (request : RewardRequest) (now : Instant) :
    (books.markRewarded request now).ShowsParticipations := by
  unfold Books.markRewarded
  split
  · exact hbooks
  · split
    · exact hbooks.modify (fun _ => rfl) fun _ => rfl
    · exact hbooks

theorem Filing.showsParticipations {event : Event} {rewards : List Id} {userId : String}
    {verificationData : Json} {notes : List Note}
    (h : Filing s books event rewards userId verificationData now request after notes) :
    after.ShowsParticipations := by
  have hfiled : ({ books with
      requests := books.requests.push request
      claims := books.claims ++ claimsFor request.id event.id userId s.stamp rewards } :
        Books).ShowsParticipations := hbooks
  rw [h.after_eq]
  exact hfiled.linkParticipation request now

theorem Moving.showsParticipations {operator reason : Option String} {target : RequestStatus}
    {notes : List Note} (h : Moving s books request operator reason now target after notes) :
    after.ShowsParticipations := by
  cases h with
  | approved hwanted hids hgranting hgrants hnote =>
    obtain ⟨rewards, table, rfl⟩ := hgranting.exists_eq
    have hissued : (putRequest { books with rewards, grants := table } s
        (request.approved operator now)).ShowsParticipations := hbooks
    exact hissued.markRewarded _ now
  | rejected hnote | cancelled hnote | delivered hnote => exact hbooks

end

end Books

open Books

/-- **A participation is shown before it is written**, and its payloads stay as they are. -/
theorem Change.showsParticipations {s : Session} {books after : Books} {action : Action}
    {notes : List Note} (h : Change s books action after notes)
    (hbooks : books.ShowsParticipations) : after.ShowsParticipations := by
  have hraced {rival : Option Claim} {raced : Books} (h : Raced books rival raced) :
      raced.ShowsParticipations := by
    obtain ⟨claims, rfl⟩ := h.exists_eq
    exact hbooks
  cases h with
  | nothing | noted | eventMade | eventEdited | rewardMade | rewardEdited | used | expired =>
    exact hbooks
  | tookPart _ _ _ _ _ _ _ _ hview =>
    intro p hp
    rcases List.mem_append.mp hp with hp | hp
    · exact hbooks p hp
    · rw [List.mem_singleton.mp hp]
      obtain ⟨-, -, rfl⟩ := showable_eq_ok_iff.mp hview
      exact hview
  | filed _ hrace hfiling => exact hfiling.showsParticipations (hraced hrace)
  | filedAndApproved _ hrace hfiling _ _ _ hmoving =>
    exact hmoving.showsParticipations (hfiling.showsParticipations (hraced hrace))
  | moved _ _ hmoving | cancelled _ _ _ hmoving => exact hmoving.showsParticipations hbooks
  | issued _ _ _ hgranting =>
    obtain ⟨rewards, table, rfl⟩ := hgranting.exists_eq
    exact hbooks

theorem Database.Reachable.participations_shown {P : Action → Prop} {db : Database}
    (h : db.Reachable P) : db.books.ShowsParticipations :=
  (h.mono (Q := fun _ => True) fun _ _ => trivial).keeps (fun _ _ => trivial)
    (I := ShowsParticipations) (by simp [ShowsParticipations])
    fun _ hbooks hchange => hchange.showsParticipations hbooks

theorem Reply.shownList_eq_ok {ρ : Type} {shown : ρ → Except Fault Json} {view : ρ → Json}
    {rows : List ρ} (h : ∀ row ∈ rows, shown row = .ok (view row)) :
    shownList shown rows = .ok (.arr (rows.map view)) := by
  have hnone : (rows.findSome? fun row => issues? (shown row)) = none := by
    refine List.findSome?_eq_none_iff.mpr fun row hrow => ?_
    rw [h row hrow]
    rfl
  have hall : rows.mapM shown = .ok (rows.map view) :=
    mapM_eq_ok_of_map_eq (by rw [List.map_map]; exact List.map_congr_left h)
  unfold shownList
  rw [hnone, hall]
  rfl

/-! ### Reading what was written -/

namespace Web

/-- **A row is read as a value**: so is everybody answered who asks for its identifier. -/
def IsReadAs (kind : String) (id : Id) (shown : Json) (db : Database) : Prop :=
  ∀ (s : Session) (r : Request) (text : String), r.method = "GET" → r.path = [kind, text] →
    Id.read? text = some id → handle s db r = (.reply 200 shown, db)

/-- **A value is read among the participations** of a user. -/
def IsReadAmong (caller : String) (shown : Json) (db : Database) : Prop :=
  ∃ rows, shown ∈ rows ∧ ∀ (s : Session) (r : Request), r.method = "GET" →
    r.path = ["participations", "me"] → caller? r.user = some caller →
      handle s db r = (.reply 200 (.arr rows), db)

section
variable {db : Database} {shown : Json}

theorem isReadAs_event (hnumbered : db.books.Numbered) {row : Event}
    (hrow : row ∈ db.books.events.rows) (hshown : row.shown = .ok shown) :
    IsReadAs "events" row.id shown db := fun _ _ _ hmethod hpath hid =>
  handle_getEvent hmethod hid hpath (hnumbered.events.find?_eq_some_iff.mpr ⟨hrow, rfl⟩) hshown

theorem isReadAs_reward (hnumbered : db.books.Numbered) {row : Reward}
    (hrow : row ∈ db.books.rewards.rows) (hshown : row.shown = .ok shown) :
    IsReadAs "rewards" row.id shown db := fun _ _ _ hmethod hpath hid =>
  handle_getReward hmethod hid hpath (hnumbered.rewards.find?_eq_some_iff.mpr ⟨hrow, rfl⟩) hshown

theorem withoutBreak_ne_me {text : String} {id : Id} (hid : Id.read? text = some id) :
    Endpoint.withoutBreak text ≠ "me" := by
  intro hme
  rcases Endpoint.eq_or_eq_of_withoutBreak hme with rfl | rfl
  · exact nomatch hid.symm.trans (show Id.read? "me" = none by decide)
  · exact nomatch hid.symm.trans
      (show Id.read? (String.ofList ("me".toList ++ ['\n'])) = none by decide)

theorem isReadAs_request (hnumbered : db.books.Numbered) {row : RewardRequest}
    (hrow : row ∈ db.books.requests.rows) (hshown : row.shown = .ok shown) :
    IsReadAs "reward-requests" row.id shown db := by
  intro s r text hmethod hpath hid
  have hfound : db.books.requests.find? row.id = some row :=
    hnumbered.requests.find?_eq_some_iff.mpr ⟨hrow, rfl⟩
  have hword : Endpoint.endingInWord ["reward-requests", Endpoint.withoutBreak text] = [] := by
    simp [Endpoint.endingInWord, withoutBreak_ne_me hid]
  have hfind : Endpoint.find "GET" ["reward-requests", text] = .ok (.getRequest text) :=
    Endpoint.find_get (by decide) (Endpoint.ne_empty_of_read? hid) hword rfl
  have htask : task r (.getRequest text) = .ok (ok (.findRequest row.id)) := by
    simp only [task, asAnyone, pathId, FormField.identifier, hid, Checked.under, Checked.map]
  have hperform : (Action.findRequest row.id).perform s db = .ok (.request row, db) := by
    simp only [Action.perform, Books.findRequest, hfound, Action.found]
  have hbody : bodyOf ((Reply.request row).reread db) = .ok shown := by
    show ((db.books.requests.find? row.id).getD row).shown = _
    rw [hfound]
    exact hshown
  simp only [handle, hmethod, hpath, hfind, htask, ok, answerAction, hperform, hbody]

theorem isReadAmong_participation (hshows : db.books.ShowsParticipations) {row : Participation}
    (hrow : row ∈ db.books.participations.rows) (hshown : row.shown = .ok shown) :
    IsReadAmong row.userId shown db := by
  let rows := db.books.findParticipationsOfUser row.userId
  have hmem {p : Participation} :
      p ∈ rows ↔ p ∈ db.books.participations.rows ∧ p.userId = row.userId := by
    simp [rows, Books.findParticipationsOfUser, mem_latestFirst, Table.filter]
  have hlist : Reply.shownList Participation.shown rows = .ok (.arr (rows.map (·.view))) :=
    Reply.shownList_eq_ok fun p hp => hshows p (hmem.mp hp).1
  have hview : row.view = shown := (showable_eq_ok_iff.mp hshown).2.2
  refine ⟨rows.map (·.view), List.mem_map.mpr ⟨row, hmem.mpr ⟨hrow, rfl⟩, hview⟩, ?_⟩
  intro s r hmethod hpath hcaller
  have hfind : Endpoint.find "GET" ["participations", "me"] = .ok .listMyParticipations := by decide
  have htask : task r .listMyParticipations = .ok (ok (.findParticipationsOfUser row.userId)) := by
    simp only [task, asCaller, hcaller]
  have hbody : bodyOf ((Reply.participations rows).reread db) = .ok (.arr (rows.map (·.view))) :=
    hlist
  simp only [handle, hmethod, hpath, hfind, htask, ok, answerAction, Action.perform]
  rw [hbody]

end

end Web

/-! ### The renderings of a row -/

/-- The object with a member set. -/
def Json.put (object : Json) (name : String) (value : Json) : Json :=
  match object with
  | .obj members => .obj (assign name value members)
  | other => other

namespace WritingVerb

/-- The free-form column that a change may set. -/
def column? : WritingVerb → Option String
  | updateEvent _ => some "condition_value"
  | updateReward _ => some "metadata"
  | _ => none

/-- **A row as an operation has it at hand**, beside the row as it is shown: they are the same, or
the free-form column of a change is as the body gives it, and shown as it was before, which is
loosely the same. Neither shows a double that is no number. -/
inductive Hands (verb : WritingVerb) (body : List (String × Json)) (shown : Json) : Json → Prop where
  | asShown : Hands verb body shown shown
  | asGiven {column : String} {given stored : Json} (hcolumn : verb.column? = some column)
      (hgiven : Json.lookup column body = some given) (hstored : shown.get? column = some stored)
      (hloosely : Json.looselyEq stored given.finite = true) :
      Hands verb body shown (shown.put column given.finite)

/-- **A row is read after a verb**: under its path, or among the participations of the caller. -/
def IsRead (caller : String) (shown : Json) (db : Database) : WritingVerb → Prop
  | .createEvent | .updateEvent _ =>
    ∃ id, shown.get? "id" = some (.str id.text) ∧ Web.IsReadAs "events" id shown db
  | .createReward | .updateReward _ =>
    ∃ id, shown.get? "id" = some (.str id.text) ∧ Web.IsReadAs "rewards" id shown db
  | .createRequest | .updateRequest _ =>
    ∃ id, shown.get? "id" = some (.str id.text) ∧ Web.IsReadAs "reward-requests" id shown db
  | .createParticipation => Web.IsReadAmong caller shown db

end WritingVerb

section
variable {db : Database} {shown : Json} (hnumbered : db.books.Numbered)
include hnumbered

theorem Event.exists_isReadAs {row : Event} (hrow : row ∈ db.books.events.rows)
    (hshown : row.shown = .ok shown) :
    ∃ id, shown.get? "id" = some (.str id.text) ∧ Web.IsReadAs "events" id shown db := by
  refine ⟨row.id, ?_, Web.isReadAs_event hnumbered hrow hshown⟩
  rw [← (showable_eq_ok_iff.mp hshown).2.2]
  rfl

theorem Reward.exists_isReadAs {row : Reward} (hrow : row ∈ db.books.rewards.rows)
    (hshown : row.shown = .ok shown) :
    ∃ id, shown.get? "id" = some (.str id.text) ∧ Web.IsReadAs "rewards" id shown db := by
  refine ⟨row.id, ?_, Web.isReadAs_reward hnumbered hrow hshown⟩
  rw [← (showable_eq_ok_iff.mp hshown).2.2]
  rfl

theorem RewardRequest.exists_isReadAs {row : RewardRequest} (hrow : row ∈ db.books.requests.rows)
    (hshown : row.shown = .ok shown) :
    ∃ id, shown.get? "id" = some (.str id.text) ∧ Web.IsReadAs "reward-requests" id shown db := by
  refine ⟨row.id, ?_, Web.isReadAs_request hnumbered hrow hshown⟩
  rw [← (showable_eq_ok_iff.mp hshown).2.2]
  rfl

end

/-! ### What a change hands to a command -/

theorem Event.view_set (e : Event) (value : Json) :
    { e with conditionValue := value }.view = e.view.put "condition_value" value.finite := by
  simp [view, columns, Json.put, Json.assign]

theorem Reward.view_set (r : Reward) (value : Json) :
    { r with metadata := value }.view = r.view.put "metadata" value.finite := by
  simp [view, columns, Json.put, Json.assign]

namespace Json

theorem finite_of_toRat? {value : Json} {x : Rat} (h : value.toRat? = some x) :
    value.finite = value := by
  cases value with
  | double d =>
    have hfinite : d.isFinite = true := by
      unfold Double.isFinite
      rw [show d.toRat? = some x from h]
      rfl
    rw [finite, if_pos hfinite]
  | bool | int => rfl
  | null | str | arr | obj => cases h

theorem looselyEq_of_sameNumber {a b : Json} (h : sameNumber a b = true) :
    looselyEq a b = true := by
  cases a <;> cases b <;> simp_all [looselyEq, sameNumber, toRat?]

/-- Values that count as one number are shown as such, and doubles that are none as null. -/
theorem looselyEq_finite_of_sameNumber {a b : Json} (h : sameNumber a b = true) :
    looselyEq a.finite b.finite = true := by
  cases ha : a.toRat? with
  | some x =>
    cases hb : b.toRat? with
    | some y =>
      rw [finite_of_toRat? ha, finite_of_toRat? hb]
      exact looselyEq_of_sameNumber h
    | none => cases a <;> cases b <;> simp_all [sameNumber, toRat?]
  | none =>
    cases a <;> cases b <;> simp_all [sameNumber, toRat?, finite, Double.isFinite, looselyEq]

theorem lookup_finiteMembers (name : String) (members : List (String × Json)) :
    lookup name (finiteMembers members) = (lookup name members).map finite := by
  induction members with
  | nil => rfl
  | cons member rest ih =>
    obtain ⟨key, value⟩ := member
    rw [finiteMembers, lookup, lookup]
    split
    · rfl
    · exact ih

theorem length_finiteMembers (members : List (String × Json)) :
    (finiteMembers members).length = members.length := by
  induction members with
  | nil => rfl
  | cons member rest ih => rw [finiteMembers, List.length_cons, ih, List.length_cons]

mutual

/-- **Values that are loosely the same are shown so.** -/
theorem looselyEq_finite : ∀ a b : Json, looselyEq a b = true → looselyEq a.finite b.finite = true
  | .null, b, h => by
    cases b with
    | null => rfl
    | _ => simp [looselyEq, sameNumber, toRat?] at h
  | .str a, b, h => by
    cases b with
    | str => exact h
    | _ => simp [looselyEq, sameNumber, toRat?] at h
  | .arr as, b, h => by
    cases b with
    | arr bs =>
      simp only [looselyEq] at h
      simp only [finite, looselyEq]
      exact itemsLooselyEq_finite as bs h
    | _ => simp [looselyEq, sameNumber, toRat?] at h
  | .obj as, b, h => by
    cases b with
    | obj bs =>
      simp only [looselyEq, Bool.and_eq_true] at h
      simp only [finite, looselyEq, length_finiteMembers, h.1, Bool.true_and]
      exact membersLooselyEq_finite [] as bs h.2
    | _ => simp [looselyEq, sameNumber, toRat?] at h
  | .bool _, _, h | .int _, _, h | .double _, _, h =>
    looselyEq_finite_of_sameNumber (by simpa only [looselyEq] using h)

theorem itemsLooselyEq_finite : ∀ as bs : List Json, itemsLooselyEq as bs = true →
    itemsLooselyEq (finiteItems as) (finiteItems bs) = true
  | [], bs, h => by
    cases bs with
    | nil => rfl
    | cons => simp [itemsLooselyEq] at h
  | a :: as, bs, h => by
    cases bs with
    | nil => simp [itemsLooselyEq] at h
    | cons b bs =>
      simp only [itemsLooselyEq, Bool.and_eq_true] at h
      simp only [finiteItems, itemsLooselyEq, looselyEq_finite a b h.1,
        itemsLooselyEq_finite as bs h.2, Bool.and_self]

theorem membersLooselyEq_finite : ∀ (passed : List String) (as bs : List (String × Json)),
    membersLooselyEq passed as bs = true →
      membersLooselyEq passed (finiteMembers as) (finiteMembers bs) = true
  | _, [], _, _ => rfl
  | passed, (name, a) :: as, bs, h => by
    simp only [membersLooselyEq, Bool.and_eq_true, Bool.or_eq_true] at h
    obtain ⟨hmember, hrest⟩ := h
    simp only [finiteMembers, membersLooselyEq, lookup_finiteMembers, Bool.and_eq_true,
      Bool.or_eq_true]
    refine ⟨hmember.imp_right fun hmember => ?_, membersLooselyEq_finite (name :: passed) as bs hrest⟩
    cases hb : lookup name bs with
    | none =>
      rw [hb] at hmember
      cases hmember
    | some b =>
      rw [hb] at hmember
      exact looselyEq_finite a b hmember

end

end Json

theorem Json.written_self (value : Json) : written value value = value := by
  unfold written
  split <;> rfl

theorem Json.written_of_not {old new : Json} (h : ¬looselyEq old new = true) :
    written old new = new := if_neg h

namespace WritingVerb

variable {verb : WritingVerb} {body : List (String × Json)}

/-- **A row with a free-form column** is handed on as the body gives it, whatever the rest of it is:
if the column is not written as it is at hand, then the body names what is at hand. -/
theorem hands_written {column : String} (hcolumn : verb.column? = some column) (view : Json → Json)
    (hput : ∀ stored given, view given = (view stored).put column given.finite)
    (hget : ∀ stored, (view stored).get? column = some stored.finite) {old new : Json}
    (hnew : Json.written old new = new ∨ Json.lookup column body = some new) :
    verb.Hands body (view (Json.written old new)) (view new) := by
  by_cases hsame : Json.looselyEq old new = true
  · rcases hnew with hwritten | hgiven
    · rw [hwritten]
      exact .asShown
    · have hold : Json.written old new = old := if_pos hsame
      rw [hold, hput old new]
      exact .asGiven hcolumn hgiven (hget old) (Json.looselyEq_finite old new hsame)
  · rw [Json.written_of_not hsame]
    exact .asShown

/-- **A changed event** is handed on as the body gives it. -/
theorem hands_event (hcolumn : verb.column? = some "condition_value") {old : Event}
    (hold : old.IsShaped) {patch : EventPatch} (hread : EventPatch.read body = .ok patch)
    (startDate endDate : Instant) (actor : String) (stamp : Instant) :
    let new := old.restamped (old.patched patch startDate endDate actor) stamp
    verb.Hands body (old.stored new).view new.view := by
  intro new
  refine hands_written hcolumn (fun value => { new with conditionValue := value }.view)
    (fun stored given => Event.view_set { new with conditionValue := stored } given)
    (fun _ => rfl) ?_
  cases hpatch : patch.conditionValue with
  | keep =>
    have hvalue : new.conditionValue = old.conditionValue := by
      simp only [new, Event.restamped, Event.patched, hpatch]
    exact Or.inl (by rw [hvalue, Json.written_self])
  | clear =>
    have hvalue : new.conditionValue = .empty := by
      simp only [new, Event.restamped, Event.patched, hpatch]
    exact Or.inl (by rw [hvalue, Json.written_empty hold.isObject])
  | set value =>
    have hvalue : new.conditionValue = value := by
      simp only [new, Event.restamped, Event.patched, hpatch]
    have hgiven : Json.lookup "condition_value" body = some value :=
      FormField.lookup_of_edit_object (hpatch ▸ (EventPatch.readFrom_of_read hread).conditionValue)
    exact Or.inr (by rw [hvalue, hgiven])

theorem hands_reward (hcolumn : verb.column? = some "metadata") {old : Reward}
    (hold : old.IsShaped) {patch : RewardPatch} (hread : RewardPatch.read body = .ok patch)
    (expiryDate : Option Instant) (actor : String) (stamp : Instant) :
    let new := old.restamped (old.patched patch expiryDate actor) stamp
    verb.Hands body (old.stored new).view new.view := by
  intro new
  refine hands_written hcolumn (fun value => { new with metadata := value }.view)
    (fun stored given => Reward.view_set { new with metadata := stored } given)
    (fun _ => rfl) ?_
  cases hpatch : patch.metadata with
  | keep =>
    have hvalue : new.metadata = old.metadata := by
      simp only [new, Reward.restamped, Reward.patched, hpatch]
    exact Or.inl (by rw [hvalue, Json.written_self])
  | clear =>
    have hvalue : new.metadata = .null := by
      simp only [new, Reward.restamped, Reward.patched, hpatch]
    exact Or.inl (by rw [hvalue, Json.written_null hold.isObjectOrNull])
  | set value =>
    have hvalue : new.metadata = value := by
      simp only [new, Reward.restamped, Reward.patched, hpatch]
    have hgiven : Json.lookup "metadata" body = some value :=
      FormField.lookup_of_edit_object (hpatch ▸ (RewardPatch.readFrom_of_read hread).metadata)
    exact Or.inr (by rw [hvalue, hgiven])

end WritingVerb

theorem Books.participate_userId {books : Books} {s : Session} {eventId : Id} {userId : String}
    {verificationData additionalData : Json} {now : Instant} {o : Outcome Participation}
    (h : books.participate s eventId userId verificationData additionalData now = .ok o) :
    o.answer.userId = userId := by
  have hoperation := books.participate_eq s eventId userId verificationData additionalData now
  split at hoperation
  · rw [hoperation] at h
    cases h
  · obtain ⟨event, -, hoperation⟩ := hoperation
    dsimp only at hoperation
    rw [hoperation] at h
    unfold Except.map at h
    split at h <;> cases h
    rfl

theorem Reply.eq_of_stored {reply : Reply} {after : Database} {handed shown : Json}
    (hreread : reply.reread after = reply) (hone : Web.bodyOf reply = reply.shown)
    (hdata : reply.shown = .ok handed) (hbody : Web.bodyOf (reply.reread after) = .ok shown) :
    handed = shown := by
  rw [hreread, hone, hdata] at hbody
  exact Except.ok.inj hbody

theorem RewardRequest.renders {after : Database} {row : RewardRequest} {handed shown : Json}
    (hafter : after.books.Numbered) (hrow : row ∈ after.books.requests.rows)
    (hdata : (Reply.request row).shown = .ok handed)
    (hbody : Web.bodyOf ((Reply.request row).reread after) = .ok shown) :
    handed = shown ∧
      ∃ id, shown.get? "id" = some (.str id.text) ∧ Web.IsReadAs "reward-requests" id shown after := by
  have hreread : (Reply.request row).reread after = .request row :=
    congrArg Reply.request (hafter.requests.find?_getD hrow)
  obtain rfl := Reply.eq_of_stored hreread rfl hdata hbody
  exact ⟨rfl, RewardRequest.exists_isReadAs hafter hrow hdata⟩

/-- **What a verb writes is rendered**: as it is handed to a command, as it is shown by the
endpoint, and as it is read. -/
theorem WritingVerb.Asks.renders {s : Session} {db after : Database} {verb : WritingVerb}
    {caller : String} {body : List (String × Json)} {action : Action} {reply : Reply}
    {handed shown : Json} (hasks : verb.Asks caller body action)
    (hnumbered : db.books.Numbered) (hafter : after.books.Numbered) (hshaped : db.books.Shaped)
    (hshows : after.books.ShowsParticipations) (hperform : action.perform s db = .ok (reply, after))
    (hdata : reply.shown = .ok handed) (hbody : Web.bodyOf (reply.reread after) = .ok shown) :
    verb.Hands body shown handed ∧ verb.IsRead caller shown after := by
  cases verb with
  | createEvent =>
    obtain ⟨draft, -, rfl⟩ := hasks
    obtain ⟨o, ho, rfl, hbooks⟩ := Action.settle_eq_ok hperform
    obtain ⟨hmem, -⟩ := createEvent_answer ho
    rw [← hbooks] at hmem
    have hreread : (Reply.event o.answer).reread after = .event o.answer :=
      congrArg Reply.event (hafter.events.find?_getD hmem)
    obtain rfl := Reply.eq_of_stored hreread rfl hdata hbody
    exact ⟨.asShown, Event.exists_isReadAs hafter hmem hdata⟩
  | createReward =>
    obtain ⟨draft, -, rfl⟩ := hasks
    obtain ⟨o, ho, rfl, hbooks⟩ := Action.settle_eq_ok hperform
    obtain ⟨hmem, -⟩ := createReward_answer ho
    rw [← hbooks] at hmem
    have hreread : (Reply.reward o.answer).reread after = .reward o.answer :=
      congrArg Reply.reward (hafter.rewards.find?_getD hmem)
    obtain rfl := Reply.eq_of_stored hreread rfl hdata hbody
    exact ⟨.asShown, Reward.exists_isReadAs hafter hmem hdata⟩
  | createParticipation =>
    obtain ⟨form, -, rfl⟩ := hasks
    obtain ⟨o, ho, rfl, hbooks⟩ := Action.settle_eq_ok hperform
    obtain ⟨hmem, -⟩ := participate_answer ho
    rw [← hbooks] at hmem
    have hreread : (Reply.participation (some o.answer)).reread after =
        .participation (some o.answer) :=
      congrArg (Reply.participation ∘ some) (hafter.participations.find?_getD hmem)
    obtain rfl := Reply.eq_of_stored hreread rfl hdata hbody
    have huser : o.answer.userId = caller := Books.participate_userId ho
    exact ⟨.asShown, huser ▸ Web.isReadAmong_participation hshows hmem hdata⟩
  | createRequest =>
    obtain ⟨form, -, rfl⟩ := hasks
    obtain ⟨o, ho, rfl, hbooks⟩ := Action.settle_eq_ok hperform
    obtain ⟨hmem, -⟩ := createRequest_answer hnumbered ho
    rw [← hbooks] at hmem
    obtain ⟨rfl, hread⟩ := RewardRequest.renders hafter hmem hdata hbody
    exact ⟨.asShown, hread⟩
  | updateRequest text =>
    obtain ⟨id, decision, -, -, rfl⟩ := hasks
    obtain ⟨o, ho, rfl, hbooks⟩ := Action.settle_eq_ok hperform
    obtain ⟨hmem, -⟩ := transition_answer ho
    rw [← hbooks] at hmem
    obtain ⟨rfl, hread⟩ := RewardRequest.renders hafter hmem hdata hbody
    exact ⟨.asShown, hread⟩
  | updateEvent text =>
    obtain ⟨id, patch, -, hread, rfl⟩ := hasks
    obtain ⟨o, ho, rfl, hbooks⟩ := Action.settle_eq_ok hperform
    obtain ⟨old, startDate, endDate, view, hold, -, -, -, -, hnew, -, hput, -⟩ :=
      Action.updateEvent_eq_ok ho
    have hrow := Table.mem_of_find?_eq_some hold
    -- the endpoint shows the stored version, the command the new one
    obtain ⟨hmem, hreread⟩ := Reply.reread_of_put_event hnumbered hrow
      (show o.answer.id = old.id by rw [hnew]; rfl) (by rw [hbooks, hput])
    have hshown : (old.stored o.answer).shown = .ok shown := by
      rwa [hreread] at hbody
    obtain ⟨-, -, hhanded⟩ := showable_eq_ok_iff.mp (show o.answer.shown = .ok handed from hdata)
    obtain ⟨-, -, hview⟩ := showable_eq_ok_iff.mp hshown
    refine ⟨?_, Event.exists_isReadAs hafter hmem hshown⟩
    rw [← hhanded, ← hview, hnew]
    exact hands_event rfl (hshaped.events old hrow) hread startDate endDate caller s.stamp
  | updateReward text =>
    obtain ⟨id, patch, -, hread, rfl⟩ := hasks
    obtain ⟨o, ho, rfl, hbooks⟩ := Action.settle_eq_ok hperform
    obtain ⟨old, expiryDate, view, hold, -, -, -, hnew, -, hput, -⟩ := Action.updateReward_eq_ok ho
    have hrow := Table.mem_of_find?_eq_some hold
    obtain ⟨hmem, hreread⟩ := Reply.reread_of_put_reward hnumbered hrow
      (show o.answer.id = old.id by rw [hnew]; rfl) (by rw [hbooks, hput])
    have hshown : (old.stored o.answer).shown = .ok shown := by
      rwa [hreread] at hbody
    obtain ⟨-, -, hhanded⟩ := showable_eq_ok_iff.mp (show o.answer.shown = .ok handed from hdata)
    obtain ⟨-, -, hview⟩ := showable_eq_ok_iff.mp hshown
    refine ⟨?_, Reward.exists_isReadAs hafter hmem hshown⟩
    rw [← hhanded, ← hview, hnew]
    exact hands_reward rfl (hshaped.rewards old hrow) hread expiryDate caller s.stamp

/-- **A written row is rendered alike.** In every database that can be reached, whatever the body
is, if a verb succeeds on either surface it does so on both, with the same database after it. What
the endpoint shows is what is read of the row from then on. The command shows the row that it has at
hand, without its reserved members; and that is the same row, but for a free-form value that is
given in a change and is loosely the stored one. -/
theorem written_rows_are_rendered {db : Database} (h : db.Reachable Action.IsFormed) (s : Session)
    {verb : WritingVerb} (hid : verb.id? ≠ some "") {caller : String}
    (hcaller : Web.IsTrimmed caller) (body : List (String × Json)) {code : Nat} (hlt : code < 400) :
    let endpoint := Web.handle s db (verb.request caller body)
    let command := Web.handle s db (verb.command caller body)
    endpoint.1.status? = some code ∨ command.1.status? = some code →
      ∃ shown handed after, endpoint = (.reply verb.status shown, after) ∧
        command = (.reply 200
          (.obj [("success", .bool true), ("data", handed.withoutReserved)]), after) ∧
        verb.IsRead caller shown after ∧ verb.Hands body shown handed := by
  intro endpoint command hcode
  have hfind : Endpoint.find (verb.request caller body).method (verb.request caller body).path =
      .ok verb.endpoint := WritingVerb.find_endpoint hid
  rcases verb.reads_alike hcaller body with
    ⟨action, hasks, htask, haction⟩ | ⟨issues, more, htask, haction⟩
  · have hasked : Web.asked? (verb.command caller body) = some action := by
      show Command.asked? verb.name (verb.payload caller body) = some action
      simp only [Command.asked?, haction]
    have hasked' : Web.asked? (verb.request caller body) = some action := by
      simp only [Web.asked?, hfind, htask]
    have hendpoint : endpoint = Web.answerAction s db verb.status action := by
      simp only [endpoint, Web.handle, hfind, htask]
    have hcommand : command = (Web.answerCommand
        (Command.run s db verb.name (verb.payload caller body)).1,
          (Command.run s db verb.name (verb.payload caller body)).2) := WritingVerb.handle_command s db
    obtain ⟨reply, after, hperform⟩ : ∃ reply after, action.perform s db = .ok (reply, after) := by
      rcases hcode with hcode | hcode
      · obtain ⟨reply, hperform⟩ :=
          @Moment.succeeded ⟨s, .request (verb.request caller body)⟩ db action hasked' code hcode hlt
        exact ⟨reply, _, hperform⟩
      · obtain ⟨reply, hperform⟩ :=
          @Moment.succeeded ⟨s, .request (verb.command caller body)⟩ db action hasked code hcode hlt
        exact ⟨reply, _, hperform⟩
    obtain ⟨notes, hchange, -⟩ := Action.perform_eq_ok hperform
    have hafter := hchange.numbered h.numbered
    rcases hasks.writing.presentable h.numbered hafter
        (hchange.shaped (Web.isFormed_of_task htask) h.numbered h.shaped) hperform with
      ⟨handed, shown, hdata, hbody⟩ | ⟨-, hdata, hbody⟩
    · obtain ⟨hhands, hread⟩ := hasks.renders h.numbered hafter h.shaped
        (hchange.showsParticipations h.participations_shown) hperform hdata hbody
      refine ⟨shown, handed, after, ?_, ?_, hread, hhands⟩
      · rw [hendpoint]
        simp only [Web.answerAction, hperform, hbody]
      · rw [hcommand]
        simp only [Command.run, haction, hperform, hdata, Web.answerCommand]
    · -- a row that cannot be written out breaks both answers
      rw [hendpoint, hcommand] at hcode
      simp only [Web.answerAction, Command.run, haction, hperform, hdata, hbody, Web.answerCommand,
        Web.Answer.status?, reduceCtorEq, or_self] at hcode
  · have hendpoint : endpoint.1.status? = some 422 := by
      simp only [endpoint, Web.handle, hfind, htask]
      rfl
    have hcommand : command.1.status? = some 400 := by
      simp only [command, WritingVerb.handle_command, Command.run, haction, Web.answerCommand]
      rfl
    rw [hendpoint, hcommand, Option.some.injEq, Option.some.injEq] at hcode
    omega

/-- A rate of one that is set to a flag is shown and read as one, and the command alone shows a
flag. -/
theorem written_rows_are_rendered_ratedRun :
    let db := Database.empty.after ratedRun
    let s : Session := { clock := ⟨4000000⟩ }
    let verb := WritingVerb.updateReward ({} : Table Reward).nextId.text
    let body := [("metadata", Json.obj [("rate", .bool true)])]
    (verb.id? ≠ some "" ∧ Web.IsTrimmed "admin") ∧
      ∃ shown handed after, Web.handle s db (verb.request "admin" body) = (.reply 200 shown, after) ∧
        verb.IsRead "admin" shown after ∧ verb.Hands body shown handed ∧
        (shown.get? "metadata").bind (Json.count? "rate") = some 1 ∧
        (handed.withoutReserved.get? "metadata").bind (Json.count? "rate") = none := by
  intro db s verb body
  have hid : verb.id? ≠ some "" := by decide
  have htrimmed : Web.IsTrimmed "admin" := ⟨by decide, by decide⟩
  have hstatus : (Web.handle s db (verb.request "admin" body)).1.status? = some 200 := by
    decide +kernel
  obtain ⟨shown, handed, after, hendpoint, hcommand, hread, hhands⟩ :=
    written_rows_are_rendered reachable_ratedRun s hid htrimmed body (by decide : 200 < 400)
      (Or.inl hstatus)
  refine ⟨⟨hid, htrimmed⟩, shown, handed, after, hendpoint, hread, hhands, ?_, ?_⟩
  · have hrate : ((Web.handle s db (verb.request "admin" body)).1.member? "metadata").bind
        (Json.count? "rate") = some 1 := by decide +kernel
    rw [hendpoint] at hrate
    cases shown with
    | obj members => exact hrate
    | _ => cases hrate
  · have hrate : (((Web.handle s db (verb.command "admin" body)).1.member? "data").bind
        (Json.get? "metadata")).bind (Json.count? "rate") = none := by decide +kernel
    rw [hcommand] at hrate
    exact hrate

/-- **The command leaves something out** of a row: a member of its metadata with a reserved name is
shown by the endpoint, and not by the command. -/
theorem reserved_member_is_not_handed :
    ¬∀ db : Database, db.Reachable Action.IsFormed → ∀ (s : Session) (verb : WritingVerb),
      verb.id? ≠ some "" → ∀ caller, Web.IsTrimmed caller → ∀ body shown data,
        (Web.handle s db (verb.request caller body)).1 = .reply verb.status shown →
          (Web.handle s db (verb.command caller body)).1.member? "data" = some data →
            data = shown := by
  intro h
  let db := Database.empty.after offeringRun
  let s : Session := { clock := ⟨3000000⟩ }
  let verb := WritingVerb.createReward
  let body : List (String × Json) :=
    [("event_id", .str ({} : Table Event).nextId.text), ("name", .str "Voucher"),
      ("type", .str "COUPON"), ("value", .str "10%"), ("total_quantity", .int 1),
      ("metadata", .obj [("_sale", .bool true)])]
  have hstatus : (Web.handle s db (verb.request "admin" body)).1.status? = some 201 := by
    decide +kernel
  obtain ⟨shown, hshown⟩ : ∃ shown,
      (Web.handle s db (verb.request "admin" body)).1 = .reply 201 shown := by
    cases hanswer : (Web.handle s db (verb.request "admin" body)).1 with
    | reply status shown =>
      rw [hanswer] at hstatus
      cases hstatus
      exact ⟨shown, rfl⟩
    | broken | unshowable | unwritable =>
      rw [hanswer] at hstatus
      cases hstatus
  obtain ⟨data, hdata⟩ := Option.isSome_iff_exists.mp
    (by decide +kernel :
      ((Web.handle s db (verb.command "admin" body)).1.member? "data").isSome = true)
  have hsame : data = shown :=
    h db reachable_offeringRun s verb (by decide) "admin" ⟨by decide, by decide⟩ body shown data
      hshown hdata
  have hkept : (((Web.handle s db (verb.request "admin" body)).1.member? "metadata").bind
      (Json.get? "_sale")).isSome = true := by decide +kernel
  have hleft : ((((Web.handle s db (verb.command "admin" body)).1.member? "data").bind
      (Json.get? "metadata")).bind (Json.get? "_sale")).isSome = false := by decide +kernel
  rw [hdata, hsame] at hleft
  rw [hshown] at hkept
  cases shown with
  | obj members => exact absurd (hkept.symm.trans hleft) Bool.noConfusion
  | _ => cases hkept

end Promotions
