import Promotions.Proofs.Answers
import Promotions.Proofs.References

/-!
# Users are kept apart

All users share the tables, and what belongs to some of them is a `Share` of the rows. An action
that is done in the name of a user writes to that user's share only (`Change.share_eq`): it adds
rows of the user, it changes a row only after it has found it to be the user's, and the claims that
it releases are those of such a request. So whatever a user asks for at one of the personal
endpoints, the rows of all others stay as they are (`Web.others_handle`), and what is aimed at the
row of somebody else is forbidden.
-/

namespace Promotions

/-- The rows that belong to some users. -/
@[ext]
structure Share where
  participations : List Participation
  requests : List RewardRequest
  claims : List Claim
  grants : List Grant

namespace Books

/-- The rows of the users that are chosen. -/
def share (books : Books) (chosen : String → Bool) : Share :=
  { participations := books.participations.filter fun p => chosen p.userId
    requests := books.requests.filter fun q => chosen q.userId
    claims := books.claims.filter fun c => chosen c.userId
    grants := books.grants.filter fun g => chosen g.userId }

/-- The rows of a user. -/
def own (books : Books) (userId : String) : Share := books.share fun other => other = userId

/-- The rows of all users but one. -/
def others (books : Books) (userId : String) : Share := books.share fun other => other ≠ userId

end Books

/-- The user in whose name rows of that user are written. -/
def Action.user? : Action → Option String
  | .participate _ userId _ _ _ | .createRequest _ _ userId _ _ _ => some userId
  | .cancelRequest _ userId | .useGrant _ userId _ => some userId
  | _ => none

/-! ### Rows that are not chosen -/

namespace Table

variable {ρ : Type} {t : Table ρ} {chosen : ρ → Bool}

theorem filter_push_of_not {row : ρ} (hrow : chosen row = false) :
    (t.push row).filter chosen = t.filter chosen := by
  simp [filter, hrow]

variable [Row ρ]

section
variable (h : t.Numbered) {old : ρ} (hold : old ∈ t.rows)
include h hold

theorem Numbered.filter_modify {f : ρ → ρ} (hnew : chosen (f old) = chosen old) :
    (t.modify (Row.id old) f).filter chosen =
      (t.filter chosen).map fun row => if Row.id row = Row.id old then f row else row := by
  have hchange : ∀ row ∈ t.rows,
      (chosen ∘ fun row => if Row.id row = Row.id old then f row else row) row = chosen row := by
    intro row hrow
    simp only [Function.comp]
    split_ifs with hid
    · rw [h.eq_of_id_eq hrow hold hid, hnew]
    · rfl
  unfold filter
  rw [rows_modify, List.filter_map, List.filter_congr hchange]

theorem Numbered.filter_modify_of_not {f : ρ → ρ} (hchosen : chosen old = false)
    (hnew : chosen (f old) = false) :
    (t.modify (Row.id old) f).filter chosen = t.filter chosen := by
  rw [h.filter_modify hold (hnew.trans hchosen.symm)]
  refine (List.map_congr_left fun row hrow => ?_).trans (List.map_id _)
  obtain ⟨hrow, hpicked⟩ := List.mem_filter.mp hrow
  refine if_neg fun hid => ?_
  rw [h.eq_of_id_eq hrow hold hid, hchosen] at hpicked
  cases hpicked

theorem Numbered.filter_put_of_not {new : ρ} (hid : Row.id new = Row.id old)
    (hchosen : chosen old = false) (hnew : chosen new = false) :
    (t.put new).filter chosen = t.filter chosen := by
  rw [Table.put, hid]
  exact h.filter_modify_of_not hold hchosen hnew

end

end Table

/-! ### What an action leaves alone -/

namespace Books

variable {s : Session} {books after : Books} {request : RewardRequest}
  {operator reason : Option String} {now : Instant} {notes : List Note} {chosen : String → Bool}

theorem mem_of_latestParticipation? {eventId : Id} {userId : String} {p : Participation}
    (h : books.latestParticipation? eventId userId = some p) :
    p ∈ books.participations.rows ∧ p.userId = userId := by
  have hmem := List.mem_mergeSort.mp (List.mem_of_head? h)
  obtain ⟨hp, hof⟩ := List.mem_filter.mp hmem
  simp only [Bool.and_eq_true, decide_eq_true_eq] at hof
  exact ⟨hp, hof.1.2⟩

theorem share_linkParticipation (hbooks : books.participations.Numbered)
    (hchosen : chosen request.userId = false) :
    (books.linkParticipation request now).share chosen = books.share chosen := by
  unfold linkParticipation
  split
  · rfl
  · next latest hlatest =>
    obtain ⟨hmem, huser⟩ := mem_of_latestParticipation? hlatest
    rw [← huser] at hchosen
    exact Share.ext (hbooks.filter_modify_of_not hmem hchosen hchosen) rfl rfl rfl

theorem share_markRewarded (hbooks : books.participations.Numbered)
    (hchosen : chosen request.userId = false) :
    (books.markRewarded request now).share chosen = books.share chosen := by
  unfold markRewarded
  split
  · rfl
  · next latest hlatest =>
    obtain ⟨hmem, huser⟩ := mem_of_latestParticipation? hlatest
    rw [← huser] at hchosen
    split
    · exact Share.ext (hbooks.filter_modify_of_not hmem hchosen hchosen) rfl rfl rfl
    · rfl

theorem share_putRequest (hbooks : books.requests.Numbered)
    (hrequest : request ∈ books.requests.rows) {new : RewardRequest} (hid : new.id = request.id)
    (huser : new.userId = request.userId) (hchosen : chosen request.userId = false) :
    (books.putRequest s new).share chosen = books.share chosen := by
  refine Share.ext rfl ?_ rfl rfl
  refine hbooks.filter_put_of_not hrequest hid hchosen ?_
  show chosen new.userId = false
  rw [huser, hchosen]

theorem share_releaseClaims (hclaims : ∀ c ∈ books.claims, c.requestId = request.id →
    c.userId = request.userId) (hchosen : chosen request.userId = false) :
    (books.releaseClaims request.id).share chosen = books.share chosen := by
  refine Share.ext rfl rfl ?_ rfl
  show (books.claims.filter _).filter _ = books.claims.filter _
  rw [List.filter_filter]
  refine List.filter_congr fun c hc => ?_
  by_cases hreleased : c.requestId = request.id
  · rw [hclaims c hc hreleased, hchosen, Bool.false_and]
  · simp [hreleased]

theorem Granting.share_eq {ids : List Id} {grants : List Grant}
    (h : Granting s request operator now books ids after grants notes)
    (hchosen : chosen request.userId = false) : after.share chosen = books.share chosen := by
  have hgrants : after.grants.filter (fun g => chosen g.userId) =
      books.grants.filter fun g => chosen g.userId := by
    have hnone : grants.filter (fun g => chosen g.userId) = [] := by
      refine List.filter_eq_nil_iff.mpr fun g hg => ?_
      rw [(h.eq_ofReward g hg).1, hchosen]
      exact Bool.false_ne_true
    unfold Table.filter
    rw [h.rows_grants, List.filter_append, hnone, List.append_nil]
  obtain ⟨rewards, table, rfl⟩ := h.exists_eq
  exact Share.ext rfl rfl rfl hgrants

theorem Moving.share_eq {target : RequestStatus}
    (h : Moving s books request operator reason now target after notes) (hbooks : books.Mirrored)
    (hrequest : request ∈ books.requests.rows) (hchosen : chosen request.userId = false) :
    after.share chosen = books.share chosen := by
  have hclaims : ∀ c ∈ books.claims, c.requestId = request.id → c.userId = request.userId := by
    intro c hc hid
    obtain ⟨q, hq, -, -, hof⟩ := hbooks.backed c hc
    have hsame : Row.id q = Row.id request := hof.requestId_eq.symm.trans hid
    rw [hof.userId_eq, hbooks.numbered.requests.eq_of_id_eq hq hrequest hsame]
  have hnumbered := hbooks.numbered
  have hreleased : (books.releaseClaims request.id).requests.Numbered := hnumbered.requests
  have hmem : request ∈ (books.releaseClaims request.id).requests.rows := hrequest
  cases h with
  | approved hwanted hids hgranting hgrants hnote =>
    have hissued := hgranting.numbered hnumbered
    have hshare := hgranting.share_eq hchosen
    obtain ⟨rewards, table, rfl⟩ := hgranting.exists_eq
    refine (share_markRewarded ?_ hchosen).trans (Eq.trans ?_ hshare)
    · exact hissued.participations
    · exact share_putRequest hissued.requests hrequest rfl rfl hchosen
  | rejected hnote =>
    exact Eq.trans (share_putRequest hreleased hmem rfl rfl hchosen)
      (share_releaseClaims hclaims hchosen)
  | cancelled hnote =>
    exact Eq.trans (share_putRequest hreleased hmem rfl rfl hchosen)
      (share_releaseClaims hclaims hchosen)
  | delivered hnote => exact share_putRequest hnumbered.requests hrequest rfl rfl hchosen

theorem Filing.share_eq {event : Event} {rewards : List Id} {userId : String}
    {verificationData : Json}
    (h : Filing s books event rewards userId verificationData now request after notes)
    (hbooks : books.Numbered) (hchosen : chosen userId = false) :
    after.share chosen = books.share chosen := by
  have huser : request.userId = userId := by rw [h.request_eq]; rfl
  rw [← huser] at hchosen
  have hclaims : (claimsFor request.id event.id userId s.stamp rewards).filter
      (fun c => chosen c.userId) = [] := by
    refine List.filter_eq_nil_iff.mpr fun c hc => ?_
    obtain ⟨rewardId, -, rfl⟩ := List.mem_map.mp hc
    rw [← huser, hchosen]
    exact Bool.false_ne_true
  rw [h.after_eq]
  refine (share_linkParticipation ?_ hchosen).trans (Share.ext rfl ?_ ?_ rfl)
  · exact hbooks.participations
  · exact Table.filter_push_of_not hchosen
  · show (books.claims ++ _).filter _ = books.claims.filter _
    rw [List.filter_append, hclaims, List.append_nil]

end Books

open Books

/-- **What is done in the name of a user** leaves the shares of all others alone. -/
theorem Change.share_eq {s : Session} {books after : Books} {action : Action} {notes : List Note}
    (h : Change s books action after notes) (hunrivalled : action.IsUnrivalled)
    (hbooks : books.Mirrored) {userId : String} (huser : action.user? = some userId)
    {chosen : String → Bool} (hchosen : chosen userId = false) :
    after.share chosen = books.share chosen := by
  cases h with
  | nothing => rfl
  | noted | eventMade | eventEdited | rewardMade | rewardEdited | moved | issued | expired =>
    cases huser
  | tookPart _ _ _ _ _ _ hparticipation =>
    cases huser
    refine Share.ext (Table.filter_push_of_not ?_) rfl rfl rfl
    rw [hparticipation]
    exact hchosen
  | filed _ hraced hfiling =>
    cases huser
    cases hunrivalled
    cases hraced
    exact hfiling.share_eq hbooks.numbered hchosen
  | @filedAndApproved _ _ _ _ _ _ _ _ _ _ _ request found _ _ _ hraced hfiling _ hfound _ hmoving =>
    cases huser
    cases hunrivalled
    cases hraced
    have hsame : found = request :=
      Option.some.inj (hfound.symm.trans (hfiling.find?_eq hbooks.numbered))
    subst hsame
    have hfiled : found.userId = userId := by rw [hfiling.request_eq]; rfl
    rw [hmoving.share_eq (hfiling.mirrored hbooks) (Table.mem_of_find?_eq_some hfound)
      (by rw [hfiled, hchosen]), hfiling.share_eq hbooks.numbered hchosen]
  | cancelled hfound hown _ hmoving =>
    cases huser
    rw [← hown] at hchosen
    exact hmoving.share_eq hbooks (Table.mem_of_find?_eq_some hfound) hchosen
  | used hfound hown =>
    cases huser
    rw [← hown] at hchosen
    exact Share.ext rfl rfl rfl (hbooks.numbered.grants.filter_put_of_not
      (Table.mem_of_find?_eq_some hfound) rfl hchosen hchosen)

/-! ### The personal endpoints -/

/-- Callers take part, ask for rewards, cancel requests and use grants in their own names. -/
def Endpoint.isPersonal : Endpoint → Bool
  | .createParticipation | .createRequest | .cancelRequest _ | .useGrant _ => true
  | _ => false

namespace Web

variable {r : Request} {endpoint : Endpoint} {userId : String}

theorem user?_of_task (hpersonal : endpoint.isPersonal = true)
    (hcaller : caller? r.user = some userId) {found : Task} (h : task r endpoint = .ok found) :
    ∃ status action, found = .action status action ∧ action.user? = some userId := by
  cases endpoint with
  | createParticipation | createRequest | cancelRequest | useGrant =>
    obtain ⟨caller, hsame, h⟩ := asCaller_eq_ok_iff.mp h
    cases Option.some.inj (hcaller.symm.trans hsame)
    obtain ⟨_, -, rfl⟩ := Checked.map_eq_ok_iff.mp h
    exact ⟨_, _, rfl, rfl⟩
  | _ => cases hpersonal

theorem user?_of_asked? (hfind : Endpoint.find r.method r.path = .ok endpoint)
    (hpersonal : endpoint.isPersonal = true) (hcaller : caller? r.user = some userId)
    {action : Action} (h : asked? r = some action) : action.user? = some userId := by
  unfold asked? at h
  rw [hfind] at h
  dsimp only at h
  cases htask : task r endpoint with
  | error answer =>
    rw [htask] at h
    cases h
  | ok found =>
    obtain ⟨status, named, rfl, huser⟩ := user?_of_task hpersonal hcaller htask
    rw [htask] at h
    cases Option.some.inj h
    exact huser

/-- **Whatever a user asks for at a personal endpoint**, the rows of all others stay as they are. -/
theorem others_handle {db : Database} (h : db.books.Mirrored) (s : Session)
    (hfind : Endpoint.find r.method r.path = .ok endpoint)
    (hpersonal : endpoint.isPersonal = true) (hcaller : caller? r.user = some userId) :
    (handle s db r).2.books.others userId = db.books.others userId := by
  rcases handle_eq_or_writes s db r with heq | ⟨action, hasked, notes, hchange, -⟩
  · rw [heq]
  · exact hchange.share_eq (asked?_isPublic hasked).isUnrivalled h
      (user?_of_asked? hfind hpersonal hcaller hasked) (by simp)

/-! ### Rows of somebody else -/

theorem handle_eq_answerAction {db : Database} {s : Session}
    (hfind : Endpoint.find r.method r.path = .ok endpoint) {status : Nat} {action : Action}
    (htask : task r endpoint = .ok (.action status action)) :
    handle s db r = answerAction s db status action := by
  simp only [handle, hfind, htask]

theorem handle_cancelRequest_of_other {db : Database} (s : Session) {text : String} {id : Id}
    {q : RewardRequest} (hfind : Endpoint.find r.method r.path = .ok (.cancelRequest text))
    (hcaller : caller? r.user = some userId) (hid : pathId "request_id" text = .ok id)
    (hfound : db.books.requests.find? id = some q) (hother : q.userId ≠ userId) :
    handle s db r = (failure 403 Refusal.requestOfAnotherUser.message, db) := by
  have htask : task r (.cancelRequest text) = .ok (.action 200 (.cancelRequest id userId)) := by
    unfold task
    rw [asCaller_eq_ok_iff]
    exact ⟨userId, hcaller, by rw [hid]; rfl⟩
  have hrefused : db.books.cancelRequest s id userId = Failure.refuse .requestOfAnotherUser := by
    unfold Books.cancelRequest Books.findRequest
    rw [hfound]
    exact if_pos hother
  have hperform : (Action.cancelRequest id userId).perform s db =
      .error (.refused .requestOfAnotherUser) := by
    simp only [Action.perform, Action.settle, hrefused, Failure.refuse]
  rw [handle_eq_answerAction hfind htask, answerAction_of_refused hperform]
  rfl

theorem handle_useGrant_of_other {db : Database} (s : Session) {text : String} {id : Id}
    {g : Grant} (hfind : Endpoint.find r.method r.path = .ok (.useGrant text))
    (hcaller : caller? r.user = some userId) (hid : pathId "user_reward_id" text = .ok id)
    (hfound : db.books.grants.find? id = some g) (hother : g.userId ≠ userId) :
    handle s db r = (failure 403 Refusal.grantOfAnotherUser.message, db) := by
  have htask : task r (.useGrant text) = .ok (.action 200 (.useGrant id userId none)) := by
    unfold task
    rw [asCaller_eq_ok_iff]
    exact ⟨userId, hcaller, by rw [hid]; rfl⟩
  have hrefused : db.books.useGrant id userId s.clock = Failure.refuse .grantOfAnotherUser := by
    unfold Books.useGrant Books.findGrant
    rw [hfound]
    exact if_pos hother
  have hperform : (Action.useGrant id userId none).perform s db =
      .error (.refused .grantOfAnotherUser) := by
    simp only [Action.perform, Action.settle, Option.getD_none, hrefused, Failure.refuse]
  rw [handle_eq_answerAction hfind htask, answerAction_of_refused hperform]
  rfl

end Web

end Promotions
