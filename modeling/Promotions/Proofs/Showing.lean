import Promotions.Proofs.Shapes

/-!
# Rows that can be shown

The actions that write answer with a row (`Action.Writing`), and on the way they show rows for the
journal. Where the rows of the books have their shape, none of this finds an issue, unless an event
has too many participants. So an action that fails does so for another reason
(`Action.Writing.not_isUnfit`): level by level, no operation hands on a failure of this kind.
-/

namespace Promotions

/-! ### Failures that are issues -/

/-- The fault is that a row does not have its shape. -/
def Fault.IsUnfit : Fault → Prop
  | .unshowable _ => True
  | _ => False

/-- The failure is that a row does not have its shape. -/
def Failure.IsUnfit : Failure → Prop
  | .refused _ => False
  | .fault found => found.IsUnfit

theorem not_isUnfit_refuse {α : Type} {refusal : Refusal} {failure : Failure}
    (h : (Failure.refuse refusal : Except Failure α) = .error failure) : ¬failure.IsUnfit := by
  cases h
  exact not_false

theorem orBreakOff_eq_error {α : Type} {result : Except Fault α} {failure : Failure}
    (h : orBreakOff result = .error failure) :
    ∃ fault, result = .error fault ∧ failure = .fault fault := by
  cases result with
  | ok value => cases h
  | error fault => exact ⟨fault, rfl, (Except.error.inj h).symm⟩

theorem not_isUnfit_of_orBreakOff {α : Type} {result : Except Fault α}
    (hresult : ∀ fault, result = .error fault → ¬fault.IsUnfit) {failure : Failure}
    (h : orBreakOff result = .error failure) : ¬failure.IsUnfit := by
  obtain ⟨fault, hfault, rfl⟩ := orBreakOff_eq_error h
  exact hresult fault hfault

theorem not_isUnfit_of_showable {issues : List Issue} {payloads : List Json} {view : Json}
    (hissues : issues = []) (fault : Fault) (h : showable issues payloads view = .error fault) :
    ¬fault.IsUnfit := by
  cases fault with
  | unshowable found => exact absurd hissues (showable_eq_unshowable_iff.mp h).1
  | _ => exact not_false

namespace Timestamp

theorem not_isUnfit_of_stored {t : Timestamp} {failure : Failure} (h : t.stored = .error failure) :
    ¬failure.IsUnfit := by
  unfold stored at h
  split at h
  · cases h
  · cases h
    exact not_false

theorem not_isUnfit_of_stored? {t : Option Timestamp} {failure : Failure}
    (h : stored? t = .error failure) : ¬failure.IsUnfit := by
  unfold stored? at h
  split at h
  · cases h
  · next t =>
    cases hstored : t.stored with
    | ok value =>
      rw [hstored] at h
      cases h
    | error found =>
      rw [hstored] at h
      cases h
      exact not_isUnfit_of_stored hstored

end Timestamp

namespace RewardRequest

theorem not_isUnfit_of_itemId {item : Json} {fault : Fault} (h : itemId item = .error fault) :
    ¬fault.IsUnfit := by
  unfold itemId at h
  split at h
  · cases h
  · cases h
    exact not_false

theorem not_isUnfit_of_items {q : RewardRequest} {fault : Fault} (h : q.items = .error fault) :
    ¬fault.IsUnfit := by
  unfold items itemsOf at h
  split at h
  · cases h
  · split at h
    · cases h
      exact not_false
    · cases h

theorem exists_of_mapM_eq_error {α β : Type} {f : α → Except Fault β} {items : List α}
    {fault : Fault} (h : items.mapM f = .error fault) : ∃ item ∈ items, f item = .error fault := by
  induction items with
  | nil => cases h
  | cons item rest ih =>
    rw [List.mapM_cons] at h
    cases hitem : f item with
    | error found =>
      rw [hitem] at h
      cases h
      exact ⟨item, List.mem_cons_self, hitem⟩
    | ok value =>
      cases hrest : rest.mapM f with
      | error found =>
        rw [hitem, hrest] at h
        cases h
        obtain ⟨other, hother, hf⟩ := ih hrest
        exact ⟨other, List.mem_cons_of_mem _ hother, hf⟩
      | ok values =>
        rw [hitem, hrest] at h
        cases h

theorem not_isUnfit_of_wanted {q : RewardRequest} {fault : Fault} (h : q.wanted = .error fault) :
    ¬fault.IsUnfit := by
  unfold wanted at h
  split at h
  · obtain ⟨item, -, hitem⟩ := exists_of_mapM_eq_error h
    exact not_isUnfit_of_itemId hitem
  · next hitems =>
    cases h
    exact not_isUnfit_of_items hitems

theorem not_isUnfit_of_firstReward {q : RewardRequest} {fault : Fault}
    (h : q.firstReward = .error fault) : ¬fault.IsUnfit := by
  unfold firstReward at h
  split at h
  · cases h
    exact not_false
  · next hitems _ =>
    cases h
    exact not_isUnfit_of_items hitems
  · cases h
  · next item _ _ _ =>
    cases hitem : itemId item with
    | ok id =>
      rw [hitem] at h
      cases h
    | error found =>
      rw [hitem] at h
      cases h
      exact not_isUnfit_of_itemId hitem

end RewardRequest

/-! ### The operations -/

theorem Event.isObject_patched {event : Event} {patch : EventPatch}
    (hevent : event.conditionValue.isObject = true)
    (hpatch : ∀ value, patch.conditionValue = .set value → value.isObject = true)
    (startDate endDate : Instant) (actor : String) :
    (event.patched patch startDate endDate actor).conditionValue.isObject = true := by
  unfold patched
  dsimp only
  split
  · exact hevent
  · rfl
  · next value hvalue => exact hpatch value hvalue

theorem Reward.isObjectOrNull_patched {reward : Reward} {patch : RewardPatch}
    (hreward : reward.metadata.isObjectOrNull = true)
    (hpatch : ∀ value, patch.metadata = .set value → value.isObject = true)
    (expiryDate : Option Instant) (actor : String) :
    (reward.patched patch expiryDate actor).metadata.isObjectOrNull = true := by
  unfold patched
  dsimp only
  split
  · exact hreward
  · rfl
  · next value hvalue =>
    have hobject := hpatch value hvalue
    cases value with
    | obj members => rfl
    | null | bool | int | double | str | arr => cases hobject

namespace Books

variable {s : Session} {books : Books} {failure : Failure}

theorem not_isUnfit_of_findEvent {id : Id} (h : books.findEvent id = .error failure) :
    ¬failure.IsUnfit := by
  unfold findEvent at h
  split at h
  · cases h
  · exact not_isUnfit_refuse h

theorem not_isUnfit_of_editDate {column : String} {old : Instant} {edit : Edit Timestamp}
    (h : editDate column old edit = .error failure) : ¬failure.IsUnfit := by
  cases edit with
  | keep => cases h
  | clear => exact not_isUnfit_refuse h
  | set date => exact Timestamp.not_isUnfit_of_stored h

theorem not_isUnfit_of_createEvent {draft : EventDraft} {actor : String}
    (hvalue : draft.conditionValue.isObject = true)
    (h : books.createEvent s draft actor = .error failure) : ¬failure.IsUnfit := by
  unfold createEvent at h
  split at h
  · next hstart =>
    cases h
    exact Timestamp.not_isUnfit_of_stored hstart
  · split at h
    · next hend =>
      cases h
      exact Timestamp.not_isUnfit_of_stored hend
    · split at h
      · exact not_isUnfit_refuse h
      · split at h
        · cases h
          exact not_false
        · dsimp only at h
          split at h
          · next hshown =>
            cases h
            refine not_isUnfit_of_orBreakOff (not_isUnfit_of_showable ?_) hshown
            exact Event.issues_eq_nil_iff.mpr ⟨hvalue, rfl⟩
          · cases h

theorem not_isUnfit_of_updateEvent {id : Id} {patch : EventPatch} {actor : String}
    (hshaped : ∀ e ∈ books.events.rows, e.IsShaped)
    (hcount : ∀ e, books.events.find? id = some e → fits64 e.participantCount = true)
    (hpatch : ∀ value, patch.conditionValue = .set value → value.isObject = true)
    (h : books.updateEvent s id patch actor = .error failure) : ¬failure.IsUnfit := by
  unfold updateEvent at h
  split at h
  · next hfound =>
    cases h
    exact not_isUnfit_of_findEvent hfound
  · next event hfound =>
    have hevent := findEvent_eq_ok hfound
    split at h
    · next hstart =>
      cases h
      exact not_isUnfit_of_editDate hstart
    · next startDate _ =>
      split at h
      · next hend =>
        cases h
        exact not_isUnfit_of_editDate hend
      · next endDate _ =>
        split at h
        · exact not_isUnfit_refuse h
        · split at h
          · cases h
            exact not_false
          · split at h
            · cases h
              exact not_false
            · dsimp only at h
              split at h
              · next hshown =>
                cases h
                refine not_isUnfit_of_orBreakOff (not_isUnfit_of_showable ?_) hshown
                refine Event.issues_eq_nil_iff.mpr ⟨?_, hcount event hevent⟩
                exact Event.isObject_patched
                  (hshaped event (Table.mem_of_find?_eq_some hevent)).isObject hpatch startDate
                  endDate actor
              · cases h

theorem not_isUnfit_of_createReward {draft : RewardDraft} {actor : String}
    (hmetadata : (draft.metadata.getD .null).isObjectOrNull = true)
    (h : books.createReward s draft actor = .error failure) : ¬failure.IsUnfit := by
  unfold createReward at h
  split at h
  · next hfound =>
    cases h
    exact not_isUnfit_of_findEvent hfound
  · split at h
    · next hexpiry =>
      cases h
      exact Timestamp.not_isUnfit_of_stored? hexpiry
    · split at h
      · cases h
        exact not_false
      · dsimp only at h
        split at h
        · cases h
          exact not_false
        · split at h
          · next hshown =>
            cases h
            refine not_isUnfit_of_orBreakOff (not_isUnfit_of_showable ?_) hshown
            exact Json.payloadIssues_eq_nil_iff.mpr hmetadata
          · cases h

theorem not_isUnfit_of_findReward {id : Id} (h : books.findReward id = .error failure) :
    ¬failure.IsUnfit := by
  unfold findReward at h
  split at h
  · cases h
  · exact not_isUnfit_refuse h

theorem not_isUnfit_of_checkTotal {reward : Reward} {edit : Edit Int}
    (h : checkTotal reward edit = .error failure) : ¬failure.IsUnfit := by
  unfold checkTotal at h
  split at h
  · cases h
  · exact not_isUnfit_refuse h
  · split at h
    · exact not_isUnfit_refuse h
    · cases h

theorem not_isUnfit_of_editExpiry {old : Option Instant} {edit : Edit Timestamp}
    (h : editExpiry old edit = .error failure) : ¬failure.IsUnfit := by
  cases edit with
  | keep | clear => cases h
  | set date =>
    exact Timestamp.not_isUnfit_of_stored? (t := some date) h

theorem not_isUnfit_of_updateReward {id : Id} {patch : RewardPatch} {actor : String}
    (hshaped : ∀ r ∈ books.rewards.rows, r.IsShaped)
    (hpatch : ∀ value, patch.metadata = .set value → value.isObject = true)
    (h : books.updateReward s id patch actor = .error failure) : ¬failure.IsUnfit := by
  unfold updateReward at h
  split at h
  · next hfound =>
    cases h
    exact not_isUnfit_of_findReward hfound
  · next reward hfound =>
    split at h
    · next htotal =>
      cases h
      exact not_isUnfit_of_checkTotal htotal
    · split at h
      · next hexpiry =>
        cases h
        exact not_isUnfit_of_editExpiry hexpiry
      · next expiryDate _ =>
        split at h
        · cases h
          exact not_false
        · split at h
          · cases h
            exact not_false
          · dsimp only at h
            split at h
            · next hshown =>
              cases h
              refine not_isUnfit_of_orBreakOff (not_isUnfit_of_showable ?_) hshown
              have hmem := Table.mem_of_find?_eq_some (findReward_eq_ok hfound)
              exact Json.payloadIssues_eq_nil_iff.mpr
                (Reward.isObjectOrNull_patched (hshaped reward hmem).isObjectOrNull hpatch
                  expiryDate actor)
            · cases h

theorem not_isUnfit_of_participate {eventId : Id} {userId : String}
    {verificationData additionalData : Json} {now : Instant}
    (hverification : verificationData.isObjectOrNull = true)
    (hadditional : additionalData.isObjectOrNull = true)
    (h : books.participate s eventId userId verificationData additionalData now = .error failure) :
    ¬failure.IsUnfit := by
  unfold participate at h
  split at h
  · next hfound =>
    cases h
    exact not_isUnfit_of_findEvent hfound
  · dsimp only at h
    split at h
    · exact not_isUnfit_refuse h
    · split at h
      · exact not_isUnfit_refuse h
      · split at h
        · exact not_isUnfit_refuse h
        · split at h
          · exact not_isUnfit_refuse h
          · split at h
            · exact not_isUnfit_refuse h
            · split at h
              · next hshown =>
                cases h
                refine not_isUnfit_of_orBreakOff (not_isUnfit_of_showable ?_) hshown
                refine List.append_eq_nil_iff.mpr ⟨?_, ?_⟩
                · exact Json.payloadIssues_eq_nil_iff.mpr
                    (Json.isObjectOrNull_orEmpty hverification)
                · exact Json.payloadIssues_eq_nil_iff.mpr
                    (Json.isObjectOrNull_orEmpty hadditional)
              · cases h

/-! ### Moving and making requests -/

section Requests
variable {request : RewardRequest} {operator reason : Option String} {now : Instant}

theorem not_isUnfit_of_issueOne {reward : Reward} (hreward : reward.IsShaped)
    (h : books.issueOne s request operator now reward = .error failure) : ¬failure.IsUnfit := by
  have hcopy : Metadata.copy reward.metadata = .ok { content := reward.metadata } := by
    have hobject := hreward.isObjectOrNull
    unfold Metadata.copy
    rw [if_pos]
    cases hmetadata : reward.metadata with
    | obj | null => rfl
    | bool | int | double | str | arr =>
      rw [hmetadata] at hobject
      cases hobject
  unfold issueOne at h
  rw [hcopy] at h
  split at h
  · exact not_isUnfit_refuse h
  · dsimp only at h
    split at h
    · exact not_isUnfit_refuse h
    · split at h
      · next hshown =>
        cases h
        refine not_isUnfit_of_orBreakOff (not_isUnfit_of_showable ?_) hshown
        exact Json.payloadIssues_eq_nil_iff.mpr hreward.isObjectOrNull
      · cases h

theorem not_isUnfit_of_issueEach {ids : List Id} (hshaped : ∀ r ∈ books.rewards.rows, r.IsShaped)
    (h : issueEach s request operator now books ids = .error failure) : ¬failure.IsUnfit := by
  induction ids generalizing books with
  | nil => cases h
  | cons id rest ih =>
    rw [issueEach] at h
    split at h
    · exact ih hshaped h
    · next reward hreward =>
      split at h
      · next hone =>
        cases h
        exact not_isUnfit_of_issueOne (hshaped reward (Table.mem_of_find?_eq_some hreward)) hone
      · next first hone =>
        obtain ⟨-, -, hbooks, -⟩ := issueOne_eq_ok hone
        have hfirst : ∀ r ∈ first.books.rewards.rows, r.IsShaped := by
          rw [hbooks]
          exact shaped_withGrant hshaped
        split at h
        · next hothers =>
          cases h
          exact ih hfirst hothers
        · cases h

theorem not_isUnfit_of_requestMoved {logType : LogType} {old new : RewardRequest}
    {more : List (String × Json)}
    (h : requestMoved logType operator old new more = .error failure) : ¬failure.IsUnfit := by
  unfold requestMoved at h
  split at h
  · next hfirst =>
    cases h
    exact not_isUnfit_of_orBreakOff (fun _ => RewardRequest.not_isUnfit_of_firstReward) hfirst
  · split at h
    · next hitems =>
      cases h
      exact not_isUnfit_of_orBreakOff (fun _ => RewardRequest.not_isUnfit_of_items) hitems
    · cases h

theorem not_isUnfit_of_approveRequest (hshaped : ∀ r ∈ books.rewards.rows, r.IsShaped)
    (h : books.approveRequest s request operator now = .error failure) : ¬failure.IsUnfit := by
  unfold approveRequest at h
  split at h
  · next hissued =>
    cases h
    unfold issueRequest at hissued
    split at hissued
    · next hwanted =>
      cases hissued
      exact RewardRequest.not_isUnfit_of_wanted hwanted
    · split at hissued
      · exact not_isUnfit_refuse hissued
      · split at hissued
        · next heach =>
          cases hissued
          exact not_isUnfit_of_issueEach hshaped heach
        · split at hissued
          · exact not_isUnfit_refuse hissued
          · cases hissued
  · dsimp only at h
    split at h
    · next hnote =>
      cases h
      exact not_isUnfit_of_requestMoved hnote
    · cases h

theorem not_isUnfit_of_settleRequest {settled : RewardRequest} {logType : LogType}
    {more : List (String × Json)}
    (h : books.settleRequest s request settled logType operator more = .error failure) :
    ¬failure.IsUnfit := by
  unfold settleRequest at h
  split at h
  · next hnote =>
    cases h
    exact not_isUnfit_of_requestMoved hnote
  · cases h

theorem not_isUnfit_of_transition {id : Id} {target : RequestStatus}
    (hshaped : ∀ r ∈ books.rewards.rows, r.IsShaped)
    (h : books.transition s id target operator reason now = .error failure) : ¬failure.IsUnfit := by
  unfold transition at h
  split at h
  · exact not_isUnfit_refuse h
  · split at h
    · next hfound =>
      cases h
      unfold findRequest at hfound
      split at hfound
      · cases hfound
      · exact not_isUnfit_refuse hfound
    · split at h
      · cases h
      · split at h
        · exact not_isUnfit_refuse h
        · unfold moveRequest at h
          split at h
          · exact not_isUnfit_of_approveRequest hshaped h
          · exact not_isUnfit_of_settleRequest h
          · exact not_isUnfit_of_settleRequest h
          · exact not_isUnfit_of_settleRequest h
          · cases h
          · cases h

theorem not_isUnfit_of_createRequest {eventId : Id} {spellings : List IdSpelling} {userId : String}
    {verificationData : Json} {rival : Option Claim}
    (hshaped : ∀ r ∈ books.rewards.rows, r.IsShaped)
    (h : books.createRequest s eventId spellings userId verificationData now rival =
      .error failure) : ¬failure.IsUnfit := by
  unfold createRequest at h
  split at h
  · next hadmit =>
    cases h
    unfold admitRequest at hadmit
    split at hadmit
    · next hfound =>
      cases hadmit
      exact not_isUnfit_of_findEvent hfound
    · split at hadmit
      · cases hadmit
        exact not_false
      · repeat' split at hadmit
        all_goals first | exact not_isUnfit_refuse hadmit | cases hadmit
  · split at h
    · exact not_isUnfit_refuse h
    · next raced hrace =>
      have hraced : ∀ r ∈ raced.rewards.rows, r.IsShaped := by
        have : Raced books rival raced := by
          cases rival with
          | none => exact (Option.some.inj hrace).symm
          | some claim => exact hrace
        rwa [this.rewards_eq]
      unfold fileRequest at h
      split at h
      · next hwrite =>
        cases h
        unfold writeRequest at hwrite
        dsimp only at hwrite
        split at hwrite
        · exact not_isUnfit_refuse hwrite
        · cases hwrite
      · next filed hfiled =>
        split at h
        · unfold approveAtOnce at h
          split at h
          · cases h
          · cases h
          · next htransition =>
            cases h
            refine not_isUnfit_of_transition ?_ htransition
            rwa [(writeRequest_eq_ok hfiled).stock_eq.1]
        · cases h

end Requests

end Books

open Books

/-! ### The actions -/

namespace Action

/-- **The action writes a row** in the name of a caller, and answers with it. -/
def Writing : Action → Prop
  | .createEvent _ _ | .updateEvent _ _ _ | .createReward _ _ | .updateReward _ _ _ => True
  | .participate _ _ _ _ _ | .createRequest _ _ _ _ _ _ | .transition _ _ _ _ _ => True
  | _ => False

/-- **The action changes a crowded event**: one with more participants than 64 bits count. -/
def Crowded (books : Books) : Action → Prop
  | .updateEvent id _ _ =>
    ∃ e, books.events.find? id = some e ∧ fits64 e.participantCount = false
  | _ => False

theorem settle_eq_error {α : Type} {s : Session} {db : Database} {reply : α → Reply}
    {result : Except Failure (Outcome α)} {failure : Failure}
    (h : settle s db reply result = .error failure) : result = .error failure := by
  cases result with
  | ok outcome => cases h
  | error found => exact congrArg _ (Except.error.inj h)

variable {s : Session} {db : Database} {action : Action}

/-- **An action that fails finds no issue** in what it would have answered, unless it changes a
crowded event. -/
theorem Writing.not_isUnfit (hwriting : action.Writing) (hformed : action.IsFormed)
    (hshaped : db.books.Shaped) (hcrowded : ¬action.Crowded db.books) {failure : Failure}
    (h : action.perform s db = .error failure) : ¬failure.IsUnfit := by
  cases action with
  | createEvent draft actor =>
    exact not_isUnfit_of_createEvent (EventDraft.isObject_conditionValue hformed.1)
      (settle_eq_error h)
  | updateEvent id patch actor =>
    refine not_isUnfit_of_updateEvent hshaped.events (fun e he => ?_)
      (EventPatch.isObject_conditionValue hformed.1) (settle_eq_error h)
    by_contra hfits
    exact hcrowded ⟨e, he, by simpa using hfits⟩
  | createReward draft actor =>
    exact not_isUnfit_of_createReward (RewardDraft.isObjectOrNull_metadata hformed.1)
      (settle_eq_error h)
  | updateReward id patch actor =>
    exact not_isUnfit_of_updateReward hshaped.rewards (RewardPatch.isObject_metadata hformed.1)
      (settle_eq_error h)
  | participate eventId userId verificationData additionalData now =>
    exact not_isUnfit_of_participate hformed.2.1 hformed.2.2 (settle_eq_error h)
  | createRequest eventId spellings userId verificationData now rival =>
    exact not_isUnfit_of_createRequest hshaped.rewards (settle_eq_error h)
  | transition id target operator reason now =>
    exact not_isUnfit_of_transition hshaped.rewards (settle_eq_error h)
  | _ => exact hwriting.elim

end Action

end Promotions
