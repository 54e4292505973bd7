import Promotions.Action
import Promotions.Proofs.Granting
import Promotions.Proofs.Spelling

/-!
# What a successful action writes

`Change s books action after notes` says that an action which succeeds takes the books to `after`
and leaves `notes` for the journal. It has one case for each way in which an action can write, and
each case carries what the operation has checked. `perform_eq_ok` inverts the actions into it, and
with that says how the journal grows; what a run keeps is then proved by cases on a change.
-/

namespace Promotions

namespace Books

/-! ### Filing a request -/

/-- No two claims of the list hold the same reward for the same user, nor does one of them and a
claim of the books. -/
structure Unrivalled (books : Books) (claims : List Claim) : Prop where
  held : ∀ claim ∈ claims, ∀ other ∈ books.claims, claim.rivals other = false
  listed : claims.Pairwise fun a b => b.rivals a = false

theorem addClaim?_eq_some {books after : Books} {claim : Claim}
    (h : books.addClaim? claim = some after) :
    after = { books with claims := books.claims ++ [claim] } ∧
      ∀ other ∈ books.claims, claim.rivals other = false := by
  unfold addClaim? at h
  split at h
  · cases h
  · next hany =>
    refine ⟨(Option.some.inj h).symm, fun other hother => ?_⟩
    simp only [List.any_eq_true, not_exists, not_and, Bool.not_eq_true] at hany
    exact hany other hother

theorem addClaim?_of_new {books : Books} {claim : Claim}
    (h : ∀ other ∈ books.claims, claim.rivals other = false) :
    books.addClaim? claim = some { books with claims := books.claims ++ [claim] } := by
  unfold addClaim?
  rw [if_neg]
  simpa using h

theorem addClaims?_eq_some {claims : List Claim} {books after : Books}
    (h : books.addClaims? claims = some after) :
    after = { books with claims := books.claims ++ claims } ∧ books.Unrivalled claims := by
  induction claims generalizing books with
  | nil =>
    cases Option.some.inj h
    exact ⟨by simp, by simp, .nil⟩
  | cons claim rest ih =>
    rw [addClaims?] at h
    obtain ⟨added, hadded, hrest⟩ := Option.bind_eq_some_iff.mp h
    obtain ⟨rfl, hheld⟩ := addClaim?_eq_some hadded
    obtain ⟨rfl, htail⟩ := ih hrest
    refine ⟨by simp, ?_, ?_⟩
    · intro c hc other hother
      rcases List.mem_cons.mp hc with rfl | hc
      · exact hheld other hother
      · exact htail.held c hc other (by simp [hother])
    · exact .cons (fun c hc => htail.held c hc claim (by simp)) htail.listed

theorem addClaims?_of_unrivalled {claims : List Claim} {books : Books}
    (h : books.Unrivalled claims) :
    books.addClaims? claims = some { books with claims := books.claims ++ claims } := by
  induction claims generalizing books with
  | nil => simp [addClaims?]
  | cons claim rest ih =>
    obtain ⟨hfirst, hrest⟩ := List.pairwise_cons.mp h.listed
    rw [addClaims?, addClaim?_of_new (h.held claim List.mem_cons_self), Option.bind_some,
      ih ⟨fun c hc other hother => ?_, hrest⟩]
    · simp
    · rcases List.mem_append.mp hother with hother | hother
      · exact h.held c (List.mem_cons_of_mem _ hc) other hother
      · rw [List.mem_singleton.mp hother]
        exact hfirst c hc

/-- **A request is written**: the row, its claims, and the link from the participation. -/
structure Filing (s : Session) (books : Books) (event : Event) (rewards : List Id)
    (userId : String) (verificationData : Json) (now : Instant) (request : RewardRequest)
    (after : Books) (notes : List Note) : Prop where
  request_eq : request = RewardRequest.filed books.requests.nextId event.id
    (rewards.map fun id => .str id.text) userId verificationData now s.stamp
  unrivalled : books.Unrivalled (claimsFor request.id event.id userId s.stamp rewards)
  after_eq : after =
    ({ books with
        requests := books.requests.push request
        claims := books.claims ++ claimsFor request.id event.id userId s.stamp rewards } :
      Books).linkParticipation request now
  notes_eq : notes = [requestNote .rewardRequested (some userId) request rewards.head?
    (rewards.map fun id => .str id.text) []]

theorem writeRequest_eq_ok {s : Session} {books : Books} {event : Event} {rewards : List Id}
    {userId : String} {verificationData : Json} {now : Instant} {o : Outcome RewardRequest}
    (h : books.writeRequest s event rewards userId verificationData now = .ok o) :
    Filing s books event rewards userId verificationData now o.answer o.books o.notes := by
  unfold writeRequest at h
  dsimp only at h
  split at h
  · cases h
  · next added hadded =>
    cases Except.ok.inj h
    obtain ⟨rfl, hunrivalled⟩ := addClaims?_eq_some hadded
    exact ⟨rfl, ⟨hunrivalled.held, hunrivalled.listed⟩, rfl, rfl⟩

theorem Filing.writeRequest_eq {s : Session} {books after : Books} {event : Event}
    {rewards : List Id} {userId : String} {verificationData : Json} {now : Instant}
    {request : RewardRequest} {notes : List Note}
    (h : Filing s books event rewards userId verificationData now request after notes) :
    books.writeRequest s event rewards userId verificationData now = .ok
      { answer := request, books := after, notes } := by
  have hadded : { books with requests := books.requests.push request }.addClaims?
      (claimsFor request.id event.id userId s.stamp rewards) = _ :=
    addClaims?_of_unrivalled ⟨h.unrivalled.held, h.unrivalled.listed⟩
  unfold writeRequest
  dsimp only
  rw [← h.request_eq, hadded]
  dsimp only
  rw [h.after_eq, h.notes_eq]

/-- **A request is admitted**: the event, and its rewards that are wanted, each once. -/
structure Admitted (books : Books) (eventId : Id) (spellings : List IdSpelling) (userId : String)
    (verificationData : Json) (now : Instant) (event : Event) (rewards : List Id) : Prop where
  event_found : books.events.find? eventId = some event
  resolved : Id.orderedUnique spellings = .ok rewards
  nonempty : rewards ≠ []
  rewards_found : ∀ id ∈ rewards, ∃ reward, books.rewards.find? id = some reward ∧
    reward.eventId = event.id
  active : event.isActiveAt now = true
  admits : event.admits verificationData now = true
  unclaimed : ∀ claim ∈ books.claims, claim.eventId = event.id → claim.userId = userId →
    claim.rewardId ∉ rewards

theorem findEvent_eq_ok {books : Books} {id : Id} {event : Event}
    (h : books.findEvent id = .ok event) : books.events.find? id = some event := by
  unfold findEvent at h
  split at h
  · next found hfind => rw [hfind, Except.ok.inj h]
  · cases h

theorem findReward_eq_ok {books : Books} {id : Id} {reward : Reward}
    (h : books.findReward id = .ok reward) : books.rewards.find? id = some reward := by
  unfold findReward at h
  split at h
  · next found hfind => rw [hfind, Except.ok.inj h]
  · cases h

theorem findGrant_eq_ok {books : Books} {id : Id} {grant : Grant}
    (h : books.findGrant id = .ok grant) : books.grants.find? id = some grant := by
  unfold findGrant at h
  split at h
  · next found hfind => rw [hfind, Except.ok.inj h]
  · cases h

theorem addParticipation?_eq_some {books after : Books} {participation : Participation}
    (h : books.addParticipation? participation = some after) :
    after = { books with participations := books.participations.push participation } ∧
      ∀ key, participation.dedupeKey = some key →
        ∀ p ∈ books.participations.rows, p.dedupeKey ≠ some key := by
  unfold addParticipation? at h
  cases hdedupe : participation.dedupeKey with
  | none =>
    simp only [hdedupe] at h
    exact ⟨(Option.some.inj h).symm, by simp⟩
  | some key =>
    simp only [hdedupe] at h
    split at h
    · cases h
    · next htaken =>
      refine ⟨(Option.some.inj h).symm, fun key' hkey p hp heq => htaken ?_⟩
      cases Option.some.inj hkey
      simp only [Table.any, List.any_eq_true, decide_eq_true_eq]
      exact ⟨p, hp, heq⟩

theorem admitRequest_eq_ok {books : Books} {eventId : Id} {spellings : List IdSpelling}
    {userId : String} {verificationData : Json} {now : Instant} {event : Event} {rewards : List Id}
    (h : books.admitRequest eventId spellings userId verificationData now = .ok (event, rewards)) :
    Admitted books eventId spellings userId verificationData now event rewards := by
  unfold admitRequest at h
  split at h
  · cases h
  · next found hevent =>
    split at h
    · cases h
    · next ids hids =>
      split at h
      · cases h
      · next hempty =>
        split at h
        · cases h
        · next hrewards =>
          split at h
          · cases h
          · next hactive =>
            split at h
            · cases h
            · next hadmits =>
              split at h
              · cases h
              · next hclaimed =>
                cases Except.ok.inj h
                simp only [Bool.not_eq_true', Bool.not_eq_false, List.all_eq_true,
                  Option.any_eq_true_iff_get, decide_eq_true_eq] at hrewards hactive hadmits
                simp only [List.any_eq_true, Bool.and_eq_true, decide_eq_true_eq,
                  List.contains_iff_mem, not_exists, not_and] at hclaimed
                refine ⟨findEvent_eq_ok hevent, hids, by simpa using hempty, fun id hid => ?_,
                  hactive, hadmits, fun claim hclaim he hu => hclaimed claim hclaim ⟨he, hu⟩⟩
                obtain ⟨hsome, heq⟩ := hrewards id hid
                exact ⟨_, (Option.some_get hsome).symm, heq⟩

theorem Admitted.admitRequest_eq {books : Books} {eventId : Id} {spellings : List IdSpelling}
    {userId : String} {verificationData : Json} {now : Instant} {event : Event} {rewards : List Id}
    (h : Admitted books eventId spellings userId verificationData now event rewards) :
    books.admitRequest eventId spellings userId verificationData now = .ok (event, rewards) := by
  have hfind : books.findEvent eventId = .ok event := by
    unfold findEvent
    rw [h.event_found]
  have hrewards : (rewards.all fun id => (books.rewards.find? id).any (·.eventId = event.id)) =
      true := by
    refine List.all_eq_true.mpr fun id hid => ?_
    obtain ⟨reward, hreward, hevent⟩ := h.rewards_found id hid
    simp [hreward, hevent]
  have hclaims : ¬(books.claims.any fun claim => claim.eventId = event.id &&
      claim.userId = userId && rewards.contains claim.rewardId) = true := by
    simp only [List.any_eq_true, Bool.and_eq_true, decide_eq_true_eq, List.contains_iff_mem,
      not_exists, not_and]
    exact fun claim hclaim he => h.unclaimed claim hclaim he.1 he.2
  unfold admitRequest
  rw [hfind]
  dsimp only
  rw [h.resolved]
  dsimp only
  rw [if_neg (by simpa using h.nonempty), if_neg (by simp [hrewards]), if_neg (by simp [h.active]),
    if_neg (by simp [h.admits]), if_neg hclaims]

end Books

open Books

/-- The books once a rival claim, if there is one, has appeared. -/
def Raced (books : Books) : Option Claim → Books → Prop
  | none, raced => raced = books
  | some claim, raced => books.addClaim? claim = some raced

/-- **Making a request**: it is admitted, a rival claim may appear, it is filed, and it is approved
at once if the event says so. -/
theorem Books.createRequest_eq_ok {s : Session} {books : Books} {eventId : Id}
    {spellings : List IdSpelling} {userId : String} {verificationData : Json} {now : Instant}
    {rival : Option Claim} {o : Outcome RewardRequest}
    (h : books.createRequest s eventId spellings userId verificationData now rival = .ok o) :
    ∃ event rewards raced filed,
      Admitted books eventId spellings userId verificationData now event rewards ∧
        Raced books rival raced ∧
        Filing s raced event rewards userId verificationData now filed.answer filed.books
          filed.notes ∧
        (if event.autoReward then approveAtOnce s filed else .ok filed) = .ok o := by
  unfold createRequest at h
  split at h
  · cases h
  · next event rewards hadmit =>
    split at h
    · cases h
    · next raced hrace =>
      have hraced : Raced books rival raced := by
        cases rival with
        | none => exact (Option.some.inj hrace).symm
        | some claim => exact hrace
      unfold fileRequest at h
      split at h
      · cases h
      · next filed hfiled =>
        exact ⟨event, rewards, raced, filed, admitRequest_eq_ok hadmit, hraced,
          writeRequest_eq_ok hfiled, h⟩

theorem Books.Filing.createRequest_eq {s : Session} {books raced filed : Books} {eventId : Id}
    {spellings : List IdSpelling} {userId : String} {verificationData : Json} {now : Instant}
    {rival : Option Claim} {event : Event} {rewards : List Id} {request : RewardRequest}
    {notes : List Note}
    (h : Filing s raced event rewards userId verificationData now request filed notes)
    (hraced : Raced books rival raced)
    (hadmitted : Admitted books eventId spellings userId verificationData now event rewards) :
    books.createRequest s eventId spellings userId verificationData now rival =
      if event.autoReward then approveAtOnce s { answer := request, books := filed, notes }
      else .ok { answer := request, books := filed, notes } := by
  unfold createRequest fileRequest
  rw [hadmitted.admitRequest_eq]
  cases rival with
  | none =>
    cases hraced
    dsimp only
    rw [h.writeRequest_eq]
  | some claim =>
    dsimp only
    rw [show books.addClaim? claim = some raced from hraced]
    dsimp only
    rw [h.writeRequest_eq]

/-- **What a successful action writes**, and the notes that it leaves. -/
inductive Change (s : Session) (books : Books) : Action → Books → List Note → Prop
  /-- A look-up, or a change that asks for what is so already. -/
  | nothing (action : Action) : Change s books action books []
  /-- A note is written by itself. -/
  | noted (note : Note) : Change s books (.record (some note)) books [note]
  /-- An event is added. -/
  | eventMade {draft : EventDraft} {actor : String} {startDate endDate : Instant} {event : Event}
      {view : Json} (hstart : draft.startDate.stored = .ok startDate)
      (hend : draft.endDate.stored = .ok endDate) (hwindow : startDate < endDate)
      (hevent : event = .ofDraft books.events.nextId draft startDate endDate actor s.stamp)
      (hview : event.shown = .ok view) :
      Change s books (.createEvent draft actor)
        { books with events := books.events.push event } [eventCreated event view actor]
  /-- An event is edited. -/
  | eventEdited {id : Id} {patch : EventPatch} {actor : String} {old new : Event}
      {startDate endDate : Instant} {view : Json} (hold : books.events.find? id = some old)
      (hstart : editDate "start_date" old.startDate patch.startDate = .ok startDate)
      (hend : editDate "end_date" old.endDate patch.endDate = .ok endDate)
      (hwindow : startDate < endDate) (hclear : patch.clearsColumn = false)
      (hnew : new = old.restamped (old.patched patch startDate endDate actor) s.stamp)
      (hview : new.shown = .ok view) :
      Change s books (.updateEvent id patch actor)
        { books with events := books.events.put (old.stored new) }
        (eventStatusChanged old new actor ++ [eventUpdated new view patch.changes actor])
  /-- A reward is added to an event. -/
  | rewardMade {draft : RewardDraft} {actor : String} {event : Event}
      {expiryDate : Option Instant} {reward : Reward} {view : Json}
      (hevent : books.events.find? draft.eventId = some event)
      (hexpiry : Timestamp.stored? draft.expiryDate = .ok expiryDate)
      (hreward : reward =
        .ofDraft books.rewards.nextId event.id draft expiryDate actor s.stamp)
      (hstock : stockOk reward = true) (hview : reward.shown = .ok view) :
      Change s books (.createReward draft actor)
        { books with rewards := books.rewards.push reward } [rewardCreated reward view actor]
  /-- A reward is edited. -/
  | rewardEdited {id : Id} {patch : RewardPatch} {actor : String} {old new : Reward}
      {expiryDate : Option Instant} {view : Json} (hold : books.rewards.find? id = some old)
      (htotal : checkTotal old patch.totalQuantity = .ok ())
      (hexpiry : editExpiry old.expiryDate patch.expiryDate = .ok expiryDate)
      (hclear : patch.clearsColumn = false)
      (hnew : new = old.restamped (old.patched patch expiryDate actor) s.stamp)
      (hview : new.shown = .ok view) :
      Change s books (.updateReward id patch actor)
        { books with rewards := books.rewards.put (old.stored new) }
        [rewardUpdated new view patch.changes actor]
  /-- A user takes part in an event. -/
  | tookPart {eventId : Id} {userId : String} {verificationData additionalData : Json}
      {now : Option Instant} {event : Event} {previous : Nat} {participation : Participation}
      {view : Json} (hevent : books.events.find? eventId = some event)
      (hactive : event.isActiveAt (now.getD s.clock) = true)
      (hadmits : event.admits verificationData (now.getD s.clock) = true)
      (hprevious : previous = (books.participationsOf event.id userId).length)
      (hmultiple : previous ≠ 0 → event.allowMultiple = true)
      (hlimit : ∀ limit, event.maxParticipants = some limit → event.participantCount < limit)
      (hparticipation : participation = .ofUser books.participations.nextId event userId
        verificationData additionalData previous (now.getD s.clock))
      (hkey : ∀ key, participation.dedupeKey = some key →
        ∀ p ∈ books.participations.rows, p.dedupeKey ≠ some key)
      (hview : participation.shown = .ok view) :
      Change s books (.participate eventId userId verificationData additionalData now)
        (({ books with participations := books.participations.push participation } :
          Books).countParticipant event.id s.stamp)
        [eventParticipated event userId view]
  /-- A request is filed. -/
  | filed {eventId : Id} {spellings : List IdSpelling} {userId : String} {verificationData : Json}
      {now : Option Instant} {rival : Option Claim} {raced after : Books} {event : Event}
      {rewards : List Id} {request : RewardRequest} {notes : List Note}
      (hadmitted : Admitted books eventId spellings userId verificationData (now.getD s.clock) event
        rewards)
      (hraced : Raced books rival raced)
      (hfiling : Filing s raced event rewards userId verificationData (now.getD s.clock) request
        after notes) :
      Change s books (.createRequest eventId spellings userId verificationData now rival) after
        notes
  /-- A request is filed and approved at once. -/
  | filedAndApproved {eventId : Id} {spellings : List IdSpelling} {userId : String}
      {verificationData : Json} {now : Option Instant} {rival : Option Claim}
      {raced filed after : Books} {event : Event} {rewards : List Id}
      {request found : RewardRequest} {notes more : List Note}
      (hadmitted : Admitted books eventId spellings userId verificationData (now.getD s.clock) event
        rewards)
      (hraced : Raced books rival raced)
      (hfiling : Filing s raced event rewards userId verificationData (now.getD s.clock) request
        filed notes)
      (hauto : event.autoReward = true) (hfound : filed.requests.find? request.id = some found)
      (hmay : found.status.mayBecome .approved = true)
      (hmoving : Moving s filed found (some s.systemOperator) none s.clock .approved after more) :
      Change s books (.createRequest eventId spellings userId verificationData now rival) after
        (notes ++ more)
  /-- A request is moved to another status. -/
  | moved {id : Id} {target : RequestStatus} {operator reason : Option String}
      {now : Option Instant} {request : RewardRequest} {after : Books} {notes : List Note}
      (hfound : books.requests.find? id = some request)
      (hmay : request.status.mayBecome target = true)
      (hmoving : Moving s books request operator reason (now.getD s.clock) target after notes) :
      Change s books (.transition id target operator reason now) after notes
  /-- A request is cancelled by its user. -/
  | cancelled {id : Id} {userId : String} {request : RewardRequest} {after : Books}
      {notes : List Note} (hfound : books.requests.find? id = some request)
      (huser : request.userId = userId) (hmay : request.status.mayBecome .cancelled = true)
      (hmoving : Moving s books request (some userId) none s.clock .cancelled after notes) :
      Change s books (.cancelRequest id userId) after notes
  /-- The rewards of a request are granted without a change of its status. -/
  | issued {id : Id} {operator : Option String} {now : Option Instant} {request : RewardRequest}
      {ids : List Id} {after : Books} {grants : List Grant} {notes : List Note}
      (hfound : books.requests.find? id = some request)
      (hopen : request.status ≠ .approved ∧ request.status ≠ .issued)
      (hwanted : request.wanted = .ok ids)
      (hgranting : Granting s request operator (now.getD s.clock) books ids after grants notes) :
      Change s books (.issue id operator now) after notes
  /-- A grant is used. -/
  | used {id : Id} {userId : String} {now : Option Instant} {grant : Grant}
      (hfound : books.grants.find? id = some grant) (huser : grant.userId = userId)
      (hactive : grant.status = .active) (hpast : grant.isPast (now.getD s.clock) = false) :
      Change s books (.useGrant id userId now)
        { books with grants := books.grants.put (grant.used (now.getD s.clock)) }
        [rewardUsed grant userId]
  /-- Grants expire. -/
  | expired (now : Option Instant) :
      Change s books (.expireGrants now) (books.expireGrants (now.getD s.clock)).books []

namespace Action

/-! ### The operations, inverted -/

section Operations
variable {s : Session} {books : Books}

theorem createEvent_change {draft : EventDraft} {actor : String} {o : Outcome Event}
    (h : books.createEvent s draft actor = .ok o) :
    Change s books (.createEvent draft actor) o.books o.notes := by
  unfold Books.createEvent at h
  split at h
  · cases h
  · next startDate hstart =>
    split at h
    · cases h
    · next endDate hend =>
      split at h
      · cases h
      · next hwindow =>
        split at h
        · cases h
        · dsimp only at h
          split at h
          · cases h
          · next view hview =>
            cases Except.ok.inj h
            have hlt : startDate < endDate := Int.not_le.mp hwindow
            exact .eventMade hstart hend hlt rfl (orBreakOff_eq_ok hview)

/-- **Editing an event**: its new version is answered, and stored but for what is loosely
the same. -/
theorem updateEvent_eq_ok {id : Id} {patch : EventPatch} {actor : String} {o : Outcome Event}
    (h : books.updateEvent s id patch actor = .ok o) :
    ∃ old startDate endDate view, books.events.find? id = some old ∧
      editDate "start_date" old.startDate patch.startDate = .ok startDate ∧
      editDate "end_date" old.endDate patch.endDate = .ok endDate ∧ startDate < endDate ∧
      patch.clearsColumn = false ∧
      o.answer = old.restamped (old.patched patch startDate endDate actor) s.stamp ∧
      o.answer.shown = .ok view ∧
      o.books = { books with events := books.events.put (old.stored o.answer) } ∧
      o.notes = eventStatusChanged old o.answer actor ++
        [eventUpdated o.answer view patch.changes actor] := by
  unfold Books.updateEvent at h
  split at h
  · cases h
  · next old hold =>
    split at h
    · cases h
    · next startDate hstart =>
      split at h
      · cases h
      · next endDate hend =>
        split at h
        · cases h
        · next hwindow =>
          split at h
          · cases h
          · split at h
            · cases h
            · next hclear =>
              dsimp only at h
              split at h
              · cases h
              · next view hview =>
                cases Except.ok.inj h
                exact ⟨old, startDate, endDate, view, findEvent_eq_ok hold, hstart, hend,
                  Int.not_le.mp hwindow, by simpa using hclear, rfl, orBreakOff_eq_ok hview, rfl, rfl⟩

theorem updateEvent_change {id : Id} {patch : EventPatch} {actor : String} {o : Outcome Event}
    (h : books.updateEvent s id patch actor = .ok o) :
    Change s books (.updateEvent id patch actor) o.books o.notes := by
  obtain ⟨old, startDate, endDate, view, hold, hstart, hend, hwindow, hclear, hnew, hview, hbooks,
    hnotes⟩ := updateEvent_eq_ok h
  rw [hbooks, hnotes]
  exact .eventEdited hold hstart hend hwindow hclear hnew hview

theorem createReward_change {draft : RewardDraft} {actor : String} {o : Outcome Reward}
    (h : books.createReward s draft actor = .ok o) :
    Change s books (.createReward draft actor) o.books o.notes := by
  unfold Books.createReward at h
  split at h
  · cases h
  · next event hevent =>
    split at h
    · cases h
    · next expiryDate hexpiry =>
      split at h
      · cases h
      · dsimp only at h
        split at h
        · cases h
        · next hstock =>
          split at h
          · cases h
          · next view hview =>
            cases Except.ok.inj h
            exact .rewardMade (findEvent_eq_ok hevent) hexpiry rfl (by simpa using hstock)
              (orBreakOff_eq_ok hview)

/-- **Editing a reward**: its new version is answered, and stored but for what is loosely
the same. -/
theorem updateReward_eq_ok {id : Id} {patch : RewardPatch} {actor : String} {o : Outcome Reward}
    (h : books.updateReward s id patch actor = .ok o) :
    ∃ old expiryDate view, books.rewards.find? id = some old ∧
      checkTotal old patch.totalQuantity = .ok () ∧
      editExpiry old.expiryDate patch.expiryDate = .ok expiryDate ∧ patch.clearsColumn = false ∧
      o.answer = old.restamped (old.patched patch expiryDate actor) s.stamp ∧
      o.answer.shown = .ok view ∧
      o.books = { books with rewards := books.rewards.put (old.stored o.answer) } ∧
      o.notes = [rewardUpdated o.answer view patch.changes actor] := by
  unfold Books.updateReward at h
  split at h
  · cases h
  · next old hold =>
    split at h
    · cases h
    · next htotal =>
      split at h
      · cases h
      · next expiryDate hexpiry =>
        split at h
        · cases h
        · split at h
          · cases h
          · next hclear =>
            dsimp only at h
            split at h
            · cases h
            · next view hview =>
              cases Except.ok.inj h
              exact ⟨old, expiryDate, view, findReward_eq_ok hold, htotal, hexpiry,
                by simpa using hclear, rfl, orBreakOff_eq_ok hview, rfl, rfl⟩

theorem updateReward_change {id : Id} {patch : RewardPatch} {actor : String} {o : Outcome Reward}
    (h : books.updateReward s id patch actor = .ok o) :
    Change s books (.updateReward id patch actor) o.books o.notes := by
  obtain ⟨old, expiryDate, view, hold, htotal, hexpiry, hclear, hnew, hview, hbooks, hnotes⟩ :=
    updateReward_eq_ok h
  rw [hbooks, hnotes]
  exact .rewardEdited hold htotal hexpiry hclear hnew hview

theorem participate_change {eventId : Id} {userId : String} {verificationData additionalData : Json}
    {now : Option Instant} {o : Outcome Participation}
    (h : books.participate s eventId userId verificationData additionalData (now.getD s.clock) =
      .ok o) :
    Change s books (.participate eventId userId verificationData additionalData now) o.books
      o.notes := by
  unfold Books.participate at h
  split at h
  · cases h
  · next event hevent =>
    dsimp only at h
    split at h
    · cases h
    · next hactive =>
      split at h
      · cases h
      · next hadmits =>
        split at h
        · cases h
        · next hmultiple =>
          split at h
          · cases h
          · next hlimit =>
            split at h
            · cases h
            · next added hadded =>
              split at h
              · cases h
              · next view hview =>
                cases Except.ok.inj h
                obtain ⟨rfl, hkey⟩ := addParticipation?_eq_some hadded
                refine .tookPart (findEvent_eq_ok hevent) (by simpa using hactive)
                  (by simpa using hadmits) rfl ?_ ?_ rfl hkey (orBreakOff_eq_ok hview)
                · intro hprevious
                  simpa [hprevious] using hmultiple
                · intro limit heq
                  simpa [heq] using hlimit

theorem createRequest_change {eventId : Id} {spellings : List IdSpelling} {userId : String}
    {verificationData : Json} {now : Option Instant} {rival : Option Claim}
    {o : Outcome RewardRequest}
    (h : books.createRequest s eventId spellings userId verificationData (now.getD s.clock) rival =
      .ok o) :
    Change s books (.createRequest eventId spellings userId verificationData now rival) o.books
      o.notes := by
  obtain ⟨event, rewards, raced, filed, hadmitted, hraced, hfiling, h⟩ := createRequest_eq_ok h
  split at h
  · next hauto =>
    unfold approveAtOnce at h
    split at h
    · next approved happroved =>
      cases Except.ok.inj h
      obtain ⟨found, hfound, ⟨-, hbooks, hnotes⟩ | ⟨hmay, hmoving⟩⟩ := transition_eq_ok happroved
      · simp only [hbooks, hnotes, List.append_nil]
        exact .filed hadmitted hraced hfiling
      · exact .filedAndApproved hadmitted hraced hfiling hauto hfound hmay hmoving
    · cases Except.ok.inj h
      exact .filed hadmitted hraced hfiling
    · cases h
  · cases Except.ok.inj h
    exact .filed hadmitted hraced hfiling

theorem transition_change {id : Id} {target : RequestStatus} {operator reason : Option String}
    {now : Option Instant} {o : Outcome RewardRequest}
    (h : books.transition s id target operator reason (now.getD s.clock) = .ok o) :
    Change s books (.transition id target operator reason now) o.books o.notes := by
  obtain ⟨request, hfound, ⟨-, hbooks, hnotes⟩ | ⟨hmay, hmoving⟩⟩ := transition_eq_ok h
  · rw [hbooks, hnotes]
    exact .nothing _
  · exact .moved hfound hmay hmoving

theorem cancelRequest_change {id : Id} {userId : String} {o : Outcome RewardRequest}
    (h : books.cancelRequest s id userId = .ok o) :
    Change s books (.cancelRequest id userId) o.books o.notes := by
  obtain ⟨request, hfound, huser, htransition⟩ := cancelRequest_eq_ok h
  have hid : request.id = id := Table.id_of_find?_eq_some hfound
  obtain ⟨found, hfound', ⟨-, hbooks, hnotes⟩ | ⟨hmay, hmoving⟩⟩ := transition_eq_ok htransition
  · rw [hbooks, hnotes]
    exact .nothing _
  · rw [hid, hfound, Option.some.injEq] at hfound'
    subst hfound'
    exact .cancelled hfound huser hmay hmoving

theorem issue_change {id : Id} {operator : Option String} {now : Option Instant}
    {o : Outcome (List Grant)} (h : books.issue s id operator (now.getD s.clock) = .ok o) :
    Change s books (.issue id operator now) o.books o.notes := by
  unfold Books.issue at h
  split at h
  · cases h
  · next request hfound =>
    split at h
    · cases Except.ok.inj h
      exact .nothing _
    · next hopen =>
      obtain ⟨ids, hwanted, -, hgranting, -⟩ := issueRequest_eq_ok h
      exact .issued (findRequest_eq_ok hfound) (not_or.mp hopen) hwanted hgranting

theorem useGrant_change {id : Id} {userId : String} {now : Option Instant} {o : Outcome Grant}
    (h : books.useGrant id userId (now.getD s.clock) = .ok o) :
    Change s books (.useGrant id userId now) o.books o.notes := by
  unfold Books.useGrant at h
  split at h
  · cases h
  · next grant hfound =>
    split at h
    · cases h
    · next huser =>
      split at h
      · cases h
      · next hactive =>
        split at h
        · cases h
        · next hpast =>
          cases Except.ok.inj h
          exact .used (findGrant_eq_ok hfound) (by simpa using huser) (by simpa using hactive)
            (by simpa using hpast)

end Operations

/-! ### The actions, inverted -/

/-- The books and the journal of a database change as an action writes. -/
def Writes (s : Session) (action : Action) (db after : Database) : Prop :=
  ∃ notes, Change s db.books action after.books notes ∧
    after.journal = db.journal.recordFrom s.clock s.journalAccepts 0 notes

theorem settle_writes {α : Type} {s : Session} {db after : Database} {action : Action}
    {reply : α → Reply} {result : Except Failure (Outcome α)} {answer : Reply}
    (hchange : ∀ o, result = .ok o → Change s db.books action o.books o.notes)
    (h : settle s db reply result = .ok (answer, after)) : action.Writes s db after := by
  unfold settle at h
  split at h
  · next o =>
    cases Except.ok.inj h
    exact ⟨o.notes, hchange o rfl, rfl⟩
  · cases h

theorem found_writes {α : Type} {s : Session} {db after : Database} {action : Action}
    {reply : α → Reply} {result : Except Failure α} {answer : Reply}
    (h : found db reply result = .ok (answer, after)) : action.Writes s db after := by
  unfold found at h
  split at h
  · cases Except.ok.inj h
    exact ⟨[], .nothing action, rfl⟩
  · cases h

theorem answer_writes {s : Session} {db after : Database} {action : Action} {reply answer : Reply}
    (h : (.ok (reply, db) : Except Failure (Reply × Database)) = .ok (answer, after)) :
    action.Writes s db after := by
  cases Except.ok.inj h
  exact ⟨[], .nothing action, rfl⟩

/-- **A successful action** changes the books in one of the listed ways, and appends its notes to
the journal. -/
theorem perform_eq_ok {s : Session} {db after : Database} {action : Action} {reply : Reply}
    (h : action.perform s db = .ok (reply, after)) : action.Writes s db after := by
  cases action with
  | createEvent => exact settle_writes (fun _ => createEvent_change) h
  | updateEvent => exact settle_writes (fun _ => updateEvent_change) h
  | createReward => exact settle_writes (fun _ => createReward_change) h
  | updateReward => exact settle_writes (fun _ => updateReward_change) h
  | participate => exact settle_writes (fun _ => participate_change) h
  | createRequest => exact settle_writes (fun _ => createRequest_change) h
  | transition => exact settle_writes (fun _ => transition_change) h
  | cancelRequest => exact settle_writes (fun _ => cancelRequest_change) h
  | issue => exact settle_writes (fun _ => issue_change) h
  | useGrant => exact settle_writes (fun _ => useGrant_change) h
  | expireGrants now =>
    cases Except.ok.inj h
    exact ⟨[], .expired now, rfl⟩
  | record note =>
    cases note with
    | none => exact answer_writes h
    | some note =>
      simp only [perform] at h
      split at h
      · next haccepts =>
        cases Except.ok.inj h
        exact ⟨[note], .noted note, by simp [Table.recordFrom, haccepts]⟩
      · next haccepts =>
        cases Except.ok.inj h
        exact ⟨[note], .noted note, by simp [Table.recordFrom, haccepts]⟩
  | findEvent | findReward | findRewardsOfEvent | statistics | findRequest | findGrantsOfRequest
  | findGrant | verify | findLogs => exact found_writes h
  | findEvents | findActiveEvents | findRewardsNaming | findParticipationsOfEvent
  | findParticipationsOfUser | findLatestParticipation | findRequests | findRequestsOfUser
  | findGrantsNaming | findGrantsOfUser => exact answer_writes h

end Action

end Promotions
