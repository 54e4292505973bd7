import Promotions.Proofs.AtOnce
import Promotions.Proofs.Renumbering

/-!
# Users do not interfere

What a user asks for touches the rows of nobody else (`Web.others_handle`), and it does not depend
on them either. Two books that are alike for a user are written to in lockstep: taking part and
asking for rewards fail in both with the same failure, or succeed in both with the same answer, and
the books are alike again (`Books.Alike.participate`, `Books.Alike.createRequest`). The rows of
others could show in three places. They could take the key of a participation, but a key names its
user and event. They could be claims on the same reward, but only claims of the user are rivals. And
they could be grants that were given for the request, but nothing was granted for a request that is
just being made.

`users_do_not_interfere` says both of every database that can be reached.
-/

namespace Promotions

/-! ### Results in lockstep -/

/-- **Two results go together**: both are the same failure, or both are values that are related. -/
def Lockstep {α : Type} (R : α → α → Prop) (result result' : Except Failure α) : Prop :=
  (∃ failure, result = .error failure ∧ result' = .error failure) ∨
    ∃ a a', result = .ok a ∧ result' = .ok a' ∧ R a a'

/-- The outcomes have the same answer up to its identifiers, and books that are alike. -/
structure Outcome.Alike {α : Type} (userId : String) (σ : Renumbering) (move : α → α)
    (o o' : Outcome α) : Prop where
  answer : o'.answer = move o.answer
  books : o.books.Alike userId σ o'.books

theorem showable_eq_map (issues : List Issue) (payloads : List Json) (view view' : Json) :
    showable issues payloads view' = (showable issues payloads view).map fun _ => view' := by
  unfold showable
  split_ifs <;> rfl

theorem Grant.checked_renumbered (σ : Renumbering) (copied : Metadata.Copied) (g : Grant) :
    copied.checked (g.renumbered σ).shown =
      (copied.checked g.shown).map fun _ => (g.renumbered σ).view := by
  have hshown : (g.renumbered σ).shown = g.shown.map fun _ => (g.renumbered σ).view :=
    showable_eq_map g.issues [g.metadata] g.view _
  unfold Metadata.Copied.checked
  rw [hshown]
  split_ifs <;> rfl

namespace Books

variable {userId : String} {σ : Renumbering} {s : Session} {books books' : Books}

/-! ### Taking part -/

theorem addParticipation?_of_new {p : Participation}
    (h : ∀ key, p.dedupeKey = some key → ∀ q ∈ books.participations.rows, q.dedupeKey ≠ some key) :
    books.addParticipation? p =
      some { books with participations := books.participations.push p } := by
  unfold addParticipation?
  cases hkey : p.dedupeKey with
  | none => rfl
  | some key =>
    dsimp only
    rw [if_neg]
    simpa [Table.any] using h key hkey

theorem Alike.findEvent_eq (h : Alike userId σ books books') (id : Id) :
    books'.findEvent id = books.findEvent id := by
  unfold findEvent Table.find?
  rw [h.events]

theorem Attended.addParticipation?_eq (h : books.Attended) {event : Event}
    (hfirst : event.allowMultiple = false → books.participationsOf event.id userId = [])
    {p : Participation} (hkey : p.dedupeKey = dedupeKey event userId) :
    books.addParticipation? p =
      some { books with participations := books.participations.push p } :=
  addParticipation?_of_new fun _ hsome => h.dedupeKey_ne hfirst (hkey.symm.trans hsome)

/-- **Taking part** does not depend on the participations of others. -/
theorem Alike.participate (h : Alike userId σ books books') (hbooks : books.Attended)
    (hbooks' : books'.Attended) (eventId : Id) (verificationData additionalData : Json)
    (now : Instant) :
    Lockstep (fun o o' => Outcome.Alike userId σ (Participation.renumbered σ) o o' ∧
        o.answer ∈ o.books.participations.rows ∧ o.answer.userId = userId ∧
          o.answer.rewardRequestId = none)
      (books.participate s eventId userId verificationData additionalData now)
      (books'.participate s eventId userId verificationData additionalData now) := by
  unfold Books.participate
  rw [h.findEvent_eq]
  cases books.findEvent eventId with
  | error failure => exact Or.inl ⟨failure, rfl, rfl⟩
  | ok event =>
    dsimp only
    have hlength : (books'.participationsOf event.id userId).length =
        (books.participationsOf event.id userId).length := by
      rw [h.participationsOf_eq, List.length_map]
    rw [hlength]
    split_ifs with _ _ hrepeated
    · exact Or.inl ⟨_, rfl, rfl⟩
    · exact Or.inl ⟨_, rfl, rfl⟩
    · exact Or.inl ⟨_, rfl, rfl⟩
    · exact Or.inl ⟨_, rfl, rfl⟩
    · have hfirst : event.allowMultiple = false → books.participationsOf event.id userId = [] := by
        intro hsingle
        by_contra hnot
        exact hrepeated ⟨fun hzero => hnot (List.length_eq_zero_iff.mp hzero), by simp [hsingle]⟩
      have hfirst' : event.allowMultiple = false →
          books'.participationsOf event.id userId = [] := by
        intro hsingle
        rw [h.participationsOf_eq, hfirst hsingle]
        rfl
      rw [← h.participations.nextId_eq]
      generalize hp : Participation.ofUser books.participations.nextId event userId
        verificationData additionalData (books.participationsOf event.id userId).length now = p
      have hp' : Participation.ofUser (σ.participation books.participations.nextId) event userId
          verificationData additionalData (books.participationsOf event.id userId).length now =
            p.renumbered σ := by
        rw [← hp]
        rfl
      have hkey : p.dedupeKey = dedupeKey event userId := by rw [← hp]; rfl
      have hid : p.id = books.participations.nextId := by rw [← hp]; rfl
      have huser : p.userId = userId := by rw [← hp]; rfl
      have hunlinked : p.rewardRequestId = none := by rw [← hp]; rfl
      have hshown : (p.renumbered σ).shown = p.shown.map fun _ => (p.renumbered σ).view :=
        showable_eq_map p.issues [p.verificationData, p.additionalData] p.view _
      have hadded' : books'.addParticipation? (p.renumbered σ) = _ :=
        hbooks'.addParticipation?_eq hfirst' hkey
      rw [hp', hbooks.addParticipation?_eq hfirst hkey, hadded']
      dsimp only
      rw [hshown]
      cases p.shown with
      | error fault => exact Or.inl ⟨_, rfl, rfl⟩
      | ok view =>
        exact Or.inr ⟨_, _, rfl, rfl, ⟨rfl, h.enter hid huser event.id s.stamp⟩,
          List.mem_append_right _ List.mem_cons_self, huser, hunlinked⟩

/-! ### Granting and approving -/

section
variable {request : RewardRequest} {operator : Option String} {now : Instant}

theorem Alike.issueOne (h : Alike userId σ books books') (huser : request.userId = userId)
    {reward : Reward} {ids : List Id} (hnew : books.Ungranted request.id (reward.id :: ids))
    (hnew' : books'.Ungranted (request.renumbered σ).id (reward.id :: ids)) :
    Lockstep (Outcome.Alike userId σ (Grant.renumbered σ))
      (books.issueOne s request operator now reward)
      (books'.issueOne s (request.renumbered σ) operator now reward) := by
  unfold Books.issueOne
  split_ifs
  · exact Or.inl ⟨_, rfl, rfl⟩
  · cases Metadata.copy reward.metadata with
    | error fault => exact Or.inl ⟨_, rfl, rfl⟩
    | ok copied =>
      dsimp only
      rw [← h.grants.nextId_eq]
      generalize hgrant : Grant.ofReward books.grants.nextId request reward copied.content now = g
      have hgrant' : Grant.ofReward (σ.grant books.grants.nextId) (request.renumbered σ) reward
          copied.content now = g.renumbered σ := by
        rw [← hgrant]
        rfl
      have hadded : (books.takeOne reward.id s.stamp).addGrant? g =
          some (books.withGrant s.stamp g) := by
        rw [← hgrant]
        exact addGrant?_of_new hnew.new
      have hadded' : (books'.takeOne reward.id s.stamp).addGrant? (g.renumbered σ) =
          some (books'.withGrant s.stamp (g.renumbered σ)) := by
        rw [← hgrant]
        exact addGrant?_of_new hnew'.new
      rw [hgrant', hadded, hadded']
      dsimp only
      rw [Grant.checked_renumbered]
      cases copied.checked g.shown with
      | error fault => exact Or.inl ⟨_, rfl, rfl⟩
      | ok view =>
        exact Or.inr ⟨_, _, rfl, rfl, rfl,
          h.withGrant (by rw [← hgrant]; rfl) (by rw [← hgrant]; exact huser) s.stamp⟩

theorem Alike.issueEach (h : Alike userId σ books books') (huser : request.userId = userId)
    {ids : List Id} (hnodup : ids.Nodup) (hnew : books.Ungranted request.id ids)
    (hnew' : books'.Ungranted (request.renumbered σ).id ids) :
    Lockstep (Outcome.Alike userId σ (List.map (Grant.renumbered σ)))
      (issueEach s request operator now books ids)
      (issueEach s (request.renumbered σ) operator now books' ids) := by
  induction ids generalizing books books' with
  | nil => exact Or.inr ⟨_, _, rfl, rfl, rfl, h⟩
  | cons id rest ih =>
    obtain ⟨hid, hrest⟩ := List.nodup_cons.mp hnodup
    have hsame : books'.rewards.find? id = books.rewards.find? id := by
      unfold Table.find?
      rw [h.rewards]
    rw [Books.issueEach, Books.issueEach, hsame]
    cases hreward : books.rewards.find? id with
    | none => exact ih h hrest hnew.tail hnew'.tail
    | some reward =>
      obtain rfl : reward.id = id := Table.id_of_find?_eq_some hreward
      dsimp only
      rcases h.issueOne huser hnew hnew' with
        ⟨failure, hone, hone'⟩ | ⟨first, first', hone, hone', hfirst⟩
      · rw [hone, hone']
        exact Or.inl ⟨failure, rfl, rfl⟩
      · rw [hone, hone']
        dsimp only
        rcases ih hfirst.books hrest (hnew.issueOne hid hone) (hnew'.issueOne hid hone') with
          ⟨failure, hothers, hothers'⟩ | ⟨others, others', hothers, hothers', hall⟩
        · rw [hothers, hothers']
          exact Or.inl ⟨failure, rfl, rfl⟩
        · rw [hothers, hothers']
          refine Or.inr ⟨_, _, rfl, rfl, ?_, hall.books⟩
          rw [hfirst.answer, hall.answer]
          rfl

/-- **What is issued for a request that was just made** does not depend on what others
were given. -/
theorem Alike.issueRequest (h : Alike userId σ books books') (huser : request.userId = userId)
    {ids : List Id} (hspells : request.Spells ids) (hnew : books.Ungranted request.id ids)
    (hnew' : books'.Ungranted (request.renumbered σ).id ids) :
    Lockstep (Outcome.Alike userId σ (List.map (Grant.renumbered σ)))
      (books.issueRequest s request operator now)
      (books'.issueRequest s (request.renumbered σ) operator now) := by
  unfold Books.issueRequest
  rw [show (request.renumbered σ).wanted = request.wanted from rfl]
  cases hwanted : request.wanted with
  | error fault => exact Or.inl ⟨_, rfl, rfl⟩
  | ok wanted =>
    obtain rfl := hspells.wanted_eq hwanted
    dsimp only
    rw [if_neg (by simpa using hspells.nonempty), if_neg (by simpa using hspells.nonempty)]
    rcases h.issueEach huser hspells.nodup hnew hnew' with
      ⟨failure, hissued, hissued'⟩ | ⟨issued, issued', hissued, hissued', hall⟩
    · rw [hissued, hissued']
      exact Or.inl ⟨failure, rfl, rfl⟩
    · rw [hissued, hissued']
      dsimp only
      rw [hall.answer, List.isEmpty_map]
      split_ifs
      · exact Or.inl ⟨_, rfl, rfl⟩
      · exact Or.inr ⟨_, _, rfl, rfl, hall⟩

theorem requestMoved_renumbered (σ : Renumbering) (logType : LogType) (operator : Option String)
    (old new : RewardRequest) (more : List (String × Json)) :
    Lockstep (fun _ _ => True) (requestMoved logType operator old new more)
      (requestMoved logType operator (old.renumbered σ) (new.renumbered σ) more) := by
  unfold requestMoved
  rw [show (new.renumbered σ).firstReward = new.firstReward from rfl,
    show (new.renumbered σ).items = new.items from rfl]
  cases new.firstReward with
  | error fault => exact Or.inl ⟨_, rfl, rfl⟩
  | ok first =>
    cases new.items with
    | error fault => exact Or.inl ⟨_, rfl, rfl⟩
    | ok items => exact Or.inr ⟨_, _, rfl, rfl, trivial⟩

/-- The outcomes are alike, and their answers are stored requests of the user. -/
structure FiledAlike (userId : String) (σ : Renumbering) (o o' : Outcome RewardRequest) : Prop where
  alike : Outcome.Alike userId σ (RewardRequest.renumbered σ) o o'
  stored : o.answer ∈ o.books.requests.rows
  own : o.answer.userId = userId

/-- **The approval of a request that was just made** does not depend on the rows of others. -/
theorem Alike.approveRequest (h : Alike userId σ books books') (huser : request.userId = userId)
    (hrequest : request ∈ books.requests.rows) {ids : List Id} (hspells : request.Spells ids)
    (hnew : books.Ungranted request.id ids) (hnew' : books'.Ungranted (request.renumbered σ).id ids)
    (hlinked : ∀ p, books.latestParticipation? request.eventId request.userId = some p →
      p.rewardRequestId = some request.id) :
    Lockstep (FiledAlike userId σ) (books.approveRequest s request operator now)
      (books'.approveRequest s (request.renumbered σ) operator now) := by
  unfold Books.approveRequest
  rcases h.issueRequest huser hspells hnew hnew' with
    ⟨failure, hissued, hissued'⟩ | ⟨issued, issued', hissued, hissued', hall⟩
  · rw [hissued, hissued']
    exact Or.inl ⟨failure, rfl, rfl⟩
  · rw [hissued, hissued']
    dsimp only
    rw [hall.answer, List.length_map]
    obtain ⟨_, -, -, hgranting, -⟩ := issueRequest_eq_ok hissued
    obtain ⟨rewards, grants, hbooks⟩ := hgranting.exists_eq
    generalize happroved :
      { request.approved operator now with updatedAt := some s.stamp } = approved
    have happroved' : { (request.renumbered σ).approved operator now with
        updatedAt := some s.stamp } = approved.renumbered σ := by
      rw [← happroved]
      rfl
    have hid : approved.id = request.id := by rw [← happroved]; rfl
    have hown : approved.userId = userId := by rw [← happroved]; exact huser
    have hevent : approved.eventId = request.eventId := by rw [← happroved]; rfl
    have hstamped : { approved with updatedAt := some s.stamp } = approved := by rw [← happroved]
    rw [happroved']
    rcases requestMoved_renumbered σ .rewardApproved operator request approved
        [("grantCount", .int issued.answer.length)] with
      ⟨failure, hnote, hnote'⟩ | ⟨note, note', hnote, hnote', -⟩
    · rw [hnote, hnote']
      exact Or.inl ⟨failure, rfl, rfl⟩
    · rw [hnote, hnote']
      have hmem : request ∈ issued.books.requests.rows := by rw [hbooks]; exact hrequest
      refine Or.inr ⟨_, _, rfl, rfl, ⟨rfl, ?_⟩, ?_, hown⟩
      · refine (hall.books.putRequest hmem huser hid hown s).markRewarded hown now ?_
        rw [hbooks, hid, hevent, hown, ← huser]
        exact hlinked
      · obtain ⟨participations, -, heq⟩ :=
          exists_markRewarded_eq (issued.books.putRequest s approved) approved now
        rw [heq]
        refine (Table.mem_put_iff hmem ?_).mpr (Or.inl hstamped.symm)
        exact hid

/-! ### Asking for rewards -/

variable {eventId : Id} {spellings : List IdSpelling} {verificationData : Json} {event : Event}
  {rewards : List Id}

/-- **What is checked of a request** does not depend on the claims of others. -/
theorem Alike.admitRequest_eq (h : Alike userId σ books books') :
    books'.admitRequest eventId spellings userId verificationData now =
      books.admitRequest eventId spellings userId verificationData now := by
  have hclaims (event : Event) (rewards : List Id) :
      (books'.claims.any fun claim => claim.eventId = event.id && claim.userId = userId &&
          rewards.contains claim.rewardId) =
        books.claims.any fun claim => claim.eventId = event.id && claim.userId = userId &&
          rewards.contains claim.rewardId := by
    have hown (claims : List Claim) : (claims.any fun claim => claim.eventId = event.id &&
        claim.userId = userId && rewards.contains claim.rewardId) =
          (claims.filter fun claim => claim.userId = userId).any fun claim =>
            claim.eventId = event.id && rewards.contains claim.rewardId := by
      rw [List.any_filter]
      congr 1
      funext claim
      rw [Bool.and_comm (decide (claim.eventId = event.id)), Bool.and_assoc]
    rw [hown, hown, h.claims, List.any_map]
    rfl
  have hrewards (event : Event) (rewards : List Id) :
      (rewards.all fun id => (books'.rewards.find? id).any (·.eventId = event.id)) =
        rewards.all fun id => (books.rewards.find? id).any (·.eventId = event.id) := by
    unfold Table.find?
    rw [h.rewards]
  unfold Books.admitRequest
  rw [h.findEvent_eq]
  simp only [hclaims, hrewards]

theorem Admitted.filing
    (h : Admitted books eventId spellings userId verificationData now event rewards) (s : Session) :
    ∃ request filed notes,
      Filing s books event rewards userId verificationData now request filed notes := by
  refine ⟨_, _, _, rfl, ⟨?_, ?_⟩, rfl, rfl⟩
  · intro claim hclaim other hother
    obtain ⟨rewardId, hreward, rfl⟩ := List.mem_map.mp hclaim
    by_contra hrivals
    obtain ⟨hevent, huser, hsame⟩ := Claim.rivals_iff.mp (Bool.not_eq_false _ ▸ hrivals)
    exact h.unclaimed other hother hevent.symm huser.symm (hsame ▸ hreward)
  · refine List.pairwise_map.mpr ((Id.nodup_of_orderedUnique h.resolved).imp ?_)
    intro a b hne
    by_contra hrivals
    exact hne (Claim.rivals_iff.mp (Bool.not_eq_false _ ▸ hrivals)).2.2.symm

theorem Alike.filing (h : Alike userId σ books books') {request' : RewardRequest}
    {filed filed' : Books} {notes notes' : List Note}
    (hfiling : Filing s books event rewards userId verificationData now request filed notes)
    (hfiling' : Filing s books' event rewards userId verificationData now request' filed' notes') :
    request' = request.renumbered σ ∧ Alike userId σ filed filed' := by
  have hrequest : request' = request.renumbered σ := by
    rw [hfiling.request_eq, hfiling'.request_eq, ← h.requests.nextId_eq]
    rfl
  have huser : request.userId = userId := by rw [hfiling.request_eq]; rfl
  refine ⟨hrequest, ?_⟩
  rw [hfiling.after_eq, hfiling'.after_eq, hrequest]
  exact (h.file hfiling.id_eq huser event.id s.stamp rewards).linkParticipation huser now

end

theorem Alike.approveAtOnce {request : RewardRequest} {filed filed' : Books}
    {notes notes' : List Note} (h : Alike userId σ filed filed')
    (happroval : Lockstep (FiledAlike userId σ)
      (filed.transition s request.id .approved (some s.systemOperator) none s.clock)
      (filed'.transition s (request.renumbered σ).id .approved (some s.systemOperator) none s.clock))
    (hstored : request ∈ filed.requests.rows) (huser : request.userId = userId) :
    Lockstep (FiledAlike userId σ) (approveAtOnce s { answer := request, books := filed, notes })
      (approveAtOnce s { answer := request.renumbered σ, books := filed', notes := notes' }) := by
  unfold Books.approveAtOnce
  dsimp only
  rcases happroval with ⟨failure, hfailed, hfailed'⟩ | ⟨o, o', hdone, hdone', halike⟩
  · rw [hfailed, hfailed']
    cases failure with
    | refused => exact Or.inr ⟨_, _, rfl, rfl, ⟨rfl, h⟩, hstored, huser⟩
    | fault => exact Or.inl ⟨_, rfl, rfl⟩
  · rw [hdone, hdone']
    exact Or.inr ⟨_, _, rfl, rfl, ⟨halike.alike.answer, halike.alike.books⟩, halike.stored,
      halike.own⟩

/-- **Asking for rewards** does not depend on the rows of others. -/
theorem Alike.createRequest (h : Alike userId σ books books') (hbooks : books.Numbered)
    (hbooks' : books'.Numbered) (hreferred : books.Referred) (hreferred' : books'.Referred)
    (eventId : Id) (spellings : List IdSpelling) (verificationData : Json) (now : Instant) :
    Lockstep (FiledAlike userId σ)
      (books.createRequest s eventId spellings userId verificationData now none)
      (books'.createRequest s eventId spellings userId verificationData now none) := by
  cases hchecked : books.admitRequest eventId spellings userId verificationData now with
  | error failure =>
    have hchecked' := h.admitRequest_eq.trans hchecked
    unfold Books.createRequest
    rw [hchecked, hchecked']
    exact Or.inl ⟨failure, rfl, rfl⟩
  | ok admitted =>
    obtain ⟨event, rewards⟩ := admitted
    have hadmitted := admitRequest_eq_ok hchecked
    have hadmitted' := admitRequest_eq_ok (h.admitRequest_eq.trans hchecked)
    obtain ⟨request, filed, notes, hfiling⟩ := hadmitted.filing s
    obtain ⟨request', filed', notes', hfiling'⟩ := hadmitted'.filing s
    obtain ⟨rfl, hfiled⟩ := h.filing hfiling hfiling'
    have huser : request.userId = userId := by rw [hfiling.request_eq]; rfl
    have hfound := hfiling.find?_eq hbooks
    have hstored := Table.mem_of_find?_eq_some hfound
    have hraced (books : Books) : Raced books none books := rfl
    rw [hfiling.createRequest_eq (hraced _) hadmitted,
      hfiling'.createRequest_eq (hraced _) hadmitted']
    split_ifs
    · refine hfiled.approveAtOnce ?_ hstored huser
      rw [transition_eq_approveRequest hfound hfiling.status_eq,
        transition_eq_approveRequest (hfiling'.find?_eq hbooks') hfiling'.status_eq]
      refine hfiled.approveRequest huser hstored (hfiling.spells
          (Id.nodup_of_orderedUnique hadmitted.resolved) hadmitted.nonempty)
        (hfiling.ungranted hbooks hreferred _) (hfiling'.ungranted hbooks' hreferred' _) ?_
      rw [hfiling.after_eq]
      exact fun p hp => rewardRequestId_of_linkParticipation hp
    · exact Or.inr ⟨_, _, rfl, rfl, ⟨rfl, hfiled⟩, hstored, huser⟩

end Books

namespace Web

/-! ### Answers -/

/-- **Two answers are the same but for the identifier of the row that they show.** -/
inductive Answer.Alike (σ : Id → Id) : Answer → Answer → Prop
  /-- A failure is told in the same words. -/
  | failed (status : Nat) (message : String) :
      Alike σ (failure status message) (failure status message)
  | broken (fault : Fault) : Alike σ (.broken fault) (.broken fault)
  | unshowable : Alike σ .unshowable .unshowable
  | unwritable : Alike σ .unwritable .unwritable
  /-- The row has been made, and only its identifier may differ. -/
  | shown (status : Nat) (id : Id) (members : List (String × Json)) :
      Alike σ (.reply status (.obj (("id", .str id.text) :: members)))
        (.reply status (.obj (("id", .str (σ id).text) :: members)))

/-- The same row is shown under an identifier and under the one that it becomes. -/
def ShownAlike (σ : Id → Id) (body body' : Except Fault Json) : Prop :=
  ∃ issues payloads id members,
    body = showable issues payloads (.obj (("id", .str id.text) :: members)) ∧
      body' = showable issues payloads (.obj (("id", .str (σ id).text) :: members))

/-- What a caller is answered, and the books after it, are alike. -/
structure Alike (userId : String) (σ : Renumbering) (made : Id → Id)
    (result result' : Answer × Database) : Prop where
  answer : result.1.Alike made result'.1
  books : result.2.books.Alike userId σ result'.2.books

variable {userId : String} {σ : Renumbering} {made : Id → Id} {s : Session} {db db' : Database}

/-- **An operation that goes in lockstep** is answered alike. -/
theorem answerAction_alike {α : Type} {action : Action} {reply : α → Reply}
    {result result' : Except Failure (Outcome α)} (status : Nat)
    (hperform : action.perform s db = Action.settle s db reply result)
    (hperform' : action.perform s db' = Action.settle s db' reply result')
    (h : db.books.Alike userId σ db'.books)
    (hlockstep : Lockstep (fun o o' => o.books.Alike userId σ o'.books ∧
      ShownAlike made (bodyOf ((reply o.answer).reread (db.commit s o)))
        (bodyOf ((reply o'.answer).reread (db'.commit s o')))) result result') :
    Alike userId σ made (answerAction s db status action) (answerAction s db' status action) := by
  unfold answerAction
  rw [hperform, hperform']
  rcases hlockstep with ⟨failure, rfl, rfl⟩ | ⟨o, o', rfl, rfl, hbooks, hshown⟩
  · cases failure with
    | refused refusal => exact ⟨.failed _ _, h⟩
    | fault fault => exact ⟨.broken fault, h⟩
  · obtain ⟨issues, payloads, id, members, hbody, hbody'⟩ := hshown
    dsimp only [Action.settle]
    rw [hbody, hbody']
    unfold showable
    split_ifs
    · exact ⟨.unshowable, hbooks⟩
    · exact ⟨.shown status id members, hbooks⟩
    · exact ⟨.unwritable, hbooks⟩

theorem answerAction_participate_alike (h : db.books.Alike userId σ db'.books)
    (hdb : db.books.Attended) (hdb' : db'.books.Attended) (eventId : Id)
    (verificationData additionalData : Json) :
    Alike userId σ σ.participation
      (answerAction s db 201 (.participate eventId userId verificationData additionalData none))
      (answerAction s db' 201
        (.participate eventId userId verificationData additionalData none)) := by
  refine answerAction_alike 201 rfl rfl h ?_
  rcases h.participate hdb hdb' eventId verificationData additionalData s.clock with
    hfailed | ⟨o, o', hdone, hdone', halike, hstored, huser, hunlinked⟩
  · exact Or.inl hfailed
  · refine Or.inr ⟨o, o', hdone, hdone', halike.books, ?_⟩
    obtain ⟨hfound, hfound'⟩ :=
      halike.books.participations.find?_eq hstored (decide_eq_true huser)
    have hbody : bodyOf ((Reply.participation (some o.answer)).reread (db.commit s o)) =
        o.answer.shown :=
      congrArg (fun row => (row.getD o.answer).shown) hfound
    have hbody' : bodyOf ((Reply.participation (some o'.answer)).reread (db'.commit s o')) =
        (o.answer.renumbered σ).shown := by
      rw [halike.answer]
      exact congrArg (fun row => (row.getD (o.answer.renumbered σ)).shown) hfound'
    refine ⟨o.answer.issues, [o.answer.verificationData, o.answer.additionalData], o.answer.id, _,
      hbody, hbody'.trans ?_⟩
    unfold Participation.renumbered
    rw [hunlinked]
    rfl

theorem answerAction_createRequest_alike (h : db.books.Alike userId σ db'.books)
    (hdb : db.books.Numbered) (hdb' : db'.books.Numbered) (hreferred : db.books.Referred)
    (hreferred' : db'.books.Referred) (eventId : Id) (spellings : List IdSpelling)
    (verificationData : Json) :
    Alike userId σ σ.request
      (answerAction s db 201 (.createRequest eventId spellings userId verificationData none none))
      (answerAction s db' 201
        (.createRequest eventId spellings userId verificationData none none)) := by
  refine answerAction_alike 201 rfl rfl h ?_
  rcases h.createRequest hdb hdb' hreferred hreferred' eventId spellings verificationData s.clock
    with hfailed | ⟨o, o', hdone, hdone', halike, hstored, huser⟩
  · exact Or.inl hfailed
  · refine Or.inr ⟨o, o', hdone, hdone', halike.books, ?_⟩
    obtain ⟨hfound, hfound'⟩ := halike.books.requests.find?_eq hstored (decide_eq_true huser)
    have hbody : bodyOf ((Reply.request o.answer).reread (db.commit s o)) = o.answer.shown :=
      congrArg (fun row => (row.getD o.answer).shown) hfound
    have hbody' : bodyOf ((Reply.request o'.answer).reread (db'.commit s o')) =
        (o.answer.renumbered σ).shown := by
      rw [halike.answer]
      exact congrArg (fun row => (row.getD (o.answer.renumbered σ)).shown) hfound'
    exact ⟨o.answer.issues, [o.answer.verificationData], o.answer.id, _, hbody, hbody'⟩

variable {r : Request} {endpoint : Endpoint}

theorem asCaller_eq_error {read : String → Checked Task} {answer : Answer}
    (h : asCaller r read = .error answer) : ∃ status message, answer = failure status message := by
  unfold asCaller at h
  split at h
  · cases h
    exact ⟨_, _, rfl⟩
  · split at h
    · cases h
    · cases h
      exact ⟨_, _, rfl⟩

end Web

/-- What becomes of the identifier of the row that an endpoint makes. -/
def Renumbering.madeBy (σ : Renumbering) : Endpoint → Id → Id
  | .createParticipation => σ.participation
  | _ => σ.request

namespace Web

variable {userId : String} {σ : Renumbering} {db db' : Database} {r : Request} {endpoint : Endpoint}

/-- **Who takes part or asks for rewards** is answered alike. -/
theorem handle_alike (h : db.books.Alike userId σ db'.books) (hdb : db.books.Attended)
    (hdb' : db'.books.Attended) (hreferred : db.books.Referred) (hreferred' : db'.books.Referred)
    (s : Session) (hfind : Endpoint.find r.method r.path = .ok endpoint)
    (hcaller : caller? r.user = some userId)
    (hmakes : endpoint = .createParticipation ∨ endpoint = .createRequest) :
    Alike userId σ (σ.madeBy endpoint) (handle s db r) (handle s db' r) := by
  have hfailed {answer : Answer} (htask : task r endpoint = .error answer)
      (hanswer : ∃ status message, answer = failure status message) :
      Alike userId σ (σ.madeBy endpoint) (handle s db r) (handle s db' r) := by
    obtain ⟨status, message, rfl⟩ := hanswer
    simp only [handle, hfind, htask]
    exact ⟨.failed status message, h⟩
  cases htask : task r endpoint with
  | error answer =>
    refine hfailed htask ?_
    rcases hmakes with rfl | rfl
    · exact asCaller_eq_error htask
    · exact asCaller_eq_error htask
  | ok found =>
    rcases hmakes with rfl | rfl
    · obtain ⟨caller, hsame, hread⟩ := asCaller_eq_ok_iff.mp htask
      cases Option.some.inj (hcaller.symm.trans hsame)
      obtain ⟨form, -, rfl⟩ := Checked.map_eq_ok_iff.mp hread
      rw [handle_eq_answerAction hfind htask, handle_eq_answerAction hfind htask]
      exact answerAction_participate_alike h hdb hdb' _ _ _
    · obtain ⟨caller, hsame, hread⟩ := asCaller_eq_ok_iff.mp htask
      cases Option.some.inj (hcaller.symm.trans hsame)
      obtain ⟨form, -, rfl⟩ := Checked.map_eq_ok_iff.mp hread
      rw [handle_eq_answerAction hfind htask, handle_eq_answerAction hfind htask]
      exact answerAction_createRequest_alike h hdb.numbered hdb'.numbered hreferred hreferred' _ _ _

end Web

/-! ### Every run -/

/-- **Users do not interfere.** Whatever a user asks for at a personal endpoint, with success or
not, the rows of all other users stay as they are, and what is aimed at a request or a grant of
somebody else is forbidden and changes nothing. Who takes part or asks for rewards is moreover
answered without regard to the others: where two databases have the same events and rewards and the
same rows of the user, or the same up to the identifiers that the tables gave out, the answers are
the same up to these, and so are the events, the rewards and the rows of the user afterwards. -/
theorem users_do_not_interfere {db : Database} (h : db.Reachable Action.IsUnrivalled)
    {r : Web.Request} {endpoint : Endpoint} {userId : String}
    (hfind : Endpoint.find r.method r.path = .ok endpoint)
    (hcaller : Web.caller? r.user = some userId) (s : Session) :
    (endpoint.isPersonal = true →
      (Web.handle s db r).2.books.others userId = db.books.others userId) ∧
    (∀ text id q, endpoint = .cancelRequest text → Web.pathId "request_id" text = .ok id →
      db.books.requests.find? id = some q → q.userId ≠ userId →
        Web.handle s db r = (Web.failure 403 "Reward request belongs to another user", db)) ∧
    (∀ text id g, endpoint = .useGrant text → Web.pathId "user_reward_id" text = .ok id →
      db.books.grants.find? id = some g → g.userId ≠ userId →
        Web.handle s db r = (Web.failure 403 "User reward belongs to another user", db)) ∧
    (endpoint = .createParticipation ∨ endpoint = .createRequest →
      ∀ db' : Database, db'.Reachable Action.IsUnrivalled →
        (db.books.Agree userId db'.books →
          db.books.Alike userId (.between db.books db'.books) db'.books) ∧
        ∀ σ, db.books.Alike userId σ db'.books →
          (Web.handle s db r).1.Alike (σ.madeBy endpoint) (Web.handle s db' r).1 ∧
            (Web.handle s db r).2.books.Alike userId σ (Web.handle s db' r).2.books) := by
  refine ⟨fun hpersonal => Web.others_handle h.mirrored s hfind hpersonal hcaller, ?_, ?_, ?_⟩
  · rintro text id q rfl hid hfound hother
    exact Web.handle_cancelRequest_of_other s hfind hcaller hid hfound hother
  · rintro text id g rfl hid hfound hother
    exact Web.handle_useGrant_of_other s hfind hcaller hid hfound hother
  · intro hmakes db' h'
    refine ⟨fun hagree => hagree.alike h.mirrored h'.numbered h.linked h.referred, ?_⟩
    intro σ halike
    obtain ⟨hanswer, hbooks⟩ := Web.handle_alike halike h.attended h'.attended h.referred h'.referred
      s hfind hcaller hmakes
    exact ⟨hanswer, hbooks⟩

/-- **A request of somebody else** that is not approved at once makes no difference. -/
theorem Change.agree {s : Session} {books after : Books} {eventId : Id}
    {spellings : List IdSpelling} {other userId : String} {verificationData : Json}
    {now : Option Instant} {notes : List Note}
    (h : Change s books (.createRequest eventId spellings other verificationData now none) after
      notes)
    (hbooks : books.Numbered) (hmanual : ∀ e ∈ books.events.rows, e.autoReward = false)
    (hne : other ≠ userId) : books.Agree userId after := by
  cases h with
  | nothing => exact ⟨rfl, rfl, rfl⟩
  | filed _ hraced hfiling =>
    cases hraced
    exact hfiling.agree hbooks hne
  | filedAndApproved hadmitted _ _ hauto =>
    rw [hmanual _ (Table.mem_of_find?_eq_some hadmitted.event_found)] at hauto
    cases hauto

/-- A run that makes an event and one piece of a reward of it. -/
def offeringOne : List Moment := pendingRun.take 2

/-- Somebody asks for the reward of `offeringOne`. -/
def rivalAsking : Moment :=
  ⟨{ clock := ⟨3000000⟩ }, .call (.createRequest ({} : Table Event).nextId
    [.known ({} : Table Reward).nextId] "bob" .empty none none)⟩

/-- A web request for the reward of `offeringOne`. -/
def askingRequest : Web.Request :=
  { method := "POST", path := ["reward-requests"], user := some " ann "
    body := some (.obj [("event_id", .str ({} : Table Event).nextId.text),
      ("reward_ids", .arr [.str ({} : Table Reward).nextId.text])]) }

/-- A web request to take part in the event of `offeringOne`. -/
def attendingRequest : Web.Request :=
  { method := "POST", path := ["participations"], user := some "ann"
    body := some (.obj [("event_id", .str ({} : Table Event).nextId.text)]) }

/-- A web request to cancel the request that was made first. -/
def cancellingRequest : Web.Request :=
  { method := "POST", path := ["reward-requests", ({} : Table RewardRequest).nextId.text, "cancel"]
    user := some "ann" }

/-- Whether somebody else has asked for the only piece before or not, the request is made. It is the
second one then and has another identifier, and the user takes part alike nevertheless. It cannot be
used to cancel the one of the other. -/
theorem users_do_not_interfere_offeringOne :
    let db := Database.empty.after offeringOne
    let db' := Database.empty.after (offeringOne ++ [rivalAsking])
    let s : Session := { clock := ⟨4000000⟩ }
    let σ := Renumbering.between db.books db'.books
    let asked := (Web.handle s db askingRequest).2
    let asked' := (Web.handle s db' askingRequest).2
    db'.books.requests.rows.length = 1 ∧ db.books.Agree "ann" db'.books ∧
      (Web.handle s db askingRequest).1.status? = some 201 ∧
      (Web.handle s db askingRequest).1.Alike σ.request (Web.handle s db' askingRequest).1 ∧
      (asked.books.own "ann").requests.map RewardRequest.id ≠
        (asked'.books.own "ann").requests.map RewardRequest.id ∧
      (Web.handle s asked attendingRequest).1.status? = some 201 ∧
      (Web.handle s asked attendingRequest).1.Alike σ.participation
        (Web.handle s asked' attendingRequest).1 ∧
      (Web.handle s asked' attendingRequest).2.books.own "ann" =
        ((Web.handle s asked attendingRequest).2.books.own "ann").renumbered σ ∧
      Web.handle s db' cancellingRequest =
        (Web.failure 403 "Reward request belongs to another user", db') := by
  intro db db' s σ asked asked'
  have hbefore : ∀ m ∈ offeringOne, m.CallsOnly Action.IsUnrivalled := by
    simp [offeringOne, pendingRun, Action.IsUnrivalled]
  have hrival : rivalAsking.CallsOnly Action.IsUnrivalled := by
    simp [rivalAsking, Action.IsUnrivalled]
  have hdb : db.Reachable Action.IsUnrivalled := ⟨offeringOne, hbefore, rfl⟩
  have hdb' : db'.Reachable Action.IsUnrivalled := by
    have hafter := hdb.after [rivalAsking] (by simpa using hrival)
    rwa [← Database.after_append] at hafter
  have hagree : db.books.Agree "ann" db'.books := by
    have hone : db' = rivalAsking.after db := Database.after_append _ _ _
    rw [hone]
    rcases rivalAsking.books_eq_or_change Action.IsPublic.isUnrivalled hrival db with
      hsame | ⟨action, notes, hasked, -, hchange⟩
    · rw [hsame]
      exact ⟨rfl, rfl, rfl⟩
    · cases Option.some.inj hasked
      have hmanual : db.books.events.rows.all (fun e => e.autoReward = false) = true := by
        decide +kernel
      exact hchange.agree hdb.numbered
        (fun e he => of_decide_eq_true (List.all_eq_true.mp hmanual e he)) (by decide)
  have hreach {db : Database} (h : db.Reachable Action.IsUnrivalled) :
      (Web.handle s db askingRequest).2.Reachable Action.IsUnrivalled :=
    h.after [⟨s, .request askingRequest⟩] (by simp [Moment.CallsOnly])
  have hask : Endpoint.find askingRequest.method askingRequest.path = .ok .createRequest := by
    decide +kernel
  have hattend : Endpoint.find attendingRequest.method attendingRequest.path =
      .ok .createParticipation := by decide +kernel
  have hcancel : Endpoint.find cancellingRequest.method cancellingRequest.path =
      .ok (.cancelRequest ({} : Table RewardRequest).nextId.text) := by decide +kernel
  have hid : Web.pathId "request_id" ({} : Table RewardRequest).nextId.text =
      .ok ({} : Table RewardRequest).nextId := by decide +kernel
  obtain ⟨q, hq⟩ := Option.isSome_iff_exists.mp (by decide +kernel :
    (db'.books.requests.find? ({} : Table RewardRequest).nextId).isSome = true)
  have hother : q.userId ≠ "ann" := by
    have hall : db'.books.requests.rows.all (fun q => q.userId ≠ "ann") = true := by decide +kernel
    exact of_decide_eq_true (List.all_eq_true.mp hall q (Table.mem_of_find?_eq_some hq))
  -- the user asks for rewards first, and takes part in the two databases that this leads to
  obtain ⟨-, -, -, hasking⟩ :=
    users_do_not_interfere hdb hask (by decide +kernel : _ = some "ann") s
  obtain ⟨hbetween, hlockstep⟩ := hasking (Or.inr rfl) db' hdb'
  obtain ⟨hanswer, hasked⟩ := hlockstep σ (hbetween hagree)
  obtain ⟨-, -, -, hattending⟩ :=
    users_do_not_interfere (hreach hdb) hattend (by decide +kernel : _ = some "ann") s
  obtain ⟨-, hlockstep'⟩ := hattending (Or.inl rfl) asked' (hreach hdb')
  obtain ⟨hanswer', hattended⟩ := hlockstep' σ hasked
  obtain ⟨-, hforbidden, -⟩ :=
    users_do_not_interfere hdb' hcancel (by decide +kernel : _ = some "ann") s
  exact ⟨by decide +kernel, hagree, by decide +kernel, hanswer, by decide +kernel,
    by decide +kernel, hanswer', hattended.own_eq, hforbidden _ _ q rfl hid hq hother⟩

end Promotions
