import Mathlib.Logic.Relation
import Promotions.Proofs.Answers
import Promotions.Proofs.Rows

/-!
# The life cycle of a request

A request begins as pending and is approved, rejected or cancelled; an approved request may be
delivered, and nothing follows a rejection, a cancellation or a delivery (`RequestStatus.LeadsTo`).
Approval, rejection, cancellation and delivery write different columns, and a request may also be
approved as soon as it is made. `RewardRequest.Agrees` says how the columns go with the status.
Under a clock that never goes back every change keeps this (`Change.timely`).

`request_life_cycle` puts it together for whole runs, along with what is answered when a request is
to be moved where it may not go, or where it is already.
-/

namespace Promotions

open Table (Evolves)

/-- The steps from one status of a request to the next. -/
inductive RequestStatus.LeadsTo : RequestStatus → RequestStatus → Prop
  | approve : LeadsTo .pending .approved
  | reject : LeadsTo .pending .rejected
  | cancel : LeadsTo .pending .cancelled
  | deliver : LeadsTo .approved .issued

namespace RequestStatus

theorem mayBecome_iff {a b : RequestStatus} : a.mayBecome b = true ↔ a.LeadsTo b := by
  constructor
  · intro h
    unfold mayBecome at h
    split at h
    · exact .approve
    · exact .reject
    · exact .cancel
    · exact .deliver
    · cases h
  · rintro (_ | _ | _ | _) <;> rfl

theorem eq_of_final {a b : RequestStatus} (ha : a = .rejected ∨ a = .cancelled ∨ a = .issued)
    (h : Relation.ReflTransGen LeadsTo a b) : b = a := by
  rcases Relation.ReflTransGen.cases_head h with rfl | ⟨next, hnext, -⟩
  · rfl
  · rcases ha with rfl | rfl | rfl <;> cases hnext

end RequestStatus

/-! ### The columns of a request -/

/-- **The columns of a request agree with its status.** -/
structure RewardRequest.Agrees (q : RewardRequest) : Prop where
  listed : q.status ∈ RequestStatus.listed
  pending : q.status = .pending → q.approvedAt = none ∧ q.issuedAt = none ∧
    q.rejectedReason = none ∧ q.processedBy = none
  approved : q.status = .approved → ∃ approvedAt, q.approvedAt = some approvedAt ∧
    q.issuedAt = some approvedAt ∧ q.requestedAt ≤ approvedAt
  issued : q.status = .issued → ∃ approvedAt issuedAt, q.approvedAt = some approvedAt ∧
    q.issuedAt = some issuedAt ∧ q.requestedAt ≤ approvedAt ∧ approvedAt ≤ issuedAt
  ended : q.status = .rejected ∨ q.status = .cancelled → q.approvedAt = none ∧ q.issuedAt = none
  processed : q.processedBy.isSome = true ↔ q.status ≠ .pending
  reasoned : q.rejectedReason.isSome = true → q.status = .rejected

/-- The columns agree with the status, and nothing is asked for or approved after a time. -/
structure RewardRequest.Timely (t : Instant) (q : RewardRequest) : Prop where
  agrees : q.Agrees
  requested_le : q.requestedAt ≤ t
  approved_le : ∀ approvedAt, q.approvedAt = some approvedAt → approvedAt ≤ t

namespace RewardRequest

theorem Timely.mono {q : RewardRequest} {t t' : Instant} (h : q.Timely t) (ht : t ≤ t') :
    q.Timely t' where
  agrees := h.agrees
  requested_le := Instant.le_trans h.requested_le ht
  approved_le approvedAt heq := Instant.le_trans (h.approved_le approvedAt heq) ht

theorem timely_filed (id eventId : Id) (items : List Json) (userId : String)
    (verificationData : Json) (now stamp : Instant) :
    (filed id eventId items userId verificationData now stamp).Timely now where
  agrees :=
    { listed := by simp [filed, RequestStatus.listed]
      pending := fun _ => ⟨rfl, rfl, rfl, rfl⟩
      approved := by simp [filed]
      issued := by simp [filed]
      ended := by simp [filed]
      processed := by simp [filed]
      reasoned := by simp [filed] }
  requested_le := Instant.le_refl now
  approved_le := by simp [filed]

section Moved
variable {q : RewardRequest} {now : Instant} (h : q.Timely now) {operator : Option String}
  (hoperator : operator.isSome = true) (reason : Option String) (stamp : Instant)
include h hoperator

theorem Timely.approved (hs : q.status = .pending) :
    (q.moved .approved operator reason now stamp).Timely now := by
  obtain ⟨-, -, hreason, -⟩ := h.agrees.pending hs
  exact
    { agrees :=
        { listed := by simp [moved, RewardRequest.approved, RequestStatus.listed]
          pending := nofun
          approved := fun _ => ⟨now, rfl, rfl, h.requested_le⟩
          issued := nofun
          ended := by rintro (hnot | hnot) <;> cases hnot
          processed := ⟨fun _ => nofun, fun _ => hoperator⟩
          reasoned := by simp [moved, RewardRequest.approved, hreason] }
      requested_le := h.requested_le
      approved_le := by
        intro approvedAt heq
        cases heq
        exact Instant.le_refl now }

theorem Timely.rejected (hs : q.status = .pending) :
    (q.moved .rejected operator reason now stamp).Timely now := by
  obtain ⟨happroved, hissued, -, -⟩ := h.agrees.pending hs
  exact
    { agrees :=
        { listed := by simp [moved, RewardRequest.rejected, RequestStatus.listed]
          pending := nofun
          approved := nofun
          issued := nofun
          ended := fun _ => ⟨happroved, hissued⟩
          processed := ⟨fun _ => nofun, fun _ => hoperator⟩
          reasoned := fun _ => rfl }
      requested_le := h.requested_le
      approved_le := h.approved_le }

theorem Timely.cancelled (hs : q.status = .pending) :
    (q.moved .cancelled operator reason now stamp).Timely now := by
  obtain ⟨happroved, hissued, hreason, -⟩ := h.agrees.pending hs
  exact
    { agrees :=
        { listed := by simp [moved, RewardRequest.cancelled, RequestStatus.listed]
          pending := nofun
          approved := nofun
          issued := nofun
          ended := fun _ => ⟨happroved, hissued⟩
          processed := ⟨fun _ => nofun, fun _ => hoperator⟩
          reasoned := by simp [moved, RewardRequest.cancelled, hreason] }
      requested_le := h.requested_le
      approved_le := h.approved_le }

theorem Timely.delivered (hs : q.status = .approved) :
    (q.moved .issued operator reason now stamp).Timely now := by
  obtain ⟨approvedAt, happroved, -, hle⟩ := h.agrees.approved hs
  have hreason : q.rejectedReason.isSome = true → False := by
    intro hsome
    have hrejected := h.agrees.reasoned hsome
    rw [hs] at hrejected
    cases hrejected
  exact
    { agrees :=
        { listed := by simp [moved, RewardRequest.delivered, RequestStatus.listed]
          pending := nofun
          approved := nofun
          issued := fun _ =>
            ⟨approvedAt, now, happroved, rfl, hle, h.approved_le approvedAt happroved⟩
          ended := by rintro (hnot | hnot) <;> cases hnot
          processed := ⟨fun _ => nofun, fun _ => hoperator⟩
          reasoned := fun hsome => (hreason hsome).elim }
      requested_le := h.requested_le
      approved_le := h.approved_le }

/-- **Moving a request** keeps its columns in agreement with its status. -/
theorem Timely.moved {target : RequestStatus} (hmay : q.status.mayBecome target = true) :
    (q.moved target operator reason now stamp).Timely now := by
  cases hs : q.status with
  | pending =>
    rw [hs] at hmay
    cases target with
    | approved => exact h.approved hoperator reason stamp hs
    | rejected => exact h.rejected hoperator reason stamp hs
    | cancelled => exact h.cancelled hoperator reason stamp hs
    | pending | issued | unlisted => simp [RequestStatus.mayBecome] at hmay
  | approved =>
    rw [hs] at hmay
    cases target with
    | issued => exact h.delivered hoperator reason stamp hs
    | pending | approved | rejected | cancelled | unlisted =>
      simp [RequestStatus.mayBecome] at hmay
  | rejected | issued | cancelled | unlisted => simp [hs, RequestStatus.mayBecome] at hmay

end Moved

end RewardRequest

theorem Action.IsPublic.move? {s : Session} {action : Action} (h : action.IsPublic) {move : Move}
    (hmove : action.move? s = some move) : move.operator.isSome = true ∧ move.now = s.clock := by
  cases action with
  | transition id target operator reason now =>
    obtain ⟨-, hoperator, rfl⟩ := h
    cases Option.some.inj hmove
    exact ⟨hoperator, rfl⟩
  | cancelRequest id userId =>
    cases Option.some.inj hmove
    exact ⟨rfl, rfl⟩
  | _ => cases hmove

/-- **Every change keeps columns and statuses in agreement.** -/
theorem Change.timely {s : Session} {books after : Books} {action : Action} {notes : List Note}
    (h : Change s books action after notes) (hpublic : action.IsPublic) (hbooks : books.Numbered)
    (htimely : ∀ q ∈ books.requests.rows, q.Timely s.clock) :
    ∀ q ∈ after.requests.rows, q.Timely s.clock := by
  intro q hq
  rcases h.mem_requests hbooks hq with hq | ⟨old, hold, move, hmove, -, hmay, rfl⟩ | hmakes
  · exact htimely q hq
  · obtain ⟨hoperator, hnow⟩ := hpublic.move? hmove
    have hmoved := (htimely old hold).moved hoperator move.reason s.stamp hmay
    rw [← hnow] at hmoved ⊢
    exact hmoved
  · obtain ⟨_, _, _, _, now, _, event, rewards, rfl, -, hq⟩ := hmakes
    obtain ⟨-, rfl, -⟩ := hpublic
    have hfiled := RewardRequest.timely_filed books.requests.nextId event.id
      (rewards.map fun id => .str id.text)
    rcases hq with rfl | ⟨-, rfl⟩
    · exact hfiled _ _ _ _
    · exact (hfiled _ _ _ _).moved rfl none s.stamp rfl

/-! ### The statuses of a request along a run -/

namespace Books

/-- The status of a request, if it was filed. -/
def statusOf? (books : Books) (id : Id) : Option RequestStatus :=
  (books.requests.find? id).map RewardRequest.status

end Books

namespace Database

/-- The statuses that a request has along a run, moment after moment, from when it is filed. -/
def statuses (id : Id) : Database → List Moment → List RequestStatus
  | db, [] => (db.books.statusOf? id).toList
  | db, m :: ms => (db.books.statusOf? id).toList ++ statuses id (m.after db) ms

end Database

section Statuses
variable {s : Session} {books after : Books} {action : Action} {notes : List Note}
  (h : Change s books action after notes) (hbooks : books.Numbered) {id : Id}
include h hbooks

theorem Change.exists_statusOf? {a : RequestStatus} (ha : books.statusOf? id = some a) :
    ∃ b, after.statusOf? id = some b ∧ (a = b ∨ a.LeadsTo b) := by
  obtain ⟨q, hfound, rfl⟩ := Option.map_eq_some_iff.mp ha
  obtain ⟨q', hfound', -, hstep⟩ := (h.requests_evolve hbooks).exists_find?
    (h.numbered hbooks).requests (fun _ _ hsteps => hsteps.1.id_eq) hfound
  refine ⟨q'.status, by simp [Books.statusOf?, hfound'], ?_⟩
  rcases hstep with heq | hmay
  · exact Or.inl heq.symm
  · exact Or.inr (RequestStatus.mayBecome_iff.mp hmay)

theorem Change.statusOf?_new {b : RequestStatus} (hnone : books.statusOf? id = none)
    (hb : after.statusOf? id = some b) : b = .pending ∨ b = .approved := by
  obtain ⟨q, hfound, rfl⟩ := Option.map_eq_some_iff.mp hb
  obtain ⟨hq, hid⟩ := (h.numbered hbooks).requests.find?_eq_some_iff.mp hfound
  have hnew := Table.find?_eq_none_iff.mp (Option.map_eq_none_iff.mp hnone)
  rcases h.mem_requests hbooks hq with hq | ⟨old, hold, move, -, -, -, rfl⟩ | hmakes
  · exact absurd hid (hnew q hq)
  · exact absurd ((RewardRequest.id_moved old _ _ _ _ _).symm.trans hid) (hnew old hold)
  · obtain ⟨_, _, _, _, _, _, _, _, -, -, rfl | ⟨-, rfl⟩⟩ := hmakes
    · exact Or.inl rfl
    · exact Or.inr rfl

end Statuses

namespace Moment

variable {m : Moment} {db : Database} (hdb : db.books.Numbered) {id : Id}
include hdb

theorem exists_statusOf? {a : RequestStatus} (ha : db.books.statusOf? id = some a) :
    ∃ b, (m.after db).books.statusOf? id = some b ∧ (a = b ∨ a.LeadsTo b) := by
  rcases m.after_eq_or_writes db with heq | ⟨action, -, notes, hchange, -⟩
  · rw [heq]
    exact ⟨a, ha, Or.inl rfl⟩
  · exact hchange.exists_statusOf? hdb ha

theorem statusOf?_new {b : RequestStatus} (hnone : db.books.statusOf? id = none)
    (hb : (m.after db).books.statusOf? id = some b) : b = .pending ∨ b = .approved := by
  rcases m.after_eq_or_writes db with heq | ⟨action, -, notes, hchange, -⟩
  · rw [heq, hnone] at hb
    cases hb
  · exact hchange.statusOf?_new hdb hnone hb

end Moment

namespace Database

/-- **The statuses of a request form a path** from the one that it had before, and from pending if
it was not filed yet. -/
theorem isChain_statuses (id : Id) (ms : List Moment) {db : Database} (hdb : db.books.Numbered)
    {a : RequestStatus}
    (ha : ∀ b, db.books.statusOf? id = some b → a = b ∨ a.LeadsTo b)
    (hnone : db.books.statusOf? id = none → a = .pending) :
    (a :: db.statuses id ms).IsChain fun a b => a = b ∨ a.LeadsTo b := by
  induction ms generalizing db a with
  | nil =>
    cases hs : db.books.statusOf? id with
    | none => simp [statuses, hs]
    | some b => simpa [statuses, hs] using ha b hs
  | cons m ms ih =>
    have hafter : (m.after db).books.Numbered := numbered_after hdb [m]
    cases hs : db.books.statusOf? id with
    | none =>
      cases hnone hs
      simp only [statuses, hs, Option.toList_none, List.nil_append]
      refine ih hafter (fun b hb => ?_) fun _ => rfl
      rcases Moment.statusOf?_new hdb hs hb with rfl | rfl
      · exact Or.inl rfl
      · exact Or.inr .approve
    | some b =>
      obtain ⟨c, hc, hstep⟩ := Moment.exists_statusOf? (m := m) hdb hs
      simp only [statuses, hs, Option.toList_some, List.singleton_append]
      refine List.isChain_cons_cons.mpr ⟨ha b hs, ih hafter (fun d hd => ?_) fun hnone' => ?_⟩
      · rw [hc] at hd
        cases hd
        exact hstep
      · rw [hc] at hnone'
        cases hnone'

end Database

/-! ### What a request keeps -/

/-- A later version of a request: it is the same request, with a status that it may have got to. -/
def RewardRequest.Precedes (q q' : RewardRequest) : Prop :=
  q.Continues q' ∧ Relation.ReflTransGen RequestStatus.LeadsTo q.status q'.status

theorem RewardRequest.StepsTo.precedes (q q' : RewardRequest) (h : q.StepsTo q') :
    q.Precedes q' := by
  obtain ⟨hcontinues, heq | hmay⟩ := h
  · exact ⟨hcontinues, by rw [heq]⟩
  · exact ⟨hcontinues, .single (RequestStatus.mayBecome_iff.mp hmay)⟩

theorem Database.requests_evolve {db : Database} (hdb : db.books.Numbered) (ms : List Moment) :
    Evolves RewardRequest.Precedes db.books.requests (db.after ms).books.requests :=
  evolves_after Books.requests (fun q => ⟨.refl q, .refl⟩)
    (fun a b c h h' => ⟨.trans a b c h.1 h'.1, h.2.trans h'.2⟩)
    (fun hnumbered hchange =>
      (hchange.requests_evolve hnumbered).mono RewardRequest.StepsTo.precedes) hdb ms

/-! ### Moves that change nothing -/

/-- The action asks for a request to be moved to a status: in the name of an operator, or of the
user whose request it has to be. -/
def Action.AimsAt (action : Action) (id : Id) (target : RequestStatus) (userId : String) : Prop :=
  (∃ operator reason now, action = .transition id target operator reason now) ∨
    action = .cancelRequest id userId ∧ target = .cancelled

section Refused
variable {s : Session} {books : Books} {id : Id} {target : RequestStatus} {q : RewardRequest}
  {operator reason : Option String} {now : Instant}

theorem Books.findRequest_of_some (hfound : books.requests.find? id = some q) :
    books.findRequest id = .ok q := by
  simp only [findRequest, hfound]

theorem Books.findRequest_of_none (hnone : books.requests.find? id = none) :
    books.findRequest id = Failure.refuse (.requestNotFound id) := by
  simp only [findRequest, hnone]

theorem Books.transition_of_none (hlisted : target ∈ RequestStatus.listed)
    (hnone : books.requests.find? id = none) :
    books.transition s id target operator reason now = Failure.refuse (.requestNotFound id) := by
  unfold transition
  rw [if_neg (not_not.mpr hlisted), findRequest_of_none hnone]
  rfl

theorem Books.transition_of_same (hfound : books.requests.find? id = some q)
    (hlisted : target ∈ RequestStatus.listed) (hsame : q.status = target) :
    books.transition s id target operator reason now = .ok { answer := q, books } := by
  unfold transition
  rw [if_neg (not_not.mpr hlisted), findRequest_of_some hfound]
  exact if_pos hsame.symm

theorem Books.transition_of_not (hfound : books.requests.find? id = some q)
    (hlisted : target ∈ RequestStatus.listed) (hne : q.status ≠ target)
    (hnot : ¬q.status.LeadsTo target) :
    books.transition s id target operator reason now =
      Failure.refuse (.transitionNotAllowed q.status target) := by
  have hmay : q.status.mayBecome target = false := by
    rw [← Bool.not_eq_true, RequestStatus.mayBecome_iff]
    exact hnot
  unfold transition
  rw [if_neg (not_not.mpr hlisted), findRequest_of_some hfound]
  simp only [hmay, if_neg hne.symm]
  rfl

theorem Books.cancelRequest_of_some (hfound : books.requests.find? id = some q) :
    books.cancelRequest s id q.userId =
      books.transition s id .cancelled (some q.userId) none s.clock := by
  have hid : q.id = id := Table.id_of_find?_eq_some hfound
  unfold cancelRequest
  rw [findRequest_of_some hfound]
  simp only [ne_eq, not_true_eq_false, if_false, hid]

end Refused

namespace Action

section AimsAt
variable {s : Session} {db : Database} {action : Action} {id : Id} {target : RequestStatus}
  {userId : String} (h : action.AimsAt id target userId)
  (hlisted : target ∈ RequestStatus.listed)
include h hlisted

theorem AimsAt.perform_none (hnone : db.books.requests.find? id = none) :
    action.perform s db = .error (.refused (.requestNotFound id)) := by
  rcases h with ⟨operator, reason, now, rfl⟩ | ⟨rfl, rfl⟩
  · rw [perform, Books.transition_of_none hlisted hnone]
    rfl
  · rw [perform, Books.cancelRequest, Books.findRequest_of_none hnone]
    rfl

variable {q : RewardRequest} (hfound : db.books.requests.find? id = some q)
  (huser : q.userId = userId)
include hfound huser

theorem AimsAt.perform_same (hsame : q.status = target) :
    action.perform s db = .ok (.request q, db) := by
  subst huser
  rcases h with ⟨operator, reason, now, rfl⟩ | ⟨rfl, rfl⟩
  · rw [perform, Books.transition_of_same hfound hlisted hsame]
    rfl
  · rw [perform, Books.cancelRequest_of_some hfound, Books.transition_of_same hfound hlisted hsame]
    rfl

theorem AimsAt.perform_not (hne : q.status ≠ target) (hnot : ¬q.status.LeadsTo target) :
    action.perform s db = .error (.refused (.transitionNotAllowed q.status target)) := by
  subst huser
  rcases h with ⟨operator, reason, now, rfl⟩ | ⟨rfl, rfl⟩
  · rw [perform, Books.transition_of_not hfound hlisted hne hnot]
    rfl
  · rw [perform, Books.cancelRequest_of_some hfound, Books.transition_of_not hfound hlisted hne hnot]
    rfl

end AimsAt

theorem IsPublic.mem_listed {action : Action} (hpublic : action.IsPublic) {id : Id}
    {target : RequestStatus} {userId : String} (h : action.AimsAt id target userId) :
    target ∈ RequestStatus.listed := by
  rcases h with ⟨operator, reason, now, rfl⟩ | ⟨-, rfl⟩
  · exact hpublic.1
  · simp [RequestStatus.listed]

end Action

/-! ### The life cycle -/

theorem Database.agrees_after {ms : List Moment} (hms : ∀ m ∈ ms, m.CallsOnly Action.IsPublic)
    (hclock : ms.Pairwise fun m m' => m.session.clock ≤ m'.session.clock) :
    ∀ q ∈ (Database.empty.after ms).books.requests.rows, q.Agrees := by
  have hempty : ∀ t : Instant, Database.empty.books.Numbered ∧
      ∀ q ∈ Database.empty.books.requests.rows, q.Timely t :=
    fun _ => ⟨Books.numbered_empty, by simp [Database.empty]⟩
  obtain ⟨t, -, htimely⟩ := exists_keeps_until (P := Action.IsPublic) (fun _ hpublic => hpublic)
    (I := fun t books => books.Numbered ∧ ∀ q ∈ books.requests.rows, q.Timely t)
    (fun ht hbooks => ⟨hbooks.1, fun q hq => (hbooks.2 q hq).mono ht⟩)
    (fun hpublic hbooks hchange =>
      ⟨hchange.numbered hbooks.1, hchange.timely hpublic hbooks.1 hbooks.2⟩) hempty hms hclock
  exact fun q hq => (htimely q hq).agrees

/-- **The life cycle of requests.** Along every run that is asked for in public, under a clock that
never goes back, the statuses of a request form a path that begins as pending and takes one of the
allowed steps at a time; the columns agree with the status; and what was asked for, by whom and
when, never changes, nor does a final status. To move a request to the status that it has changes
nothing, whoever asks and for whatever reason. To move it where it may not go is answered with 409,
and to move an unknown one with 404, and neither changes anything. -/
theorem request_life_cycle {ms : List Moment} (hms : ∀ m ∈ ms, m.CallsOnly Action.IsPublic)
    (hclock : ms.Pairwise fun m m' => m.session.clock ≤ m'.session.clock) :
    (∀ id, (RequestStatus.pending :: Database.empty.statuses id ms).IsChain
      fun a b => a = b ∨ a.LeadsTo b) ∧
    (∀ q ∈ (Database.empty.after ms).books.requests.rows, q.Agrees) ∧
    (∀ before later, ms = before ++ later → ∀ id q,
      (Database.empty.after before).books.requests.find? id = some q →
        ∃ q', (Database.empty.after ms).books.requests.find? id = some q' ∧
          q'.userId = q.userId ∧ q'.eventId = q.eventId ∧ q'.rewardIds = q.rewardIds ∧
          q'.verificationData = q.verificationData ∧ q'.requestedAt = q.requestedAt ∧
          (q.status = .rejected ∨ q.status = .cancelled ∨ q.status = .issued →
            q'.status = q.status)) ∧
    ∀ m : Moment, m.CallsOnly Action.IsPublic → ∀ action id target userId,
      m.asked? = some action → action.AimsAt id target userId →
        (∀ q, (Database.empty.after ms).books.requests.find? id = some q → q.userId = userId →
          (q.status = target → m.after (Database.empty.after ms) = Database.empty.after ms) ∧
          (q.status ≠ target → ¬q.status.LeadsTo target →
            m.after (Database.empty.after ms) = Database.empty.after ms ∧
              m.status? (Database.empty.after ms) = some 409)) ∧
        ((Database.empty.after ms).books.requests.find? id = none →
          m.after (Database.empty.after ms) = Database.empty.after ms ∧
            m.status? (Database.empty.after ms) = some 404) := by
  have hempty : Database.empty.books.Numbered := Books.numbered_empty
  refine ⟨fun id => ?_, Database.agrees_after hms hclock, ?_, ?_⟩
  · refine Database.isChain_statuses id ms hempty (fun b hb => ?_) fun _ => rfl
    simp [Database.empty, Books.statusOf?, Table.find?] at hb
  · rintro before later rfl id q hfound
    have hbefore := Database.numbered_after hempty before
    have hafter := Database.numbered_after hempty (before ++ later)
    rw [Database.after_append] at hafter ⊢
    obtain ⟨q', hfound', hcontinues, hstatus⟩ := (Database.requests_evolve hbefore
      later).exists_find? hafter.requests (fun _ _ hprecedes => hprecedes.1.id_eq) hfound
    refine ⟨q', hfound', ?_⟩
    obtain ⟨_, _, _, _, _, _, rfl⟩ := hcontinues
    exact ⟨rfl, rfl, rfl, rfl, rfl, fun hfinal => RequestStatus.eq_of_final hfinal hstatus⟩
  · intro m hm action id target userId hasked haims
    have hlisted :=
      (Moment.asked?_satisfies (fun _ hpublic => hpublic) hm hasked).mem_listed haims
    refine ⟨fun q hfound huser => ⟨fun hsame => ?_, fun hne hnot => ?_⟩, fun hnone => ?_⟩
    · exact m.unchanged hasked (haims.perform_same hlisted hfound huser hsame)
    · exact m.refused hasked (haims.perform_not hlisted hfound huser hne hnot)
    · exact m.refused hasked (haims.perform_none hlisted hnone)

/-- To approve a request once more changes nothing, and to reject it then is a conflict. -/
theorem request_life_cycle_approval :
    (⟨{ clock := ⟨5000000⟩ }, .call (.transition ({} : Table RewardRequest).nextId .approved
        (some "other") (some "again") none)⟩ : Moment).after
        (Database.empty.after (pendingRun ++ [approval])) =
      Database.empty.after (pendingRun ++ [approval]) ∧
    (⟨{ clock := ⟨5000000⟩ }, .call (.transition ({} : Table RewardRequest).nextId .rejected
        (some "other") none none)⟩ : Moment).status?
        (Database.empty.after (pendingRun ++ [approval])) = some 409 := by
  have hms : ∀ m ∈ pendingRun ++ [approval], m.CallsOnly Action.IsPublic := by
    simp only [pendingRun, approval, List.cons_append, List.nil_append, List.forall_mem_cons,
      Moment.callsOnly_call, Action.IsPublic]
    exact ⟨trivial, by decide, ⟨⟨[({} : Table Reward).nextId], rfl⟩, trivial, trivial⟩,
      ⟨by decide, rfl, trivial⟩, by simp⟩
  have hclock : (pendingRun ++ [approval]).Pairwise
      fun m m' => m.session.clock ≤ m'.session.clock := by decide
  obtain ⟨-, -, -, hmoves⟩ := request_life_cycle hms hclock
  obtain ⟨q, hfound, hstatus⟩ := Option.map_eq_some_iff.mp
    (by decide +kernel : ((Database.empty.after (pendingRun ++ [approval])).books.requests.find?
      ({} : Table RewardRequest).nextId).map RewardRequest.status = some .approved)
  constructor
  · have hmove := hmoves
      ⟨{ clock := ⟨5000000⟩ }, .call (.transition ({} : Table RewardRequest).nextId .approved
        (some "other") (some "again") none)⟩
      (Moment.callsOnly_call.mpr ⟨by decide, rfl, rfl⟩) _ _ .approved q.userId rfl
      (Or.inl ⟨_, _, _, rfl⟩)
    exact (hmove.1 q hfound rfl).1 hstatus
  · have hmove := hmoves
      ⟨{ clock := ⟨5000000⟩ }, .call (.transition ({} : Table RewardRequest).nextId .rejected
        (some "other") none none)⟩
      (Moment.callsOnly_call.mpr ⟨by decide, rfl, rfl⟩) _ _ .rejected q.userId rfl
      (Or.inl ⟨_, _, _, rfl⟩)
    refine ((hmove.1 q hfound rfl).2 ?_ ?_).2
    · rw [hstatus]
      decide
    · rw [hstatus]
      rintro ⟨⟩

end Promotions
