import Promotions.Proofs.Chronicle
import Promotions.Proofs.Surfaces

/-!
# The journal reconciles with the tables

Where the journal accepts what is noted, it tells neither less nor more than the tables show: one
entry for each event, reward, request and grant that was made, one for each status that a request
was given and for each grant that was used, and as many of a user in an event as the user took part
in it. An approval tells how many grants the request has (`Books.Counted`), and the changes of an
event's status lead from the one it was made with to the one it has (`Chronicle`).
`Books.Reconciled` puts this together.

After every run it is so (`journal_reconciles`). What the changes keep is the ledger itself
(`Database.Audited`); the single accounts are read off it in the end.
-/

namespace Promotions

open Table (Evolves)

/-! ### How many grants an approval tells of -/

namespace Books

/-- How many grants a request has. -/
def grantsOf (books : Books) (requestId : Id) : Nat :=
  books.grants.rows.countP fun g => g.requestId = requestId

/-- **Each approval tells how many grants** its request has. -/
def Counted (books : Books) (told : List Note) : Prop :=
  ∀ note ∈ told, note.logType = .rewardApproved → ∃ requestId, note.requestId = some requestId ∧
    note.details.get? "grantCount" = some (.int (books.grantsOf requestId))

theorem grantsOf_eq_zero {books : Books} (h : books.Entitled) {q : RewardRequest}
    (hq : q ∈ books.requests.rows) (hnot : q.status.isGranted = false) :
    books.grantsOf q.id = 0 := by
  refine List.countP_eq_zero.mpr fun g hg hid => ?_
  obtain ⟨earner, hearner, hgranted, -, hof⟩ := h.earned g hg
  have hsame : earner.id = q.id := hof.requestId_eq.symm.trans (of_decide_eq_true hid)
  rw [h.numbered.requests.eq_of_id_eq hearner hq hsame, hnot] at hgranted
  cases hgranted

section
variable {books after : Books} {told notes : List Note}

theorem Counted.of_eq (h : books.Counted told)
    (hgrants : after.grants.rows.map Grant.requestId = books.grants.rows.map Grant.requestId)
    (hnotes : ∀ note ∈ notes, note.logType ≠ .rewardApproved) :
    after.Counted (told ++ notes.map Note.kept) := by
  have hcount (requestId : Id) : after.grantsOf requestId = books.grantsOf requestId := by
    have := congrArg (List.countP (· = requestId)) hgrants
    rwa [List.countP_map, List.countP_map] at this
  intro note hnote hkind
  rcases List.mem_append.mp hnote with hnote | hnote
  · obtain ⟨requestId, hid, hdetails⟩ := h note hnote hkind
    exact ⟨requestId, hid, by rw [hcount, hdetails]⟩
  · obtain ⟨new, hnew, rfl⟩ := List.mem_map.mp hnote
    exact absurd hkind (hnotes new hnew)

end

theorem Moving.exists_grants {s : Session} {books after : Books} {request : RewardRequest}
    {operator reason : Option String} {now : Instant} {target : RequestStatus} {notes : List Note}
    (h : Moving s books request operator reason now target after notes) :
    ∃ grants granted note, notes = granted ++ [note] ∧
      after.grants.rows = books.grants.rows ++ grants ∧
      (∀ g ∈ grants, g.requestId = request.id) ∧
      (∀ other ∈ granted, other.logType = .rewardIssued) ∧
      (target = .approved ∧ note.requestId = some request.id ∧
          note.kept.details.get? "grantCount" = some (.int grants.length) ∨
        grants = [] ∧ note.logType ≠ .rewardApproved) := by
  cases h with
  | @approved ids issued grants granted note hwanted hids hgranting hgrants hnote =>
    obtain ⟨first, items, -, rfl⟩ := requestMoved_eq_ok hnote
    obtain ⟨participations, -, heq⟩ := exists_markRewarded_eq
      (putRequest issued s (request.approved operator now)) request now
    refine ⟨grants, granted, _, rfl, ?_, fun g hg => (hgranting.eq_ofReward g hg).2.2,
      hgranting.logType_eq, Or.inl ⟨rfl, rfl, ?_⟩⟩
    · rw [heq]
      exact hgranting.rows_grants
    · rw [Note.kept, Json.get?_withoutReserved (by decide)]
      rfl
  | rejected hnote | cancelled hnote | delivered hnote =>
    obtain ⟨first, items, -, rfl⟩ := requestMoved_eq_ok hnote
    exact ⟨[], [], _, rfl, (List.append_nil _).symm, by simp, by simp,
      Or.inr ⟨rfl, LogType.noConfusion⟩⟩

section Counted
variable {books after : Books} {told notes : List Note}
  (hmatters : (told.filterMap Note.matter? : Multiset Matter) = books.matters)
include hmatters

theorem exists_of_rewardApproved {note : Note} (hnote : note ∈ told)
    (hkind : note.logType = .rewardApproved) :
    ∃ q ∈ books.requests.rows, q.status.isGranted = true ∧ note.requestId = some q.id := by
  have hperm := perm_reports_move hmatters (List.mem_cons_self : (_, .approved) ∈ movingKinds)
  have hmem : (note.eventId, note.requestId) ∈
      reports .rewardApproved (fun n => (n.eventId, n.requestId)) told :=
    List.mem_map.mpr ⟨note, List.mem_filter.mpr ⟨hnote, by simpa using hkind⟩, rfl⟩
  obtain ⟨q, hq, heq⟩ := List.mem_map.mp (hperm.mem_iff.mp hmem)
  obtain ⟨hq, hpast⟩ := List.mem_filter.mp hq
  refine ⟨q, hq, ?_, (congrArg Prod.snd heq).symm⟩
  cases hs : q.status <;> simp_all [RequestStatus.past, RequestStatus.isGranted]

theorem Moving.counted {s : Session} {request : RewardRequest} {operator reason : Option String}
    {now : Instant} {target : RequestStatus}
    (h : Moving s books request operator reason now target after notes) (hbooks : books.Entitled)
    (hrequest : request ∈ books.requests.rows) (hmay : request.status.mayBecome target = true)
    (hcounted : books.Counted told) : after.Counted (told ++ notes.map Note.kept) := by
  obtain ⟨grants, granted, note, rfl, hgrants, hof, hgranted, hlast⟩ := h.exists_grants
  have hcount (requestId : Id) : after.grantsOf requestId =
      books.grantsOf requestId + if requestId = request.id then grants.length else 0 := by
    rw [grantsOf, hgrants, List.countP_append]
    congr 1
    split_ifs with hid
    · exact List.countP_eq_length.mpr fun g hg => by simp [hof g hg, hid]
    · exact List.countP_eq_zero.mpr fun g hg => by simpa [hof g hg] using Ne.symm hid
  intro found hfound hkind
  rcases List.mem_append.mp hfound with hfound | hfound
  · -- an approval that was noted before is one of another request, or nothing is granted now
    obtain ⟨requestId, hid, hdetails⟩ := hcounted found hfound hkind
    refine ⟨requestId, hid, ?_⟩
    rw [hdetails, hcount]
    rcases hlast with ⟨rfl, -⟩ | ⟨rfl, -⟩
    · obtain ⟨q, hq, hqgranted, hqid⟩ := exists_of_rewardApproved hmatters hfound hkind
      have hne : requestId ≠ request.id := by
        rintro rfl
        have hsame : q.id = request.id := (Option.some.inj (hqid.symm.trans hid))
        rw [hbooks.numbered.requests.eq_of_id_eq hq hrequest hsame] at hqgranted
        cases hs : request.status <;>
          simp [hs, RequestStatus.mayBecome, RequestStatus.isGranted] at hmay hqgranted
      rw [if_neg hne, Nat.add_zero]
    · simp
  · obtain ⟨new, hnew, rfl⟩ := List.mem_map.mp hfound
    rcases List.mem_append.mp hnew with hnew | hnew
    · rw [show new.kept.logType = .rewardIssued from hgranted new hnew] at hkind
      cases hkind
    · cases List.mem_singleton.mp hnew
      rcases hlast with ⟨rfl, hid, hdetails⟩ | ⟨-, hother⟩
      · refine ⟨request.id, hid, ?_⟩
        have hpending : request.status.isGranted = false := by
          cases hs : request.status <;>
            simp [hs, RequestStatus.mayBecome, RequestStatus.isGranted] at hmay ⊢
        rw [hdetails, hcount, grantsOf_eq_zero hbooks hrequest hpending, if_pos rfl, Nat.zero_add]
      · exact absurd hkind hother

end Counted

end Books

open Books

/-- **Every change keeps that approvals tell** how many grants there are, if rewards are issued by
approval only. -/
theorem Change.counted {s : Session} {books after : Books} {action : Action}
    {told notes : List Note} (h : Change s books action after notes)
    (hissues : action.IssuesByApproval) (hnoted : ∀ note, action ≠ .record note)
    (hbooks : books.Entitled)
    (hmatters : (told.filterMap Note.matter? : Multiset Matter) = books.matters)
    (hcounted : books.Counted told) : after.Counted (told ++ notes.map Note.kept) := by
  cases h with
  | nothing => simpa using hcounted
  | noted note => exact absurd rfl (hnoted _)
  | eventMade | rewardMade | rewardEdited | tookPart =>
    exact hcounted.of_eq rfl
      (by simp [eventCreated, rewardCreated, rewardUpdated, eventParticipated])
  | @eventEdited id patch actor old new =>
    refine hcounted.of_eq rfl fun note hnote => ?_
    unfold eventStatusChanged at hnote
    split at hnote <;> simp at hnote
    · simp [hnote, eventUpdated]
    · rcases hnote with rfl | rfl <;> simp [eventUpdated]
  | filed _ hraced hfiling =>
    refine hcounted.of_eq ?_ ?_
    · rw [hfiling.stock_eq.2, hraced.grants_eq]
    · rw [hfiling.notes_eq]
      simp [requestNote]
  | @filedAndApproved eventId spellings userId verificationData now rival raced filed after event
      rewards request found notes more _ hraced hfiling _ hfound hmay hmoving =>
    cases hissues
    cases hraced
    have hfiled : filed.Counted (told ++ notes.map Note.kept) := by
      refine hcounted.of_eq (by rw [hfiling.stock_eq.2]) ?_
      rw [hfiling.notes_eq]
      simp [requestNote]
    have hmatters' : ((told ++ notes.map Note.kept).filterMap Note.matter? : Multiset Matter) =
        filed.matters := by
      rw [filterMap_matter?_append, hmatters, hfiling.matters_eq]
    rw [List.map_append, ← List.append_assoc]
    exact hmoving.counted hmatters' (hfiling.entitled hbooks) (Table.mem_of_find?_eq_some hfound)
      hmay hfiled
  | moved hfound hmay hmoving =>
    exact hmoving.counted hmatters hbooks (Table.mem_of_find?_eq_some hfound) hmay hcounted
  | cancelled hfound _ hmay hmoving =>
    exact hmoving.counted hmatters hbooks (Table.mem_of_find?_eq_some hfound) hmay hcounted
  | issued => exact absurd hissues id
  | @used id userId now grant hfound =>
    refine hcounted.of_eq ?_ (by simp [rewardUsed])
    obtain ⟨before, rest, hrows, hput⟩ := hbooks.numbered.grants.rows_put
      (Table.mem_of_find?_eq_some hfound)
      (rfl : Row.id (grant.used (now.getD s.clock)) = Row.id grant)
    rw [hput, hrows, List.map_append, List.map_append]
    rfl
  | expired now =>
    refine hcounted.of_eq ?_ (by simp)
    rw [expireGrants, List.map_map]
    refine List.map_congr_left fun g _ => ?_
    obtain ⟨status, usedAt, heq⟩ := g.continues_expire (now.getD s.clock)
    simp only [Function.comp, heq]

/-! ### After every run -/

/-- **What the books assume of an operation** that is called by itself: its arguments are as the
forms check them, rewards are issued by approval, and no note is written by itself. -/
structure Action.IsAudited (action : Action) : Prop where
  formed : action.IsFormed
  approves : action.IssuesByApproval
  unnoted : ∀ note, action ≠ .record note

theorem Action.IsAsked.isAudited (action : Action) (h : action.IsAsked) : action.IsAudited where
  formed := h.isFormed
  approves := h.isPublic.issuesByApproval
  unnoted := by
    rintro note rfl
    exact h.isPublic

/-- **Journal and books tell the same.** -/
structure Database.Audited (db : Database) : Prop where
  entitled : db.books.Entitled
  spelled : db.books.Spelled
  matters : (db.told.filterMap Note.matter? : Multiset Matter) = db.books.matters
  counted : db.books.Counted db.told
  chronicled : db.books.Chronicled db.told

theorem audited_empty : Database.empty.Audited where
  entitled := entitled_empty
  spelled := by simp [Database.empty, Spelled]
  matters := rfl
  counted := by simp [Database.empty, Database.told, Counted]
  chronicled := chronicled_empty

/-- **Every action keeps journal and books together**, if the journal accepts its notes. -/
theorem Action.Writes.audited {s : Session} {action : Action} {db after : Database}
    (h : action.Writes s db after) (haction : action.IsAudited) (hs : s.NotesAll)
    (hdb : db.Audited) : after.Audited := by
  obtain ⟨notes, hchange, htold⟩ := h.told_eq hs
  have hbooks := hdb.entitled.numbered
  refine ⟨hchange.entitled haction.approves hdb.entitled hdb.spelled,
    hchange.spelled hbooks hdb.spelled, ?_, ?_, ?_⟩
  · rw [htold, filterMap_matter?_append, hdb.matters,
      hchange.matters_eq haction.formed haction.unnoted hbooks]
  · rw [htold]
    exact hchange.counted haction.approves haction.unnoted hdb.entitled hdb.matters hdb.counted
  · rw [htold]
    exact hchange.chronicled haction.formed haction.unnoted hbooks hdb.chronicled

theorem Moment.notesAll_acting {m : Moment} (h : m.session.NotesAll) : m.acting.NotesAll := by
  unfold acting
  split
  · exact fun _ => rfl
  · exact h

theorem Database.audited_after {ms : List Moment}
    (hms : ∀ m ∈ ms, m.CallsOnly Action.IsAudited ∧ m.session.NotesAll) :
    (empty.after ms).Audited :=
  keeps_writes (P := Action.IsAudited) (Q := Session.NotesAll) Action.IsAsked.isAudited
    (fun haction hs hdb hwrites => hwrites.audited haction hs hdb) audited_empty
    fun m hm => ⟨(hms m hm).1, Moment.notesAll_acting (hms m hm).2⟩

/-! ### Journal and tables -/

/-- **The journal reconciles with the tables.** -/
structure Books.Reconciled (books : Books) (told : List Note) : Prop where
  created : OnePer (reports .eventCreated Note.eventId told)
    (books.events.rows.map fun e => some e.id)
  offered : OnePer (reports .rewardCreated (fun n => (n.eventId, n.rewardId)) told)
    (books.rewards.rows.map fun r => (some r.eventId, some r.id))
  /-- Of each user in each event there are as many entries as participations. -/
  participated : (reports .eventParticipated (fun n => (n.eventId, n.actor)) told).Perm
    (books.participations.rows.map fun p => (some p.eventId, p.userId))
  requested : OnePer (reports .rewardRequested (fun n => (n.eventId, n.requestId)) told)
    (books.requests.rows.map fun q => (some q.eventId, some q.id))
  issued : OnePer (reports .rewardIssued (fun n => (n.eventId, n.requestId, n.rewardId)) told)
    (books.grants.rows.map fun g => (some g.eventId, some g.requestId, some g.rewardId))
  approved : OnePer (reports .rewardApproved (fun n => (n.eventId, n.requestId)) told)
    ((books.requests.rows.filter fun q => q.status = .approved ∨ q.status = .issued).map fun q =>
      (some q.eventId, some q.id))
  /-- Each approval tells how many grants its request has. -/
  counted : books.Counted told
  delivered : OnePer (reports .rewardDelivered (fun n => (n.eventId, n.requestId)) told)
    ((books.requests.rows.filter fun q => q.status = .issued).map fun q =>
      (some q.eventId, some q.id))
  rejected : OnePer (reports .rewardRejected (fun n => (n.eventId, n.requestId)) told)
    ((books.requests.rows.filter fun q => q.status = .rejected).map fun q =>
      (some q.eventId, some q.id))
  cancelled : OnePer (reports .rewardCancelled (fun n => (n.eventId, n.requestId)) told)
    ((books.requests.rows.filter fun q => q.status = .cancelled).map fun q =>
      (some q.eventId, some q.id))
  used : OnePer (reports .rewardUsed (fun n => (n.eventId, n.requestId, n.rewardId)) told)
    ((books.grants.rows.filter fun g => g.status = .used).map fun g =>
      (some g.eventId, some g.requestId, some g.rewardId))
  chronicle : ∀ e ∈ books.events.rows, Chronicle told e.id e.status

theorem Table.Numbered.nodup_keys {ρ κ : Type} [Row ρ] {t : Table ρ} (h : t.Numbered)
    {rows : List ρ} (hrows : rows.Sublist t.rows) {key : ρ → κ} (id? : κ → Option Id)
    (hkey : ∀ row, id? (key row) = some (Row.id row)) : (rows.map key).Nodup := by
  refine List.Nodup.of_map id? ?_
  have hids : (rows.map key).map id? = (rows.map Row.id).map some := by
    simp only [List.map_map]
    exact List.map_congr_left fun row _ => hkey row
  rw [hids]
  exact (h.nodup.sublist (hrows.map _)).map (Option.some_injective _)

theorem Books.Entitled.nodup_keys {books : Books} (h : books.Entitled) {grants : List Grant}
    (hgrants : grants.Sublist books.grants.rows) :
    (grants.map fun g => (some g.eventId, some g.requestId, some g.rewardId)).Nodup := by
  refine List.pairwise_map.mpr ((h.once.sublist hgrants).imp fun hne heq => hne ?_)
  simp only [Prod.mk.injEq, Option.some.injEq] at heq
  exact heq.2

theorem RequestStatus.mem_past_iff {status target : RequestStatus} :
    target ∈ status.past ↔ (status = target ∨ target = .approved ∧ status = .issued) ∧
      target ∈ movingKinds.map Prod.snd := by
  cases status <;> cases target <;> simp [past, movingKinds]

theorem Database.Audited.onePer_move {db : Database} (h : db.Audited) {logType : LogType}
    {target : RequestStatus} (hkind : (logType, target) ∈ movingKinds) :
    OnePer (reports logType (fun n => (n.eventId, n.requestId)) db.told)
      ((db.books.requests.rows.filter fun q =>
        q.status = target ∨ target = .approved ∧ q.status = .issued).map fun q =>
          (some q.eventId, some q.id)) where
  distinct := h.entitled.numbered.requests.nodup_keys List.filter_sublist Prod.snd fun _ => rfl
  perm := by
    have hperm := perm_reports_move h.matters hkind
    have htarget : target ∈ movingKinds.map Prod.snd := List.mem_map_of_mem hkind
    simpa only [RequestStatus.mem_past_iff, htarget, and_true] using hperm

theorem Database.Audited.reconciled {db : Database} (h : db.Audited) :
    db.books.Reconciled db.told where
  created := ⟨h.entitled.numbered.events.nodup_keys (.refl _) id fun _ => rfl,
    perm_reports_eventCreated h.matters⟩
  offered := ⟨h.entitled.numbered.rewards.nodup_keys (.refl _) Prod.snd fun _ => rfl,
    perm_reports_rewardCreated h.matters⟩
  participated := perm_reports_eventParticipated h.matters
  requested := ⟨h.entitled.numbered.requests.nodup_keys (.refl _) Prod.snd fun _ => rfl,
    perm_reports_rewardRequested h.matters⟩
  issued := ⟨h.entitled.nodup_keys (.refl _), perm_reports_rewardIssued h.matters⟩
  approved := by simpa using h.onePer_move (by decide : (_, .approved) ∈ movingKinds)
  counted := h.counted
  delivered := by simpa using h.onePer_move (by decide : (_, .issued) ∈ movingKinds)
  rejected := by simpa using h.onePer_move (by decide : (_, .rejected) ∈ movingKinds)
  cancelled := by simpa using h.onePer_move (by decide : (_, .cancelled) ∈ movingKinds)
  used := ⟨h.entitled.nodup_keys List.filter_sublist, perm_reports_rewardUsed h.matters⟩
  chronicle := h.chronicled.chronicle

/-- **After every run the journal reconciles with the tables**, if it accepted what was noted. -/
theorem journal_reconciles {ms : List Moment}
    (hms : ∀ m ∈ ms, m.CallsOnly Action.IsAudited ∧ m.session.NotesAll) :
    (Database.empty.after ms).books.Reconciled (Database.empty.after ms).told :=
  (Database.audited_after hms).reconciled

/-- A run of web requests in which a request is approved and its event ends. -/
def approvingAndEndingRun : List Moment :=
  let request := WritingVerb.updateRequest ({} : Table RewardRequest).nextId.text
  let event := WritingVerb.updateEvent ({} : Table Event).nextId.text
  offeringRun ++
    [⟨{ clock := ⟨3000000⟩ },
        .request (WritingVerb.createRequest.request "ann" (askingBody .empty))⟩,
      ⟨{ clock := ⟨4000000⟩ }, .request (request.request "admin" [("status", .str "APPROVED")])⟩,
      ⟨{ clock := ⟨5000000⟩ }, .request (event.request "admin" [("status", .str "ENDED")])⟩]

theorem journal_reconciles_approvingAndEndingRun :
    let db := Database.empty.after approvingAndEndingRun
    (∀ m ∈ approvingAndEndingRun, m.CallsOnly Action.IsAudited ∧ m.session.NotesAll) ∧
      db.books.Reconciled db.told ∧
      db.told.map Note.logType = [.eventCreated, .rewardCreated, .rewardRequested, .rewardIssued,
        .rewardApproved, .eventStatusChanged, .eventUpdated] := by
  have hms : ∀ m ∈ approvingAndEndingRun, m.CallsOnly Action.IsAudited ∧ m.session.NotesAll := by
    intro m hm
    simp only [approvingAndEndingRun, offeringRun, List.cons_append, List.nil_append, List.mem_cons,
      List.not_mem_nil, or_false] at hm
    rcases hm with rfl | rfl | rfl | rfl | rfl <;>
      exact ⟨fun _ hcall => (by cases hcall), fun _ => rfl⟩
  exact ⟨hms, journal_reconciles hms, by decide +kernel⟩

end Promotions
