import Promotions.Proofs.Entitlements
import Promotions.Proofs.Surfaces

/-!
# Grants are snapshots

A grant is a copy of its reward, made when its request is approved: what becomes of the reward or of
the request later does not show in it. From then on only its user and its expiry date matter. It is
active until it is used, while its expiry date has not passed, or until it expires, once that has;
after that nothing of it changes any more.

`Grant.IsIssued` says what a grant is like when it is given (`Change.isIssued`), `Grant.StepsBy`
what may happen to it in one step (`Change.grants_step`), and `Grant.IsSettled` how its status and
the time of its use go together, which every step keeps. `grants_are_snapshots` follows the grants
through whole runs.
-/

namespace Promotions

open Table (Evolves newRows)

/-! ### Copies of rewards -/

/-- **A grant offers what a reward offers.** -/
structure Grant.Copies (g : Grant) (r : Reward) : Prop where
  rewardId_eq : g.rewardId = r.id
  name_eq : g.name = r.name
  description_eq : g.description = r.description
  type_eq : g.type = r.type
  value_eq : g.value = r.value
  metadata_eq : g.metadata = r.metadata
  expiryDate_eq : g.expiryDate = r.expiryDate

/-- **A grant as it is given**: a copy of its reward, active, and issued when its request was
approved. -/
structure Grant.IsIssued (g : Grant) (books after : Books) : Prop where
  copies : ∃ r, books.rewards.find? g.rewardId = some r ∧ g.Copies r
  approved : ∃ q, after.requests.find? g.requestId = some q ∧ q.status = .approved ∧
    q.approvedAt = g.issuedAt
  issued : g.issuedAt.isSome = true
  active : g.status = .active
  unused : g.usedAt = none

theorem Metadata.copy_eq_ok {metadata : Json} (h : metadata.isObjectOrNull = true) :
    copy metadata = .ok { content := metadata } := by
  unfold copy
  rw [if_pos]
  cases metadata with
  | obj members => rfl
  | null => rfl
  | bool | int | double | str | arr => cases h

theorem Reward.IsShaped.copied_eq {r : Reward} (h : r.IsShaped) {copied : Metadata.Copied}
    (hcopied : Metadata.copy r.metadata = .ok copied) : copied.content = r.metadata := by
  rw [Metadata.copy_eq_ok h.isObjectOrNull] at hcopied
  cases Except.ok.inj hcopied
  rfl

namespace Books

/-- **What is granted copies the rewards** as they were before. That an earlier grant of the list
has taken a piece of the stock does not show in a copy. -/
theorem Granting.copies {s : Session} {request : RewardRequest} {operator : Option String}
    {now : Instant} {books after : Books} {ids : List Id} {grants : List Grant} {notes : List Note}
    (h : Granting s request operator now books ids after grants notes)
    (hshaped : ∀ r ∈ books.rewards.rows, r.IsShaped) :
    ∀ g ∈ grants, (∃ r, books.rewards.find? g.rewardId = some r ∧ g.Copies r) ∧
      g.issuedAt = some now ∧ g.status = .active ∧ g.usedAt = none := by
  induction h with
  | done books => simp
  | skipped hnone hrest ih => exact ih hshaped
  | @granted books after id rest grants notes reward copied grant view hreward hstock hcopied hgrant
      hnew hview hrest ih =>
    intro g hg
    rcases List.mem_cons.mp hg with rfl | hg
    · have hid : reward.id = id := Table.id_of_find?_eq_some hreward
      have hcontent := (hshaped reward (Table.mem_of_find?_eq_some hreward)).copied_eq hcopied
      rw [hgrant]
      refine ⟨⟨reward, ?_, ⟨rfl, rfl, rfl, rfl, rfl, hcontent, rfl⟩⟩, rfl, rfl, rfl⟩
      rw [show (Grant.ofReward _ request reward copied.content now).rewardId = id from hid, hreward]
    · obtain ⟨⟨r, hr, hcopies⟩, hrest⟩ := ih (shaped_withGrant hshaped) g hg
      refine ⟨?_, hrest⟩
      rw [find?_withGrant] at hr
      obtain ⟨old, hold, rfl⟩ := Option.map_eq_some_iff.mp hr
      refine ⟨old, hold, ?_⟩
      split at hcopies
      · exact ⟨hcopies.rewardId_eq, hcopies.name_eq, hcopies.description_eq, hcopies.type_eq,
          hcopies.value_eq, hcopies.metadata_eq, hcopies.expiryDate_eq⟩
      · exact hcopies

/-- **What an approval grants** is issued when the request is approved. -/
theorem Moving.isIssued {s : Session} {books after : Books} {request : RewardRequest}
    {operator reason : Option String} {now : Instant} {target : RequestStatus} {notes : List Note}
    (h : Moving s books request operator reason now target after notes) (hbooks : books.Numbered)
    (hshaped : ∀ r ∈ books.rewards.rows, r.IsShaped) (hrequest : request ∈ books.requests.rows) :
    ∀ g ∈ newRows books.grants after.grants, g.IsIssued books after := by
  intro g hg
  by_cases htarget : target = .approved
  · subst htarget
    have hafter := h.numbered hbooks
    obtain ⟨ids, issued, grants, granted, -, hgranting, -, hgrants, -⟩ := h.exists_granting
    rw [hgrants] at hg
    have hnew : g ∈ grants := by
      rwa [(hgranting.numbered hbooks).grants.newRows_append hgranting.rows_grants] at hg
    obtain ⟨hcopies, hissuedAt, hactive, hunused⟩ := hgranting.copies hshaped g hnew
    have hrequestId := (hgranting.eq_ofReward g hnew).2.2
    -- the row of the request carries the time of the approval
    have hid := request.id_moved .approved operator reason now s.stamp
    have hmem : request.moved .approved operator reason now s.stamp ∈ after.requests.rows :=
      (mem_requests_put h.requests_eq hrequest hid).mpr (Or.inl rfl)
    have hfound := hafter.requests.find?_eq_some_iff.mpr ⟨hmem, hid⟩
    rw [← hrequestId] at hfound
    refine ⟨hcopies, ⟨_, hfound, rfl, hissuedAt.symm⟩, ?_, hactive, hunused⟩
    rw [hissuedAt]
    rfl
  · rw [(h.stock_eq htarget).2, Table.newRows_self] at hg
    cases hg

end Books

/-- **Every grant that an action adds** is as grants are when they are given. -/
theorem Change.isIssued {s : Session} {books after : Books} {action : Action} {notes : List Note}
    (h : Change s books action after notes) (hissues : action.IssuesByApproval)
    (hbooks : books.Numbered) (hshaped : ∀ r ∈ books.rewards.rows, r.IsShaped) :
    ∀ g ∈ newRows books.grants after.grants, g.IsIssued books after := by
  have hsame (hgrants : after.grants = books.grants) :
      ∀ g ∈ newRows books.grants after.grants, g.IsIssued books after := by
    rw [hgrants, Table.newRows_self]
    simp
  cases h with
  | nothing | noted | eventMade | eventEdited | rewardMade | rewardEdited | tookPart =>
    exact hsame rfl
  | filed _ hraced hfiling => exact hsame (hfiling.stock_eq.2.trans hraced.grants_eq)
  | filedAndApproved _ hraced hfiling _ hfound _ hmoving =>
    have hfiled := hfiling.numbered (hraced.numbered hbooks)
    have hrewards := hfiling.stock_eq.1.trans hraced.rewards_eq
    have hgrants := hfiling.stock_eq.2.trans hraced.grants_eq
    rw [← hgrants]
    intro g hg
    have hissued := hmoving.isIssued hfiled (by rwa [hrewards]) (Table.mem_of_find?_eq_some hfound) g hg
    exact { hissued with copies := hrewards ▸ hissued.copies }
  | moved hfound _ hmoving =>
    exact hmoving.isIssued hbooks hshaped (Table.mem_of_find?_eq_some hfound)
  | cancelled hfound _ _ hmoving =>
    exact hmoving.isIssued hbooks hshaped (Table.mem_of_find?_eq_some hfound)
  | issued => exact absurd hissues id
  | used =>
    -- neither use nor expiry adds a grant
    rw [Table.put, Table.newRows_modify fun _ _ => rfl]
    simp
  | expired now =>
    have hnil : newRows books.grants (books.expireGrants (now.getD s.clock)).books.grants = [] := by
      refine Table.newRows_eq_nil fun g hg => ?_
      obtain ⟨old, hold, rfl⟩ := List.mem_map.mp hg
      exact ⟨old, hold, (old.continues_expire _).id_eq.symm⟩
    rw [hnil]
    simp

/-! ### The life of a grant -/

namespace Grant

theorem isPast_eq_false_iff {g : Grant} {now : Instant} :
    g.isPast now = false ↔ ∀ expiryDate, g.expiryDate = some expiryDate → now ≤ expiryDate := by
  unfold isPast
  cases g.expiryDate with
  | none => simp
  | some expiryDate =>
    simp only [Option.any_some, decide_eq_false_iff_not, Option.some.injEq, forall_eq']
    exact Int.not_lt

theorem isDue_iff {g : Grant} {now : Instant} :
    g.isDue now = true ↔
      g.status = .active ∧ ∃ expiryDate, g.expiryDate = some expiryDate ∧ expiryDate < now := by
  simp [isDue, isPast, Option.any_eq_true]

/-- **The status of a grant and the time of its use go together**, and it was used in time. -/
structure IsSettled (g : Grant) : Prop where
  listed : g.status = .active ∨ g.status = .used ∨ g.status = .expired
  used_iff : g.usedAt.isSome = true ↔ g.status = .used
  inTime : ∀ usedAt expiryDate, g.usedAt = some usedAt → g.expiryDate = some expiryDate →
    usedAt ≤ expiryDate

theorem IsIssued.isSettled {g : Grant} {books after : Books} (h : g.IsIssued books after) :
    g.IsSettled where
  listed := Or.inl h.active
  used_iff := by rw [h.unused, h.active]; exact ⟨nofun, nofun⟩
  inTime := by rw [h.unused]; exact nofun

namespace StepsBy

variable {s : Session} {action : Action} {g g' : Grant} (h : g.StepsBy s action g')
include h

theorem eq_of_ne_active (hstatus : g.status ≠ .active) : g' = g := by
  cases h with
  | kept => rfl
  | used _ hactive => exact absurd hactive hstatus
  | expired _ hdue => exact absurd (isDue_iff.mp hdue).1 hstatus

theorem isSettled (hg : g.IsSettled) : g'.IsSettled := by
  cases h with
  | kept => exact hg
  | used _ _ hpast =>
    refine ⟨Or.inr (Or.inl rfl), ⟨fun _ => rfl, fun _ => rfl⟩, fun usedAt expiryDate hused hexpiry => ?_⟩
    cases hused
    exact isPast_eq_false_iff.mp hpast expiryDate hexpiry
  | expired _ hdue =>
    have hactive := (isDue_iff.mp hdue).1
    have hunused : ¬g.usedAt.isSome = true := by
      rw [hg.used_iff, hactive]
      exact nofun
    exact ⟨Or.inr (Or.inr rfl), ⟨fun hused => absurd hused hunused, nofun⟩, hg.inTime⟩

theorem exists_expiryDate (hbefore : g.status ≠ .expired) (hafter : g'.status = .expired) :
    g.status = .active ∧ ∃ now expiryDate, action = .expireGrants now ∧
      g'.expiryDate = some expiryDate ∧ expiryDate < now.getD s.clock := by
  cases h with
  | kept => exact absurd hafter hbefore
  | used => exact nomatch hafter
  | @expired now haction hdue =>
    obtain ⟨hactive, expiryDate, hexpiry, hlt⟩ := isDue_iff.mp hdue
    exact ⟨hactive, now, expiryDate, haction, hexpiry, hlt⟩

end StepsBy

end Grant

/-- What a moment does to a grant that is there. -/
def Moment.Steps (m : Moment) (g g' : Grant) : Prop :=
  g' = g ∨ ∃ action, m.asked? = some action ∧ g.StepsBy m.acting action g'

theorem Moment.Steps.continues {m : Moment} {g g' : Grant} (h : m.Steps g g') : g.Continues g' := by
  rcases h with rfl | ⟨action, -, hstep⟩
  · exact .refl g'
  · exact hstep.continues

/-- **At every moment** each grant that is there takes a step of its life, or none. -/
theorem Moment.grants_step (m : Moment) {db : Database} (hdb : db.books.Numbered) :
    Evolves m.Steps db.books.grants (m.after db).books.grants := by
  rcases m.after_eq_or_writes db with heq | ⟨action, hasked, notes, hchange, -⟩
  · rw [heq]
    exact .refl (fun g => (Or.inl rfl : m.Steps g g)) _
  · exact (hchange.grants_step hdb).mono fun _ _ hstep => Or.inr ⟨action, hasked, hstep⟩

/-! ### Along a run -/

namespace Database

theorem grants_frozen {db : Database} (hdb : db.books.Numbered) (ms : List Moment) :
    Evolves (fun g g' : Grant => g.Continues g' ∧ (g.status ≠ .active → g' = g)) db.books.grants
      (db.after ms).books.grants := by
  refine evolves_after Books.grants (fun g => ⟨.refl g, fun _ => rfl⟩) ?_ ?_ hdb ms
  · rintro a b c ⟨hab, hab'⟩ ⟨hbc, hbc'⟩
    refine ⟨.trans a b c hab hbc, fun ha => ?_⟩
    cases hab' ha
    exact hbc' ha
  · intro s books action after notes hnumbered hchange
    exact (hchange.grants_step hnumbered).mono fun _ _ hstep =>
      ⟨hstep.continues, hstep.eq_of_ne_active⟩

theorem Reachable.issued {db : Database} (h : db.Reachable Action.IssuesByApproval) {m : Moment}
    (hm : m.CallsOnly Action.IssuesByApproval) :
    ∀ g ∈ newRows db.books.grants (m.after db).books.grants,
      g.IsIssued db.books (m.after db).books := by
  rcases m.books_eq_or_change Action.IsPublic.issuesByApproval hm db with
    heq | ⟨action, notes, -, hissues, hchange⟩
  · rw [heq, Table.newRows_self]
    simp
  · exact hchange.isIssued hissues h.numbered h.shaped_rewards

/-- **Where an expired grant comes from**: some moment of the run found its expiry date passed. -/
def ExpiresIn (ms : List Moment) (g : Grant) : Prop :=
  ∃ before m later, ms = before ++ m :: later ∧ ∃ now expiryDate,
    m.asked? = some (.expireGrants now) ∧ g.expiryDate = some expiryDate ∧
      expiryDate < now.getD m.session.clock ∧
        ∃ old, (empty.after before).books.grants.find? g.id = some old ∧ old.status = .active

theorem ExpiresIn.append {ms : List Moment} {g : Grant} (h : ExpiresIn ms g) (more : List Moment) :
    ExpiresIn (ms ++ more) g := by
  obtain ⟨before, m, later, rfl, hmoment⟩ := h
  exact ⟨before, m, later ++ more, by simp, hmoment⟩

/-- **Grants are settled after every run**, and each that has expired did so in the run. The
induction is on the run from its end: a grant either is new, or it takes a step. -/
theorem settled_after {ms : List Moment} (hms : ∀ m ∈ ms, m.CallsOnly Action.IssuesByApproval) :
    ∀ g ∈ (empty.after ms).books.grants.rows,
      g.IsSettled ∧ (g.status = .expired → ExpiresIn ms g) := by
  induction ms using List.reverseRecOn with
  | nil => simp [empty]
  | append_singleton ms m ih =>
    have hbefore : ∀ m' ∈ ms, m'.CallsOnly Action.IssuesByApproval := fun m' hm' =>
      hms m' (List.mem_append_left _ hm')
    have hreach : (empty.after ms).Reachable Action.IssuesByApproval := ⟨ms, hbefore, rfl⟩
    have hnumbered := hreach.numbered
    have hafter : (m.after (empty.after ms)).books.Numbered := numbered_after hnumbered [m]
    intro g hg
    rw [after_append] at hg
    rcases (m.grants_step hnumbered).mem hafter.grants (fun _ _ hstep => hstep.continues.id_eq) hg
      with ⟨old, hold, hstep⟩ | hnew
    · obtain ⟨hsettled, hexpires⟩ := ih hbefore old hold
      rcases hstep with rfl | ⟨action, hasked, hstep⟩
      · exact ⟨hsettled, fun hexpired => (hexpires hexpired).append [m]⟩
      · refine ⟨hstep.isSettled hsettled, fun hexpired => ?_⟩
        by_cases hold' : old.status = .expired
        · have hsame : g = old := hstep.eq_of_ne_active (by rw [hold']; exact nofun)
          rw [hsame]
          exact (hexpires hold').append [m]
        · obtain ⟨hactive, now, expiryDate, rfl, hexpiry, hlt⟩ :=
            hstep.exists_expiryDate hold' hexpired
          rw [m.clock_acting] at hlt
          refine ⟨ms, m, [], rfl, now, expiryDate, hasked, hexpiry, hlt, old, ?_, hactive⟩
          exact hnumbered.grants.find?_eq_some_iff.mpr ⟨hold, hstep.continues.id_eq.symm⟩
    · have hissued := hreach.issued (hms m (by simp)) g hnew
      refine ⟨hissued.isSettled, fun hexpired => ?_⟩
      rw [hissued.active] at hexpired
      cases hexpired

end Database

/-- **Grants are snapshots.** In every run in which rewards are issued by approval only, each grant
that a moment adds is a copy of its reward as it is stored then, and is issued at the time at which
its request was approved. Each moment lets a grant be, or uses it, or lets it expire; so of its
columns only the status and the time of use ever change, and nothing once it is no longer active. A
grant has a time of use just if it is used, and that is not after its expiry date; and a grant that
has expired had its expiry date before the time of the moment at which it did. -/
theorem grants_are_snapshots {ms : List Moment}
    (hms : ∀ m ∈ ms, m.CallsOnly Action.IssuesByApproval) :
    (∀ before m later, ms = before ++ m :: later →
      let db := Database.empty.after before
      let after := m.after db
      (∀ g ∈ newRows db.books.grants after.books.grants, g.IsIssued db.books after.books) ∧
      (∀ g ∈ db.books.grants.rows, ∃ g', after.books.grants.find? g.id = some g' ∧
        (g' = g ∨ ∃ action, m.asked? = some action ∧ g.StepsBy m.acting action g')) ∧
      ∀ g ∈ after.books.grants.rows,
        ∃ g', (Database.empty.after ms).books.grants.find? g.id = some g' ∧
          (∃ status usedAt, g' = { g with status, usedAt }) ∧ (g.status ≠ .active → g' = g)) ∧
    ∀ g ∈ (Database.empty.after ms).books.grants.rows,
      (g.status = .active ∨ g.status = .used ∨ g.status = .expired) ∧
      (g.usedAt.isSome = true ↔ g.status = .used) ∧
      (∀ usedAt expiryDate, g.usedAt = some usedAt → g.expiryDate = some expiryDate →
        usedAt ≤ expiryDate) ∧
      (g.status = .expired → ∃ before m later, ms = before ++ m :: later ∧ ∃ now expiryDate,
        m.asked? = some (.expireGrants now) ∧ g.expiryDate = some expiryDate ∧
          expiryDate < now.getD m.session.clock ∧ ∃ old,
            (Database.empty.after before).books.grants.find? g.id = some old ∧
              old.status = .active) := by
  constructor
  · rintro before m later rfl
    obtain ⟨hbefore, hm, hlater⟩ := List.forall_mem_append.mp hms |>.imp_right List.forall_mem_cons.mp
    have hreach : (Database.empty.after before).Reachable Action.IssuesByApproval :=
      ⟨before, hbefore, rfl⟩
    have hnumbered := hreach.numbered
    have hafter : (m.after (Database.empty.after before)).books.Numbered :=
      Database.numbered_after hnumbered [m]
    refine ⟨hreach.issued hm, fun g hg => ?_, fun g hg => ?_⟩
    · have hfound := hnumbered.grants.find?_eq_some_iff.mpr ⟨hg, rfl⟩
      exact (m.grants_step hnumbered).exists_find? hafter.grants
        (fun _ _ hstep => hstep.continues.id_eq) hfound
    · have hfound := hafter.grants.find?_eq_some_iff.mpr ⟨hg, rfl⟩
      rw [Database.after_append, Database.after_cons]
      exact (Database.grants_frozen hafter later).exists_find?
        (Database.numbered_after hafter later).grants (fun _ _ hstep => hstep.1.id_eq) hfound
  · intro g hg
    obtain ⟨hsettled, hexpires⟩ := Database.settled_after hms g hg
    exact ⟨hsettled.listed, hsettled.used_iff, hsettled.inTime, hexpires⟩

/-- A run of web requests and of the scheduler. The reward of `offeringRun` is to expire eight
seconds after the start; two users are given it, and then its value is edited. One of them uses it
just when it expires, the scheduler finds nothing then, and a second later it finds the other one's
grant. -/
def expiringRun : List Moment :=
  let reward := WritingVerb.updateReward ({} : Table Reward).nextId.text
  let first := ({} : Table RewardRequest).nextId
  let approve (id : Id) := (WritingVerb.updateRequest id.text).request "admin"
    [("status", .str "APPROVED")]
  offeringRun ++
    [⟨{ clock := ⟨3000000⟩ }, .request (reward.request "admin"
        [("total_quantity", .int 2), ("expiry_date", .str "1970-01-01T00:00:08Z")])⟩,
      ⟨{ clock := ⟨4000000⟩ },
        .request (WritingVerb.createRequest.request "ann" (askingBody .empty))⟩,
      ⟨{ clock := ⟨4000000⟩ },
        .request (WritingVerb.createRequest.request "bob" (askingBody .empty))⟩,
      ⟨{ clock := ⟨5000000⟩ }, .request (approve first)⟩,
      ⟨{ clock := ⟨5000000⟩ }, .request (approve ⟨first.val + 1⟩)⟩,
      ⟨{ clock := ⟨6000000⟩ }, .request (reward.request "admin" [("value", .str "silver")])⟩,
      ⟨{ clock := ⟨8000000⟩ }, .request
        { method := "POST", path := ["user-rewards", ({} : Table Grant).nextId.text, "use"]
          user := some "ann" }⟩,
      ⟨{ clock := ⟨8000000⟩ }, .run true⟩,
      ⟨{ clock := ⟨9000000⟩ }, .run true⟩]

theorem grants_are_snapshots_expiringRun :
    let books := (Database.empty.after expiringRun).books
    (∀ m ∈ expiringRun, m.CallsOnly Action.IssuesByApproval) ∧
      (books.rewards.rows.map Reward.value = ["silver"] ∧
        books.grants.rows.map (fun g => (g.userId, g.value, g.status, g.usedAt)) =
          [("ann", "gold", .used, some ⟨8000000⟩), ("bob", "gold", .expired, none)]) ∧
      ∀ g ∈ books.grants.rows, g.status = .expired →
        ∃ before m later, expiringRun = before ++ m :: later ∧ ∃ now expiryDate,
          m.asked? = some (.expireGrants now) ∧ g.expiryDate = some expiryDate ∧
            expiryDate < now.getD m.session.clock := by
  intro books
  have hms : ∀ m ∈ expiringRun, m.CallsOnly Action.IssuesByApproval := by
    intro m hm
    simp only [expiringRun, offeringRun, List.cons_append, List.nil_append, List.mem_cons,
      List.not_mem_nil, or_false] at hm
    rcases hm with rfl | rfl | rfl | rfl | rfl | rfl | rfl | rfl | rfl | rfl | rfl <;>
      exact fun _ hcall => by cases hcall
  obtain ⟨-, hgrants⟩ := grants_are_snapshots hms
  refine ⟨hms, ⟨by decide +kernel, by decide +kernel⟩, fun g hg hexpired => ?_⟩
  obtain ⟨-, -, -, hexpires⟩ := hgrants g hg
  obtain ⟨before, m, later, heq, now, expiryDate, hasked, hexpiry, hlt, -⟩ := hexpires hexpired
  exact ⟨before, m, later, heq, now, expiryDate, hasked, hexpiry, hlt⟩

end Promotions
