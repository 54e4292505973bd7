import Promotions.Proofs.Approval
import Promotions.Proofs.LifeCycle
import Promotions.Proofs.Links
import Promotions.Proofs.Renumbering
import Promotions.Proofs.Surfaces

/-!
# Which participations are marked as rewarded

The latest participation of a user is looked up twice for a request: when the request is filed, and
then that participation carries it, and when the request is approved, and then that participation is
marked, if it is the one that carries the request. Whoever takes part once more in between has
overtaken their own participation. Then nothing is marked, neither at the approval nor later, as
long as the participation carries this request. Where a request is approved as it is filed, nobody
comes in between, and the mark stays whoever takes part afterwards (`rewarded_unless_overtaken`).

What happens to participations and requests together comes in few kinds (`Books.Turn`), and a change
of the books takes two of them at most (`Change.turn_or_turns`). What every turn keeps is
`Books.Marked`: a participation that carries a granted request, and that nobody has overtaken, has
been marked when the request was approved. What is once settled stays so (`Books.Settled`).
-/

namespace Promotions

open Table (Evolves)

/-! ### The first row from the latest -/

/-- The first row of a list from the latest, found without sorting the list. -/
def foremost? {ρ : Type} (time : ρ → Option Instant) : List ρ → Option ρ
  | [] => none
  | row :: rows =>
    match foremost? time rows with
    | none => some row
    | some first => if notAfter (time first) (time row) then some row else some first

section LatestFirst
variable {ρ : Type} {time : ρ → Option Instant}

/-- A row that is put in front comes before all that are not later, and after the others. -/
theorem latestFirst_cons (row : ρ) (rows : List ρ) :
    ∃ before after, latestFirst time (row :: rows) = before ++ row :: after ∧
      latestFirst time rows = before ++ after ∧
        ∀ first ∈ before, notAfter (time first) (time row) = false := by
  have hcons := @List.mergeSort_cons ρ (fun a b => notAfter (time b) (time a))
    (fun a b c hab hbc => notAfter_trans hbc hab) (fun a b => notAfter_total (time b) (time a))
    row rows
  simp only [Bool.not_eq_true'] at hcons
  exact hcons

theorem head?_latestFirst (rows : List ρ) :
    (latestFirst time rows).head? = foremost? time rows := by
  induction rows with
  | nil => simp [latestFirst, foremost?]
  | cons row rows ih =>
    have hsorted := pairwise_latestFirst time (row :: rows)
    obtain ⟨before, after, hcons, hrest, hlater⟩ := latestFirst_cons row rows
    rw [hcons] at hsorted ⊢
    rw [foremost?, ← ih, hrest]
    cases before with
    | nil =>
      cases after with
      | nil => rfl
      | cons first after =>
        have hnot : notAfter (time first) (time row) = true :=
          List.rel_of_pairwise_cons hsorted List.mem_cons_self
        simp [hnot]
    | cons first before => simp [hlater first List.mem_cons_self]

theorem head?_latestFirst_concat (rows : List ρ) (row : ρ) :
    (latestFirst time (rows ++ [row])).head? = some row ∨
      (latestFirst time (rows ++ [row])).head? = (latestFirst time rows).head? := by
  induction rows with
  | nil => exact Or.inl (by simp [latestFirst])
  | cons first rest ih =>
    rw [List.cons_append, head?_latestFirst, head?_latestFirst, foremost?, foremost?,
      ← head?_latestFirst, ← head?_latestFirst]
    rcases ih with hrow | hsame
    · rw [hrow]
      dsimp only
      split
      · next hnot =>
        refine Or.inr ?_
        split
        · rfl
        · next later hlater =>
          -- the row at the end is not before any, and the first one is not before it
          have hmem : later ∈ rest ++ [row] :=
            List.mem_append_left _ (mem_latestFirst.mp (List.mem_of_head? hlater))
          rw [if_pos (notAfter_trans (notAfter_of_head?_latestFirst hrow hmem) hnot)]
      · exact Or.inl rfl
    · rw [hsame]
      exact Or.inr rfl

end LatestFirst

namespace Books

/-! ### Which participation is the latest -/

/-- The identifier of the user's latest participation in an event. -/
def latestId? (books : Books) (eventId : Id) (userId : String) : Option Id :=
  (books.latestParticipation? eventId userId).map Participation.id

/-- No participation of its user for its event has overtaken the participation. -/
def IsLatest (books : Books) (p : Participation) : Prop :=
  books.latestId? p.eventId p.userId = some p.id

instance (books : Books) (p : Participation) : Decidable (books.IsLatest p) :=
  decidable_of_iff
    ((foremost? (fun p => some p.participatedAt) (books.participationsOf p.eventId p.userId)).map
      Participation.id = some p.id)
    (by rw [IsLatest, latestId?, latestParticipation?, head?_latestFirst])

section Latest
variable {books after : Books} {p : Participation} {request : RewardRequest} {now : Instant}

theorem isLatest_iff (hbooks : books.participations.Numbered)
    (hp : p ∈ books.participations.rows) :
    books.IsLatest p ↔ books.latestParticipation? p.eventId p.userId = some p := by
  constructor
  · intro h
    obtain ⟨latest, hlatest, hid⟩ := Option.map_eq_some_iff.mp h
    have hmem := (mem_participationsOf.mp (of_latestParticipation? hlatest).1).1
    exact hlatest.trans (congrArg some (hbooks.eq_of_id_eq hmem hp hid))
  · intro h
    rw [IsLatest, latestId?, h, Option.map_some]

theorem latestId?_congr (hsame : after.participations = books.participations) (eventId : Id)
    (userId : String) : after.latestId? eventId userId = books.latestId? eventId userId := by
  rw [latestId?, latestParticipation?_congr hsame, latestId?]

theorem latestId?_modify (books : Books) (id : Id) {f : Participation → Participation}
    (hf : ∀ p, (f p).attendance = p.attendance)
    (htime : ∀ p, (f p).participatedAt = p.participatedAt) (eventId : Id) (userId : String) :
    ({ books with participations := books.participations.modify id f } : Books).latestId? eventId
        userId = books.latestId? eventId userId := by
  unfold latestId? latestParticipation?
  rw [participationsOf_modify books id hf, latestFirst_map, List.head?_map, Option.map_map]
  · congr 1
    funext p
    simp only [Function.comp]
    split_ifs
    · exact congrArg Attendance.id (hf p)
    · rfl
  · intro p
    split_ifs
    · exact congrArg some (htime p)
    · rfl

@[simp]
theorem latestId?_linkParticipation (eventId : Id) (userId : String) :
    (books.linkParticipation request now).latestId? eventId userId =
      books.latestId? eventId userId := by
  unfold linkParticipation
  split
  · rfl
  · exact latestId?_modify _ _ (by exact fun _ => rfl) (by exact fun _ => rfl) eventId userId

@[simp]
theorem latestId?_markRewarded (eventId : Id) (userId : String) :
    (books.markRewarded request now).latestId? eventId userId =
      books.latestId? eventId userId := by
  unfold markRewarded
  split
  · rfl
  · split
    · exact latestId?_modify _ _ (by exact fun _ => rfl) (by exact fun _ => rfl) eventId userId
    · rfl

theorem latestId?_push {new : Participation}
    (hafter : after.participations = books.participations.push new) (eventId : Id)
    (userId : String) :
    after.latestId? eventId userId = some new.id ∨
      after.latestId? eventId userId = books.latestId? eventId userId := by
  have hown : after.participationsOf eventId userId =
      books.participationsOf eventId userId ++ [new] ∨
        after.participationsOf eventId userId = books.participationsOf eventId userId := by
    unfold participationsOf Table.filter
    rw [hafter, Table.rows_push, List.filter_append]
    by_cases hnew : new.eventId = eventId ∧ new.userId = userId ∧ new.status = .participated
    · exact Or.inl (by simp [hnew])
    · refine Or.inr ?_
      rw [List.filter_cons_of_neg (by simpa [and_assoc] using hnew)]
      simp
  unfold latestId? latestParticipation?
  rcases hown with hmore | hsame
  · rw [hmore]
    rcases head?_latestFirst_concat (books.participationsOf eventId userId) new with hnew | hold
    · exact Or.inl (by rw [hnew, Option.map_some])
    · exact Or.inr (by rw [hold])
  · exact Or.inr (by rw [hsame])

theorem IsLatest.of_push {new : Participation} (h : after.IsLatest p)
    (hbooks : books.participations.Numbered) (hp : p ∈ books.participations.rows)
    (hafter : after.participations = books.participations.push new)
    (hnew : new.id = books.participations.nextId) : books.IsLatest p := by
  rcases latestId?_push hafter p.eventId p.userId with hlatest | hsame
  · have hid : some new.id = some p.id := hlatest.symm.trans h
    exact absurd ((Option.some.inj hid).symm.trans hnew) (hbooks.id_ne_nextId hp)
  · exact hsame.symm.trans h

theorem participations_linkParticipation_congr (request : RewardRequest) (now : Instant)
    (hsame : after.participations = books.participations) :
    (after.linkParticipation request now).participations =
      (books.linkParticipation request now).participations := by
  unfold linkParticipation
  rw [latestParticipation?_congr hsame]
  split
  · exact hsame
  · rw [hsame]

/-- **The rows once a request was linked**: the latest one carries it, and the others stay. -/
theorem mem_linkParticipation (hbooks : books.participations.Numbered) {p' : Participation}
    (hp' : p' ∈ (books.linkParticipation request now).participations.rows) :
    books.IsLatest p' ∧ p'.rewardRequestId = some request.id ∨
      p' ∈ books.participations.rows := by
  unfold linkParticipation at hp'
  split at hp'
  · exact Or.inr hp'
  · next latest hlatest =>
    obtain ⟨p, hp, rfl⟩ := List.mem_map.mp hp'
    split_ifs with hid
    · obtain ⟨hmem, huser⟩ := mem_of_latestParticipation? hlatest
      have hevent := (mem_participationsOf.mp (of_latestParticipation? hlatest).1).2.1
      obtain rfl := hbooks.eq_of_id_eq hp hmem hid
      refine Or.inl ⟨?_, rfl⟩
      rw [IsLatest, latestId?]
      exact congrArg (Option.map Participation.id) (hevent ▸ huser ▸ hlatest)
    · exact Or.inr hp

/-- **The rows once a request was approved**: the latest one is marked if it carries the request,
and the others stay. -/
theorem mem_markRewarded (hbooks : books.participations.Numbered) {p' : Participation}
    (hp' : p' ∈ (books.markRewarded request now).participations.rows) :
    (∃ latest, books.latestParticipation? request.eventId request.userId = some latest ∧
        latest.rewardRequestId = some request.id ∧ p' = { latest with rewardedAt := some now }) ∨
      p' ∈ books.participations.rows ∧ (p'.rewardRequestId = some request.id →
        books.latestParticipation? request.eventId request.userId ≠ some p') := by
  unfold markRewarded at hp'
  split at hp'
  · next hnone =>
    refine Or.inr ⟨hp', fun _ hlatest => ?_⟩
    rw [hnone] at hlatest
    cases hlatest
  · next latest hlatest =>
    split at hp'
    · next hcarried =>
      obtain ⟨p, hp, rfl⟩ := List.mem_map.mp hp'
      have hmem := (mem_participationsOf.mp (of_latestParticipation? hlatest).1).1
      split_ifs with hid
      · refine Or.inl ⟨latest, hlatest, hcarried, ?_⟩
        rw [hbooks.eq_of_id_eq hp hmem hid]
      · refine Or.inr ⟨hp, fun _ hsame => hid ?_⟩
        rw [hlatest] at hsame
        exact congrArg Participation.id (Option.some.inj hsame).symm
    · next hcarried =>
      refine Or.inr ⟨hp', fun hcarries hsame => hcarried ?_⟩
      rw [hlatest] at hsame
      rwa [Option.some.inj hsame]

theorem mem_markRewarded_of_not_isLatest (hp : p ∈ books.participations.rows)
    (hcarries : p.Carries request) (hnot : ¬books.IsLatest p) :
    p ∈ (books.markRewarded request now).participations.rows := by
  unfold markRewarded
  split
  · exact hp
  · next latest hlatest =>
    split
    · refine List.mem_map.mpr ⟨p, hp, if_neg fun hid => hnot ?_⟩
      rw [hcarries.eventId_eq, hcarries.userId_eq] at hlatest
      rw [IsLatest, latestId?, hlatest, Option.map_some]
      exact congrArg some hid.symm
    · exact hp

end Latest

/-! ### Turns -/

/-- **What happens to participations and requests together.** -/
inductive Turn (books after : Books) : Prop
  /-- Nothing happens to either. -/
  | same (hparticipations : after.participations = books.participations)
      (hrequests : after.requests = books.requests)
  /-- A user takes part. -/
  | joined {new : Participation} (hid : new.id = books.participations.nextId) (hfree : new.IsFree)
      (hparticipations : after.participations = books.participations.push new)
      (hrequests : after.requests = books.requests)
  /-- A request is filed, and the latest participation carries it. -/
  | filed {q : RewardRequest} {now : Instant} (hid : q.id = books.requests.nextId)
      (hpending : q.status = .pending)
      (hparticipations : after.participations = (books.linkParticipation q now).participations)
      (hrequests : after.requests = books.requests.push q)
  /-- A request is decided on, but neither is it granted now nor was it granted in vain. -/
  | decided {q q' : RewardRequest} (hq : q ∈ books.requests.rows) (hid : q'.id = q.id)
      (hgranted : q'.status.isGranted = q.status.isGranted)
      (happroved : q'.approvedAt = q.approvedAt)
      (hparticipations : after.participations = books.participations)
      (hrequests : after.requests = books.requests.put q')
  /-- A request is approved, and the latest participation is marked if it carries the request. -/
  | approved {q q' : RewardRequest} {now : Instant} (hq : q ∈ books.requests.rows)
      (hpending : q.status = .pending) (hid : q'.id = q.id) (hgranted : q'.status.isGranted = true)
      (happroved : q'.approvedAt = some now)
      (hparticipations : after.participations = (books.markRewarded q now).participations)
      (hrequests : after.requests = books.requests.put q')

namespace Turn

variable {books after : Books}

theorem congr {same : Books} (h : Turn books after)
    (hparticipations : books.participations = same.participations)
    (hrequests : books.requests = same.requests) : Turn same after := by
  cases h with
  | same hkept hkept' => exact .same (hkept.trans hparticipations) (hkept'.trans hrequests)
  | joined hid hfree hpushed hkept =>
    exact .joined (hparticipations ▸ hid) hfree (hparticipations ▸ hpushed) (hkept.trans hrequests)
  | filed hid hpending hlinked hpushed =>
    exact .filed (hrequests ▸ hid) hpending
      (hlinked.trans (participations_linkParticipation_congr _ _ hparticipations))
      (hrequests ▸ hpushed)
  | decided hq hid hgranted happroved hkept hput =>
    exact .decided (hrequests ▸ hq) hid hgranted happroved (hkept.trans hparticipations)
      (hrequests ▸ hput)
  | approved hq hpending hid hgranted happroved hmarked hput =>
    exact .approved (hrequests ▸ hq) hpending hid hgranted happroved
      (hmarked.trans (participations_markRewarded_congr _ _ hparticipations)) (hrequests ▸ hput)

end Turn

section Turns
variable {s : Session} {books after : Books} {request : RewardRequest} {now : Instant}
  {notes : List Note}

theorem Filing.turn {event : Event} {rewards : List Id} {userId : String} {verificationData : Json}
    (h : Filing s books event rewards userId verificationData now request after notes) :
    Turn books after := by
  have hparticipations :
      after.participations = (books.linkParticipation request now).participations := by
    rw [h.after_eq]
    exact participations_linkParticipation_congr request now rfl
  exact .filed h.id_eq h.status_eq hparticipations h.requests_eq

theorem Moving.turn {operator reason : Option String} {target : RequestStatus}
    (h : Moving s books request operator reason now target after notes)
    (hrequest : request ∈ books.requests.rows) (hmay : request.status.mayBecome target = true) :
    Turn books after := by
  have hid := request.id_moved target operator reason now s.stamp
  have hrequests := h.requests_eq
  have hpending (htarget : target ≠ .issued) : request.status = .pending := by
    generalize request.status = status at hmay ⊢
    cases RequestStatus.mayBecome_iff.mp hmay with
    | approve | reject | cancel => rfl
    | deliver => exact absurd rfl htarget
  cases h with
  | approved hwanted hids hgranting hgrants hnote =>
    refine .approved hrequest (hpending nofun) hid rfl rfl ?_ hrequests
    obtain ⟨rewards, table, rfl⟩ := hgranting.exists_eq
    exact participations_markRewarded_congr _ _ rfl
  | rejected hnote | cancelled hnote =>
    refine .decided hrequest hid ?_ rfl rfl hrequests
    rw [hpending nofun]
    rfl
  | delivered hnote =>
    refine .decided hrequest hid ?_ rfl rfl hrequests
    cases hs : request.status <;> simp [hs, RequestStatus.mayBecome] at hmay ⊢
    rfl

end Turns

end Books

open Books

/-- **A change takes one turn**, or two: it files a request and approves it at once. Then the other
requests stay as they are. -/
theorem Change.turn_or_turns {s : Session} {books after : Books} {action : Action}
    {notes : List Note} (h : Change s books action after notes) (hbooks : books.Tied) :
    Turn books after ∨ ∃ filed : Books, filed.Tied ∧ Turn books filed ∧ Turn filed after ∧
      ∀ q' ∈ after.requests.rows, q' ∈ books.requests.rows ∨ q'.id = books.requests.nextId := by
  have hrace {rival : Option Claim} {raced : Books} (hraced : Raced books rival raced) :
      raced.Tied := by
    have hnumbered := hraced.numbered hbooks.numbered
    obtain ⟨claims, rfl⟩ := hraced.exists_eq
    exact hbooks.of_eq hnumbered rfl (.refl RewardRequest.Upholds.refl _)
  cases h with
  | nothing | noted | eventMade | eventEdited | rewardMade | rewardEdited | used | expired =>
    exact Or.inl (.same rfl rfl)
  | tookPart _ _ _ _ _ _ hparticipation =>
    refine Or.inl (.joined ?_ ?_ rfl rfl)
    · rw [hparticipation]
      rfl
    · rw [hparticipation]
      exact ⟨rfl, rfl, rfl, rfl⟩
  | filed _ hraced hfiling =>
    obtain ⟨claims, rfl⟩ := hraced.exists_eq
    exact Or.inl (hfiling.turn.congr rfl rfl)
  | filedAndApproved _ hraced hfiling _ hfound hmay hmoving =>
    have htied := hfiling.tied (hrace hraced)
    have hnumbered := hraced.numbered hbooks.numbered
    have hrequests := (hfiling.requests_of_moving hnumbered hfound hmoving).2
    have hid := hfiling.id_eq
    obtain ⟨claims, rfl⟩ := hraced.exists_eq
    refine Or.inr ⟨_, htied, hfiling.turn.congr rfl rfl,
      hmoving.turn (Table.mem_of_find?_eq_some hfound) hmay, fun q' hq' => ?_⟩
    rw [hrequests] at hq'
    rcases List.mem_append.mp hq' with hold | hnew
    · exact Or.inl hold
    · rw [List.mem_singleton.mp hnew, RewardRequest.id_moved]
      exact Or.inr hid
  | moved hfound hmay hmoving | cancelled hfound _ hmay hmoving =>
    exact Or.inl (hmoving.turn (Table.mem_of_find?_eq_some hfound) hmay)
  | issued _ _ _ hgranting =>
    obtain ⟨rewards, table, rfl⟩ := hgranting.exists_eq
    exact Or.inl (.same rfl rfl)

/-! ### What every turn keeps -/

namespace Books

/-- **A participation that carries a granted request was marked when that was approved**, unless its
user has overtaken it. -/
structure Marked (books : Books) : Prop where
  tied : books.Tied
  marked : ∀ p ∈ books.participations.rows, ∀ q ∈ books.requests.rows,
    p.rewardRequestId = some q.id → q.status.isGranted = true → books.IsLatest p →
      ∃ time, q.approvedAt = some time ∧ p.rewardedAt = some time

theorem marked_empty : ({} : Books).Marked := ⟨tied_empty, by simp⟩

section Tied
variable {books after : Books} {p : Participation} {q : RewardRequest}

theorem Tied.carries (h : books.Tied) (hp : p ∈ books.participations.rows)
    (hq : q ∈ books.requests.rows) (hcarried : p.rewardRequestId = some q.id) : p.Carries q := by
  obtain ⟨found, hfound, hid, hcarries⟩ := (h.ties p hp).exists_carries hcarried
  rwa [← h.numbered.requests.eq_of_id_eq hfound hq hid]

/-- **Whatever carries a request when that is approved** is marked, if it is the latest one. -/
theorem Tied.rewardedAt_of_markRewarded (h : books.Tied) (hq : q ∈ books.requests.rows)
    {now : Instant} (hp : p ∈ (books.markRewarded q now).participations.rows)
    (hcarried : p.rewardRequestId = some q.id)
    (hlatest : p ∈ books.participations.rows → books.IsLatest p) : p.rewardedAt = some now := by
  rcases mem_markRewarded h.numbered.participations hp with ⟨latest, -, -, rfl⟩ | ⟨hp, hnot⟩
  · rfl
  · -- had it been the latest, it would have been marked
    have hcarries := h.carries hp hq hcarried
    refine absurd ?_ (hnot hcarried)
    rw [hcarries.userId_eq, hcarries.eventId_eq]
    exact (isLatest_iff h.numbered.participations hp).mp (hlatest hp)

end Tied

theorem Marked.turn {books after : Books} (h : books.Marked) (hturn : Turn books after)
    (hafter : after.Tied) : after.Marked := by
  refine ⟨hafter, fun p hp q hq hcarried hgranted hlatest => ?_⟩
  have hnumbered := h.tied.numbered
  cases hturn with
  | same hparticipations hrequests =>
    rw [hrequests] at hq
    rw [hparticipations] at hp
    rw [IsLatest, latestId?_congr hparticipations] at hlatest
    exact h.marked p hp q hq hcarried hgranted hlatest
  | joined hid hfree hparticipations hrequests =>
    rw [hrequests] at hq
    rw [hparticipations] at hp
    rcases List.mem_append.mp hp with hp | hp
    · exact h.marked p hp q hq hcarried hgranted
        (hlatest.of_push hnumbered.participations hp hparticipations hid)
    · rw [List.mem_singleton.mp hp, hfree.rewardRequestId_eq] at hcarried
      cases hcarried
  | @filed filed now hid hpending hparticipations hrequests =>
    rw [hparticipations] at hp
    rw [IsLatest, latestId?_congr hparticipations, latestId?_linkParticipation] at hlatest
    rw [hrequests] at hq
    rcases List.mem_append.mp hq with hq | hq
    · refine h.marked p ?_ q hq hcarried hgranted hlatest
      rcases mem_linkParticipation hnumbered.participations hp with ⟨-, hfiled⟩ | hp
      · -- the request that is filed is none of the old ones
        have hsame : q.id = filed.id := Option.some.inj (hcarried.symm.trans hfiled)
        exact absurd (hsame.trans hid) (hnumbered.requests.id_ne_nextId hq)
      · exact hp
    · rw [List.mem_singleton.mp hq, hpending] at hgranted
      cases hgranted
  | @decided old new hold hid hgranted' happroved hparticipations hrequests =>
    rw [hparticipations] at hp
    rw [IsLatest, latestId?_congr hparticipations] at hlatest
    rcases (mem_requests_put hrequests hold hid).mp hq with rfl | ⟨hq, -⟩
    · rw [happroved]
      exact h.marked p hp old hold (hid ▸ hcarried) (hgranted' ▸ hgranted) hlatest
    · exact h.marked p hp q hq hcarried hgranted hlatest
  | @approved old new now hold hpending hid hgranted' happroved hparticipations hrequests =>
    rw [hparticipations] at hp
    rw [IsLatest, latestId?_congr hparticipations, latestId?_markRewarded] at hlatest
    rcases (mem_requests_put hrequests hold hid).mp hq with rfl | ⟨hq, hne⟩
    · rw [hid] at hcarried
      exact ⟨now, happroved, h.tied.rewardedAt_of_markRewarded hold hp hcarried fun _ => hlatest⟩
    · rcases mem_markRewarded hnumbered.participations hp with
        ⟨latest, -, hcarries, rfl⟩ | ⟨hp, -⟩
      · exact absurd (Option.some.inj (hcarried.symm.trans hcarries)) hne
      · exact h.marked p hp q hq hcarried hgranted hlatest

/-- **What is settled for some participations and a request**: the request was granted, and while
one of the participations carries it, a certain time stands there as that of the reward. -/
structure Settled (ids : Set Id) (requestId : Id) (time : Option Instant) (books : Books) :
    Prop where
  tied : books.Tied
  granted : ∃ q ∈ books.requests.rows, q.id = requestId ∧ q.status.isGranted = true
  kept : ∀ p ∈ books.participations.rows, p.id ∈ ids → p.rewardRequestId = some requestId →
    p.rewardedAt = time

theorem Settled.turn {ids : Set Id} {requestId : Id} {time : Option Instant}
    {books after : Books} (h : books.Settled ids requestId time) (hturn : Turn books after)
    (hafter : after.Tied) : after.Settled ids requestId time := by
  obtain ⟨q, hq, rfl, hgranted⟩ := h.granted
  have hnumbered := h.tied.numbered
  cases hturn with
  | same hparticipations hrequests =>
    exact ⟨hafter, ⟨q, hrequests ▸ hq, rfl, hgranted⟩, hparticipations ▸ h.kept⟩
  | joined hid hfree hparticipations hrequests =>
    refine ⟨hafter, ⟨q, hrequests ▸ hq, rfl, hgranted⟩, fun p hp hpid hcarried => ?_⟩
    rw [hparticipations] at hp
    rcases List.mem_append.mp hp with hp | hp
    · exact h.kept p hp hpid hcarried
    · rw [List.mem_singleton.mp hp, hfree.rewardRequestId_eq] at hcarried
      cases hcarried
  | filed hid hpending hparticipations hrequests =>
    refine ⟨hafter, ⟨q, hrequests ▸ List.mem_append_left _ hq, rfl, hgranted⟩,
      fun p hp hpid hcarried => ?_⟩
    rw [hparticipations] at hp
    rcases mem_linkParticipation hnumbered.participations hp with ⟨-, hfiled⟩ | hp
    · have hsame := Option.some.inj (hcarried.symm.trans hfiled)
      exact absurd (hsame.trans hid) (hnumbered.requests.id_ne_nextId hq)
    · exact h.kept p hp hpid hcarried
  | @decided old new hold hid hgranted' happroved hparticipations hrequests =>
    refine ⟨hafter, ?_, hparticipations ▸ h.kept⟩
    by_cases hsame : q.id = old.id
    · rw [hnumbered.requests.eq_of_id_eq hq hold hsame] at hgranted ⊢
      refine ⟨new, (mem_requests_put hrequests hold hid).mpr (Or.inl rfl), hid, ?_⟩
      exact hgranted'.trans hgranted
    · exact ⟨q, (mem_requests_put hrequests hold hid).mpr (Or.inr ⟨hq, hsame⟩), rfl, hgranted⟩
  | @approved old new now hold hpending hid hgranted' happroved hparticipations hrequests =>
    -- another request is approved, since this one is not pending any more
    have hne : q.id ≠ old.id := by
      intro hsame
      rw [hnumbered.requests.eq_of_id_eq hq hold hsame, hpending] at hgranted
      cases hgranted
    refine ⟨hafter, ⟨q, (mem_requests_put hrequests hold hid).mpr (Or.inr ⟨hq, hne⟩), rfl,
      hgranted⟩, fun p hp hpid hcarried => ?_⟩
    rw [hparticipations] at hp
    rcases mem_markRewarded hnumbered.participations hp with ⟨latest, -, hcarries, rfl⟩ | ⟨hp, -⟩
    · exact absurd (Option.some.inj (hcarried.symm.trans hcarries)) hne
    · exact h.kept p hp hpid hcarried

end Books

theorem Change.marked {s : Session} {books after : Books} {action : Action} {notes : List Note}
    (h : Change s books action after notes) (hbooks : books.Marked) : after.Marked := by
  have hafter := h.tied hbooks.tied
  rcases h.turn_or_turns hbooks.tied with hturn | ⟨filed, hfiled, hfirst, hsecond, -⟩
  · exact hbooks.turn hturn hafter
  · exact (hbooks.turn hfirst hfiled).turn hsecond hafter

theorem Change.settled {s : Session} {books after : Books} {action : Action} {notes : List Note}
    {ids : Set Id} {requestId : Id} {time : Option Instant} (h : Change s books action after notes)
    (hbooks : books.Settled ids requestId time) : after.Settled ids requestId time := by
  have hafter := h.tied hbooks.tied
  rcases h.turn_or_turns hbooks.tied with hturn | ⟨filed, hfiled, hfirst, hsecond, -⟩
  · exact hbooks.turn hturn hafter
  · exact (hbooks.turn hfirst hfiled).turn hsecond hafter

theorem Database.Reachable.marked {P : Action → Prop} {db : Database} (h : db.Reachable P) :
    db.books.Marked :=
  (h.mono (Q := fun _ => True) fun _ _ => trivial).keeps (fun _ _ => trivial) marked_empty
    fun _ hbooks hchange => hchange.marked hbooks

/-! ### The approval of a request -/

section Grants
variable {s : Session} {books after : Books} {action : Action} {notes : List Note}
  {q q' : RewardRequest} (hq : q ∈ books.requests.rows) (hpending : q.status = .pending)
  (hid : q'.id = q.id) (hgranted : q'.status.isGranted = true)
include hq hpending hid hgranted

theorem Books.Numbered.notMem_of_granted (hbooks : books.Numbered) :
    q' ∉ books.requests.rows := by
  intro hq'
  rw [hbooks.requests.eq_of_id_eq hq' hq hid, hpending] at hgranted
  cases hgranted

theorem Books.Turn.grants (h : Turn books after) (hbooks : books.Numbered)
    (hq' : q' ∈ after.requests.rows) :
    ∃ time, q'.approvedAt = some time ∧
      after.participations = (books.markRewarded q time).participations := by
  have hnew := hbooks.notMem_of_granted hq hpending hid hgranted
  cases h with
  | same _ hrequests | joined _ _ _ hrequests => exact absurd (hrequests ▸ hq') hnew
  | filed hfiled hpending' _ hrequests =>
    rw [hrequests] at hq'
    rcases List.mem_append.mp hq' with hold | hlast
    · exact absurd hold hnew
    · rw [List.mem_singleton.mp hlast, hpending'] at hgranted
      cases hgranted
  | @decided old new hold hid' hgranted' happroved hparticipations hrequests =>
    rcases (mem_requests_put hrequests hold hid').mp hq' with rfl | ⟨hq', -⟩
    · have hsame := hbooks.requests.eq_of_id_eq hold hq (hid'.symm.trans hid)
      rw [hgranted', hsame, hpending] at hgranted
      cases hgranted
    · exact absurd hq' hnew
  | @approved old new now hold hpending' hid' hgranted' happroved hparticipations hrequests =>
    rcases (mem_requests_put hrequests hold hid').mp hq' with rfl | ⟨hq', -⟩
    · rw [← hbooks.requests.eq_of_id_eq hold hq (hid'.symm.trans hid)]
      exact ⟨now, happroved, hparticipations⟩
    · exact absurd hq' hnew

/-- **The change that grants a pending request** marks the latest participation, if that carries the
request, with the time of the approval. -/
theorem Change.grants (h : Change s books action after notes) (hbooks : books.Tied)
    (hq' : q' ∈ after.requests.rows) :
    ∃ time, q'.approvedAt = some time ∧
      after.participations = (books.markRewarded q time).participations := by
  rcases h.turn_or_turns hbooks with hturn | ⟨-, -, -, -, hrequests⟩
  · exact hturn.grants hq hpending hid hgranted hbooks.numbered hq'
  · rcases hrequests q' hq' with hold | hnext
    · exact absurd hold (hbooks.numbered.notMem_of_granted hq hpending hid hgranted)
    · exact absurd (hid.symm.trans hnext) (hbooks.numbered.requests.id_ne_nextId hq)

theorem Change.settled_of_grants (h : Change s books action after notes) (hbooks : books.Tied)
    (hq' : q' ∈ after.requests.rows) {p : Participation} (hp : p ∈ books.participations.rows)
    (hcarried : p.rewardRequestId = some q.id) :
    after.Settled {p.id} q.id
      (if books.IsLatest p then q'.approvedAt else p.rewardedAt) := by
  obtain ⟨time, happroved, hparticipations⟩ :=
    h.grants hq hpending hid hgranted hbooks hq'
  have hcarries := hbooks.carries hp hq hcarried
  refine ⟨h.tied hbooks, ⟨q', hq', hid, hgranted⟩, fun p' hp' hpid hcarried' => ?_⟩
  rw [hparticipations] at hp'
  have hnumbered := hbooks.numbered.participations
  rcases mem_markRewarded hnumbered hp' with ⟨latest, hlatest, -, rfl⟩ | ⟨hp', hnot⟩
  · have hmem := (mem_participationsOf.mp (of_latestParticipation? hlatest).1).1
    rw [if_pos, happroved]
    rw [isLatest_iff hnumbered hp, ← hcarries.userId_eq, ← hcarries.eventId_eq, hlatest,
      hnumbered.eq_of_id_eq hmem hp hpid]
  · rw [hnumbered.eq_of_id_eq hp' hp hpid] at hnot ⊢
    rw [if_neg]
    rw [isLatest_iff hnumbered hp, ← hcarries.userId_eq, ← hcarries.eventId_eq]
    exact hnot hcarried

end Grants

/-! ### The approval of a request as it is filed -/

section AtOnce
variable {books filed after : Books} {q q' : RewardRequest}

/-- **A request that is granted after a turn** was there before, pending or granted. -/
theorem Books.Turn.exists_of_granted (h : Turn books after) (hq' : q' ∈ after.requests.rows)
    (hgranted : q'.status.isGranted = true) :
    ∃ q ∈ books.requests.rows, q'.id = q.id ∧
      (q.status = .pending ∨ q.status.isGranted = true) := by
  have hold (hq' : q' ∈ books.requests.rows) : ∃ q ∈ books.requests.rows, q'.id = q.id ∧
      (q.status = .pending ∨ q.status.isGranted = true) := ⟨q', hq', rfl, Or.inr hgranted⟩
  cases h with
  | same _ hrequests | joined _ _ _ hrequests => exact hold (hrequests ▸ hq')
  | filed _ hpending _ hrequests =>
    rw [hrequests] at hq'
    rcases List.mem_append.mp hq' with hq' | hlast
    · exact hold hq'
    · rw [List.mem_singleton.mp hlast, hpending] at hgranted
      cases hgranted
  | decided hq hid hgranted' _ _ hrequests =>
    rcases (mem_requests_put hrequests hq hid).mp hq' with rfl | ⟨hq', -⟩
    · exact ⟨_, hq, hid, Or.inr (hgranted' ▸ hgranted)⟩
    · exact hold hq'
  | approved hq hpending hid _ _ _ hrequests =>
    rcases (mem_requests_put hrequests hq hid).mp hq' with rfl | ⟨hq', -⟩
    · exact ⟨_, hq, hid, Or.inl hpending⟩
    · exact hold hq'

/-- **A participation that carries a new request** is the latest one. -/
theorem Books.Turn.isLatest_of_carries (h : Turn books filed) (hbooks : books.Tied)
    (hq : q ∈ filed.requests.rows) (hnew : ∀ old ∈ books.requests.rows, q.id ≠ old.id)
    {p : Participation} (hp : p ∈ filed.participations.rows)
    (hcarried : p.rewardRequestId = some q.id) : filed.IsLatest p := by
  cases h with
  | same _ hrequests | joined _ _ _ hrequests => exact absurd rfl (hnew q (hrequests ▸ hq))
  | filed _ _ hparticipations hrequests =>
    rw [hrequests] at hq
    rw [hparticipations] at hp
    rcases List.mem_append.mp hq with hold | hlast
    · exact absurd rfl (hnew q hold)
    · cases List.mem_singleton.mp hlast
      rcases mem_linkParticipation hbooks.numbered.participations hp with ⟨hlatest, -⟩ | hp
      · rwa [IsLatest, latestId?_congr hparticipations, latestId?_linkParticipation]
      · -- what was carried before had been filed before
        obtain ⟨old, hold, hid, -⟩ := (hbooks.ties p hp).exists_carries hcarried
        exact absurd hid.symm (hnew old hold)
  | decided hold hid _ _ _ hrequests | approved hold _ hid _ _ _ hrequests =>
    rcases (mem_requests_put hrequests hold hid).mp hq with rfl | ⟨hq, -⟩
    · exact absurd hid (hnew _ hold)
    · exact absurd rfl (hnew q hq)

/-- **A request that is filed and approved in one change** is settled for all participations. -/
theorem Change.settled_of_new {s : Session} {action : Action} {notes : List Note}
    (h : Change s books action after notes) (hbooks : books.Tied)
    (hq' : q' ∈ after.requests.rows) (hgranted : q'.status.isGranted = true)
    (hnew : ∀ old ∈ books.requests.rows, q'.id ≠ old.id) :
    ∃ time, q'.approvedAt = some time ∧ after.Settled Set.univ q'.id (some time) := by
  rcases h.turn_or_turns hbooks with hturn | ⟨filed, hfiled, hfirst, hsecond, -⟩
  · obtain ⟨old, hold, hid, -⟩ := hturn.exists_of_granted hq' hgranted
    exact absurd hid (hnew old hold)
  · obtain ⟨q, hq, hid, hpending | hgranted'⟩ := hsecond.exists_of_granted hq' hgranted
    · obtain ⟨time, happroved, hparticipations⟩ :=
        hsecond.grants hq hpending hid hgranted hfiled.numbered hq'
      refine ⟨time, happroved, h.tied hbooks, ⟨q', hq', rfl, hgranted⟩, fun p hp _ hcarried => ?_⟩
      rw [hparticipations] at hp
      rw [hid] at hcarried
      -- nobody can have come in between
      exact hfiled.rewardedAt_of_markRewarded hq hp hcarried fun hp =>
        hfirst.isLatest_of_carries hbooks hq (hid ▸ hnew) hp hcarried
    · obtain ⟨old, hold, hid', -⟩ := hfirst.exists_of_granted hq hgranted'
      exact absurd (hid.trans hid') (hnew old hold)

end AtOnce

theorem Books.Settled.after {ids : Set Id} {requestId : Id} {time : Option Instant}
    {db : Database} (h : db.books.Settled ids requestId time) (ms : List Moment) :
    (db.after ms).books.Settled ids requestId time :=
  Database.keeps_after (P := fun _ => True) (fun _ _ => trivial)
    (fun _ hbooks hchange => hchange.settled hbooks) h fun _ _ _ _ => trivial

/-- **A participation is marked when its request is approved, unless it has been overtaken.** In
every database that can be reached, whatever is called, a participation that carries an approved or
delivered request and is the latest one of its user for its event was marked as rewarded when that
request was approved. And whatever moment approves a pending request: if the participation that
carries the request is the latest one at this moment, then it is marked with the time of the
approval, otherwise it is left as it was, and so it stays however the run goes on, for as long as it
carries the request. A request that is approved in the moment in which it is filed marks whatever
carries it, and this mark stays as well, also once the participation has been overtaken. -/
theorem rewarded_unless_overtaken {P : Action → Prop} {db : Database} (h : db.Reachable P) :
    (∀ p ∈ db.books.participations.rows, ∀ q ∈ db.books.requests.rows,
      p.rewardRequestId = some q.id → (q.status = .approved ∨ q.status = .issued) →
      db.books.IsLatest p → ∃ time, q.approvedAt = some time ∧ p.rewardedAt = some time) ∧
    (∀ p ∈ db.books.participations.rows, ∀ q ∈ db.books.requests.rows,
      p.rewardRequestId = some q.id → q.status = .pending → ∀ (m : Moment) (q' : RewardRequest),
        (m.after db).books.requests.find? q.id = some q' →
        (q'.status = .approved ∨ q'.status = .issued) → ∀ (ms : List Moment) (p' : Participation),
          ((m.after db).after ms).books.participations.find? p.id = some p' →
          p'.rewardRequestId = some q.id →
            p'.rewardedAt = if db.books.IsLatest p then q'.approvedAt else p.rewardedAt) ∧
    ∀ (m : Moment), ∀ q' ∈ (m.after db).books.requests.rows,
      db.books.requests.find? q'.id = none → (q'.status = .approved ∨ q'.status = .issued) →
        ∃ time, q'.approvedAt = some time ∧ ∀ (ms : List Moment),
          ∀ p' ∈ ((m.after db).after ms).books.participations.rows,
            p'.rewardRequestId = some q'.id → p'.rewardedAt = some time := by
  have hmarked := h.marked
  have hnumbered := hmarked.tied.numbered
  refine ⟨fun p hp q hq hcarried hstatus => ?_, ?_, ?_⟩
  · exact hmarked.marked p hp q hq hcarried (RequestStatus.isGranted_iff.mpr hstatus)
  · intro p hp q hq hcarried hpending m q' hfound hstatus ms p' hfound' hcarried'
    have hgranted := RequestStatus.isGranted_iff.mpr hstatus
    have hq' := Table.mem_of_find?_eq_some hfound
    have hid : q'.id = q.id := Table.id_of_find?_eq_some hfound
    have hsettled : (m.after db).books.Settled {p.id} q.id
        (if db.books.IsLatest p then q'.approvedAt else p.rewardedAt) := by
      rcases m.after_eq_or_writes db with heq | ⟨action, -, notes, hchange, -⟩
      · rw [heq] at hq'
        exact absurd hq' (hnumbered.notMem_of_granted hq hpending hid hgranted)
      · exact hchange.settled_of_grants hq hpending hid hgranted hmarked.tied hq' hp hcarried
    exact (hsettled.after ms).kept p' (Table.mem_of_find?_eq_some hfound')
      (Table.id_of_find?_eq_some hfound') hcarried'
  · intro m q' hq' hfresh hstatus
    have hgranted := RequestStatus.isGranted_iff.mpr hstatus
    have hnew : ∀ old ∈ db.books.requests.rows, q'.id ≠ old.id := fun old hold hid =>
      Table.find?_eq_none_iff.mp hfresh old hold hid.symm
    rcases m.after_eq_or_writes db with heq | ⟨action, -, notes, hchange, -⟩
    · exact absurd rfl (hnew q' (heq ▸ hq'))
    · obtain ⟨time, happroved, hsettled⟩ :=
        hchange.settled_of_new hmarked.tied hq' hgranted hnew
      exact ⟨time, happroved, fun ms p' hp' =>
        (hsettled.after ms).kept p' hp' (Set.mem_univ _)⟩

/-- A user takes part in an event that admits everyone more than once, asks for a reward of it,
which is granted at once or not, and takes part again. -/
def attendingTwice (atOnce : Bool) : List Moment :=
  let eventId := ({} : Table Event).nextId.text
  let joining := WritingVerb.createParticipation.request "ann" [("event_id", .str eventId)]
  let event : List (String × Json) :=
    [("title", .str "Spring"), ("start_date", .str "1970-01-01T00:00:00Z"),
      ("end_date", .str "1970-01-02T00:00:00Z"), ("status", .str "ACTIVE"),
      ("condition_type", .str "ATTENDANCE"), ("allow_multiple_participation", .bool true),
      ("auto_reward", .bool atOnce)]
  let reward : List (String × Json) :=
    [("event_id", .str eventId), ("name", .str "Badge"), ("type", .str "BADGE"),
      ("value", .str "gold"), ("total_quantity", .int 1)]
  [⟨{ clock := ⟨1000000⟩ }, .request (WritingVerb.createEvent.request "admin" event)⟩,
    ⟨{ clock := ⟨2000000⟩ }, .request (WritingVerb.createReward.request "admin" reward)⟩,
    ⟨{ clock := ⟨3000000⟩ }, .request joining⟩,
    ⟨{ clock := ⟨4000000⟩ },
      .request (WritingVerb.createRequest.request "ann" (askingBody .empty))⟩,
    ⟨{ clock := ⟨5000000⟩ }, .request joining⟩]

/-- The participation that carries the request is overtaken before that is decided on. -/
def overtakenRun : List Moment := attendingTwice false

/-- The request of `overtakenRun` is approved, by a command. -/
def overtakenApproval : Moment :=
  ⟨{ clock := ⟨6000000⟩ },
    .request ((WritingVerb.updateRequest ({} : Table RewardRequest).nextId.text).command "admin"
      [("status", .str "APPROVED")])⟩

theorem reachable_overtakenRun {P : Action → Prop} (ms : List Moment)
    (hms : ∀ m ∈ ms, m = overtakenApproval) :
    (Database.empty.after (overtakenRun ++ ms)).Reachable P := by
  refine ⟨_, fun m hm action hcall => ?_, rfl⟩
  rcases List.mem_append.mp hm with hm | hm
  · simp only [overtakenRun, attendingTwice, List.mem_cons, List.not_mem_nil, or_false] at hm
    rcases hm with rfl | rfl | rfl | rfl | rfl <;> cases hcall
  · rw [hms m hm] at hcall
    cases hcall

/-- The approval grants the request, and leaves the participation that carries it as it was. -/
theorem approves_overtakenApproval :
    let db := Database.empty.after overtakenRun
    let after := overtakenApproval.after db
    ∃ p ∈ db.books.participations.rows, ∃ q ∈ db.books.requests.rows,
      p.rewardRequestId = some q.id ∧ q.status = .pending ∧ p.rewardedAt = none ∧
        ¬db.books.IsLatest p ∧ p ∈ after.books.participations.rows ∧
          ∃ q' ∈ after.books.requests.rows, q'.id = q.id ∧ q'.status = .approved := by
  intro db after
  have hrun : (db.books.participations.rows.any fun p => db.books.requests.rows.any fun q =>
      p.rewardRequestId = some q.id && q.status = .pending && p.rewardedAt = none &&
        !db.books.IsLatest p && q.id = ({} : Table RewardRequest).nextId) = true := by
    decide +kernel
  simp only [List.any_eq_true, Bool.and_eq_true, decide_eq_true_eq, Bool.not_eq_true',
    decide_eq_false_iff_not] at hrun
  obtain ⟨p, hp, q, hq, ⟨⟨⟨hcarried, hpending⟩, hnone⟩, hnot⟩, hid⟩ := hrun
  have hbooks : db.books.Tied :=
    (reachable_overtakenRun (P := fun _ => True) [] (by simp)).tied
  have hasked : overtakenApproval.asked? =
      some (.transition ({} : Table RewardRequest).nextId .approved (some "admin") none none) := rfl
  have hcode : overtakenApproval.status? db = some 200 := by decide +kernel
  obtain ⟨reply, hperform⟩ := Moment.succeeded hasked hcode (by decide)
  obtain ⟨o, ho, -, hafter⟩ := Action.settle_eq_ok hperform
  obtain ⟨found, hfound, hmoved⟩ := transition_eq_ok ho
  have hfoundId : found.id = q.id := (Table.id_of_find?_eq_some hfound).trans hid.symm
  obtain rfl : found = q :=
    hbooks.numbered.requests.eq_of_id_eq (Table.mem_of_find?_eq_some hfound) hq hfoundId
  rcases hmoved with ⟨hsame, -⟩ | ⟨hmay, hmoving⟩
  · rw [hpending] at hsame
    cases hsame
  · rw [← hafter] at hmoving
    have hq' := (mem_requests_put hmoving.requests_eq hq (RewardRequest.id_moved _ _ _ _ _ _)).mpr
      (Or.inl rfl)
    obtain ⟨time, -, hparticipations⟩ := (hmoving.turn hq hmay).grants hq hpending
      (RewardRequest.id_moved _ _ _ _ _ _) rfl hbooks.numbered hq'
    refine ⟨p, hp, found, hq, hcarried, hpending, hnone, hnot, ?_, _, hq',
      RewardRequest.id_moved _ _ _ _ _ _, rfl⟩
    rw [hparticipations]
    exact mem_markRewarded_of_not_isLatest hp (hbooks.carries hp hq hcarried) hnot

/-- The participation of `overtakenRun` that carries the request is not the latest one any more, and
is left unmarked by the approval. Where the request is approved as it is filed, the participation
that carries it is overtaken as well, and keeps the mark that it was given at that time. -/
theorem rewarded_unless_overtaken_overtakenRun :
    let db := Database.empty.after overtakenRun
    let after := overtakenApproval.after db
    let granted := Database.empty.after (attendingTwice true)
    (∃ p ∈ db.books.participations.rows, ¬db.books.IsLatest p ∧
      ∃ q ∈ after.books.requests.rows, q.status = .approved ∧
        ∃ p' ∈ after.books.participations.rows, p'.id = p.id ∧ p'.rewardRequestId = some q.id ∧
          p'.rewardedAt = none) ∧
    ∃ p ∈ granted.books.participations.rows, ¬granted.books.IsLatest p ∧
      p.rewardRequestId = some ({} : Table RewardRequest).nextId ∧
        p.rewardedAt = some ⟨4000000⟩ := by
  intro db after granted
  refine ⟨?_, ?_⟩
  · obtain ⟨p, hp, q, hq, hcarried, hpending, hnone, hnot, hp', q', hq', hid, happroved⟩ :=
      approves_overtakenApproval
    have hreachable {P : Action → Prop} (ms : List Moment)
        (hms : ∀ m ∈ ms, m = overtakenApproval) := reachable_overtakenRun (P := P) ms hms
    have hafter : after.books.Numbered :=
      (hreachable (P := fun _ => True) [overtakenApproval] (by simp)).numbered
    have hdb : db.Reachable fun _ => True := hreachable [] (by simp)
    have hsame := (rewarded_unless_overtaken hdb).2.1 p hp q hq hcarried hpending
      overtakenApproval q' (hafter.requests.find?_eq_some_iff.mpr ⟨hq', hid⟩) (Or.inl happroved) []
      p (hafter.participations.find?_eq_some_iff.mpr ⟨hp', rfl⟩) hcarried
    refine ⟨p, hp, hnot, q', hq', happroved, p, hp', rfl, hid ▸ hcarried, ?_⟩
    rw [hsame, if_neg hnot, hnone]
  · -- the moment in which the request is filed, and the one after it
    let asking := (attendingTwice true)[3]
    let before := Database.empty.after ((attendingTwice true).take 3)
    have hbefore : before.Reachable fun _ => True := ⟨_, fun _ _ _ _ => trivial, rfl⟩
    have hfiled : ((asking.after before).books.requests.rows.any fun q =>
        q.id = ({} : Table RewardRequest).nextId && q.status = .approved &&
          q.approvedAt = some ⟨4000000⟩ && before.books.requests.find? q.id = none) = true := by
      decide +kernel
    have hovertaken : (granted.books.participations.rows.any fun p =>
        p.rewardRequestId = some ({} : Table RewardRequest).nextId &&
          !granted.books.IsLatest p) = true := by
      decide +kernel
    simp only [List.any_eq_true, Bool.and_eq_true, decide_eq_true_eq, Bool.not_eq_true',
      decide_eq_false_iff_not] at hfiled hovertaken
    obtain ⟨q, hq, ⟨⟨hid, happroved⟩, htime⟩, hfresh⟩ := hfiled
    obtain ⟨p, hp, hcarried, hnot⟩ := hovertaken
    obtain ⟨time, htime', hmarked⟩ :=
      (rewarded_unless_overtaken hbefore).2.2 asking q hq hfresh (Or.inl happroved)
    refine ⟨p, hp, hnot, hcarried, ?_⟩
    rw [htime] at htime'
    rw [hmarked ((attendingTwice true).drop 4) p hp (hid ▸ hcarried), htime']

/-- **A participation that was overtaken is not marked**, although it carries an approved request:
web requests lead to such a database. -/
theorem overtaken_participation_is_not_marked :
    ¬∀ db : Database, db.Reachable (fun _ => False) →
      ∀ p ∈ db.books.participations.rows, ∀ q ∈ db.books.requests.rows,
        p.rewardRequestId = some q.id → (q.status = .approved ∨ q.status = .issued) →
          p.rewardedAt ≠ none := by
  intro h
  obtain ⟨p, -, q, -, hcarried, -, hnone, -, hp', q', hq', hid, happroved⟩ :=
    approves_overtakenApproval
  exact h _ (reachable_overtakenRun [overtakenApproval] (by simp)) p hp' q' hq' (hid ▸ hcarried)
    (Or.inl happroved) hnone

end Promotions
