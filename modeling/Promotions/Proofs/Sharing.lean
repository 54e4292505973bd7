import Promotions.Proofs.Admission
import Promotions.Proofs.References
import Promotions.Proofs.Stock

/-!
# Approvals share the stock

Pending requests that want the same rewards compete for what is left of them. An `Attempt` to
approve one of them is refused if and only if a reward that it lists is sold out when its turn
comes, since in a database that can be reached nothing else stands in the way
(`Database.Faces.cases`). What attempts lead to depends on the requests alone that are approved in
the end (`Books.Serves`). Their order decides which these are. If one reward is all that is asked
for, they are the first ones, as many as there are pieces left (`Database.Faces.accepted_eq_take`);
if there is enough for everybody, they are all, in whatever order the attempts are made
(`Database.Faces.accepted_eq_self`).
-/

namespace Promotions

open Books

/-! ### Attempts -/

/-- **An attempt to approve a request**, with its surroundings. -/
structure Attempt where
  session : Session
  request : RewardRequest
  operator : Option String
  reason : Option String
  now : Option Instant

namespace Attempt

/-- The operation that is called. -/
def action (a : Attempt) : Action := .transition a.request.id .approved a.operator a.reason a.now

def moment (a : Attempt) : Moment := ⟨a.session, .call a.action⟩

/-- The time at which the request is approved. -/
def time (a : Attempt) : Instant := a.now.getD a.session.clock

/-- The attempt is accepted. -/
def succeeds (a : Attempt) (db : Database) : Bool := (a.action.perform a.session db).isOk

end Attempt

namespace Database

/-- The attempts that are accepted when all of a list are made, one after the other. -/
def accepted : Database → List Attempt → List Attempt
  | _, [] => []
  | db, a :: rest =>
    if a.succeeds db then a :: accepted (a.moment.after db) rest
    else accepted (a.moment.after db) rest

/-- **The attempts are made on pending requests**, on each of them once, in a database that can be
reached by issuing through approval only. What is left out is that `issue` is called by itself for a
request that stays pending, which no web request, no command and no run of the scheduler does: its
rewards would be granted already, and an approval of it a conflict whatever is in stock. -/
structure Faces (db : Database) (attempts : List Attempt) : Prop where
  reachable : db.Reachable fun action => action.IssuesByApproval ∧ action.IsOrderly
  present : ∀ a ∈ attempts, a.request ∈ db.books.requests.rows
  pending : ∀ a ∈ attempts, a.request.status = .pending
  distinct : (attempts.map fun a => a.request.id).Nodup

end Database

namespace Books

/-- **A reward that the request lists is sold out.** -/
def SoldOut (books : Books) (q : RewardRequest) : Prop :=
  ∃ r ∈ books.rewards.rows, q.Lists r.id ∧ r.issuedQuantity = r.totalQuantity

/-- How many pieces of each reward were issued. -/
def counters (books : Books) : List (Id × Int) :=
  books.rewards.rows.map fun r => (r.id, r.issuedQuantity)

/-- The status of each request. -/
def standing (books : Books) : List (Id × RequestStatus) :=
  books.requests.rows.map fun q => (q.id, q.status)

/-- The request and the reward of each grant. -/
def given (books : Books) : List (Id × Id) :=
  books.grants.rows.map fun g => (g.requestId, g.rewardId)

end Books

/-! ### One attempt -/

/-- **The attempt is accepted**: no reward is sold out, and the request is approved. -/
structure Attempt.Accepted (a : Attempt) (db : Database) : Prop where
  inStock : ¬db.books.SoldOut a.request
  succeeds : a.succeeds db = true
  approves : ∃ ids, a.request.Spells ids ∧ a.request.wanted = .ok ids ∧
    Approves a.session db.books a.request a.operator a.time ids (a.moment.after db).books

/-- **The attempt is refused**: a reward is sold out, and its rewards cannot be issued. -/
structure Attempt.Refused (a : Attempt) (db : Database) : Prop where
  soldOut : db.books.SoldOut a.request
  conflict : ∃ refusal : Refusal, refusal.kind = .conflict ∧
    db.books.issueRequest a.session a.request a.operator a.time = .error (.refused refusal) ∧
    a.action.perform a.session db = .error (.refused refusal)

namespace Attempt.Refused

variable {a : Attempt} {db : Database} (h : a.Refused db)
include h

theorem succeeds_eq : a.succeeds db = false := by
  obtain ⟨refusal, -, -, hfails⟩ := h.conflict
  unfold succeeds
  rw [hfails]
  rfl

theorem after_eq : a.moment.after db = db := by
  obtain ⟨refusal, -, -, hfails⟩ := h.conflict
  exact Moment.after_call_eq_self hfails

end Attempt.Refused

namespace Database.Faces

section
variable {db : Database} {attempts : List Attempt} (h : db.Faces attempts)
include h

theorem entitled : db.books.Entitled := (h.reachable.mono fun _ hP => hP.1).entitled

theorem stocked : db.books.Stocked :=
  Reachable.stocked (h.reachable.mono fun _ _ => trivial)

end

section
variable {db : Database} {a : Attempt} {rest : List Attempt} (h : db.Faces (a :: rest))
include h

/-- **An attempt is accepted or refused** for what it lists: nothing else stands in its way. -/
theorem cases : a.Accepted db ∨ a.Refused db := by
  have hentitled := h.entitled
  have hanchored := (h.reachable.mono fun _ hP => hP.2).anchored
  have hshaped := h.reachable.shaped_rewards
  have hrow := h.present a List.mem_cons_self
  have hpending := h.pending a List.mem_cons_self
  have hfound : db.books.requests.find? a.request.id = some a.request :=
    hentitled.numbered.requests.find?_eq_some_iff.mpr ⟨hrow, rfl⟩
  obtain ⟨-, ids, hwants⟩ := hanchored.requests a.request hrow
  have hlists {id : Id} : a.request.Lists id ↔ id ∈ ids :=
    RewardRequest.lists_iff hwants.spells.rewardIds_eq
  have hreads : a.request.Reads ids :=
    RewardRequest.reads_of_eq hwants.spells.rewardIds_eq hwants.spelled
  -- all that it lists is there, can be written out, and was not granted for it
  have hexisting : db.books.existing ids = ids :=
    List.filter_eq_self.mpr fun id hid =>
      Table.isSome_find?_iff.mpr (List.mem_map.mpr (hwants.offered id hid).has)
  have hwritable : db.books.Writable ids := fun _ _ reward hreward =>
    (hshaped reward (Table.mem_of_find?_eq_some hreward)).isShallow
  have hungranted : db.books.Ungranted a.request.id ids := by
    intro g hg hrequest _
    obtain ⟨q, hq, hgranted, -, hof⟩ := hentitled.earned g hg
    have hsame : q = a.request :=
      hentitled.numbered.requests.eq_of_id_eq hq hrow (hof.requestId_eq.symm.trans hrequest)
    rw [hsame, hpending] at hgranted
    cases hgranted
  have hcases := transition_cases a.session a.operator a.time hreads
    (fun r hr => (hshaped r hr).isObjectOrNull) hfound hpending a.reason
  rw [hexisting] at hcases
  rcases hcases with ⟨⟨-, hgrantable, -⟩, after, notes, happroves, hmoved⟩ |
    ⟨failure, hdenied, hissue, hfails⟩
  · have hperform : a.action.perform a.session db = .ok (_, _) :=
      congrArg (Action.settle a.session db .request) hmoved
    refine Or.inl ⟨?_, ?_, ids, hwants.spells, hreads.wanted_eq_ok, ?_⟩
    · rintro ⟨r, hr, hlisted, hsold⟩
      have hfree := hgrantable.inStock r.id (hlists.mp hlisted) r
        (hentitled.numbered.rewards.find?_eq_some_iff.mpr ⟨hr, rfl⟩)
      omega
    · unfold Attempt.succeeds
      rw [hperform]
      rfl
    · unfold Moment.after Attempt.moment
      dsimp only
      rw [hperform]
      exact happroves
  · have hperform : a.action.perform a.session db = .error failure :=
      congrArg (Action.settle a.session db .request) hfails
    obtain ⟨refusal, rfl, hkind⟩ := hdenied.exists_conflict hwants.spells.nonempty
      fun hoverloaded => hoverloaded.not_writable hwritable
    refine Or.inr ⟨?_, refusal, hkind, hissue, hperform⟩
    by_contra hfree
    refine hdenied.not_approvable ⟨hwants.spells.nonempty, ⟨hwants.spells.nodup, ?_, hungranted⟩,
      hwritable⟩
    intro id hid reward hreward
    have hmem := Table.mem_of_find?_eq_some hreward
    have hid' : reward.id = id := Table.id_of_find?_eq_some hreward
    have hwithin := h.stocked.within reward hmem
    have hleft : reward.issuedQuantity ≠ reward.totalQuantity := fun hsold =>
      hfree ⟨reward, hmem, hlists.mpr (hid' ▸ hid), hsold⟩
    omega

theorem tail : (a.moment.after db).Faces rest where
  reachable := h.reachable.after [a.moment] fun m hm => by
    rw [List.mem_singleton.mp hm]
    exact Moment.callsOnly_call.mpr ⟨trivial, trivial⟩
  present := by
    intro b hb
    have hrow := h.present b (List.mem_cons_of_mem _ hb)
    have hother : b.request.id ≠ a.request.id := fun hsame =>
      (List.nodup_cons.mp h.distinct).1 (List.mem_map.mpr ⟨b, hb, hsame⟩)
    rcases h.cases with haccepted | hrefused
    · obtain ⟨ids, -, -, happroves⟩ := haccepted.approves
      rw [happroves.requests_eq]
      exact List.mem_map.mpr ⟨b.request, hrow, if_neg hother⟩
    · rwa [hrefused.after_eq]
  pending := fun b hb => h.pending b (List.mem_cons_of_mem _ hb)
  distinct := (List.nodup_cons.mp h.distinct).2

end

end Database.Faces

theorem Database.Faces.of_append {db : Database} {before later : List Attempt}
    (h : db.Faces (before ++ later)) : (db.after (before.map Attempt.moment)).Faces later := by
  induction before generalizing db with
  | nil => exact h
  | cons a before ih => exact ih h.tail

/-! ### What approvals lead to -/

/-- What a request is given: each reward that it wants. -/
def RewardRequest.shares (q : RewardRequest) : List (Id × Id) :=
  (q.wanted.toOption.getD []).map fun id => (q.id, id)

namespace Books

/-- **Some requests were approved**, and nobody else got anything. -/
structure Serves (books : Books) (served : List RewardRequest) (after : Books) : Prop where
  /-- The counter of each reward has grown by the number of requests that list it. -/
  counters_eq : after.counters = books.counters.map fun (id, issued) =>
    (id, issued + served.countP fun q => q.Lists id)
  /-- The requests are approved, and the others are what they were. -/
  standing_eq : after.standing = books.standing.map fun (id, status) =>
    (id, if id ∈ served.map RewardRequest.id then .approved else status)
  /-- Each request was given what it wants, in turn. -/
  given_eq : after.given = books.given ++ served.flatMap RewardRequest.shares

section
variable {books mid after after' : Books} {served more : List RewardRequest}

theorem serves_nil (books : Books) : books.Serves [] books where
  counters_eq := by simp
  standing_eq := by simp
  given_eq := by simp

theorem Serves.append (h : books.Serves served mid) (hmore : mid.Serves more after) :
    books.Serves (served ++ more) after where
  counters_eq := by
    rw [hmore.counters_eq, h.counters_eq, List.map_map]
    refine List.map_congr_left fun ⟨id, issued⟩ _ => ?_
    simp only [Function.comp_apply, List.countP_append, Nat.cast_add, Int.add_assoc]
  standing_eq := by
    rw [hmore.standing_eq, h.standing_eq, List.map_map]
    refine List.map_congr_left fun ⟨id, status⟩ _ => ?_
    simp only [Function.comp_apply, List.map_append, List.mem_append]
    by_cases hid : id ∈ more.map RewardRequest.id
    · rw [if_pos hid, if_pos (Or.inr hid)]
    · simp only [hid, if_false, or_false]
  given_eq := by
    rw [hmore.given_eq, h.given_eq, List.flatMap_append, List.append_assoc]

/-- **The order of the approvals does not matter.** -/
theorem Serves.perm (h : books.Serves served after) (h' : books.Serves more after')
    (hperm : more.Perm served) :
    after'.counters = after.counters ∧ after'.standing = after.standing ∧
      after'.given.Perm after.given := by
  refine ⟨?_, ?_, ?_⟩
  · rw [h'.counters_eq, h.counters_eq]
    simp only [hperm.countP_eq]
  · rw [h'.standing_eq, h.standing_eq]
    simp only [(hperm.map RewardRequest.id).mem_iff]
  · rw [h'.given_eq, h.given_eq]
    exact (hperm.flatMap_right _).append_left _

end

theorem Approves.serves {s : Session} {books after : Books} {q : RewardRequest}
    {operator : Option String} {now : Instant} {ids : List Id}
    (h : Approves s books q operator now ids after) (hspells : q.Spells ids)
    (hwanted : q.wanted = .ok ids) : books.Serves [q] after where
  counters_eq := by
    unfold counters
    rw [h.rewards_eq, List.map_map, List.map_map]
    refine List.map_congr_left fun r _ => ?_
    simp only [Function.comp_apply, List.countP_singleton,
      decide_eq_true_eq, RewardRequest.lists_iff hspells.rewardIds_eq]
    split_ifs <;> simp
  standing_eq := by
    unfold standing
    rw [h.requests_eq, List.map_map, List.map_map]
    refine List.map_congr_left fun row _ => ?_
    simp only [Function.comp_apply, List.map_singleton, List.mem_singleton]
    split_ifs with hid
    · rw [hid]
    · rfl
  given_eq := by
    obtain ⟨grants, hgrants, hids, hgranted⟩ := h.grants_eq
    have hpairs : grants.map (fun g => (g.requestId, g.rewardId)) =
        (grants.map Grant.rewardId).map fun id => (q.id, id) := by
      rw [List.map_map]
      refine List.map_congr_left fun g hg => ?_
      obtain ⟨-, r, -, hcopy⟩ := hgranted g hg
      rw [hcopy]
      rfl
    unfold given
    rw [hgrants, List.map_append, hpairs, hids]
    simp [RewardRequest.shares, hwanted, Except.toOption]

end Books

/-! ### All attempts -/

namespace Database

section
variable {db : Database} {a : Attempt} {rest : List Attempt}

theorem accepted_of_accepted (h : a.Accepted db) :
    db.accepted (a :: rest) = a :: (a.moment.after db).accepted rest := by
  rw [accepted, if_pos h.succeeds]

theorem accepted_of_refused (h : a.Refused db) : db.accepted (a :: rest) = db.accepted rest := by
  rw [accepted, if_neg (by simp [h.succeeds_eq]), h.after_eq]

end

namespace Faces

variable {db : Database} {attempts : List Attempt}

/-- **What attempts lead to**: those that are accepted are served, and nobody else. -/
theorem serves (h : db.Faces attempts) :
    db.books.Serves ((db.accepted attempts).map Attempt.request)
      (db.after (attempts.map Attempt.moment)).books := by
  induction attempts generalizing db with
  | nil => exact serves_nil db.books
  | cons a rest ih =>
    have hrest := ih h.tail
    rw [List.map_cons, after_cons]
    rcases h.cases with haccepted | hrefused
    · obtain ⟨ids, hspells, hwanted, happroves⟩ := haccepted.approves
      rw [accepted_of_accepted haccepted]
      exact (happroves.serves hspells hwanted).append hrest
    · rw [hrefused.after_eq] at hrest ⊢
      rwa [accepted_of_refused hrefused]

/-- **First come, first served**: if a reward is all that is asked for, the first attempts are
accepted, as many as there are pieces left. -/
theorem accepted_eq_take (h : db.Faces attempts) {r : Reward} (hr : r ∈ db.books.rewards.rows)
    (honly : ∀ a ∈ attempts, ∀ id, a.request.Lists id ↔ id = r.id) :
    db.accepted attempts = attempts.take (r.totalQuantity - r.issuedQuantity).toNat := by
  induction attempts generalizing db r with
  | nil => simp [accepted]
  | cons a rest ih =>
    have hlists := honly a List.mem_cons_self
    have honly' := fun b hb => honly b (List.mem_cons_of_mem _ hb)
    have hwithin := h.stocked.within r hr
    rcases h.cases with haccepted | hrefused
    · have hleft : r.issuedQuantity ≠ r.totalQuantity := fun hsold =>
        haccepted.inStock ⟨r, hr, (hlists r.id).mpr rfl, hsold⟩
      obtain ⟨ids, hspells, -, happroves⟩ := haccepted.approves
      have hlisted : r.id ∈ ids :=
        (RewardRequest.lists_iff hspells.rewardIds_eq).mp ((hlists r.id).mpr rfl)
      let taken : Reward :=
        { r with issuedQuantity := r.issuedQuantity + 1, updatedAt := some a.session.stamp }
      have htaken : taken ∈ (a.moment.after db).books.rewards.rows := by
        rw [happroves.rewards_eq]
        exact List.mem_map.mpr ⟨r, hr, if_pos hlisted⟩
      have hrest := ih h.tail htaken honly'
      have hcount : (r.totalQuantity - r.issuedQuantity).toNat =
          (taken.totalQuantity - taken.issuedQuantity).toNat + 1 := by
        simp only [taken]
        omega
      rw [accepted_of_accepted haccepted, hrest, hcount, List.take_succ_cons]
    · -- nothing is left for anybody
      obtain ⟨sold, hsold, hlisted, heq⟩ := hrefused.soldOut
      have hsame : sold = r :=
        h.entitled.numbered.rewards.eq_of_id_eq hsold hr ((hlists sold.id).mp hlisted)
      have hnone : (r.totalQuantity - r.issuedQuantity).toNat = 0 := by
        rw [← hsame, heq]
        omega
      have hrest := h.tail
      rw [hrefused.after_eq] at hrest
      rw [accepted_of_refused hrefused, ih hrest hr honly', hnone, List.take_zero, List.take_zero]

/-- **If there is enough for everybody**, all attempts are accepted. -/
theorem accepted_eq_self (h : db.Faces attempts)
    (henough : ∀ r ∈ db.books.rewards.rows,
      r.issuedQuantity + attempts.countP (fun a => a.request.Lists r.id) ≤ r.totalQuantity) :
    db.accepted attempts = attempts := by
  induction attempts generalizing db with
  | nil => rfl
  | cons a rest ih =>
    rcases h.cases with haccepted | hrefused
    · obtain ⟨ids, hspells, -, happroves⟩ := haccepted.approves
      rw [accepted_of_accepted haccepted, ih h.tail fun r hr => ?_]
      rw [happroves.rewards_eq] at hr
      obtain ⟨old, hold, rfl⟩ := List.mem_map.mp hr
      have hfits := henough old hold
      rw [List.countP_cons] at hfits
      simp only [decide_eq_true_eq, RewardRequest.lists_iff hspells.rewardIds_eq] at hfits
      split_ifs at hfits ⊢ with hlisted
      · dsimp only
        omega
      · omega
    · obtain ⟨r, hr, hlisted, hsold⟩ := hrefused.soldOut
      have hfits := henough r hr
      rw [List.countP_cons_of_pos (by simpa using hlisted)] at hfits
      omega

theorem of_perm (h : db.Faces attempts) {others : List Attempt}
    (hperm : (others.map Attempt.request).Perm (attempts.map Attempt.request)) :
    db.Faces others := by
  have hsame : ∀ b ∈ others, ∃ a ∈ attempts, a.request = b.request := fun b hb =>
    List.mem_map.mp (hperm.mem_iff.mp (List.mem_map_of_mem hb))
  refine ⟨h.reachable, fun b hb => ?_, fun b hb => ?_, ?_⟩
  · obtain ⟨a, ha, heq⟩ := hsame b hb
    exact heq ▸ h.present a ha
  · obtain ⟨a, ha, heq⟩ := hsame b hb
    exact heq ▸ h.pending a ha
  · have hids := hperm.map RewardRequest.id
    rw [List.map_map, List.map_map] at hids
    exact hids.nodup_iff.mpr h.distinct

end Faces

end Database

/-- **Approvals share the stock.** Let attempts be made to approve pending requests, each of them
once, in any database that can be reached by issuing through approval only. When its turn comes, an
attempt is refused if and only if a reward that its request lists is sold out. It is a conflict
then, and nothing is consumed: not in the tables, nor in the store itself where the pieces that were
reserved already are given back. In the end the accepted requests are approved and given what they
list, and each counter has grown by the number of those that list the reward. If one reward is all
that is asked for, the first attempts are accepted, as many as there are pieces left. If there are
pieces for all, every attempt is accepted, and attempts on the same requests in any other order lead
to the same statuses, counters and rewards granted for requests. -/
theorem approvals_share_the_stock {db : Database} {attempts : List Attempt}
    (h : db.Faces attempts) :
    let final := db.after (attempts.map Attempt.moment)
    (∀ before a later, attempts = before ++ a :: later →
      let there := db.after (before.map Attempt.moment)
      (a.succeeds there = false ↔ there.books.SoldOut a.request) ∧
        (a.succeeds there = false → a.moment.after there = there ∧ ∃ refusal : Refusal,
          refusal.kind = .conflict ∧
          a.action.perform a.session there = .error (.refused refusal) ∧
          ∀ (wreck : Wreck) (sheet : Sheet), sheet.books = there.books → ∃ tried,
            InPlace.transition a.session wreck a.request.id .approved a.operator a.reason a.time
              sheet = (.error (.refused refusal), { sheet with tried }))) ∧
    db.books.Serves ((db.accepted attempts).map Attempt.request) final.books ∧
    (∀ r ∈ db.books.rewards.rows, (∀ a ∈ attempts, ∀ id, a.request.Lists id ↔ id = r.id) →
      db.accepted attempts = attempts.take (r.totalQuantity - r.issuedQuantity).toNat) ∧
    ((∀ r ∈ db.books.rewards.rows,
        r.issuedQuantity + attempts.countP (fun a => a.request.Lists r.id) ≤ r.totalQuantity) →
      db.accepted attempts = attempts ∧ ∀ others : List Attempt,
        (others.map Attempt.request).Perm (attempts.map Attempt.request) →
          let other := db.after (others.map Attempt.moment)
          db.accepted others = others ∧ other.books.standing = final.books.standing ∧
            other.books.counters = final.books.counters ∧
            other.books.given.Perm final.books.given) := by
  intro final
  have hserves : db.books.Serves _ final.books := h.serves
  refine ⟨?_, hserves, fun r hr honly => h.accepted_eq_take hr honly, fun henough => ?_⟩
  · rintro before a later rfl there
    have hthere : there.Faces (a :: later) := h.of_append
    rcases hthere.cases with haccepted | hrefused
    · simp only [haccepted.succeeds, haccepted.inStock, Bool.true_eq_false, false_implies, and_true]
    · refine ⟨iff_of_true hrefused.succeeds_eq hrefused.soldOut, fun _ => ⟨hrefused.after_eq, ?_⟩⟩
      obtain ⟨refusal, hkind, hissue, hfails⟩ := hrefused.conflict
      refine ⟨refusal, hkind, hfails, fun wreck sheet hsheet => ?_⟩
      have hfound : sheet.books.requests.find? a.request.id = some a.request := by
        rw [hsheet]
        exact hthere.entitled.numbered.requests.find?_eq_some_iff.mpr
          ⟨hthere.present a List.mem_cons_self, rfl⟩
      rw [← hsheet] at hissue
      rw [InPlace.transition_eq_approveRequest a.session wreck sheet a.operator a.time hfound
        (hthere.pending a List.mem_cons_self) a.reason]
      exact InPlace.approveRequest_eq_error a.session wreck sheet a.operator a.time hissue
  · have hall := h.accepted_eq_self henough
    refine ⟨hall, fun others hperm => ?_⟩
    have hothers := h.of_perm hperm
    have hothers_all : db.accepted others = others := by
      refine hothers.accepted_eq_self fun r hr => ?_
      have hcount := hperm.countP_eq fun q => q.Lists r.id
      rw [List.countP_map, List.countP_map] at hcount
      exact hcount ▸ henough r hr
    have hserves' := hothers.serves
    rw [hothers_all] at hserves'
    rw [hall] at hserves
    obtain ⟨hcounters, hstanding, hgiven⟩ := hserves.perm hserves' hperm
    exact ⟨hothers_all, hstanding, hcounters, hgiven⟩

/-- A run in which two users ask for the only piece of a reward. -/
def contendedRun : List Moment :=
  pendingRun ++ [⟨{ clock := ⟨3500000⟩ }, .call (.createRequest ({} : Table Event).nextId
    [.known ({} : Table Reward).nextId] "bob" .empty none none)⟩]

/-- An attempt to approve each request of a database, in the order of the table. -/
def attemptsOn (db : Database) : List Attempt :=
  db.books.requests.rows.map fun request =>
    { session := { clock := ⟨4000000⟩ }, request, operator := some "admin", reason := none
      now := none }

/-- Of two requests for one piece, the one is approved whose turn comes first. -/
theorem approvals_share_the_stock_contendedRun :
    let db := Database.empty.after contendedRun
    (db.accepted (attemptsOn db)).map (fun a => a.request.userId) = ["ann"] ∧
      (db.accepted (attemptsOn db).reverse).map (fun a => a.request.userId) = ["bob"] := by
  intro db
  have hreachable : db.Reachable fun action => action.IssuesByApproval ∧ action.IsOrderly := by
    refine ⟨contendedRun, ?_, rfl⟩
    simp [contendedRun, pendingRun, Action.IssuesByApproval, Action.IsOrderly, Id.isSpelled_iff]
    decide
  have hanchored : db.books.Anchored := (hreachable.mono fun _ hP => hP.2).anchored
  obtain ⟨r, hrows⟩ := List.length_eq_one_iff.mp
    (by decide +kernel : db.books.rewards.rows.length = 1)
  have hr : r ∈ db.books.rewards.rows := by rw [hrows]; exact List.mem_singleton_self r
  have hleft : (r.totalQuantity - r.issuedQuantity).toNat = 1 :=
    (by decide +kernel : ∀ r ∈ db.books.rewards.rows,
      (r.totalQuantity - r.issuedQuantity).toNat = 1) r hr
  -- there is nothing else to ask for
  have hlists : ∀ q ∈ db.books.requests.rows, ∀ id, q.Lists id ↔ id = r.id := by
    intro q hq id
    obtain ⟨-, ids, hwants⟩ := hanchored.requests q hq
    have honly : ∀ id ∈ ids, id = r.id := by
      intro id hid
      obtain ⟨offered, hoffered, rfl, -⟩ := hwants.offered id hid
      rw [hrows, List.mem_singleton] at hoffered
      rw [hoffered]
    rw [RewardRequest.lists_iff hwants.spells.rewardIds_eq]
    refine ⟨honly id, fun heq => ?_⟩
    obtain ⟨first, hfirst⟩ := List.exists_mem_of_ne_nil ids hwants.spells.nonempty
    rwa [heq, ← honly first hfirst]
  have hfaces : db.Faces (attemptsOn db) := by
    refine ⟨hreachable, fun a ha => ?_, fun a ha => ?_, by decide +kernel⟩
    · obtain ⟨q, hq, rfl⟩ := List.mem_map.mp ha
      exact hq
    · obtain ⟨q, hq, rfl⟩ := List.mem_map.mp ha
      exact (by decide +kernel : ∀ q ∈ db.books.requests.rows, q.status = .pending) q hq
  have hreversed : db.Faces (attemptsOn db).reverse :=
    hfaces.of_perm ((List.reverse_perm _).map Attempt.request)
  have hasked : ∀ a ∈ attemptsOn db, ∀ id, a.request.Lists id ↔ id = r.id := by
    intro a ha
    obtain ⟨q, hq, rfl⟩ := List.mem_map.mp ha
    exact hlists q hq
  constructor
  · rw [(approvals_share_the_stock hfaces).2.2.1 r hr hasked, hleft]
    decide +kernel
  · rw [(approvals_share_the_stock hreversed).2.2.1 r hr
      fun a ha => hasked a (List.mem_reverse.mp ha), hleft]
    decide +kernel

end Promotions
