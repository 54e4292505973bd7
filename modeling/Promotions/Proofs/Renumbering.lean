import Promotions.Proofs.Separation

/-!
# The same rows under other identifiers

Two books in which a user has the same rows may differ in the rows of everybody else, and therefore
in the identifiers that their tables give out next. `Renumbering.between` carries the identifiers
that the one will give out to those of the other and leaves the older ones alone. `Books.Alike` says
that two books have the same events and rewards, and that the rows of a user in the one are the
renumbered rows in the other. It holds of any two books that agree in what the user has
(`Books.Agree.alike`), and it is kept when both are written to in the same way in the user's name.
-/

namespace Promotions

/-! ### Renumbered rows -/

/-- What the identifiers of participations, requests and grants become. -/
structure Renumbering where
  participation : Id → Id
  request : Id → Id
  grant : Id → Id

/-- The participation under its new identifier. -/
def Participation.renumbered (σ : Renumbering) (p : Participation) : Participation :=
  { p with id := σ.participation p.id, rewardRequestId := p.rewardRequestId.map σ.request }

/-- The request under its new identifier. -/
def RewardRequest.renumbered (σ : Renumbering) (q : RewardRequest) : RewardRequest :=
  { q with id := σ.request q.id }

/-- The claim of a request under its new identifier. -/
def Claim.renumbered (σ : Renumbering) (c : Claim) : Claim :=
  { c with requestId := σ.request c.requestId }

/-- The grant under its new identifier. -/
def Grant.renumbered (σ : Renumbering) (g : Grant) : Grant :=
  { g with id := σ.grant g.id, requestId := σ.request g.requestId }

/-- The share under its new identifiers. -/
def Share.renumbered (σ : Renumbering) (share : Share) : Share :=
  { participations := share.participations.map (Participation.renumbered σ)
    requests := share.requests.map (RewardRequest.renumbered σ)
    claims := share.claims.map (Claim.renumbered σ)
    grants := share.grants.map (Grant.renumbered σ) }

namespace Table

variable {ρ : Type} [Row ρ]

/-- An identifier that one table has yet to give out becomes the one that another table gives out in
its turn. -/
def carry (t t' : Table ρ) (id : Id) : Id :=
  if id.val < t.nextId.val then id else ⟨t'.nextId.val + (id.val - t.nextId.val)⟩

theorem carry_of_lt {t t' : Table ρ} {id : Id} (h : id.val < t.nextId.val) : t.carry t' id = id :=
  if_pos h

theorem carry_nextId_add (t t' : Table ρ) (k : Nat) :
    t.carry t' ⟨t.nextId.val + k⟩ = ⟨t'.nextId.val + k⟩ := by
  unfold carry
  rw [if_neg (by simp), Nat.add_sub_cancel_left]

theorem Numbered.val_lt_nextId {t : Table ρ} (h : t.Numbered) {row : ρ} (hrow : row ∈ t.rows) :
    (Row.id row).val < t.nextId.val := by
  have hmem : Row.id row ∈ firstIds ρ t.added := by
    rw [← h]
    exact List.mem_map_of_mem hrow
  obtain ⟨k, hk, hid⟩ := List.mem_map.mp hmem
  have hlt := List.mem_range.mp hk
  rw [← hid]
  simp only [nextId]
  omega

end Table

/-- The identifiers that some books give out become those that other books give out in
their turn. -/
def Renumbering.between (books books' : Books) : Renumbering :=
  { participation := books.participations.carry books'.participations
    request := books.requests.carry books'.requests
    grant := books.grants.carry books'.grants }

/-! ### Tables that are alike -/

namespace Table

variable {ρ : Type} [Row ρ] {mine : ρ → Bool} {σ : Id → Id} {move : ρ → ρ} {t t' : Table ρ}

/-- **Two tables are alike in the rows of somebody**: these are the same up to their identifiers,
and so will be those that are added. -/
structure Alike (mine : ρ → Bool) (σ : Id → Id) (move : ρ → ρ) (t t' : Table ρ) : Prop where
  numbered : t.Numbered
  numbered' : t'.Numbered
  id_move : ∀ row, Row.id (move row) = σ (Row.id row)
  mine_move : ∀ row, mine (move row) = mine row
  follows : ∀ k, σ ⟨t.nextId.val + k⟩ = ⟨t'.nextId.val + k⟩
  rows : t'.filter mine = (t.filter mine).map move

section
variable (h : Alike mine σ move t t')
include h

theorem Alike.nextId_eq : σ t.nextId = t'.nextId := h.follows 0

theorem Alike.mem {row : ρ} (hrow : row ∈ t.rows) (hmine : mine row = true) :
    move row ∈ t'.rows := by
  have hmem : move row ∈ t'.filter mine := by
    rw [h.rows]
    exact List.mem_map_of_mem (List.mem_filter.mpr ⟨hrow, hmine⟩)
  exact (List.mem_filter.mp hmem).1

theorem Alike.id_eq_iff {a b : ρ} (ha : a ∈ t.rows) (hamine : mine a = true) (hb : b ∈ t.rows)
    (hbmine : mine b = true) : σ (Row.id a) = σ (Row.id b) ↔ Row.id a = Row.id b := by
  constructor
  · intro hid
    have hnodup : ((t.filter mine).map fun row => σ (Row.id row)).Nodup := by
      have hsublist : ((t'.filter mine).map Row.id).Sublist (t'.rows.map Row.id) :=
        List.filter_sublist.map _
      have hids := h.numbered'.nodup.sublist hsublist
      rw [h.rows, List.map_map] at hids
      exact (List.map_congr_left fun row _ => h.id_move row) ▸ hids
    rw [List.inj_on_of_nodup_map hnodup (List.mem_filter.mpr ⟨ha, hamine⟩)
      (List.mem_filter.mpr ⟨hb, hbmine⟩) hid]
  · intro hid
    rw [hid]

theorem Alike.find?_eq {row : ρ} (hrow : row ∈ t.rows) (hmine : mine row = true) :
    t.find? (Row.id row) = some row ∧ t'.find? (σ (Row.id row)) = some (move row) :=
  ⟨h.numbered.find?_eq_some_iff.mpr ⟨hrow, rfl⟩,
    h.numbered'.find?_eq_some_iff.mpr ⟨h.mem hrow hmine, h.id_move row⟩⟩

theorem Alike.push {row : ρ} (hid : Row.id row = t.nextId) (hmine : mine row = true) :
    Alike mine σ move (t.push row) (t'.push (move row)) where
  numbered := h.numbered.push hid
  numbered' := h.numbered'.push (by rw [h.id_move, hid, h.nextId_eq])
  id_move := h.id_move
  mine_move := h.mine_move
  follows := by
    intro k
    have hnext := h.follows (k + 1)
    simp only [nextId, added_push] at hnext ⊢
    rw [show Row.origin ρ + (t.added + 1) + 1 + k = Row.origin ρ + t.added + 1 + (k + 1) by omega,
      hnext]
    congr 1
    omega
  rows := by
    have hrows := h.rows
    have hmoved : mine (move row) = true := (h.mine_move row).trans hmine
    unfold filter at hrows ⊢
    simp [hrows, hmine, hmoved]

theorem Alike.modify {old : ρ} (hold : old ∈ t.rows) (hmine : mine old = true) {f f' : ρ → ρ}
    (hid : ∀ row, Row.id row = Row.id old → Row.id (f row) = Row.id old)
    (hid' : ∀ row, Row.id row = σ (Row.id old) → Row.id (f' row) = σ (Row.id old))
    (hkept : mine (f old) = true) (hf : f' (move old) = move (f old)) :
    Alike mine σ move (t.modify (Row.id old) f) (t'.modify (σ (Row.id old)) f') where
  numbered := h.numbered.modify hid
  numbered' := h.numbered'.modify hid'
  id_move := h.id_move
  mine_move := h.mine_move
  follows := h.follows
  rows := by
    have hkept' : mine (f' (move old)) = mine (move old) := by
      rw [hf, h.mine_move, h.mine_move, hkept, hmine]
    rw [← h.id_move, h.numbered'.filter_modify (h.mem hold hmine) hkept',
      h.numbered.filter_modify hold (hkept.trans hmine.symm), h.rows, List.map_map, List.map_map]
    refine List.map_congr_left fun row hrow => ?_
    obtain ⟨hrow, hrowmine⟩ := List.mem_filter.mp hrow
    have hsame := h.id_eq_iff hrow hrowmine hold hmine
    simp only [Function.comp, h.id_move, hsame]
    split_ifs with hrid
    · rw [h.numbered.eq_of_id_eq hrow hold hrid, hf]
    · rfl

theorem Alike.put {old new : ρ} (hold : old ∈ t.rows) (hmine : mine old = true)
    (hid : Row.id new = Row.id old) (hkept : mine new = true) :
    Alike mine σ move (t.put new) (t'.put (move new)) := by
  rw [Table.put, Table.put, h.id_move, hid]
  refine h.modify hold hmine (fun _ _ => hid) (fun _ _ => ?_) hkept rfl
  rw [h.id_move, hid]

end

end Table

/-! ### Books that are alike -/

namespace Books

/-- **Two books are alike for a user**: they have the same events and rewards, and the rows of the
user are the same up to their identifiers. -/
structure Alike (userId : String) (σ : Renumbering) (books books' : Books) : Prop where
  events : books'.events.rows = books.events.rows
  rewards : books'.rewards.rows = books.rewards.rows
  participations : Table.Alike (fun p => p.userId = userId) σ.participation
    (Participation.renumbered σ) books.participations books'.participations
  requests : Table.Alike (fun q => q.userId = userId) σ.request (RewardRequest.renumbered σ)
    books.requests books'.requests
  claims : (books'.claims.filter fun c => c.userId = userId) =
    (books.claims.filter fun c => c.userId = userId).map (Claim.renumbered σ)
  grants : Table.Alike (fun g => g.userId = userId) σ.grant (Grant.renumbered σ) books.grants
    books'.grants

/-- **Two books agree for a user**: they have the same events and rewards, and the user has the same
rows in both. -/
structure Agree (userId : String) (books books' : Books) : Prop where
  events : books'.events.rows = books.events.rows
  rewards : books'.rewards.rows = books.rewards.rows
  own : books'.own userId = books.own userId

variable {userId : String} {σ : Renumbering} {books books' : Books}

theorem Filing.agree {s : Session} {after : Books} {event : Event} {rewards : List Id}
    {other : String} {verificationData : Json} {now : Instant} {request : RewardRequest}
    {notes : List Note}
    (h : Filing s books event rewards other verificationData now request after notes)
    (hbooks : books.Numbered) (hne : other ≠ userId) : Agree userId books after where
  events := by rw [h.events_eq]
  rewards := by rw [h.stock_eq.1]
  own := h.share_eq hbooks (decide_eq_false hne)

theorem Alike.own_eq (h : Alike userId σ books books') :
    books'.own userId = (books.own userId).renumbered σ :=
  Share.ext h.participations.rows h.requests.rows h.claims h.grants.rows

theorem Numbered.carry_request (hbooks : books.Numbered) (books' : Books) {id : Id}
    (hhas : books.requests.Has id) : books.requests.carry books'.requests id = id := by
  obtain ⟨q, hq, rfl⟩ := hhas
  exact Table.carry_of_lt (hbooks.requests.val_lt_nextId hq)

/-- **Books that agree are alike**: everything that the user has was given out before. -/
theorem Agree.alike (h : Agree userId books books') (hbooks : books.Mirrored)
    (hbooks' : books'.Numbered) (hlinked : books.Linked) (hreferred : books.Referred) :
    Alike userId (.between books books') books books' := by
  have hnumbered := hbooks.numbered
  have hsame {α : Type} {l l' : List α} {f : α → α} (hl : l' = l) (hf : ∀ a ∈ l, f a = a) :
      l' = l.map f := by
    rw [hl, List.map_congr_left hf, List.map_id'']
    exact fun _ => rfl
  refine ⟨h.events, h.rewards, ?_, ?_, ?_, ?_⟩
  · refine ⟨hnumbered.participations, hbooks'.participations, fun _ => rfl, fun _ => rfl,
      Table.carry_nextId_add _ _, hsame (congrArg Share.participations h.own) fun p hp => ?_⟩
    have hrow := (List.mem_filter.mp hp).1
    have hid : (Renumbering.between books books').participation p.id = p.id :=
      Table.carry_of_lt (hnumbered.participations.val_lt_nextId hrow)
    have hlink : p.rewardRequestId.map (Renumbering.between books books').request =
        p.rewardRequestId := by
      cases hrequest : p.rewardRequestId with
      | none => rfl
      | some id =>
        exact congrArg some (hnumbered.carry_request books' ((hlinked p hrow).2 id hrequest))
    unfold Participation.renumbered
    rw [hid, hlink]
  · refine ⟨hnumbered.requests, hbooks'.requests, fun _ => rfl, fun _ => rfl,
      Table.carry_nextId_add _ _, hsame (congrArg Share.requests h.own) fun q hq => ?_⟩
    have hid : (Renumbering.between books books').request q.id = q.id :=
      Table.carry_of_lt (hnumbered.requests.val_lt_nextId (List.mem_filter.mp hq).1)
    unfold RewardRequest.renumbered
    rw [hid]
  · refine hsame (congrArg Share.claims h.own) fun c hc => ?_
    obtain ⟨q, hq, -, -, hof⟩ := hbooks.backed c (List.mem_filter.mp hc).1
    have hid : (Renumbering.between books books').request c.requestId = c.requestId :=
      hnumbered.carry_request books' ⟨q, hq, hof.requestId_eq.symm⟩
    unfold Claim.renumbered
    rw [hid]
  · refine ⟨hnumbered.grants, hbooks'.grants, fun _ => rfl, fun _ => rfl,
      Table.carry_nextId_add _ _, hsame (congrArg Share.grants h.own) fun g hg => ?_⟩
    have hrow := (List.mem_filter.mp hg).1
    obtain ⟨q, hq, hof, -⟩ := hreferred g hrow
    have hid : (Renumbering.between books books').grant g.id = g.id :=
      Table.carry_of_lt (hnumbered.grants.val_lt_nextId hrow)
    have hrequest : (Renumbering.between books books').request g.requestId = g.requestId :=
      hnumbered.carry_request books' ⟨q, hq, hof.requestId_eq.symm⟩
    unfold Grant.renumbered
    rw [hid, hrequest]

/-! ### The latest participation -/

/-- A list that is changed in nothing but what its order does not depend on keeps its order. -/
theorem latestFirst_map {ρ : Type} {time : ρ → Option Instant} {f : ρ → ρ}
    (hf : ∀ row, time (f row) = time row) (rows : List ρ) :
    latestFirst time (rows.map f) = (latestFirst time rows).map f := by
  unfold latestFirst
  exact (List.map_mergeSort fun a _ b _ => by rw [hf, hf]).symm

theorem participationsOf_modify (books : Books) (id : Id) {f : Participation → Participation}
    (hf : ∀ p, (f p).attendance = p.attendance) (eventId : Id) (userId : String) :
    ({ books with participations := books.participations.modify id f } : Books).participationsOf
        eventId userId =
      (books.participationsOf eventId userId).map fun p => if p.id = id then f p else p := by
  unfold participationsOf Table.filter
  rw [Table.rows_modify, List.filter_map]
  congr 1
  refine List.filter_congr fun p _ => ?_
  have hevent : (f p).eventId = p.eventId := congrArg Attendance.eventId (hf p)
  have huser : (f p).userId = p.userId := congrArg Attendance.userId (hf p)
  have hstatus : (f p).status = p.status := congrArg Attendance.status (hf p)
  simp only [Function.comp]
  split_ifs
  · rw [hevent, huser, hstatus]
  · rfl

theorem rewardRequestId_of_linkParticipation {request : RewardRequest} {now : Instant}
    {p : Participation} (h : (books.linkParticipation request now).latestParticipation?
      request.eventId request.userId = some p) : p.rewardRequestId = some request.id := by
  unfold linkParticipation at h
  split at h
  · next hnone =>
    rw [hnone] at h
    cases h
  · next latest hlatest =>
    -- linking changes nothing by which the latest participation is found
    unfold latestParticipation? at h hlatest
    rw [participationsOf_modify, latestFirst_map, List.head?_map, hlatest, Option.map_some,
      if_pos rfl] at h
    · rw [← Option.some.inj h]
    · intro p
      split <;> rfl
    · exact fun _ => rfl

section
variable (h : Alike userId σ books books')
include h

theorem Alike.participationsOf_eq (eventId : Id) :
    books'.participationsOf eventId userId =
      (books.participationsOf eventId userId).map (Participation.renumbered σ) := by
  have hown {t : Table Participation} : (t.filter fun p =>
      p.eventId = eventId && p.userId = userId && p.status = .participated) =
        (t.filter fun p => p.userId = userId).filter fun p =>
          p.eventId = eventId && p.status = .participated := by
    unfold Table.filter
    rw [List.filter_filter]
    exact List.filter_congr fun p _ => Bool.and_right_comm _ _ _
  unfold participationsOf
  rw [hown, hown, h.participations.rows, List.filter_map]
  rfl

theorem Alike.latestParticipation?_eq (eventId : Id) :
    books'.latestParticipation? eventId userId =
      (books.latestParticipation? eventId userId).map (Participation.renumbered σ) := by
  unfold latestParticipation?
  rw [h.participationsOf_eq, latestFirst_map (f := Participation.renumbered σ) fun _ => rfl,
    List.head?_map]

/-! ### Writing to both -/

theorem Alike.linkParticipation {request : RewardRequest} (huser : request.userId = userId)
    (now : Instant) : Alike userId σ (books.linkParticipation request now)
      (books'.linkParticipation (request.renumbered σ) now) := by
  subst huser
  have hlatest : books'.latestParticipation? (request.renumbered σ).eventId
      (request.renumbered σ).userId = _ := h.latestParticipation?_eq request.eventId
  unfold Books.linkParticipation
  rw [hlatest]
  cases hfound : books.latestParticipation? request.eventId request.userId with
  | none => exact h
  | some latest =>
    obtain ⟨hmem, hown⟩ := mem_of_latestParticipation? hfound
    have hmine : decide (latest.userId = request.userId) = true := decide_eq_true hown
    exact { h with
      participations := h.participations.modify hmem hmine (fun _ hid => hid) (fun _ hid => hid)
        hmine rfl }

theorem Alike.markRewarded {request : RewardRequest} (huser : request.userId = userId)
    (now : Instant)
    (hlinked : ∀ p, books.latestParticipation? request.eventId request.userId = some p →
      p.rewardRequestId = some request.id) : Alike userId σ (books.markRewarded request now)
      (books'.markRewarded (request.renumbered σ) now) := by
  subst huser
  have hlatest : books'.latestParticipation? (request.renumbered σ).eventId
      (request.renumbered σ).userId = _ := h.latestParticipation?_eq request.eventId
  unfold Books.markRewarded
  rw [hlatest]
  cases hfound : books.latestParticipation? request.eventId request.userId with
  | none => exact h
  | some latest =>
    have hlink := hlinked latest hfound
    have hlink' : (latest.renumbered σ).rewardRequestId = some (request.renumbered σ).id :=
      congrArg (Option.map σ.request) hlink
    obtain ⟨hmem, hown⟩ := mem_of_latestParticipation? hfound
    have hmine : decide (latest.userId = request.userId) = true := decide_eq_true hown
    dsimp only [Option.map_some]
    rw [if_pos hlink, if_pos hlink']
    exact { h with
      participations := h.participations.modify hmem hmine (fun _ hid => hid) (fun _ hid => hid)
        hmine rfl }

theorem Alike.putRequest {request new : RewardRequest} (hrequest : request ∈ books.requests.rows)
    (huser : request.userId = userId) (hid : new.id = request.id) (hnew : new.userId = userId)
    (s : Session) :
    Alike userId σ (books.putRequest s new) (books'.putRequest s (new.renumbered σ)) := by
  have hmine : decide (request.userId = userId) = true := decide_eq_true huser
  exact { h with requests := h.requests.put hrequest hmine hid (decide_eq_true hnew) }

theorem Alike.withGrant {grant : Grant} (hid : grant.id = books.grants.nextId)
    (huser : grant.userId = userId) (stamp : Instant) :
    Alike userId σ (books.withGrant stamp grant) (books'.withGrant stamp (grant.renumbered σ)) where
  events := h.events
  rewards := by
    simp only [Books.withGrant, takeOne, Table.rows_modify, h.rewards]
    rfl
  participations := h.participations
  requests := h.requests
  claims := h.claims
  grants := h.grants.push hid (decide_eq_true huser)

theorem Alike.enter {p : Participation} (hid : p.id = books.participations.nextId)
    (huser : p.userId = userId) (eventId : Id) (stamp : Instant) :
    Alike userId σ
      (({ books with participations := books.participations.push p } : Books).countParticipant
        eventId stamp)
      (({ books' with
          participations := books'.participations.push (p.renumbered σ) } : Books).countParticipant
        eventId stamp) where
  events := by simp only [countParticipant, Table.rows_modify, h.events]
  rewards := h.rewards
  participations := h.participations.push hid (decide_eq_true huser)
  requests := h.requests
  claims := h.claims
  grants := h.grants

theorem Alike.file {request : RewardRequest} (hid : request.id = books.requests.nextId)
    (huser : request.userId = userId) (eventId : Id) (stamp : Instant) (rewards : List Id) :
    Alike userId σ
      { books with
        requests := books.requests.push request
        claims := books.claims ++ claimsFor request.id eventId userId stamp rewards }
      { books' with
        requests := books'.requests.push (request.renumbered σ)
        claims := books'.claims ++
          claimsFor (request.renumbered σ).id eventId userId stamp rewards } where
  events := h.events
  rewards := h.rewards
  participations := h.participations
  requests := h.requests.push hid (decide_eq_true huser)
  claims := by
    have hown (id : Id) : ((claimsFor id eventId userId stamp rewards).filter
        fun c => c.userId = userId) = claimsFor id eventId userId stamp rewards := by
      refine List.filter_eq_self.mpr fun c hc => ?_
      obtain ⟨rewardId, -, rfl⟩ := List.mem_map.mp hc
      exact decide_eq_true rfl
    rw [List.filter_append, List.filter_append, hown, hown, h.claims, List.map_append]
    simp [claimsFor, Claim.renumbered, RewardRequest.renumbered]
  grants := h.grants

end

end Books

end Promotions
