import Promotions.Proofs.Rows

/-!
# The stock of rewards

A reward's counter and its grants are written by separate operations, the first of which may be
undone by what comes after it. `Books.Stocked` says that they agree all the same: the counter is the
number of grants, it does not go over the total, and every grant is of a reward that exists. Each
single grant keeps this (`stocked_withGrant`), and so does every change (`Change.stocked`).

So the ledger of `stock_ledger` holds in every database that can be reached: a moment moves the
counter of a reward by the number of grants of it that the moment adds, and only approving, issuing,
and asking for rewards of an event that approves by itself can move it at all.
-/

namespace Promotions

open Table (Evolves newRows)

/-- The action may issue rewards. -/
def Action.MayIssue (books : Books) : Action → Prop
  | .transition _ target _ _ _ => target = .approved
  | .createRequest eventId _ _ _ _ _ =>
    ∃ event, books.events.find? eventId = some event ∧ event.autoReward = true
  | .issue _ _ _ => True
  | _ => False

namespace Books

/-- The number of grants of a reward. -/
def grantCount (books : Books) (rewardId : Id) : Nat :=
  books.grants.count fun g => g.rewardId = rewardId

/-- **The counters agree with the grants**, and none goes over its total. -/
structure Stocked (books : Books) : Prop where
  numbered : books.Numbered
  counted : ∀ r ∈ books.rewards.rows, (books.grantCount r.id : Int) = r.issuedQuantity
  within : ∀ r ∈ books.rewards.rows, r.issuedQuantity ≤ r.totalQuantity
  known : ∀ g ∈ books.grants.rows, ∃ r ∈ books.rewards.rows, r.id = g.rewardId

section Stocked
variable {s : Session} {books after : Books}

theorem stocked_empty : ({} : Books).Stocked where
  numbered := numbered_empty
  counted := by simp
  within := by simp
  known := by simp

theorem Stocked.of_eq (h : books.Stocked) (hafter : after.Numbered)
    (hrewards : after.rewards = books.rewards) (hgrants : after.grants = books.grants) :
    after.Stocked where
  numbered := hafter
  counted := by
    unfold grantCount
    rw [hrewards, hgrants]
    exact h.counted
  within := by rw [hrewards]; exact h.within
  known := by rw [hrewards, hgrants]; exact h.known

theorem Stocked.map_grants (h : books.Stocked) {f : Grant → Grant}
    (hf : ∀ g ∈ books.grants.rows, (f g).rewardId = g.rewardId)
    (hafter : ({ books with
      grants := { books.grants with rows := books.grants.rows.map f } } : Books).Numbered) :
    ({ books with
      grants := { books.grants with rows := books.grants.rows.map f } } : Books).Stocked where
  numbered := hafter
  counted := by
    intro r hr
    rw [← h.counted r hr]
    simp only [grantCount, Table.count, List.countP_map, Nat.cast_inj]
    refine List.countP_congr fun g hg => ?_
    simp [hf g hg]
  within := h.within
  known := by
    intro g hg
    obtain ⟨old, hold, rfl⟩ := List.mem_map.mp hg
    obtain ⟨r, hr, hid⟩ := h.known old hold
    exact ⟨r, hr, hid.trans (hf old hold).symm⟩

/-- **One grant** takes one piece of its reward's stock. -/
theorem stocked_withGrant (h : books.Stocked) {grant : Grant} {reward : Reward} (stamp : Instant)
    (hid : grant.id = books.grants.nextId)
    (hreward : books.rewards.find? grant.rewardId = some reward)
    (hstock : reward.issuedQuantity < reward.totalQuantity) :
    (books.withGrant stamp grant).Stocked := by
  obtain ⟨hrow, hrid⟩ := h.numbered.rewards.find?_eq_some_iff.mp hreward
  have hrows : ∀ r ∈ (books.withGrant stamp grant).rewards.rows, ∃ old ∈ books.rewards.rows,
      r.id = old.id ∧ r.totalQuantity = old.totalQuantity ∧
        (old = reward ∧ r.issuedQuantity = old.issuedQuantity + 1 ∨
          old.id ≠ grant.rewardId ∧ r.issuedQuantity = old.issuedQuantity) := by
    intro r hr
    obtain ⟨old, hold, rfl⟩ := List.mem_map.mp hr
    refine ⟨old, hold, ?_⟩
    split_ifs with heq
    · exact ⟨rfl, rfl, Or.inl ⟨h.numbered.rewards.eq_of_id_eq hold hrow (heq.trans hrid.symm), rfl⟩⟩
    · exact ⟨rfl, rfl, Or.inr ⟨heq, rfl⟩⟩
  have hcount : ∀ id, (books.withGrant stamp grant).grantCount id =
      books.grantCount id + if grant.rewardId = id then 1 else 0 := by
    intro id
    simp [grantCount, Table.count, withGrant, List.countP_append, List.countP_singleton]
  refine ⟨numbered_withGrant h.numbered hid stamp, fun r hr => ?_, fun r hr => ?_, fun g hg => ?_⟩
  · obtain ⟨old, hold, hsame, -, ⟨rfl, hissued⟩ | ⟨hne, hissued⟩⟩ := hrows r hr
    · have hmine : grant.rewardId = r.id := hrid.symm.trans hsame.symm
      have hcounted := h.counted old hold
      rw [hcount, if_pos hmine, hissued, hsame]
      push_cast
      omega
    · have hother : ¬grant.rewardId = r.id := fun heq => hne (hsame.symm.trans heq.symm)
      rw [hcount, if_neg hother, hissued, hsame, Nat.add_zero]
      exact h.counted old hold
  · obtain ⟨old, hold, -, htotal, ⟨rfl, hissued⟩ | ⟨-, hissued⟩⟩ := hrows r hr
    · omega
    · have := h.within old hold
      omega
  · have hkept : ∀ old ∈ books.rewards.rows,
        ∃ r ∈ (books.withGrant stamp grant).rewards.rows, r.id = old.id := by
      intro old hold
      refine ⟨_, List.mem_map_of_mem hold, ?_⟩
      split_ifs <;> rfl
    rcases List.mem_append.mp hg with hg | hg
    · obtain ⟨old, hold, hoid⟩ := h.known g hg
      obtain ⟨r, hr, hsame⟩ := hkept old hold
      exact ⟨r, hr, hsame.trans hoid⟩
    · cases List.mem_singleton.mp hg
      obtain ⟨r, hr, hsame⟩ := hkept reward hrow
      exact ⟨r, hr, hsame.trans hrid⟩

theorem Granting.stocked {request : RewardRequest} {operator : Option String} {now : Instant}
    {ids : List Id} {grants : List Grant} {notes : List Note}
    (h : Granting s request operator now books ids after grants notes) (hbooks : books.Stocked) :
    after.Stocked := by
  induction h with
  | done books => exact hbooks
  | skipped hnone hrest ih => exact ih hbooks
  | granted hreward hstock hcopied hgrant hnew hview hrest ih =>
    have hid := Table.id_of_find?_eq_some hreward
    refine ih (stocked_withGrant hbooks s.stamp (by rw [hgrant]; rfl) ?_ hstock)
    rw [hgrant]
    exact (congrArg _ hid).trans hreward

theorem Moving.stocked {request : RewardRequest} {operator reason : Option String} {now : Instant}
    {target : RequestStatus} {notes : List Note}
    (h : Moving s books request operator reason now target after notes) (hbooks : books.Stocked) :
    after.Stocked := by
  have hafter := h.numbered hbooks.numbered
  by_cases htarget : target = .approved
  · subst htarget
    obtain ⟨ids, issued, grants, granted, -, hgranting, hrewards, hgrants, -⟩ := h.exists_granting
    exact (hgranting.stocked hbooks).of_eq hafter hrewards hgrants
  · obtain ⟨hrewards, hgrants⟩ := h.stock_eq htarget
    exact hbooks.of_eq hafter hrewards hgrants

theorem stocked_push (h : books.Stocked) {reward : Reward} (hid : reward.id = books.rewards.nextId)
    (hissued : reward.issuedQuantity = 0) (hstock : stockOk reward = true) :
    ({ books with rewards := books.rewards.push reward } : Books).Stocked where
  numbered := { h.numbered with rewards := h.numbered.rewards.push hid }
  counted := by
    intro r hr
    rcases List.mem_append.mp hr with hr | hr
    · exact h.counted r hr
    · have hnone : books.grantCount reward.id = 0 := by
        refine List.countP_eq_zero.mpr fun g hg heq => ?_
        obtain ⟨old, hold, hoid⟩ := h.known g hg
        refine h.numbered.rewards.id_ne_nextId hold ?_
        rw [← hid, ← of_decide_eq_true heq]
        exact hoid
      cases List.mem_singleton.mp hr
      rw [hissued]
      exact congrArg _ hnone
  within := by
    intro r hr
    rcases List.mem_append.mp hr with hr | hr
    · exact h.within r hr
    · cases List.mem_singleton.mp hr
      simp only [stockOk, Bool.and_eq_true, decide_eq_true_eq] at hstock
      exact hstock.2
  known := by
    intro g hg
    obtain ⟨r, hr, hrid⟩ := h.known g hg
    exact ⟨r, List.mem_append_left _ hr, hrid⟩

theorem stocked_put (h : books.Stocked) {old new : Reward} (hold : old ∈ books.rewards.rows)
    (hid : new.id = old.id) (hissued : new.issuedQuantity = old.issuedQuantity)
    (htotal : new.issuedQuantity ≤ new.totalQuantity) :
    ({ books with rewards := books.rewards.put new } : Books).Stocked where
  numbered := { h.numbered with rewards := h.numbered.rewards.put new }
  counted := by
    intro r hr
    rcases (Table.mem_put_iff hold hid).mp hr with rfl | ⟨hr, -⟩
    · rw [hissued, ← h.counted old hold, ← hid]
      rfl
    · exact h.counted r hr
  within := by
    intro r hr
    rcases (Table.mem_put_iff hold hid).mp hr with rfl | ⟨hr, -⟩
    · exact htotal
    · exact h.within r hr
  known := by
    intro g hg
    obtain ⟨r, hr, hrid⟩ := h.known g hg
    by_cases heq : r.id = old.id
    · exact ⟨new, (Table.mem_put_iff hold hid).mpr (Or.inl rfl), by rw [hid, ← heq, hrid]⟩
    · exact ⟨r, (Table.mem_put_iff hold hid).mpr (Or.inr ⟨hr, heq⟩), hrid⟩

end Stocked

end Books

open Books

theorem issued_le_of_checkTotal {reward : Reward} {edit : Edit Int}
    (h : checkTotal reward edit = .ok ()) (hwithin : reward.issuedQuantity ≤ reward.totalQuantity) :
    reward.issuedQuantity ≤ edit.getD reward.totalQuantity := by
  cases edit with
  | keep => exact hwithin
  | clear => cases h
  | set total =>
    simp only [checkTotal] at h
    split at h
    · cases h
    · next hle => exact Int.not_lt.mp hle

/-- **Every change keeps the stock.** -/
theorem Change.stocked {s : Session} {books after : Books} {action : Action} {notes : List Note}
    (h : Change s books action after notes) (hbooks : books.Stocked) : after.Stocked := by
  have hafter := h.numbered hbooks.numbered
  cases h with
  | nothing | noted => exact hbooks
  | eventMade | eventEdited | tookPart => exact hbooks.of_eq hafter rfl rfl
  | rewardMade _ _ hreward hstock =>
    refine stocked_push hbooks ?_ ?_ hstock
    · rw [hreward]; rfl
    · rw [hreward]; rfl
  | rewardEdited hold htotal _ _ hnew =>
    have hrow := Table.mem_of_find?_eq_some hold
    refine stocked_put hbooks hrow ?_ ?_ ?_
    · rw [hnew]; rfl
    · rw [hnew]; rfl
    · rw [hnew]; exact issued_le_of_checkTotal htotal (hbooks.within _ hrow)
  | filed _ hraced hfiling =>
    obtain ⟨claims, rfl⟩ := hraced.exists_eq
    obtain ⟨participations, -, rfl⟩ := hfiling.exists_eq
    exact hbooks.of_eq hafter rfl rfl
  | filedAndApproved _ hraced hfiling _ _ _ hmoving =>
    refine hmoving.stocked ?_
    have hfiled := hfiling.numbered (hraced.numbered hbooks.numbered)
    obtain ⟨claims, rfl⟩ := hraced.exists_eq
    obtain ⟨participations, -, rfl⟩ := hfiling.exists_eq
    exact hbooks.of_eq hfiled rfl rfl
  | moved _ _ hmoving => exact hmoving.stocked hbooks
  | cancelled _ _ _ hmoving => exact hmoving.stocked hbooks
  | issued _ _ _ hgranting => exact hgranting.stocked hbooks
  | used hfound =>
    refine hbooks.map_grants (fun g hg => ?_) hafter
    split_ifs with hid
    · rw [hbooks.numbered.grants.eq_of_id_eq hg (Table.mem_of_find?_eq_some hfound) hid]
      rfl
    · rfl
  | expired now =>
    refine hbooks.map_grants (fun g _ => ?_) hafter
    obtain ⟨status, usedAt, heq⟩ := g.continues_expire (now.getD s.clock)
    rw [heq]

theorem Change.size_grants {s : Session} {books after : Books} {action : Action}
    {notes : List Note} (h : Change s books action after notes) (hmay : ¬action.MayIssue books) :
    after.grants.rows.length = books.grants.rows.length := by
  cases h with
  | nothing | noted | eventMade | eventEdited | rewardMade | rewardEdited | tookPart => rfl
  | filed _ hraced hfiling =>
    obtain ⟨claims, rfl⟩ := hraced.exists_eq
    obtain ⟨participations, -, rfl⟩ := hfiling.exists_eq
    rfl
  | filedAndApproved hadmitted _ _ hauto => exact absurd ⟨_, hadmitted.event_found, hauto⟩ hmay
  | moved _ _ hmoving => rw [(hmoving.stock_eq hmay).2]
  | cancelled _ _ _ hmoving => rw [(hmoving.stock_eq (by decide)).2]
  | issued => exact absurd trivial hmay
  | used => exact Table.size_modify _ _ _
  | expired now => exact List.length_map _

/-! ### The ledger -/

theorem Database.Reachable.stocked {db : Database} (h : db.Reachable fun _ => True) :
    db.books.Stocked :=
  h.keeps (fun _ _ => trivial) stocked_empty fun _ hbooks hchange => hchange.stocked hbooks

theorem Books.grantCount_eq_add {books after : Books}
    (h : Evolves Grant.Continues books.grants after.grants) (hafter : after.grants.Numbered)
    (rewardId : Id) :
    after.grantCount rewardId = books.grantCount rewardId +
      (newRows books.grants after.grants).countP fun g => g.rewardId = rewardId := by
  have hold : (after.grants.rows.take books.grants.rows.length).map Grant.rewardId =
      books.grants.rows.map Grant.rewardId := by
    refine h.map_take ?_
    rintro a b ⟨status, usedAt, rfl⟩
    rfl
  have hcount : ∀ rows : List Grant, rows.countP (fun g => g.rewardId = rewardId) =
      (rows.map Grant.rewardId).countP (· = rewardId) := by
    intro rows
    rw [List.countP_map]
    rfl
  rw [h.newRows_eq hafter (by rintro a b ⟨status, usedAt, rfl⟩; rfl), grantCount, grantCount,
    Table.count, Table.count, hcount books.grants.rows, ← hold, ← hcount, ← List.countP_append,
    List.take_append_drop]

theorem Books.Stocked.issued_eq_add {books after : Books} (h : books.Stocked)
    (hafter : after.Stocked) (hevolves : Evolves Grant.Continues books.grants after.grants)
    {id : Id} {reward reward' : Reward} (hfound : books.rewards.find? id = some reward)
    (hfound' : after.rewards.find? id = some reward') :
    reward'.issuedQuantity = reward.issuedQuantity +
      (newRows books.grants after.grants).countP (fun g => g.rewardId = id) := by
  obtain ⟨hrow, hid⟩ := h.numbered.rewards.find?_eq_some_iff.mp hfound
  obtain ⟨hrow', hid'⟩ := hafter.numbered.rewards.find?_eq_some_iff.mp hfound'
  have hadded := grantCount_eq_add hevolves hafter.numbered.grants id
  have hbefore := h.counted reward hrow
  have hnow := hafter.counted reward' hrow'
  rw [show reward.id = id from hid] at hbefore
  rw [show reward'.id = id from hid'] at hnow
  omega

/-- **The ledger of the stock.** In every database that can be reached, whatever was called by
itself on the way, the grants of a reward are as many as its counter says, and no more than its
total. Every moment keeps the reward, and moves its counter by the number of grants of it that the
moment adds, which is none unless the moment asks for something that may issue. So along every run
the counter never goes back. -/
theorem stock_ledger {db : Database} (h : db.Reachable fun _ => True) :
    (∀ reward ∈ db.books.rewards.rows,
      (db.books.grantCount reward.id : Int) = reward.issuedQuantity ∧
        0 ≤ reward.issuedQuantity ∧ reward.issuedQuantity ≤ reward.totalQuantity) ∧
    (∀ (m : Moment) (id : Id) (reward : Reward), db.books.rewards.find? id = some reward →
      ∃ reward', (m.after db).books.rewards.find? id = some reward' ∧
        reward'.issuedQuantity = reward.issuedQuantity +
          (newRows db.books.grants (m.after db).books.grants).countP (fun g => g.rewardId = id) ∧
        ((∀ action, m.asked? = some action → ¬action.MayIssue db.books) →
          reward'.issuedQuantity = reward.issuedQuantity)) ∧
    ∀ (ms : List Moment) (id : Id) (reward : Reward), db.books.rewards.find? id = some reward →
      ∃ reward', (db.after ms).books.rewards.find? id = some reward' ∧
        reward.issuedQuantity ≤ reward'.issuedQuantity := by
  have hdb := h.stocked
  have hlater : ∀ (ms : List Moment) (id : Id) (reward : Reward),
      db.books.rewards.find? id = some reward →
        ∃ reward', (db.after ms).books.rewards.find? id = some reward' ∧
          reward.Continues reward' := by
    intro ms id reward hfound
    exact (Database.rewards_evolve hdb.numbered ms).exists_find?
      (Database.numbered_after hdb.numbered ms).rewards (fun _ _ hcontinues => hcontinues.id_eq)
      hfound
  have hall : ∀ m : Moment, m.CallsOnly fun _ => True := fun _ _ _ => trivial
  refine ⟨fun reward hreward => ?_, fun m id reward hfound => ?_, fun ms id reward hfound => ?_⟩
  · have hcounted := hdb.counted reward hreward
    have hwithin := hdb.within reward hreward
    exact ⟨hcounted, by omega, hwithin⟩
  · obtain ⟨reward', hfound', -⟩ := hlater [m] id reward hfound
    have hafter : (m.after db).books.Stocked := (h.after [m] fun m _ => hall m).stocked
    have hevolves : Evolves Grant.Continues db.books.grants (m.after db).books.grants :=
      Database.grants_evolve hdb.numbered [m]
    have hissued := hdb.issued_eq_add hafter hevolves hfound hfound'
    refine ⟨reward', hfound', hissued, fun hmay => ?_⟩
    have hnone : newRows db.books.grants (m.after db).books.grants = [] := by
      rw [hevolves.newRows_eq hafter.numbered.grants (by rintro a b ⟨status, usedAt, rfl⟩; rfl),
        List.drop_eq_nil_iff]
      rcases m.books_eq_or_change (fun _ _ => trivial) (hall m) db with
        heq | ⟨action, notes, hasked, -, hchange⟩
      · rw [heq]
      · rw [hchange.size_grants (hmay action hasked)]
    rw [hissued, hnone]
    simp
  · obtain ⟨reward', hfound', hcontinues⟩ := hlater ms id reward hfound
    exact ⟨reward', hfound', hcontinues.issued_le⟩

/-- An approval takes the only piece of a reward. -/
theorem stock_ledger_approval :
    ∃ reward reward', (Database.empty.after pendingRun).books.rewards.find?
        ({} : Table Reward).nextId = some reward ∧
      (approval.after (Database.empty.after pendingRun)).books.rewards.find?
        ({} : Table Reward).nextId = some reward' ∧
      reward'.issuedQuantity = reward.issuedQuantity + 1 := by
  have hreachable : (Database.empty.after pendingRun).Reachable fun _ => True :=
    ⟨pendingRun, fun _ _ _ _ => trivial, rfl⟩
  obtain ⟨reward, hfound⟩ := Option.isSome_iff_exists.mp
    (by decide +kernel : ((Database.empty.after pendingRun).books.rewards.find?
      ({} : Table Reward).nextId).isSome = true)
  obtain ⟨reward', hfound', hissued, -⟩ := (stock_ledger hreachable).2.1 approval _ reward hfound
  have hnew : (newRows (Database.empty.after pendingRun).books.grants
      (approval.after (Database.empty.after pendingRun)).books.grants).countP
        (fun g => g.rewardId = ({} : Table Reward).nextId) = 1 := by decide +kernel
  rw [hnew] at hissued
  exact ⟨reward, reward', hfound, hfound', hissued⟩

end Promotions
