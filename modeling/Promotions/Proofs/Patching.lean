import Promotions.Proofs.ReadBack

/-!
# How a change of an event or a reward ends

A change whose dates and integers can be stored takes place, or it is refused for the first reason
that applies; these are the ways that are documented. But it may also break off, although every
field of it was checked: on a column that may not be empty and that nothing guards, where the dates
and the total are refused; on a free-form value that is too high to be written out; and on an event
with more participants than 64 bits count. `EventPatch.failure?` and `RewardPatch.failure?` say
which, by the row and the patch alone, and the operations fail just as they say
(`Books.failsJustOn_updateEvent`, `Books.failsJustOn_updateReward`). Whatever fails leaves
everything as it is.
-/

namespace Promotions

/-! ### Answers to a caller -/

/-- What a caller is answered at a moment; nobody waits for an answer of the scheduler, or of an
operation that is called by itself. -/
def Moment.answer? (m : Moment) (db : Database) : Option Web.Answer :=
  match m.step with
  | .request r => some (Web.handle m.session db r).1
  | .command name payload =>
    some (Web.answerCommand (Command.run m.session db name payload).1)
  | .run _ | .call _ => none

/-- **A failure is answered** with the status and the message of its refusal. A fault breaks the
server, but a command answers with 400 if something does not have its shape. -/
inductive Failure.IsAnswered : Failure → Web.Answer → Prop where
  | refused (refusal : Refusal) :
    IsAnswered (.refused refusal) (Web.failure refusal.kind.status refusal.message)
  | broken (fault : Fault) : IsAnswered (.fault fault) (.broken fault)
  | unfit (issues : List Issue) :
    IsAnswered (.fault (.unshowable issues)) (Web.failure 400 (Issue.lines issues))

section Answering
variable {s : Session} {db after : Database} {action : Action} {failure : Failure}

theorem Web.answerAction_of_error (hperform : action.perform s db = .error failure) (status : Nat) :
    failure.IsAnswered (answerAction s db status action).1 ∧
      (answerAction s db status action).2 = db := by
  unfold answerAction
  rw [hperform]
  cases failure with
  | refused refusal => exact ⟨.refused refusal, rfl⟩
  | fault fault => exact ⟨.broken fault, rfl⟩

theorem Web.answerAction_of_presentable {reply : Reply}
    (hperform : action.perform s db = .ok (reply, after)) (hshown : reply.IsPresentable after)
    (status : Nat) : ∃ body, (answerAction s db status action).1 = .reply status body := by
  obtain ⟨-, body, -, hbody⟩ := hshown
  exact ⟨body, by simp only [answerAction, hperform, hbody]⟩

section Commands
variable {name : String} {payload : List (String × Json)}
  (hasked : Command.asked? name payload = some action)
include hasked

theorem Command.run_of_error (hperform : action.perform s db = .error failure) :
    failure.IsAnswered (Web.answerCommand (run s db name payload).1) ∧
      (run s db name payload).2 = db := by
  simp only [run, action?_of_asked? hasked, hperform]
  cases failure with
  | refused refusal => exact ⟨.refused refusal, rfl⟩
  | fault fault =>
    cases fault with
    | unshowable issues => exact ⟨.unfit issues, rfl⟩
    | _ => exact ⟨.broken _, rfl⟩

theorem Command.run_of_presentable {reply : Reply}
    (hperform : action.perform s db = .ok (reply, after)) (hshown : reply.IsPresentable after) :
    ∃ body, Web.answerCommand (run s db name payload).1 = .reply 200 body := by
  obtain ⟨data, -, hdata, -⟩ := hshown
  simp only [run, action?_of_asked? hasked, hperform, hdata]
  exact ⟨_, rfl⟩

end Commands

namespace Moment

variable {m : Moment} {answer : Web.Answer} (hasked : m.asked? = some action)
  (hanswer : m.answer? db = some answer)
include hasked hanswer

theorem answer_of_error (hperform : action.perform m.acting db = .error failure) :
    failure.IsAnswered answer ∧ m.after db = db := by
  obtain ⟨s, step⟩ := m
  cases step with
  | request r =>
    replace hperform : action.perform s db = .error failure := hperform
    cases Option.some.inj hanswer
    dsimp only [after]
    rcases Web.handle_of_asked? s db hasked with ⟨status, -, heq⟩ | ⟨name, payload, hname, heq⟩
    · rw [heq]
      exact Web.answerAction_of_error hperform status
    · rw [heq]
      exact Command.run_of_error hname hperform
  | command name payload =>
    cases Option.some.inj hanswer
    exact Command.run_of_error hasked hperform
  | run works => cases hanswer
  | call found => cases hanswer

theorem answer_of_presentable {reply : Reply}
    (hperform : action.perform m.acting db = .ok (reply, after))
    (hshown : reply.IsPresentable after) :
    ∃ status < 400, ∃ body, answer = .reply status body := by
  obtain ⟨s, step⟩ := m
  cases step with
  | request r =>
    replace hperform : action.perform s db = .ok (reply, after) := hperform
    cases Option.some.inj hanswer
    dsimp only
    rcases Web.handle_of_asked? s db hasked with ⟨status, hlt, heq⟩ | ⟨name, payload, hname, heq⟩
    · rw [heq]
      exact ⟨status, hlt, Web.answerAction_of_presentable hperform hshown status⟩
    · rw [heq]
      exact ⟨200, by decide, Command.run_of_presentable hname hperform hshown⟩
  | command name payload =>
    cases Option.some.inj hanswer
    exact ⟨200, by decide, Command.run_of_presentable hasked hperform hshown⟩
  | run works => cases hanswer
  | call found => cases hanswer

end Moment

end Answering

/-! ### What a change fails on -/

/-- **A result fails just on what is named**, and is there if nothing is. -/
def FailsJustOn {α : Type} (result : Except Failure α) : Option Failure → Prop
  | some failure => result = .error failure
  | none => ∃ value, result = .ok value

theorem FailsJustOn.check {α : Type} {result : Except Failure α} {named : Option Failure}
    {failure : Failure} {p : Prop} [Decidable p] (h : ¬p → FailsJustOn result named) :
    FailsJustOn (if p then .error failure else result) (if p then some failure else named) := by
  by_cases hp : p
  · rw [if_pos hp, if_pos hp]
    exact rfl
  · rw [if_neg hp, if_neg hp]
    exact h hp

theorem FailsJustOn.settle {α : Type} {result : Except Failure (Outcome α)} {named : Option Failure}
    (h : FailsJustOn result named) (s : Session) (db : Database) (reply : α → Reply) :
    FailsJustOn (Action.settle s db reply result) named := by
  cases named with
  | some failure =>
    obtain rfl : result = .error failure := h
    exact rfl
  | none =>
    obtain ⟨outcome, rfl⟩ := h
    exact ⟨_, rfl⟩

namespace EventPatch

/-- The dates of a patch lie within the years 1 to 9999 in UTC, and its limit fits into 64 bits. -/
structure Fits (patch : EventPatch) : Prop where
  startDate : patch.startDate.Converts
  endDate : patch.endDate.Converts
  maxParticipants : fits64? patch.maxParticipants.value? = true

/-- **What a change of an event fails on**: the first reason that applies. The dates are guarded,
but the title, the description, the type of the condition and the flags are not. -/
def failure? (patch : EventPatch) (old : Event) : Option Failure :=
  if patch.startDate = .clear then some (.refused (.cannotBeCleared "start_date"))
  else if patch.endDate = .clear then some (.refused (.cannotBeCleared "end_date"))
  else if patch.endDate.instant old.endDate ≤ patch.startDate.instant old.startDate then
    some (.refused .windowNotPositive)
  else if patch.title = .clear ∨ patch.description = .clear ∨ patch.conditionType = .clear ∨
      patch.autoReward = .clear ∨ patch.allowMultiple = .clear then
    some (.fault .constraint)
  else if fits64 old.participantCount = false then
    some (.fault (.unshowable [⟨["participant_count"], .oversizedInteger⟩]))
  else if ∃ value ∈ patch.conditionValue.value?, value.isShallow = false then
    some (.fault .unwritable)
  else none

end EventPatch

namespace RewardPatch

/-- The date of a patch lies within the years 1 to 9999 in UTC, and its total fits into 64 bits. -/
structure Fits (patch : RewardPatch) : Prop where
  expiryDate : patch.expiryDate.Converts
  totalQuantity : fits64? patch.totalQuantity.value? = true

/-- **What a change of a reward fails on**: the first reason that applies. The total is guarded, but
the name, the type and the value are not. -/
def failure? (patch : RewardPatch) (old : Reward) : Option Failure :=
  if patch.totalQuantity = .clear then some (.refused (.cannotBeCleared "total_quantity"))
  else
    match patch.totalQuantity.value?.filter (· < old.issuedQuantity) with
    | some total => some (.refused (.totalBelowIssued total old.issuedQuantity))
    | none =>
      if patch.name = .clear ∨ patch.type = .clear ∨ patch.value = .clear then
        some (.fault .constraint)
      else if ∃ value ∈ patch.metadata.value?, value.isShallow = false then
        some (.fault .unwritable)
      else none

end RewardPatch

theorem Edit.isClear_iff {α : Type} {edit : Edit α} : edit.isClear = true ↔ edit = .clear := by
  cases edit <;> simp [isClear]

theorem EventPatch.clearsColumn_iff {patch : EventPatch} : patch.clearsColumn = true ↔
    patch.title = .clear ∨ patch.description = .clear ∨ patch.conditionType = .clear ∨
      patch.autoReward = .clear ∨ patch.allowMultiple = .clear := by
  simp only [clearsColumn, Bool.or_eq_true, Edit.isClear_iff, or_assoc]

theorem RewardPatch.clearsColumn_iff {patch : RewardPatch} : patch.clearsColumn = true ↔
    patch.name = .clear ∨ patch.type = .clear ∨ patch.value = .clear := by
  simp only [clearsColumn, Bool.or_eq_true, Edit.isClear_iff, or_assoc]

namespace Event

theorem shown_eq_of_isObject {e : Event} (h : e.conditionValue.isObject = true) :
    e.shown =
      if fits64 e.participantCount = false then
        .error (.unshowable [⟨["participant_count"], .oversizedInteger⟩])
      else if e.conditionValue.isShallow = false then .error .unwritable
      else .ok e.view := by
  unfold shown showable issues
  cases hfits : fits64 e.participantCount <;> cases hheight : e.conditionValue.isShallow <;>
    simp [h, hheight]

variable {old : Event} {patch : EventPatch} (hold : old.IsShaped)
include hold

theorem isShallow_patched (startDate endDate : Instant) (actor : String) :
    (old.patched patch startDate endDate actor).conditionValue.isShallow = false ↔
      ∃ value ∈ patch.conditionValue.value?, value.isShallow = false := by
  unfold patched
  cases patch.conditionValue with
  | keep => simp [Edit.value?, hold.isShallow]
  | clear =>
    have hempty : Json.empty.isShallow = true := rfl
    simp [Edit.value?, hempty]
  | set value => simp [Edit.value?]

/-- **A changed event is shown** unless it has too many participants, or its new condition value is
too high. -/
theorem shown_patched (hpatch : ∀ value, patch.conditionValue = .set value → value.isObject = true)
    (startDate endDate : Instant) (actor : String) (stamp : Instant) :
    let new := old.restamped (old.patched patch startDate endDate actor) stamp
    new.shown =
      if fits64 old.participantCount = false then
        .error (.unshowable [⟨["participant_count"], .oversizedInteger⟩])
      else if ∃ value ∈ patch.conditionValue.value?, value.isShallow = false then
        .error .unwritable
      else .ok new.view := by
  intro new
  have hobject : new.conditionValue.isObject = true :=
    isObject_patched hold.isObject hpatch startDate endDate actor
  have hshallow : new.conditionValue.isShallow = false ↔
      ∃ value ∈ patch.conditionValue.value?, value.isShallow = false :=
    isShallow_patched hold startDate endDate actor
  rw [shown_eq_of_isObject hobject]
  exact if_congr Iff.rfl rfl (if_congr hshallow rfl rfl)

end Event

namespace Reward

theorem shown_eq_of_isObjectOrNull {r : Reward} (h : r.metadata.isObjectOrNull = true) :
    r.shown = if r.metadata.isShallow = false then .error .unwritable else .ok r.view := by
  have hissues : r.issues = [] := Json.payloadIssues_eq_nil_iff.mpr h
  unfold shown showable
  cases hheight : r.metadata.isShallow <;> simp [hissues, hheight]

variable {old : Reward} {patch : RewardPatch} (hold : old.IsShaped)
include hold

theorem isShallow_patched (expiryDate : Option Instant) (actor : String) :
    (old.patched patch expiryDate actor).metadata.isShallow = false ↔
      ∃ value ∈ patch.metadata.value?, value.isShallow = false := by
  unfold patched
  cases patch.metadata with
  | keep => simp [Edit.value?, hold.isShallow]
  | clear =>
    have hnull : Json.null.isShallow = true := rfl
    simp [Edit.value?, hnull]
  | set value => simp [Edit.value?]

/-- **A changed reward is shown** unless its new metadata are too high. -/
theorem shown_patched (hpatch : ∀ value, patch.metadata = .set value → value.isObject = true)
    (expiryDate : Option Instant) (actor : String) (stamp : Instant) :
    let new := old.restamped (old.patched patch expiryDate actor) stamp
    new.shown =
      if ∃ value ∈ patch.metadata.value?, value.isShallow = false then .error .unwritable
      else .ok new.view := by
  intro new
  have hobject : new.metadata.isObjectOrNull = true :=
    isObjectOrNull_patched hold.isObjectOrNull hpatch expiryDate actor
  have hshallow : new.metadata.isShallow = false ↔
      ∃ value ∈ patch.metadata.value?, value.isShallow = false :=
    isShallow_patched hold expiryDate actor
  rw [shown_eq_of_isObjectOrNull hobject]
  exact if_congr hshallow rfl rfl

end Reward

namespace Books

theorem editExpiry_of_converts (old : Option Instant) {edit : Edit Timestamp}
    (hconverts : edit.Converts) : ∃ expiryDate, editExpiry old edit = .ok expiryDate := by
  cases edit with
  | keep => exact ⟨old, rfl⟩
  | clear => exact ⟨none, rfl⟩
  | set date =>
    have hstored : date.stored = .ok date.instant := Timestamp.stored_eq_ok (hconverts date rfl)
    exact ⟨some date.instant, by simp [editExpiry, hstored, Except.map]⟩

section
variable (s : Session) {books : Books} {id : Id} (actor : String)

/-- **A change of an event** fails just on what its patch fails on. -/
theorem failsJustOn_updateEvent {patch : EventPatch} {old : Event}
    (hfound : books.events.find? id = some old) (hfits : patch.Fits) (hold : old.IsShaped)
    (hpatch : ∀ value, patch.conditionValue = .set value → value.isObject = true) :
    FailsJustOn (books.updateEvent s id patch actor) (patch.failure? old) := by
  unfold EventPatch.failure? updateEvent findEvent
  rw [hfound]
  dsimp only
  by_cases hstart : patch.startDate = .clear
  · rw [if_pos hstart, hstart]
    exact rfl
  rw [if_neg hstart, editDate_of_converts hfits.startDate hstart]
  dsimp only
  by_cases hend : patch.endDate = .clear
  · rw [if_pos hend, hend]
    exact rfl
  rw [if_neg hend, editDate_of_converts hfits.endDate hend]
  dsimp only
  rw [hfits.maxParticipants, Event.shown_patched hold hpatch]
  simp only [Bool.not_true, Bool.false_eq_true, if_false, ← EventPatch.clearsColumn_iff]
  refine .check fun _ => .check fun _ => ?_
  -- what is left is whether the new row can be shown
  by_cases hcount : fits64 old.participantCount = false
  · rw [if_pos hcount, if_pos hcount]
    exact rfl
  rw [if_neg hcount, if_neg hcount]
  by_cases hheight : ∃ value ∈ patch.conditionValue.value?, value.isShallow = false
  · rw [if_pos hheight, if_pos hheight]
    exact rfl
  · rw [if_neg hheight, if_neg hheight]
    exact ⟨_, rfl⟩

theorem failsJustOn_updateReward {patch : RewardPatch} {old : Reward}
    (hfound : books.rewards.find? id = some old) (hfits : patch.Fits) (hold : old.IsShaped)
    (hpatch : ∀ value, patch.metadata = .set value → value.isObject = true) :
    FailsJustOn (books.updateReward s id patch actor) (patch.failure? old) := by
  obtain ⟨expiryDate, hexpiry⟩ := editExpiry_of_converts old.expiryDate hfits.expiryDate
  have htotal : checkTotal old patch.totalQuantity =
      if patch.totalQuantity = .clear then Failure.refuse (.cannotBeCleared "total_quantity")
      else
        match patch.totalQuantity.value?.filter (· < old.issuedQuantity) with
        | some total => Failure.refuse (.totalBelowIssued total old.issuedQuantity)
        | none => .ok () := by
    cases patch.totalQuantity with
    | keep | clear => rfl
    | set total =>
      by_cases hbelow : total < old.issuedQuantity <;>
        simp [checkTotal, Edit.value?, Option.filter, hbelow]
  unfold RewardPatch.failure? updateReward findReward
  rw [hfound]
  dsimp only
  rw [htotal]
  by_cases hclear : patch.totalQuantity = .clear
  · rw [if_pos hclear, if_pos hclear]
    exact rfl
  rw [if_neg hclear, if_neg hclear]
  cases patch.totalQuantity.value?.filter (· < old.issuedQuantity) with
  | some total => exact rfl
  | none =>
    dsimp only
    rw [hexpiry, hfits.totalQuantity]
    dsimp only
    rw [Reward.shown_patched hold hpatch]
    simp only [Bool.not_true, Bool.false_eq_true, if_false, ← RewardPatch.clearsColumn_iff]
    refine .check fun _ => ?_
    by_cases hheight : ∃ value ∈ patch.metadata.value?, value.isShallow = false
    · rw [if_pos hheight, if_pos hheight]
      exact rfl
    · rw [if_neg hheight, if_neg hheight]
      exact ⟨_, rfl⟩

end

end Books

open Books

/-! ### How a change ends -/

namespace Action

/-- **The action is a change** whose dates and integers can be stored. -/
def IsFitting : Action → Prop
  | .updateEvent _ patch _ => patch.Fits
  | .updateReward _ patch _ => patch.Fits
  | _ => False

/-- **What a change fails on**, where the books are as they are: its row is not found, or the patch
fails on the row. -/
def failure? (books : Books) : Action → Option Failure
  | .updateEvent id patch _ =>
    match books.events.find? id with
    | none => some (.refused (.eventNotFound id))
    | some old => patch.failure? old
  | .updateReward id patch _ =>
    match books.rewards.find? id with
    | none => some (.refused (.rewardNotFound id))
    | some old => patch.failure? old
  | _ => none

variable {s : Session} {db : Database} {action : Action}

theorem IsFitting.writing (h : action.IsFitting) : action.Writing := by
  cases action with
  | updateEvent | updateReward => trivial
  | _ => exact h.elim

/-- **A change fails just on what its patch fails on.** -/
theorem IsFitting.failsJustOn_perform (h : action.IsFitting) (hformed : action.IsFormed)
    (hshaped : db.books.Shaped) : FailsJustOn (action.perform s db) (action.failure? db.books) := by
  cases action with
  | updateEvent id patch actor =>
    suffices hresult : FailsJustOn (db.books.updateEvent s id patch actor)
        ((Action.updateEvent id patch actor).failure? db.books) from
      hresult.settle s db .event
    dsimp only [failure?]
    cases hfound : db.books.events.find? id with
    | none =>
      unfold Books.updateEvent Books.findEvent
      rw [hfound]
      exact rfl
    | some old =>
      have hold := hshaped.events old (Table.mem_of_find?_eq_some hfound)
      exact Books.failsJustOn_updateEvent s actor hfound h hold
        (EventPatch.isObject_conditionValue hformed.1)
  | updateReward id patch actor =>
    suffices hresult : FailsJustOn (db.books.updateReward s id patch actor)
        ((Action.updateReward id patch actor).failure? db.books) from
      hresult.settle s db .reward
    dsimp only [failure?]
    cases hfound : db.books.rewards.find? id with
    | none =>
      unfold Books.updateReward Books.findReward
      rw [hfound]
      exact rfl
    | some old =>
      have hold := hshaped.rewards old (Table.mem_of_find?_eq_some hfound)
      exact Books.failsJustOn_updateReward s actor hfound h hold
        (RewardPatch.isObject_metadata hformed.1)
  | _ => exact h.elim

end Action

/-- **What may become of a change that fails**: it is refused as bad or as about nothing, or it
breaks off, as it clears a column that may not be empty, brings a value that is too high, or is
about a crowded event. -/
inductive Failure.IsOfChange (books : Books) (action : Action) : Failure → Prop where
  | refused (refusal : Refusal) (h : refusal.kind ∈ [.badRequest, .notFound]) :
    IsOfChange books action (.refused refusal)
  | constraint : IsOfChange books action (.fault .constraint)
  | unwritable : IsOfChange books action (.fault .unwritable)
  | crowded (issues : List Issue) (h : action.Crowded books) :
    IsOfChange books action (.fault (.unshowable issues))

section
variable {books : Books} {id : Id} {actor : String} {failure : Failure}

theorem EventPatch.isOfChange_of_failure? {patch : EventPatch} {old : Event}
    (hfound : books.events.find? id = some old) (h : patch.failure? old = some failure) :
    failure.IsOfChange books (.updateEvent id patch actor) := by
  unfold failure? at h
  split_ifs at h with _ _ _ _ hcount <;> cases h
  · exact .refused _ (by simp [Refusal.kind])
  · exact .refused _ (by simp [Refusal.kind])
  · exact .refused _ (by simp [Refusal.kind])
  · exact .constraint
  · exact .crowded _ ⟨old, hfound, hcount⟩
  · exact .unwritable

theorem RewardPatch.isOfChange_of_failure? {patch : RewardPatch} {old : Reward}
    (h : patch.failure? old = some failure) :
    failure.IsOfChange books (.updateReward id patch actor) := by
  unfold failure? at h
  split at h
  · cases h
    exact .refused _ (by simp [Refusal.kind])
  · split at h
    · cases h
      exact .refused _ (by simp [Refusal.kind])
    · split_ifs at h <;> cases h
      · exact .constraint
      · exact .unwritable

theorem Action.isOfChange_of_failure? {action : Action} (h : action.failure? books = some failure) :
    failure.IsOfChange books action := by
  cases action with
  | updateEvent id patch actor =>
    dsimp only [Action.failure?] at h
    split at h
    · cases h
      exact .refused _ (by simp [Refusal.kind])
    · next old hfound => exact EventPatch.isOfChange_of_failure? hfound h
  | updateReward id patch actor =>
    dsimp only [Action.failure?] at h
    split at h
    · cases h
      exact .refused _ (by simp [Refusal.kind])
    · exact RewardPatch.isOfChange_of_failure? h
  | _ => cases h

end

/-- **How a change ends.** In every database that can be reached, a change of an event or a reward
whose dates and integers can be stored, in whichever way it is asked for, is answered with success
unless there is something that it fails on; that is told by the row and the patch. What fails leaves
everything as it is, and is answered as the failure it is: as documented, with 400 or 404 and a
message, if it is refused, and else as a fault, of which there are three kinds. So a change is
answered as documented if it clears no column that nothing guards, brings no free-form value that is
too high, and is not about a crowded event. -/
theorem changes_end {db : Database} (h : db.Reachable Action.IsFormed) {m : Moment}
    {action : Action} (hasked : m.asked? = some action) (hfitting : action.IsFitting)
    {answer : Web.Answer} (hanswer : m.answer? db = some answer) :
    (action.failure? db.books = none → ∃ status < 400, ∃ body, answer = .reply status body) ∧
    ∀ failure, action.failure? db.books = some failure →
      failure.IsOfChange db.books action ∧ failure.IsAnswered answer ∧ m.after db = db := by
  have hcall : ∀ called, m.step ≠ .call called := by
    intro called hstep
    simp only [Moment.answer?, hstep] at hanswer
    cases hanswer
  have hformed : action.IsFormed := by
    rcases Moment.isAsked_or_call hasked with hisAsked | hstep
    · exact hisAsked.isFormed
    · exact absurd hstep (hcall action)
  have hperform : FailsJustOn (action.perform m.acting db) (action.failure? db.books) :=
    hfitting.failsJustOn_perform hformed h.shaped
  refine ⟨fun hnone => ?_, fun failure hfailure => ?_⟩
  · rw [hnone] at hperform
    obtain ⟨⟨reply, after⟩, hok⟩ := hperform
    obtain ⟨notes, hchange, -⟩ := Action.perform_eq_ok hok
    have hshown := hfitting.writing.presentable h.numbered (hchange.numbered h.numbered)
      (hchange.shaped hformed h.numbered h.shaped) hok
    refine Moment.answer_of_presentable hasked hanswer hok (hshown.resolve_right ?_)
    -- only requests are stored with a payload that is too high
    rintro ⟨hhigh, -⟩
    cases action with
    | updateEvent | updateReward => exact hhigh
    | _ => exact hfitting
  · rw [hfailure] at hperform
    exact ⟨Action.isOfChange_of_failure? hfailure,
      Moment.answer_of_error hasked hanswer hperform⟩

/-- The event of `offeringRun` is changed. -/
def editing (body : List (String × Json)) : Moment :=
  ⟨{ clock := ⟨3000000⟩ },
    .request ((WritingVerb.updateEvent ({} : Table Event).nextId.text).request "admin" body)⟩

theorem asked?_editing {body : List (String × Json)} (patch : EventPatch)
    (hread : EventPatch.read body = .ok patch) :
    (editing body).asked? = some (.updateEvent ({} : Table Event).nextId patch "admin") := by
  have hfind := WritingVerb.find_endpoint
    (by decide : (WritingVerb.updateEvent ({} : Table Event).nextId.text).id? ≠ some "")
  have hcaller : Web.caller? (some "admin") = some "admin" :=
    Web.caller?_of_isTrimmed ⟨by decide, by decide⟩
  have hid := Id.read?_text_of_lt (show ({} : Table Event).nextId.val < 16 ^ 32 by decide)
  simp only [editing, Moment.asked?, Web.asked?, WritingVerb.request, hfind, WritingVerb.endpoint,
    Web.task, Web.asCaller, hcaller, Web.pathId, FormField.identifier, hid, Web.readBody, hread,
    Checked.both, Checked.under, Checked.map, Checked.ap, Web.ok]

theorem fits_of_dates_kept {patch : EventPatch} (hstart : patch.startDate.value? = none)
    (hend : patch.endDate.value? = none) (hlimit : patch.maxParticipants.value? = none) :
    patch.Fits := by
  refine ⟨fun date hset => ?_, fun date hset => ?_, by rw [hlimit]; rfl⟩
  · rw [hset] at hstart
    cases hstart
  · rw [hset] at hend
    cases hend

/-- A title can be changed, and to clear the end of the window is refused with its message. -/
theorem changes_end_offeringRun :
    let db := Database.empty.after offeringRun
    let naming := editing [("title", .str "Summer")]
    let clearing := editing [("end_date", .null)]
    (∃ status < 400, ∃ body, naming.answer? db = some (.reply status body)) ∧
      clearing.answer? db = some (Web.failure 400 "end_date cannot be cleared") ∧
      clearing.after db = db := by
  intro db naming clearing
  have hnaming : naming.asked? = _ := asked?_editing { title := .set "Summer" } rfl
  have hclearing : clearing.asked? = _ := asked?_editing { endDate := .clear } rfl
  have hdone : (Action.updateEvent ({} : Table Event).nextId { title := .set "Summer" }
      "admin").failure? db.books = none := by decide +kernel
  have hrefused : (Action.updateEvent ({} : Table Event).nextId { endDate := .clear }
      "admin").failure? db.books = some (.refused (.cannotBeCleared "end_date")) := by
    decide +kernel
  obtain ⟨hsuccess, -⟩ := changes_end reachable_offeringRun hnaming (fits_of_dates_kept rfl rfl rfl)
    (rfl : naming.answer? db = some (Web.handle _ db _).1)
  obtain ⟨-, hfailure⟩ := changes_end reachable_offeringRun hclearing
    (fits_of_dates_kept rfl rfl rfl) (rfl : clearing.answer? db = some (Web.handle _ db _).1)
  obtain ⟨status, hlt, body, hbody⟩ := hsuccess hdone
  obtain ⟨-, hanswered, hsame⟩ := hfailure _ hrefused
  refine ⟨⟨status, hlt, body, congrArg some hbody⟩, ?_, hsame⟩
  cases hanswered
  rfl

/-- **A change may break off** although it was checked: to clear the title, which nothing guards,
breaks a constraint of the table. -/
theorem clearing_a_title_breaks_off :
    ¬∀ db : Database, db.Reachable Action.IsFormed → ∀ (m : Moment) (action : Action),
      m.asked? = some action → action.IsFitting → ∀ answer, m.answer? db = some answer →
        ∃ status body, answer = .reply status body := by
  intro h
  let db := Database.empty.after offeringRun
  let clearing := editing [("title", .null)]
  have hasked : clearing.asked? = _ := asked?_editing { title := .clear } rfl
  have hbreaks : (clearing.answer? db).bind Web.Answer.status? = none := by decide +kernel
  obtain ⟨status, body, hbody⟩ := h db reachable_offeringRun clearing _ hasked
    (fits_of_dates_kept rfl rfl rfl) _ rfl
  have hanswer : clearing.answer? db = some (.reply status body) := congrArg some hbody
  rw [hanswer] at hbreaks
  cases hbreaks

end Promotions
