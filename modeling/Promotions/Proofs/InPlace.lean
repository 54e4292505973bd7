import Promotions.Proofs.AtOnce

/-!
# Operations in place

An operation of the books answers with new books and with notes, which the journal takes up once it
is over. Here the operations are done the other way: each works on a `Sheet`, which it changes step
by step, and an entry is written to the journal at the point where it is due, in the middle of the
operation. Failing work leaves the sheet as it is by then; a savepoint takes back what was written
since (`Work.savepoint`). A write that the journal does not accept may leave any wreck of the sheet
and fail in any way; it has a savepoint of its own, and its failure goes no further
(`Work.record_eq`).

Both ways come to the same (`Action.transact_inPlace`), whatever the wreck. So nothing is lost by
collecting the notes of an operation and by leaving out what has to be taken back.
-/

namespace Promotions

/-- The store while an operation works on it. -/
structure Sheet where
  books : Books
  journal : Table LogEntry
  /-- How many entries the operation has tried to write. -/
  tried : Nat := 0

/-- A piece of an operation: it may fail, and leaves the sheet as it is by then. -/
def Work (α : Type) := Sheet → Except Failure α × Sheet

/-- What a write to the journal that is not accepted leaves, and the failure that it ends with. -/
abbrev Wreck := Sheet → Failure × Sheet

namespace Work

variable {α β : Type}

/-- Goes on with further work, unless there was a failure. -/
def andThen (w : Work α) (next : α → Work β) : Work β := fun sheet =>
  match w sheet with
  | (.ok a, after) => next a after
  | (.error failure, after) => (.error failure, after)

instance : Monad Work where
  pure a := fun sheet => (.ok a, sheet)
  bind := andThen

/-- Works something out from the books and changes them, or fails. -/
def apply (f : Books → Except Failure (α × Books)) : Work α := fun sheet =>
  match f sheet.books with
  | .ok (a, books) => (.ok a, { sheet with books })
  | .error failure => (.error failure, sheet)

/-- Works something out, which may fail. -/
def check (result : Except Failure α) : Work α := fun sheet => (result, sheet)

/-- Looks something up in the books. -/
def look (f : Books → Except Failure α) : Work α := fun sheet => (f sheet.books, sheet)

/-- Changes the books. -/
def write (f : Books → Books) : Work Unit := fun sheet =>
  (.ok (), { sheet with books := f sheet.books })

/-- Takes back what work has written that fails. What was tried stays tried. -/
def savepoint (w : Work α) : Work α := fun sheet =>
  match w sheet with
  | (.ok a, after) => (.ok a, after)
  | (.error failure, after) => (.error failure, { sheet with tried := after.tried })

/-- Writes the entry of a note to the journal. -/
def insertEntry (s : Session) (wreck : Wreck) (note : Note) : Work LogEntry := fun sheet =>
  let entry := note.entry sheet.journal.nextId s.clock
  if s.journalAccepts sheet.tried then
    (.ok entry, { sheet with journal := sheet.journal.push entry, tried := sheet.tried + 1 })
  else
    let (failure, left) := wreck sheet
    (.error failure, { left with tried := sheet.tried + 1 })

/-- Writes the entry of a note inside a savepoint. A failing write is dropped. -/
def record (s : Session) (wreck : Wreck) (note : Note) : Work (Option LogEntry) := fun sheet =>
  match savepoint (insertEntry s wreck note) sheet with
  | (.ok entry, after) => (.ok (some entry), after)
  | (.error _, after) => (.ok none, after)

/-- Writes the entries of notes, one after the other. -/
def recordAll (s : Session) (wreck : Wreck) : List Note → Work Unit
  | [] => return
  | note :: rest => do
    let _ ← record s wreck note
    recordAll s wreck rest

/-- Does an operation whose entries are all written at its end. -/
def conclude (s : Session) (wreck : Wreck) (operation : Books → Except Failure (Outcome α)) :
    Work α := do
  let outcome ← look operation
  write fun _ => outcome.books
  recordAll s wreck outcome.notes
  return outcome.answer

/-- Work as a transaction: if it fails, the database stays as it is. -/
def transact (w : Work α) (db : Database) : Except Failure (α × Database) :=
  match w { books := db.books, journal := db.journal } with
  | (.ok a, sheet) => .ok (a, { books := sheet.books, journal := sheet.journal })
  | (.error failure, _) => .error failure

end Work

/-! ### The operations -/

namespace InPlace

open Work Books

variable (s : Session) (wreck : Wreck)

/-- Takes one piece of a reward's stock, if there is one left. -/
def reserveOne (reward : Reward) : Work Unit := apply fun books =>
  if reward.totalQuantity ≤ reward.issuedQuantity then
    Failure.refuse (.outOfStock reward.id reward.name)
  else .ok ((), books.takeOne reward.id s.stamp)

/-- Adds a grant, unless its request was granted its reward before. -/
def insertGrant (request : RewardRequest) (reward : Reward) (metadata : Json) (now : Instant) :
    Work Grant := apply fun books =>
  let grant := Grant.ofReward books.grants.nextId request reward metadata now
  match books.addGrant? grant with
  | none => Failure.refuse (.alreadyIssued reward.id request.id)
  | some after => .ok (grant, after)

/-- Grants one reward to the user of a request. -/
def issueOne (request : RewardRequest) (operator : Option String) (now : Instant)
    (reward : Reward) : Work Grant := do
  reserveOne s reward
  let copied ← check (orBreakOff (Metadata.copy reward.metadata))
  let grant ← savepoint (insertGrant request reward copied.content now)
  let view ← check (orBreakOff (copied.checked grant.shown))
  let _ ← record s wreck (rewardIssued grant view operator)
  return grant

/-- Grants the rewards of a list, those that exist, one after the other. -/
def issueEach (request : RewardRequest) (operator : Option String) (now : Instant) :
    List Id → Work (List Grant)
  | [] => return []
  | id :: rest => do
    let found ← look fun books => .ok (books.rewards.find? id)
    match found with
    | none => issueEach request operator now rest
    | some reward =>
      let grant ← issueOne s wreck request operator now reward
      let others ← issueEach request operator now rest
      return grant :: others

/-- Issues the rewards of a request. -/
def issueRequest (request : RewardRequest) (operator : Option String) (now : Instant) :
    Work (List Grant) := do
  let ids ← check (orBreakOff request.wanted)
  if ids.isEmpty then check (Failure.refuse .nothingToIssue)
  else
    let grants ← issueEach s wreck request operator now ids
    if grants.isEmpty then check (Failure.refuse .rewardsGone) else return grants

/-- Issues the rewards of a request given by its identifier. -/
def issue (id : Id) (operator : Option String) (now : Instant) : Work (List Grant) := do
  let request ← look fun books => books.findRequest id
  if request.status = .approved ∨ request.status = .issued then
    look fun books => .ok (books.findGrantsOfRequest request.id)
  else issueRequest s wreck request operator now

/-- Approves a request: its rewards are issued and its status is changed in one savepoint. -/
def approveRequest (request : RewardRequest) (operator : Option String) (now : Instant) :
    Work RewardRequest := do
  let approved := { request.approved operator now with updatedAt := some s.stamp }
  let grants ← savepoint do
    let grants ← issueRequest s wreck request operator now
    write fun books => books.putRequest s approved
    return grants
  write fun books => books.markRewarded approved now
  let note ← check (requestMoved .rewardApproved operator request approved
    [("grantCount", .int grants.length)])
  let _ ← record s wreck note
  return approved

/-- Moves a request to another status. -/
def transition (id : Id) (target : RequestStatus) (operator reason : Option String)
    (now : Instant) : Work RewardRequest :=
  if target ∉ RequestStatus.listed then check (Failure.refuse (.unknownStatus target.name))
  else do
    let request ← look fun books => books.findRequest id
    if target = request.status then return request
    else if !request.status.mayBecome target then
      check (Failure.refuse (.transitionNotAllowed request.status target))
    else if target = .approved then approveRequest s wreck request operator now
    else conclude s wreck fun books => books.moveRequest s request target operator reason now

/-- Cancels a request of the user's own. -/
def cancelRequest (id : Id) (userId : String) : Work RewardRequest := do
  let request ← look fun books => books.findRequest id
  if request.userId ≠ userId then check (Failure.refuse .requestOfAnotherUser)
  else transition s wreck request.id .cancelled (some userId) none s.clock

/-- A rival claim appears, if one is given. -/
def race (rival : Option Claim) : Work Unit := apply fun books =>
  match rival with
  | none => .ok ((), books)
  | some claim =>
    match books.addClaim? claim with
    | none => Failure.refuse .alreadyRequested
    | some raced => .ok ((), raced)

/-- Adds the row of a request, and its claims. -/
def insertRequest (event : Event) (rewards : List Id) (userId : String) (verificationData : Json)
    (now : Instant) : Work RewardRequest := apply fun books =>
  let request := RewardRequest.filed books.requests.nextId event.id
    (rewards.map fun id => .str id.text) userId verificationData now s.stamp
  let added := { books with requests := books.requests.push request }
  match added.addClaims? (claimsFor request.id event.id userId s.stamp rewards) with
  | none => Failure.refuse .alreadyRequested
  | some after => .ok (request, after)

/-- Approves a request at once in a savepoint. A refusal is dropped. -/
def approveAtOnce (request : RewardRequest) : Work RewardRequest := fun sheet =>
  let approval := transition s wreck request.id .approved (some s.systemOperator) none s.clock
  match savepoint approval sheet with
  | (.ok approved, after) => (.ok approved, after)
  | (.error (.refused _), after) => (.ok request, after)
  | (.error (.fault fault), after) => (Failure.breakOff fault, after)

/-- Writes a request: the row and its claims, the link from the participation, and the entry. -/
def writeRequest (event : Event) (rewards : List Id) (userId : String) (verificationData : Json)
    (now : Instant) : Work RewardRequest := do
  let request ← savepoint (insertRequest s event rewards userId verificationData now)
  write fun books => books.linkParticipation request now
  let _ ← record s wreck (requestNote .rewardRequested (some userId) request rewards.head?
    (rewards.map fun id => .str id.text) [])
  return request

/-- Asks for rewards of an event. -/
def createRequest (eventId : Id) (spellings : List IdSpelling) (userId : String)
    (verificationData : Json) (now : Instant) (rival : Option Claim) : Work RewardRequest := do
  let admitted ← look fun books =>
    books.admitRequest eventId spellings userId verificationData now
  race rival
  let request ← writeRequest s wreck admitted.1 admitted.2 userId verificationData now
  if admitted.1.autoReward then approveAtOnce s wreck request else return request

end InPlace

namespace Action

open Work

/-- Does what is asked, step by step in the store. -/
def inPlace (s : Session) (wreck : Wreck) : Action → Work Reply
  | createEvent draft actor => .event <$> conclude s wreck (·.createEvent s draft actor)
  | updateEvent id patch actor => .event <$> conclude s wreck (·.updateEvent s id patch actor)
  | createReward draft actor => .reward <$> conclude s wreck (·.createReward s draft actor)
  | updateReward id patch actor => .reward <$> conclude s wreck (·.updateReward s id patch actor)
  | participate eventId userId verificationData additionalData now =>
    (.participation ∘ some) <$> conclude s wreck
      (·.participate s eventId userId verificationData additionalData (now.getD s.clock))
  | createRequest eventId rewards userId verificationData now rival =>
    .request <$> InPlace.createRequest s wreck eventId rewards userId verificationData
      (now.getD s.clock) rival
  | transition id target operator reason now =>
    .request <$> InPlace.transition s wreck id target operator reason (now.getD s.clock)
  | cancelRequest id userId => .request <$> InPlace.cancelRequest s wreck id userId
  | issue id operator now => .grants <$> InPlace.issue s wreck id operator (now.getD s.clock)
  | useGrant id userId now =>
    .grant <$> conclude s wreck (·.useGrant id userId (now.getD s.clock))
  | expireGrants now =>
    .count <$> conclude s wreck fun books => .ok (books.expireGrants (now.getD s.clock))
  | record (some note) => .log <$> Work.record s wreck note
  | action => fun sheet =>
    ((action.perform s { books := sheet.books, journal := sheet.journal }).map Prod.fst, sheet)

end Action

/-! ### Both ways come to the same -/

/-- The sheet with other books, and with notes as far as the journal accepts them. -/
def Sheet.after (sheet : Sheet) (s : Session) (books : Books) (notes : List Note) : Sheet where
  books
  journal := sheet.journal.recordFrom s.clock s.journalAccepts sheet.tried notes
  tried := sheet.tried + notes.length

namespace Work

variable {α β : Type} {s : Session} {wreck : Wreck} {sheet : Sheet}

@[simp]
theorem bind_apply (w : Work α) (next : α → Work β) (sheet : Sheet) :
    (w >>= next) sheet = match w sheet with
      | (.ok a, after) => next a after
      | (.error failure, after) => (.error failure, after) := rfl

@[simp]
theorem pure_apply (a : α) (sheet : Sheet) : (pure a : Work α) sheet = (.ok a, sheet) := rfl

@[simp]
theorem ite_apply {c : Prop} [Decidable c] (w w' : Work α) (sheet : Sheet) :
    (if c then w else w') sheet = if c then w sheet else w' sheet := by
  split <;> rfl

@[simp]
theorem check_apply (result : Except Failure α) (sheet : Sheet) :
    check result sheet = (result, sheet) := rfl

@[simp]
theorem look_apply (f : Books → Except Failure α) (sheet : Sheet) :
    look f sheet = (f sheet.books, sheet) := rfl

@[simp]
theorem write_apply (f : Books → Books) (sheet : Sheet) :
    write f sheet = (.ok (), { sheet with books := f sheet.books }) := rfl

@[simp]
theorem apply_apply (f : Books → Except Failure (α × Books)) (sheet : Sheet) :
    apply f sheet = match f sheet.books with
      | .ok (a, books) => (.ok a, { sheet with books })
      | .error failure => (.error failure, sheet) := rfl

@[simp]
theorem savepoint_apply (w : Work α) (sheet : Sheet) :
    savepoint w sheet = match w sheet with
      | (.ok a, after) => (.ok a, after)
      | (.error failure, after) => (.error failure, { sheet with tried := after.tried }) := rfl

/-- **A write to the journal goes no further**: it is done or dropped, and never fails. -/
theorem record_eq (s : Session) (wreck : Wreck) (note : Note) (sheet : Sheet) :
    record s wreck note sheet =
      (.ok (if s.journalAccepts sheet.tried then
          some (note.entry sheet.journal.nextId s.clock) else none),
        sheet.after s sheet.books [note]) := by
  unfold record savepoint insertEntry
  by_cases haccepts : s.journalAccepts sheet.tried = true
  · simp only [haccepts, if_true, Sheet.after, Table.recordFrom]
    rfl
  · simp only [haccepts, if_false, Bool.false_eq_true, Sheet.after, Table.recordFrom]
    rfl

end Work

theorem Sheet.after_after (sheet : Sheet) (s : Session) (books after : Books)
    (notes more : List Note) :
    (sheet.after s books notes).after s after more = sheet.after s after (notes ++ more) := by
  simp only [Sheet.after, Table.recordFrom_append, List.length_append, Nat.add_assoc]

namespace Work

variable {α β : Type} {s : Session} {wreck : Wreck} {sheet : Sheet}

theorem recordAll_eq (s : Session) (wreck : Wreck) (notes : List Note) (sheet : Sheet) :
    recordAll s wreck notes sheet =
      (.ok (), sheet.after s sheet.books notes) := by
  induction notes generalizing sheet with
  | nil => rfl
  | cons note rest ih =>
    have hstep : recordAll s wreck (note :: rest) sheet =
        recordAll s wreck rest (sheet.after s sheet.books [note]) := by simp [recordAll, record_eq]
    rw [hstep, ih, Sheet.after_after]
    rfl

/-- **The work does what an operation comes to**: on success the sheet becomes what the outcome
says, and on failure the failure is the same. -/
def Does (s : Session) (w : Work α) (sheet : Sheet) : Except Failure (Outcome α) → Prop
  | .ok o => w sheet = (.ok o.answer, sheet.after s o.books o.notes)
  | .error failure => ∃ left, w sheet = (.error failure, left)

/-- The same, but for the number of entries that were tried. -/
def Ends (s : Session) (w : Work α) (sheet : Sheet) : Except Failure (Outcome α) → Prop
  | .ok o => ∃ tried, w sheet = (.ok o.answer, { sheet.after s o.books o.notes with tried })
  | .error failure => ∃ left, w sheet = (.error failure, left)

theorem Does.ends {w : Work α} {result : Except Failure (Outcome α)} (h : w.Does s sheet result) :
    w.Ends s sheet result := by
  cases result with
  | error failure => exact h
  | ok o => exact ⟨_, h⟩

theorem does_conclude (s : Session) (wreck : Wreck) (sheet : Sheet)
    (operation : Books → Except Failure (Outcome α)) :
    (conclude s wreck operation).Does s sheet (operation sheet.books) := by
  cases hresult : operation sheet.books with
  | error failure => simp [Does, conclude, hresult]
  | ok o => simp [Does, conclude, hresult, recordAll_eq, Sheet.after]

/-- **Failing work leaves nothing** when it has a savepoint. -/
theorem savepoint_eq_error {w : Work α} {failure : Failure}
    (h : w.Does s sheet (.error failure)) :
    ∃ tried, savepoint w sheet = (.error failure, { sheet with tried }) := by
  obtain ⟨left, hw⟩ := h
  exact ⟨left.tried, by simp [hw]⟩

/-- **A transaction settles** what its work comes to. -/
theorem Ends.transact_eq {w : Work α} {db : Database} {result : Except Failure (Outcome α)}
    (h : w.Ends s { books := db.books, journal := db.journal } result) (reply : α → Reply) :
    (reply <$> w).transact db = Action.settle s db reply result := by
  have hmap : reply <$> w = w >>= fun a => pure (reply a) := rfl
  unfold transact
  cases result with
  | error failure =>
    obtain ⟨left, hw⟩ := h
    simp [hmap, hw, Action.settle]
  | ok o =>
    obtain ⟨tried, hw⟩ := h
    simp [hmap, hw, Action.settle, Database.commit, Sheet.after]

end Work

@[simp]
theorem orBreakOff_ok {α : Type} (value : α) : orBreakOff (.ok value : Except Fault α) = .ok value :=
  rfl

@[simp]
theorem orBreakOff_error {α : Type} (fault : Fault) :
    orBreakOff (.error fault : Except Fault α) = Failure.breakOff fault := rfl

@[simp]
theorem Books.grants_takeOne (books : Books) (rewardId : Id) (stamp : Instant) :
    (books.takeOne rewardId stamp).grants = books.grants := rfl

namespace InPlace

open Work Books

variable (s : Session) (wreck : Wreck) (sheet : Sheet) (request : RewardRequest)
  (operator : Option String) (now : Instant)

theorem does_issueOne (reward : Reward) :
    (issueOne s wreck request operator now reward).Does s sheet
      (sheet.books.issueOne s request operator now reward) := by
  unfold Books.issueOne
  by_cases hstock : reward.totalQuantity ≤ reward.issuedQuantity
  · simp [Does, issueOne, reserveOne, hstock, Failure.refuse]
  · rw [if_neg hstock]
    cases hcopied : Metadata.copy reward.metadata with
    | error fault => simp [Does, issueOne, reserveOne, hstock, hcopied, Failure.breakOff]
    | ok copied =>
      cases hadded : (sheet.books.takeOne reward.id s.stamp).addGrant? (.ofReward
          sheet.books.grants.nextId request reward copied.content now) with
      | none =>
        simp [Does, issueOne, reserveOne, insertGrant, hstock, hcopied, hadded, Failure.refuse]
      | some books =>
        cases hview : orBreakOff (copied.checked (Grant.ofReward sheet.books.grants.nextId request
            reward copied.content now).shown) with
        | error failure =>
          simp [Does, issueOne, reserveOne, insertGrant, hstock, hcopied, hadded, hview]
        | ok view =>
          simp [Does, issueOne, reserveOne, insertGrant, hstock, hcopied, hadded, hview, record_eq,
            Sheet.after]

/-- **Granting rewards in place**, by induction on the list: what the first one writes is seen by
the others. -/
theorem does_issueEach (ids : List Id) :
    (issueEach s wreck request operator now ids).Does s sheet
      (Books.issueEach s request operator now sheet.books ids) := by
  induction ids generalizing sheet with
  | nil => rfl
  | cons id rest ih =>
    unfold Books.issueEach
    cases hfound : sheet.books.rewards.find? id with
    | none => simpa [Does, issueEach, hfound] using ih sheet
    | some reward =>
      have hfirst := does_issueOne s wreck sheet request operator now reward
      cases hone : sheet.books.issueOne s request operator now reward with
      | error failure =>
        rw [hone] at hfirst
        obtain ⟨left, hfirst⟩ := hfirst
        simp [Does, issueEach, hfound, hone, hfirst]
      | ok first =>
        rw [hone] at hfirst
        have hfirst : _ = _ := hfirst
        have hrest := ih (sheet.after s first.books first.notes)
        have hbooks : (sheet.after s first.books first.notes).books = first.books := rfl
        rw [hbooks] at hrest
        cases hothers : Books.issueEach s request operator now first.books rest with
        | error failure =>
          rw [hothers] at hrest
          obtain ⟨left, hrest⟩ := hrest
          simp [Does, issueEach, hfound, hone, hfirst, hothers, hrest]
        | ok others =>
          rw [hothers] at hrest
          have hrest : _ = _ := hrest
          simp [Does, issueEach, hfound, hone, hfirst, hothers, hrest, Sheet.after_after]

theorem does_issueRequest :
    (issueRequest s wreck request operator now).Does s sheet
      (sheet.books.issueRequest s request operator now) := by
  unfold Books.issueRequest
  cases hwanted : request.wanted with
  | error fault => simp [Does, issueRequest, hwanted, Failure.breakOff]
  | ok ids =>
    by_cases hempty : ids = []
    · simp [Does, issueRequest, hwanted, hempty, Failure.refuse]
    · have heach := does_issueEach s wreck sheet request operator now ids
      cases hissued : Books.issueEach s request operator now sheet.books ids with
      | error failure =>
        rw [hissued] at heach
        obtain ⟨left, heach⟩ := heach
        simp [Does, issueRequest, hwanted, hempty, hissued, heach]
      | ok issued =>
        rw [hissued] at heach
        have heach : _ = _ := heach
        by_cases hnone : issued.answer = []
        · simp [Does, issueRequest, hwanted, hempty, hissued, heach, hnone, Failure.refuse]
        · simp [Does, issueRequest, hwanted, hempty, hissued, heach, hnone]

theorem does_issue (id : Id) :
    (issue s wreck id operator now).Does s sheet (sheet.books.issue s id operator now) := by
  unfold Books.issue
  cases hfound : sheet.books.findRequest id with
  | error failure => simp [Does, issue, hfound]
  | ok request =>
    by_cases hgranted : request.status = .approved ∨ request.status = .issued
    · simp [Does, issue, hfound, hgranted, Sheet.after, Table.recordFrom]
    · simpa [Does, issue, hfound, hgranted] using
        does_issueRequest s wreck sheet request operator now

theorem does_approveRequest :
    (approveRequest s wreck request operator now).Does s sheet
      (sheet.books.approveRequest s request operator now) := by
  unfold Books.approveRequest
  have hissue := does_issueRequest s wreck sheet request operator now
  cases hissued : sheet.books.issueRequest s request operator now with
  | error failure =>
    rw [hissued] at hissue
    obtain ⟨left, hissue⟩ := hissue
    simp [Does, approveRequest, hissue]
  | ok issued =>
    rw [hissued] at hissue
    have hissue : _ = _ := hissue
    cases hnote : requestMoved .rewardApproved operator request
        { request.approved operator now with updatedAt := some s.stamp }
        [("grantCount", .int issued.answer.length)] with
    | error failure => simp [Does, approveRequest, hissue, hnote]
    | ok note =>
      simp [Does, approveRequest, hissue, hnote, record_eq, Sheet.after, Table.recordFrom_append,
        Nat.add_assoc]

/-- **Moving a request in place** does what its transition comes to. -/
theorem does_transition (id : Id) (target : RequestStatus) (reason : Option String) :
    (transition s wreck id target operator reason now).Does s sheet
      (sheet.books.transition s id target operator reason now) := by
  unfold Books.transition
  by_cases hlisted : target ∈ RequestStatus.listed
  · cases hfound : sheet.books.findRequest id with
    | error failure => simp [Does, transition, hlisted, hfound]
    | ok request =>
      by_cases hsame : target = request.status
      · simp [Does, transition, hlisted, hfound, ← hsame, Sheet.after, Table.recordFrom]
      · by_cases hmay : request.status.mayBecome target = true
        · by_cases htarget : target = .approved
          · have happrove := does_approveRequest s wreck sheet request operator now
            rw [htarget] at hlisted hsame hmay ⊢
            rw [show sheet.books.approveRequest s request operator now = sheet.books.moveRequest s
              request .approved operator reason now from rfl] at happrove
            simpa [Does, transition, hlisted, hfound, hsame, hmay] using happrove
          · simpa [Does, transition, hlisted, hfound, hsame, hmay, htarget] using
              does_conclude s wreck sheet fun books =>
                books.moveRequest s request target operator reason now
        · simp [Does, transition, hlisted, hfound, hsame, hmay, Failure.refuse]
  · simp [Does, transition, hlisted, Failure.refuse]

theorem does_cancelRequest (id : Id) (userId : String) :
    (cancelRequest s wreck id userId).Does s sheet (sheet.books.cancelRequest s id userId) := by
  unfold Books.cancelRequest
  cases hfound : sheet.books.findRequest id with
  | error failure => simp [Does, cancelRequest, hfound]
  | ok request =>
    by_cases huser : request.userId = userId
    · simpa [Does, cancelRequest, hfound, huser] using
        does_transition s wreck sheet (some userId) s.clock request.id .cancelled none
    · simp [Does, cancelRequest, hfound, huser, Failure.refuse]

section Filing
variable (userId : String) (verificationData : Json)

theorem does_writeRequest (event : Event) (rewards : List Id) :
    (writeRequest s wreck event rewards userId verificationData now).Does s sheet
      (sheet.books.writeRequest s event rewards userId verificationData now) := by
  unfold Books.writeRequest
  let request := RewardRequest.filed sheet.books.requests.nextId event.id
    (rewards.map fun id => .str id.text) userId verificationData now s.stamp
  cases hadded : ({ sheet.books with requests := sheet.books.requests.push request } :
      Books).addClaims? (claimsFor request.id event.id userId s.stamp rewards) with
  | none => simp [Does, writeRequest, insertRequest, hadded, Failure.refuse, request]
  | some books => simp [Does, writeRequest, insertRequest, hadded, record_eq, Sheet.after, request]

/-- **Approving at once in place** ends like approving at once. An approval that is refused has
written nothing, as it has a savepoint. -/
theorem ends_approveAtOnce {s : Session} {wreck : Wreck} {sheet : Sheet}
    {filed : Outcome RewardRequest} {w : Work RewardRequest}
    (hw : w sheet = approveAtOnce s wreck filed.answer (sheet.after s filed.books filed.notes)) :
    w.Ends s sheet (Books.approveAtOnce s filed) := by
  have hmove := does_transition s wreck (sheet.after s filed.books filed.notes)
    (some s.systemOperator) s.clock filed.answer.id .approved none
  have hbooks : (sheet.after s filed.books filed.notes).books = filed.books := rfl
  rw [hbooks] at hmove
  unfold Books.approveAtOnce
  cases hresult : filed.books.transition s filed.answer.id .approved (some s.systemOperator) none
      s.clock with
  | ok approved =>
    rw [hresult] at hmove
    have hmove : _ = _ := hmove
    exact ⟨_, by simp [hw, approveAtOnce, hmove, Sheet.after_after]; rfl⟩
  | error failure =>
    rw [hresult] at hmove
    obtain ⟨tried, hback⟩ := savepoint_eq_error hmove
    cases failure with
    | refused refusal => exact ⟨tried, by rw [hw, approveAtOnce, hback]⟩
    | fault fault => exact ⟨_, by rw [hw, approveAtOnce, hback]; rfl⟩

/-- **Making a request in place** ends like making a request. -/
theorem ends_createRequest (eventId : Id) (spellings : List IdSpelling) (rival : Option Claim) :
    (createRequest s wreck eventId spellings userId verificationData now rival).Ends s sheet
      (sheet.books.createRequest s eventId spellings userId verificationData now rival) := by
  -- what is left to do once no rival claim can appear any more
  have hfile (raced : Books) {event : Event} {rewards : List Id}
      (hchecked : sheet.books.admitRequest eventId spellings userId verificationData now =
        .ok (event, rewards))
      (hrace : race rival sheet = (.ok (), { sheet with books := raced })) :
      (createRequest s wreck eventId spellings userId verificationData now rival).Ends s sheet
        (raced.fileRequest s event rewards userId verificationData now) := by
    have hwrite := does_writeRequest s wreck { sheet with books := raced } now userId verificationData
      event rewards
    unfold Books.fileRequest
    cases hfiled : raced.writeRequest s event rewards userId verificationData now with
    | error failure =>
      rw [hfiled] at hwrite
      obtain ⟨left, hwrite⟩ := hwrite
      simp [Ends, createRequest, hchecked, hrace, hwrite]
    | ok filed =>
      rw [hfiled] at hwrite
      have hwrite : _ = _ := hwrite
      by_cases hauto : event.autoReward = true
      · simp only [hauto, if_true]
        exact ends_approveAtOnce (by simp [createRequest, hchecked, hrace, hwrite, hauto]; rfl)
      · simp [Ends, createRequest, hchecked, hrace, hwrite, hauto, Sheet.after]
  unfold Books.createRequest
  cases hchecked : sheet.books.admitRequest eventId spellings userId verificationData now with
  | error failure => simp [Ends, createRequest, hchecked]
  | ok admitted =>
    obtain ⟨event, rewards⟩ := admitted
    cases rival with
    | none => exact hfile sheet.books hchecked rfl
    | some claim =>
      cases hadded : sheet.books.addClaim? claim with
      | none => simp [Ends, createRequest, race, hchecked, hadded, Failure.refuse]
      | some raced =>
        simp only [hadded]
        exact hfile raced hchecked (by simp [race, hadded])

end Filing

end InPlace

namespace Action

variable {s : Session} {db : Database}

theorem db_eq_of_found {α : Type} {reply : α → Reply} {result : Except Failure α} {answer : Reply}
    {after : Database} (h : found db reply result = .ok (answer, after)) : after = db := by
  cases result with
  | error failure => cases h
  | ok a => exact (congrArg Prod.snd (Except.ok.inj h)).symm

theorem transact_look {action : Action}
    (h : ∀ answer after, action.perform s db = .ok (answer, after) → after = db) :
    Work.transact (fun sheet =>
      ((action.perform s { books := sheet.books, journal := sheet.journal }).map Prod.fst, sheet)) db =
        action.perform s db := by
  unfold Work.transact
  dsimp only
  cases hperform : action.perform s db with
  | error failure => rfl
  | ok result =>
    obtain ⟨answer, after⟩ := result
    rw [h answer after hperform]
    rfl

theorem transact_record {wreck : Wreck} {note : Note} :
    (Reply.log <$> Work.record s wreck note).transact db = (record (some note)).perform s db := by
  have hmap : Reply.log <$> Work.record s wreck note =
    Work.record s wreck note >>= fun entry => pure (.log entry) := rfl
  unfold perform Work.transact
  by_cases haccepts : s.journalAccepts 0 = true
  · simp [hmap, Work.record_eq, Sheet.after, Table.recordFrom, haccepts]
  · simp [hmap, Work.record_eq, Sheet.after, Table.recordFrom, haccepts]

/-- **Every action in place** comes to what performing it comes to, whatever a write to the journal
that is not accepted leaves behind. -/
theorem transact_inPlace (s : Session) (wreck : Wreck) (db : Database) (action : Action) :
    (action.inPlace s wreck).transact db = action.perform s db := by
  cases action with
  | createEvent | updateEvent | createReward | updateReward | participate | useGrant
  | expireGrants => exact (Work.does_conclude _ _ _ _).ends.transact_eq _
  | createRequest => exact (InPlace.ends_createRequest _ _ _ _ _ _ _ _ _).transact_eq _
  | transition => exact (InPlace.does_transition _ _ _ _ _ _ _ _).ends.transact_eq _
  | cancelRequest => exact (InPlace.does_cancelRequest _ _ _ _ _).ends.transact_eq _
  | issue => exact (InPlace.does_issue _ _ _ _ _ _).ends.transact_eq _
  | record note =>
    cases note with
    | none => rfl
    | some note => exact transact_record
  | findEvent | findReward | findRewardsOfEvent | statistics | findRequest | findGrantsOfRequest
  | findGrant | verify | findLogs => exact transact_look fun _ _ => db_eq_of_found
  | findEvents | findActiveEvents | findRewardsNaming | findParticipationsOfEvent
  | findParticipationsOfUser | findLatestParticipation | findRequests | findRequestsOfUser
  | findGrantsNaming | findGrantsOfUser => rfl

end Action

end Promotions
