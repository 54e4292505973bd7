import Promotions.Proofs.References

/-!
# Integrity

Nothing that a row names is missing (`Database.Intact`), in the tables as `Books.Anchored`,
`Books.Mirrored` and `Books.Referred` say, and in the journal, whose entries name rows that the
operations have found (`Change.knows`). Therefore a request that is there can always be read and
granted in full. No change of its status fails because its rewards are gone or because its wanted
list cannot be read (`Books.Resolves`), and nothing that it wants is passed over
(`Change.grantedBy`). `references_hold` says so of every run.

A note that is written by itself is not checked by anything, so a run may contain only such notes as
name rows.
-/

namespace Promotions

open Table (Evolves newRows)

/-! ### What notes name -/

/-- **A note is about a request**: it names the request and its event, and at most a reward
of it. -/
structure Note.Concerns (note : Note) (q : RewardRequest) : Prop where
  eventId_eq : note.eventId = some q.eventId
  requestId_eq : note.requestId = some q.id
  lists : ∀ id, note.rewardId = some id → q.Lists id

theorem Note.Concerns.continues {note : Note} {q q' : RewardRequest} (h : note.Concerns q)
    (hq : q.Continues q') : note.Concerns q' := by
  have hlists : ∀ id, note.rewardId = some id → q'.Lists id := fun id hid =>
    hq.lists_iff.mpr (h.lists id hid)
  obtain ⟨_, _, _, _, _, _, rfl⟩ := hq
  exact ⟨h.eventId_eq, h.requestId_eq, hlists⟩

theorem RewardRequest.Wants.offers {q : RewardRequest} {books : Books} {ids : List Id}
    (h : q.Wants books ids) {id : Id} (hlists : q.Lists id) : books.Offers q.eventId id :=
  h.offered id ((lists_iff h.spells.rewardIds_eq).mp hlists)

theorem Note.Concerns.knows {note : Note} {q : RewardRequest} {books : Books}
    (h : note.Concerns q) (hbooks : books.Anchored) (hq : q ∈ books.requests.rows) :
    books.Knows note.eventId note.rewardId note.requestId := by
  obtain ⟨hevent, ids, hwants⟩ := hbooks.requests q hq
  refine ⟨fun id hid => ?_, fun id hid => (hwants.offers (h.lists id hid)).has, fun id hid => ?_⟩
  · rw [h.eventId_eq] at hid
    rwa [← Option.some.inj hid]
  · rw [h.requestId_eq] at hid
    exact ⟨q, hq, Option.some.inj hid⟩

theorem Note.Concerns.knows_of_persist {note : Note} {q : RewardRequest} {books after : Books}
    (h : note.Concerns q) (hpersist : books.Persist after) (hafter : after.Anchored)
    (hq : q ∈ books.requests.rows) : after.Knows note.eventId note.rewardId note.requestId := by
  obtain ⟨q', hq', hcontinues⟩ := hpersist.request q hq
  exact (h.continues hcontinues).knows hafter hq'

namespace Books

theorem knows_of_event {books : Books} {eventId : Id} {rewardId : Option Id}
    (hevent : books.events.Has eventId)
    (hreward : ∀ id, rewardId = some id → books.rewards.Has id) :
    books.Knows (some eventId) rewardId none where
  event := fun _ hid => Option.some.inj hid ▸ hevent
  reward := hreward
  request := nofun

theorem knows_of_mem_eventStatusChanged {books : Books} {old new : Event} {actor : String}
    {note : Note} (hevent : books.events.Has new.id)
    (hnote : note ∈ eventStatusChanged old new actor) :
    books.Knows note.eventId note.rewardId note.requestId := by
  unfold eventStatusChanged at hnote
  split at hnote
  · cases hnote
  · rw [List.mem_singleton.mp hnote]
    exact knows_of_event hevent nofun

section
variable {s : Session} {request : RewardRequest} {operator : Option String} {now : Instant}
  {books after : Books} {ids : List Id} {notes : List Note}

theorem Granting.concerns {grants : List Grant}
    (h : Granting s request operator now books ids after grants notes)
    (hlists : ∀ id ∈ ids, request.Lists id) : ∀ note ∈ notes, note.Concerns request := by
  induction h with
  | done books => simp
  | skipped hnone hrest ih => exact ih fun id hid => hlists id (List.mem_cons_of_mem _ hid)
  | @granted books after id rest grants notes reward copied grant view hreward hstock hcopied hgrant
      hnew hview hrest ih =>
    intro note hnote
    rcases List.mem_cons.mp hnote with rfl | hnote
    · have hid : reward.id = id := Table.id_of_find?_eq_some hreward
      rw [hgrant]
      refine ⟨rfl, rfl, fun named hnamed => ?_⟩
      have hsame : reward.id = named := Option.some.inj hnamed
      rw [← hsame, hid]
      exact hlists id List.mem_cons_self
    · exact ih (fun other hother => hlists other (List.mem_cons_of_mem _ hother)) note hnote

theorem concerns_of_requestMoved {logType : LogType} {old new : RewardRequest}
    {more : List (String × Json)} {note : Note}
    (h : requestMoved logType operator old new more = .ok note) (hspells : new.Spells ids) :
    note.Concerns new := by
  obtain ⟨first, items, hfirst, rfl⟩ := requestMoved_eq_ok h
  refine ⟨rfl, rfl, fun id hid => ?_⟩
  have hsame : first = some id := hid
  rw [hsame] at hfirst
  exact (RewardRequest.lists_iff hspells.rewardIds_eq).mpr (hspells.mem_of_firstReward hfirst)

/-- **Whatever is noted while a request is moved** is about the request. -/
theorem Moving.concerns {reason : Option String} {target : RequestStatus}
    (h : Moving s books request operator reason now target after notes)
    (hspells : request.Spells ids) : ∀ note ∈ notes, note.Concerns request := by
  -- the request is noted as it is moved, with what it wants as before
  have hmoved {logType : LogType} {new : RewardRequest} {more : List (String × Json)} {note : Note}
      (hnote : requestMoved logType operator request new more = .ok note)
      (hcontinues : request.Continues new) : note.Concerns request :=
    (concerns_of_requestMoved hnote (hspells.continues hcontinues)).continues hcontinues.symm
  cases h with
  | approved hwanted _ hgranting _ hnote =>
    intro note hmem
    rcases List.mem_append.mp hmem with hmem | hmem
    · obtain rfl := hspells.wanted_eq hwanted
      refine hgranting.concerns (fun id hid => ?_) note hmem
      exact (RewardRequest.lists_iff hspells.rewardIds_eq).mpr hid
    · rw [List.mem_singleton.mp hmem]
      exact hmoved hnote ⟨_, _, _, _, _, _, rfl⟩
  | rejected hnote | cancelled hnote | delivered hnote =>
    intro note hmem
    rw [List.mem_singleton.mp hmem]
    exact hmoved hnote ⟨_, _, _, _, _, _, rfl⟩

theorem Filing.concerns {event : Event} {userId : String} {verificationData : Json}
    (h : Filing s books event ids userId verificationData now request after notes)
    (hspells : request.Spells ids) : ∀ note ∈ notes, note.Concerns request := by
  rw [h.notes_eq]
  intro note hmem
  rw [List.mem_singleton.mp hmem]
  refine ⟨rfl, rfl, fun id hid => ?_⟩
  exact (RewardRequest.lists_iff hspells.rewardIds_eq).mpr (List.mem_of_head? hid)

end

end Books

open Books

/-- An operation is called in order, and a note that is written by itself names rows that exist. -/
structure Action.Refers (action : Action) (books : Books) : Prop where
  orderly : action.IsOrderly
  noted : ∀ note, action = .record (some note) →
    books.Knows note.eventId note.rewardId note.requestId

theorem Action.IsAsked.refers {action : Action} (h : action.IsAsked) (books : Books) :
    action.Refers books where
  orderly := h.isOrderly
  noted := by
    rintro note rfl
    exact absurd h.isPublic id

/-- **What an action notes** names rows that exist. -/
theorem Change.knows {s : Session} {books after : Books} {action : Action} {notes : List Note}
    (h : Change s books action after notes) (hrefers : action.Refers books)
    (hbooks : books.Numbered) (hspelled : books.Spelled) (hanchored : books.Anchored)
    (hreferred : books.Referred) :
    ∀ note ∈ notes, after.Knows note.eventId note.rewardId note.requestId := by
  have hafter := h.anchored hrefers.orderly hbooks hanchored
  have hpersist := h.persist hbooks
  have hevents {id : Id} {event : Event} (hfound : books.events.find? id = some event) :
      after.events.Has event.id :=
    hpersist.event ⟨event, Table.mem_of_find?_eq_some hfound, rfl⟩
  cases h with
  | nothing | expired => simp
  | noted note => simpa using hrefers.noted note rfl
  | @eventMade _ _ _ _ event _ =>
    intro note hnote
    rw [List.mem_singleton.mp hnote]
    exact knows_of_event ⟨event, List.mem_append_right _ List.mem_cons_self, rfl⟩ nofun
  | @eventEdited _ _ _ old new _ _ _ hold _ _ _ _ hnew =>
    have hid : new.id = old.id := by rw [hnew]; rfl
    have hhas := hevents hold
    rw [← hid] at hhas
    intro note hnote
    rcases List.mem_append.mp hnote with hnote | hnote
    · exact knows_of_mem_eventStatusChanged hhas hnote
    · rw [List.mem_singleton.mp hnote]
      exact knows_of_event hhas nofun
  | @rewardMade _ _ event _ reward _ hevent _ hreward =>
    have heventId : reward.eventId = event.id := by rw [hreward]; rfl
    have hhas := hevents hevent
    rw [← heventId] at hhas
    intro note hnote
    rw [List.mem_singleton.mp hnote]
    refine knows_of_event hhas fun id hid => ?_
    exact ⟨reward, List.mem_append_right _ List.mem_cons_self, Option.some.inj hid⟩
  | @rewardEdited _ _ _ old new _ _ hold _ _ _ hnew =>
    have hmem := Table.mem_of_find?_eq_some hold
    have hid : new.id = old.id := by rw [hnew]; rfl
    have heventId : new.eventId = old.eventId := by rw [hnew]; rfl
    have hhas := hpersist.event (hanchored.rewards old hmem)
    rw [← heventId] at hhas
    intro note hnote
    rw [List.mem_singleton.mp hnote]
    refine knows_of_event hhas fun named hnamed => hpersist.reward ⟨old, hmem, ?_⟩
    exact hid.symm.trans (Option.some.inj hnamed)
  | tookPart hevent =>
    intro note hnote
    rw [List.mem_singleton.mp hnote]
    exact knows_of_event (hevents hevent) nofun
  | filed hadmitted hraced hfiling =>
    have hspells := hfiling.spells (Id.nodup_of_orderedUnique hadmitted.resolved) hadmitted.nonempty
    intro note hnote
    refine (hfiling.concerns hspells note hnote).knows hafter ?_
    rw [hfiling.requests_eq]
    exact List.mem_append_right _ List.mem_cons_self
  | @filedAndApproved _ _ _ _ _ _ _ _ _ _ _ _ found _ _ hadmitted hraced hfiling _ hfound _
      hmoving =>
    have hspells := hfiling.spells (Id.nodup_of_orderedUnique hadmitted.resolved) hadmitted.nonempty
    obtain ⟨rfl, hrequests⟩ := hfiling.requests_of_moving (hraced.numbered hbooks) hfound hmoving
    intro note hnote
    have hconcerns : note.Concerns found := by
      rcases List.mem_append.mp hnote with hnote | hnote
      · exact hfiling.concerns hspells note hnote
      · exact hmoving.concerns hspells note hnote
    have hcontinues := found.continues_moved .approved (some s.systemOperator) none s.clock s.stamp
    refine (hconcerns.continues hcontinues).knows hafter ?_
    rw [hrequests]
    exact List.mem_append_right _ List.mem_cons_self
  | moved hfound _ hmoving | cancelled hfound _ _ hmoving =>
    have hrequest := Table.mem_of_find?_eq_some hfound
    obtain ⟨ids, hspells, -⟩ := hspelled.exists_spells hrequest
    exact fun note hnote =>
      (hmoving.concerns hspells note hnote).knows_of_persist hpersist hafter hrequest
  | issued hfound _ hwanted hgranting =>
    have hrequest := Table.mem_of_find?_eq_some hfound
    obtain ⟨ids, hspells, -⟩ := hspelled.exists_spells hrequest
    obtain rfl := hspells.wanted_eq hwanted
    intro note hnote
    have hconcerns := hgranting.concerns fun id hid =>
      (RewardRequest.lists_iff hspells.rewardIds_eq).mpr hid
    exact (hconcerns note hnote).knows_of_persist hpersist hafter hrequest
  | @used _ _ _ grant hfound =>
    obtain ⟨q, hq, hof, hlists⟩ := hreferred grant (Table.mem_of_find?_eq_some hfound)
    intro note hnote
    rw [List.mem_singleton.mp hnote]
    exact Note.Concerns.knows_of_persist ⟨congrArg some hof.eventId_eq,
      congrArg some hof.requestId_eq, fun id hid => Option.some.inj hid ▸ hlists⟩ hpersist hafter hq

/-! ### The journal -/

/-- **Every entry of the journal** names rows that exist. -/
def Database.Journaled (db : Database) : Prop :=
  ∀ entry ∈ db.journal.rows, db.books.Knows entry.eventId entry.rewardId entry.requestId

theorem Table.mem_recordFrom {clock : Instant} {accepts : Nat → Bool} {index : Nat}
    {journal : Table LogEntry} {notes : List Note} {entry : LogEntry}
    (h : entry ∈ (journal.recordFrom clock accepts index notes).rows) :
    entry ∈ journal.rows ∨ ∃ note ∈ notes, ∃ id, entry = note.entry id clock := by
  induction notes generalizing index journal with
  | nil => exact Or.inl h
  | cons note rest ih =>
    rw [recordFrom] at h
    rcases ih h with hold | ⟨other, hother, heq⟩
    · split at hold
      · rcases List.mem_append.mp hold with hold | hnew
        · exact Or.inl hold
        · exact Or.inr ⟨note, List.mem_cons_self, _, List.mem_singleton.mp hnew⟩
      · exact Or.inl hold
    · exact Or.inr ⟨other, List.mem_cons_of_mem _ hother, heq⟩

theorem Action.Writes.journaled {s : Session} {action : Action} {db after : Database}
    (h : action.Writes s db after) (hrefers : action.Refers db.books)
    (hbooks : db.books.Numbered) (hspelled : db.books.Spelled) (hanchored : db.books.Anchored)
    (hreferred : db.books.Referred) (hdb : db.Journaled) : after.Journaled := by
  obtain ⟨notes, hchange, hjournal⟩ := h
  intro entry hentry
  rw [hjournal] at hentry
  rcases Table.mem_recordFrom hentry with hold | ⟨note, hnote, id, rfl⟩
  · exact (hchange.persist hbooks).knows (hdb entry hold)
  · exact hchange.knows hrefers hbooks hspelled hanchored hreferred note hnote

/-- **A run in which whatever is called refers to what is there**: operations are called in order,
and when a note is written by itself, the rows that it names exist. -/
def RefersThroughout (ms : List Moment) : Prop :=
  ∀ before m, before ++ [m] <+: ms →
    m.CallsOnly fun action => action.Refers (Database.empty.after before).books

namespace RefersThroughout

variable {ms : List Moment}

theorem of_append {more : List Moment} (h : RefersThroughout (ms ++ more)) :
    RefersThroughout ms :=
  fun before m hinit => h before m (hinit.trans (List.prefix_append ms more))

theorem concat (h : RefersThroughout ms) {m : Moment}
    (hm : m.CallsOnly fun action => action.Refers (Database.empty.after ms).books) :
    RefersThroughout (ms ++ [m]) := by
  intro before m' hinit
  rcases List.prefix_concat_iff.mp hinit with heq | hinit
  · obtain ⟨rfl, hlast⟩ := List.append_inj' heq rfl
    cases hlast
    exact hm
  · exact h before m' hinit

theorem of_unnoted (h : ∀ m ∈ ms, m.CallsOnly fun action =>
    action.IsOrderly ∧ ∀ note, action ≠ .record (some note)) : RefersThroughout ms := by
  intro before m hinit action hcall
  obtain ⟨horderly, hunnoted⟩ := h m (hinit.subset (by simp)) action hcall
  exact ⟨horderly, fun note hnote => absurd hnote (hunnoted note)⟩

theorem isOrderly (h : RefersThroughout ms) : ∀ m ∈ ms, m.CallsOnly Action.IsOrderly := by
  intro m hm action hcall
  obtain ⟨before, later, rfl⟩ := List.append_of_mem hm
  have hinit : before ++ [m] <+: before ++ m :: later := ⟨later, by simp⟩
  exact (h before m hinit action hcall).orderly

theorem reachable (h : RefersThroughout ms) :
    (Database.empty.after ms).Reachable Action.IsOrderly := ⟨ms, h.isOrderly, rfl⟩

theorem journaled (h : RefersThroughout ms) : (Database.empty.after ms).Journaled := by
  induction ms using List.reverseRecOn with
  | nil => simp [Database.Journaled, Database.empty]
  | append_singleton ms m ih =>
    have hdb := ih h.of_append
    have hreachable := h.of_append.reachable
    rw [Database.after_append]
    rcases m.after_eq_or_writes (Database.empty.after ms) with heq | ⟨action, hasked, hwrites⟩
    · rw [Database.after_cons, heq]
      exact hdb
    · have hrefers : action.Refers (Database.empty.after ms).books := by
        rcases Moment.isAsked_or_call hasked with hasked | hcall
        · exact hasked.refers _
        · exact h ms m (List.prefix_refl _) action hcall
      exact hwrites.journaled hrefers hreachable.numbered hreachable.spelled hreachable.anchored
        hreachable.referred hdb

end RefersThroughout

/-! ### Nothing is missing -/

/-- **A failure for the lack of what a request names**: its rewards are gone, or there are none, or
its wanted list cannot be read. -/
def Failure.IsDangling : Failure → Prop
  | .refused .rewardsGone | .refused .nothingToIssue => True
  | .fault (.badId _) | .fault .badWanted | .fault .unorderedWanted => True
  | _ => False

/-- **Whatever a request names can be found**: neither issuing its rewards nor changing its status
fails because something is missing. -/
structure Books.Resolves (books : Books) : Prop where
  issue : ∀ (s : Session) (id : Id) (operator : Option String) (now : Instant) (failure : Failure),
    books.issue s id operator now = .error failure → ¬failure.IsDangling
  transition : ∀ (s : Session) (id : Id) (target : RequestStatus) (operator reason : Option String)
    (now : Instant) (failure : Failure),
    books.transition s id target operator reason now = .error failure → ¬failure.IsDangling

section
variable {fault : Fault}

theorem Metadata.not_isDangling_of_gather {members : List (Json × Json)} {items : List Json}
    (h : gather members items = .error fault) : ¬(Failure.fault fault).IsDangling := by
  induction items generalizing members with
  | nil => cases h
  | cons item rest ih =>
    rw [gather] at h
    split at h
    · next found hpair =>
      cases Except.error.inj h
      unfold pair at hpair
      split at hpair
      · cases hpair
      · cases Except.error.inj hpair
        exact id
      · cases Except.error.inj hpair
        exact id
    · split at h
      · exact ih h
      · cases Except.error.inj h
        exact id

theorem Metadata.not_isDangling_of_copy {metadata : Json} (h : copy metadata = .error fault) :
    ¬(Failure.fault fault).IsDangling := by
  unfold copy at h
  split at h
  · cases h
  · split at h
    · cases Except.error.inj h
      exact id
    · split at h
      · cases h
      · next found hgather =>
        cases Except.error.inj h
        exact not_isDangling_of_gather hgather

theorem not_isDangling_of_showable {issues : List Issue} {payloads : List Json} {view : Json}
    (h : showable issues payloads view = .error fault) : ¬(Failure.fault fault).IsDangling := by
  unfold showable at h
  split at h
  · cases Except.error.inj h
    exact id
  · split at h
    · cases h
    · cases Except.error.inj h
      exact id

end

namespace Books

section
variable {s : Session} {books : Books} {request : RewardRequest} {operator reason : Option String}
  {now : Instant} {failure : Failure} {ids : List Id}

theorem issueOne_not_isDangling {reward : Reward}
    (h : books.issueOne s request operator now reward = .error failure) : ¬failure.IsDangling := by
  unfold issueOne at h
  split at h
  · cases Except.error.inj h
    exact id
  · split at h
    · next fault hcopied =>
      cases Except.error.inj h
      exact Metadata.not_isDangling_of_copy hcopied
    · next copied _ =>
      dsimp only at h
      split at h
      · cases Except.error.inj h
        exact id
      · split at h
        · next found hview =>
          cases Except.error.inj h
          unfold orBreakOff at hview
          split at hview
          · cases hview
          · next fault hshown =>
            cases Except.error.inj hview
            unfold Metadata.Copied.checked at hshown
            split at hshown
            · exact not_isDangling_of_showable hshown
            · cases Except.error.inj hshown
              exact id
        · cases h

theorem issueEach_not_isDangling (h : issueEach s request operator now books ids = .error failure) :
    ¬failure.IsDangling := by
  induction ids generalizing books with
  | nil => cases h
  | cons id rest ih =>
    rw [issueEach] at h
    split at h
    · exact ih h
    · split at h
      · next found hone =>
        cases Except.error.inj h
        exact issueOne_not_isDangling hone
      · split at h
        · next found hrest =>
          cases Except.error.inj h
          exact ih hrest
        · cases h

/-- What a request wants is there, to be read and to be granted. -/
theorem issueRequest_not_isDangling (hwants : request.Wants books ids) (hbooks : books.Numbered)
    (h : books.issueRequest s request operator now = .error failure) : ¬failure.IsDangling := by
  unfold issueRequest at h
  rw [hwants.spells.wanted_eq_ok hwants.spelled] at h
  dsimp only at h
  rw [if_neg (by simpa using hwants.spells.nonempty)] at h
  split at h
  · next found hissued =>
    cases Except.error.inj h
    exact issueEach_not_isDangling hissued
  · next issued hissued =>
    have hfound : ∀ id ∈ ids, (books.rewards.find? id).isSome = true := by
      intro id hid
      obtain ⟨r, hr, hrid, -⟩ := hwants.offered id hid
      rw [hbooks.rewards.find?_eq_some_iff.mpr ⟨hr, hrid⟩]
      rfl
    have hall := (issueEach_eq_ok hissued).rewardIds_eq hfound
    split at h
    · next hempty =>
      rw [List.isEmpty_iff.mp hempty] at hall
      exact absurd hall.symm hwants.spells.nonempty
    · cases h

theorem requestMoved_ne_error {logType : LogType} {old new : RewardRequest}
    {more : List (String × Json)} (hspells : new.Spells ids) (hspelled : ∀ id ∈ ids, id.IsSpelled) :
    requestMoved logType operator old new more ≠ .error failure := by
  have hfirst : ∃ first, new.firstReward = .ok first := by
    cases ids with
    | nil => exact absurd rfl hspells.nonempty
    | cons first rest =>
      have hread : RewardRequest.itemId (.str first.text) = .ok first :=
        RewardRequest.itemId_text (hspelled first List.mem_cons_self)
      rw [hspells.firstReward_eq, hread]
      exact ⟨_, rfl⟩
  obtain ⟨first, hfirst⟩ := hfirst
  unfold requestMoved
  rw [hfirst, hspells.items_eq]
  exact nofun

theorem moveRequest_not_isDangling {target : RequestStatus} (hwants : request.Wants books ids)
    (hbooks : books.Numbered)
    (h : books.moveRequest s request target operator reason now = .error failure) :
    ¬failure.IsDangling := by
  have hspells {new : RewardRequest} (hcontinues : request.Continues new) : new.Spells ids :=
    hwants.spells.continues hcontinues
  have hsettled {books : Books} {new : RewardRequest} {logType : LogType}
      {more : List (String × Json)} (hcontinues : request.Continues new) :
      books.settleRequest s request new logType operator more ≠ .error failure := by
    unfold settleRequest
    split
    · next found hfailed => exact absurd hfailed (requestMoved_ne_error (hspells hcontinues) hwants.spelled)
    · exact nofun
  unfold moveRequest at h
  split at h
  · unfold approveRequest at h
    split at h
    · next found hissued =>
      cases Except.error.inj h
      exact issueRequest_not_isDangling hwants hbooks hissued
    · dsimp only at h
      split at h
      · next found hfailed =>
        refine absurd hfailed (requestMoved_ne_error (hspells ?_) hwants.spelled)
        exact ⟨_, _, _, _, _, _, rfl⟩
      · cases h
  · exact absurd h (hsettled ⟨_, _, _, _, _, _, rfl⟩)
  · exact absurd h (hsettled ⟨_, _, _, _, _, _, rfl⟩)
  · exact absurd h (hsettled ⟨_, _, _, _, _, _, rfl⟩)
  · cases h
  · cases h

theorem findRequest_not_isDangling {id : Id} (h : books.findRequest id = .error failure) :
    ¬failure.IsDangling := by
  unfold findRequest at h
  split at h
  · cases h
  · cases Except.error.inj h
    exact not_false

end

/-- **In books whose rows name what is there**, requests can be read and granted in full. -/
theorem Anchored.resolves {books : Books} (h : books.Anchored) (hbooks : books.Numbered) :
    books.Resolves where
  issue := by
    intro s id operator now failure hfailed
    unfold issue at hfailed
    split at hfailed
    · next found hfound =>
      cases Except.error.inj hfailed
      exact findRequest_not_isDangling hfound
    · next request hfound =>
      split at hfailed
      · cases hfailed
      · obtain ⟨-, ids, hwants⟩ :=
          h.requests request (Table.mem_of_find?_eq_some (findRequest_eq_ok hfound))
        exact issueRequest_not_isDangling hwants hbooks hfailed
  transition := by
    intro s id target operator reason now failure hfailed
    unfold transition at hfailed
    split at hfailed
    · cases Except.error.inj hfailed
      exact not_false
    · split at hfailed
      · next found hfound =>
        cases Except.error.inj hfailed
        exact findRequest_not_isDangling hfound
      · next request hfound =>
        split at hfailed
        · cases hfailed
        · split at hfailed
          · cases Except.error.inj hfailed
            exact not_false
          · obtain ⟨-, ids, hwants⟩ :=
              h.requests request (Table.mem_of_find?_eq_some (findRequest_eq_ok hfound))
            exact moveRequest_not_isDangling hwants hbooks hfailed

end Books

/-! ### Every run -/

/-- **Nothing that a row names is missing**: rewards, participations and requests name what is
there, claims and grants belong to requests of their event and user that list their reward, and
entries of the journal name rows. -/
structure Database.Intact (db : Database) : Prop where
  anchored : db.books.Anchored
  claims : ∀ c ∈ db.books.claims, ∃ q ∈ db.books.requests.rows, c.IsOf q ∧ q.Lists c.rewardId
  grants : ∀ g ∈ db.books.grants.rows, ∃ q ∈ db.books.requests.rows, g.IsOf q ∧
    q.Lists g.rewardId ∧ db.books.Offers g.eventId g.rewardId
  journal : db.Journaled

theorem RefersThroughout.intact {ms : List Moment} (h : RefersThroughout ms) :
    (Database.empty.after ms).Intact where
  anchored := h.reachable.anchored
  claims := by
    intro c hc
    obtain ⟨q, hq, -, hlists, hof⟩ :=
      (h.reachable.mono Action.IsOrderly.isUnrivalled).mirrored.backed c hc
    exact ⟨q, hq, hof, hlists⟩
  grants := by
    intro g hg
    obtain ⟨q, hq, hof, hlists⟩ := h.reachable.referred g hg
    obtain ⟨-, ids, hwants⟩ := h.reachable.anchored.requests q hq
    refine ⟨q, hq, hof, hlists, ?_⟩
    rw [hof.eventId_eq]
    exact hwants.offers hlists
  journal := h.journaled

/-- **References hold.** After every run in which whatever is called refers to what is there,
nothing that a row names is missing. So requests can be read and granted in full: whatever an action
grants is all that some request wants, in its order, and neither issuing nor a change of status ever
fails because something is missing. That goes for a request that was just filed, too, which the
event may approve at once. -/
theorem references_hold {ms : List Moment} (h : RefersThroughout ms) :
    (Database.empty.after ms).Intact ∧
    (∀ (s : Session) (action : Action) (reply : Reply) (after : Database),
      action.perform s (Database.empty.after ms) = .ok (reply, after) →
        newRows (Database.empty.after ms).books.grants after.books.grants = [] ∨
          ∃ q ∈ after.books.requests.rows,
            q.GrantedBy (newRows (Database.empty.after ms).books.grants after.books.grants)) ∧
    (Database.empty.after ms).books.Resolves ∧
    ∀ (s : Session) (eventId : Id) (spellings : List IdSpelling) (userId : String)
      (verificationData : Json) (now : Instant) (event : Event) (rewards : List Id)
      (filed : Outcome RewardRequest), (∀ id, IdSpelling.known id ∈ spellings → id.IsSpelled) →
      (Database.empty.after ms).books.admitRequest eventId spellings userId verificationData now =
        .ok (event, rewards) →
      (Database.empty.after ms).books.writeRequest s event rewards userId verificationData now =
        .ok filed → filed.books.Resolves := by
  have hdb := h.reachable
  refine ⟨h.intact, ?_, hdb.anchored.resolves hdb.numbered, ?_⟩
  · intro s action reply after hperform
    obtain ⟨notes, hchange, -⟩ := Action.perform_eq_ok hperform
    exact hchange.grantedBy hdb.numbered hdb.spelled
  · intro s eventId spellings userId verificationData now event rewards filed hspelled hadmit hwrite
    -- filing by itself is what making a request does where an event approves nothing at once
    have hchange : Change s (Database.empty.after ms).books
        (.createRequest eventId spellings userId verificationData (some now) none) filed.books
        filed.notes :=
      .filed (admitRequest_eq_ok hadmit) rfl (writeRequest_eq_ok hwrite)
    have horderly : (Action.createRequest eventId spellings userId verificationData (some now)
        none).IsOrderly := ⟨rfl, hspelled⟩
    exact (hchange.anchored horderly hdb.numbered hdb.anchored).resolves
      (hchange.numbered hdb.numbered)

/-- A note that an event was changed is written by itself. -/
def noting (eventId : Id) : Moment :=
  ⟨{ clock := ⟨5000000⟩ }, .call (.record
    (some { logType := .eventUpdated, actor := "admin", eventId := some eventId, details := .null }))⟩

/-- After the approval of `pendingRun` a note may name the event that was made first. The only grant
there is then is for the request that lists its reward. -/
theorem references_hold_noting :
    RefersThroughout (pendingRun ++ [approval] ++ [noting ({} : Table Event).nextId]) ∧
      ∃ g, (Database.empty.after (pendingRun ++ [approval] ++
        [noting ({} : Table Event).nextId])).books.grants.rows = [g] ∧
          ∃ q ∈ (Database.empty.after (pendingRun ++ [approval] ++
            [noting ({} : Table Event).nextId])).books.requests.rows,
              g.IsOf q ∧ q.Lists g.rewardId := by
  have hcalls : ∀ m ∈ pendingRun ++ [approval], m.CallsOnly fun action =>
      action.IsOrderly ∧ ∀ note, action ≠ .record (some note) := by
    simp [pendingRun, approval, Action.IsOrderly, Id.isSpelled_iff]
    decide
  have hrefers : RefersThroughout
      (pendingRun ++ [approval] ++ [noting ({} : Table Event).nextId]) := by
    refine (RefersThroughout.of_unnoted hcalls).concat ?_
    refine Moment.callsOnly_call.mpr ⟨trivial, fun note hnote => ?_⟩
    cases hnote
    refine ⟨fun id hid => ?_, fun id hid => ?_, fun id hid => ?_⟩ <;> cases hid
    obtain ⟨event, hevent⟩ := Option.isSome_iff_exists.mp (by decide +kernel :
      ((Database.empty.after (pendingRun ++ [approval])).books.events.find?
        ({} : Table Event).nextId).isSome = true)
    exact Table.has_of_find? hevent
  obtain ⟨hintact, -⟩ := references_hold hrefers
  obtain ⟨g, hg⟩ := List.length_eq_one_iff.mp (by decide +kernel :
    (Database.empty.after (pendingRun ++ [approval] ++
      [noting ({} : Table Event).nextId])).books.grants.rows.length = 1)
  obtain ⟨q, hq, hof, hlists, -⟩ := hintact.grants g (by rw [hg]; exact List.mem_singleton_self g)
  exact ⟨hrefers, g, hg, q, hq, hof, hlists⟩

end Promotions
