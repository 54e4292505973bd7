import Promotions.Proofs.Snapshots

/-!
# Expiry and use

Expiry at one time and then at another comes to expiry at the later of them, also in what it counts
(`Books.expireGrants_expireGrants`): a grant that was due at the first time has expired by then, and
what else is due at the later time is counted by the second run. So a run may be repeated and runs
may change places.

Whether a grant can be used is asked in another place than whether it is due, and both have to draw
the same line. They do: expiry at the time of a use leaves alone what can be used, and what it marks
is refused to its user before and after (`Books.useGrant_expireGrants`).
-/

namespace Promotions

namespace Instant

instance : Max Instant := ⟨fun a b => ⟨max a.micros b.micros⟩⟩

theorem lt_max_iff {a b c : Instant} : a < max b c ↔ a < b ∨ a < c := by
  have hmicros : (max b c).micros = max b.micros c.micros := rfl
  show a.micros < (max b c).micros ↔ a.micros < b.micros ∨ a.micros < c.micros
  omega

protected theorem max_comm (a b : Instant) : max a b = max b a :=
  congrArg Instant.mk (Int.max_comm a.micros b.micros)

protected theorem max_self (a : Instant) : max a a = a := congrArg Instant.mk (Int.max_self a.micros)

end Instant

namespace Grant

/-! ### One grant -/

theorem isPast_max (g : Grant) (t₁ t₂ : Instant) :
    g.isPast (max t₁ t₂) = (g.isPast t₁ || g.isPast t₂) := by
  unfold isPast
  cases g.expiryDate with
  | none => rfl
  | some expiryDate => simp only [Option.any_some, Instant.lt_max_iff, Bool.decide_or]

/-- **A grant is due at the later of two times** if it is due at one of them. -/
theorem isDue_max (g : Grant) (t₁ t₂ : Instant) :
    g.isDue (max t₁ t₂) = (g.isDue t₁ || g.isDue t₂) := by
  unfold isDue
  rw [isPast_max, Bool.and_or_distrib_left]

theorem expire_of_due {g : Grant} {t : Instant} (h : g.isDue t = true) :
    g.expire t = { g with status := .expired } := if_pos h

theorem expire_of_not_due {g : Grant} {t : Instant} (h : g.isDue t = false) : g.expire t = g :=
  if_neg (by simp [h])

theorem isDue_expire (g : Grant) (t₁ t₂ : Instant) :
    (g.expire t₁).isDue t₂ = (!g.isDue t₁ && g.isDue t₂) := by
  cases hdue : g.isDue t₁ with
  | false => rw [expire_of_not_due hdue, Bool.not_false, Bool.true_and]
  | true =>
    rw [expire_of_due hdue]
    rfl

/-- **A grant that expires at two times** expires at the later of them. -/
theorem expire_expire (g : Grant) (t₁ t₂ : Instant) :
    (g.expire t₁).expire t₂ = g.expire (max t₁ t₂) := by
  have hlater := isDue_expire g t₁ t₂
  have hboth := isDue_max g t₁ t₂
  cases hfirst : g.isDue t₁ with
  | true =>
    rw [hfirst] at hlater hboth
    rw [expire_of_not_due hlater, expire_of_due hfirst, expire_of_due hboth]
  | false =>
    rw [hfirst] at hboth
    rw [expire_of_not_due hfirst]
    unfold expire
    rw [hboth, Bool.false_or]

theorem expire_eq_self_iff {g : Grant} {t : Instant} : g.expire t = g ↔ g.isDue t = false := by
  constructor
  · intro h
    by_contra hdue
    rw [Bool.not_eq_false] at hdue
    have hstatus : g.status = .expired := by
      rw [← h, expire_of_due hdue]
    rw [(isDue_iff.mp hdue).1] at hstatus
    cases hstatus
  · exact expire_of_not_due

theorem expire_used (g : Grant) (now t : Instant) : (g.used now).expire t = g.used now :=
  expire_of_not_due rfl

/-- **A grant lapses or stays as it is**: its status changes if it is active and its expiry date has
passed, and nothing else of it. -/
def Lapses (t : Instant) (g g' : Grant) : Prop :=
  if g.status = .active ∧ ∃ expiryDate, g.expiryDate = some expiryDate ∧ expiryDate < t then
    g' = { g with status := .expired }
  else g' = g

theorem lapses_expire (g : Grant) (t : Instant) : g.Lapses t (g.expire t) := by
  unfold Lapses
  split_ifs with hdue
  · exact expire_of_due (isDue_iff.mpr hdue)
  · exact expire_of_not_due (Bool.eq_false_iff.mpr fun h => hdue (isDue_iff.mp h))

end Grant

/-! ### All grants -/

/-- What two runs count adds up: a row is counted by the first, or is still there for the second. -/
theorem countP_isDue_add (rows : List Grant) (t₁ t₂ : Instant) :
    rows.countP (·.isDue t₁) + (rows.map (·.expire t₁)).countP (·.isDue t₂) =
      rows.countP (·.isDue (max t₁ t₂)) := by
  induction rows with
  | nil => rfl
  | cons g rest ih =>
    have hlater := g.isDue_expire t₁ t₂
    have hboth := g.isDue_max t₁ t₂
    have hone : ∀ a b : Bool, (if a then 1 else 0) + (if (!a && b) then 1 else 0) =
        if (a || b) then 1 else 0 := by decide
    have hfirst := hone (g.isDue t₁) (g.isDue t₂)
    rw [List.map_cons, List.countP_cons, List.countP_cons, List.countP_cons, hlater, hboth]
    omega

namespace Books

/-- **Expiry at two times** comes to expiry at the later of them, with the sum of the counts. -/
theorem expireGrants_expireGrants (books : Books) (t₁ t₂ : Instant) :
    ((books.expireGrants t₁).books.expireGrants t₂).books =
        (books.expireGrants (max t₁ t₂)).books ∧
      (books.expireGrants t₁).answer + ((books.expireGrants t₁).books.expireGrants t₂).answer =
        (books.expireGrants (max t₁ t₂)).answer := by
  constructor
  · have hrows : (books.grants.rows.map (·.expire t₁)).map (·.expire t₂) =
        books.grants.rows.map (·.expire (max t₁ t₂)) := by
      rw [List.map_map]
      exact List.map_congr_left fun g _ => g.expire_expire t₁ t₂
    show ({ books with grants := { books.grants with
      rows := (books.grants.rows.map (·.expire t₁)).map (·.expire t₂) } } : Books) = _
    rw [hrows]
    rfl
  · exact countP_isDue_add books.grants.rows t₁ t₂

theorem find?_expireGrants (books : Books) (id : Id) (t : Instant) :
    (books.expireGrants t).books.grants.find? id =
      (books.grants.find? id).map (·.expire t) := by
  have hid (g : Grant) : Row.id (g.expire t) = Row.id g := g.id_expire t
  unfold Table.find? expireGrants
  simp only [List.find?_map, Function.comp_def, hid]

theorem put_used_expireGrants (books : Books) (g : Grant) (now t : Instant) :
    (({ books with grants := books.grants.put (g.used now) } : Books).expireGrants t).books =
      { (books.expireGrants t).books with
        grants := (books.expireGrants t).books.grants.put (g.used now) } := by
  have hid (row : Grant) : Row.id (row.expire t) = Row.id row := row.id_expire t
  have hrows : ((books.grants.put (g.used now)).rows.map (·.expire t)) =
      ((books.expireGrants t).books.grants.put (g.used now)).rows := by
    simp only [Table.put, Table.rows_modify, expireGrants, List.map_map]
    refine List.map_congr_left fun row _ => ?_
    simp only [Function.comp_apply, hid]
    split_ifs with hsame
    · exact g.expire_used now t
    · rfl
  show ({ books with grants := { books.grants.put (g.used now) with
    rows := (books.grants.put (g.used now)).rows.map (·.expire t) } } : Books) = _
  rw [hrows]
  rfl

/-- **A use after expiry** is refused if it is refused before, and otherwise leaves what it leaves
before. Only the reason of a refusal may have changed: a grant that has passed its date is expired
by now. -/
theorem useGrant_expireGrants (books : Books) (id : Id) (caller : String) (t : Instant) :
    (books.expireGrants t).books.useGrant id caller t =
      match books.useGrant id caller t with
      | .ok o => .ok { o with books := (o.books.expireGrants t).books }
      | .error (.refused .grantExpired) => Failure.refuse .grantNotUsable
      | .error failure => .error failure := by
  unfold useGrant findGrant
  rw [find?_expireGrants]
  cases hfound : books.grants.find? id with
  | none => rfl
  | some g =>
    dsimp only [Option.map_some]
    have howner : (g.expire t).userId = g.userId := by
      unfold Grant.expire
      split_ifs <;> rfl
    by_cases huser : g.userId = caller
    · by_cases hactive : g.status = .active
      · cases hpast : g.isPast t with
        | true =>
          -- what has passed its date has expired
          have hdue : g.isDue t = true := by
            unfold Grant.isDue
            rw [hactive, hpast]
            rfl
          have hexpired : (g.expire t).status = .expired := by rw [Grant.expire_of_due hdue]
          simp [howner, huser, hactive, hexpired, Failure.refuse]
        | false =>
          have hdue : g.isDue t = false := by
            unfold Grant.isDue
            rw [hpast, Bool.and_false]
          rw [Grant.expire_of_not_due hdue]
          simp [huser, hactive, hpast, put_used_expireGrants]
      · have hdue : g.isDue t = false := by simp [Grant.isDue, hactive]
        rw [Grant.expire_of_not_due hdue]
        simp [huser, hactive, Failure.refuse]
    · simp [howner, huser, Failure.refuse]

end Books

/-- **The grants that are due lapse**: as many as are counted get another status, and nothing else
of the database changes. -/
structure Database.Lapses (t : Instant) (db : Database) (n : Nat) (after : Database) : Prop where
  grants_lapse : List.Forall₂ (Grant.Lapses t) db.books.grants.rows after.books.grants.rows
  count_eq : n = ((db.books.grants.rows.zip after.books.grants.rows).filter fun (g, g') =>
    g.status ≠ g'.status).length
  added_eq : after.books.grants.added = db.books.grants.added
  books_eq : after.books = { db.books with grants := after.books.grants }
  journal_eq : after.journal = db.journal

theorem Grant.countP_isDue_eq (rows : List Grant) (t : Instant) :
    rows.countP (·.isDue t) = ((rows.zip (rows.map (·.expire t))).filter fun (g, g') =>
      g.status ≠ g'.status).length := by
  induction rows with
  | nil => rfl
  | cons g rest ih =>
    rw [List.countP_cons, ih, List.map_cons, List.zip_cons_cons, List.filter_cons]
    cases hdue : g.isDue t with
    | false => simp [expire_of_not_due hdue]
    | true =>
      have hactive : g.status = .active := (isDue_iff.mp hdue).1
      simp [expire_of_due hdue, hactive]

namespace Action

/-! ### In the database -/

variable (s : Session) (db : Database) (t : Instant)

theorem expireGrants_perform : (expireGrants (some t)).perform s db =
    .ok (.count (db.books.expireGrants t).answer,
      { db with books := (db.books.expireGrants t).books }) := rfl

theorem expireGrants_lapses :
    db.Lapses t (db.books.expireGrants t).answer
      { db with books := (db.books.expireGrants t).books } where
  grants_lapse := by
    show List.Forall₂ _ db.books.grants.rows (db.books.grants.rows.map (·.expire t))
    rw [List.forall₂_map_right_iff]
    exact List.forall₂_same.mpr fun g _ => g.lapses_expire t
  count_eq := Grant.countP_isDue_eq db.books.grants.rows t
  added_eq := rfl
  books_eq := rfl
  journal_eq := rfl

/-- A use that goes well can be told from the grant: it is the caller's, and it is not due. -/
theorem useGrant_succeeds_iff {id : Id} {g : Grant} (hfound : db.books.grants.find? id = some g)
    (hactive : g.status = .active) :
    (∃ success, (useGrant id g.userId (some t)).perform s db = .ok success) ↔
      g.isDue t = false := by
  have hpast : g.isDue t = g.isPast t := by
    unfold Grant.isDue
    simp [hactive]
  have huse : db.books.useGrant id g.userId t =
      if g.isPast t then Failure.refuse .grantExpired
      else .ok
        { answer := g.used t
          books := { db.books with grants := db.books.grants.put (g.used t) }
          notes := [Books.rewardUsed g g.userId] } := by
    simp [Books.useGrant, Books.findGrant, hfound, hactive]
  rw [hpast]
  unfold perform
  simp only [Option.getD_some, huse]
  cases g.isPast t <;> simp [settle, Failure.refuse]

end Action

theorem Moment.after_call_eq {s : Session} {action : Action} {db after : Database} {reply : Reply}
    (h : action.perform s db = .ok (reply, after)) :
    (⟨s, .call action⟩ : Moment).after db = after := by
  unfold Moment.after
  dsimp only
  rw [h]

/-- A use is refused for the same reason, or for being past its date before expiry and for not being
active after it. -/
def Refusal.Matches (before after : Refusal) : Prop :=
  after = before ∨ before = .grantExpired ∧ after = .grantNotUsable

theorem Refusal.Matches.kind_eq {before after : Refusal} (h : before.Matches after) :
    after.kind = before.kind := by
  rcases h with rfl | ⟨rfl, rfl⟩ <;> rfl

/-- **A use before and after expiry** at its time: both succeed, or both are refused. -/
theorem Books.useGrant_cases (books : Books) (id : Id) (caller : String) (t : Instant) :
    (∃ o, books.useGrant id caller t = .ok o ∧
      (books.expireGrants t).books.useGrant id caller t =
        .ok { o with books := (o.books.expireGrants t).books }) ∨
    ∃ before after : Refusal, before.Matches after ∧
      books.useGrant id caller t = .error (.refused before) ∧
      (books.expireGrants t).books.useGrant id caller t = .error (.refused after) := by
  have hafter := books.useGrant_expireGrants id caller t
  cases huse : books.useGrant id caller t with
  | ok o =>
    rw [huse] at hafter
    exact Or.inl ⟨o, rfl, hafter⟩
  | error failure =>
    rw [huse] at hafter
    obtain ⟨refusal, rfl⟩ : ∃ refusal, failure = .refused refusal := by
      unfold useGrant findGrant Failure.refuse at huse
      split at huse
      · next hfind =>
        split at hfind
        · cases hfind
        · cases hfind
          cases huse
          exact ⟨_, rfl⟩
      · split_ifs at huse <;> cases huse <;> exact ⟨_, rfl⟩
    refine Or.inr ⟨refusal, ?_⟩
    by_cases hexpired : refusal = .grantExpired
    · subst hexpired
      exact ⟨.grantNotUsable, Or.inr ⟨rfl, rfl⟩, rfl, hafter⟩
    · refine ⟨refusal, Or.inl rfl, rfl, ?_⟩
      rw [hafter]
      split
      · next heq => cases heq
      · next heq =>
        cases heq
        exact absurd rfl hexpired
      · next heq => exact heq.symm

/-- **Expiry and use.** In every database, expiry at one time and then at another leaves what expiry
at the later time leaves, and the counts add up. So a repeated run counts nothing, and runs may
change places. A run changes the status of as many grants as it counts, and nothing else, and the
scheduler does the same. The owner of an active grant can use it if and only if expiry at that time
leaves it alone. And whoever uses whichever grant, a use and expiry at its time may change places:
the database is the same in the end, a use that succeeds has the same answer, and one that is
refused is refused all the same. -/
theorem expiry_algebra (db : Database) :
    (∀ (s₁ s₂ s : Session) (t₁ t₂ : Instant), ∃ n₁ n₂ first second,
      (Action.expireGrants (some t₁)).perform s₁ db = .ok (.count n₁, first) ∧
      (Action.expireGrants (some t₂)).perform s₂ first = .ok (.count n₂, second) ∧
      (Action.expireGrants (some (max t₁ t₂))).perform s db = .ok (.count (n₁ + n₂), second)) ∧
    (∀ (s₁ s₂ : Session) (t₁ t₂ : Instant),
      let first : Moment := ⟨s₁, .call (.expireGrants (some t₁))⟩
      let second : Moment := ⟨s₂, .call (.expireGrants (some t₂))⟩
      db.after [first, second] = db.after [second, first]) ∧
    (∀ (s s' : Session) (t : Instant), ∃ n after,
      (Action.expireGrants (some t)).perform s db = .ok (.count n, after) ∧
      db.Lapses t n after ∧
      (Action.expireGrants (some t)).perform s' after = .ok (.count 0, after) ∧
      Scheduler.runOnce true db t = (.ran n t, after) ∧
      ∀ id g, db.books.grants.find? id = some g → g.status = .active →
        ((∃ success, (Action.useGrant id g.userId (some t)).perform s db = .ok success) ↔
          after.books.grants.find? id = some g)) ∧
    ∀ (s s' : Session) (id : Id) (caller : String) (t : Instant),
      let use := Action.useGrant id caller (some t)
      let expiry : Moment := ⟨s', .call (.expireGrants (some t))⟩
      db.after [⟨s, .call use⟩, expiry] = db.after [expiry, ⟨s, .call use⟩] ∧
      ((∃ reply after after', use.perform s db = .ok (reply, after) ∧
        use.perform s (expiry.after db) = .ok (reply, after')) ∨
      ∃ refusal refusal' : Refusal, use.perform s db = .error (.refused refusal) ∧
        use.perform s (expiry.after db) = .error (.refused refusal') ∧
        refusal'.kind = refusal.kind ∧ refusal.Matches refusal') := by
  refine ⟨fun s₁ s₂ s t₁ t₂ => ?_, fun s₁ s₂ t₁ t₂ => ?_, fun s s' t => ?_,
    fun s s' id caller t => ?_⟩
  · obtain ⟨hbooks, hcount⟩ := db.books.expireGrants_expireGrants t₁ t₂
    refine ⟨_, _, _, _, rfl, rfl, ?_⟩
    rw [Action.expireGrants_perform, ← hbooks, ← hcount]
    rfl
  · have hforth := (db.books.expireGrants_expireGrants t₁ t₂).1
    have hback := (db.books.expireGrants_expireGrants t₂ t₁).1
    rw [Instant.max_comm, ← hforth] at hback
    show ({ db with books := ((db.books.expireGrants t₁).books.expireGrants t₂).books } : Database) =
      { db with books := ((db.books.expireGrants t₂).books.expireGrants t₁).books }
    rw [hback]
  · obtain ⟨hbooks, hcount⟩ := db.books.expireGrants_expireGrants t t
    rw [Instant.max_self] at hbooks hcount
    have hnone : ((db.books.expireGrants t).books.expireGrants t).answer = 0 := by omega
    refine ⟨_, { db with books := (db.books.expireGrants t).books }, rfl,
      Action.expireGrants_lapses db t, ?_, rfl, fun id g hfound hactive => ?_⟩
    · rw [Action.expireGrants_perform]
      dsimp only
      rw [hbooks, hnone]
    · rw [Action.useGrant_succeeds_iff s db t hfound hactive, Books.find?_expireGrants, hfound,
        Option.map_some, Option.some.injEq, Grant.expire_eq_self_iff]
  · have hexpiry (before : Database) : (⟨s', .call (.expireGrants (some t))⟩ : Moment).after before =
        { before with books := (before.books.expireGrants t).books } := rfl
    simp only [Database.after_cons, Database.after_nil, hexpiry]
    rcases db.books.useGrant_cases id caller t with
      ⟨o, hbefore, hafter⟩ | ⟨refusal, refusal', hmatches, hbefore, hafter⟩
    · have hfirst : (Action.useGrant id caller (some t)).perform s db =
          .ok (.grant o.answer, db.commit s o) :=
        congrArg (Action.settle s db .grant) hbefore
      have hsecond : (Action.useGrant id caller (some t)).perform s
          { db with books := (db.books.expireGrants t).books } =
            .ok (.grant o.answer, { db.commit s o with books := (o.books.expireGrants t).books }) :=
        congrArg (Action.settle s { db with books := (db.books.expireGrants t).books } .grant) hafter
      refine ⟨?_, Or.inl ⟨_, _, _, hfirst, hsecond⟩⟩
      rw [Moment.after_call_eq hfirst, Moment.after_call_eq hsecond]
      rfl
    · have hfirst : (Action.useGrant id caller (some t)).perform s db = .error (.refused refusal) :=
        congrArg (Action.settle s db .grant) hbefore
      have hsecond : (Action.useGrant id caller (some t)).perform s
          { db with books := (db.books.expireGrants t).books } = .error (.refused refusal') :=
        congrArg (Action.settle s { db with books := (db.books.expireGrants t).books } .grant) hafter
      refine ⟨?_, Or.inr ⟨_, _, hfirst, hsecond, hmatches.kind_eq, hmatches⟩⟩
      rw [Moment.after_call_eq_self hfirst, Moment.after_call_eq_self hsecond]

/-- An active grant with an expiry date. -/
def datedGrant : Grant :=
  { (default : Grant) with id := ⟨1⟩, userId := "ann", status := .active, expiryDate := some ⟨5000000⟩ }

/-- On its expiry date a grant can still be used, and a microsecond later it cannot. -/
theorem expiry_algebra_datedGrant :
    let db : Database := { books := { grants := { rows := [datedGrant], added := 1 } } }
    let use (t : Instant) := (Action.useGrant ⟨1⟩ "ann" (some t)).perform { clock := t } db
    (∃ success, use ⟨5000000⟩ = .ok success) ∧ ¬∃ success, use ⟨5000001⟩ = .ok success := by
  intro db use
  have hline (t : Instant) : (∃ success, use t = .ok success) ↔
      (db.books.expireGrants t).books.grants.find? ⟨1⟩ = some datedGrant := by
    obtain ⟨n, after, hexpiry, -, -, -, huse⟩ := (expiry_algebra db).2.2.1 { clock := t } { clock := t } t
    cases hexpiry
    exact huse ⟨1⟩ datedGrant rfl rfl
  refine ⟨(hline _).mpr rfl, fun h => ?_⟩
  have hstatus := congrArg (Option.map Grant.status) ((hline _).mp h)
  have hexpired : ((db.books.expireGrants ⟨5000001⟩).books.grants.find? ⟨1⟩).map Grant.status =
      some .expired := rfl
  rw [hexpired] at hstatus
  cases hstatus

end Promotions
