import Mathlib.Data.List.Induction
import Promotions.Proofs.Admission
import Promotions.Proofs.Presenting

/-!
# Wanted rewards as an ordered set

A list of wanted rewards is read one by one, and what is read is gathered: it is added at the end
unless it is there (`Id.gatherEach`). The list that comes out holds what was read, each at its first
place (`Id.IsGathered`); one step keeps that, so that it holds along the list, and there is one such
list only (`Id.IsGathered.unique`).

Whether something is there is asked of identifiers and not of texts, and an identifier has many
texts (`Id.IsSpelledBy`): its digits may be of either case, in groups or not, after `urn:uuid:` or
between braces. All of them are read as that identifier (`Id.IsSpelledBy.parse_eq_ok`), so that they
may stand for one another. A request keeps the canonical ones (`Id.IsCanonical`), which are read
back as what they were written for.
-/

namespace Promotions

namespace Id

/-! ### Texts of an identifier -/

/-- The digits of an identifier, each of them in either case. -/
def InEitherCase (digits : List Char) (id : Id) : Prop :=
  List.Forall₂ (fun c d => c = d ∨ c = d.toUpper) digits id.digits

/-- **A text spells an identifier**: by its digits in either case, as they are or in their groups,
and alone, after `urn:uuid:` or between braces. -/
def IsSpelledBy (id : Id) (text : String) : Prop :=
  ∃ digits, InEitherCase digits id ∧ ∃ body ∈ [digits, grouped digits],
    text ∈ [String.ofList body, String.ofList ("urn:uuid:".toList ++ body),
      String.ofList ('{' :: body ++ ['}'])]

/-- **A canonical text**: groups of 8, 4, 4, 4 and 12 hexadecimal digits, in lower case, with a dash
between them. -/
def IsCanonical (text : String) : Prop :=
  ∃ groups : List (List Char), groups.map List.length = [8, 4, 4, 4, 12] ∧
    (∀ group ∈ groups, ∀ c ∈ group, c ∈ "0123456789abcdef".toList) ∧
    text.toList = List.intercalate ['-'] groups

theorem isDigitOf_toUpper {d : Nat} (hd : d < 16) : IsDigitOf d.digitChar.toUpper d := by
  constructor
  · interval_cases d <;> constructor <;> decide
  · interval_cases d <;> decide

theorem InEitherCase.exists_values {id : Id} {digits : List Char} (h : InEitherCase digits id) :
    ∃ values, values ≠ [] ∧ ofValues values = id.val ∧ List.Forall₂ IsDigitOf digits values := by
  obtain ⟨values, hlt, hne, hdigits, hvalue⟩ := hexPadded_eq 32 id.val
  refine ⟨values, hne, hvalue, ?_⟩
  unfold InEitherCase at h
  rw [Id.digits, hdigits, digitsOf, List.forall₂_map_right_iff] at h
  clear hdigits hne hvalue
  induction h with
  | nil => exact .nil
  | @cons c d _ _ hcase _ ih =>
    have hd := hlt d List.mem_cons_self
    refine .cons ?_ (ih fun e he => hlt e (List.mem_cons_of_mem d he))
    rcases hcase with rfl | rfl
    · exact ⟨isPlain_digitChar hd, hexDigit?_digitChar hd⟩
    · exact isDigitOf_toUpper hd

/-- **Every spelling is read** as the identifier that it spells. -/
theorem IsSpelledBy.parse_eq_ok {id : Id} {text : String} (h : id.IsSpelledBy text)
    (hid : id.IsSpelled) : parse text = .ok id := by
  obtain ⟨digits, hcase, body, hbody, htext⟩ := h
  obtain ⟨values, hne, hvalue, hdigits⟩ := hcase.exists_values
  have hundecorated : undecorated text.toList = digits := by
    refine undecorated_of_mem (isPlain_of_forall₂ hdigits) hbody ?_
    simp only [List.mem_cons, List.not_mem_nil, or_false] at htext ⊢
    rcases htext with rfl | rfl | rfl <;> simp
  have hlength : digits.length = 32 :=
    hcase.length_eq.trans (length_digits (isSpelled_iff.mp hid))
  unfold parse
  simp only [hundecorated]
  rw [if_pos hlength, hexadecimal?_of_forall₂ hdigits hne, hvalue]

theorem isCanonical_text {id : Id} (h : id.IsSpelled) : IsCanonical id.text := by
  obtain ⟨values, hlt, -, hdigits, -⟩ := hexPadded_eq 32 id.val
  have hlength : id.digits.length = 32 := length_digits (isSpelled_iff.mp h)
  have hlower : ∀ c ∈ id.digits, c ∈ "0123456789abcdef".toList := by
    intro c hc
    rw [digits, hdigits] at hc
    obtain ⟨d, hd, rfl⟩ := List.mem_map.mp hc
    have hlt := hlt d hd
    interval_cases d <;> decide
  refine ⟨[id.digits.take 8, (id.digits.drop 8).take 4, (id.digits.drop 12).take 4,
    (id.digits.drop 16).take 4, id.digits.drop 20], by simp [hlength], ?_, ?_⟩
  · intro group hgroup c hc
    refine hlower c ?_
    simp only [List.mem_cons, List.not_mem_nil, or_false] at hgroup
    rcases hgroup with rfl | rfl | rfl | rfl | rfl
    · exact List.mem_of_mem_take hc
    · exact List.mem_of_mem_drop (List.mem_of_mem_take hc)
    · exact List.mem_of_mem_drop (List.mem_of_mem_take hc)
    · exact List.mem_of_mem_drop (List.mem_of_mem_take hc)
    · exact List.mem_of_mem_drop hc
  · simp [text, grouped, List.intercalate, List.intersperse]

/-! ### Gathering -/

/-- One step: an identifier is added at the end unless it is there. -/
def gather (ids : List Id) (id : Id) : List Id := if id ∈ ids then ids else ids ++ [id]

/-- The loop over the spellings: each of them is read, and what it means is gathered. -/
def gatherEach (ids : List Id) : List IdSpelling → Except IdFault (List Id)
  | [] => .ok ids
  | spelling :: rest =>
    match spelling.resolve with
    | .error fault => .error fault
    | .ok id => gatherEach (gather ids id) rest

/-- **A list that is gathered** from what was found: it holds that, each at its first place. -/
structure IsGathered (found ids : List Id) : Prop where
  nodup : ids.Nodup
  mem_iff : ∀ id, id ∈ ids ↔ id ∈ found
  ordered : ids.Pairwise fun a b => found.idxOf a < found.idxOf b

theorem isGathered_nil : IsGathered [] [] where
  nodup := .nil
  mem_iff _ := Iff.rfl
  ordered := .nil

theorem IsGathered.gather {found ids : List Id} (h : IsGathered found ids) (id : Id) :
    IsGathered (found ++ [id]) (gather ids id) := by
  have hordered : ids.Pairwise fun a b => (found ++ [id]).idxOf a < (found ++ [id]).idxOf b := by
    refine h.ordered.imp_of_mem fun {a b} ha hb hlt => ?_
    rwa [List.idxOf_append_of_mem ((h.mem_iff a).mp ha),
      List.idxOf_append_of_mem ((h.mem_iff b).mp hb)]
  unfold Id.gather
  split_ifs with hid
  · refine ⟨h.nodup, fun other => ?_, hordered⟩
    rw [h.mem_iff, List.mem_append, List.mem_singleton]
    refine ⟨Or.inl, fun hother => hother.elim (fun hmem => hmem) ?_⟩
    rintro rfl
    exact (h.mem_iff _).mp hid
  · have hnew : id ∉ found := fun hfound => hid ((h.mem_iff id).mpr hfound)
    refine ⟨?_, fun other => ?_, ?_⟩
    · refine List.nodup_append.mpr ⟨h.nodup, List.nodup_singleton id, fun a ha b hb => ?_⟩
      rw [List.mem_singleton.mp hb]
      rintro rfl
      exact hid ha
    · rw [List.mem_append, List.mem_append, h.mem_iff]
    · refine List.pairwise_append.mpr ⟨hordered, List.pairwise_singleton _ _, fun a ha b hb => ?_⟩
      have ha := (h.mem_iff a).mp ha
      rw [List.mem_singleton.mp hb, List.idxOf_append_of_mem ha, List.idxOf_append_of_notMem hnew]
      exact Nat.lt_add_right _ (List.idxOf_lt_length_of_mem ha)

/-- **The whole loop.** -/
theorem isGathered_foldl (found : List Id) : IsGathered found (found.foldl gather []) := by
  induction found using List.reverseRecOn with
  | nil => exact isGathered_nil
  | append_singleton found id ih =>
    rw [List.foldl_append]
    exact ih.gather id

theorem IsGathered.unique {found ids others : List Id} (h : IsGathered found ids)
    (hothers : IsGathered found others) : others = ids := by
  refine List.Perm.eq_of_pairwise (fun a b _ _ hab hba => ?_) hothers.ordered h.ordered ?_
  · exact absurd hab (Nat.lt_asymm hba)
  · exact (List.perm_ext_iff_of_nodup hothers.nodup h.nodup).mpr fun id => by
      rw [hothers.mem_iff, h.mem_iff]

theorem isGathered_of_nodup {ids : List Id} (h : ids.Nodup) : IsGathered ids ids where
  nodup := h
  mem_iff _ := Iff.rfl
  ordered := by
    refine List.pairwise_iff_getElem.mpr fun i j hi hj hij => ?_
    rwa [h.idxOf_getElem i hi, h.idxOf_getElem j hj]

/-- **What is gathered later** is what is not there, in the order in which it is gathered alone. -/
theorem foldl_gather_eq (ids found : List Id) :
    found.foldl gather ids = ids ++ (found.foldl gather []).filter (· ∉ ids) := by
  induction found using List.reverseRecOn with
  | nil => simp
  | append_singleton found id ih =>
    rw [List.foldl_append, List.foldl_append, ih]
    simp only [List.foldl_cons, List.foldl_nil, gather]
    by_cases hid : id ∈ ids
    · by_cases hfound : id ∈ found.foldl gather []
      · simp [hid, hfound]
      · simp [hid, hfound]
    · by_cases hfound : id ∈ found.foldl gather []
      · simp [hid, hfound]
      · simp [hid, hfound]

theorem eraseDups_eq_foldl (found : List Id) : found.eraseDups = found.foldl gather [] := by
  induction found using List.reverseRecOn with
  | nil => rfl
  | append_singleton found id ih =>
    rw [List.eraseDups_append, List.foldl_append, ← ih]
    simp only [List.foldl_cons, List.foldl_nil, gather, List.mem_eraseDups]
    split_ifs with hid <;> simp [List.removeAll, hid, List.eraseDups_cons]

theorem gatherEach_eq (ids : List Id) (spellings : List IdSpelling) :
    gatherEach ids spellings =
      (spellings.mapM IdSpelling.resolve).map fun found => found.foldl gather ids := by
  induction spellings generalizing ids with
  | nil => rfl
  | cons spelling rest ih =>
    rw [gatherEach, List.mapM_cons]
    cases spelling.resolve with
    | error fault => rfl
    | ok id =>
      dsimp only
      rw [ih]
      cases rest.mapM IdSpelling.resolve <;> rfl

theorem gatherEach_append {ids gathered : List Id} {first : List IdSpelling}
    (h : gatherEach ids first = .ok gathered) (second : List IdSpelling) :
    gatherEach ids (first ++ second) = gatherEach gathered second := by
  induction first generalizing ids with
  | nil =>
    cases h
    rfl
  | cons spelling rest ih =>
    rw [List.cons_append, gatherEach]
    rw [gatherEach] at h
    cases hread : spelling.resolve with
    | error fault =>
      rw [hread] at h
      cases h
    | ok id =>
      rw [hread] at h
      exact ih h

theorem gatherEach_eq_ok {gathered : List Id} {spellings : List IdSpelling}
    (h : gatherEach [] spellings = .ok gathered) (ids : List Id) :
    gatherEach ids spellings = .ok (ids ++ gathered.filter (· ∉ ids)) := by
  rw [gatherEach_eq] at h ⊢
  cases hread : spellings.mapM IdSpelling.resolve with
  | error fault =>
    rw [hread] at h
    cases h
  | ok found =>
    rw [hread] at h
    cases h
    exact congrArg Except.ok (foldl_gather_eq ids found)

/-- **The list of wanted rewards** is what the loop gathers. -/
theorem orderedUnique_eq_gatherEach (spellings : List IdSpelling) :
    orderedUnique spellings = gatherEach [] spellings := by
  rw [gatherEach_eq]
  unfold orderedUnique
  cases spellings.mapM IdSpelling.resolve with
  | error fault => rfl
  | ok found => exact congrArg Except.ok (eraseDups_eq_foldl found)

/-! ### Lists of texts -/

/-- The wanted rewards of a list of texts. -/
def ofTexts (texts : List String) : Except IdFault (List Id) :=
  orderedUnique (texts.map fun text => .written (.str text))

theorem map_resolve_texts (texts : List String) :
    (texts.map fun text => IdSpelling.written (.str text)).map IdSpelling.resolve =
      texts.map parse := by
  rw [List.map_map]
  rfl

theorem ofTexts_eq_ok {texts : List String} {found : List Id}
    (h : texts.map parse = found.map .ok) : ofTexts texts = .ok (found.foldl gather []) := by
  rw [← map_resolve_texts] at h
  unfold ofTexts
  rw [orderedUnique_eq_gatherEach, gatherEach_eq, mapM_eq_ok_of_map_eq h]
  rfl

theorem exists_found {texts : List String} (h : ∀ text ∈ texts, ∃ id, parse text = .ok id) :
    ∃ found : List Id, texts.map parse = found.map .ok := by
  induction texts with
  | nil => exact ⟨[], rfl⟩
  | cons text rest ih =>
    obtain ⟨id, hid⟩ := h text List.mem_cons_self
    obtain ⟨found, hfound⟩ := ih fun other hother => h other (List.mem_cons_of_mem _ hother)
    exact ⟨id :: found, by rw [List.map_cons, hid, hfound]; rfl⟩

theorem isSpelled_of_ofTexts {texts : List String} {ids : List Id} (h : ofTexts texts = .ok ids)
    {id : Id} (hid : id ∈ ids) : id.IsSpelled := by
  unfold ofTexts at h
  refine isSpelled_of_orderedUnique h (fun known hknown => ?_) hid
  obtain ⟨text, -, htext⟩ := List.mem_map.mp hknown
  cases htext

theorem again_of_nodup {ids : List Id} (hnodup : ids.Nodup) (hspelled : ∀ id ∈ ids, id.IsSpelled) :
    ofTexts (ids.map text) = .ok ids ∧ orderedUnique (ids.map IdSpelling.known) = .ok ids := by
  have hself : ids.foldl gather [] = ids :=
    (isGathered_of_nodup hnodup).unique (isGathered_foldl ids)
  have htexts : (ids.map text).map parse = ids.map .ok := by
    rw [List.map_map]
    refine List.map_congr_left fun id hid => ?_
    rw [Function.comp_apply, parse_text (isSpelled_iff.mp (hspelled id hid))]
  constructor
  · rw [ofTexts_eq_ok htexts, hself]
  · rw [orderedUnique_eq_ok (by rw [List.map_map]; rfl), eraseDups_eq_foldl, hself]

theorem ofTexts_congr {texts others : List String} (h : others.map parse = texts.map parse) :
    ofTexts others = ofTexts texts := by
  have hread (texts : List String) :
      (texts.map fun text => IdSpelling.written (.str text)).mapM IdSpelling.resolve =
        (texts.map parse).mapM fun read => read := by
    rw [List.mapM_map, List.mapM_map]
    rfl
  unfold ofTexts orderedUnique
  rw [hread, hread, h]

end Id

open Books

/-- **A request that is made** keeps the canonical texts of its rewards, and is read back. -/
theorem createRequest_keeps_texts {db after : Database} (hbooks : db.books.Numbered) {s : Session}
    {eventId : Id} {spellings : List IdSpelling} {userId : String} {verificationData : Json}
    {time : Option Instant} {rival : Option Claim} {reply : Reply}
    (hknown : ∀ id, IdSpelling.known id ∈ spellings → id.IsSpelled)
    (h : (Action.createRequest eventId spellings userId verificationData time rival).perform s db =
      .ok (reply, after)) :
    ∃ ids request, Id.orderedUnique spellings = .ok ids ∧ reply = .request request ∧
      request ∈ after.books.requests.rows ∧
      request.rewardIds = .arr (ids.map fun id => .str id.text) ∧
      (∀ id ∈ ids, Id.IsCanonical id.text ∧ Id.parse id.text = .ok id) ∧
      request.wanted = .ok ids := by
  obtain ⟨o, ho, hreply, hafter⟩ := Action.settle_eq_ok h
  obtain ⟨hmem, event, ids, hadmitted, hcontinues⟩ := createRequest_answer hbooks ho
  have hspells : o.answer.Spells ids := RewardRequest.Spells.continues
    ⟨rfl, Id.nodup_of_orderedUnique hadmitted.resolved, hadmitted.nonempty⟩ hcontinues
  have hspelled : ∀ id ∈ ids, id.IsSpelled := fun id hid =>
    Id.isSpelled_of_orderedUnique hadmitted.resolved hknown hid
  refine ⟨ids, o.answer, hadmitted.resolved, hreply, hafter ▸ hmem, hspells.rewardIds_eq,
    fun id hid => ⟨Id.isCanonical_text (hspelled id hid), ?_⟩, hspells.wanted_eq_ok hspelled⟩
  exact Id.parse_text (Id.isSpelled_iff.mp (hspelled id hid))

/-- **Wanted rewards are ordered sets.** Every list of texts that can be read gives the identifiers
that they are read as, without repetition, just these, in the order in which they occur first. Its
result, given again as texts or as identifiers, gives itself. A text may be replaced by any other
that is read alike, and all spellings of an identifier are: its digits in either case, in groups or
not, after `urn:uuid:` or between braces. Two lists one after the other give the result of the
first, followed by what the second alone gives and the first does not. A request that is made is
stored with the canonical texts of its list, lower-case and with dashes, from which the list is read
back. -/
theorem wanted_lists_are_ordered_sets :
    (∀ texts : List String, (∀ text ∈ texts, ∃ id, Id.parse text = .ok id) →
      ∃ found ids : List Id, texts.map Id.parse = found.map .ok ∧ Id.ofTexts texts = .ok ids ∧
        (ids.Nodup ∧ (∀ id, id ∈ ids ↔ id ∈ found) ∧
          ids.Pairwise fun a b => found.idxOf a < found.idxOf b) ∧
        Id.ofTexts (ids.map Id.text) = .ok ids ∧
        Id.orderedUnique (ids.map IdSpelling.known) = .ok ids) ∧
    (∀ before after : List String, ∀ text other id, Id.parse text = .ok id →
      Id.parse other = .ok id →
        Id.ofTexts (before ++ other :: after) = Id.ofTexts (before ++ text :: after)) ∧
    (∀ id text, Id.IsSpelled id → Id.IsSpelledBy id text → Id.parse text = .ok id) ∧
    (∀ first second firstIds secondIds, Id.ofTexts first = .ok firstIds →
      Id.ofTexts second = .ok secondIds →
        Id.ofTexts (first ++ second) =
          .ok (firstIds ++ secondIds.filter fun id => id ∉ firstIds)) ∧
    ∀ (db after : Database) s eventId spellings userId verificationData time rival reply,
      db.books.Numbered → (∀ id, IdSpelling.known id ∈ spellings → id.IsSpelled) →
      (Action.createRequest eventId spellings userId verificationData time rival).perform s db =
        .ok (reply, after) →
      ∃ ids request, Id.orderedUnique spellings = .ok ids ∧ reply = .request request ∧
        request ∈ after.books.requests.rows ∧
        request.rewardIds = .arr (ids.map fun id => .str id.text) ∧
        (∀ id ∈ ids, Id.IsCanonical id.text ∧ Id.parse id.text = .ok id) ∧
        request.wanted = .ok ids := by
  refine ⟨fun texts hread => ?_, fun before after text other id htext hother => ?_,
    fun id text hid htext => htext.parse_eq_ok hid,
    fun first second firstIds secondIds hfirst hsecond => ?_,
    fun db after s eventId spellings userId verificationData time rival reply hbooks hknown h =>
      createRequest_keeps_texts hbooks hknown h⟩
  · obtain ⟨found, hfound⟩ := Id.exists_found hread
    have hids := Id.ofTexts_eq_ok hfound
    have hgathered := Id.isGathered_foldl found
    obtain ⟨htexts, hknown⟩ := Id.again_of_nodup hgathered.nodup fun id hid =>
      Id.isSpelled_of_ofTexts hids hid
    exact ⟨found, _, hfound, hids, ⟨hgathered.nodup, hgathered.mem_iff, hgathered.ordered⟩, htexts,
      hknown⟩
  · exact Id.ofTexts_congr (by simp [htext, hother])
  · unfold Id.ofTexts at *
    rw [Id.orderedUnique_eq_gatherEach] at *
    rw [List.map_append, Id.gatherEach_append hfirst]
    exact Id.gatherEach_eq_ok hsecond firstIds

/-- Upper-case digits between braces spell what the canonical text does, and a user who asks for one
reward twice has a request for it once. -/
theorem wanted_lists_are_ordered_sets_askingTwice :
    Id.ofTexts [Id.text ⟨10⟩, "{00000000-0000-0000-0000-00000000000A}", Id.text ⟨11⟩] =
      .ok [⟨10⟩, ⟨11⟩] ∧
    ∃ request after, (askingTwice "bob").perform { clock := ⟨4000000⟩ }
        (Database.empty.after offeringOne) = .ok (.request request, after) ∧
      request.rewardIds = .arr [.str ({} : Table Reward).nextId.text] ∧
      request.wanted = .ok [({} : Table Reward).nextId] := by
  obtain ⟨-, hreplace, hspelling, hlater, hmade⟩ := wanted_lists_are_ordered_sets
  constructor
  · have hspelled : Id.IsSpelled ⟨10⟩ := Id.isSpelled_iff.mpr (by decide)
    have hupper : Id.parse "{00000000-0000-0000-0000-00000000000A}" = .ok ⟨10⟩ := by
      refine hspelling ⟨10⟩ _ hspelled ⟨"0000000000000000000000000000000A".toList, ?_, _,
        List.mem_cons_of_mem _ List.mem_cons_self, ?_⟩
      · unfold Id.InEitherCase
        decide +kernel
      · decide +kernel
    have htext : Id.parse (Id.text ⟨10⟩) = .ok ⟨10⟩ := Id.parse_text (Id.isSpelled_iff.mp hspelled)
    have hboth : Id.ofTexts [Id.text ⟨10⟩, "{00000000-0000-0000-0000-00000000000A}"] = .ok [⟨10⟩] :=
      (hreplace [Id.text ⟨10⟩] [] (Id.text ⟨10⟩) _ ⟨10⟩ htext hupper).trans (by decide +kernel)
    exact hlater _ _ _ _ hboth (by decide +kernel : Id.ofTexts [Id.text ⟨11⟩] = .ok [⟨11⟩])
  · have hok : ((askingTwice "bob").perform { clock := ⟨4000000⟩ }
        (Database.empty.after offeringOne)).isOk = true := by decide +kernel
    cases hperform : (askingTwice "bob").perform { clock := ⟨4000000⟩ }
        (Database.empty.after offeringOne) with
    | error failure =>
      rw [hperform] at hok
      cases hok
    | ok success =>
      obtain ⟨reply, after⟩ := success
      have hknown : ∀ id, IdSpelling.known id ∈ [IdSpelling.known ({} : Table Reward).nextId,
          .written (.str ({} : Table Reward).nextId.text)] → id.IsSpelled := by
        intro id hid
        simp only [List.mem_cons, IdSpelling.known.injEq, List.not_mem_nil, or_false,
          reduceCtorEq] at hid
        rw [hid]
        exact Id.isSpelled_iff.mpr (by decide)
      obtain ⟨ids, request, hids, rfl, -, hkept, -, hwanted⟩ := hmade _ _ _ _ _ _ _ _ _ _
        (Database.numbered_after Books.numbered_empty offeringOne) hknown hperform
      have hone : Id.orderedUnique [.known ({} : Table Reward).nextId,
          .written (.str ({} : Table Reward).nextId.text)] =
            .ok [({} : Table Reward).nextId] := by decide +kernel
      rw [hone] at hids
      cases hids
      exact ⟨request, after, rfl, hkept, hwanted⟩

end Promotions
