import MediaQuery.Proofs.Query.Keyword
import MediaQuery.Proofs.Query.Test

/-!
# Clauses

`readQuery` reads a clause as the grammar does, `queryOf_iff`. The parts are read one after the
other: the keyword and the media type or the group, `headOf_iff`, the tail, `tailOf_iff`, and the
groups, `testsOf_iff`. Outer gaps are never met, since the text of a clause is trimmed.
-/

namespace MediaQuery.Grammar

open Text Query

variable {cs rest : List Char}

/-! ### The head of a clause -/

theorem keyword?_not_iff :
    keyword? "not" continuesHead cs = some rest ↔ Keyword "not" HeadChar cs rest :=
  keyword?_eq_some_iff (by decide) fun _ => takenFor_headChar_iff

theorem keyword?_only_iff :
    keyword? "only" continuesHead cs = some rest ↔ Keyword "only" HeadChar cs rest :=
  keyword?_eq_some_iff (by decide) fun _ => takenFor_headChar_iff

theorem keyword?_and_iff :
    keyword? "and" continuesAnd cs = some rest ↔ Keyword "and" AndChar cs rest :=
  keyword?_eq_some_iff (by decide) fun _ => takenFor_andChar_iff

/-- What a keyword starts with in lower case is the first letter of its word. -/
theorem Keyword.head?_eq {word : String} {chars : Char → Prop} (h : Keyword word chars cs rest)
    (hne : word.toList ≠ []) : cs.head?.map Char.toLower = word.toList.head? := by
  obtain ⟨w, rfl, hw, -⟩ := h
  rw [← hw] at hne ⊢
  cases w with
  | nil => exact absurd rfl hne
  | cons c w => rfl

theorem Keyword.suffix {word : String} {chars : Char → Prop} (h : Keyword word chars cs rest) :
    rest <:+ cs := by
  obtain ⟨w, rfl, -⟩ := h
  exact List.suffix_append w rest

/-- No text starts with both keywords. -/
theorem not_keyword_only_of_not {rest' : List Char} (h : Keyword "not" HeadChar cs rest) :
    ¬ Keyword "only" HeadChar cs rest' := by
  intro h'
  have hn := h.head?_eq (by decide)
  have ho := h'.head?_eq (by decide)
  rw [hn] at ho
  exact absurd ho (by decide)

/-- The optional keyword, for a media type that does not start with a gap. -/
theorem lead_iff (htab : '\t' ∉ cs) (hhead : ∀ c ∈ cs.head?, ¬ isGap c) {inverse : Bool}
    {named : List Char} (hnamed : ∀ c ∈ named.head?, ¬ isGap c) :
    Lead cs inverse named ↔
      (readKeyword cs).1 = inverse ∧ skipGaps (readKeyword cs).2 = named := by
  have htail : ∀ {word : String} {chars : Char → Prop} {r : List Char}, Keyword word chars cs r →
      ∃ gap, Gap gap ∧ r = gap ++ skipGaps r := fun h =>
    exists_gap fun hm => htab (h.suffix.subset hm)
  constructor
  · rintro (⟨h, hgap⟩ | ⟨h, hgap⟩ | ⟨hnot, honly⟩)
    · rw [readKeyword, keyword?_not_iff.2 h]
      exact ⟨rfl, (skipGaps_append hgap).trans (skipGaps_eq_self hnamed)⟩
    · have hnone : keyword? "not" continuesHead cs = none :=
        Option.eq_none_iff_forall_ne_some.2 fun r hr =>
          not_keyword_only_of_not (keyword?_not_iff.1 hr) h
      rw [readKeyword, hnone, keyword?_only_iff.2 h]
      exact ⟨rfl, (skipGaps_append hgap).trans (skipGaps_eq_self hnamed)⟩
    · -- neither keyword: the text itself is the media type, and no gap is skipped before it
      have hnone : keyword? "not" continuesHead cs = none :=
        Option.eq_none_iff_forall_ne_some.2 fun r hr => hnot r (keyword?_not_iff.1 hr)
      have hnone' : keyword? "only" continuesHead cs = none :=
        Option.eq_none_iff_forall_ne_some.2 fun r hr => honly r (keyword?_only_iff.1 hr)
      rw [readKeyword, hnone, hnone']
      exact ⟨rfl, skipGaps_eq_self hhead⟩
  · rintro ⟨rfl, rfl⟩
    rw [readKeyword]
    cases hnot : keyword? "not" continuesHead cs with
    | some r =>
      have h := keyword?_not_iff.1 hnot
      obtain ⟨gap, hgap, hr⟩ := htail h
      exact .not (hr ▸ h) hgap
    | none =>
      cases honly : keyword? "only" continuesHead cs with
      | some r =>
        have h := keyword?_only_iff.1 honly
        obtain ⟨gap, hgap, hr⟩ := htail h
        exact .only (hr ▸ h) hgap
      | none =>
        rw [Option.getD_none, skipGaps_eq_self hhead]
        refine .none (fun r h => ?_) fun r h => ?_
        · rw [keyword?_not_iff.2 h] at hnot; cases hnot
        · rw [keyword?_only_iff.2 h] at honly; cases honly

/-- The group that a clause starts with, as text. -/
def headGroup : Head → List Char
  | .typed _ _ => []
  | .grouped body => '(' :: (body ++ [')'])

theorem groupText_eq (c : Clause) : c.groupText = headGroup c.head ++ c.tail.getD [] := by
  obtain ⟨head, tail⟩ := c
  cases head <;> simp [Clause.groupText, headGroup]

theorem TypeName.head?_not_gap {name : List Char} (h : TypeName cs name rest) :
    ∀ c ∈ cs.head?, ¬ isGap c := by
  obtain ⟨rfl, ⟨d, ds, rfl, hd, -⟩, -⟩ := h
  intro c hc
  obtain rfl : d = c := by simpa using hc
  exact isGap_not_starts (.inl hd)

theorem readTyped?_paren (cs : List Char) : readTyped? ('(' :: cs) = none := by
  have hnot : keyword? "not" continuesHead ('(' :: cs) = none := rfl
  have honly : keyword? "only" continuesHead ('(' :: cs) = none := rfl
  have hskip : skipGaps ('(' :: cs) = '(' :: cs := rfl
  have hkey : readKeyword ('(' :: cs) = (false, '(' :: cs) := by
    rw [readKeyword, hnot, honly, Option.getD_none]
  have hname : name? startsType continuesType ('(' :: cs) = none := rfl
  rw [readTyped?, hskip, hkey]
  simp only [hskip, hname, Option.map_none]

/-- **The head of a clause** that does not start with a gap. -/
theorem headOf_iff (htab : '\t' ∉ cs) (hhead : ∀ c ∈ cs.head?, ¬ isGap c) {mediaType : String}
    {inverse : Bool} {group : List Char} :
    HeadOf cs mediaType inverse group rest ↔
      ∃ head, readHead? cs = some (head, rest) ∧ head.type = (mediaType, inverse) ∧
        headGroup head = group := by
  constructor
  · rintro (⟨hlead, hname⟩ | ⟨hgroup⟩)
    · rename_i named name
      obtain ⟨hinv, hnamed⟩ := (lead_iff htab hhead hname.head?_not_gap).1 hlead
      refine ⟨.typed inverse name, ?_, rfl, rfl⟩
      have htyped : readTyped? cs = some (.typed inverse name, rest) := by
        rw [readTyped?, skipGaps_eq_self hhead]
        simp only [hnamed, name?_eq_some_iff.2 hname, hinv, Option.map_some]
      rw [readHead?, htyped, Option.some_or]
    · rename_i body
      obtain ⟨cs', rfl, hbody⟩ := group_iff.1 hgroup
      refine ⟨.grouped body, ?_, rfl, rfl⟩
      rw [readHead?, readTyped?_paren, Option.none_or, readGrouped?, skipGaps_eq_self hhead]
      simp only [hbody, Option.map_some]
  · rintro ⟨head, h, htype, rfl⟩
    rw [readHead?, Option.or_eq_some_iff] at h
    rcases h with h | ⟨-, h⟩
    · rw [readTyped?, skipGaps_eq_self hhead, Option.map_eq_some_iff] at h
      obtain ⟨⟨name, r⟩, hname, he⟩ := h
      cases he
      have hname := name?_eq_some_iff.1 hname
      cases htype
      exact .typed ((lead_iff htab hhead (TypeName.head?_not_gap hname)).2 ⟨rfl, rfl⟩) hname
    · rw [readGrouped?, skipGaps_eq_self hhead] at h
      split at h
      · obtain ⟨⟨body, r⟩, hbody, he⟩ := Option.map_eq_some_iff.1 h
        cases he
        cases htype
        exact .grouped (group_iff.2 ⟨_, rfl, hbody⟩)
      · cases h

theorem HeadOf.suffix {mediaType : String} {inverse : Bool} {group : List Char}
    (h : HeadOf cs mediaType inverse group rest) : rest <:+ cs := by
  rcases h with ⟨hlead, hname⟩ | ⟨hgroup⟩
  · rename_i named name
    have hnamed : named <:+ cs := by
      rcases hlead with ⟨h, -⟩ | ⟨h, -⟩ | -
      · exact (List.suffix_append _ _).trans h.suffix
      · exact (List.suffix_append _ _).trans h.suffix
      · exact List.suffix_rfl
    exact (hname.1 ▸ List.suffix_append name rest : rest <:+ named).trans hnamed
  · rename_i body
    rw [hgroup.1]
    exact ⟨'(' :: (body ++ [')']), by simp⟩

theorem HeadOf.group_subset {mediaType : String} {inverse : Bool} {group : List Char}
    (h : HeadOf cs mediaType inverse group rest) : group ⊆ cs := by
  rcases h with ⟨-, -⟩ | ⟨hgroup⟩
  · exact List.nil_subset cs
  · rw [hgroup.1]
    intro c hc
    simp only [List.mem_cons, List.mem_append, List.not_mem_nil, or_false] at hc ⊢
    tauto

theorem HeadOf.group_cases {mediaType : String} {inverse : Bool} {group : List Char}
    (h : HeadOf cs mediaType inverse group rest) :
    group = [] ∨ ∃ body, body ≠ [] ∧ ')' ∉ body ∧ group = '(' :: (body ++ [')']) := by
  rcases h with ⟨-, -⟩ | ⟨hgroup⟩
  · exact .inl rfl
  · exact .inr ⟨_, hgroup.2.1, hgroup.2.2, rfl⟩

/-! ### The tail of a clause -/

theorem TailOf.suffix {tail : List Char} (h : TailOf rest tail) : tail <:+ rest := by
  rcases h with - | ⟨-, hand⟩
  · exact List.suffix_rfl
  · exact hand.suffix.trans (List.suffix_append _ _)

/-- The tail that follows a head. -/
theorem tailOf_iff (htab : '\t' ∉ rest) {tail : List Char} :
    TailOf rest tail ↔
      keyword? "and" continuesAnd (skipGaps rest) = some tail ∨ rest = [] ∧ tail = [] := by
  constructor
  · rintro (- | ⟨hgap, hand⟩)
    · exact .inr ⟨rfl, rfl⟩
    · rename_i gap cs
      -- `and` starts with a letter, so the gap before it is skipped and no more
      have hcs : ∀ c ∈ cs.head?, ¬ isGap c := by
        intro c hc hg
        have hand' := hand.head?_eq (by decide)
        rw [Option.mem_def.1 hc] at hand'
        rcases isGap_iff.1 hg with rfl | rfl | rfl | rfl <;> revert hand' <;> decide
      rw [skipGaps_append hgap, skipGaps_eq_self hcs]
      exact .inl (keyword?_and_iff.2 hand)
  · rintro (h | ⟨rfl, rfl⟩)
    · obtain ⟨gap, hgap, hrest⟩ := exists_gap htab
      rw [hrest]
      exact .and hgap (keyword?_and_iff.1 h)
    · exact .nil

/-- A text that does not end with a gap is not only gaps. -/
theorem skipGaps_isEmpty_iff (hlast : ∀ c ∈ cs.getLast?, ¬ isGap c) :
    (skipGaps cs).isEmpty ↔ cs = [] := by
  rw [List.isEmpty_iff, skipGaps, List.dropWhile_eq_nil_iff]
  constructor
  · intro h
    by_contra hne
    have hmem := List.getLast_mem hne
    exact hlast _ (List.getLast?_eq_some_getLast hne) (h _ hmem)
  · rintro rfl
    simp

theorem getLast?_suffix (h : rest <:+ cs) (hlast : ∀ c ∈ cs.getLast?, ¬ isGap c) :
    ∀ c ∈ rest.getLast?, ¬ isGap c := by
  obtain ⟨s, rfl⟩ := h
  intro c hc
  refine hlast c ?_
  rw [List.getLast?_append, Option.mem_def.1 hc]
  rfl

/-- **A clause** that neither starts nor ends with a gap: its head, and the text of its groups. -/
theorem readClause?_iff (htab : '\t' ∉ cs) (hhead : ∀ c ∈ cs.head?, ¬ isGap c)
    (hlast : ∀ c ∈ cs.getLast?, ¬ isGap c) {head : Head} {text : List Char} :
    (∃ clause, readClause? cs = some clause ∧ clause.head = head ∧ clause.groupText = text) ↔
      ∃ rest tail, readHead? cs = some (head, rest) ∧ TailOf rest tail ∧
        text = headGroup head ++ skipGaps tail := by
  have hsuffix : ∀ {head rest}, readHead? cs = some (head, rest) → rest <:+ cs := fun h =>
    ((headOf_iff htab hhead).2 ⟨_, h, rfl, rfl⟩).suffix
  constructor
  · rintro ⟨clause, h, rfl, rfl⟩
    rw [groupText_eq]
    unfold readClause? at h
    split at h
    · cases h
    rename_i head rest hr
    have htabr : '\t' ∉ rest := fun hm => htab ((hsuffix hr).subset hm)
    split at h
    · rename_i tail hand
      cases h
      exact ⟨rest, tail, hr, (tailOf_iff htabr).2 (.inl hand), rfl⟩
    · split_ifs at h with hempty
      cases h
      obtain rfl := (skipGaps_isEmpty_iff (getLast?_suffix (hsuffix hr) hlast)).1 hempty
      exact ⟨[], [], hr, .nil, rfl⟩
  · rintro ⟨rest, tail, hr, htail, rfl⟩
    have htabr : '\t' ∉ rest := fun hm => htab ((hsuffix hr).subset hm)
    rcases (tailOf_iff htabr).1 htail with hand | ⟨rfl, rfl⟩
    · refine ⟨⟨head, some (skipGaps tail)⟩, ?_, rfl, groupText_eq _⟩
      simp only [readClause?, hr, hand]
    · refine ⟨⟨head, none⟩, ?_, rfl, groupText_eq _⟩
      simp only [readClause?, hr]
      rfl

/-- Groups are looked for in text of the clause. -/
theorem groupText_subset (htab : '\t' ∉ cs) (hhead : ∀ c ∈ cs.head?, ¬ isGap c)
    (hlast : ∀ c ∈ cs.getLast?, ¬ isGap c) {clause : Clause} (h : readClause? cs = some clause) :
    clause.groupText ⊆ cs := by
  obtain ⟨rest, tail, hr, htail, htext⟩ :=
    (readClause?_iff htab hhead hlast).1 ⟨clause, h, rfl, rfl⟩
  have hof := (headOf_iff htab hhead).2 ⟨clause.head, hr, rfl, rfl⟩
  have hskip : skipGaps tail <:+ cs :=
    (List.dropWhile_suffix isGap).trans (htail.suffix.trans hof.suffix)
  rw [htext]
  exact List.append_subset.2 ⟨hof.group_subset, hskip.subset⟩

/-! ### The groups of a clause -/

/-- The tests that are read from a text in which groups are looked for. -/
def ReadsTests (text : List Char) (tests : List FeatureTest) : Prop :=
  text.all isBlank ∧ tests = [] ∨
    ¬ text.all isBlank ∧ groups text ≠ [] ∧ readTests? (groups text) = some tests

theorem readTests?_eq_some_iff {bodies : List (List Char)} {tests : List FeatureTest}
    (htab : ∀ body ∈ bodies, '\t' ∉ body) :
    readTests? bodies = some tests ↔ List.Forall₂ TestOf bodies tests := by
  induction bodies generalizing tests with
  | nil => simp [readTests?, eq_comm]
  | cons body bodies ih =>
    rw [readTests?]
    constructor
    · intro h
      split at h
      · rename_i test htest
        obtain ⟨ts, hts, rfl⟩ := Option.map_eq_some_iff.1 h
        exact .cons ((testOf_iff (htab body List.mem_cons_self)).2 htest)
          ((ih fun b hb => htab b (List.mem_cons_of_mem body hb)).1 hts)
      · cases h
    · rintro (- | ⟨htest, htests⟩)
      rw [(testOf_iff (htab body List.mem_cons_self)).1 htest]
      simp only [(ih fun b hb => htab b (List.mem_cons_of_mem body hb)).2 htests, Option.map_some]

theorem testsOf_iff {text : List Char} (htab : '\t' ∉ text) {tests : List FeatureTest} :
    TestsOf text tests ↔ ReadsTests text tests := by
  have hbodies : ∀ body ∈ groups text, '\t' ∉ body := by
    intro body hb hm
    obtain ⟨-, -, hin⟩ := (groups_groups text).body_isInfix hb
    exact htab (hin.subset (by simp [hm]))
  constructor
  · rintro (hblank | ⟨hgroups, hne, htests⟩)
    · exact .inl ⟨List.all_eq_true.2 hblank, rfl⟩
    · obtain rfl := groups_iff.1 hgroups
      -- a text with a group is not blank: the parenthesis of the group stands in it
      refine .inr ⟨fun hall => ?_, hne, (readTests?_eq_some_iff hbodies).2 htests⟩
      obtain ⟨body, hb⟩ := List.exists_mem_of_ne_nil _ hne
      obtain ⟨-, -, hin⟩ := hgroups.body_isInfix hb
      have hpar := List.all_eq_true.1 hall '(' (hin.subset List.mem_cons_self)
      exact absurd hpar (by decide)
  · rintro (⟨hall, rfl⟩ | ⟨-, hne, htests⟩)
    · exact .blank (List.all_eq_true.1 hall)
    · exact .groups (groups_groups text) hne ((readTests?_eq_some_iff hbodies).1 htests)

/-- A gap at the start of the tail makes no difference to the tests. -/
theorem readsTests_skipGaps {group tail : List Char} (htab : '\t' ∉ tail)
    (hgroup : group = [] ∨ ∃ body, body ≠ [] ∧ ')' ∉ body ∧ group = '(' :: (body ++ [')']))
    {tests : List FeatureTest} :
    ReadsTests (group ++ skipGaps tail) tests ↔ ReadsTests (group ++ tail) tests := by
  have hall : (group ++ skipGaps tail).all isBlank = (group ++ tail).all isBlank := by
    rw [List.all_append, List.all_append, all_isBlank_skipGaps]
  have hgroups : groups (group ++ skipGaps tail) = groups (group ++ tail) := by
    rcases hgroup with rfl | ⟨body, hne, hmem, rfl⟩
    · exact groups_skipGaps htab
    · simp only [List.cons_append, List.append_assoc, List.nil_append]
      rw [groups_group_append hne hmem, groups_group_append hne hmem, groups_skipGaps htab]
  rw [ReadsTests, ReadsTests, hall, hgroups]

/-! ### The query of a clause -/

theorem readQuery_eq_ok_iff {text : List Char} {q : Query} :
    readQuery text = .ok q ↔ ∃ clause, readClause? (expandTabs 0 text) = some clause ∧
      clause.head.type = (q.mediaType, q.inverse) ∧ ReadsTests clause.groupText q.tests := by
  rw [readQuery]
  cases readClause? (expandTabs 0 text) with
  | none => simp
  | some clause =>
    simp only [Option.some.injEq, exists_eq_left', ReadsTests]
    obtain ⟨mediaType, inverse, tests⟩ := q
    rcases htype : clause.head.type with ⟨m, i⟩
    split_ifs with hblank
    · simp [hblank, and_assoc, @eq_comm _ [] tests]
    · cases hg : groups clause.groupText with
      | nil => simp [hblank]
      | cons body bodies =>
        cases ht : readTests? (body :: bodies) <;> simp [hblank, ht, and_assoc]

/-- The text in which groups are looked for is made of parts of the clause. -/
theorem tab_notMem_groupText {mediaType : String} {inverse : Bool} {group tail : List Char}
    (htab : '\t' ∉ cs) (hof : HeadOf cs mediaType inverse group rest) (htail : TailOf rest tail) :
    '\t' ∉ tail ∧ '\t' ∉ group ++ tail := by
  have htabt : '\t' ∉ tail := fun hm => htab (hof.suffix.subset (htail.suffix.subset hm))
  refine ⟨htabt, ?_⟩
  rw [List.mem_append, not_or]
  exact ⟨fun hm => htab (hof.group_subset hm), htabt⟩

/-- A trimmed text neither starts nor ends with a gap when its tabs are expanded. -/
theorem ends_expandTabs {text : List Char} (hhead : ∀ c ∈ text.head?, ¬ isBlank c)
    (hlast : ∀ c ∈ text.getLast?, ¬ isBlank c) :
    (∀ c ∈ (expandTabs 0 text).head?, ¬ isGap c) ∧
      ∀ c ∈ (expandTabs 0 text).getLast?, ¬ isGap c := by
  have hblank : isBlank '\t' := by decide
  rw [head?_expandTabs fun hm => hhead _ hm hblank, getLast?_expandTabs fun hm => hlast _ hm hblank]
  exact ⟨fun c hc hg => hhead c hc (isBlank_of_isGap hg),
    fun c hc hg => hlast c hc (isBlank_of_isGap hg)⟩

/-- **Reading a clause** that is trimmed. -/
theorem queryOf_iff {text : List Char} (hhead : ∀ c ∈ text.head?, ¬ isBlank c)
    (hlast : ∀ c ∈ text.getLast?, ¬ isBlank c) {q : Query} :
    QueryOf (expandTabs 0 text) q ↔ readQuery text = .ok q := by
  have htab := tab_notMem_expandTabs 0 text
  obtain ⟨hhead', hlast'⟩ := ends_expandTabs hhead hlast
  rw [readQuery_eq_ok_iff]
  -- from here on only the ends of the expanded text and its lack of tabs count
  generalize expandTabs 0 text = cs at *
  constructor
  · rintro ⟨group, rest, tail, hof, htail, htests⟩
    obtain ⟨head, hr, htype, rfl⟩ := (headOf_iff htab hhead').1 hof
    obtain ⟨htabt, htabg⟩ := tab_notMem_groupText htab hof htail
    obtain ⟨clause, hclause, rfl, htext⟩ :=
      (readClause?_iff htab hhead' hlast').2 ⟨rest, tail, hr, htail, rfl⟩
    refine ⟨clause, hclause, htype, ?_⟩
    rw [htext, readsTests_skipGaps htabt hof.group_cases]
    exact (testsOf_iff htabg).1 htests
  · rintro ⟨clause, hclause, htype, htests⟩
    obtain ⟨rest, tail, hr, htail, htext⟩ :=
      (readClause?_iff htab hhead' hlast').1 ⟨clause, hclause, rfl, rfl⟩
    have hof := (headOf_iff htab hhead').2 ⟨clause.head, hr, htype, rfl⟩
    obtain ⟨htabt, htabg⟩ := tab_notMem_groupText htab hof htail
    refine ⟨headGroup clause.head, rest, tail, hof, htail, (testsOf_iff htabg).2 ?_⟩
    rwa [← readsTests_skipGaps htabt hof.group_cases, ← htext]

end MediaQuery.Grammar
