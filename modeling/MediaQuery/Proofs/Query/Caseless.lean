import MediaQuery.Proofs.Query.Comment
import MediaQuery.Proofs.Query.Keyword
import MediaQuery.Proofs.Text.LetterCase
import MediaQuery.Query.Parser

/-!
# Query lists in either letter case

Every recogniser commutes with putting the letters of a text in lower case, `Char.toLower` for each:
it reads the same parts, which are then in lower case. Names are put in lower case anyway, so only
values keep the case that they are written in.

* `readQuery_toLower` puts the recognisers together for one clause;
* `ofClauses_sameLetters` compares the parses of two lists of clauses.
-/

namespace MediaQuery

open Text

/-- The test with its value in lower case. -/
def FeatureTest.lowered (t : FeatureTest) : FeatureTest :=
  { t with value := t.value.map String.toLower }

/-- The query with its values in lower case. -/
def Query.lowered (q : Query) : Query := { q with tests := q.tests.map FeatureTest.lowered }

/-- The same test up to the letter case of its value. -/
structure FeatureTest.SameButCase (t u : FeatureTest) : Prop where
  feature : t.feature = u.feature
  modifier : t.modifier = u.modifier
  value : Option.Rel (fun v w => SameLetters v.toList w.toList) t.value u.value

/-- The same query up to the letter case of its values. -/
structure Query.SameButCase (p q : Query) : Prop where
  mediaType : p.mediaType = q.mediaType
  inverse : p.inverse = q.inverse
  tests : List.Forall₂ FeatureTest.SameButCase p.tests q.tests

theorem toList_toLower (s : String) : s.toLower.toList = s.toList.map Char.toLower :=
  String.toList_map

theorem sameLetters_iff {v w : String} : SameLetters v.toList w.toList ↔ v.toLower = w.toLower := by
  rw [SameLetters, ← String.toList_inj, toList_toLower, toList_toLower]

theorem toLower_ofList (cs : List Char) :
    (String.ofList cs).toLower = String.ofList (cs.map Char.toLower) := by
  rw [← String.toList_inj, toList_toLower, String.toList_ofList, String.toList_ofList]

theorem FeatureTest.sameButCase_of_lowered {t u : FeatureTest} (h : t.lowered = u.lowered) :
    t.SameButCase u := by
  obtain ⟨feature, modifier, value⟩ := t
  obtain ⟨feature', modifier', value'⟩ := u
  obtain ⟨rfl, rfl, hvalue⟩ := FeatureTest.mk.inj h
  refine ⟨rfl, rfl, ?_⟩
  cases value with
  | none =>
    cases value' with
    | none => exact .none
    | some w => cases hvalue
  | some v =>
    cases value' with
    | none => cases hvalue
    | some w => exact .some (sameLetters_iff.2 (Option.some.inj hvalue))

theorem Query.sameButCase_of_lowered {p q : Query} (h : p.lowered = q.lowered) :
    p.SameButCase q := by
  obtain ⟨mediaType, inverse, tests⟩ := p
  obtain ⟨mediaType', inverse', tests'⟩ := q
  obtain ⟨rfl, rfl, htests⟩ := Query.mk.inj h
  refine ⟨rfl, rfl, ?_⟩
  have hrel : List.Forall₂ (· = ·) (tests.map FeatureTest.lowered)
      (tests'.map FeatureTest.lowered) := List.forall₂_eq_eq_eq ▸ htests
  rw [List.forall₂_map_left_iff, List.forall₂_map_right_iff] at hrel
  exact hrel.imp fun _ _ => FeatureTest.sameButCase_of_lowered

namespace Query

variable {cs : List Char}

/-! ### Tokens -/

theorem expandTabs_toLower (column : Nat) (cs : List Char) :
    expandTabs column (cs.map Char.toLower) = (expandTabs column cs).map Char.toLower := by
  have htab : ∀ c : Char, c.toLower = '\t' ↔ c = '\t' :=
    fun c => toLower_eq_iff_of_range (by decide)
  have hline : ∀ c : Char, c.toLower = '\n' ↔ c = '\n' :=
    fun c => toLower_eq_iff_of_range (by decide)
  have hreturn : ∀ c : Char, c.toLower = '\r' ↔ c = '\r' :=
    fun c => toLower_eq_iff_of_range (by decide)
  induction cs generalizing column with
  | nil => rfl
  | cons c cs ih =>
    rw [List.map_cons, expandTabs, expandTabs]
    simp only [htab, hline, hreturn, ih]
    split_ifs with h
    · rw [List.map_append, List.map_replicate]
      rfl
    · rfl
    · rfl

theorem skipGaps_toLower (cs : List Char) :
    skipGaps (cs.map Char.toLower) = (skipGaps cs).map Char.toLower :=
  dropWhile_toLower (apply_toLower (by decide)) cs

theorem afterWord?_toLower {word : List Char} (hword : ∀ p ∈ word, 97 ≤ p.toNat ∧ p.toNat ≤ 122)
    (cs : List Char) :
    afterWord? word (cs.map Char.toLower) = (afterWord? word cs).map (List.map Char.toLower) := by
  induction word generalizing cs with
  | nil => rfl
  | cons p ps ih =>
    obtain ⟨hp, hps⟩ := List.forall_mem_cons.1 hword
    cases cs with
    | nil => rfl
    | cons c cs =>
      rw [List.map_cons, afterWord?, afterWord?]
      simp only [← Grammar.toLower_eq_iff hp, toLower_toLower, ih hps]
      split_ifs <;> rfl

theorem keyword?_toLower {word : String} {continues : Char → Bool}
    (hword : ∀ p ∈ word.toList, 97 ≤ p.toNat ∧ p.toNat ≤ 122)
    (hcontinues : ∀ c : Char, continues c.toLower = continues c) (cs : List Char) :
    keyword? word continues (cs.map Char.toLower) =
      (keyword? word continues cs).map (List.map Char.toLower) := by
  unfold keyword?
  rw [afterWord?_toLower hword]
  cases afterWord? word.toList cs with
  | none => rfl
  | some rest =>
    cases rest with
    | nil => rfl
    | cons c rest =>
      simp only [Option.map_some, List.map_cons, hcontinues]
      split_ifs <;> rfl

theorem name?_toLower {starts continues : Char → Bool}
    (hstarts : ∀ c : Char, starts c.toLower = starts c)
    (hcontinues : ∀ c : Char, continues c.toLower = continues c) (cs : List Char) :
    name? starts continues (cs.map Char.toLower) =
      (name? starts continues cs).map
        (Prod.map (List.map Char.toLower) (List.map Char.toLower)) := by
  cases cs with
  | nil => rfl
  | cons c cs =>
    rw [List.map_cons, name?, name?, hstarts, takeWhile_toLower hcontinues,
      dropWhile_toLower hcontinues]
    split_ifs <;> rfl

/-! ### Groups -/

theorem groupBody?_toLower (cs : List Char) :
    groupBody? (cs.map Char.toLower) =
      (groupBody? cs).map (Prod.map (List.map Char.toLower) (List.map Char.toLower)) := by
  have hinside : ∀ c : Char, (c.toLower != ')') = (c != ')') :=
    apply_toLower (f := fun c => c != ')') (by decide)
  unfold groupBody?
  rw [takeWhile_toLower hinside, dropWhile_toLower hinside]
  have hstop := head?_dropWhile (· != ')') cs
  cases cs.takeWhile (· != ')') with
  | nil => rfl
  | cons c body =>
    cases hrest : cs.dropWhile (· != ')') with
    | nil => rfl
    | cons d rest =>
      obtain rfl : d = ')' := by simpa [hrest] using hstop
      rfl

theorem groups_toLower (cs : List Char) :
    groups (cs.map Char.toLower) = (groups cs).map (List.map Char.toLower) := by
  have hopen : ∀ c : Char, c.toLower = '(' ↔ c = '(' :=
    fun c => toLower_eq_iff_of_range (by decide)
  fun_induction groups cs with
  | case1 => simp [groups]
  | case2 cs body rest hbody ih =>
    have hlower := groupBody?_toLower cs
    rw [hbody] at hlower
    rw [List.map_cons, groups, if_pos ((hopen '(').2 rfl)]
    split
    · rename_i body' rest' hbody'
      rw [hlower] at hbody'
      cases hbody'
      rw [List.map_cons, ← ih]
    · rename_i hnone
      rw [hlower] at hnone
      cases hnone
  | case3 cs hnone ih =>
    have hlower := groupBody?_toLower cs
    rw [hnone] at hlower
    rw [List.map_cons, groups, if_pos ((hopen '(').2 rfl)]
    split
    · rename_i hbody'
      rw [hlower] at hbody'
      cases hbody'
    · exact ih
  | case4 c cs hc ih =>
    rw [List.map_cons, groups, if_neg fun h => hc ((hopen c).1 h), ih]

/-! ### Comments -/

theorem toLower_eq_star_iff {c : Char} : c.toLower = '*' ↔ c = '*' :=
  toLower_eq_iff_of_range (by decide)

theorem toLower_eq_slash_iff {c : Char} : c.toLower = '/' ↔ c = '/' :=
  toLower_eq_iff_of_range (by decide)

theorem afterComment?_toLower (cs : List Char) :
    afterComment? (cs.map Char.toLower) = (afterComment? cs).map (List.map Char.toLower) := by
  fun_induction afterComment? cs with
  | case1 cs => rfl
  | case2 c cs hc ih =>
    rw [List.map_cons, afterComment?, ih]
    -- no closer comes about where there was none
    intro rest hstar hrest
    obtain ⟨d, cs', rfl, hslash, -⟩ := List.map_eq_cons_iff.1 hrest
    exact hc cs' (toLower_eq_star_iff.1 hstar) (by rw [toLower_eq_slash_iff.1 hslash])
  | case3 => rfl

theorem dropComments_toLower (cs : List Char) :
    dropComments (cs.map Char.toLower) = (dropComments cs).map Char.toLower := by
  fun_induction dropComments cs with
  | case1 cs rest hrest ih =>
    have hlower := afterComment?_toLower cs
    rw [hrest] at hlower
    change dropComments ('/' :: '*' :: cs.map Char.toLower) = _
    rw [dropComments]
    split
    · rename_i hrest'
      rw [hlower] at hrest'
      cases hrest'
      exact ih
    · rename_i hnone
      rw [hlower] at hnone
      cases hnone
  | case2 cs hnone =>
    have hlower := afterComment?_toLower cs
    rw [hnone] at hlower
    change dropComments ('/' :: '*' :: cs.map Char.toLower) = _
    rw [dropComments]
    split
    · rename_i hrest'
      rw [hlower] at hrest'
      cases hrest'
    · rfl
  | case3 c cs hn ih =>
    rw [List.map_cons, dropComments, ih, List.map_cons]
    intro rest hslash hrest
    obtain ⟨d, cs', rfl, hstar, -⟩ := List.map_eq_cons_iff.1 hrest
    exact hn cs' (toLower_eq_slash_iff.1 hslash) (by rw [toLower_eq_star_iff.1 hstar])
  | case4 => simp [dropComments]

theorem clauseText_toLower (raw : List Char) :
    clauseText (raw.map Char.toLower) = (clauseText raw).map Char.toLower := by
  rw [clauseText, clauseText, dropComments_toLower, trim_toLower]

/-! ### Tests -/

theorem readTest?_toLower (body : List Char) :
    readTest? (body.map Char.toLower) = (readTest? body).map FeatureTest.lowered := by
  have hstarts : ∀ c : Char, startsFeature c.toLower = startsFeature c :=
    apply_toLower (by decide)
  have hcontinues : ∀ c : Char, continuesFeature c.toLower = continuesFeature c :=
    apply_toLower (by decide)
  have hcolon : ∀ c : Char, c.toLower = ':' ↔ c = ':' :=
    fun c => toLower_eq_iff_of_range (by decide)
  unfold readTest?
  rw [skipGaps_toLower, name?_toLower hstarts hcontinues]
  cases name? startsFeature continuesFeature (skipGaps body) with
  | none => rfl
  | some parts =>
    obtain ⟨token, rest⟩ := parts
    simp only [Option.map_some, Prod.map_apply, lower_toLower, skipGaps_toLower]
    cases skipGaps rest with
    | nil => rfl
    | cons c rest =>
      by_cases hc : c = ':'
      · subst hc
        simp only [List.map_cons, (hcolon ':').2 rfl, skipGaps_toLower]
        cases skipGaps rest with
        | nil => rfl
        | cons d value =>
          simp only [List.map_cons]
          rw [← List.map_cons, trim_toLower, ← toLower_ofList]
          rfl
      · have hc' := mt (hcolon c).1 hc
        simp [hc, hc']

/-! ### Clauses -/

/-- The head with its text in lower case. -/
def Head.lowered : Head → Head
  | .typed inverse name => .typed inverse (name.map Char.toLower)
  | .grouped body => .grouped (body.map Char.toLower)

/-- The clause with its text in lower case. -/
def Clause.lowered (c : Clause) : Clause := ⟨c.head.lowered, c.tail.map (List.map Char.toLower)⟩

theorem continuesHead_toLower (c : Char) : continuesHead c.toLower = continuesHead c :=
  apply_toLower (by decide) c

theorem readKeyword_toLower (cs : List Char) :
    readKeyword (cs.map Char.toLower) = (readKeyword cs).map id (List.map Char.toLower) := by
  unfold readKeyword
  rw [keyword?_toLower (by decide) continuesHead_toLower,
    keyword?_toLower (by decide) continuesHead_toLower]
  cases keyword? "not" continuesHead cs with
  | some rest => rfl
  | none => cases keyword? "only" continuesHead cs <;> rfl

theorem readTyped?_toLower (cs : List Char) :
    readTyped? (cs.map Char.toLower) =
      (readTyped? cs).map (Prod.map Head.lowered (List.map Char.toLower)) := by
  have hstarts : ∀ c : Char, startsType c.toLower = startsType c :=
    apply_toLower (by decide)
  have hcontinues : ∀ c : Char, continuesType c.toLower = continuesType c :=
    apply_toLower (by decide)
  unfold readTyped?
  rw [skipGaps_toLower, readKeyword_toLower]
  simp only [Prod.map, skipGaps_toLower, name?_toLower hstarts hcontinues]
  cases name? startsType continuesType (skipGaps (readKeyword (skipGaps cs)).2) <;> rfl

theorem readGrouped?_toLower (cs : List Char) :
    readGrouped? (cs.map Char.toLower) =
      (readGrouped? cs).map (Prod.map Head.lowered (List.map Char.toLower)) := by
  have hopen : ∀ c : Char, c.toLower = '(' ↔ c = '(' :=
    fun c => toLower_eq_iff_of_range (by decide)
  unfold readGrouped?
  rw [skipGaps_toLower]
  cases skipGaps cs with
  | nil => rfl
  | cons c cs =>
    by_cases hc : c = '('
    · subst hc
      simp only [List.map_cons, (hopen '(').2 rfl, groupBody?_toLower]
      cases groupBody? cs <;> rfl
    · have hc' := mt (hopen c).1 hc
      simp [hc, hc']

theorem readHead?_toLower (cs : List Char) :
    readHead? (cs.map Char.toLower) =
      (readHead? cs).map (Prod.map Head.lowered (List.map Char.toLower)) := by
  unfold readHead?
  rw [readTyped?_toLower, readGrouped?_toLower]
  cases readTyped? cs <;> rfl

theorem readClause?_toLower (cs : List Char) :
    readClause? (cs.map Char.toLower) = (readClause? cs).map Clause.lowered := by
  have hcontinues : ∀ c : Char, continuesAnd c.toLower = continuesAnd c :=
    apply_toLower (by decide)
  have hand : ∀ cs, keyword? "and" continuesAnd (cs.map Char.toLower) =
      (keyword? "and" continuesAnd cs).map (List.map Char.toLower) :=
    keyword?_toLower (by decide) hcontinues
  unfold readClause?
  rw [readHead?_toLower]
  cases readHead? cs with
  | none => rfl
  | some parts =>
    obtain ⟨head, rest⟩ := parts
    simp only [Option.map_some, Prod.map_apply, skipGaps_toLower, hand]
    cases keyword? "and" continuesAnd (skipGaps rest) with
    | some tail => simp only [Option.map_some, skipGaps_toLower]; rfl
    | none =>
      simp only [Option.map_none, List.isEmpty_map]
      split_ifs <;> rfl

theorem groupText_lowered (c : Clause) : c.lowered.groupText = c.groupText.map Char.toLower := by
  obtain ⟨head, tail⟩ := c
  cases head <;> cases tail <;> simp [Clause.groupText, Clause.lowered, Head.lowered]

theorem type_lowered (h : Head) : h.lowered.type = h.type := by
  cases h with
  | typed inverse name => rw [Head.lowered, Head.type, Head.type, lower_toLower]
  | grouped body => rfl

theorem readTests?_toLower (bodies : List (List Char)) :
    readTests? (bodies.map (List.map Char.toLower)) =
      (readTests? bodies).map (List.map FeatureTest.lowered) := by
  induction bodies with
  | nil => rfl
  | cons body bodies ih =>
    rw [List.map_cons, readTests?, readTests?, readTest?_toLower, ih]
    cases readTest? body with
    | none => rfl
    | some test => cases readTests? bodies <;> rfl

/-- **A clause in either case** spells the same query up to the case of its values. -/
theorem readQuery_toLower (text : List Char) :
    readQuery (text.map Char.toLower) = (readQuery text).map Query.lowered := by
  unfold readQuery
  rw [expandTabs_toLower, readClause?_toLower]
  cases readClause? (expandTabs 0 text) with
  | none => rfl
  | some clause =>
    have hhead : clause.lowered.head.type = clause.head.type := type_lowered clause.head
    simp only [Option.map_some, hhead, groupText_lowered, all_toLower isBlank_toLower,
      groups_toLower]
    split_ifs
    · rfl
    · cases groups clause.groupText with
      | nil => rfl
      | cons body bodies =>
        simp only [List.map_cons]
        rw [← List.map_cons, readTests?_toLower]
        cases readTests? (body :: bodies) <;> rfl

theorem readQuery_sameLetters {text text' : List Char} (h : SameLetters text text') :
    (readQuery text).map Query.lowered = (readQuery text').map Query.lowered := by
  rw [← readQuery_toLower, ← readQuery_toLower, h]

end Query

/-! ### Query lists -/

namespace QueryList

/-- The clause with the given number is the first that is no query, and the error is about it. -/
def FaultAt (raws : List (List Char)) (i : Nat) (e : SyntaxError) : Prop :=
  ∃ before raw after, raws = before ++ raw :: after ∧ before.length = i ∧
    (∀ r ∈ before, ∃ q, Query.readQuery (Query.clauseText r) = .ok q) ∧
    Query.readQuery (Query.clauseText raw) = .error e.fault ∧
    e.clause = String.ofList (Query.clauseText raw)

theorem FaultAt.cons {raws : List (List Char)} {i : Nat} {e : SyntaxError} (h : FaultAt raws i e)
    {raw : List Char} {q : Query} (hraw : Query.readQuery (Query.clauseText raw) = .ok q) :
    FaultAt (raw :: raws) (i + 1) e := by
  obtain ⟨before, raw', after, rfl, rfl, hbefore, hfault, hclause⟩ := h
  refine ⟨raw :: before, raw', after, rfl, rfl, ?_, hfault, hclause⟩
  exact List.forall_mem_cons.2 ⟨⟨q, hraw⟩, hbefore⟩

/-- Errors of two texts that are about the same clause and differ in its letter case only. -/
def SameFault (raws raws' : List (List Char)) (e e' : SyntaxError) : Prop :=
  (∃ i, FaultAt raws i e ∧ FaultAt raws' i e') ∧
    SameLetters e.clause.toList e'.clause.toList ∧ e.fault = e'.fault

/-- Clauses that differ in letter case only spell the same queries, or fail at the same place. -/
theorem ofClauses_sameLetters {query query' : String} {raws raws' : List (List Char)}
    (h : List.Forall₂ SameLetters raws raws') :
    (∃ qs qs', ofClauses query raws = .ok qs ∧ ofClauses query' raws' = .ok qs' ∧
      List.Forall₂ Query.SameButCase qs qs') ∨
    ∃ e e', ofClauses query raws = .error e ∧ ofClauses query' raws' = .error e' ∧
      SameFault raws raws' e e' := by
  induction h with
  | nil => exact .inl ⟨[], [], rfl, rfl, .nil⟩
  | @cons raw raw' raws raws' hraw hraws ih =>
    have htext : SameLetters (Query.clauseText raw) (Query.clauseText raw') := by
      rw [SameLetters, ← Query.clauseText_toLower, ← Query.clauseText_toLower, hraw]
    have hread := Query.readQuery_sameLetters htext
    simp only [ofClauses]
    cases hq : Query.readQuery (Query.clauseText raw) with
    | error fault =>
      cases hq' : Query.readQuery (Query.clauseText raw') with
      | ok q' => simp [hq, hq', Except.map] at hread
      | error fault' =>
        obtain rfl : fault = fault' := by simpa [hq, hq', Except.map] using hread
        refine .inr ⟨_, _, rfl, rfl, ⟨0, ?_, ?_⟩, ?_, rfl⟩
        · exact ⟨[], raw, raws, rfl, rfl, by simp, hq, rfl⟩
        · exact ⟨[], raw', raws', rfl, rfl, by simp, hq', rfl⟩
        · simpa using htext
    | ok q =>
      cases hq' : Query.readQuery (Query.clauseText raw') with
      | error fault' => simp [hq, hq', Except.map] at hread
      | ok q' =>
        have hsame : q.SameButCase q' :=
          Query.sameButCase_of_lowered (by simpa [hq, hq', Except.map] using hread)
        rcases ih with ⟨qs, qs', hqs, hqs', hall⟩ | ⟨e, e', he, he', ⟨i, hi, hi'⟩, hletters⟩
        · exact .inl ⟨q :: qs, q' :: qs', by rw [hqs]; rfl, by rw [hqs']; rfl, .cons hsame hall⟩
        · exact .inr ⟨e, e', by rw [he]; rfl, by rw [he']; rfl, ⟨i + 1, hi.cons hq, hi'.cons hq'⟩,
            hletters⟩

/-- **Parsing in either case.** -/
theorem parse_sameLetters {query query' : String} (h : SameLetters query.toList query'.toList) :
    (∃ qs qs', parse query = .ok qs ∧ parse query' = .ok qs' ∧
      List.Forall₂ Query.SameButCase qs qs') ∨
    ∃ e e', parse query = .error e ∧ parse query' = .error e' ∧
      SameFault (splitOn ',' query.toList) (splitOn ',' query'.toList) e e' := by
  have hcomma : ∀ c : Char, c.toLower = ',' ↔ c = ',' :=
    fun c => toLower_eq_iff_of_range (by decide)
  refine ofClauses_sameLetters ?_
  have hraws : List.Forall₂ (· = ·) ((splitOn ',' query.toList).map (List.map Char.toLower))
      ((splitOn ',' query'.toList).map (List.map Char.toLower)) := by
    rw [List.forall₂_eq_eq_eq, ← splitOn_toLower hcomma, ← splitOn_toLower hcomma, h]
  rwa [List.forall₂_map_left_iff, List.forall₂_map_right_iff] at hraws

end QueryList

end MediaQuery
