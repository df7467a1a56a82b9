import MediaQuery.Proofs.Query.Acceptance
import MediaQuery.Proofs.Session.Joined

/-!
# Well-formed trees

What every tree of the parser looks like. Names are in lower case and hold nothing that marks a part
of a query list, which is checked on the rows of the case table (`notMem_foreignCodes`) for whatever
text they are read from. Each query belongs to a segment of the text and each of its tests to a
group of that segment, `wellFormed_of_segmentOf`.
-/

namespace MediaQuery

open Text Query Grammar

/-! ### The parts of a tree -/

/-- A character of a name in a tree. -/
structure NameChar (c : Char) : Prop where
  capital : ¬ ('A' ≤ c ∧ c ≤ 'Z')
  blank : ¬ isBlank c
  mark : c ∉ ['(', ')', ',', ':']

/-- A media type or a feature in a tree. -/
structure TreeName (name : String) : Prop where
  ne_nil : name.toList ≠ []
  chars : ∀ c ∈ name.toList, NameChar c

/-- A value in a tree. -/
structure TreeValue (value : String) : Prop where
  mark : ∀ c ∈ value.toList, c ∉ [')', ',', '\t']
  head : ∀ c ∈ value.toList.head?, ¬ isBlank c
  last : ∀ c ∈ value.toList.getLast?, ¬ isBlank c

/--
A test of a tree and the body of its group. Some reading of the name leaves something of it, and the
first such reading is that of the test.
-/
structure FeatureTest.WellFormed (body : List Char) (t : FeatureTest) : Prop where
  feature : TreeName t.feature
  name : ∃ token rest, name? startsFeature continuesFeature (skipGaps body) = some (token, rest) ∧
    (nameReadings (lower token)).find? (fun r => !r.2.isEmpty) =
      some (t.modifier, t.feature.toList) ∧
    (t.value = none ↔ ':' ∉ rest)
  value : ∀ v ∈ t.value, TreeValue v

/-- A query of a tree and its segment of the text. -/
structure Query.WellFormed (raw : List Char) (q : Query) : Prop where
  type : TreeName q.mediaType
  grouped : (clauseText raw).head? = some '(' → q.mediaType = "all" ∧ q.inverse = false
  tests : ∃ clause, readClause? (expandTabs 0 (clauseText raw)) = some clause ∧
    List.Forall₂ FeatureTest.WellFormed (groups clause.groupText) q.tests

/-! ### Characters in lower case -/

/-- Code points of the characters that are in no name of a tree. -/
def foreignCodes : List Nat := List.range' 65 26 ++ blankCodes ++ [40, 41, 44, 58]

theorem nameChar_of_notMem {c : Char} (h : c.toNat ∉ foreignCodes) : NameChar c := by
  simp only [foreignCodes, List.mem_append, List.mem_range'_1, not_or] at h
  obtain ⟨⟨hcapital, hblank⟩, hmark⟩ := h
  refine ⟨?_, fun hb => hblank (toNat_mem_blankCodes hb), fun hm => hmark ?_⟩
  · rintro ⟨hlow, hhigh⟩
    have hlow' : 65 ≤ c.toNat := hlow
    have hhigh' : c.toNat ≤ 90 := hhigh
    omega
  · exact List.mem_map_of_mem (f := Char.toNat) hm

/-- No row of the case table leads to a character that is in no name. -/
theorem mapsFrom_foreign : MapsFrom lowerRows foreignCodes fun _ => false := by
  unfold MapsFrom
  decide +kernel

theorem lowerSequences_foreign :
    ∀ row ∈ lowerSequences, ∀ n ∈ row.2, (Char.ofNat n).toNat ∉ foreignCodes := by
  decide +kernel

theorem wordRanges_foreign : ∀ m ∈ foreignCodes, 128 ≤ m → ¬ inRanges wordRanges m := by
  decide +kernel

/-- The code point of a character of a name, from 128 on. -/
theorem mem_wordRanges {c : Char} (hc : continuesType c) (hge : 128 ≤ c.toNat) :
    inRanges wordRanges c.toNat := by
  simp only [continuesType, isWord, Bool.or_eq_true, Bool.and_eq_true, beq_iff_eq, or_assoc] at hc
  rcases hc with h | h | rfl | h | rfl
  · exact absurd (toNat_lt_of_isAsciiLetter h) (by omega)
  · exact absurd (toNat_lt_of_isAsciiDigit h) (by omega)
  · exact absurd hge (by decide)
  · exact h.2
  · exact absurd hge (by decide)

/-- What lower case makes of a character of a name. -/
theorem notMem_foreignCodes {c d : Char} (hc : continuesType c) (hd : d ∈ lowerChar c) :
    d.toNat ∉ foreignCodes := by
  rcases Nat.lt_or_ge c.toNat 128 with hlt | hge
  · have hascii : ∀ n ∈ List.range 128, continuesType (Char.ofNat n) →
        ∀ d ∈ lowerChar (Char.ofNat n), d.toNat ∉ foreignCodes := by decide +kernel
    have hchar : ∀ c : Char, c.toNat ∈ List.range 128 → continuesType c →
        ∀ d ∈ lowerChar c, d.toNat ∉ foreignCodes := fun c => forall_char_mem
      (P := fun c => continuesType c → ∀ d ∈ lowerChar c, d.toNat ∉ foreignCodes) hascii
    exact hchar c (List.mem_range.2 hlt) hc d hd
  · rw [lowerChar_eq_caseForm hge] at hd
    rcases caseForm_cases lowerSequences lowerRows c.toNat with ⟨row, hrow, -, hform⟩ | hform
    · rw [hform] at hd
      obtain ⟨n, hn, rfl⟩ := List.mem_map.1 hd
      exact lowerSequences_foreign row hrow n hn
    · rw [hform] at hd
      obtain rfl := List.mem_singleton.1 hd
      intro hm
      have hself := (mapsFrom_foreign.mem_or (by decide) hm).resolve_right Bool.false_ne_true
      exact wordRanges_foreign _ hself hge (mem_wordRanges hc hge)

/-- **Names in lower case** hold nothing that is foreign to a name of a tree. -/
theorem nameChar_lower {cs : List Char} (h : ∀ c ∈ cs, continuesType c) :
    ∀ d ∈ lower cs, NameChar d := by
  have hfrom : ∀ afterCased, ∀ d ∈ lowerFrom afterCased cs, d.toNat ∉ foreignCodes := by
    induction cs with
    | nil => simp [lowerFrom]
    | cons c cs ih =>
      obtain ⟨hc, hcs⟩ := List.forall_mem_cons.1 h
      intro afterCased d hd
      by_cases hsigma : c = capitalSigma
      · rw [lowerFrom, if_pos hsigma] at hd
        rcases List.mem_cons.1 hd with rfl | hd
        · split_ifs <;> decide
        · exact ih hcs _ d hd
      · rw [lowerFrom, if_neg hsigma] at hd
        rcases List.mem_append.1 hd with hd | hd
        · exact notMem_foreignCodes hc hd
        · exact ih hcs _ d hd
  exact fun d hd => nameChar_of_notMem (hfrom false d hd)

theorem treeName_lower {name : List Char} (hne : name ≠ []) (h : ∀ c ∈ name, continuesType c) :
    TreeName (String.ofList (lower name)) := by
  refine ⟨?_, ?_⟩
  · rw [String.toList_ofList]
    exact lower_ne_nil hne
  · rw [String.toList_ofList]
    exact nameChar_lower h

/-! ### Tests -/

/-- Some reading of a name leaves something of it, since taking nothing off is one. -/
theorem find?_nameReadings {name : List Char} (hne : name ≠ []) :
    (nameReadings name).find? (fun r => !r.2.isEmpty) = some (readName name) := by
  have hself : (none, name) ∈ nameReadings name := by
    rw [nameReadings_eq]
    exact List.mem_map.2 ⟨⟨"", none, "", name⟩, mem_readings.2 ⟨by simp, by simp, rfl⟩, rfl⟩
  have hsome : ((nameReadings name).find? fun r => !r.2.isEmpty).isSome :=
    List.find?_isSome.2 ⟨_, hself, by simpa using hne⟩
  obtain ⟨r, hr⟩ := Option.isSome_iff_exists.1 hsome
  rw [readName, hr, Option.getD_some]

theorem continuesType_of_isName {name : List Char}
    (h : IsName startsFeature continuesFeature name) : ∀ c ∈ name, continuesType c := by
  obtain ⟨c, cs, rfl, hc, hcs⟩ := h
  have hhead : continuesFeature c := by
    rw [continuesFeature, Bool.or_eq_true]
    exact .inl hc
  intro d hd
  rcases List.mem_cons.1 hd with rfl | hd
  · exact continuesType_of_continuesFeature hhead
  · exact continuesType_of_continuesFeature (hcs d hd)

/-- The feature of a name is not empty and in lower case. -/
theorem treeName_of_nameOf {name feature : List Char} {modifier : Option Modifier}
    (hname : IsName startsFeature continuesFeature name)
    (h : NameOf (lower name) modifier feature) : TreeName (String.ofList feature) := by
  obtain ⟨r, hof, -, -, rfl⟩ := h
  have hsub : r.feature ⊆ lower name := by
    rw [hof.joined]
    exact List.subset_append_right _ _
  refine ⟨?_, ?_⟩
  · rw [String.toList_ofList]
    exact hof.feature_ne
  · rw [String.toList_ofList]
    exact fun c hc => nameChar_lower (continuesType_of_isName hname) c (hsub hc)

/-- White space is trimmed off a value, and nothing is added to it. -/
theorem treeValue_trim {value : List Char} (h : ∀ c ∈ value, c ∉ [')', ',', '\t']) :
    TreeValue (String.ofList (trim value)) := by
  refine ⟨?_, ?_, ?_⟩
  · rw [String.toList_ofList]
    exact fun c hc => h c ((trim_isInfix value).subset hc)
  · rw [String.toList_ofList]
    exact head?_trim value
  · rw [String.toList_ofList]
    exact getLast?_trim value

theorem Grammar.Gap.colon_notMem {gap : List Char} (h : Gap gap) : ':' ∉ gap :=
  fun hm => by simpa using h _ hm

/-- The test of a group, whose body holds nothing that ends a group or a segment. -/
theorem wellFormed_of_testOf {body : List Char} {t : FeatureTest}
    (hmark : ∀ c ∈ body, c ∉ [')', ',', '\t']) (h : TestOf body t) : t.WellFormed body := by
  rcases h with ⟨hgap, hname, hgap', hof⟩ | ⟨hgap, hname, hgap', hvalue, hof⟩
  · rename_i gap name gap' feature modifier
    have hrest : ∀ c ∈ (gap' ++ []).head?, ¬ continuesFeature c :=
      head?_append_gap hgap' (by simp)
    rw [List.append_nil] at hrest
    have hread := (nameOf_iff (lower_ne_nil hname.ne_nil)).1 hof
    refine ⟨treeName_of_nameOf hname hof, ⟨name, gap', name?_body hgap hname hrest, ?_, ?_⟩, ?_⟩
    · rw [find?_nameReadings (lower_ne_nil hname.ne_nil), hread, String.toList_ofList]
    · exact iff_of_true rfl hgap'.colon_notMem
    · rintro v ⟨⟩
  · rename_i gap name gap' value feature modifier
    have hcolon : ∀ c ∈ (':' :: value).head?, ¬ continuesFeature c := by
      simp [show continuesFeature ':' = false by decide]
    have hread := (nameOf_iff (lower_ne_nil hname.ne_nil)).1 hof
    refine ⟨treeName_of_nameOf hname hof,
      ⟨name, _, name?_body hgap hname (head?_append_gap hgap' hcolon), ?_, ?_⟩, ?_⟩
    · rw [find?_nameReadings (lower_ne_nil hname.ne_nil), hread, String.toList_ofList]
    · exact iff_of_false (Option.some_ne_none _) (by simp)
    · rintro v ⟨⟩
      exact treeValue_trim fun c hc => hmark c (by simp [hc])

/-! ### Queries -/

/-- Text in which no group can be read has no test, and else each group has one. -/
theorem forall₂_of_testsOf {text : List Char} {tests : List FeatureTest}
    (h : TestsOf text tests) : List.Forall₂ TestOf (groups text) tests := by
  rcases h with hblank | ⟨hgroups, -, htests⟩
  · have hpar : '(' ∉ text := fun hm => absurd (hblank _ hm) (by decide)
    rw [groups_eq_nil hpar]
    exact .nil
  · rwa [groups_iff.1 hgroups]

theorem Grammar.Uncommented.sublist {cs out : List Char} (h : Uncommented cs out) :
    out.Sublist cs := by
  induction h with
  | nil => exact .slnil
  | @comment cs rest out hc _ ih =>
    obtain ⟨body, rfl, -⟩ := hc
    have hsuffix : rest <:+ '/' :: '*' :: (body ++ '*' :: '/' :: rest) :=
      ⟨'/' :: '*' :: (body ++ ['*', '/']), by simp⟩
    exact ih.trans hsuffix.sublist
  | char _ _ ih => exact ih.cons_cons _

/-- Comments, white space and tabs are all that a clause loses, and spaces all that it gains. -/
theorem mem_of_mem_expandTabs_clauseText {raw : List Char} {c : Char}
    (h : c ∈ expandTabs 0 (clauseText raw)) : c = ' ' ∨ c ∈ raw := by
  rcases mem_expandTabs h with rfl | h
  · exact .inl rfl
  · exact .inr ((uncommented_dropComments raw).sublist.subset ((trim_isInfix _).subset h))

/-- A clause that starts with a parenthesis starts with a group. -/
theorem type_of_readHead?_paren {cs rest : List Char} {head : Head}
    (h : readHead? ('(' :: cs) = some (head, rest)) : head.type = ("all", false) := by
  have hskip : skipGaps ('(' :: cs) = '(' :: cs := rfl
  rw [readHead?, readTyped?_paren, Option.none_or, readGrouped?, hskip] at h
  obtain ⟨p, -, hp⟩ := Option.map_eq_some_iff.1 h
  cases hp
  rfl

theorem treeName_of_headOf {cs group rest : List Char} {mediaType : String} {inverse : Bool}
    (h : HeadOf cs mediaType inverse group rest) : TreeName mediaType := by
  rcases h with ⟨-, hname⟩ | -
  · obtain ⟨-, ⟨c, cs, rfl, hc, hcs⟩, -⟩ := hname
    exact treeName_lower (List.cons_ne_nil c cs)
      (List.forall_mem_cons.2 ⟨continuesType_of_startsType hc, hcs⟩)
  · have hall : ∀ c ∈ "all".toList, c.toNat ∉ foreignCodes := by decide +kernel
    exact ⟨by decide, fun c hc => nameChar_of_notMem (hall c hc)⟩

/-- The groups of a segment are parts of its clause, and each has its test. -/
theorem exists_clause_of_segmentOf {raw : List Char} {q : Query} (h : SegmentOf raw q) :
    ∃ clause rest, readClause? (expandTabs 0 (clauseText raw)) = some clause ∧
      readHead? (expandTabs 0 (clauseText raw)) = some (clause.head, rest) ∧
      clause.head.type = (q.mediaType, q.inverse) ∧
      List.Forall₂ (fun body t => (∀ c ∈ body, c ≠ ')' ∧ c ∈ expandTabs 0 (clauseText raw)) ∧
        TestOf body t) (groups clause.groupText) q.tests := by
  have htab := tab_notMem_expandTabs 0 (clauseText raw)
  obtain ⟨hhead, hlast⟩ := ends_expandTabs (head?_trim (dropComments raw))
    (getLast?_trim (dropComments raw))
  obtain ⟨clause, hclause, htype, htests⟩ := readQuery_eq_ok_iff.1 (segmentOf_iff.1 h)
  obtain ⟨rest, -, hr, -, -⟩ := (readClause?_iff htab hhead hlast).1 ⟨clause, hclause, rfl, rfl⟩
  have hsub := groupText_subset htab hhead hlast hclause
  have hchars : ∀ body ∈ groups clause.groupText,
      ∀ c ∈ body, c ≠ ')' ∧ c ∈ expandTabs 0 (clauseText raw) := by
    intro body hbody c hc
    obtain ⟨-, hparen, hin⟩ := (groups_groups clause.groupText).body_isInfix hbody
    exact ⟨fun he => hparen (he ▸ hc), hsub (hin.subset (by simp [hc]))⟩
  have htestsOf := forall₂_of_testsOf ((testsOf_iff fun hm => htab (hsub hm)).2 htests)
  exact ⟨clause, rest, hclause, hr, htype, (List.forall₂_and_left _ _).2 ⟨hchars, htestsOf⟩⟩

/-- **The query of a segment** is well formed. -/
theorem wellFormed_of_segmentOf {raw : List Char} {q : Query} (hcomma : ',' ∉ raw)
    (h : SegmentOf raw q) : q.WellFormed raw := by
  have htab := tab_notMem_expandTabs 0 (clauseText raw)
  obtain ⟨hhead, -⟩ := ends_expandTabs (head?_trim (dropComments raw))
    (getLast?_trim (dropComments raw))
  obtain ⟨clause, rest, hclause, hr, htype, htests⟩ := exists_clause_of_segmentOf h
  refine ⟨?_, fun hparen => ?_, clause, hclause, htests.imp fun body t ⟨hbody, ht⟩ => ?_⟩
  · exact treeName_of_headOf ((headOf_iff htab hhead).2 ⟨clause.head, hr, htype, rfl⟩)
  · have hexpand : (expandTabs 0 (clauseText raw)).head? = (clauseText raw).head? :=
      head?_expandTabs (by simp [hparen])
    rw [hparen, List.head?_eq_some_iff] at hexpand
    obtain ⟨cs, hcs⟩ := hexpand
    rw [hcs] at hr
    rw [type_of_readHead?_paren hr, Prod.mk.injEq] at htype
    exact ⟨htype.1.symm, htype.2.symm⟩
  · refine wellFormed_of_testOf (fun c hc => ?_) ht
    obtain ⟨hparen, hmem⟩ := hbody c hc
    simp only [List.mem_cons, List.not_mem_nil, or_false]
    rintro (rfl | rfl | rfl)
    · exact hparen rfl
    · exact (mem_of_mem_expandTabs_clauseText hmem).elim (by decide) hcomma
    · exact htab hmem

/-! ### Sessions -/

namespace Session.State

variable {s : State} {route : Route} {query : String} {qs : QueryList}

/--
**Every tree is well formed.** An accepted text has one query for each of its segments, and each
query and test is in the form of its segment and its group.
-/
theorem parsed_is_wellFormed (hs : s.library.Coherent)
    (h : s.observe (.parse route query) = .ok (.inl qs)) :
    qs.length = query.toList.count ',' + 1 ∧
      List.Forall₂ Query.WellFormed (query.toList.splitOn ',') qs := by
  rw [observe_parse hs, plainParse_eq_ok_iff, parse_iff_spells] at h
  refine ⟨?_, ?_⟩
  · rw [← length_splitOn]
    exact h.length_eq.symm
  · have hsegments := (List.forall₂_and_left _ _).2 ⟨fun raw hraw => separator_notMem hraw, h⟩
    exact hsegments.imp fun raw q ⟨hcomma, hq⟩ => wellFormed_of_segmentOf hcomma hq

/-- Names of which a vendor part or a range is left, since nothing else would be. -/
theorem parsed_is_wellFormed_names :
    let query := "(min-: 1), not Print and (-moz-) and (max--MOZ-:\t2 )"
    let qs : QueryList :=
      [⟨"all", false, [⟨"min-", none, some "1"⟩]⟩,
        ⟨"print", true, [⟨"-moz-", none, none⟩, ⟨"-moz-", some .max, some "2"⟩]⟩]
    (initial.library.Coherent ∧
      initial.observe (.parse (.cache .standard) query) = .ok (.inl qs)) ∧
    qs.length = query.toList.count ',' + 1 ∧
    List.Forall₂ Query.WellFormed (query.toList.splitOn ',') qs := by
  intro query qs
  have hs : initial.library.Coherent := Library.coherent_initial
  have hparse : QueryList.parse query = .ok qs := by decide +kernel
  have hobserve : initial.observe (.parse (.cache .standard) query) = .ok (.inl qs) := by
    rw [observe_parse hs, plainParse_eq_ok_iff, hparse]
  exact ⟨⟨hs, hobserve⟩, parsed_is_wellFormed hs hobserve⟩

end Session.State

end MediaQuery
