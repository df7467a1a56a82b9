import MediaQuery.Proofs.Query.Acceptance
import MediaQuery.Proofs.Query.Canonical

/-!
# Reading back what was written

A canonical tree is read back from its text. Each part of the text spells its part of the tree:
`nameOf_nameText` a feature name, `testOf_body` a test, `queryOf_text` a query, `spells_text` the
query list; that the parser reads the grammar does the rest.
-/

namespace MediaQuery

open Text Query Grammar

/-! ### Feature names -/

theorem lowerFrom_eq_self {cs : List Char} (h : ∀ c ∈ cs, continuesPlain c) (afterCased : Bool) :
    lowerFrom afterCased cs = cs := by
  induction cs generalizing afterCased with
  | nil => rfl
  | cons c cs ih =>
    obtain ⟨hc, hcs⟩ := List.forall_mem_cons.1 h
    obtain ⟨hlower, hsigma, -⟩ := (plainChar hc).lower
    rw [lowerFrom, if_neg hsigma, hlower, ih hcs]
    rfl

theorem lower_eq_self {cs : List Char} (h : ∀ c ∈ cs, continuesPlain c) : lower cs = cs :=
  lowerFrom_eq_self h false

/-- Nothing is taken off a name that starts with no part. -/
theorem rank_eq_zero {r : Reading} {name : List Char} (h : r.Of name)
    (hparts : ∀ part ∈ ["-webkit-", "-moz-", "-o-", "min-", "max-"], ¬ part.toList <+: name) :
    r.rank = 0 := by
  obtain ⟨vendor, modifier, inner, feature⟩ := r
  obtain ⟨hvendor, hinner, -, hname⟩ := h
  obtain rfl : vendor = "" := by
    by_contra hne
    refine hparts vendor ?_ ⟨_, by simpa using hname.symm⟩
    simp only [List.mem_cons, List.not_mem_nil, or_false] at hvendor ⊢
    tauto
  obtain rfl : modifier = none := by
    rcases modifier with - | - | -
    · rfl
    · exact absurd ⟨inner.toList ++ feature, by simp [hname, rangePart]⟩ (hparts "min-" (by simp))
    · exact absurd ⟨inner.toList ++ feature, by simp [hname, rangePart]⟩ (hparts "max-" (by simp))
  obtain rfl : inner = "" := by
    by_contra hne
    obtain rfl : inner = "-moz-" := by simpa [hne] using hinner
    exact hparts "-moz-" (by simp) ⟨feature, by simpa [rangePart] using hname.symm⟩
  rfl

/-- Behind a range nothing is taken off a feature without a vendor part. -/
theorem rank_le_two {r : Reading} {m : Modifier} {feature : List Char}
    (h : r.Of ((rangePart (some m)).toList ++ feature)) (hpart : ¬ "-moz-".toList <+: feature) :
    r.rank ≤ 2 := by
  obtain ⟨vendor, modifier, inner, rest⟩ := r
  obtain ⟨hvendor, hinner, -, hname⟩ := h
  obtain rfl : vendor = "" := by
    simp only [List.mem_cons, List.not_mem_nil, or_false] at hvendor
    rcases hvendor with rfl | rfl | rfl | rfl
    · rfl
    all_goals cases m <;> simp [rangePart] at hname
  rcases modifier with - | m'
  · simp only [Reading.rank]
    split_ifs <;> simp_all
  · -- the range read is the range written, so an inner part would start the feature
    obtain rfl : inner = "" := by
      by_contra hne
      obtain rfl : inner = "-moz-" := by simpa [hne] using hinner
      refine hpart ⟨rest, ?_⟩
      cases m <;> cases m' <;> simp [rangePart] at hname
      all_goals simpa using hname.symm
    rfl

theorem nameOf_nameText {t : FeatureTest} (h : t.Canonical) :
    NameOf t.nameText t.modifier t.feature.toList := by
  have hof : Reading.Of ⟨"", t.modifier, "", t.feature.toList⟩ t.nameText :=
    ⟨by simp, by simp, h.feature.ne_nil, by simp [FeatureTest.nameText]⟩
  refine ⟨_, hof, fun r hr => ?_, rfl, rfl⟩
  cases hm : t.modifier with
  | none =>
    rw [FeatureTest.nameText, hm] at hr
    have hpart := h.no_part hm
    rw [rank_eq_zero (by simpa [rangePart] using hr) fun part hmem => ?_]
    · exact Nat.zero_le _
    · simp only [List.mem_cons, List.not_mem_nil, or_false] at hmem
      rcases hmem with rfl | rfl | rfl | rfl | rfl
      · exact hpart _ (by simp)
      · exact h.no_inner
      · exact hpart _ (by simp)
      · exact hpart _ (by simp)
      · exact hpart _ (by simp)
  | some m =>
    rw [FeatureTest.nameText, hm] at hr
    exact rank_le_two hr h.no_inner

/-! ### Tests -/

theorem isName_nameText {t : FeatureTest} (h : t.Canonical) :
    IsName startsFeature continuesFeature t.nameText := by
  have hplain := h.plain_nameText
  rw [FeatureTest.nameText] at hplain ⊢
  cases hm : t.modifier with
  | none =>
    obtain ⟨c, cs, hname, hc, hcs⟩ := h.feature
    refine ⟨c, cs, by rw [hname]; rfl, ?_, fun d hd => (plainChar (hcs d hd)).feature⟩
    exact (plainChar (continuesPlain_of_startsPlainFeature hc)).starts_feature hc
  | some m =>
    rw [hm] at hplain
    obtain ⟨c, cs, hname, hc⟩ : ∃ c cs, (rangePart (some m)).toList ++ t.feature.toList = c :: cs ∧
        startsFeature c := by
      cases m
      · exact ⟨'m', _, rfl, by decide⟩
      · exact ⟨'m', _, rfl, by decide⟩
    rw [hname] at hplain
    exact ⟨c, cs, hname, hc, fun d hd => (plainChar (hplain d (List.mem_cons_of_mem c hd))).feature⟩

/-- A canonical test is spelled by its text. -/
theorem testOf_body {t : FeatureTest} (h : t.Canonical) : TestOf t.body t := by
  have hof := nameOf_nameText h
  rw [← lower_eq_self h.plain_nameText] at hof
  have hname := isName_nameText h
  rw [FeatureTest.body]
  obtain ⟨feature, modifier, value⟩ := t
  cases hv : value with
  | none =>
    subst hv
    have htest := TestOf.plain Gap.nil hname Gap.nil hof
    rwa [String.ofList_toList] at htest
  | some v =>
    subst hv
    obtain ⟨hhead, hlast, hne, -⟩ := h.value v rfl
    have hspace : ∀ c ∈ [' '], isBlank c := by decide
    have htrim : trim (' ' :: v.toList) = v.toList := by
      rw [← List.singleton_append, trim_append_left hspace, trim_eq_self hhead hlast]
    have hgap : ¬ Gap (' ' :: v.toList) := by
      intro hgap
      obtain ⟨c, cs, hcs⟩ := List.exists_cons_of_ne_nil hne
      rw [hcs] at hgap hhead
      exact hhead c rfl (hgap.isBlank c (by simp))
    have htest := TestOf.valued Gap.nil hname Gap.nil hgap hof
    rwa [String.ofList_toList, htrim, String.ofList_toList] at htest

theorem FeatureTest.Canonical.body_ne_nil {t : FeatureTest} (h : t.Canonical) : t.body ≠ [] :=
  List.append_ne_nil_of_left_ne_nil (isName_nameText h).ne_nil _

/-- The groups of written tests are their bodies. -/
theorem groups_testsText {ts : List FeatureTest} (h : ∀ t ∈ ts, t.Canonical) :
    Groups (testsText ts) (ts.map FeatureTest.body) := by
  induction ts with
  | nil => exact .nil
  | cons t ts ih =>
    obtain ⟨ht, hts⟩ := List.forall_mem_cons.1 h
    rw [testsText_cons, List.map_cons]
    refine Groups.append_left (by simp) (.group ?_ (ih hts))
    exact ⟨rfl, ht.body_ne_nil, ht.notMem_body (.inl rfl)⟩

/-! ### Queries -/

/-- Written tests are the end of a clause that spells them. -/
theorem exists_tailOf_testsText {ts : List FeatureTest} (h : ∀ t ∈ ts, t.Canonical) :
    ∃ tail, TailOf (testsText ts) tail ∧ TestsOf tail ts := by
  have hgroups := groups_testsText h
  have htests : List.Forall₂ TestOf (ts.map FeatureTest.body) ts := by
    rw [List.forall₂_map_left_iff, List.forall₂_same]
    exact fun t ht => testOf_body (h t ht)
  cases ts with
  | nil => exact ⟨[], .nil, .blank (by simp)⟩
  | cons t ts =>
    have hand : Keyword "and" AndChar
        ("and".toList ++ ' ' :: '(' :: (t.body ++ ')' :: testsText ts))
        (' ' :: '(' :: (t.body ++ ')' :: testsText ts)) := by
      refine ⟨_, rfl, by decide, fun c hc => ?_⟩
      obtain rfl : ' ' = c := by simpa using hc
      rw [takenFor_andChar_iff]
      decide
    have hsplit : testsText (t :: ts) =
        " and".toList ++ ' ' :: '(' :: (t.body ++ ')' :: testsText ts) := by simp
    refine ⟨_, ?_, .groups (Groups.of_append_left ?_ (hsplit ▸ hgroups)) (by simp) htests⟩
    · have htail := TailOf.and gap_space hand
      rw [hsplit]
      exact htail
    · simp

theorem head?_testsText (ts : List FeatureTest) : ∀ c ∈ (testsText ts).head?, c = ' ' := by
  intro c hc
  cases ts with
  | nil => simp at hc
  | cons t ts => simpa [eq_comm] using hc

/-- A canonical query that is not inverted starts with no keyword. -/
theorem not_keyword_text {q : Query} (h : q.Canonical) (hinv : q.inverse = false) {word : String}
    (hword : word ∈ ["not", "only"]) {rest : List Char} :
    ¬ Keyword word HeadChar (q.mediaType.toList ++ testsText q.tests) rest := by
  rintro ⟨w, hsplit, hw, hrest⟩
  obtain ⟨hne, hdigit⟩ := h.no_keyword hinv word hword
  have hplain := h.plain_type
  -- a word that lies within the type is the keyword as it stands
  have hword_of : w <+: q.mediaType.toList → w = word.toList := by
    intro hpre
    have hid : w.map Char.toLower = w.map id :=
      List.map_congr_left fun c hc => (plainChar (hplain c (hpre.subset hc))).lower.2.2
    rw [← hw, hid, List.map_id]
  rcases List.append_eq_append_iff.1 hsplit with ⟨a, hwa, htests⟩ | ⟨b, htype, rfl⟩
  · -- the keyword takes at least the whole type; past it stands a space, which is no letter
    cases a with
    | nil =>
      rw [List.append_nil] at hwa
      exact hne (String.toList_injective (hwa ▸ hword_of (hwa ▸ List.prefix_rfl)))
    | cons c a =>
      obtain rfl : c = ' ' := head?_testsText q.tests c (by rw [htests]; rfl)
      have hspace : ' ' ∈ word.toList := by
        rw [← hw, hwa]
        simp [show Char.toLower ' ' = ' ' by decide]
      simp only [List.mem_cons, List.not_mem_nil, or_false] at hword
      rcases hword with rfl | rfl <;> simp at hspace
  · -- the keyword ends within the type, where only a digit would let it end
    have hw' := hword_of ⟨b, htype.symm⟩
    cases b with
    | nil => exact hne (String.toList_injective (by rw [htype, List.append_nil, hw']))
    | cons d b =>
      have hd : continuesPlain d := hplain d (by rw [htype]; simp)
      rcases (plainChar hd).head with hd | hd
      · exact hrest d rfl (takenFor_headChar_iff.2 hd)
      · exact hdigit d b hd (by rw [htype, hw'])

theorem lead_text {q : Query} (h : q.Canonical) :
    Lead q.text.toList q.inverse (q.mediaType.toList ++ testsText q.tests) := by
  rw [q.toList_text]
  cases hinv : q.inverse with
  | true =>
    have hnot : Keyword "not" HeadChar
        ("not".toList ++ ' ' :: (q.mediaType.toList ++ testsText q.tests))
        ([' '] ++ (q.mediaType.toList ++ testsText q.tests)) := by
      refine ⟨_, rfl, by decide, fun c hc => ?_⟩
      obtain rfl : ' ' = c := by simpa using hc
      rw [takenFor_headChar_iff]
      decide
    exact Lead.not hnot gap_space
  | false =>
    exact .none (fun _ => not_keyword_text h hinv (by simp))
      fun _ => not_keyword_text h hinv (by simp)

theorem typeName_text {q : Query} (h : q.Canonical) :
    TypeName (q.mediaType.toList ++ testsText q.tests) q.mediaType.toList (testsText q.tests) := by
  refine ⟨rfl, ?_, fun c hc => ?_⟩
  · obtain ⟨c, cs, hname, hc, hcs⟩ := h.type
    exact ⟨c, cs, hname, (plainChar (continuesPlain_of_startsPlain hc)).starts hc,
      fun d hd => (plainChar (hcs d hd)).type⟩
  · obtain rfl := head?_testsText _ c hc
    decide

/-- A canonical query is spelled by its text. -/
theorem queryOf_text {q : Query} (h : q.Canonical) : QueryOf q.text.toList q := by
  obtain ⟨tail, htail, htests⟩ := exists_tailOf_testsText h.tests
  have hhead := HeadOf.typed (lead_text h) (typeName_text h)
  rw [lower_eq_self h.plain_type, String.ofList_toList] at hhead
  exact ⟨[], _, tail, hhead, htail, htests⟩

/-! ### Query lists -/

/-- White space in front of a canonical query does not change what is read. -/
theorem segmentOf_text {q : Query} (h : q.Canonical) {gap : List Char} (hgap : Gap gap) :
    SegmentOf (gap ++ q.text.toList) q := by
  have hslash : '/' ∉ gap := fun hm => by simpa using hgap _ hm
  refine ⟨_, uncommented_of_no_opener (no_opener_append_left hslash h.no_opener_text), ?_⟩
  rw [trim_append_left hgap.isBlank, trim_eq_self h.head?_text h.getLast?_text,
    expandTabs_eq_self (h.notMem_text (.inr rfl))]
  exact queryOf_text h

theorem intercalate_cons_left (separator a : List Char) (c : Char) (parts : List (List Char)) :
    separator.intercalate ((c :: a) :: parts) = c :: separator.intercalate (a :: parts) := by
  cases parts <;> simp

theorem intercalate_comma_space (a : List Char) (parts : List (List Char)) :
    [',', ' '].intercalate (a :: parts) = [','].intercalate (a :: parts.map (' ' :: ·)) := by
  induction parts generalizing a with
  | nil => rfl
  | cons b parts ih =>
    rw [List.map_cons, List.intercalate_cons_cons, List.intercalate_cons_cons,
      intercalate_cons_left, ih]
    simp

theorem splitOn_text {q : Query} {qs : QueryList} (h : ∀ q' ∈ q :: qs, q'.Canonical) :
    (QueryList.text (q :: qs)).toList.splitOn ',' =
      q.text.toList :: qs.map fun q' => ' ' :: q'.text.toList := by
  have hcomma : ∀ part ∈ q.text.toList :: qs.map (fun q' => ' ' :: q'.text.toList), ',' ∉ part := by
    obtain ⟨hq, hqs⟩ := List.forall_mem_cons.1 h
    rw [List.forall_mem_cons, List.forall_mem_map]
    refine ⟨hq.notMem_text (.inl rfl), fun q' hq' => ?_⟩
    simpa using (hqs q' hq').notMem_text (.inl rfl)
  have htext : (QueryList.text (q :: qs)).toList =
      [','].intercalate (q.text.toList :: qs.map fun q' => ' ' :: q'.text.toList) := by
    have hmap : (qs.map Query.text).map String.toList = qs.map fun q' => q'.text.toList :=
      List.map_map
    rw [QueryList.text, String.toList_intercalate, List.map_cons, List.map_cons, hmap]
    rw [show ", ".toList = [',', ' '] from rfl, intercalate_comma_space, List.map_map]
    rfl
  rw [htext, List.splitOn_intercalate ',' hcomma (List.cons_ne_nil _ _)]

/-- **Canonical query lists are spelled by their text.** -/
theorem spells_text {qs : QueryList} (hne : qs ≠ []) (h : ∀ q ∈ qs, q.Canonical) :
    Spells qs.text qs := by
  obtain ⟨q, qs, rfl⟩ := List.exists_cons_of_ne_nil hne
  obtain ⟨hq, hqs⟩ := List.forall_mem_cons.1 h
  rw [Spells, splitOn_text h]
  refine .cons (segmentOf_text hq Gap.nil) ?_
  rw [List.forall₂_map_left_iff, List.forall₂_same]
  exact fun q' hq' => segmentOf_text (hqs q' hq') gap_space

/--
**Printing and parsing are inverse on canonical trees.** Through an empty cache the text of a
canonical tree is parsed to the tree itself.
-/
theorem parse_text {qs : QueryList} {lib : Library} {n : Nat} (hne : qs ≠ [])
    (h : ∀ q ∈ qs, q.Canonical) (hempty : lib.cache n = .empty) :
    ∃ tree lib', lib.parse n qs.text = .ok (tree, lib') ∧ lib'.tree tree = qs := by
  have hnone : (lib.cache n).get? qs.text = none := by rw [hempty]; rfl
  exact (exists_parse_iff_spells hnone).2 (spells_text hne h)

/-- A type that only starts like a keyword, a value of marks, and an inverted query. -/
theorem parse_text_notes :
    let qs : QueryList :=
      [⟨"notes", false, [⟨"-x", some .max, some "*( 4 / 3"⟩, ⟨"color", none, none⟩]⟩,
        ⟨"only", true, []⟩]
    ∃ tree lib', Library.initial.parse 0 qs.text = .ok (tree, lib') ∧ lib'.tree tree = qs := by
  intro qs
  have hvalue : CanonicalValue "*( 4 / 3".toList := by
    constructor <;> decide
  have hx : FeatureTest.Canonical ⟨"-x", some .max, some "*( 4 / 3"⟩ :=
    ⟨⟨'-', ['x'], rfl, by decide, by decide⟩, by decide, nofun, by simpa using hvalue⟩
  have hcolor : FeatureTest.Canonical ⟨"color", none, none⟩ :=
    ⟨⟨'c', _, rfl, by decide, by decide⟩, by decide, fun _ => by decide, nofun⟩
  have hnotes : Query.Canonical
      ⟨"notes", false, [⟨"-x", some .max, some "*( 4 / 3"⟩, ⟨"color", none, none⟩]⟩ := by
    refine ⟨⟨'n', _, rfl, by decide, by decide⟩, fun _ word hword => ⟨?_, ?_⟩, by simp [hx, hcolor]⟩
    · simp only [List.mem_cons, List.not_mem_nil, or_false] at hword
      rcases hword with rfl | rfl <;> decide
    · intro d rest hd heq
      simp only [List.mem_cons, List.not_mem_nil, or_false] at hword
      rcases hword with rfl | rfl
      · obtain ⟨rfl, -⟩ : 'e' = d ∧ _ := by simpa using heq
        exact absurd hd (by decide)
      · simp at heq
  have honly : Query.Canonical ⟨"only", true, []⟩ :=
    ⟨⟨'o', _, rfl, by decide, by decide⟩, nofun, nofun⟩
  have hcan : ∀ q ∈ qs, q.Canonical := by
    simp [qs, hnotes, honly]
  exact parse_text (List.cons_ne_nil _ _) hcan rfl

end MediaQuery
