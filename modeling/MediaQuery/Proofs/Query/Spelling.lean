import MediaQuery.Proofs.Query.BlankValue
import MediaQuery.Proofs.Query.Layout
import MediaQuery.Proofs.Query.RoundTrip

/-!
# Spellings of a feature name

A name is written with or without a vendor part in front, a range, a vendor part behind the range,
and in any letter case. Of a feature that starts with none of these parts nothing more can be taken
off, so every spelling is read as the feature and its range, `readName_of_plain`. A group is then
read as its feature, range and value, and texts that spell the same groups give equal trees.
-/

namespace MediaQuery

open Text Query Grammar

variable {cs : List Char}

/-! ### Taking parts off -/

/-- A feature in lower case that starts with no part which could be taken off. -/
structure PlainFeature (feature : List Char) : Prop where
  name : IsName startsPlainFeature continuesPlain feature
  bare : ∀ part ∈ ["-webkit-", "-moz-", "-o-", "min-", "max-"], ¬ part.toList <+: feature

theorem head?_withoutVendor {v : String} (hv : v ∈ vendors) (cs : List Char) :
    (withoutVendor (v.toList ++ cs)).head? = some cs := by
  simp only [vendors, List.mem_cons, List.not_mem_nil, or_false] at hv
  rcases hv with rfl | rfl | rfl <;> rfl

theorem withoutVendor_eq_self (h : ∀ v ∈ vendors, ¬ v.toList <+: cs) :
    withoutVendor cs = [cs] := by
  have hnone : vendors.filterMap (fun v => afterStart? v.toList cs) = [] := by
    refine List.filterMap_eq_nil_iff.2 fun v hv => Option.eq_none_iff_forall_ne_some.2 ?_
    exact fun rest hrest => h v hv ⟨rest, (afterStart?_eq_some_iff.1 hrest).symm⟩
  rw [withoutVendor, hnone, List.nil_append]

theorem head?_withoutModifier (m : Modifier) (cs : List Char) :
    (withoutModifier ((rangePart (some m)).toList ++ cs)).head? = some (some m, cs) := by
  cases m <;> rfl

theorem withoutModifier_eq_self (h : ∀ m, ¬ (rangePart (some m)).toList <+: cs) :
    withoutModifier cs = [(none, cs)] := by
  have hnone : [Modifier.min, Modifier.max].filterMap (fun m =>
      (afterStart? (m.name ++ "-").toList cs).map fun rest => (some m, rest)) = [] := by
    refine List.filterMap_eq_nil_iff.2 fun m _ => Option.eq_none_iff_forall_ne_some.2 ?_
    intro p hp
    obtain ⟨rest, hrest, -⟩ := Option.map_eq_some_iff.1 hp
    have hcs := (afterStart?_eq_some_iff.1 hrest).symm
    refine h m ⟨rest, ?_⟩
    cases m <;> exact hcs
  rw [withoutModifier, hnone, List.nil_append]

theorem head?_withoutInnerVendor (cs : List Char) :
    (withoutInnerVendor ("-moz-".toList ++ cs)).head? = some cs := rfl

theorem withoutInnerVendor_eq_self (h : ¬ "-moz-".toList <+: cs) :
    withoutInnerVendor cs = [cs] := by
  have hnone : afterStart? "-moz-".toList cs = none := Option.eq_none_iff_forall_ne_some.2
    fun rest hrest => h ⟨rest, (afterStart?_eq_some_iff.1 hrest).symm⟩
  rw [withoutInnerVendor, hnone]
  rfl

/-- The first reading takes off the first part at each of the three places. -/
theorem readName_of_head? {name a b feature : List Char} {m : Option Modifier}
    (ha : (withoutVendor name).head? = some a) (hb : (withoutModifier a).head? = some (m, b))
    (hc : (withoutInnerVendor b).head? = some feature) (hne : feature ≠ []) :
    readName name = (m, feature) := by
  obtain ⟨as, has⟩ := List.head?_eq_some_iff.1 ha
  obtain ⟨bs, hbs⟩ := List.head?_eq_some_iff.1 hb
  obtain ⟨cs, hcs⟩ := List.head?_eq_some_iff.1 hc
  have hfirst : ∃ rs, nameReadings name = (m, feature) :: rs := by
    simp [nameReadings, has, hbs, hcs]
  obtain ⟨rs, hrs⟩ := hfirst
  rw [readName, hrs, List.find?_cons_of_pos (by simpa using hne), Option.getD_some]

section Plain

variable {feature : List Char} (hf : PlainFeature feature)

include hf

theorem PlainFeature.withoutVendor_eq : withoutVendor feature = [feature] :=
  withoutVendor_eq_self fun v hv => hf.bare v (by
    simp only [vendors, List.mem_cons, List.not_mem_nil, or_false] at hv ⊢
    tauto)

theorem PlainFeature.withoutModifier_eq : withoutModifier feature = [(none, feature)] := by
  refine withoutModifier_eq_self fun m => hf.bare _ ?_
  cases m <;> simp [rangePart]

theorem PlainFeature.withoutInnerVendor_eq : withoutInnerVendor feature = [feature] :=
  withoutInnerVendor_eq_self (hf.bare _ (by simp))

end Plain

/-- **A plain feature is read from every spelling**, with the range in front of it. -/
theorem readName_of_plain {r : Reading} {name : List Char} (h : r.Of name)
    (hf : PlainFeature r.feature) : readName name = (r.modifier, r.feature) := by
  obtain ⟨vendor, modifier, inner, feature⟩ := r
  obtain ⟨hvendor, hinner, hne, rfl⟩ := h
  dsimp only at hvendor hinner hne hf ⊢
  have hfeature : (withoutInnerVendor (inner.toList ++ feature)).head? = some feature := by
    simp only [List.mem_cons, List.not_mem_nil, or_false] at hinner
    rcases hinner with rfl | rfl
    · exact congrArg List.head? hf.withoutInnerVendor_eq
    · exact head?_withoutInnerVendor feature
  have hrange : (withoutModifier ((rangePart modifier).toList ++ (inner.toList ++ feature))).head? =
      some (modifier, inner.toList ++ feature) := by
    cases modifier with
    | some m => exact head?_withoutModifier m _
    | none =>
      simp only [List.mem_cons, List.not_mem_nil, or_false] at hinner
      rcases hinner with rfl | rfl
      · exact congrArg List.head? hf.withoutModifier_eq
      · rfl
  simp only [List.append_assoc]
  rcases List.mem_cons.1 hvendor with rfl | hvendor
  · cases modifier with
    | some m =>
      -- a range is no vendor part
      refine readName_of_head? (a := (rangePart (some m)).toList ++ (inner.toList ++ feature))
        ?_ hrange hfeature hne
      cases m <;> rfl
    | none =>
      simp only [List.mem_cons, List.not_mem_nil, or_false] at hinner
      rcases hinner with rfl | rfl
      · exact readName_of_head? (congrArg List.head? hf.withoutVendor_eq) hrange hfeature hne
      · -- without a range the inner vendor part is taken off as the one in front
        exact readName_of_head? (head?_withoutVendor (v := "-moz-") (by simp [vendors]) feature)
          (congrArg List.head? hf.withoutModifier_eq)
          (congrArg List.head? hf.withoutInnerVendor_eq) hne
  · exact readName_of_head? (head?_withoutVendor hvendor _) hrange hfeature hne

/-! ### Letter case -/

/-- Code points of the characters of a plain feature. -/
def plainCodes : List Nat := [45, 95] ++ List.range' 48 10 ++ List.range' 97 26

theorem toNat_mem_plainCodes {c : Char} (h : continuesPlain c) : c.toNat ∈ plainCodes := by
  simp only [continuesPlain, startsPlain, isAsciiDigit, Bool.or_eq_true, beq_iff_eq,
    Bool.and_eq_true, decide_eq_true_eq] at h
  simp only [plainCodes, List.mem_append, List.mem_range'_1]
  rcases h with ((rfl | ⟨hlow, hhigh⟩) | rfl) | ⟨hlow, hhigh⟩
  · simp
  · have hlow' : 97 ≤ c.toNat := hlow
    have hhigh' : c.toNat ≤ 122 := hhigh
    omega
  · simp
  · have hlow' : 48 ≤ c.toNat := hlow
    have hhigh' : c.toNat ≤ 57 := hhigh
    omega

/-- What the case table leads to a plain character is a character of a name. -/
theorem mapsFrom_plain : MapsFrom lowerRows plainCodes continuesFeature := by
  refine .of_reaching 122 (by decide) ?_
  unfold MapsFrom
  decide +kernel

theorem lowerSequences_plain :
    ∀ row ∈ lowerSequences, ∃ n ∈ row.2, ¬ continuesPlain (Char.ofNat n) := by
  decide +kernel

/-- A character that is plain in lower case is a character of a name. -/
theorem continuesFeature_of_lowerChar {c : Char} (h : ∀ d ∈ lowerChar c, continuesPlain d) :
    continuesFeature c := by
  rcases Nat.lt_or_ge c.toNat 128 with hlt | hge
  · have hascii : ∀ n ∈ List.range 128, (∀ d ∈ lowerChar (Char.ofNat n), continuesPlain d) →
        continuesFeature (Char.ofNat n) := by decide +kernel
    exact forall_char_mem
      (P := fun c => (∀ d ∈ lowerChar c, continuesPlain d) → continuesFeature c) hascii
      (List.mem_range.2 hlt) h
  · rw [lowerChar_eq_caseForm hge] at h
    rcases caseForm_cases lowerSequences lowerRows c.toNat with ⟨row, hrow, -, hform⟩ | hform
    · obtain ⟨n, hn, hnot⟩ := lowerSequences_plain row hrow
      rw [hform] at h
      exact absurd (h _ (List.mem_map_of_mem hn)) hnot
    · rw [hform] at h
      have hmem := toNat_mem_plainCodes (h _ List.mem_cons_self)
      refine (mapsFrom_plain.mem_or (by decide) hmem).resolve_left fun hself => ?_
      have hall : ∀ n ∈ plainCodes, n < 128 := by decide
      exact absurd (hall _ hself) (by omega)

theorem continuesFeature_of_lower {name : List Char} (h : ∀ d ∈ lower name, continuesPlain d) :
    ∀ c ∈ name, continuesFeature c := by
  have hfrom : ∀ afterCased, (∀ d ∈ lowerFrom afterCased name, continuesPlain d) →
      ∀ c ∈ name, c ≠ capitalSigma ∧ continuesFeature c := by
    clear h
    induction name with
    | nil => simp
    | cons c cs ih =>
      intro afterCased h
      by_cases hsigma : c = capitalSigma
      · -- neither of the two small sigmas is plain
        rw [lowerFrom, if_pos hsigma] at h
        have hplain := h _ List.mem_cons_self
        split_ifs at hplain <;> exact absurd hplain (by decide)
      · rw [lowerFrom, if_neg hsigma] at h
        obtain ⟨hc, hcs⟩ := List.forall_mem_append.1 h
        exact List.forall_mem_cons.2 ⟨⟨hsigma, continuesFeature_of_lowerChar hc⟩, ih _ hcs⟩
  exact fun c hc => (hfrom false h c hc).2

/-- **A name that is plain in lower case** is a name. -/
theorem isName_of_lower {name : List Char}
    (h : IsName startsPlainFeature continuesPlain (lower name)) :
    IsName startsFeature continuesFeature name := by
  have hplain : ∀ d ∈ lower name, continuesPlain d := by
    obtain ⟨d, ds, hname, hd, hds⟩ := h
    rw [hname]
    exact List.forall_mem_cons.2 ⟨continuesPlain_of_startsPlainFeature hd, hds⟩
  have hall := continuesFeature_of_lower hplain
  cases name with
  | nil =>
    obtain ⟨d, ds, hname, -⟩ := h
    cases hname
  | cons c cs =>
    obtain ⟨hc, hcs⟩ := List.forall_mem_cons.1 hall
    refine ⟨c, cs, rfl, ?_, hcs⟩
    rw [continuesFeature, Bool.or_eq_true] at hc
    refine hc.resolve_right fun hdigit => ?_
    -- a digit is its own lower-case form, and starts no plain feature
    have hdigits : ∀ n ∈ List.range 128, isAsciiDigit (Char.ofNat n) →
        Char.ofNat n ≠ capitalSigma ∧ lowerChar (Char.ofNat n) = [Char.ofNat n] ∧
          ¬ startsPlainFeature (Char.ofNat n) := by decide +kernel
    obtain ⟨hsigma, hlower, hstart⟩ := forall_char_mem (P := fun c => isAsciiDigit c →
      c ≠ capitalSigma ∧ lowerChar c = [c] ∧ ¬ startsPlainFeature c) hdigits
      (List.mem_range.2 (toNat_lt_of_isAsciiDigit hdigit)) hdigit
    obtain ⟨d, ds, hname, hd, -⟩ := h
    rw [lower, lowerFrom, if_neg hsigma, hlower] at hname
    obtain ⟨rfl, -⟩ := List.cons_eq_cons.1 hname
    exact hstart hd

/-- A plain feature behind parts of a name. -/
theorem isName_of_plain {r : Reading} {name : List Char} (h : r.Of name)
    (hf : PlainFeature r.feature) : IsName startsPlainFeature continuesPlain name := by
  obtain ⟨vendor, modifier, inner, feature⟩ := r
  obtain ⟨hvendor, hinner, -, rfl⟩ := h
  obtain ⟨d, ds, rfl, hd, hds⟩ := hf.name
  have hparts : ∀ vendor ∈ ["", "-webkit-", "-moz-", "-o-"],
      ∀ modifier ∈ [none, some .min, some .max], ∀ inner ∈ ["", "-moz-"],
      (∀ c ∈ vendor.toList ++ (rangePart modifier).toList ++ inner.toList, continuesPlain c) ∧
      ∀ c ∈ (vendor.toList ++ (rangePart modifier).toList ++ inner.toList).head?,
        startsPlainFeature c := by
    decide +kernel
  have hmodifier : modifier ∈ [none, some .min, some .max] := by
    rcases modifier with - | - | - <;> simp
  obtain ⟨hall, hhead⟩ := hparts vendor hvendor modifier hmodifier inner hinner
  cases hpart : vendor.toList ++ (rangePart modifier).toList ++ inner.toList with
  | nil => exact ⟨d, ds, rfl, hd, hds⟩
  | cons c cs =>
    rw [hpart] at hall hhead
    obtain ⟨-, hcs⟩ := List.forall_mem_cons.1 hall
    refine ⟨c, cs ++ d :: ds, rfl, hhead c rfl, ?_⟩
    exact List.forall_mem_append.2
      ⟨hcs, List.forall_mem_cons.2 ⟨continuesPlain_of_startsPlainFeature hd, hds⟩⟩

/-! ### Groups -/

/-- What stands behind a name: nothing, or a colon and a value. -/
def valuePart : Option (List Char) → List Char
  | none => []
  | some value => ':' :: value

/-- The ways to write the body of a group with a feature, a range and a value. -/
inductive Spelling (feature : List Char) (modifier : Option Modifier)
    (value : Option (List Char)) : List Char → Prop
  | mk {gap name gap' : List Char} {vendor inner : String} :
      Gap gap → vendor ∈ ["", "-webkit-", "-moz-", "-o-"] → inner ∈ ["", "-moz-"] →
      lower name = vendor.toList ++ (rangePart modifier).toList ++ inner.toList ++ feature →
      Gap gap' → Spelling feature modifier value (gap ++ (name ++ (gap' ++ valuePart value)))

/-- The test of a feature, a range and a value, if the value can be read. -/
def spelledTest? (feature : List Char) (modifier : Option Modifier) :
    Option (List Char) → Option FeatureTest
  | none => some ⟨String.ofList feature, modifier, none⟩
  | some value => (readValue? value).map fun v => ⟨String.ofList feature, modifier, some v⟩

theorem spelledTest?_eq {feature : List Char} {modifier : Option Modifier}
    {value : Option (List Char)} (hvalue : ∀ v ∈ value, '\t' ∉ v ∧ ¬ Gap v) :
    spelledTest? feature modifier value =
      some ⟨String.ofList feature, modifier, value.map fun v => String.ofList (trim v)⟩ := by
  cases value with
  | none => rfl
  | some v =>
    obtain ⟨htab, hgap⟩ := hvalue v rfl
    rw [spelledTest?, (readValue?_eq_some_iff htab).2 ⟨hgap, rfl⟩]
    rfl

section Groups

variable {feature body : List Char} {modifier : Option Modifier} {value : Option (List Char)}

/-- A body is a name between gaps, whose test is known, and the value. -/
theorem Spelling.exists_front (h : Spelling feature modifier value body)
    (hf : PlainFeature feature) : ∃ front, body = front ++ valuePart value ∧
      (∀ c ∈ front, continuesFeature c ∨ c = ' ' ∨ c = '\n' ∨ c = '\r') ∧ front ≠ [] ∧
      readTest? front = some ⟨String.ofList feature, modifier, none⟩ := by
  rcases h with ⟨hgap, hvendor, hinner, hlower, hgap'⟩
  rename_i gap name gap' vendor inner
  have hof : Reading.Of ⟨vendor, modifier, inner, feature⟩ (lower name) :=
    ⟨hvendor, hinner, hf.name.ne_nil, hlower⟩
  have hname := isName_of_lower (isName_of_plain hof hf)
  have hchars : ∀ c ∈ gap ++ (name ++ gap'),
      continuesFeature c ∨ c = ' ' ∨ c = '\n' ∨ c = '\r' := by
    obtain ⟨d, ds, rfl, hd, hds⟩ := hname
    have hstart : continuesFeature d := by simp [continuesFeature, hd]
    simp only [List.forall_mem_append, List.forall_mem_cons]
    exact ⟨fun c hc => .inr (hgap c hc), ⟨.inl hstart, fun c hc => .inl (hds c hc)⟩,
      fun c hc => .inr (hgap' c hc)⟩
  have htab : '\t' ∉ gap ++ (name ++ gap') := fun hm => absurd (hchars _ hm) (by decide)
  have htest : TestOf (gap ++ (name ++ gap')) ⟨String.ofList feature, modifier, none⟩ :=
    .plain hgap hname hgap' ((nameOf_iff (lower_ne_nil hname.ne_nil)).2 (readName_of_plain hof hf))
  refine ⟨gap ++ (name ++ gap'), by simp, hchars, ?_, (testOf_iff htab).1 htest⟩
  simp [hname.ne_nil]

/-- **A group is read from every spelling** as its feature, its range and its value. -/
theorem Spelling.readTest?_eq (h : Spelling feature modifier value body)
    (hf : PlainFeature feature) :
    readTest? body = spelledTest? feature modifier value := by
  obtain ⟨front, rfl, hchars, -, hfront⟩ := h.exists_front hf
  cases value with
  | none =>
    rw [valuePart, List.append_nil, hfront]
    rfl
  | some v =>
    have hcolon : ':' ∉ front := fun hm => absurd (hchars _ hm) (by decide)
    rw [valuePart, readTest?_colon hcolon, hfront]
    rfl

end Groups

/-! ### Query lists -/

/-- A value that can stand in the only group of a query list. -/
structure PlainValue (value : List Char) : Prop where
  no_gap : ¬ Gap value
  no_paren : ')' ∉ value
  no_comma : ',' ∉ value
  no_tab : '\t' ∉ value
  no_opener : ¬ ['/', '*'] <:+: value

/-- The same body, or two spellings of one feature, range and value. -/
def SameSpelled (body body' : List Char) : Prop :=
  body = body' ∨ ∃ feature modifier value, PlainFeature feature ∧
    Spelling feature modifier value body ∧ Spelling feature modifier value body'

/-- Two segments with one media type and with groups that differ in their spelling only. -/
def Respelled (raw raw' : List Char) : Prop :=
  ∃ clause clause', readClause? (expandTabs 0 (clauseText raw)) = some clause ∧
    readClause? (expandTabs 0 (clauseText raw')) = some clause' ∧
    clause.head.type = clause'.head.type ∧ scannedGroups raw ≠ [] ∧
    List.Forall₂ SameSpelled (scannedGroups raw) (scannedGroups raw')

theorem SameSpelled.readTest?_eq {body body' : List Char} (h : SameSpelled body body') :
    readTest? body = readTest? body' := by
  rcases h with rfl | ⟨feature, modifier, value, hf, h, h'⟩
  · rfl
  · rw [h.readTest?_eq hf, h'.readTest?_eq hf]

theorem Respelled.readQuery_eq {raw raw' : List Char} (h : Respelled raw raw') :
    readQuery (clauseText raw) = readQuery (clauseText raw') := by
  obtain ⟨clause, clause', hclause, hclause', htype, hne, hgroups⟩ := h
  have hscanned : scannedGroups raw = groups clause.groupText := by rw [scannedGroups, hclause]
  have hscanned' : scannedGroups raw' = groups clause'.groupText := by
    rw [scannedGroups, hclause']
  have hne' : scannedGroups raw' ≠ [] := by
    rintro hnil
    rw [hnil, List.forall₂_nil_right_iff] at hgroups
    exact hne hgroups
  have htests := readTests?_congr (hgroups.imp fun _ _ hbody => hbody.readTest?_eq)
  rw [readQuery_of_readClause? hclause hscanned.symm hne,
    readQuery_of_readClause? hclause' hscanned'.symm hne', queryOfGroups_of_type htype,
    queryOfGroups, queryOfGroups, htests]

/-- **Respelled lists** are accepted alike and have the same tree. -/
theorem parse_respelled {query query' : String}
    (h : List.Forall₂ (fun raw raw' => raw = raw' ∨ Respelled raw raw')
      (query.toList.splitOn ',') (query'.toList.splitOn ',')) {qs : QueryList} :
    QueryList.parse query = .ok qs ↔ QueryList.parse query' = .ok qs := by
  rw [parse_iff_spells, parse_iff_spells, Spells, Spells]
  generalize query.toList.splitOn ',' = raws, query'.toList.splitOn ',' = raws' at h
  induction h generalizing qs with
  | nil => exact Iff.rfl
  | @cons raw raw' _ _ hraw _ ih =>
    have hq : ∀ q, SegmentOf raw q ↔ SegmentOf raw' q := by
      intro q
      rw [segmentOf_iff, segmentOf_iff]
      rcases hraw with rfl | hraw
      · rfl
      · rw [hraw.readQuery_eq]
    simp only [List.forall₂_cons_left_iff, hq, ih]

/-- A group alone is a query list, of the test that its body is with the tabs expanded. -/
theorem parse_group_expanded {body : List Char} {t : FeatureTest} (hbody : Body body)
    (hopener : ¬ ['/', '*'] <:+: body) (ht : readTest? (expandTabs 1 body) = some t) :
    QueryList.parse (String.ofList ('(' :: (body ++ [')']))) = .ok [⟨"all", false, [t]⟩] := by
  have hcomma : ',' ∉ (String.ofList ('(' :: (body ++ [')']))).toList := by
    simp [hbody.no_comma]
  have hopener' : ¬ ['/', '*'] <:+: '(' :: (body ++ [')']) :=
    no_opener_append_left (a := ['(']) (by simp)
      (no_opener_append hopener (no_opener_of_notMem (by simp)) (by simp))
  have htext : clauseText ('(' :: (body ++ [')'])) = '(' :: (body ++ [')']) := by
    have hlast : ('(' :: (body ++ [')'])).getLast? = some ')' := by
      rw [← List.cons_append, List.getLast?_concat]
    rw [clauseText, uncommented_iff.1 (uncommented_of_no_opener hopener'), trim_eq_self]
    · rintro c ⟨⟩
      decide
    · rw [hlast]
      rintro c ⟨⟩
      decide
  have hexpanded : expandTabs 0 ('(' :: (body ++ [')'])) = '(' :: (expandTabs 1 body ++ [')']) := by
    obtain ⟨column, h⟩ := exists_expandTabs_append 1 body [')']
    have hparen : expandTabs 0 ('(' :: (body ++ [')'])) = '(' :: expandTabs 1 (body ++ [')']) := rfl
    have hend : expandTabs column [')'] = [')'] := expandTabs_eq_self (by simp)
    rw [hparen, h, hend]
  have hbody' : Body (expandTabs 1 body) :=
    ⟨expandTabs_ne_nil hbody.ne_nil, notMem_expandTabs hbody.no_paren (by decide),
      notMem_expandTabs hbody.no_comma (by decide)⟩
  generalize expandTabs 1 body = expanded at *
  have hhead := readHead?_group_append hbody' []
  rw [List.append_nil] at hhead
  have hclause : readClause? ('(' :: (expanded ++ [')'])) = some ⟨.grouped expanded, none⟩ := by
    rw [readClause?, hhead]
    rfl
  have hgroups : groups (Clause.groupText ⟨.grouped expanded, none⟩) = [expanded] := by
    rw [groupText_eq, groups_headGroup_append hbody', groups_eq_nil (by simp)]
    rfl
  rw [parse_eq_ok_iff_of_no_comma hcomma, String.toList_ofList, htext]
  refine ⟨_, rfl, ?_⟩
  rw [readQuery_of_readClause? (by rw [hexpanded, hclause]) hgroups (List.cons_ne_nil _ _),
    queryOfGroups, readTests?, ht]
  rfl

/-- A group alone is a query list. -/
theorem parse_group {body : List Char} {t : FeatureTest} (hbody : Body body) (htab : '\t' ∉ body)
    (hopener : ¬ ['/', '*'] <:+: body) (ht : readTest? body = some t) :
    QueryList.parse (String.ofList ('(' :: (body ++ [')']))) = .ok [⟨"all", false, [t]⟩] :=
  parse_group_expanded hbody hopener (by rw [expandTabs_eq_self htab, ht])

/-- The body of a spelled group has what a group alone asks for. -/
theorem Spelling.body {feature body : List Char} {modifier : Option Modifier}
    {value : Option (List Char)} (h : Spelling feature modifier value body)
    (hf : PlainFeature feature) (hvalue : ∀ v ∈ value, PlainValue v) :
    Body body ∧ '\t' ∉ body ∧ ¬ ['/', '*'] <:+: body := by
  obtain ⟨front, rfl, hchars, hne, -⟩ := h.exists_front hf
  have hmarks : ∀ c ∈ [')', ',', '\t', '/'], c ∉ front := by
    intro c hc hm
    have hnot : ∀ c ∈ [')', ',', '\t', '/'],
        ¬ (continuesFeature c ∨ c = ' ' ∨ c = '\n' ∨ c = '\r') := by decide
    exact hnot c hc (hchars c hm)
  have hfront : ∀ t, ¬ ['/', '*'] <:+: t → ¬ ['/', '*'] <:+: front ++ t :=
    fun t => no_opener_append_left (hmarks '/' (by simp))
  cases value with
  | none =>
    rw [valuePart, List.append_nil]
    have hopener := hfront [] (no_opener_of_notMem (by simp))
    rw [List.append_nil] at hopener
    exact ⟨⟨hne, hmarks ')' (by simp), hmarks ',' (by simp)⟩, hmarks '\t' (by simp), hopener⟩
  | some v =>
    have hv := hvalue v rfl
    have hopener : ¬ ['/', '*'] <:+: [':'] ++ v := no_opener_append_left (by simp) hv.no_opener
    refine ⟨⟨by simp [hne], ?_, ?_⟩, ?_, hfront _ hopener⟩
    · simp [valuePart, hmarks ')' (by simp), hv.no_paren]
    · simp [valuePart, hmarks ',' (by simp), hv.no_comma]
    · simp [valuePart, hmarks '\t' (by simp), hv.no_tab]

/-! ### Sessions -/

namespace Session.State

variable {s : State}

/--
**The spelling of a feature name does not matter.** A plain feature with any vendor parts, in any
letter case, is read as the feature, its range and its value: of every group, and of a query list
of that group alone. Query lists that differ in such spellings only have the same trees, and match
the same environments.
-/
theorem spellings_agree (hs : s.library.Coherent) (route : Route) :
    (∀ {feature body : List Char} {modifier : Option Modifier} {value : Option (List Char)},
      PlainFeature feature → Spelling feature modifier value body →
      let t : FeatureTest :=
        ⟨String.ofList feature, modifier, value.map fun v => String.ofList (trim v)⟩
      ((∀ v ∈ value, '\t' ∉ v ∧ ¬ Gap v) → readTest? body = some t) ∧
      ((∀ v ∈ value, PlainValue v) →
        s.observe (.parse route (String.ofList ('(' :: (body ++ [')'])))) =
          .ok (.inl [⟨"all", false, [t]⟩]))) ∧
    ∀ query query' : String,
      List.Forall₂ (fun raw raw' => raw = raw' ∨ Respelled raw raw')
        (query.toList.splitOn ',') (query'.toList.splitOn ',') →
      ∀ qs, (s.observe (.parse route query) = .ok (.inl qs) ↔
          s.observe (.parse route query') = .ok (.inl qs)) ∧
        (s.observe (.parse route query) = .ok (.inl qs) →
          ∀ env, s.observe (.matchOnce (.query query) env) =
            s.observe (.matchOnce (.query query') env)) := by
  constructor
  · intro feature body modifier value hf hbody t
    refine ⟨fun hvalue => ?_, fun hvalue => ?_⟩
    · rw [hbody.readTest?_eq hf, spelledTest?_eq hvalue]
    · obtain ⟨hb, htab, hopener⟩ := hbody.body hf hvalue
      have ht : readTest? body = some t := by
        rw [hbody.readTest?_eq hf, spelledTest?_eq fun v hv =>
          ⟨(hvalue v hv).no_tab, (hvalue v hv).no_gap⟩]
      rw [observe_parse hs, plainParse_eq_ok_iff]
      exact parse_group hb htab hopener ht
  · intro query query' h qs
    simp only [observe_parse hs, observe_matchOnce hs, plainParse_eq_ok_iff]
    refine ⟨parse_respelled h, fun hparse env => ?_⟩
    rw [plainMatch, plainMatch, hparse, (parse_respelled h).1 hparse]

/-- A feature that nearly is a vendor part, and two spellings in the first of two segments. -/
theorem spellings_agree_width :
    let query := "screen and (-webkit-min-width: 3em), (color)"
    let query' := "screen and ( MIN--Moz-Width: 3em), (color)"
    (initial.library.Coherent ∧
      PlainFeature "-moz".toList ∧
      Spelling "-moz".toList (some .max) none "-o-max--moz--MOZ".toList ∧
      List.Forall₂ (fun raw raw' => raw = raw' ∨ Respelled raw raw')
        (query.toList.splitOn ',') (query'.toList.splitOn ',')) ∧
    initial.observe (.parse (.cache .standard) "(-o-max--moz--MOZ)") =
      .ok (.inl [⟨"all", false, [⟨"-moz", some .max, none⟩]⟩]) ∧
    ∀ qs, initial.observe (.parse (.cache .standard) query) = .ok (.inl qs) ↔
      initial.observe (.parse (.cache .standard) query') = .ok (.inl qs) := by
  intro query query'
  have hs : initial.library.Coherent := Library.coherent_initial
  have hmoz : PlainFeature "-moz".toList :=
    ⟨⟨'-', "moz".toList, rfl, by decide, by decide⟩, by decide⟩
  have hspelling : Spelling "-moz".toList (some .max) none "-o-max--moz--MOZ".toList :=
    @Spelling.mk _ _ _ [] "-o-max--moz--MOZ".toList [] "-o-" "-moz-" Gap.nil (by simp)
      (by simp) (by decide +kernel) Gap.nil
  have hwidth : PlainFeature "width".toList :=
    ⟨⟨'w', "idth".toList, rfl, by decide, by decide⟩, by decide⟩
  have hfirst : Spelling "width".toList (some .min) (some " 3em".toList)
      "-webkit-min-width: 3em".toList :=
    @Spelling.mk _ _ _ [] "-webkit-min-width".toList [] "-webkit-" "" Gap.nil (by simp)
      (by simp) (by decide +kernel) Gap.nil
  have hsecond : Spelling "width".toList (some .min) (some " 3em".toList)
      " MIN--Moz-Width: 3em".toList :=
    @Spelling.mk _ _ _ [' '] "MIN--Moz-Width".toList [] "" "-moz-" gap_space (by simp)
      (by simp) (by decide +kernel) Gap.nil
  have hscreen : Respelled "screen and (-webkit-min-width: 3em)".toList
      "screen and ( MIN--Moz-Width: 3em)".toList := by
    refine ⟨⟨.typed false "screen".toList, some "(-webkit-min-width: 3em)".toList⟩,
      ⟨.typed false "screen".toList, some "( MIN--Moz-Width: 3em)".toList⟩,
      by decide +kernel, by decide +kernel, rfl, by decide +kernel, ?_⟩
    have hgroups : scannedGroups "screen and (-webkit-min-width: 3em)".toList =
        ["-webkit-min-width: 3em".toList] := by decide +kernel
    have hgroups' : scannedGroups "screen and ( MIN--Moz-Width: 3em)".toList =
        [" MIN--Moz-Width: 3em".toList] := by decide +kernel
    rw [hgroups, hgroups']
    exact .cons (.inr ⟨_, _, _, hwidth, hfirst, hsecond⟩) .nil
  have hlists : List.Forall₂ (fun raw raw' => raw = raw' ∨ Respelled raw raw')
      (query.toList.splitOn ',') (query'.toList.splitOn ',') := by
    have hsplit : query.toList.splitOn ',' =
        ["screen and (-webkit-min-width: 3em)".toList, " (color)".toList] := by decide +kernel
    have hsplit' : query'.toList.splitOn ',' =
        ["screen and ( MIN--Moz-Width: 3em)".toList, " (color)".toList] := by decide +kernel
    rw [hsplit, hsplit']
    exact .cons (.inr hscreen) (.cons (.inl rfl) .nil)
  have hagree := spellings_agree hs (.cache .standard)
  refine ⟨⟨hs, hmoz, hspelling, hlists⟩, (hagree.1 hmoz hspelling).2 (by simp), fun qs => ?_⟩
  exact (hagree.2 query query' hlists qs).1

end Session.State

end MediaQuery
