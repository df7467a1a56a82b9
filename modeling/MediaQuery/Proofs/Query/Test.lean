import MediaQuery.Proofs.Query.Token

/-!
# Feature tests

`readName` takes a feature name apart as the grammar does: its candidates are listed in falling
rank (`readings_sorted`), so the first that leaves something for the feature is the one of highest
rank. `testOf_iff` then reads the body of a group.
-/

namespace MediaQuery.Grammar

open Text Query

/-! ### Candidates in falling rank -/

/-- The vendor parts that a name may start with, each with what follows it. -/
def vendorChoices (cs : List Char) : List (String × List Char) :=
  (vendors.filterMap fun v => (afterStart? v.toList cs).map fun rest => (v, rest)) ++ [("", cs)]

/-- The inner vendor parts that may follow, each with what is left. -/
def innerChoices (cs : List Char) : List (String × List Char) :=
  ((afterStart? "-moz-".toList cs).map fun rest => ("-moz-", rest)).toList ++ [("", cs)]

/-- All readings of a name, also those that leave nothing for the feature. -/
def readings (name : List Char) : List Reading :=
  (vendorChoices name).flatMap fun a => (withoutModifier a.2).flatMap fun b =>
    (innerChoices b.2).map fun c => ⟨a.1, b.1, c.1, c.2⟩

theorem mem_vendorChoices {cs rest : List Char} {v : String} :
    (v, rest) ∈ vendorChoices cs ↔
      v ∈ ["", "-webkit-", "-moz-", "-o-"] ∧ cs = v.toList ++ rest := by
  simp only [vendorChoices, vendors, List.mem_append, List.mem_filterMap, Option.map_eq_some_iff,
    afterStart?_eq_some_iff, List.mem_cons, List.not_mem_nil, or_false, Prod.mk.injEq]
  constructor
  · rintro (⟨w, hw, r, rfl, rfl, rfl⟩ | ⟨rfl, rfl⟩)
    · exact ⟨.inr hw, rfl⟩
    · exact ⟨.inl rfl, rfl⟩
  · rintro ⟨rfl | hv, rfl⟩
    · exact .inr ⟨rfl, rfl⟩
    · exact .inl ⟨v, hv, rest, rfl, rfl, rfl⟩

theorem mem_withoutModifier {cs rest : List Char} {m : Option Modifier} :
    (m, rest) ∈ withoutModifier cs ↔ cs = (rangePart m).toList ++ rest := by
  simp only [withoutModifier, List.mem_append, List.mem_filterMap, Option.map_eq_some_iff,
    afterStart?_eq_some_iff, List.mem_cons, List.not_mem_nil, or_false, Prod.mk.injEq]
  constructor
  · rintro (⟨w, rfl | rfl, r, rfl, rfl, rfl⟩ | ⟨rfl, rfl⟩) <;> rfl
  · rintro rfl
    match m with
    | none => exact .inr ⟨rfl, rfl⟩
    | some .min => exact .inl ⟨.min, .inl rfl, rest, rfl, rfl, rfl⟩
    | some .max => exact .inl ⟨.max, .inr rfl, rest, rfl, rfl, rfl⟩

theorem mem_innerChoices {cs rest : List Char} {v : String} :
    (v, rest) ∈ innerChoices cs ↔ v ∈ ["", "-moz-"] ∧ cs = v.toList ++ rest := by
  simp only [innerChoices, List.mem_append, Option.mem_toList, Option.map_eq_some_iff,
    afterStart?_eq_some_iff, List.mem_cons, List.not_mem_nil, or_false, Prod.mk.injEq]
  constructor
  · rintro (⟨r, rfl, rfl, rfl⟩ | ⟨rfl, rfl⟩)
    · exact ⟨.inr rfl, rfl⟩
    · exact ⟨.inl rfl, rfl⟩
  · rintro ⟨rfl | rfl, rfl⟩
    · exact .inr ⟨rfl, rfl⟩
    · exact .inl ⟨rest, rfl, rfl, rfl⟩

theorem mem_readings {name : List Char} {r : Reading} :
    r ∈ readings name ↔ r.vendor ∈ ["", "-webkit-", "-moz-", "-o-"] ∧ r.inner ∈ ["", "-moz-"] ∧
      name = r.vendor.toList ++ (rangePart r.modifier).toList ++ r.inner.toList ++ r.feature := by
  simp only [readings, List.mem_flatMap, List.mem_map, Prod.exists]
  constructor
  · rintro ⟨v, a, ha, m, b, hb, i, c, hc, rfl⟩
    obtain ⟨hv, rfl⟩ := mem_vendorChoices.1 ha
    obtain rfl := mem_withoutModifier.1 hb
    obtain ⟨hi, rfl⟩ := mem_innerChoices.1 hc
    exact ⟨hv, hi, by simp⟩
  · rintro ⟨hv, hi, rfl⟩
    refine ⟨r.vendor, _, mem_vendorChoices.2 ⟨hv, by simp only [List.append_assoc]⟩, r.modifier, _,
      mem_withoutModifier.2 rfl, r.inner, _, mem_innerChoices.2 ⟨hi, rfl⟩, rfl⟩

theorem of_iff_mem_readings {name : List Char} {r : Reading} :
    r.Of name ↔ r ∈ readings name ∧ r.feature ≠ [] := by
  rw [mem_readings]
  exact ⟨fun h => ⟨⟨h.vendor_mem, h.inner_mem, h.joined⟩, h.feature_ne⟩,
    fun ⟨⟨hv, hi, hj⟩, hf⟩ => ⟨hv, hi, hf, hj⟩⟩

/-- Of parts none of which starts another one, at most one can be taken off. -/
theorem choices_sorted {α β : Type} {parts : List β} {start : β → List Char} {tag : β → α}
    {bare : α}
    (hstart : parts.Pairwise fun a b => ∀ rest rest', start a ++ rest ≠ start b ++ rest')
    (htag : ∀ part ∈ parts, tag part ≠ bare) (cs : List Char) :
    ((parts.filterMap fun part => (afterStart? (start part) cs).map fun rest => (tag part, rest)) ++
      [(bare, cs)]).Pairwise fun a b => a.1 ≠ bare ∧ b.1 = bare := by
  rw [List.pairwise_append, List.pairwise_filterMap]
  refine ⟨hstart.imp fun {v w} h a ha b hb => ?_, List.pairwise_singleton _ _, fun a ha b hb => ?_⟩
  · obtain ⟨rest, hrest, -⟩ := Option.map_eq_some_iff.1 ha
    obtain ⟨rest', hrest', -⟩ := Option.map_eq_some_iff.1 hb
    rw [afterStart?_eq_some_iff] at hrest hrest'
    exact absurd (hrest.symm.trans hrest') (h rest rest')
  · obtain ⟨part, hpart, ha⟩ := List.mem_filterMap.1 ha
    obtain ⟨rest, -, rfl⟩ := Option.map_eq_some_iff.1 ha
    obtain rfl := List.mem_singleton.1 hb
    exact ⟨htag part hpart, rfl⟩

theorem vendorChoices_sorted (cs : List Char) :
    (vendorChoices cs).Pairwise fun a b => a.1 ≠ "" ∧ b.1 = "" :=
  choices_sorted (by simp [vendors]) (by simp [vendors]) cs

theorem withoutModifier_sorted (cs : List Char) :
    (withoutModifier cs).Pairwise fun a b => a.1 ≠ none ∧ b.1 = none :=
  choices_sorted (by simp [Modifier.name]) (fun m _ => Option.some_ne_none m) cs

theorem innerChoices_sorted (cs : List Char) :
    (innerChoices cs).Pairwise fun a b => a.1 ≠ "" ∧ b.1 = "" := by
  rw [innerChoices]
  cases afterStart? "-moz-".toList cs with
  | none => exact List.pairwise_singleton _ _
  | some rest => exact List.pairwise_pair.2 ⟨by simp, rfl⟩

/-- Readings come in falling rank. -/
theorem readings_sorted (name : List Char) :
    (readings name).Pairwise fun r r' => r'.rank < r.rank := by
  -- readings that agree up to the inner part, up to the range, and only up to the vendor part
  refine List.pairwise_flatMap.2 ⟨fun a _ => List.pairwise_flatMap.2 ⟨fun b _ => ?_, ?_⟩, ?_⟩
  · refine List.pairwise_map.2 ((innerChoices_sorted b.2).imp fun ⟨hc, hd⟩ => ?_)
    simp [Reading.rank, hc, hd]
  · refine (withoutModifier_sorted a.2).imp fun ⟨hb, hb'⟩ r hr r' hr' => ?_
    obtain ⟨c, -, rfl⟩ := List.mem_map.1 hr
    obtain ⟨d, -, rfl⟩ := List.mem_map.1 hr'
    simp only [Reading.rank, hb, hb', if_true, if_false]
    split_ifs <;> omega
  · refine (vendorChoices_sorted name).imp fun ⟨ha, ha'⟩ r hr r' hr' => ?_
    obtain ⟨b, -, hr⟩ := List.mem_flatMap.1 hr
    obtain ⟨b', -, hr'⟩ := List.mem_flatMap.1 hr'
    obtain ⟨c, -, rfl⟩ := List.mem_map.1 hr
    obtain ⟨d, -, rfl⟩ := List.mem_map.1 hr'
    simp only [Reading.rank, ha, ha', if_true, if_false]
    split_ifs <;> omega

/-! ### Taking a name apart -/

/-- In a list of falling rank the first of a kind is the one of highest rank. -/
theorem find?_eq_some_iff_of_sorted {l : List Reading} {p : Reading → Bool} {r : Reading}
    (hl : l.Pairwise fun r r' => r'.rank < r.rank) :
    l.find? p = some r ↔ (r ∈ l ∧ p r) ∧ ∀ r' ∈ l, p r' → r'.rank ≤ r.rank := by
  induction l with
  | nil => simp
  | cons a l ih =>
    obtain ⟨ha, hl⟩ := List.pairwise_cons.1 hl
    cases hp : p a with
    | true =>
      rw [List.find?_cons_of_pos hp, Option.some.injEq]
      constructor
      · rintro rfl
        refine ⟨⟨List.mem_cons_self, hp⟩, fun r' hr' _ => ?_⟩
        rcases List.mem_cons.1 hr' with rfl | hr'
        · exact le_rfl
        · exact (ha r' hr').le
      · rintro ⟨⟨hr, -⟩, hmax⟩
        rcases List.mem_cons.1 hr with rfl | hr
        · rfl
        · exact absurd (hmax a List.mem_cons_self hp) (ha r hr).not_ge
    | false =>
      rw [List.find?_cons_of_neg (by simp [hp]), ih hl]
      constructor
      · rintro ⟨⟨hr, hpr⟩, hmax⟩
        refine ⟨⟨List.mem_cons_of_mem a hr, hpr⟩, fun r' hr' hp' => ?_⟩
        rcases List.mem_cons.1 hr' with rfl | hr'
        · rw [hp] at hp'; cases hp'
        · exact hmax r' hr' hp'
      · rintro ⟨⟨hr, hpr⟩, hmax⟩
        rcases List.mem_cons.1 hr with rfl | hr
        · rw [hp] at hpr; cases hpr
        · exact ⟨⟨hr, hpr⟩, fun r' hr' => hmax r' (List.mem_cons_of_mem a hr')⟩

theorem nameReadings_eq (name : List Char) :
    nameReadings name = (readings name).map fun r => (r.modifier, r.feature) := by
  have hinner : ∀ b, withoutInnerVendor b = (innerChoices b).map (·.2) := by
    intro b
    rw [withoutInnerVendor, innerChoices]
    cases afterStart? "-moz-".toList b <;> rfl
  have hvendor : withoutVendor name = (vendorChoices name).map (·.2) := by
    simp [withoutVendor, vendorChoices, List.map_filterMap, Function.comp_def]
  simp [nameReadings, readings, hinner, hvendor, List.map_flatMap, List.flatMap_map,
    Function.comp_def]

/-- **Taking a name apart** drops as much in front of the feature as can be dropped. -/
theorem nameOf_iff {name feature : List Char} {modifier : Option Modifier} (h : name ≠ []) :
    NameOf name modifier feature ↔ readName name = (modifier, feature) := by
  have hfind : ∀ r, (readings name).find? (fun r => !r.feature.isEmpty) = some r ↔
      r.Of name ∧ ∀ r' : Reading, r'.Of name → r'.rank ≤ r.rank := by
    intro r
    simp [find?_eq_some_iff_of_sorted (readings_sorted name), of_iff_mem_readings]
  -- the reading that takes nothing off always leaves a feature
  have hsome : ∃ r, (readings name).find? (fun r => !r.feature.isEmpty) = some r := by
    rw [← Option.isSome_iff_exists, List.find?_isSome]
    exact ⟨⟨"", none, "", name⟩, mem_readings.2 ⟨by simp, by simp, rfl⟩, by simpa using h⟩
  obtain ⟨r, hr⟩ := hsome
  have hread : readName name = (r.modifier, r.feature) := by
    rw [readName, nameReadings_eq, List.find?_map]
    simp only [Function.comp_def, hr, Option.map_some, Option.getD_some]
  rw [hread, Prod.mk.injEq]
  constructor
  · rintro ⟨r', hof, hmax, rfl, rfl⟩
    have hr' := (hfind r').2 ⟨hof, hmax⟩
    rw [hr, Option.some.injEq] at hr'
    subst hr'
    exact ⟨rfl, rfl⟩
  · rintro ⟨rfl, rfl⟩
    obtain ⟨hof, hmax⟩ := (hfind r).1 hr
    exact ⟨r, hof, hmax, rfl, rfl⟩

/-! ### Tests -/

theorem lowerChar_ne_nil (c : Char) : lowerChar c ≠ [] := by
  have hall : ∀ row ∈ lowerSequences, row.2 ≠ [] := by decide
  unfold lowerChar
  split_ifs
  · simp
  · simp
  · split
    · rename_i ns hns
      obtain ⟨a, b, hab, -⟩ := List.lookup_eq_some_iff.1 hns
      simpa using hall (c.toNat, ns) (by rw [hab]; simp)
    · simp

theorem lower_ne_nil {cs : List Char} (h : cs ≠ []) : lower cs ≠ [] := by
  obtain ⟨c, cs, rfl⟩ := List.exists_cons_of_ne_nil h
  rw [lower, lowerFrom]
  by_cases hc : c = capitalSigma
  · rw [if_pos hc]
    exact List.cons_ne_nil _ _
  · rw [if_neg hc]
    exact List.append_ne_nil_of_left_ne_nil (lowerChar_ne_nil c) _

theorem not_continuesFeature_of_isGap {c : Char} (h : isGap c) : ¬ continuesFeature c := by
  rcases isGap_iff.1 h with rfl | rfl | rfl | rfl <;> decide

theorem head?_append_gap {gap rest : List Char} (hgap : Gap gap)
    (hrest : ∀ c ∈ rest.head?, ¬ continuesFeature c) :
    ∀ c ∈ (gap ++ rest).head?, ¬ continuesFeature c := by
  cases gap with
  | nil => exact hrest
  | cons d gap =>
    intro c hc
    obtain rfl : d = c := by simpa using hc
    exact not_continuesFeature_of_isGap (hgap.isGap d List.mem_cons_self)

/-- Reading the body of a group whose name is followed by what is no part of it. -/
theorem name?_body {gap name rest : List Char} (hgap : Gap gap)
    (hname : IsName startsFeature continuesFeature name)
    (hrest : ∀ c ∈ rest.head?, ¬ continuesFeature c) :
    name? startsFeature continuesFeature (skipGaps (gap ++ (name ++ rest))) =
      some (name, rest) := by
  have hstart : ∀ c ∈ (name ++ rest).head?, ¬ isGap c := by
    obtain ⟨c, cs, rfl, hc, -⟩ := hname
    intro d hd
    obtain rfl : c = d := by simpa using hd
    exact isGap_not_starts (.inr hc)
  rw [skipGaps_append hgap, skipGaps_eq_self hstart]
  exact name?_eq_some_iff.2 ⟨rfl, hname, hrest⟩

/-- **Reading a group** of a text without tabs. -/
theorem testOf_iff {body : List Char} {t : FeatureTest} (htab : '\t' ∉ body) :
    TestOf body t ↔ readTest? body = some t := by
  constructor
  · rintro (⟨hgap, hname, hgap', hof⟩ | ⟨hgap, hname, hgap', hvalue, hof⟩)
    · rename_i gap name gap' feature modifier
      have hread := (nameOf_iff (lower_ne_nil hname.ne_nil)).1 hof
      have hrest : ∀ c ∈ (gap' ++ []).head?, ¬ continuesFeature c :=
        head?_append_gap hgap' (by simp)
      rw [List.append_nil] at hrest
      have hskip : skipGaps gap' = [] := List.dropWhile_eq_nil_iff.2 hgap'.isGap
      simp only [readTest?, name?_body hgap hname hrest, hread, hskip]
    · rename_i gap name gap' value feature modifier
      have hread := (nameOf_iff (lower_ne_nil hname.ne_nil)).1 hof
      have hcolon : ∀ c ∈ (':' :: value).head?, ¬ continuesFeature c := by
        simp [show continuesFeature ':' = false by decide]
      have hrest := head?_append_gap hgap' hcolon
      have hskip : skipGaps (gap' ++ ':' :: value) = ':' :: value := by
        rw [skipGaps_append hgap', skipGaps_eq_self]
        simp [show isGap ':' = false by decide]
      have htabv : '\t' ∉ value := fun h => htab (by simp [h])
      have hne : skipGaps value ≠ [] := fun h => hvalue ((skipGaps_eq_nil_iff htabv).1 h)
      obtain ⟨v, vs, hv⟩ := List.exists_cons_of_ne_nil hne
      have htrim : trim (v :: vs) = trim value := by rw [← hv, trim_skipGaps]
      simp only [readTest?, name?_body hgap hname hrest, hread, hskip, hv, htrim]
  · intro h
    obtain ⟨gap, hgap, hbody⟩ := exists_gap htab
    unfold readTest? at h
    split at h
    · cases h
    rename_i name rest hname
    obtain ⟨hcs, hname, hrest⟩ := name?_eq_some_iff.1 hname
    have htabr : '\t' ∉ rest := fun hm => htab (by rw [hbody, hcs]; simp [hm])
    obtain ⟨gap', hgap', hrest'⟩ := exists_gap htabr
    have hof : NameOf (lower name) (readName (lower name)).1 (readName (lower name)).2 :=
      (nameOf_iff (lower_ne_nil hname.ne_nil)).2 rfl
    dsimp only at h
    split at h
    · rename_i hskip
      cases h
      rw [hskip, List.append_nil] at hrest'
      rw [hbody, hcs, hrest']
      exact .plain hgap hname hgap' hof
    · rename_i value hskip
      have hne : ¬ Gap value := by
        intro hv
        have : skipGaps value = [] := List.dropWhile_eq_nil_iff.2 hv.isGap
        rw [this] at h
        cases h
      split at h
      · cases h
      · cases h
        rw [trim_skipGaps, hbody, hcs, hrest', hskip]
        exact .valued hgap hname hgap' hne hof
    · cases h

end MediaQuery.Grammar
