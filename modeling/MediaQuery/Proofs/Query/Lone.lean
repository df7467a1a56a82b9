import MediaQuery.Proofs.Query.RoundTrip
import MediaQuery.Proofs.Query.Spelling

/-!
# A feature test alone

The query list that is one test in parentheses, with any value that can stand there: it is parsed to
that test, with the tabs of the value expanded and the white space around it dropped
(`parse_lone`).
-/

namespace MediaQuery

open Text Query Grammar

/-! ### Known features -/

theorem plainFeature_name (f : Feature) : PlainFeature f.name.toList := by
  cases f <;> exact ⟨⟨_, _, rfl, by decide, by decide⟩, by decide⟩

/-- A feature whose values are compared as numbers is a known one. -/
theorem exists_feature_of_kind {name : String} (h : FeatureKind.ofName name ≠ .keyword) :
    ∃ f : Feature, f.name = name := by
  unfold FeatureKind.ofName at h
  split at h
  · rename_i f hf
    exact ⟨f, by simpa using List.find?_some hf⟩
  · exact absurd rfl h

/-! ### Tests alone -/

/-- A value that can stand behind the colon of the only test of a query list. -/
structure LoneValue (cs : List Char) : Prop where
  some_text : ∃ c ∈ cs, ¬ isBlank c
  no_paren : ')' ∉ cs
  no_comma : ',' ∉ cs
  no_opener : ¬ ['/', '*'] <:+: cs

/-- **A test alone is parsed** to the test, its value with tabs expanded and trimmed. -/
theorem parse_lone {feature value : String} (hf : PlainFeature feature.toList)
    (modifier : Option Modifier) (hvalue : LoneValue value.toList) :
    ∃ column, QueryList.parse (FeatureTest.text ⟨feature, modifier, some value⟩) =
      .ok [⟨"all", false, [⟨feature, modifier,
        some (String.ofList (trim (expandTabs column value.toList)))⟩]⟩] := by
  let t : FeatureTest := ⟨feature, modifier, some value⟩
  have hcanonical : (⟨feature, modifier, none⟩ : FeatureTest).Canonical :=
    ⟨hf.name, hf.bare "-moz-" (by simp),
      fun _ part hpart => hf.bare part (by simp at hpart ⊢; tauto), nofun⟩
  have hname : ∀ c ∈ t.nameText, continuesPlain c := hcanonical.plain_nameText
  obtain ⟨column, happend⟩ := exists_expandTabs_append 1 t.nameText (':' :: ' ' :: value.toList)
  have hexpanded : expandTabs 1 t.body =
      t.nameText ++ ':' :: ' ' :: expandTabs (column + 1 + 1) value.toList := by
    rw [FeatureTest.body, happend, expandTabs_eq_self (notMem_of_plain hname (by decide))]
    rfl
  obtain ⟨c, hc, hblank⟩ := hvalue.some_text
  have htext : c ∈ expandTabs (column + 1 + 1) value.toList :=
    mem_expandTabs_of_mem hc (by rintro rfl; exact hblank (by decide))
  have hgap : ¬ Gap (' ' :: expandTabs (column + 1 + 1) value.toList) := by
    intro hgap
    rcases hgap c (List.mem_cons_of_mem _ htext) with rfl | rfl | rfl <;> exact hblank (by decide)
  have htab : '\t' ∉ ' ' :: expandTabs (column + 1 + 1) value.toList := by
    simp [tab_notMem_expandTabs]
  have hlower : lower t.nameText =
      "".toList ++ (rangePart modifier).toList ++ "".toList ++ feature.toList := by
    rw [lower_eq_self hname]
    simp [FeatureTest.nameText, t]
  have hspelling : Spelling feature.toList modifier
      (some (' ' :: expandTabs (column + 1 + 1) value.toList)) (expandTabs 1 t.body) := by
    rw [hexpanded]
    exact @Spelling.mk _ _ _ [] t.nameText [] "" "" Gap.nil (by simp) (by simp)
      hlower Gap.nil
  have htest := hspelling.readTest?_eq hf
  rw [spelledTest?_eq (by rintro v ⟨⟩; exact ⟨htab, hgap⟩)] at htest
  have hbody : Body t.body := by
    have hparen : ')' ∉ t.nameText := notMem_of_plain hname (by decide)
    have hcomma : ',' ∉ t.nameText := notMem_of_plain hname (by decide)
    refine ⟨?_, ?_, ?_⟩
    · simp [FeatureTest.body, t]
    · simp [FeatureTest.body, hparen, hvalue.no_paren, t]
    · simp [FeatureTest.body, hcomma, hvalue.no_comma, t]
  have hopener : ¬ ['/', '*'] <:+: t.body := by
    have hslash : '/' ∉ t.nameText := notMem_of_plain hname (by decide)
    have hbehind : ¬ ['/', '*'] <:+: [':', ' '] ++ value.toList :=
      no_opener_append_left (by simp) hvalue.no_opener
    exact no_opener_append_left hslash hbehind
  have hparse := parse_group_expanded hbody hopener htest
  rw [← FeatureTest.toList_text, String.ofList_toList] at hparse
  refine ⟨column + 1 + 1, ?_⟩
  rw [hparse, Option.map_some, String.ofList_toList, ← trim_append_left (a := [' ']) (by decide)]
  rfl

end MediaQuery
