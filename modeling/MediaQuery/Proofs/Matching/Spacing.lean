import MediaQuery.Proofs.Matching.Numbers
import MediaQuery.Proofs.Matching.Records
import MediaQuery.Proofs.Measure.Spacing

/-!
# Spacing and letter case of values

A value that is a text can be written with white space around it and in capitals. No measure sees
that (`sameMeasures_of_rewritten`), and keywords are trimmed and put in lower case, so a match
answers the same whatever the kinds of the features: `matches_rewritten`. Only the media type is
compared as it stands.
-/

namespace MediaQuery

open Text MediaQuery.Measure

variable {root : Binary64} {env env' : Environment} {v w : Value}

/-- An ASCII text that is not empty, and the same text in another letter case with white space
around it. -/
def SameButSpacing (v w : Value) : Prop :=
  ∃ s s' : String, v = .ofString s ∧ w = .ofString s' ∧ s ≠ "" ∧ (∀ c ∈ s.toList, c.toNat < 128) ∧
    Rewritten s.toList s'.toList

/-- Environments of the same names, in which texts of features may be spaced and cased anew. -/
def SpacedAnew (env env' : Environment) : Prop :=
  List.Forall₂ (fun e e' => e.1 = e'.1 ∧ (e.2 = e'.2 ∨ e.1 ≠ "type" ∧ SameButSpacing e.2 e'.2))
    env.pairs env'.pairs

theorem isMissing_ofString (s : String) : Environment.isMissing (some (.ofString s)) = s.isEmpty :=
  rfl

theorem SameButSpacing.isMissing_eq (h : SameButSpacing v w) :
    Environment.isMissing (some v) = Environment.isMissing (some w) := by
  obtain ⟨s, s', rfl, rfl, hne, -, a, t, b, -, -, hletters, hs'⟩ := h
  have hs : s.isEmpty = false := by simpa using hne
  have hne' : s' ≠ "" := by
    rintro rfl
    have ht : t = [] := by
      have hnil := congrArg List.length hs'
      simp only [String.toList_empty, List.length_nil, List.length_append] at hnil
      exact List.eq_nil_of_length_eq_zero (by omega)
    rw [SameLetters, ht, List.map_nil, List.map_eq_nil_iff, String.toList_eq_nil_iff] at hletters
    exact hne hletters
  rw [isMissing_ofString, isMissing_ofString, hs]
  simpa using hne'

theorem SameButSpacing.sameMeasures (h : SameButSpacing v w) : SameMeasures v w := by
  obtain ⟨s, s', rfl, rfl, -, hascii, hrewritten⟩ := h
  exact sameMeasures_of_rewritten hrewritten hascii

theorem SameButSpacing.keyword_eq (h : SameButSpacing v w) : keyword v = keyword w := by
  obtain ⟨s, s', rfl, rfl, -, -, a, t, b, ha, hb, hletters, hs'⟩ := h
  have hkeyword (text : String) : keyword (.ofString text) = .ok (lower (trim text.toList)) := rfl
  rw [hkeyword, hkeyword, hs', trim_surrounded ha hb, hletters.trim.lower_eq]

theorem SpacedAnew.get? (h : SpacedAnew env env') (name : String) :
    env.get? name = env'.get? name ∨ name ≠ "type" ∧
      ∃ v w, env.get? name = some v ∧ env'.get? name = some w ∧ SameButSpacing v w := by
  have hvalues : Option.Rel (fun v w => v = w ∨ name ≠ "type" ∧ SameButSpacing v w)
      (env.get? name) (env'.get? name) :=
    lookup_rel (R := fun name v w => v = w ∨ name ≠ "type" ∧ SameButSpacing v w) h name
  generalize env.get? name = a at hvalues
  generalize env'.get? name = b at hvalues
  cases hvalues with
  | none => exact .inl rfl
  | @some v w hvw => exact hvw.imp (congrArg some) fun ⟨hne, hsame⟩ => ⟨hne, v, w, rfl, rfl, hsame⟩

/--
**Spacing and letter case of values do not matter**, whatever is asked and under any root font size:
a match gives the same answer, errors included, when texts of features are written in another letter
case and with white space around them. The media type is left as it is.
-/
theorem matches_rewritten (h : SpacedAnew env env') :
    (∀ (root : Binary64) (qs : QueryList), qs.matches root env = qs.matches root env') ∧
      ∀ (s : Session.State) (subject : Session.Subject),
        s.observe (.matchOnce subject env) = s.observe (.matchOnce subject env') := by
  have hmatches : ∀ (root : Binary64) (qs : QueryList),
      qs.matches root env = qs.matches root env' := by
    intro root qs
    apply QueryList.matches_congr
    · intro q _
      have htype : env.get? "type" = env'.get? "type" :=
        (h.get? "type").resolve_right fun hne => hne.1 rfl
      rw [Query.typeMatches, Query.typeMatches, htype]
    · intro q _ t _
      rcases h.get? t.feature with heq | ⟨-, v, w, hv, hw, hsame⟩
      · exact FeatureTest.matches_congr (.inl heq)
      · exact FeatureTest.matches_of_sameMeasures hv hw hsame.isMissing_eq hsame.sameMeasures
          fun _ => hsame.keyword_eq
  exact ⟨hmatches, Session.State.observe_matchOnce_congr hmatches⟩

/-- A length, a ratio, a keyword and a text that is no value at all. -/
theorem matches_rewritten_spaces :
    let env : Environment := ⟨[("type", .ofString "screen"), ("width", .ofString "4.8E1em"),
      ("aspect-ratio", .ofString "16/9"), ("hover", .ofString "none"),
      ("color", .ofString "3 x")], by decide⟩
    let env' : Environment := ⟨[("type", .ofString "screen"),
      ("width", .ofString "\u3000 4.8e1EM\n"), ("aspect-ratio", .ofString "\t16/9\u00a0"),
      ("hover", .ofString " NONE"), ("color", .ofString "3 X\r\n")], by decide⟩
    SpacedAnew env env' ∧
    (∀ (root : Binary64) (qs : QueryList), qs.matches root env = qs.matches root env') ∧
    ∀ (s : Session.State) (subject : Session.Subject),
      s.observe (.matchOnce subject env) = s.observe (.matchOnce subject env') := by
  intro env env'
  -- the white space in front of the new text, the text itself and the white space behind it
  have hsame (s s' : String) (a t b : List Char)
      (h : s ≠ "" ∧ (∀ c ∈ s.toList, c.toNat < 128) ∧ (∀ c ∈ a, isBlank c) ∧ (∀ c ∈ b, isBlank c) ∧
        s.toList.map Char.toLower = t.map Char.toLower ∧ s'.toList = a ++ (t ++ b)) :
      SameButSpacing (.ofString s) (.ofString s') :=
    ⟨s, s', rfl, rfl, h.1, h.2.1, a, t, b, h.2.2.1, h.2.2.2.1, h.2.2.2.2.1, h.2.2.2.2.2⟩
  have henv : SpacedAnew env env' :=
    .cons ⟨rfl, .inl rfl⟩ <|
    .cons ⟨rfl, .inr ⟨by decide, hsame _ _ ['\u3000', ' '] "4.8e1EM".toList ['\n'] (by decide)⟩⟩ <|
    .cons ⟨rfl, .inr ⟨by decide, hsame _ _ ['\t'] "16/9".toList ['\u00a0'] (by decide)⟩⟩ <|
    .cons ⟨rfl, .inr ⟨by decide, hsame _ _ [' '] "NONE".toList [] (by decide)⟩⟩ <|
    .cons ⟨rfl, .inr ⟨by decide, hsame _ _ [] "3 X".toList ['\r', '\n'] (by decide)⟩⟩ .nil
  exact ⟨henv, matches_rewritten henv⟩

end MediaQuery
