import MediaQuery.Matching
import MediaQuery.Proofs.Dict
import MediaQuery.Proofs.Query.Acceptance

/-!
# What a match depends on

A match looks at the media type of the environment and at the features that the query list names,
and it does not tell the values that count as absent from each other. So two environments that
agree on these names give the same answer (`matches_mentioned`). For the media type this needs that
a parsed query never has the empty type, which `mediaType_ne_empty` reads off the grammar.

* `SameValue` compares what two environments hold under a name;
* `QueryList.mentioned` are the names that a query list looks at.
-/

namespace MediaQuery

variable {root : Binary64} {env env' : Environment}

/-! ### Absent values -/

/-- The same value, or two that count as absent. -/
def SameValue (a b : Option Value) : Prop :=
  a = b ∨ Environment.isMissing a ∧ Environment.isMissing b

theorem SameValue.refl (a : Option Value) : SameValue a a := .inl rfl

theorem isMissing_none : Environment.isMissing none := rfl

/-- A value that is kept only if it counts. -/
theorem sameValue_filter (a : Option Value) :
    SameValue (a.filter fun v => !Environment.isMissing (some v)) a := by
  cases a with
  | none => exact .refl none
  | some v =>
    by_cases hv : Environment.isMissing (some v)
    · have hfilter : (some v).filter (fun v => !Environment.isMissing (some v)) = none := by
        simp [hv]
      rw [hfilter]
      exact .inr ⟨isMissing_none, hv⟩
    · exact .inl (by simp [hv])

/-! ### Looking at an environment -/

theorem FeatureTest.matches_of_isMissing {t : FeatureTest}
    (h : Environment.isMissing (env.get? t.feature)) : t.matches root env = .ok false := by
  rw [FeatureTest.matches]
  cases hget : env.get? t.feature with
  | none => rfl
  | some v =>
    rw [hget] at h
    simp [h]

theorem FeatureTest.matches_congr {t : FeatureTest}
    (h : SameValue (env.get? t.feature) (env'.get? t.feature)) :
    t.matches root env = t.matches root env' := by
  rcases h with heq | ⟨hmissing, hmissing'⟩
  · rw [FeatureTest.matches, FeatureTest.matches, heq]
  · rw [matches_of_isMissing hmissing, matches_of_isMissing hmissing']

theorem Query.typeMatches_of_isMissing {q : Query} (hq : q.mediaType ≠ "")
    (h : Environment.isMissing (env.get? "type")) :
    q.typeMatches env = (q.mediaType == "all") := by
  rw [typeMatches]
  split
  · -- the only text that counts as absent is the empty one
    rename_i s hget
    rw [hget] at h
    have hs : s = "" := by simpa [Environment.isMissing] using h
    simp [hs, Ne.symm hq]
  · simp

theorem Query.typeMatches_congr {q : Query} (hq : q.mediaType ≠ "")
    (h : SameValue (env.get? "type") (env'.get? "type")) :
    q.typeMatches env = q.typeMatches env' := by
  rcases h with heq | ⟨hmissing, hmissing'⟩
  · rw [typeMatches, typeMatches, heq]
  · rw [typeMatches_of_isMissing hq hmissing, typeMatches_of_isMissing hq hmissing']

theorem allMatch_congr {ts : List FeatureTest}
    (h : ∀ t ∈ ts, t.matches root env = t.matches root env') :
    allMatch root env ts = allMatch root env' ts := by
  induction ts with
  | nil => rfl
  | cons t ts ih =>
    obtain ⟨ht, hts⟩ := List.forall_mem_cons.1 h
    rw [allMatch, allMatch, ht, ih hts]

theorem Query.matches_congr {q : Query} (htype : q.typeMatches env = q.typeMatches env')
    (htests : ∀ t ∈ q.tests, t.matches root env = t.matches root env') :
    q.matches root env = q.matches root env' := by
  rw [Query.matches, Query.matches, htype, allMatch_congr htests]

/-- **A match is decided by its types and its tests.** -/
theorem QueryList.matches_congr {qs : QueryList}
    (htype : ∀ q ∈ qs, q.typeMatches env = q.typeMatches env')
    (htests : ∀ q ∈ qs, ∀ t ∈ q.tests, t.matches root env = t.matches root env') :
    qs.matches root env = qs.matches root env' := by
  induction qs with
  | nil => rfl
  | cons q qs ih =>
    obtain ⟨hq, hqs⟩ := List.forall_mem_cons.1 htype
    obtain ⟨ht, hts⟩ := List.forall_mem_cons.1 htests
    rw [QueryList.matches, QueryList.matches, Query.matches_congr hq ht, ih hqs hts]

/-! ### Parsed query lists -/

/-- The names that a query list looks at: the media type and the features of its tests. -/
def QueryList.mentioned (qs : QueryList) : List String :=
  "type" :: qs.flatMap fun q => q.tests.map FeatureTest.feature

theorem QueryList.feature_mem_mentioned {qs : QueryList} {q : Query} {t : FeatureTest} (hq : q ∈ qs)
    (ht : t ∈ q.tests) : t.feature ∈ qs.mentioned :=
  List.mem_cons_of_mem _ (List.mem_flatMap.2 ⟨q, hq, List.mem_map_of_mem ht⟩)

namespace Grammar

open Text Query

theorem HeadOf.type_ne_empty {cs group rest : List Char} {mediaType : String} {inverse : Bool}
    (h : HeadOf cs mediaType inverse group rest) : mediaType ≠ "" := by
  cases h with
  | grouped => decide
  | typed _ hname =>
    intro hempty
    have hlower := congrArg String.toList hempty
    rw [String.toList_ofList] at hlower
    exact lower_ne_nil hname.2.1.ne_nil hlower

/-- The media types of a query list are those of heads of clauses. -/
theorem exists_headOf {query : String} {qs : QueryList} (h : QueryList.parse query = .ok qs) :
    ∀ q ∈ qs, ∃ cs group rest, HeadOf cs q.mediaType q.inverse group rest := by
  have hspells : Spells query qs := parse_iff_spells.1 h
  unfold Spells at hspells
  clear h
  generalize query.toList.splitOn ',' = raws at hspells
  induction hspells with
  | nil => simp
  | cons hsegment _ ih =>
    obtain ⟨text, -, group, rest, tail, hhead, -⟩ := hsegment
    exact List.forall_mem_cons.2 ⟨⟨_, group, rest, hhead⟩, ih⟩

theorem mediaType_ne_empty {query : String} {qs : QueryList} (h : QueryList.parse query = .ok qs) :
    ∀ q ∈ qs, q.mediaType ≠ "" := by
  intro q hq
  obtain ⟨cs, group, rest, hhead⟩ := exists_headOf h q hq
  exact hhead.type_ne_empty

end Grammar

/--
**A match depends only on what the query list mentions**, and all values that count as absent are
the same to it. In particular other features can be set, changed or dropped, and so can all values
that count as absent.
-/
theorem matches_mentioned {query : String} {qs : QueryList}
    (hparse : QueryList.parse query = .ok qs) (root : Binary64) :
    (∀ env env' : Environment,
      (∀ name ∈ qs.mentioned, SameValue (env.get? name) (env'.get? name)) →
        qs.matches root env = qs.matches root env') ∧
    (∀ (env : Environment) (name : String), name ∉ qs.mentioned →
      (∀ v, qs.matches root (env.set name v) = qs.matches root env) ∧
        qs.matches root (env.filter fun e => e.1 ≠ name) = qs.matches root env) ∧
    ∀ env : Environment,
      qs.matches root (env.filter fun e => !Environment.isMissing (some e.2)) =
        qs.matches root env := by
  have hagree : ∀ env env' : Environment,
      (∀ name ∈ qs.mentioned, SameValue (env.get? name) (env'.get? name)) →
        qs.matches root env = qs.matches root env' := by
    intro env env' h
    apply QueryList.matches_congr
    · intro q hq
      exact Query.typeMatches_congr (Grammar.mediaType_ne_empty hparse q hq)
        (h "type" List.mem_cons_self)
    · intro q hq t ht
      exact FeatureTest.matches_congr (h t.feature (QueryList.feature_mem_mentioned hq ht))
  refine ⟨hagree, fun env name hname => ⟨fun v => ?_, ?_⟩, fun env => ?_⟩
  · apply hagree
    intro other hother
    have hne : other ≠ name := fun h => hname (h ▸ hother)
    rw [Dict.get?_set, if_neg hne]
    exact .refl _
  · apply hagree
    intro other hother
    have hne : other ≠ name := fun h => hname (h ▸ hother)
    rw [env.get?_filter_name fun n => decide (n ≠ name), if_pos (decide_eq_true hne)]
    exact .refl _
  · apply hagree
    intro other _
    rw [Dict.get?_filter env fun v => !Environment.isMissing (some v)]
    exact sameValue_filter _

/-- Without a type, a width and a pointer to hover with, only the inverted query matches. -/
theorem matches_mentioned_hover :
    let qs : QueryList :=
      [⟨"screen", false, [⟨"width", some .min, some "100px"⟩]⟩,
        ⟨"print", true, [⟨"hover", none, none⟩]⟩]
    let env : Environment :=
      ⟨[("type", .ofString ""), ("width", .float .nan), ("hover", .null), ("height", .int 3)],
        by decide⟩
    QueryList.parse "screen and (min-width: 100px), not print and (hover)" = .ok qs ∧
    (∀ name ∈ qs.mentioned, SameValue (env.get? name) (Dict.empty.get? name)) ∧
    qs.matches (Measure.ofNat 16) env = qs.matches (Measure.ofNat 16) .empty ∧
    "height" ∉ qs.mentioned ∧
    qs.matches (Measure.ofNat 16) (env.set "height" (.int 4)) = qs.matches (Measure.ofNat 16) env ∧
    qs.matches (Measure.ofNat 16) (env.filter fun e => !Environment.isMissing (some e.2)) =
      qs.matches (Measure.ofNat 16) env := by
  intro qs env
  have hparse :
      QueryList.parse "screen and (min-width: 100px), not print and (hover)" = .ok qs := by
    decide +kernel
  have hagree : ∀ name ∈ qs.mentioned, SameValue (env.get? name) (Dict.empty.get? name) := by
    intro name hname
    have hname' : name = "type" ∨ name = "width" ∨ name = "hover" := by
      simpa [qs, QueryList.mentioned] using hname
    rcases hname' with rfl | rfl | rfl <;> exact .inr ⟨rfl, rfl⟩
  have hheight : "height" ∉ qs.mentioned := by decide
  have h := matches_mentioned hparse (Measure.ofNat 16)
  exact ⟨hparse, hagree, h.1 env .empty hagree, hheight, (h.2.1 env "height" hheight).1 _,
    h.2.2 env⟩

end MediaQuery
