import MediaQuery.Proofs.Query.WellFormed
import MediaQuery.Proofs.Query.Spacing

/-!
# Values of nothing but white space

A colon asks for a value, and a gap is none. But gaps are not all white space: a value of other
blanks is read, and then trimmed to nothing. `readValue?_of_blank` tells the two apart, and
`blank_values` says what becomes of them in a query list: the first kind is refused wherever it
stands, the second kind is where the empty values of a tree come from.
-/

namespace MediaQuery

open Text Query Grammar

variable {raw body value : List Char}

/-! ### Groups as written -/

/-- The bodies of the groups that are scanned for the tests of a segment. -/
def scannedGroups (raw : List Char) : List (List Char) :=
  match readClause? (expandTabs 0 (clauseText raw)) with
  | some clause => groups clause.groupText
  | none => []

/-- The body of a group has a colon, and behind it a value. -/
def Valued (body value : List Char) : Prop :=
  ∃ name, ':' ∉ name ∧ body = name ++ ':' :: value

/-- The tests of a query are those of the groups that are scanned. -/
theorem forall₂_scannedGroups {q : Query} (h : SegmentOf raw q) :
    List.Forall₂ (fun body t => '\t' ∉ body ∧ readTest? body = some t) (scannedGroups raw)
      q.tests := by
  obtain ⟨clause, -, hclause, -, -, htests⟩ := exists_clause_of_segmentOf h
  rw [scannedGroups, hclause]
  refine htests.imp fun body t ⟨hbody, ht⟩ => ?_
  have htab : '\t' ∉ body := fun hm => tab_notMem_expandTabs 0 (clauseText raw) (hbody _ hm).2
  exact ⟨htab, (testOf_iff htab).1 ht⟩

/-! ### Reading a blank value -/

theorem trim_eq_nil_iff : trim value = [] ↔ ∀ c ∈ value, isBlank c := by
  constructor
  · intro h
    have hleft : value.dropWhile isBlank = [] := by
      -- what is left after the leading white space starts with a character that stays
      by_contra hne
      obtain ⟨c, cs, hcs⟩ := List.exists_cons_of_ne_nil hne
      have hc : ¬ isBlank c := head?_dropWhile isBlank value c (by simp [hcs])
      have hkeep : trimRight ([c] ++ cs) = [c] ++ trimRight cs := trimRight_append_left rfl hc
      rw [trim, trimLeft, hcs] at h
      exact absurd (hkeep.symm.trans h) (List.cons_ne_nil c _)
    exact List.dropWhile_eq_nil_iff.1 hleft
  · intro h
    have hnil : trim (value ++ []) = trim [] := trim_append_left h
    rwa [List.append_nil] at hnil

theorem readValue?_eq_some_iff (htab : '\t' ∉ value) {v : String} :
    readValue? value = some v ↔ ¬ Gap value ∧ v = String.ofList (trim value) := by
  rw [← skipGaps_eq_nil_iff htab, readValue?]
  cases hvalue : skipGaps value with
  | nil => simp
  | cons c cs =>
    have htrim : trim (c :: cs) = trim value := by rw [← hvalue, trim_skipGaps]
    simp [htrim, eq_comm]

/-- White space other than gaps is an empty value. -/
theorem readValue?_of_blank (htab : '\t' ∉ value) (hblank : ∀ c ∈ value, isBlank c)
    (hgap : ¬ Gap value) : readValue? value = some "" := by
  rw [readValue?_eq_some_iff htab, trim_eq_nil_iff.2 hblank]
  exact ⟨hgap, rfl⟩

/-- A group with nothing but a gap behind its colon is no test. -/
theorem readTest?_of_gap (h : Valued body value) (hgap : Gap value) : readTest? body = none := by
  obtain ⟨name, hname, rfl⟩ := h
  rw [readTest?_colon hname, readValue?, hgap.skipGaps_eq_nil]
  exact Option.bind_eq_none_iff.2 fun _ _ => rfl

/-- **A test has an empty value** iff white space other than gaps is written behind its colon. -/
theorem value_eq_empty_iff {t : FeatureTest} (htab : '\t' ∉ body) (h : readTest? body = some t) :
    t.value = some "" ↔ ∃ value, Valued body value ∧ (∀ c ∈ value, isBlank c) ∧ ¬ Gap value := by
  constructor
  · intro hv
    rcases (testOf_iff htab).2 h with - | ⟨hgap, hname, hgap', hvalue, -⟩
    · cases hv
    · rename_i gap name gap' value feature modifier
      have hcolon : ':' ∉ gap ++ (name ++ gap') := by
        simp only [List.mem_append, not_or]
        refine ⟨hgap.colon_notMem, fun hm => ?_, hgap'.colon_notMem⟩
        exact absurd (continuesType_of_isName hname ':' hm) (by decide +kernel)
      refine ⟨value, ⟨_, hcolon, by simp⟩, ?_, hvalue⟩
      rw [← trim_eq_nil_iff, ← String.ofList_eq_empty_iff]
      exact Option.some.inj hv
  · rintro ⟨value, ⟨name, hname, rfl⟩, hblank, hgap⟩
    have htabv : '\t' ∉ value := fun hm => htab (by simp [hm])
    rw [readTest?_colon hname, readValue?_of_blank htabv hblank hgap] at h
    obtain ⟨t', -, ht⟩ := Option.bind_eq_some_iff.1 h
    cases ht
    rfl

/-! ### Sessions -/

namespace Session.State

variable {s : State}

/--
**A colon asks for a value.** A query list with a group that has nothing but spaces and line ends
behind its colon is refused. A tree has an empty value where, and only where, there is white space
of another kind behind the colon.
-/
theorem blank_values (hs : s.library.Coherent) (route : Route) (query : String) :
    (∀ raw ∈ query.toList.splitOn ',', ∀ body ∈ scannedGroups raw, ∀ value, Valued body value →
      Gap value → ∃ e, s.observe (.parse route query) = .error (.grammar e)) ∧
    ∀ qs, s.observe (.parse route query) = .ok (.inl qs) →
      List.Forall₂ (fun raw q => List.Forall₂ (fun body t => t.value = some "" ↔
        ∃ value, Valued body value ∧ (∀ c ∈ value, isBlank c) ∧ ¬ Gap value)
        (scannedGroups raw) q.tests) (query.toList.splitOn ',') qs := by
  rw [observe_parse hs]
  constructor
  · intro raw hraw body hbody value hvalue hgap
    have hnot : ¬ Conforms raw := by
      rintro ⟨q, hq⟩
      have hread := ((List.forall₂_and_left _ _).1 ((forall₂_scannedGroups hq).imp
        fun body t ⟨_, ht⟩ => ⟨Option.ne_none_iff_exists'.2 ⟨t, ht⟩, ht⟩)).1
      exact hread body hbody (readTest?_of_gap hvalue hgap)
    cases hparse : QueryList.parse query with
    | ok qs =>
      have hall := exists_spells_iff.1 ⟨qs, parse_iff_spells.1 hparse⟩
      exact absurd (hall raw hraw) hnot
    | error e => exact ⟨e, plainParse_eq_error_iff.2 ⟨e, rfl, hparse⟩⟩
  · intro qs h
    rw [plainParse_eq_ok_iff, parse_iff_spells] at h
    refine h.imp fun raw q hq => (forall₂_scannedGroups hq).imp ?_
    exact fun body t ⟨htab, ht⟩ => value_eq_empty_iff htab ht

/-- Nothing but a space and a line end behind a colon, in the second of two segments. -/
theorem blank_values_refused :
    let query := "(width:\u00a0), print and (color) (foo: \n)"
    let raw := " print and (color) (foo: \n)".toList
    (initial.library.Coherent ∧ raw ∈ query.toList.splitOn ',' ∧
      "foo: \n".toList ∈ scannedGroups raw ∧ Valued "foo: \n".toList [' ', '\n'] ∧
      Gap [' ', '\n']) ∧
    ∃ e, initial.observe (.parse (.cache .standard) query) = .error (.grammar e) := by
  intro query raw
  have hs : initial.library.Coherent := Library.coherent_initial
  have hraw : raw ∈ query.toList.splitOn ',' := by decide +kernel
  have hbody : "foo: \n".toList ∈ scannedGroups raw := by decide +kernel
  have hvalue : Valued "foo: \n".toList [' ', '\n'] := ⟨"foo".toList, by decide, rfl⟩
  have hgap : Gap [' ', '\n'] := by
    unfold Gap
    decide
  exact ⟨⟨hs, hraw, hbody, hvalue, hgap⟩,
    (blank_values hs (.cache .standard) query).1 raw hraw _ hbody _ hvalue hgap⟩

/-- A no-break space is white space, and yet it is read as a value. -/
theorem no_break_space_accepted :
    let query := "(width:\u00a0)"
    query.toList ∈ query.toList.splitOn ',' ∧
    "width:\u00a0".toList ∈ scannedGroups query.toList ∧
    Valued "width:\u00a0".toList ['\u00a0'] ∧ (∀ c ∈ ['\u00a0'], isBlank c) ∧
    initial.observe (.parse (.cache .standard) query) =
      .ok (.inl [⟨"all", false, [⟨"width", none, some ""⟩]⟩]) := by
  intro query
  have hparse : QueryList.parse query = .ok [⟨"all", false, [⟨"width", none, some ""⟩]⟩] := by
    decide +kernel
  refine ⟨by decide +kernel, by decide +kernel, ⟨"width".toList, by decide, rfl⟩, by decide, ?_⟩
  rw [observe_parse Library.coherent_initial, plainParse_eq_ok_iff, hparse]

end Session.State

end MediaQuery
