import MediaQuery.Proofs.Query.Clause
import MediaQuery.Proofs.Query.Comment
import MediaQuery.Session.Library

/-!
# Accepted query lists

The parser accepts exactly the grammar. `parse_iff_spells` says so of the text alone, and
`parse_accepts_grammar` of a parse through an empty cache: it succeeds iff every segment conforms,
the tree is the one that the text spells, and an error names the first segment that does not
conform.
-/

namespace MediaQuery.Grammar

open Text Query

/-! ### Segments -/

/-- A clause as written that spells some query. -/
def Conforms (raw : List Char) : Prop := ∃ q, SegmentOf raw q

theorem segmentOf_iff {raw : List Char} {q : Query} :
    SegmentOf raw q ↔ readQuery (clauseText raw) = .ok q := by
  have hread : QueryOf (expandTabs 0 (clauseText raw)) q ↔ readQuery (clauseText raw) = .ok q :=
    queryOf_iff (head?_trim _) (getLast?_trim _)
  rw [← hread]
  constructor
  · rintro ⟨text, hun, hq⟩
    obtain rfl := uncommented_iff.1 hun
    exact hq
  · exact fun hq => ⟨_, uncommented_dropComments raw, hq⟩

theorem not_conforms_iff {raw : List Char} :
    ¬ Conforms raw ↔ ∃ fault, readQuery (clauseText raw) = .error fault := by
  constructor
  · intro h
    cases hr : readQuery (clauseText raw) with
    | error fault => exact ⟨fault, rfl⟩
    | ok q => exact absurd ⟨q, segmentOf_iff.2 hr⟩ h
  · rintro ⟨fault, hr⟩ ⟨q, hq⟩
    rw [segmentOf_iff.1 hq] at hr
    cases hr

/-! ### Lists of clauses -/

/-- The error of a query list: the first segment that does not conform, as trimmed text. -/
def FirstFault (query : String) (e : SyntaxError) : Prop :=
  e.query = query ∧ ∃ before raw after text, query.toList.splitOn ',' = before ++ raw :: after ∧
    (∀ segment ∈ before, Conforms segment) ∧ ¬ Conforms raw ∧ Uncommented raw text ∧
      e.clause = String.ofList (trim text)

theorem ofClauses_eq_ok_iff {query : String} {raws : List (List Char)} {qs : QueryList} :
    QueryList.ofClauses query raws = .ok qs ↔ List.Forall₂ SegmentOf raws qs := by
  induction raws generalizing qs with
  | nil => cases qs <;> simp [QueryList.ofClauses]
  | cons raw raws ih =>
    rw [QueryList.ofClauses]
    cases hr : readQuery (clauseText raw) with
    | error fault =>
      constructor
      · intro h
        cases h
      · rintro (- | ⟨hq, -⟩)
        rw [segmentOf_iff.1 hq] at hr
        cases hr
    | ok q =>
      have hq := segmentOf_iff.2 hr
      -- a segment spells one query only, so both directions turn on the rest of the list
      cases hrs : QueryList.ofClauses query raws with
      | error e =>
        constructor
        · intro h
          cases h
        · rintro (- | ⟨-, hqs⟩)
          rw [ih.2 hqs] at hrs
          cases hrs
      | ok rest =>
        constructor
        · intro h
          cases h
          exact .cons hq (ih.1 hrs)
        · rintro (- | ⟨hq', hqs⟩)
          rw [segmentOf_iff.1 hq'] at hr
          rw [ih.2 hqs] at hrs
          cases hr
          cases hrs
          rfl

/-- A list of clauses fails at the first one that does not conform. -/
theorem ofClauses_eq_error {query : String} {raws : List (List Char)} {e : SyntaxError}
    (h : QueryList.ofClauses query raws = .error e) :
    e.query = query ∧ ∃ before raw after, raws = before ++ raw :: after ∧
      (∀ segment ∈ before, Conforms segment) ∧ ¬ Conforms raw ∧
        e.clause = String.ofList (clauseText raw) := by
  induction raws with
  | nil => cases h
  | cons raw raws ih =>
    rw [QueryList.ofClauses] at h
    cases hr : readQuery (clauseText raw) with
    | error fault =>
      simp only [hr] at h
      cases h
      exact ⟨rfl, [], raw, raws, rfl, by simp, not_conforms_iff.2 ⟨fault, hr⟩, rfl⟩
    | ok q =>
      cases hrs : QueryList.ofClauses query raws with
      | ok rest => simp [hr, hrs, Except.map] at h
      | error e' =>
        have he : e' = e := by simpa [hr, hrs, Except.map] using h
        subst he
        obtain ⟨hquery, before, raw', after, rfl, hbefore, hraw', hclause⟩ := ih hrs
        refine ⟨hquery, raw :: before, raw', after, rfl, ?_, hraw', hclause⟩
        intro segment hs
        rcases List.mem_cons.1 hs with rfl | hs
        · exact ⟨q, segmentOf_iff.2 hr⟩
        · exact hbefore segment hs

/-! ### Query lists -/

/-- **The parser reads the grammar.** -/
theorem parse_iff_spells {query : String} {qs : QueryList} :
    QueryList.parse query = .ok qs ↔ Spells query qs := by
  rw [QueryList.parse, splitOn_eq, ofClauses_eq_ok_iff, Spells]

theorem exists_spells_iff {query : String} :
    (∃ qs, Spells query qs) ↔ ∀ segment ∈ query.toList.splitOn ',', Conforms segment := by
  unfold Spells
  induction query.toList.splitOn ',' with
  | nil => simp
  | cons raw raws ih =>
    rw [List.forall_mem_cons, ← ih]
    constructor
    · rintro ⟨qs, - | ⟨hq, hqs⟩⟩
      exact ⟨⟨_, hq⟩, _, hqs⟩
    · rintro ⟨⟨q, hq⟩, qs, hqs⟩
      exact ⟨q :: qs, .cons hq hqs⟩

theorem parse_eq_error {query : String} {e : SyntaxError} (h : QueryList.parse query = .error e) :
    FirstFault query e := by
  rw [QueryList.parse, splitOn_eq] at h
  obtain ⟨hquery, before, raw, after, hsplit, hbefore, hraw, hclause⟩ := ofClauses_eq_error h
  have htext := uncommented_dropComments raw
  exact ⟨hquery, before, raw, after, _, hsplit, hbefore, hraw, htext, hclause⟩

/-! ### Parsing through a cache without the text -/

section Cache

variable {lib : Library} {n : Nat} {query : String}

theorem tree_addTree (lib : Library) (tree : QueryList) :
    (lib.addTree tree).2.tree (lib.addTree tree).1 = tree := by
  simp [Library.addTree, Library.tree]

theorem parse_of_get?_eq_none (h : (lib.cache n).get? query = none) :
    lib.parse n query = (QueryList.parse query).map fun qs =>
      ((lib.addTree qs).1, (lib.addTree qs).2.store n query (lib.addTree qs).1) := by
  rw [Library.parse, h]
  cases QueryList.parse query <;> rfl

/-- A text that the cache does not hold is parsed to the tree that it spells. -/
theorem exists_parse_iff_spells (h : (lib.cache n).get? query = none) {qs : QueryList} :
    (∃ tree lib', lib.parse n query = .ok (tree, lib') ∧ lib'.tree tree = qs) ↔
      Spells query qs := by
  rw [← parse_iff_spells, parse_of_get?_eq_none h]
  cases hq : QueryList.parse query with
  | error e => simp [Except.map]
  | ok qs' =>
    have htree := tree_addTree lib qs'
    constructor
    · rintro ⟨tree, lib', h, rfl⟩
      cases h
      exact congrArg Except.ok htree.symm
    · rintro h
      cases h
      exact ⟨_, _, rfl, htree⟩

/--
**The parser accepts exactly its grammar.** Through an empty cache a text is parsed iff each of its
segments conforms, to the tree that the text spells; an error names the first segment at fault.
-/
theorem parse_accepts_grammar (hempty : lib.cache n = .empty) :
    ((∃ result, lib.parse n query = .ok result) ↔
      ∀ segment ∈ query.toList.splitOn ',', Conforms segment) ∧
    (∀ qs, (∃ tree lib', lib.parse n query = .ok (tree, lib') ∧ lib'.tree tree = qs) ↔
      Spells query qs) ∧
    ∀ e, lib.parse n query = .error e → FirstFault query e := by
  have hnone : (lib.cache n).get? query = none := by rw [hempty]; rfl
  have hspells : ∀ qs, (∃ tree lib', lib.parse n query = .ok (tree, lib') ∧ lib'.tree tree = qs) ↔
      Spells query qs := fun _ => exists_parse_iff_spells hnone
  refine ⟨?_, hspells, fun e he => ?_⟩
  · rw [← exists_spells_iff]
    constructor
    · rintro ⟨⟨tree, lib'⟩, h⟩
      exact ⟨_, (hspells _).1 ⟨tree, lib', h, rfl⟩⟩
    · rintro ⟨qs, h⟩
      obtain ⟨tree, lib', h, -⟩ := (hspells qs).2 h
      exact ⟨_, h⟩
  · rw [parse_of_get?_eq_none hnone] at he
    cases hq : QueryList.parse query with
    | ok qs => rw [hq] at he; cases he
    | error e' =>
      rw [hq] at he
      cases he
      exact parse_eq_error hq

end Cache

/-- A text with a keyword in capitals, a comment and vendor parts, and the tree that it spells. -/
theorem spells_not_print :
    let query := "NOT Print/* x */ and (-webkit-MIN-width: 3em), (color)"
    let qs : QueryList :=
      [⟨"print", true, [⟨"width", some .min, some "3em"⟩]⟩,
        ⟨"all", false, [⟨"color", none, none⟩]⟩]
    Library.initial.cache 0 = .empty ∧ Spells query qs := by
  intro query qs
  have hempty : Library.initial.cache 0 = .empty := rfl
  have hparse : Library.initial.parse 0 query = .ok (0, ⟨[qs], [Dict.empty.set query 0], 0⟩) := by
    decide +kernel
  exact ⟨hempty, ((parse_accepts_grammar hempty).2.1 qs).1 ⟨0, _, hparse, rfl⟩⟩

end MediaQuery.Grammar
