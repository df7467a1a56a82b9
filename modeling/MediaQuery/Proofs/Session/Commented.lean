import MediaQuery.Proofs.Query.Acceptance
import MediaQuery.Proofs.Query.CommentPattern
import MediaQuery.Proofs.Session.Joined

/-!
# Comments in query lists

A comment may stand anywhere in a query list, also inside a word: the list is cut at the same
commas with the comment as without it, and the clause that the comment stands in has the same text.

* `uncommented_inserted` deletes the comment from its clause;
* `exists_splitOn_append` finds the clause;
* `parse_commented` says what the parser makes of the list, `comments_are_invisible` what a session
  does.
-/

namespace MediaQuery

open Text Query Grammar

/-! ### A comment in a clause -/

section Clause

variable {p body r : List Char}

/-- The star of a closer is no part of a closer before it. -/
theorem no_closer_concat (h : ¬ ['*', '/'] <:+: body) : ¬ ['*', '/'] <:+: body ++ ['*'] := by
  rw [List.infix_concat_iff]
  rintro (⟨t, ht⟩ | hi)
  · simpa using congrArg List.getLast? ht
  · exact h hi

/-- A comment is deleted from a text in which no other one is opened. -/
theorem uncommented_inserted (hopener : ¬ ['/', '*'] <:+: p ++ r)
    (hcloser : ¬ ['*', '/'] <:+: body) :
    Uncommented (p ++ '/' :: '*' :: (body ++ '*' :: '/' :: r)) (p ++ r) := by
  induction p with
  | nil => exact .comment ⟨body, rfl, no_closer_concat hcloser⟩ (uncommented_of_no_opener hopener)
  | cons c p ih =>
    have hp : ¬ ['/', '*'] <:+: p ++ r := fun h => hopener (h.trans (List.suffix_cons c _).isInfix)
    refine .char (fun rest hc => ?_) (ih hp)
    -- an opener at `c` would have its star in `p`, since the inserted text starts with a slash
    obtain ⟨t, ht, -⟩ := comment_iff.1 hc
    obtain ⟨rfl, hstar⟩ := List.cons.inj ht
    cases p with
    | nil => simp at hstar
    | cons d p =>
      obtain rfl : d = '*' := (List.cons.inj hstar).1
      exact hopener ⟨[], p ++ r, rfl⟩

theorem clauseText_inserted (hopener : ¬ ['/', '*'] <:+: p ++ r)
    (hcloser : ¬ ['*', '/'] <:+: body) :
    clauseText (p ++ '/' :: '*' :: (body ++ '*' :: '/' :: r)) = clauseText (p ++ r) := by
  rw [clauseText, clauseText, uncommented_iff.1 (uncommented_inserted hopener hcloser),
    uncommented_iff.1 (uncommented_of_no_opener hopener)]

end Clause

/-! ### The clause that a comment stands in -/

section Split

variable {separator : Char}

theorem exists_splitOn_left (separator : Char) (p : List Char) :
    ∃ before left, left <:+ p ∧ separator ∉ left ∧
      ∀ t, (p ++ t).splitOn separator = before ++ (left ++ t).splitOn separator := by
  by_cases h : separator ∈ p
  · -- the last separator is the first one from behind
    obtain ⟨a, b, hab, ha⟩ := List.eq_append_cons_of_mem (List.mem_reverse.2 h)
    have hp : p = b.reverse ++ separator :: a.reverse := by
      rw [← List.reverse_reverse p, hab]
      simp
    refine ⟨b.reverse.splitOn separator, a.reverse, ?_, by simpa using ha, fun t => ?_⟩
    · rw [hp]
      exact (List.suffix_cons _ _).trans (List.suffix_append _ _)
    · rw [hp, List.append_assoc, List.cons_append, List.splitOn_append_cons_self]
  · exact ⟨[], p, List.suffix_rfl, h, fun t => rfl⟩

theorem exists_splitOn_right (separator : Char) (r : List Char) :
    ∃ right after, right <+: r ∧
      ∀ t, separator ∉ t → (t ++ r).splitOn separator = (t ++ right) :: after := by
  by_cases h : separator ∈ r
  · obtain ⟨a, b, rfl, ha⟩ := List.eq_append_cons_of_mem h
    refine ⟨a, b.splitOn separator, List.prefix_append _ _, fun t ht => ?_⟩
    have hta : separator ∉ t ++ a := by
      rw [List.mem_append, not_or]
      exact ⟨ht, ha⟩
    rw [← List.append_assoc, List.splitOn_append_cons_self_of_not_mem hta]
  · refine ⟨r, [], List.prefix_rfl, fun t ht => List.splitOn_eq_singleton ?_⟩
    rw [List.mem_append, not_or]
    exact ⟨ht, h⟩

/-- What is inserted without a separator stands in one part, whichever text it is. -/
theorem exists_splitOn_append (separator : Char) (p r : List Char) :
    ∃ before left right after, left ++ right <:+: p ++ r ∧
      ∀ m, separator ∉ m → (p ++ (m ++ r)).splitOn separator =
        before ++ (left ++ (m ++ right)) :: after := by
  obtain ⟨before, left, ⟨x, rfl⟩, hleft, hp⟩ := exists_splitOn_left separator p
  obtain ⟨right, after, ⟨y, rfl⟩, hr⟩ := exists_splitOn_right separator r
  refine ⟨before, left, right, after, ⟨x, y, by simp⟩, fun m hm => ?_⟩
  have hlm : separator ∉ left ++ m := by
    rw [List.mem_append, not_or]
    exact ⟨hleft, hm⟩
  rw [hp, ← List.append_assoc left m, hr _ hlm, List.append_assoc]

end Split

/-! ### A comment in a query list -/

namespace QueryList

/-- Only the texts of the clauses count. -/
theorem ofClauses_congr {query : String} {raws raws' : List (List Char)}
    (h : raws.map clauseText = raws'.map clauseText) :
    ofClauses query raws = ofClauses query raws' := by
  induction raws generalizing raws' with
  | nil =>
    rw [List.map_nil, eq_comm, List.map_eq_nil_iff] at h
    rw [h]
  | cons raw raws ih =>
    cases raws' with
    | nil => cases h
    | cons raw' raws' =>
      obtain ⟨hraw, hraws⟩ := List.cons.inj h
      rw [ofClauses, ofClauses, hraw, ih hraws]

variable {p body r : String}

/-- **Parsing a list with a comment** gives what the list gives without it. -/
theorem parse_commented (hopener : ¬ ['/', '*'] <:+: (p ++ r).toList)
    (hcloser : ¬ ['*', '/'] <:+: body.toList) (hcomma : ',' ∉ body.toList) :
    parse (p ++ "/*" ++ body ++ "*/" ++ r) =
      (parse (p ++ r)).mapError (·.within (p ++ "/*" ++ body ++ "*/" ++ r)) := by
  obtain ⟨before, left, right, after, hin, hsplit⟩ := exists_splitOn_append ',' p.toList r.toList
  have hplain := hsplit [] List.not_mem_nil
  have hcommented := hsplit ('/' :: '*' :: (body.toList ++ ['*', '/'])) (by simp [hcomma])
  have hno : ¬ ['/', '*'] <:+: left ++ right := by
    rw [String.toList_append] at hopener
    exact fun h => hopener (h.trans hin)
  have htext : (p ++ "/*" ++ body ++ "*/" ++ r).toList =
      p.toList ++ ('/' :: '*' :: (body.toList ++ ['*', '/']) ++ r.toList) := by simp
  have hclause := clauseText_inserted hno hcloser
  rw [parse, parse, ← ofClauses_eq_mapError, splitOn_eq, splitOn_eq, htext, hcommented,
    String.toList_append, ← List.nil_append r.toList, hplain]
  refine ofClauses_congr ?_
  simpa using hclause

end QueryList

/-! ### Sessions -/

namespace Session.State

variable {s : State}

/--
**Comments are invisible.** Deleting the pattern leaves what the grammar calls the text without its
comments, and nothing else is deleted: an opener without a closer stays, with all that follows.
So a comment that holds no comma can stand anywhere in a text without openers: the text is parsed
to the same tree, or fails with the same clause.
-/
theorem comments_are_invisible (hs : s.library.Coherent) (route : Route) :
    (∀ cs, clauseText cs = trim (commentPattern.deleteAll cs) ∧
      Uncommented cs (commentPattern.deleteAll cs) ∧
      (¬ ['*', '/'] <:+: cs →
        commentPattern.deleteAll ('/' :: '*' :: cs) = '/' :: '*' :: cs)) ∧
    ∀ p body r : String, ¬ ['/', '*'] <:+: (p ++ r).toList →
      ¬ ['*', '/'] <:+: body.toList → ',' ∉ body.toList →
      let plain := s.observe (.parse route (p ++ r))
      let commented := s.observe (.parse route (p ++ "/*" ++ body ++ "*/" ++ r))
      (∀ qs, commented = .ok (.inl qs) ↔ plain = .ok (.inl qs)) ∧
      ∀ failure, commented = .error failure ↔ ∃ e, plain = .error (.grammar e) ∧
        failure = .grammar (e.within (p ++ "/*" ++ body ++ "*/" ++ r)) := by
  refine ⟨fun cs => ⟨?_, ?_, fun hcloser => ?_⟩, ?_⟩
  · rw [deleteAll_commentPattern, clauseText]
  · rw [deleteAll_commentPattern]
    exact uncommented_dropComments cs
  · have hnone : afterComment? cs = none := by
      refine Option.eq_none_iff_forall_ne_some.2 fun rest hrest => ?_
      exact hcloser (infix_of_afterComment?_eq_some hrest)
    rw [deleteAll_commentPattern, dropComments]
    split
    · rename_i hsome
      rw [hnone] at hsome
      cases hsome
    · rfl
  · intro p body r hopener hcloser hcomma plain commented
    have hparse := QueryList.parse_commented hopener hcloser hcomma
    simp only [plain, commented, observe_parse hs, plainParse_eq_ok_iff, plainParse_eq_error_iff,
      hparse]
    cases QueryList.parse (p ++ r) with
    | error e => simp [Except.mapError, eq_comm]
    | ok qs => simp [Except.mapError]

/-- A comment inside the name of a feature, in the first of two clauses. -/
theorem comments_are_invisible_in_name :
    let p := "screen and (min-wi"
    let body := "* / /* "
    let r := "dth: 3em), print"
    (initial.library.Coherent ∧ ¬ ['/', '*'] <:+: (p ++ r).toList ∧
      ¬ ['*', '/'] <:+: body.toList ∧ ',' ∉ body.toList) ∧
    initial.observe (.parse (.cache .standard) (p ++ "/*" ++ body ++ "*/" ++ r)) =
      .ok (.inl [⟨"screen", false, [⟨"width", some .min, some "3em"⟩]⟩, ⟨"print", false, []⟩]) := by
  intro p body r
  have hs : initial.library.Coherent := Library.coherent_initial
  have hopener : ¬ ['/', '*'] <:+: (p ++ r).toList := by decide +kernel
  have hcloser : ¬ ['*', '/'] <:+: body.toList := by decide +kernel
  have hcomma : ',' ∉ body.toList := by decide +kernel
  have hplain : QueryList.parse (p ++ r) =
      .ok [⟨"screen", false, [⟨"width", some .min, some "3em"⟩]⟩, ⟨"print", false, []⟩] := by
    decide +kernel
  refine ⟨⟨hs, hopener, hcloser, hcomma⟩, ?_⟩
  have hboth := (comments_are_invisible hs (.cache .standard)).2 p body r hopener hcloser hcomma
  refine (hboth.1 _).2 ?_
  rw [observe_parse hs, plainParse_eq_ok_iff]
  exact hplain

end Session.State

end MediaQuery
