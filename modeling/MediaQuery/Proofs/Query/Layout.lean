import MediaQuery.Proofs.Query.Acceptance
import MediaQuery.Proofs.Query.Canonical
import MediaQuery.Proofs.Query.Spacing
import MediaQuery.Proofs.Session.Joined

/-!
# The layout of a clause

A head and some groups can be written as a clause in many ways: other white space, a group in front
instead of the head `all`, and any text between the groups that starts none (`ClauseText`). All of
them are read alike, as their head and their groups: `ClauseText.readQuery_eq`. The canonical way
has `and` between the groups and nothing else.
-/

namespace MediaQuery.Grammar

open Text Query

/-! ### Texts of a clause -/

/-- The body of a group, without what ends the group or the clause. -/
structure Body (cs : List Char) : Prop where
  ne_nil : cs ≠ []
  no_paren : ')' ∉ cs
  no_comma : ',' ∉ cs

/-- Text between groups, without what starts a group or ends the clause. -/
structure Filler (cs : List Char) : Prop where
  no_paren : '(' ∉ cs
  no_comma : ',' ∉ cs

/-- Text between `and` and a group. -/
structure Opening (cs : List Char) : Prop extends Filler cs where
  head : ∀ c ∈ cs.head?, c = ' '

instance : DecidablePred Gap := fun cs => decidableForallMem cs

instance : DecidablePred Body := fun cs =>
  decidable_of_iff (cs ≠ [] ∧ ')' ∉ cs ∧ ',' ∉ cs)
    ⟨fun h => ⟨h.1, h.2.1, h.2.2⟩, fun h => ⟨h.1, h.2, h.3⟩⟩

instance : DecidablePred Filler := fun cs =>
  decidable_of_iff ('(' ∉ cs ∧ ',' ∉ cs) ⟨fun h => ⟨h.1, h.2⟩, fun h => ⟨h.1, h.2⟩⟩

instance : DecidablePred Opening := fun cs =>
  decidable_of_iff (Filler cs ∧ ∀ c ∈ cs.head?, c = ' ') ⟨fun h => ⟨h.1, h.2⟩, fun h => ⟨h.1, h.2⟩⟩

/-- Groups, each with the text behind it. -/
def filled (parts : List (List Char × List Char)) : List Char :=
  parts.flatMap fun p => '(' :: (p.1 ++ ')' :: p.2)

/-- The clause of a head and groups, or of the groups alone for the head `all`, in any layout. -/
inductive ClauseText (name : List Char) (keyword : Option String) (bodies : List (List Char)) :
    List Char → Prop
  | typed {before head ws opening after : List Char} {parts : List (List Char × List Char)} :
      Gap before → HeadText name keyword head → Gap ws → ws ≠ [] → Opening opening →
      (∀ p ∈ parts, Filler p.2) → List.Forall₂ Spaced bodies (parts.map Prod.fst) → Gap after →
      ClauseText name keyword bodies
        (before ++ (head ++ (ws ++ ("and".toList ++ (opening ++ filled parts ++ after)))))
  | grouped {before body ws opening after : List Char} {parts : List (List Char × List Char)} :
      name = "all".toList → keyword = none → Gap before → Gap ws → Opening opening →
      (∀ p ∈ parts, Filler p.2) → List.Forall₂ Spaced bodies (body :: parts.map Prod.fst) →
      Gap after →
      ClauseText name keyword bodies
        (before ++ ('(' :: (body ++ [')']) ++
          (ws ++ ("and".toList ++ (opening ++ filled parts ++ after)))))

/-- The clause with `and` between its parts. -/
def canonicalText (head : List Char) (bodies : List (List Char)) : List Char :=
  head ++ bodies.flatMap fun body => " and (".toList ++ (body ++ [')'])

/-! ### Reading a clause from its front -/

/-- The query of a head and some groups, none without a head. -/
def queryOfGroups : Option Head → List (List Char) → Except Fault Query
  | some head, bodies =>
    match readTests? bodies with
    | some tests => .ok ⟨head.type.1, head.type.2, tests⟩
    | none => .error .grammar
  | none, _ => .error .grammar

theorem readQuery_of_readClause? {text : List Char} {clause : Clause} {bodies : List (List Char)}
    (hclause : readClause? (expandTabs 0 text) = some clause)
    (hgroups : groups clause.groupText = bodies) (hne : bodies ≠ []) :
    readQuery text = queryOfGroups (some clause.head) bodies := by
  have hblank : ¬ clause.groupText.all isBlank := by
    intro hall
    have hpar : '(' ∉ clause.groupText := fun hm =>
      absurd (List.all_eq_true.1 hall _ hm) (by decide)
    exact hne (hgroups.symm.trans (groups_eq_nil hpar))
  obtain ⟨body, bodies, rfl⟩ := List.exists_cons_of_ne_nil hne
  rw [readQuery, hclause, queryOfGroups]
  cases htests : readTests? (body :: bodies) <;>
    simp only [hblank, Bool.false_eq_true, if_false, hgroups, htests]

theorem keyword?_and_append {cs : List Char} (h : ∀ c ∈ cs.head?, ¬ continuesAnd c) :
    keyword? "and" continuesAnd ("and".toList ++ cs) = some cs := by
  have hword : afterWord? "and".toList ("and".toList ++ cs) = some cs := rfl
  rw [keyword?, hword]
  cases cs with
  | nil => rfl
  | cons c cs => exact if_neg (h c rfl)

/-- Behind the front, `and` and the text in which the groups are. -/
theorem readClause?_front {front ws rest : List Char} {read : Option Head} (hws : Gap ws)
    (hrest : ∀ c ∈ rest.head?, ¬ continuesAnd c)
    (hread : readHead? (front ++ (ws ++ ("and".toList ++ rest))) =
      read.map fun head => (head, ws ++ ("and".toList ++ rest))) :
    readClause? (front ++ (ws ++ ("and".toList ++ rest))) =
      read.map fun head => ⟨head, some (skipGaps rest)⟩ := by
  have hskip : skipGaps (ws ++ ("and".toList ++ rest)) = "and".toList ++ rest := by
    rw [skipGaps_append hws]
    rfl
  rw [readClause?, hread]
  cases read with
  | none => rfl
  | some head => simp only [Option.map_some, hskip, keyword?_and_append hrest]

/-- Trimming the end keeps the groups. -/
theorem groups_trimRight (cs : List Char) : groups (trimRight cs) = groups cs := by
  obtain ⟨b, hb, hcs⟩ := exists_trimRight cs
  have hopen : '(' ∉ b := fun hm => absurd (hb _ hm) (by decide)
  have hclose : ')' ∉ b := fun hm => absurd (hb _ hm) (by decide)
  conv_rhs => rw [hcs]
  exact (groups_iff.1 ((groups_groups (trimRight cs)).append_right hopen hclose)).symm

theorem head?_trimRight {cs : List Char} {c : Char} (h : c ∈ (trimRight cs).head?) :
    c ∈ cs.head? := by
  obtain ⟨b, -, hcs⟩ := exists_trimRight cs
  rw [hcs, List.head?_append, Option.mem_def.1 h]
  rfl

section Front

variable {before front ws rest : List Char} {read : Option Head} {first : List (List Char)}

/-- White space is taken off in front and behind `and`, the groups stay. -/
theorem clauseText_front (hbefore : Gap before) (hfront : ∀ c ∈ front.head?, ¬ isBlank c)
    (hne : front ≠ [])
    (hopener : ¬ ['/', '*'] <:+: before ++ (front ++ (ws ++ ("and".toList ++ rest)))) :
    clauseText (before ++ (front ++ (ws ++ ("and".toList ++ rest)))) =
      front ++ (ws ++ ("and".toList ++ trimRight rest)) := by
  have hhead : ∀ c ∈ (front ++ (ws ++ ("and".toList ++ rest))).head?, ¬ isBlank c := by
    obtain ⟨c, cs, rfl⟩ := List.exists_cons_of_ne_nil hne
    exact hfront
  have hlast : (front ++ (ws ++ "and".toList)).getLast? = some 'd' := by
    rw [← List.append_assoc, List.getLast?_append]
    rfl
  have hassoc : ∀ t, front ++ (ws ++ ("and".toList ++ t)) = front ++ (ws ++ "and".toList) ++ t := by
    simp
  rw [clauseText, uncommented_iff.1 (uncommented_of_no_opener hopener),
    trim_append_left hbefore.isBlank, trim, trimLeft, dropWhile_eq_self hhead, hassoc,
    trimRight_append_left hlast (by decide), hassoc]

/-- **A clause by its front**: the head that is read from it, its own group and those behind it. -/
theorem readQuery_front (hbefore : Gap before) (hws : Gap ws)
    (hfront : ∀ c ∈ front.head?, ¬ isBlank c) (hne : front ≠ [])
    (hrest : ∀ c ∈ rest.head?, ¬ continuesAnd c)
    (hread : ∀ t, readHead? (front ++ (ws ++ ("and".toList ++ t))) =
      read.map fun head => (head, ws ++ ("and".toList ++ t)))
    (hfirst : ∀ head ∈ read, ∀ t, groups (headGroup head ++ t) = first ++ groups t)
    (hbodies : first ++ groups rest ≠ [])
    (hopener : ¬ ['/', '*'] <:+: before ++ (front ++ (ws ++ ("and".toList ++ rest))))
    (htab : '\t' ∉ before ++ (front ++ (ws ++ ("and".toList ++ rest)))) :
    readQuery (clauseText (before ++ (front ++ (ws ++ ("and".toList ++ rest))))) =
      queryOfGroups read (first ++ groups rest) := by
  have htrim : trimRight rest ⊆ rest := by
    obtain ⟨b, -, hb⟩ := exists_trimRight rest
    conv_rhs => rw [hb]
    exact List.subset_append_left _ _
  have htext := clauseText_front hbefore hfront hne hopener
  have htab' : '\t' ∉ front ++ (ws ++ ("and".toList ++ trimRight rest)) := by
    simp only [List.mem_append, not_or] at htab ⊢
    exact ⟨htab.2.1, htab.2.2.1, htab.2.2.2.1, fun hm => htab.2.2.2.2 (htrim hm)⟩
  have htabr : '\t' ∉ trimRight rest := fun hm => htab' (by simp [hm])
  have hclause := readClause?_front hws (fun c hc => hrest c (head?_trimRight hc)) (hread _)
  rw [htext]
  cases read with
  | none =>
    rw [readQuery, expandTabs_eq_self htab', hclause]
    rfl
  | some head =>
    refine readQuery_of_readClause? (by rw [expandTabs_eq_self htab', hclause]; rfl) ?_ hbodies
    rw [groupText_eq, Option.getD_some, hfirst head rfl, groups_skipGaps htabr, groups_trimRight]

end Front

/-- A group in front is the head. -/
theorem readHead?_group_append {body : List Char} (hbody : Body body) (t : List Char) :
    readHead? ('(' :: (body ++ [')']) ++ t) = some (.grouped body, t) := by
  have htext : '(' :: (body ++ [')']) ++ t = '(' :: (body ++ ')' :: t) := by simp
  have hskip : skipGaps ('(' :: (body ++ ')' :: t)) = '(' :: (body ++ ')' :: t) := rfl
  have hgroup : groupBody? (body ++ ')' :: t) = some (body, t) :=
    groupBody?_eq_some_iff.2 ⟨rfl, hbody.ne_nil, hbody.no_paren⟩
  rw [readHead?, htext, readTyped?_paren, Option.none_or, readGrouped?, hskip]
  simp only [hgroup, Option.map_some]

theorem groups_headGroup_append {body : List Char} (hbody : Body body) (t : List Char) :
    groups (headGroup (.grouped body) ++ t) = [body] ++ groups t := by
  have htext : headGroup (.grouped body) ++ t = '(' :: (body ++ ')' :: t) := by simp [headGroup]
  rw [htext, groups_group_append hbody.ne_nil hbody.no_paren]
  rfl

/-! ### Reading a clause in any layout -/

theorem filled_cons (p : List Char × List Char) (parts : List (List Char × List Char)) :
    filled (p :: parts) = '(' :: (p.1 ++ ')' :: (p.2 ++ filled parts)) := by
  simp [filled]

/-- Fillers neither make a group nor take one away. -/
theorem groups_filled {parts : List (List Char × List Char)}
    (hbodies : ∀ p ∈ parts, Body p.1) (hfillers : ∀ p ∈ parts, Filler p.2) {after : List Char}
    (hafter : '(' ∉ after) : groups (filled parts ++ after) = parts.map Prod.fst := by
  induction parts with
  | nil => exact groups_eq_nil hafter
  | cons p parts ih =>
    obtain ⟨hbody, hbodies⟩ := List.forall_mem_cons.1 hbodies
    obtain ⟨hfiller, hfillers⟩ := List.forall_mem_cons.1 hfillers
    have htail := (groups_groups (filled parts ++ after)).append_left hfiller.no_paren
    have htext : filled (p :: parts) ++ after =
        '(' :: (p.1 ++ ')' :: (p.2 ++ (filled parts ++ after))) := by simp [filled_cons]
    rw [htext, groups_group_append hbody.ne_nil hbody.no_paren, groups_iff.1 htail,
      ih hbodies hfillers, List.map_cons]

theorem readTests?_congr {bodies bodies' : List (List Char)}
    (h : List.Forall₂ (fun body body' => readTest? body = readTest? body') bodies bodies') :
    readTests? bodies = readTests? bodies' := by
  induction h with
  | nil => rfl
  | cons hbody _ ih => rw [readTests?, readTests?, hbody, ih]

theorem Gap.notMem {gap : List Char} (h : Gap gap) {c : Char} (hc : c ∉ [' ', '\n', '\r']) :
    c ∉ gap := fun hm => hc (by simpa using h c hm)

/-- White space in a body adds nothing but gaps. -/
theorem Spaced.notMem {body body' : List Char} (h : Spaced body body') {c : Char}
    (hc : c ∉ [' ', '\n', '\r']) (hbody : c ∉ body) : c ∉ body' := by
  rcases h with ⟨-, h1, h2⟩ | ⟨-, h1, h2, h3, h4⟩
  · simp only [List.mem_append, not_or]
    exact ⟨h1.notMem hc, hbody, h2.notMem hc⟩
  · simp only [List.mem_append, List.mem_cons, not_or] at hbody ⊢
    exact ⟨h1.notMem hc, hbody.1, h2.notMem hc, hbody.2.1, h3.notMem hc, hbody.2.2, h4.notMem hc⟩

theorem Spaced.body {body body' : List Char} (h : Spaced body body') (hbody : Body body) :
    Body body' := by
  refine ⟨?_, h.notMem (by decide) hbody.no_paren, h.notMem (by decide) hbody.no_comma⟩
  have hne := hbody.ne_nil
  rcases h with - | - <;> simp [hne]

/-- What is read between `and` and the first group does not continue the word. -/
theorem Opening.head?_append {opening after : List Char} {parts : List (List Char × List Char)}
    (h : Opening opening) (hafter : Gap after) :
    ∀ c ∈ (opening ++ filled parts ++ after).head?, ¬ continuesAnd c := by
  intro c hc
  cases opening with
  | cons d opening =>
    obtain rfl : d = c := by simpa using hc
    rw [h.head d rfl]
    decide
  | nil =>
    cases parts with
    | cons p parts =>
      obtain rfl : '(' = c := by simpa [filled_cons] using hc
      decide
    | nil =>
      have hmem := hafter c (List.mem_of_mem_head? hc)
      rcases hmem with rfl | rfl | rfl <;> decide

theorem headGroup_of_typedHead? {name : List Char} {keyword : Option String} {head : Head}
    (h : typedHead? name keyword = some head) : headGroup head = [] := by
  rw [typedHead?] at h
  split at h
  · split_ifs at h
    cases h
    rfl
  · cases h

section Layout

variable {name : List Char} {keyword : Option String} {bodies : List (List Char)} {text : List Char}

theorem body_of_spaced {bodies' : List (List Char)} (h : List.Forall₂ Spaced bodies bodies')
    (hbodies : ∀ body ∈ bodies, Body body) : ∀ body ∈ bodies', Body body := by
  induction h with
  | nil => exact hbodies
  | cons hbody _ ih =>
    obtain ⟨hb, hbs⟩ := List.forall_mem_cons.1 hbodies
    exact List.forall_mem_cons.2 ⟨hbody.body hb, ih hbs⟩

theorem queryOfGroups_spaced {bodies' : List (List Char)} (h : List.Forall₂ Spaced bodies bodies')
    (read : Option Head) : queryOfGroups read bodies' = queryOfGroups read bodies := by
  cases read with
  | none => rfl
  | some head =>
    have htests := readTests?_congr (h.imp fun _ _ hbody => hbody.readTest?_eq.symm)
    rw [queryOfGroups, queryOfGroups, htests]

/-- Only the type of a head counts. -/
theorem queryOfGroups_of_type {head head' : Head} (h : head.type = head'.type) :
    queryOfGroups (some head) bodies = queryOfGroups (some head') bodies := by
  rw [queryOfGroups, queryOfGroups, h]

theorem notMem_filled {c : Char} (hc : c ∉ ['(', ')']) {parts : List (List Char × List Char)}
    (hparts : ∀ p ∈ parts, c ∉ p.1 ∧ c ∉ p.2) : c ∉ filled parts := by
  induction parts with
  | nil => exact List.not_mem_nil
  | cons p parts ih =>
    obtain ⟨⟨hbody, hfiller⟩, hparts⟩ := List.forall_mem_cons.1 hparts
    have hpar : c ≠ '(' ∧ c ≠ ')' := by simpa using hc
    rw [filled_cons]
    simp [hpar, hbody, hfiller, ih hparts]

section Behind

variable {opening after : List Char} {parts : List (List Char × List Char)}
  (hopening : Opening opening) (hfillers : ∀ p ∈ parts, Filler p.2)
  (hparts : ∀ body ∈ parts.map Prod.fst, Body body) (hafter : Gap after)

include hopening hfillers hparts hafter

/-- The groups behind `and`. -/
theorem groups_opening : groups (opening ++ filled parts ++ after) = parts.map Prod.fst := by
  have hbodies : ∀ p ∈ parts, Body p.1 := fun p hp => hparts _ (List.mem_map_of_mem hp)
  rw [List.append_assoc, ← groups_filled hbodies hfillers (hafter.notMem (by decide))]
  exact groups_iff.1 ((groups_groups _).append_left hopening.no_paren)

theorem no_comma_opening : ',' ∉ opening ++ filled parts ++ after := by
  have hfilled : ',' ∉ filled parts := notMem_filled (by decide) fun p hp =>
    ⟨(hparts _ (List.mem_map_of_mem hp)).no_comma, (hfillers p hp).no_comma⟩
  simp only [List.mem_append, not_or]
  exact ⟨⟨hopening.no_comma, hfilled⟩, hafter.notMem (by decide)⟩

end Behind

/-- **A clause in any layout** is read as its head and its groups. -/
theorem ClauseText.readQuery_eq (h : ClauseText name keyword bodies text)
    (hname : IsName startsType continuesType name) (hne : bodies ≠ [])
    (hbodies : ∀ body ∈ bodies, Body body) (hopener : ¬ ['/', '*'] <:+: text)
    (htab : '\t' ∉ text) :
    readQuery (clauseText text) = queryOfGroups (typedHead? name keyword) bodies := by
  cases h with
  | @typed before head ws opening after parts hbefore hhead hws hwsne hopening hfillers hspaced
      hafter =>
    have hgroups := groups_opening hopening hfillers (body_of_spaced hspaced hbodies) hafter
    have hpartsne : parts.map Prod.fst ≠ [] := by
      intro hnil
      rw [hnil, List.forall₂_nil_right_iff] at hspaced
      exact hne hspaced
    have hfirst : ∀ read ∈ typedHead? name keyword, ∀ t,
        groups (headGroup read ++ t) = [] ++ groups t := by
      intro read hread t
      rw [headGroup_of_typedHead? hread]
      rfl
    rw [readQuery_front hbefore hws (hhead.head?_not_blank hname) (hhead.ne_nil hname)
      (hopening.head?_append hafter) (fun t => hhead.readHead?_gap_append hname hws hwsne _) hfirst
      (by rwa [hgroups]) hopener htab, hgroups]
    exact queryOfGroups_spaced hspaced _
  | @grouped before body ws opening after parts hall hkey hbefore hws hopening hfillers hspaced
      hafter =>
    obtain ⟨hbody, hparts⟩ := List.forall_mem_cons.1 (body_of_spaced hspaced hbodies)
    have hgroups := groups_opening hopening hfillers hparts hafter
    have hfirst : ∀ read ∈ some (Head.grouped body), ∀ t,
        groups (headGroup read ++ t) = [body] ++ groups t := by
      rintro read ⟨⟩ t
      exact groups_headGroup_append hbody t
    have hfront : ∀ c ∈ ('(' :: (body ++ [')'])).head?, ¬ isBlank c := by
      rintro c ⟨⟩
      decide
    rw [readQuery_front hbefore hws hfront (List.cons_ne_nil _ _) (hopening.head?_append hafter)
      (fun t => readHead?_group_append hbody _) hfirst (by simp) hopener htab, hgroups]
    -- the head `all` has the type of a group in front
    have hread : typedHead? "all".toList none = some (.typed false "all".toList) := by
      decide +kernel
    have htype : (Head.typed false "all".toList).type = ("all", false) := by decide +kernel
    rw [hall, hkey, hread]
    exact (queryOfGroups_spaced hspaced _).trans (queryOfGroups_of_type htype.symm)

/-- A clause in any layout is one segment. -/
theorem ClauseText.no_comma (h : ClauseText name keyword bodies text)
    (hname : IsName startsType continuesType name) (hbodies : ∀ body ∈ bodies, Body body) :
    ',' ∉ text := by
  have hand : ',' ∉ "and".toList := by decide
  cases h with
  | typed hbefore hhead hws hwsne hopening hfillers hspaced hafter =>
    have hbehind := no_comma_opening hopening hfillers (body_of_spaced hspaced hbodies) hafter
    have hhead' := hhead.notMem hname (by decide : ¬ continuesType ',') (by decide)
    rw [List.mem_append, List.mem_append, List.mem_append, List.mem_append]
    simp only [not_or]
    exact ⟨hbefore.notMem (by decide), hhead', hws.notMem (by decide), hand, hbehind⟩
  | grouped hall hkey hbefore hws hopening hfillers hspaced hafter =>
    obtain ⟨hbody, hparts⟩ := List.forall_mem_cons.1 (body_of_spaced hspaced hbodies)
    have hbehind := no_comma_opening hopening hfillers hparts hafter
    have hgroup : ∀ body, ',' ∉ body → ',' ∉ '(' :: (body ++ [')']) := by simp
    rw [List.mem_append, List.mem_append, List.mem_append, List.mem_append]
    simp only [not_or]
    exact ⟨hbefore.notMem (by decide), hgroup _ hbody.no_comma, hws.notMem (by decide), hand,
      hbehind⟩

/-! ### The canonical layout -/

theorem Spaced.refl (body : List Char) : Spaced body body := by
  by_cases h : ':' ∈ body
  · obtain ⟨name, value, rfl, hname⟩ := List.eq_append_cons_of_mem h
    have hspaced : Spaced _ ([] ++ (name ++ ([] ++ ':' :: ([] ++ (value ++ []))))) :=
      .valued hname Gap.nil Gap.nil Gap.nil Gap.nil
    simpa using hspaced
  · have hspaced := Spaced.plain h Gap.nil Gap.nil
    simpa using hspaced

theorem canonicalText_cons (head body : List Char) (bodies : List (List Char)) :
    canonicalText head (body :: bodies) =
      canonicalText (head ++ (" and (".toList ++ (body ++ [')']))) bodies := by
  simp [canonicalText]

/-- The canonical text has groups with `and` between them. -/
theorem exists_parts (body : List Char) (bodies : List (List Char)) :
    ∃ parts, parts.map Prod.fst = body :: bodies ∧ (∀ p ∈ parts, Filler p.2) ∧
      ∀ head, canonicalText head (body :: bodies) = head ++ " and ".toList ++ filled parts := by
  induction bodies generalizing body with
  | nil =>
    refine ⟨[(body, [])], rfl, ?_, fun head => ?_⟩
    · simpa using ⟨List.not_mem_nil, List.not_mem_nil⟩
    · simp [canonicalText, filled]
  | cons body' bodies ih =>
    obtain ⟨parts, hfst, hfillers, htext⟩ := ih body'
    refine ⟨(body, " and ".toList) :: parts, ?_, ?_, fun head => ?_⟩
    · rw [List.map_cons, hfst]
    · have hand : Filler " and ".toList := ⟨by decide, by decide⟩
      exact List.forall_mem_cons.2 ⟨hand, hfillers⟩
    · rw [canonicalText_cons, htext, filled_cons]
      simp

theorem clauseText_canonicalText {head : List Char} (hhead : HeadText name keyword head)
    (hne : bodies ≠ []) : ClauseText name keyword bodies (canonicalText head bodies) := by
  obtain ⟨body, bodies, rfl⟩ := List.exists_cons_of_ne_nil hne
  obtain ⟨parts, hfst, hfillers, htext⟩ := exists_parts body bodies
  have hopening : Opening [' '] := ⟨⟨by decide, by decide⟩, by simp⟩
  have hspaced : List.Forall₂ Spaced (body :: bodies) (parts.map Prod.fst) := by
    rw [hfst, List.forall₂_same]
    exact fun b _ => Spaced.refl b
  have h := ClauseText.typed Gap.nil hhead gap_space (List.cons_ne_nil _ _) hopening hfillers
    hspaced Gap.nil
  rw [htext]
  simpa using h

theorem Spaced.infix_name_value {body body' : List Char} (h : Spaced body body') :
    body <:+: body' ∨ ∃ name value, body = name ++ ':' :: value ∧ name <:+: body' ∧
      value <:+: body' := by
  cases h with
  | @plain before name after => exact .inl ⟨before, after, by simp⟩
  | @valued before name after before' value after' =>
    refine .inr ⟨name, value, rfl, ?_, ?_⟩
    · exact ⟨before, after ++ ':' :: (before' ++ (value ++ after')), by simp⟩
    · exact ⟨before ++ (name ++ (after ++ ':' :: before')), after', by simp⟩

/-- Taking white space out of a body opens no comment, since the colon stays. -/
theorem Spaced.no_opener {body body' : List Char} (h : Spaced body body')
    (hopener : ¬ ['/', '*'] <:+: body') : ¬ ['/', '*'] <:+: body := by
  rcases h.infix_name_value with hin | ⟨name, value, rfl, hname, hvalue⟩
  · exact fun hi => hopener (hi.trans hin)
  · have hcolon : ¬ ['/', '*'] <:+: [':'] ++ value :=
      no_opener_append_left (by simp) fun hi => hopener (hi.trans hvalue)
    exact no_opener_append (fun hi => hopener (hi.trans hname)) hcolon (by simp)

theorem Spaced.no_tab {body body' : List Char} (h : Spaced body body') (htab : '\t' ∉ body') :
    '\t' ∉ body := by
  rcases h.infix_name_value with hin | ⟨name, value, rfl, hname, hvalue⟩
  · exact fun hm => htab (hin.subset hm)
  · rw [List.mem_append, List.mem_cons, not_or, not_or]
    exact ⟨fun hm => htab (hname.subset hm), by decide, fun hm => htab (hvalue.subset hm)⟩

theorem infix_filled {parts : List (List Char × List Char)} {p : List Char × List Char}
    (h : p ∈ parts) : p.1 <:+: filled parts := by
  obtain ⟨a, b, rfl⟩ := List.append_of_mem h
  exact ⟨filled a ++ ['('], ')' :: (p.2 ++ filled b), by simp [filled]⟩

theorem clean_of_spaced {bodies' : List (List Char)} (h : List.Forall₂ Spaced bodies bodies')
    (hclean : ∀ body ∈ bodies', ¬ ['/', '*'] <:+: body ∧ '\t' ∉ body) :
    ∀ body ∈ bodies, ¬ ['/', '*'] <:+: body ∧ '\t' ∉ body := by
  induction h with
  | nil => exact hclean
  | cons hbody _ ih =>
    obtain ⟨hb, hbs⟩ := List.forall_mem_cons.1 hclean
    exact List.forall_mem_cons.2 ⟨⟨hbody.no_opener hb.1, hbody.no_tab hb.2⟩, ih hbs⟩

/-- Every group stands in the clause, perhaps with more white space in it. -/
theorem ClauseText.exists_spaced (h : ClauseText name keyword bodies text) :
    ∃ bodies', List.Forall₂ Spaced bodies bodies' ∧ ∀ body ∈ bodies', body <:+: text := by
  cases h with
  | @typed before head ws opening after parts _ _ _ _ _ _ hspaced _ =>
    refine ⟨_, hspaced, fun body hbody => ?_⟩
    obtain ⟨p, hp, rfl⟩ := List.mem_map.1 hbody
    refine (infix_filled hp).trans
      ⟨before ++ (head ++ (ws ++ ("and".toList ++ opening))), after, ?_⟩
    simp
  | @grouped before first ws opening after parts _ _ _ _ _ _ hspaced _ =>
    refine ⟨_, hspaced, List.forall_mem_cons.2 ⟨?_, fun body hbody => ?_⟩⟩
    · exact ⟨before ++ ['('], ')' :: (ws ++ ("and".toList ++ (opening ++ filled parts ++ after))),
        by simp⟩
    · obtain ⟨p, hp, rfl⟩ := List.mem_map.1 hbody
      refine (infix_filled hp).trans
        ⟨before ++ ('(' :: (first ++ [')']) ++ (ws ++ ("and".toList ++ opening))), after, ?_⟩
      simp

/-- In a clause without openers and tabs, no group holds one. -/
theorem ClauseText.clean_bodies (h : ClauseText name keyword bodies text)
    (hopener : ¬ ['/', '*'] <:+: text) (htab : '\t' ∉ text) :
    ∀ body ∈ bodies, ¬ ['/', '*'] <:+: body ∧ '\t' ∉ body := by
  obtain ⟨bodies', hspaced, hin⟩ := h.exists_spaced
  refine clean_of_spaced hspaced fun body hbody => ⟨fun hi => ?_, fun hm => ?_⟩
  · exact hopener (hi.trans (hin body hbody))
  · exact htab ((hin body hbody).subset hm)

/-- No comment starts in the canonical text, and it holds no tab. -/
theorem clean_canonicalText {head : List Char} (hhead : '/' ∉ head ∧ '\t' ∉ head)
    (hbodies : ∀ body ∈ bodies, ¬ ['/', '*'] <:+: body ∧ '\t' ∉ body) :
    ¬ ['/', '*'] <:+: canonicalText head bodies ∧ '\t' ∉ canonicalText head bodies := by
  have hand : '/' ∉ " and (".toList ∧ '\t' ∉ " and (".toList := by decide
  have htail : ¬ ['/', '*'] <:+: canonicalText [] bodies ∧ '\t' ∉ canonicalText [] bodies := by
    induction bodies with
    | nil => exact ⟨no_opener_of_notMem List.not_mem_nil, List.not_mem_nil⟩
    | cons body bodies ih =>
      obtain ⟨⟨hopener, htab⟩, hbodies⟩ := List.forall_mem_cons.1 hbodies
      obtain ⟨hopener', htab'⟩ := ih hbodies
      have htext : canonicalText [] (body :: bodies) =
          " and (".toList ++ (body ++ ([')'] ++ canonicalText [] bodies)) := by
        simp [canonicalText]
      rw [htext]
      refine ⟨no_opener_append_left hand.1 (no_opener_append hopener ?_ (by simp)), ?_⟩
      · exact no_opener_append_left (by simp) hopener'
      · simp only [List.mem_append, not_or]
        exact ⟨hand.2, htab, by simp, htab'⟩
  have htext : canonicalText head bodies = head ++ canonicalText [] bodies := rfl
  rw [htext, List.mem_append, not_or]
  exact ⟨no_opener_append_left hhead.1 htail.1, hhead.2, htail.2⟩

/-- **Any layout** is read as the canonical one. -/
theorem ClauseText.readQuery_eq_canonical (h : ClauseText name keyword bodies text)
    (hname : IsName startsType continuesType name) {head : List Char}
    (hhead : HeadText name keyword head) (hne : bodies ≠ []) (hbodies : ∀ body ∈ bodies, Body body)
    (hopener : ¬ ['/', '*'] <:+: text) (htab : '\t' ∉ text) :
    readQuery (clauseText text) = readQuery (clauseText (canonicalText head bodies)) := by
  have hslash := hhead.notMem hname (by decide : ¬ continuesType '/') (by decide)
  have htab' := hhead.notMem hname (by decide : ¬ continuesType '\t') (by decide)
  obtain ⟨hopener', htab'⟩ := clean_canonicalText ⟨hslash, htab'⟩ (h.clean_bodies hopener htab)
  have hcanonical := clauseText_canonicalText hhead hne
  rw [h.readQuery_eq hname hne hbodies hopener htab,
    hcanonical.readQuery_eq hname hne hbodies hopener' htab']

/-- The tests of the query are those of the groups. -/
theorem ClauseText.testOf (h : ClauseText name keyword bodies text)
    (hname : IsName startsType continuesType name) (hne : bodies ≠ [])
    (hbodies : ∀ body ∈ bodies, Body body) (hopener : ¬ ['/', '*'] <:+: text) (htab : '\t' ∉ text)
    {q : Query} (hq : readQuery (clauseText text) = .ok q) :
    List.Forall₂ TestOf bodies q.tests := by
  have hclean := h.clean_bodies hopener htab
  rw [h.readQuery_eq hname hne hbodies hopener htab] at hq
  cases hhead : typedHead? name keyword with
  | none =>
    rw [hhead] at hq
    cases hq
  | some head =>
    rw [hhead, queryOfGroups] at hq
    cases htests : readTests? bodies with
    | none =>
      rw [htests] at hq
      cases hq
    | some tests =>
      rw [htests] at hq
      cases hq
      exact (readTests?_eq_some_iff fun body hbody => (hclean body hbody).2).1 htests

end Layout

/-- A text without commas is a query list of one query. -/
theorem parse_eq_ok_iff_of_no_comma {text : String} (h : ',' ∉ text.toList) {qs : QueryList} :
    QueryList.parse text = .ok qs ↔
      ∃ q, qs = [q] ∧ readQuery (clauseText text.toList) = .ok q := by
  rw [parse_iff_spells, Spells, List.splitOn_eq_singleton h]
  constructor
  · rintro (- | ⟨hq, hnil⟩)
    obtain rfl := List.forall₂_nil_left_iff.1 hnil
    exact ⟨_, rfl, segmentOf_iff.1 hq⟩
  · rintro ⟨q, rfl, hq⟩
    exact .cons (segmentOf_iff.2 hq) .nil

end MediaQuery.Grammar

namespace MediaQuery.Session.State

open Text Query Grammar

variable {s : State}

/--
**The layout of a clause does not matter.** A head and groups are accepted in any layout iff they
are accepted in the canonical one, with the same tree, which has one test for each group, in order.
-/
theorem layout_is_irrelevant (hs : s.library.Coherent) (route : Route) {name head : List Char}
    {keyword : Option String} {bodies : List (List Char)} {text : String}
    (hname : IsName startsType continuesType name) (hhead : HeadText name keyword head)
    (hne : bodies ≠ []) (hbodies : ∀ body ∈ bodies, Body body)
    (htext : ClauseText name keyword bodies text.toList) (hopener : ¬ ['/', '*'] <:+: text.toList)
    (htab : '\t' ∉ text.toList) :
    let canonical := String.ofList (canonicalText head bodies)
    (∀ qs, s.observe (.parse route text) = .ok (.inl qs) ↔
      s.observe (.parse route canonical) = .ok (.inl qs)) ∧
    ∀ qs, s.observe (.parse route text) = .ok (.inl qs) →
      ∃ q, qs = [q] ∧ List.Forall₂ TestOf bodies q.tests := by
  intro canonical
  have hcomma := htext.no_comma hname hbodies
  have hcanonical : canonical.toList = canonicalText head bodies := String.toList_ofList
  have hcomma' : ',' ∉ canonical.toList := by
    rw [hcanonical]
    exact (clauseText_canonicalText hhead hne).no_comma hname hbodies
  have hread := htext.readQuery_eq_canonical hname hhead hne hbodies hopener htab
  simp only [observe_parse hs, plainParse_eq_ok_iff, parse_eq_ok_iff_of_no_comma hcomma,
    parse_eq_ok_iff_of_no_comma hcomma', hcanonical, hread, true_and, implies_true]
  rintro qs ⟨q, rfl, hq⟩
  rw [← hread] at hq
  exact ⟨q, rfl, htext.testOf hname hne hbodies hopener htab hq⟩

/-- White space at every place, and text around the groups that looks like more of the clause. -/
theorem layout_is_irrelevant_screen :
    let name := "Screen".toList
    let bodies := ["min-width:3em".toList, "color".toList]
    let text := "\nNOT \r Screen \nand ) or ( min-width\n:  3em ) not) and (color ); all\n"
    (initial.library.Coherent ∧ IsName startsType continuesType name ∧
      HeadText name (some "not") "not Screen".toList ∧ bodies ≠ [] ∧ (∀ body ∈ bodies, Body body) ∧
      ClauseText name (some "not") bodies text.toList ∧ ¬ ['/', '*'] <:+: text.toList ∧
      '\t' ∉ text.toList) ∧
    initial.observe (.parse (.cache .standard) text) =
      .ok (.inl [⟨"screen", true, [⟨"width", some .min, some "3em"⟩, ⟨"color", none, none⟩]⟩]) := by
  intro name bodies text
  have hs : initial.library.Coherent := Library.coherent_initial
  have hname : IsName startsType continuesType name :=
    ⟨'S', "creen".toList, rfl, by decide, by decide⟩
  have hhead : HeadText name (some "not") "not Screen".toList :=
    .led (by simp) gap_space (keyword?_not_iff.1 (by decide +kernel))
  have hspread : HeadText name (some "not") "NOT \r Screen".toList :=
    .led (by simp) (by decide : Gap " \r ".toList) (keyword?_not_iff.1 (by decide +kernel))
  have hbodies : ∀ body ∈ bodies, Body body := by decide +kernel
  have hwidth : Spaced "min-width:3em".toList " min-width\n:  3em ".toList :=
    .valued (by decide : ':' ∉ "min-width".toList) gap_space (by decide : Gap ['\n'])
      (by decide : Gap [' ', ' ']) gap_space
  have hcolor : Spaced "color".toList "color ".toList := .plain (by decide) Gap.nil gap_space
  let parts := [(" min-width\n:  3em ".toList, " not) and ".toList),
    ("color ".toList, "; all".toList)]
  have hsplit : text.toList = ['\n'] ++ ("NOT \r Screen".toList ++ ([' ', '\n'] ++
      ("and".toList ++ (" ) or ".toList ++ filled parts ++ ['\n'])))) := by decide +kernel
  have htext : ClauseText name (some "not") bodies text.toList := by
    rw [hsplit]
    exact .typed (by decide) hspread (by decide) (by decide) (by decide +kernel) (by decide +kernel)
      (.cons hwidth (.cons hcolor .nil)) (by decide)
  have hopener : ¬ ['/', '*'] <:+: text.toList := by decide +kernel
  have htab : '\t' ∉ text.toList := by decide +kernel
  have hcanonical : QueryList.parse (String.ofList (canonicalText "not Screen".toList bodies)) =
      .ok [⟨"screen", true, [⟨"width", some .min, some "3em"⟩, ⟨"color", none, none⟩]⟩] := by
    decide +kernel
  refine ⟨⟨hs, hname, hhead, by decide, hbodies, htext, hopener, htab⟩, ?_⟩
  refine ((layout_is_irrelevant hs (.cache .standard) hname hhead (by decide) hbodies htext hopener
    htab).1 _).2 ?_
  rw [observe_parse hs, plainParse_eq_ok_iff]
  exact hcanonical

end MediaQuery.Session.State
