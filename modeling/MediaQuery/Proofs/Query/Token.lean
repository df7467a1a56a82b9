import MediaQuery.Proofs.Query.Grammar
import MediaQuery.Proofs.Text.Parts
import MediaQuery.Query.Test

/-!
# Gaps, names and groups

Each recogniser of a token reads what the grammar says: `name?_eq_some_iff`,
`groupBody?_eq_some_iff` and `groups_iff`. In a text without tabs the skipped gaps are those of the
grammar.
-/

namespace MediaQuery.Grammar

open Text Query

variable {cs rest : List Char}

/-! ### Gaps -/

theorem isGap_iff {c : Char} : isGap c ↔ c = ' ' ∨ c = '\n' ∨ c = '\t' ∨ c = '\r' := by
  simp [isGap, or_assoc]

theorem isBlank_of_isGap {c : Char} (h : isGap c) : isBlank c := by
  rcases isGap_iff.1 h with rfl | rfl | rfl | rfl <;> decide

theorem Gap.isGap {gap : List Char} (h : Gap gap) : ∀ c ∈ gap, isGap c := by
  intro c hc
  rcases h c hc with rfl | rfl | rfl <;> decide

theorem Gap.nil : Gap [] := fun _ hc => absurd hc List.not_mem_nil

theorem gap_space : Gap [' '] := by
  intro c hc
  exact .inl (List.mem_singleton.1 hc)

theorem Gap.isBlank {gap : List Char} (h : Gap gap) : ∀ c ∈ gap, isBlank c :=
  fun c hc => isBlank_of_isGap (h.isGap c hc)

theorem gap_of_isGap {gap : List Char} (htab : '\t' ∉ gap) (h : ∀ c ∈ gap, Query.isGap c) :
    Gap gap := by
  intro c hc
  rcases isGap_iff.1 (h c hc) with rfl | rfl | rfl | rfl
  · exact .inl rfl
  · exact .inr (.inl rfl)
  · exact absurd hc htab
  · exact .inr (.inr rfl)

theorem skipGaps_append {gap : List Char} (h : Gap gap) : skipGaps (gap ++ cs) = skipGaps cs :=
  List.dropWhile_append_of_pos h.isGap

theorem skipGaps_eq_self (h : ∀ c ∈ cs.head?, ¬ isGap c) : skipGaps cs = cs :=
  dropWhile_eq_self h

theorem exists_gap (htab : '\t' ∉ cs) : ∃ gap, Gap gap ∧ cs = gap ++ skipGaps cs := by
  refine ⟨cs.takeWhile isGap, gap_of_isGap (fun h => ?_) fun c hc => mem_takeWhile hc, ?_⟩
  · exact htab ((List.takeWhile_prefix isGap).subset h)
  · exact List.takeWhile_append_dropWhile.symm

theorem skipGaps_eq_nil_iff (htab : '\t' ∉ cs) : skipGaps cs = [] ↔ Gap cs := by
  rw [skipGaps, List.dropWhile_eq_nil_iff]
  exact ⟨gap_of_isGap htab, Gap.isGap⟩

theorem trim_skipGaps (cs : List Char) : trim (skipGaps cs) = trim cs := by
  have h : ∀ c ∈ cs.takeWhile isGap, isBlank c := fun c hc => isBlank_of_isGap (mem_takeWhile hc)
  conv_rhs => rw [← List.takeWhile_append_dropWhile (p := isGap) (l := cs)]
  exact (trim_append_left h).symm

theorem all_isBlank_skipGaps (cs : List Char) : (skipGaps cs).all isBlank = cs.all isBlank := by
  have h : (cs.takeWhile isGap).all isBlank :=
    List.all_eq_true.2 fun c hc => isBlank_of_isGap (mem_takeWhile hc)
  conv_rhs => rw [← List.takeWhile_append_dropWhile (p := isGap) (l := cs), List.all_append, h]
  rfl

/-! ### Names -/

theorem IsName.ne_nil {starts continues : Char → Bool} {name : List Char}
    (h : IsName starts continues name) : name ≠ [] := by
  obtain ⟨c, cs, rfl, -⟩ := h
  exact List.cons_ne_nil c cs

theorem name?_eq_some_iff {starts continues : Char → Bool} {name : List Char} :
    name? starts continues cs = some (name, rest) ↔
      cs = name ++ rest ∧ IsName starts continues name ∧ ∀ c ∈ rest.head?, ¬ continues c := by
  constructor
  · intro h
    unfold name? at h
    split at h
    · rename_i c cs
      split_ifs at h with hc
      cases h
      refine ⟨by simp, ⟨c, _, rfl, hc, fun d hd => mem_takeWhile hd⟩, ?_⟩
      exact head?_dropWhile continues cs
    · cases h
  · rintro ⟨rfl, ⟨c, ds, rfl, hc, hds⟩, hrest⟩
    rw [List.cons_append, name?, if_pos hc, takeWhile_append_stop hds hrest,
      dropWhile_append_stop hds hrest]

theorem isGap_not_starts {c : Char} (h : startsType c ∨ startsFeature c) : ¬ isGap c := by
  intro hg
  rcases isGap_iff.1 hg with rfl | rfl | rfl | rfl <;> revert h <;> decide

theorem continuesType_of_ascii {c : Char} (h : isAsciiLetter c ∨ isAsciiDigit c) :
    continuesType c := by
  rcases h with h | h <;> simp [continuesType, isWord, h]

/-- Features are of the same characters as media types. -/
theorem continuesType_of_continuesFeature {c : Char} (h : continuesFeature c) :
    continuesType c := by
  have hcodes : ∀ d : Char, d.toNat ∈ [0x130, 0x131, 0x17F, 0x212A] → continuesType d :=
    fun d => forall_char_mem (P := fun d => continuesType d) (by decide +kernel)
  simp only [continuesFeature, startsFeature, isCaselessLetter, Bool.or_eq_true, beq_iff_eq,
    or_assoc] at h
  rcases h with h | h | h | h | h | rfl | rfl | h
  · exact continuesType_of_ascii (.inl h)
  · exact hcodes c (by simp [h])
  · exact hcodes c (by simp [h])
  · exact hcodes c (by simp [h])
  · exact hcodes c (by simp [h])
  · decide
  · decide
  · exact continuesType_of_ascii (.inr h)

theorem continuesType_of_startsType {c : Char} (h : startsType c) : continuesType c := by
  refine continuesType_of_continuesFeature ?_
  simp only [startsType, Bool.or_eq_true] at h
  simp only [continuesFeature, startsFeature, Bool.or_eq_true]
  exact .inl (.inl h)

/-! ### Groups -/

theorem groupBody?_eq_some_iff {body : List Char} :
    groupBody? cs = some (body, rest) ↔ cs = body ++ ')' :: rest ∧ body ≠ [] ∧ ')' ∉ body := by
  constructor
  · intro h
    unfold groupBody? at h
    split at h
    · rename_i c b r hbody hrest
      cases h
      refine ⟨?_, List.cons_ne_nil c b, fun hmem => ?_⟩
      · rw [← hbody, ← hrest, List.takeWhile_append_dropWhile]
      · rw [← hbody] at hmem
        simpa using mem_takeWhile hmem
    · cases h
  · rintro ⟨rfl, hne, hmem⟩
    obtain ⟨c, b, rfl⟩ := List.exists_cons_of_ne_nil hne
    have hbody : ∀ d ∈ c :: b, (d != ')') = true := by
      intro d hd
      simpa using fun he : d = ')' => hmem (he ▸ hd)
    have hrest : ∀ d ∈ (')' :: rest).head?, ¬ (d != ')') = true := by simp
    rw [groupBody?, takeWhile_append_stop hbody hrest, dropWhile_append_stop hbody hrest]
    rfl

theorem group_iff {body : List Char} :
    Group cs body rest ↔ ∃ cs', cs = '(' :: cs' ∧ groupBody? cs' = some (body, rest) := by
  constructor
  · rintro ⟨rfl, hne, hmem⟩
    exact ⟨_, rfl, groupBody?_eq_some_iff.2 ⟨rfl, hne, hmem⟩⟩
  · rintro ⟨cs', rfl, h⟩
    obtain ⟨rfl, hne, hmem⟩ := groupBody?_eq_some_iff.1 h
    exact ⟨rfl, hne, hmem⟩

theorem not_group_cons {c : Char} (hc : c ≠ '(') {body : List Char} :
    ¬ Group (c :: cs) body rest := by
  rintro ⟨h, -⟩
  exact hc (List.cons.inj h).1

theorem Group.unique {body body' rest' : List Char} (h : Group cs body rest)
    (h' : Group cs body' rest') : body = body' ∧ rest = rest' := by
  obtain ⟨cs', rfl, hb⟩ := group_iff.1 h
  obtain ⟨cs'', he, hb'⟩ := group_iff.1 h'
  obtain rfl : cs' = cs'' := (List.cons.inj he).2
  rw [hb] at hb'
  cases hb'
  exact ⟨rfl, rfl⟩

theorem groups_groups (cs : List Char) : Groups cs (groups cs) := by
  fun_induction groups cs with
  | case1 => exact .nil
  | case2 cs body rest hbody ih => exact .group (group_iff.2 ⟨cs, rfl, hbody⟩) ih
  | case3 cs hnone ih =>
    -- an opening parenthesis that starts no group
    refine .char (fun body rest hg => ?_) ih
    obtain ⟨cs', he, hb⟩ := group_iff.1 hg
    obtain rfl : cs = cs' := (List.cons.inj he).2
    rw [hnone] at hb
    cases hb
  | case4 c cs hc ih => exact .char (fun _ _ => not_group_cons hc) ih

theorem Groups.unique {bodies bodies' : List (List Char)} (h : Groups cs bodies)
    (h' : Groups cs bodies') : bodies = bodies' := by
  induction h generalizing bodies' with
  | nil =>
    cases h' with
    | nil => rfl
    | group hg _ => obtain ⟨cs', he, -⟩ := group_iff.1 hg; cases he
  | group hg _ ih =>
    cases h' with
    | nil => obtain ⟨cs', he, -⟩ := group_iff.1 hg; cases he
    | group hg' h' =>
      obtain ⟨rfl, rfl⟩ := hg.unique hg'
      rw [ih h']
    | char hn _ => exact absurd hg (hn _ _)
  | char hn _ ih =>
    cases h' with
    | group hg _ => exact absurd hg (hn _ _)
    | char _ h' => exact ih h'

theorem groups_iff {bodies : List (List Char)} : Groups cs bodies ↔ groups cs = bodies :=
  ⟨fun h => (groups_groups cs).unique h, fun h => h ▸ groups_groups cs⟩

/-- Text without an opening parenthesis is passed over. -/
theorem Groups.append_left {pre : List Char} {bodies : List (List Char)} (hpre : '(' ∉ pre)
    (h : Groups cs bodies) : Groups (pre ++ cs) bodies := by
  induction pre with
  | nil => exact h
  | cons c pre ih =>
    rw [List.mem_cons, not_or] at hpre
    exact .char (fun _ _ => not_group_cons (Ne.symm hpre.1)) (ih hpre.2)

theorem Groups.of_append_left {pre : List Char} {bodies : List (List Char)} (hpre : '(' ∉ pre)
    (h : Groups (pre ++ cs) bodies) : Groups cs bodies := by
  have hcs := (groups_groups cs).append_left hpre
  rw [h.unique hcs]
  exact groups_groups cs

/-- There is no group without an opening parenthesis. -/
theorem groups_eq_nil (h : '(' ∉ cs) : groups cs = [] := by
  have hnil := Groups.nil.append_left h
  rw [List.append_nil] at hnil
  exact groups_iff.1 hnil

/-- A group that is read with more text behind it is read without that text, if it ends no group. -/
theorem Group.of_append_right {t body rest' : List Char} (ht : ')' ∉ t)
    (h : Group (cs ++ t) body rest') (hne : cs ≠ []) : ∃ rest, Group cs body rest := by
  obtain ⟨c, cs, rfl⟩ := List.exists_cons_of_ne_nil hne
  obtain ⟨hcs, hbody⟩ := h
  obtain ⟨rfl, htail⟩ := List.cons_eq_cons.1 hcs
  rcases List.append_eq_append_iff.1 htail with ⟨x, -, rfl⟩ | ⟨x, rfl, hx⟩
  · exact absurd (by simp) ht
  · cases x with
    | nil =>
      obtain rfl : ')' :: rest' = t := hx
      exact absurd List.mem_cons_self ht
    | cons d x =>
      obtain ⟨rfl, -⟩ := List.cons_eq_cons.1 hx
      exact ⟨x, rfl, hbody⟩

/-- Text without parentheses is passed over behind the groups, too. -/
theorem Groups.append_right {t : List Char} {bodies : List (List Char)} (hopen : '(' ∉ t)
    (hclose : ')' ∉ t) (h : Groups cs bodies) : Groups (cs ++ t) bodies := by
  induction h with
  | nil =>
    rw [List.nil_append, ← groups_eq_nil hopen]
    exact groups_groups t
  | group hg _ ih =>
    obtain ⟨rfl, hbody⟩ := hg
    exact .group ⟨by simp, hbody⟩ ih
  | char hn _ ih =>
    refine .char (fun body rest hg => ?_) ih
    obtain ⟨rest', hg'⟩ := hg.of_append_right hclose (List.cons_ne_nil _ _)
    exact hn body rest' hg'

/-- A group in front is the first of the groups. -/
theorem groups_group_append {body : List Char} (hne : body ≠ []) (hmem : ')' ∉ body) :
    groups ('(' :: (body ++ ')' :: cs)) = body :: groups cs :=
  groups_iff.1 (.group ⟨rfl, hne, hmem⟩ (groups_groups cs))

theorem groups_skipGaps (htab : '\t' ∉ cs) : groups (skipGaps cs) = groups cs := by
  obtain ⟨gap, hgap, hcs⟩ := exists_gap htab
  have hpar : '(' ∉ gap := fun h => by simpa using hgap _ h
  conv_rhs => rw [hcs]
  exact (groups_iff.1 ((groups_groups (skipGaps cs)).append_left hpar)).symm

/-- Every body of a group stands in the text, between parentheses. -/
theorem Groups.body_isInfix {bodies : List (List Char)} (h : Groups cs bodies) {body : List Char}
    (hb : body ∈ bodies) : body ≠ [] ∧ ')' ∉ body ∧ '(' :: (body ++ [')']) <:+: cs := by
  induction h with
  | nil => cases hb
  | @group cs body' rest bodies hg _ ih =>
    obtain ⟨rfl, hne, hmem⟩ := hg
    rcases List.mem_cons.1 hb with rfl | hb
    · exact ⟨hne, hmem, [], rest, by simp⟩
    · obtain ⟨hne', hmem', hin⟩ := ih hb
      refine ⟨hne', hmem', hin.trans ⟨'(' :: (body' ++ [')']), [], by simp⟩⟩
  | char _ _ ih =>
    obtain ⟨hne, hmem, hin⟩ := ih hb
    exact ⟨hne, hmem, hin.trans (List.suffix_cons _ _).isInfix⟩

end MediaQuery.Grammar
