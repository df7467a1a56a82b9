import MediaQuery.Proofs.Query.Clause
import MediaQuery.Proofs.Text.LetterCase

/-!
# White space inside a clause

White space around the parts of a group (`Spaced`) and after the keyword of a head (`HeadText`) is
passed over. A test is read from its name, with any text behind it, and then from its value, so
`Spaced.readTest?_eq` follows from what each of the two readers does with a gap; a head is read as
it is read alone when a gap follows it, `HeadText.readHead?_gap_append`.
-/

namespace MediaQuery.Grammar

open Text Query

variable {cs gap : List Char}

/-! ### Text behind a token -/

theorem skipGaps_suffix (cs : List Char) : skipGaps cs <:+ cs := List.dropWhile_suffix isGap

theorem skipGaps_append_of_nil {t : List Char} (h : skipGaps cs = []) :
    skipGaps (cs ++ t) = skipGaps t :=
  List.dropWhile_append_of_pos (List.dropWhile_eq_nil_iff.1 h)

theorem skipGaps_append_of_ne_nil {t : List Char} (h : skipGaps cs ≠ []) :
    skipGaps (cs ++ t) = skipGaps cs ++ t := by
  have hne : ¬ (cs.dropWhile isGap).isEmpty := fun he => h (List.isEmpty_iff.1 he)
  rw [skipGaps, List.dropWhile_append, if_neg hne, skipGaps]

/-- Text that does not continue a name is left over behind it. -/
theorem name?_append {starts continues : Char → Bool} {t : List Char} (hne : cs ≠ [])
    (ht : ∀ c ∈ t.head?, ¬ continues c) :
    name? starts continues (cs ++ t) =
      (name? starts continues cs).map fun p => (p.1, p.2 ++ t) := by
  cases hname : name? starts continues cs with
  | none =>
    obtain ⟨c, cs, rfl⟩ := List.exists_cons_of_ne_nil hne
    have hc : ¬ starts c := fun hc => by simp [name?, hc] at hname
    rw [List.cons_append, name?, if_neg hc, Option.map_none]
  | some p =>
    obtain ⟨rfl, hisName, hrest⟩ := name?_eq_some_iff.1 hname
    refine name?_eq_some_iff.2 ⟨List.append_assoc _ _ _, hisName, fun c hc => ?_⟩
    rw [List.head?_append] at hc
    cases hp : p.2.head? with
    | none =>
      rw [hp] at hc
      exact ht c hc
    | some d =>
      rw [hp] at hc
      obtain rfl : d = c := by simpa using hc
      exact hrest d hp

/-! ### White space in a group -/

/-- The value that is read behind a colon. -/
def readValue? (cs : List Char) : Option String :=
  match skipGaps cs with
  | [] => none
  | value => some (String.ofList (trim value))

/-- The test that is read behind its name, taken apart. -/
def readEnd? (name : Option Modifier × List Char) (cs : List Char) : Option FeatureTest :=
  match skipGaps cs with
  | [] => some ⟨String.ofList name.2, name.1, none⟩
  | ':' :: value => (readValue? value).map fun v => ⟨String.ofList name.2, name.1, some v⟩
  | _ => none

theorem readTest?_eq_bind (cs : List Char) :
    readTest? cs = (name? startsFeature continuesFeature (skipGaps cs)).bind fun p =>
      readEnd? (readName (lower p.1)) p.2 := by
  rw [readTest?]
  cases name? startsFeature continuesFeature (skipGaps cs) with
  | none => rfl
  | some p =>
    obtain ⟨token, rest⟩ := p
    rw [Option.bind_some, readEnd?]
    dsimp only
    cases hrest : skipGaps rest with
    | nil => rfl
    | cons c value =>
      by_cases hc : c = ':'
      · subst hc
        cases hvalue : skipGaps value with
        | nil => simp [readValue?, hvalue]
        | cons d v => simp [readValue?, hvalue]
      · simp [hc]

/-- What stands behind a name is read after the name, if no name starts there. -/
theorem readTest?_append {t : List Char} (hstop : ∀ c ∈ t.head?, ¬ continuesFeature c)
    (hnone : name? startsFeature continuesFeature (skipGaps t) = none) :
    readTest? (cs ++ t) = (name? startsFeature continuesFeature (skipGaps cs)).bind fun p =>
      readEnd? (readName (lower p.1)) (p.2 ++ t) := by
  rw [readTest?_eq_bind]
  by_cases hcs : skipGaps cs = []
  · rw [skipGaps_append_of_nil hcs, hnone, hcs]
    rfl
  · rw [skipGaps_append_of_ne_nil hcs, name?_append hcs hstop, Option.bind_map]
    rfl

theorem readTest?_gap_append (hgap : Gap gap) : readTest? (gap ++ cs) = readTest? cs := by
  rw [readTest?, readTest?, skipGaps_append hgap]

theorem readValue?_gap_append (hgap : Gap gap) : readValue? (gap ++ cs) = readValue? cs := by
  rw [readValue?, readValue?, skipGaps_append hgap]

theorem Gap.skipGaps_eq_nil (hgap : Gap gap) : skipGaps gap = [] :=
  List.dropWhile_eq_nil_iff.2 hgap.isGap

theorem readValue?_append_gap (hgap : Gap gap) : readValue? (cs ++ gap) = readValue? cs := by
  rw [readValue?, readValue?]
  cases hcs : skipGaps cs with
  | nil => rw [skipGaps_append_of_nil hcs, hgap.skipGaps_eq_nil]
  | cons c r =>
    rw [skipGaps_append_of_ne_nil (by simp [hcs]), hcs]
    exact congrArg (fun v => some (String.ofList v)) (trim_append_right hgap.isBlank)

section Name

variable {name : List Char} (hcolon : ':' ∉ name)

include hcolon

theorem ne_colon_of_skipGaps {c : Char} (h : skipGaps name = c :: cs) : c ≠ ':' := by
  rintro rfl
  have hm : ':' ∈ skipGaps name := by
    rw [h]
    exact List.mem_cons_self
  exact hcolon ((skipGaps_suffix name).subset hm)

theorem readEnd?_append_gap (hgap : Gap gap) (r : Option Modifier × List Char) :
    readEnd? r (name ++ gap) = readEnd? r name := by
  rw [readEnd?, readEnd?]
  cases hname : skipGaps name with
  | nil => rw [skipGaps_append_of_nil hname, hgap.skipGaps_eq_nil]
  | cons c cs =>
    have hc := ne_colon_of_skipGaps hcolon hname
    rw [skipGaps_append_of_ne_nil (by simp [hname]), hname]
    simp [hc]

theorem readEnd?_colon (value : List Char) (r : Option Modifier × List Char) :
    readEnd? r (name ++ ':' :: value) = (readEnd? r name).bind fun t =>
      (readValue? value).map fun v => { t with value := some v } := by
  rw [readEnd?, readEnd?]
  cases hname : skipGaps name with
  | nil =>
    have hskip : skipGaps (':' :: value) = ':' :: value := rfl
    rw [skipGaps_append_of_nil hname, hskip]
    rfl
  | cons c cs =>
    have hc := ne_colon_of_skipGaps hcolon hname
    rw [skipGaps_append_of_ne_nil (by simp [hname]), hname]
    simp [hc]

/-- What is left behind a name is part of the text. -/
theorem colon_notMem_of_name? {p : List Char × List Char}
    (h : name? startsFeature continuesFeature (skipGaps name) = some p) : ':' ∉ p.2 := by
  obtain ⟨hp, -, -⟩ := name?_eq_some_iff.1 (h : _ = some (p.1, p.2))
  have hsuffix : p.2 <:+ skipGaps name := hp ▸ List.suffix_append p.1 p.2
  exact fun hm => hcolon ((skipGaps_suffix name).subset (hsuffix.subset hm))

/-- A name with a gap behind it. -/
theorem readTest?_append_gap (hgap : Gap gap) : readTest? (name ++ gap) = readTest? name := by
  have hstop : ∀ c ∈ gap.head?, ¬ continuesFeature c := fun c hc =>
    not_continuesFeature_of_isGap (hgap.isGap c (List.mem_of_mem_head? hc))
  have hnone : name? startsFeature continuesFeature (skipGaps gap) = none := by
    rw [hgap.skipGaps_eq_nil]
    rfl
  rw [readTest?_append hstop hnone, readTest?_eq_bind]
  refine Option.bind_congr fun p hp => ?_
  exact readEnd?_append_gap (colon_notMem_of_name? hcolon hp) hgap _

/-- A name with a colon and a value behind it. -/
theorem readTest?_colon (value : List Char) :
    readTest? (name ++ ':' :: value) = (readTest? name).bind fun t =>
      (readValue? value).map fun v => { t with value := some v } := by
  have hstop : ∀ c ∈ (':' :: value).head?, ¬ continuesFeature c := by
    simp [show continuesFeature ':' = false by decide]
  have hnone : name? startsFeature continuesFeature (skipGaps (':' :: value)) = none := rfl
  rw [readTest?_append hstop hnone, readTest?_eq_bind, Option.bind_assoc]
  refine Option.bind_congr fun p hp => ?_
  exact readEnd?_colon (colon_notMem_of_name? hcolon hp) value _

end Name

/-- The body of a group with more white space around the feature name, the colon and the value. -/
inductive Spaced : List Char → List Char → Prop
  | plain {before name after : List Char} : ':' ∉ name → Gap before → Gap after →
      Spaced name (before ++ (name ++ after))
  | valued {before name after before' value after' : List Char} : ':' ∉ name → Gap before →
      Gap after → Gap before' → Gap after' →
      Spaced (name ++ ':' :: value)
        (before ++ (name ++ (after ++ ':' :: (before' ++ (value ++ after')))))

/-- **White space in a group** does not change its test. -/
theorem Spaced.readTest?_eq {body body' : List Char} (h : Spaced body body') :
    readTest? body' = readTest? body := by
  rcases h with ⟨hcolon, hbefore, hafter⟩ | ⟨hcolon, hbefore, hafter, hbefore', hafter'⟩
  · rw [readTest?_gap_append hbefore, readTest?_append_gap hcolon hafter]
  · rename_i before name after before' value after'
    have hcolon' : ':' ∉ name ++ after := by
      rw [List.mem_append, not_or]
      exact ⟨hcolon, fun hm => by simpa using hafter _ hm⟩
    rw [readTest?_gap_append hbefore, ← List.append_assoc, readTest?_colon hcolon',
      readTest?_append_gap hcolon hafter, readValue?_gap_append hbefore',
      readValue?_append_gap hafter', readTest?_colon hcolon]

/-! ### White space after a keyword -/

/--
A head as written: a media type that is no keyword by itself, or a keyword, a gap and a media type.
-/
inductive HeadText (name : List Char) : Option String → List Char → Prop
  | bare : (∀ word ∈ ["not", "only"], name.map Char.toLower ≠ word.toList) →
      HeadText name none name
  | led {word : String} {gap head : List Char} : word ∈ ["not", "only"] → Gap gap →
      Keyword word HeadChar head (gap ++ name) → HeadText name (some word) head

/-- Whether the head is inverted and the text that is read as its media type. -/
def headKey (name : List Char) : Option String → Bool × List Char
  | none => readKeyword name
  | some word => (word == "not", name)

/-- The head that is read, if its media type can be read. -/
def typedHead? (name : List Char) (keyword : Option String) : Option Head :=
  match headKey name keyword with
  | (inverse, c :: cs) => if startsType c then some (.typed inverse (c :: cs)) else none
  | (_, []) => none

section Keyword

variable {word : List Char} {t : List Char} (ht : ∀ c ∈ t.head?, isGap c)

include ht

theorem afterWord?_append (hword : ∀ p ∈ word, 97 ≤ p.toNat ∧ p.toNat ≤ 122) (cs : List Char) :
    afterWord? word (cs ++ t) = (afterWord? word cs).map (· ++ t) := by
  induction word generalizing cs with
  | nil => rfl
  | cons p ps ih =>
    obtain ⟨hp, hps⟩ := List.forall_mem_cons.1 hword
    cases cs with
    | nil =>
      cases t with
      | nil => rfl
      | cons c t =>
        have hc : ¬ (c = p ∨ c = Char.ofNat (p.toNat - 32)) := by
          rw [← toLower_eq_iff hp]
          rintro rfl
          rcases isGap_iff.1 (ht c rfl) with rfl | rfl | rfl | rfl <;> revert hp <;> decide
        rw [List.nil_append, afterWord?, if_neg hc]
        rfl
    | cons c cs =>
      rw [List.cons_append, afterWord?, afterWord?]
      split_ifs
      · exact ih hps cs
      · rfl

theorem keyword?_append {word : String} {continues : Char → Bool}
    (hword : ∀ p ∈ word.toList, 97 ≤ p.toNat ∧ p.toNat ≤ 122)
    (hgap : ∀ c, isGap c → ¬ continues c) (cs : List Char) :
    keyword? word continues (cs ++ t) = (keyword? word continues cs).map (· ++ t) := by
  rw [keyword?, keyword?, afterWord?_append ht hword]
  cases afterWord? word.toList cs with
  | none => rfl
  | some rest =>
    cases rest with
    | nil =>
      cases t with
      | nil => rfl
      | cons c t => simp [hgap c (ht c rfl)]
    | cons c rest =>
      simp only [Option.map_some, List.cons_append]
      split_ifs <;> rfl

theorem readKeyword_append (cs : List Char) :
    readKeyword (cs ++ t) = ((readKeyword cs).1, (readKeyword cs).2 ++ t) := by
  have hgap : ∀ c, isGap c → ¬ continuesHead c := by
    intro c hc
    rcases isGap_iff.1 hc with rfl | rfl | rfl | rfl <;> decide
  rw [readKeyword, readKeyword, keyword?_append ht (by decide) hgap,
    keyword?_append ht (by decide) hgap]
  cases keyword? "not" continuesHead cs with
  | some rest => rfl
  | none => cases keyword? "only" continuesHead cs <;> rfl

end Keyword

section Head

variable {name head : List Char} {keyword : Option String}

theorem continuesType_toLower (c : Char) : continuesType c.toLower = continuesType c :=
  apply_toLower (by decide) c

theorem continuesType_of_isTypeName (hname : IsName startsType continuesType name) :
    ∀ c ∈ name, continuesType c := by
  obtain ⟨c, cs, rfl, hc, hcs⟩ := hname
  exact List.forall_mem_cons.2 ⟨continuesType_of_startsType hc, hcs⟩

theorem not_isBlank_of_continuesType {c : Char} (h : continuesType c) : ¬ isBlank c := by
  have hall : ∀ n ∈ blankCodes, ¬ continuesType (Char.ofNat n) := by decide +kernel
  exact fun hb => forall_char_mem (P := fun c => ¬ continuesType c) hall (toNat_mem_blankCodes hb) h

theorem not_isGap_of_continuesType {c : Char} (h : continuesType c) : ¬ isGap c :=
  fun hgap => not_isBlank_of_continuesType h (isBlank_of_isGap hgap)

/-- A head is made of letters of its keyword, characters of its media type and a gap. -/
theorem HeadText.chars (hname : IsName startsType continuesType name)
    (h : HeadText name keyword head) :
    ∀ c ∈ head, continuesType c ∨ c = ' ' ∨ c = '\n' ∨ c = '\r' := by
  have hcs := continuesType_of_isTypeName hname
  rcases h with hbare | ⟨hword, hgap, w, rfl, hw, -⟩
  · exact fun c hc => .inl (hcs c hc)
  · rename_i word gap
    have hletters : ∀ word ∈ ["not", "only"], ∀ d ∈ word.toList, continuesType d := by decide
    intro c hc
    rcases List.mem_append.1 hc with hc | hc
    · have hmem : c.toLower ∈ word.toList := hw ▸ List.mem_map_of_mem hc
      exact .inl (continuesType_toLower c ▸ hletters word hword _ hmem)
    · rcases List.mem_append.1 hc with hc | hc
      · exact .inr (hgap c hc)
      · exact .inl (hcs c hc)

theorem HeadText.notMem (hname : IsName startsType continuesType name)
    (h : HeadText name keyword head) {c : Char} (hc : ¬ continuesType c)
    (hc' : c ∉ [' ', '\n', '\r']) : c ∉ head := by
  intro hm
  rcases h.chars hname c hm with hcont | hgap
  · exact hc hcont
  · exact hc' (by simpa using hgap)

/-- A head starts with a letter of its keyword or its media type. -/
theorem HeadText.exists_cons (hname : IsName startsType continuesType name)
    (h : HeadText name keyword head) : ∃ c cs, head = c :: cs ∧ continuesType c := by
  rcases h with hbare | ⟨hword, -, hkey⟩
  · obtain ⟨c, cs, rfl, -⟩ := id hname
    exact ⟨c, cs, rfl, continuesType_of_isTypeName hname c List.mem_cons_self⟩
  · rename_i word gap
    have hletters : ∀ word ∈ ["not", "only"], word.toList ≠ [] ∧
        ∀ d ∈ word.toList.head?, continuesType d := by decide
    obtain ⟨hne, hstart⟩ := hletters word hword
    have hfirst := hkey.head?_eq hne
    cases head with
    | nil => exact absurd (List.head?_eq_none_iff.1 hfirst.symm) hne
    | cons c cs =>
      refine ⟨c, cs, rfl, ?_⟩
      rw [← continuesType_toLower]
      exact hstart _ hfirst.symm

theorem HeadText.ne_nil (hname : IsName startsType continuesType name)
    (h : HeadText name keyword head) : head ≠ [] := by
  obtain ⟨c, cs, rfl, -⟩ := h.exists_cons hname
  exact List.cons_ne_nil c cs

theorem HeadText.head?_not_blank (hname : IsName startsType continuesType name)
    (h : HeadText name keyword head) : ∀ c ∈ head.head?, ¬ isBlank c := by
  obtain ⟨d, cs, rfl, hd⟩ := h.exists_cons hname
  rintro c ⟨⟩
  exact not_isBlank_of_continuesType hd

/-- What is read as the media type is not empty. -/
theorem HeadText.headKey_name (hname : IsName startsType continuesType name)
    (h : HeadText name keyword head) :
    (headKey name keyword).2 ≠ [] ∧ ∀ c ∈ (headKey name keyword).2, continuesType c := by
  have hcs := continuesType_of_isTypeName hname
  rcases h with hbare | -
  · have hrest : ∀ word ∈ ["not", "only"], ∀ {rest}, Keyword word HeadChar name rest →
        rest ≠ [] ∧ ∀ c ∈ rest, continuesType c := by
      rintro word hword rest ⟨w, rfl, hw, -⟩
      refine ⟨?_, fun c hc => hcs c (List.mem_append_right w hc)⟩
      rintro rfl
      exact hbare word hword (by rw [List.append_nil, hw])
    rw [headKey, readKeyword]
    cases hnot : keyword? "not" continuesHead name with
    | some rest => exact hrest "not" (by simp) (keyword?_not_iff.1 hnot)
    | none =>
      cases honly : keyword? "only" continuesHead name with
      | some rest => exact hrest "only" (by simp) (keyword?_only_iff.1 honly)
      | none => exact ⟨hname.ne_nil, hcs⟩
  · exact ⟨hname.ne_nil, hcs⟩

theorem HeadText.readKeyword (h : HeadText name keyword head) :
    ∃ gap, Gap gap ∧
      readKeyword head = ((headKey name keyword).1, gap ++ (headKey name keyword).2) := by
  rcases h with hbare | ⟨hword, hgap, hkey⟩
  · exact ⟨[], Gap.nil, rfl⟩
  · rename_i word gap
    refine ⟨gap, hgap, ?_⟩
    simp only [List.mem_cons, List.not_mem_nil, or_false] at hword
    rcases hword with rfl | rfl
    · rw [Query.readKeyword, keyword?_not_iff.2 hkey]
      rfl
    · have hnot : keyword? "not" continuesHead head = none :=
        Option.eq_none_iff_forall_ne_some.2 fun r hr =>
          not_keyword_only_of_not (keyword?_not_iff.1 hr) hkey
      rw [Query.readKeyword, hnot, keyword?_only_iff.2 hkey]
      rfl

/-- **A head that a gap follows** is read whole, or not at all, wherever the gaps in it are. -/
theorem HeadText.readHead?_append {t : List Char} (hname : IsName startsType continuesType name)
    (h : HeadText name keyword head) (ht : ∀ c ∈ t.head?, isGap c) :
    readHead? (head ++ t) = (typedHead? name keyword).map fun read => (read, t) := by
  obtain ⟨c, cs, hhead, hc⟩ := h.exists_cons hname
  have hskip : skipGaps (head ++ t) = head ++ t := by
    refine skipGaps_eq_self fun d hd => ?_
    obtain rfl : c = d := by simpa [hhead] using hd
    exact not_isGap_of_continuesType hc
  obtain ⟨gap, hgap, hkey⟩ := h.readKeyword
  obtain ⟨hne, hall⟩ := h.headKey_name hname
  have hgrouped : readGrouped? (head ++ t) = none := by
    have hpar : c ≠ '(' := by
      rintro rfl
      exact absurd hc (by decide)
    rw [readGrouped?, hskip, hhead]
    simp [hpar]
  rw [readHead?, hgrouped, Option.or_none, readTyped?, hskip, readKeyword_append ht, hkey,
    typedHead?]
  rcases hread : headKey name keyword with ⟨inverse, _ | ⟨d, ds⟩⟩
  · exact absurd (by rw [hread]) hne
  · rw [hread] at hall
    obtain ⟨hd, hds⟩ := List.forall_mem_cons.1 hall
    have hstop : ∀ d ∈ t.head?, ¬ continuesType d := fun d hd hcont =>
      not_isGap_of_continuesType hcont (ht d hd)
    have hskip' : skipGaps (gap ++ (d :: ds) ++ t) = d :: (ds ++ t) := by
      rw [List.append_assoc, skipGaps_append hgap]
      exact skipGaps_eq_self (by simpa using not_isGap_of_continuesType hd)
    simp only [hskip', name?, takeWhile_append_stop hds hstop, dropWhile_append_stop hds hstop]
    split_ifs <;> rfl

theorem HeadText.readHead?_gap_append {ws : List Char}
    (hname : IsName startsType continuesType name) (h : HeadText name keyword head) (hws : Gap ws)
    (hne : ws ≠ []) (t : List Char) :
    readHead? (head ++ (ws ++ t)) = (typedHead? name keyword).map fun read => (read, ws ++ t) := by
  obtain ⟨c, ws, rfl⟩ := List.exists_cons_of_ne_nil hne
  refine h.readHead?_append hname ?_
  rintro d ⟨⟩
  exact hws.isGap c List.mem_cons_self

end Head

end MediaQuery.Grammar
