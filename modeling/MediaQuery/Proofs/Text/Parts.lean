import MediaQuery.Query.Token
import Mathlib.Data.List.TakeWhile
import Mathlib.Data.List.Infix

/-!
# Parts of a text

What splitting, trimming and tab expansion leave of a list of characters. `dropWhile_append_stop`
and `takeWhile_append_stop` cut a text where a class of characters ends; `trim_eq_self` and
`expandTabs_eq_self` are the texts that keep their form.
-/

namespace MediaQuery

namespace Text

/-! ### Statements about the characters of a text -/

section Decide

variable {P : Char → Prop} [DecidablePred P]

-- characters are finitely many, and deciding such a statement must not go through all of them
instance (priority := high) decidableForallMem (cs : List Char) : Decidable (∀ c ∈ cs, P c) :=
  List.decidableBAll P cs

instance (priority := high) decidableExistsMem (cs : List Char) : Decidable (∃ c ∈ cs, P c) :=
  List.decidableBEx P cs

instance (priority := high) decidableForallMemOption (o : Option Char) : Decidable (∀ c ∈ o, P c) :=
  Option.decidableForallMem o

end Decide

/-- A statement about the characters of a list of code points, checked one by one. -/
theorem forall_char_mem {codes : List Nat} {P : Char → Prop} (h : ∀ n ∈ codes, P (Char.ofNat n))
    {c : Char} (hc : c.toNat ∈ codes) : P c := by
  have hp := h c.toNat hc
  rwa [Char.ofNat_toNat] at hp

/-- The code points of white space. -/
def blankCodes : List Nat :=
  List.range' 9 5 ++ List.range' 28 5 ++
    blankRanges.flatMap fun r => List.range' r.1 (r.2 + 1 - r.1)

theorem toNat_mem_blankCodes {c : Char} (h : isBlank c) : c.toNat ∈ blankCodes := by
  simp only [isBlank, inRanges, blankRanges, List.any_cons, List.any_nil, Bool.or_eq_true,
    Bool.and_eq_true, decide_eq_true_eq, Bool.or_false] at h
  simp only [blankCodes, blankRanges, List.flatMap_cons, List.flatMap_nil, List.mem_append,
    List.mem_range'_1, List.not_mem_nil]
  omega

theorem toNat_lt_of_isAsciiLetter {c : Char} (h : isAsciiLetter c) : c.toNat < 128 := by
  simp only [isAsciiLetter, Bool.or_eq_true, Bool.and_eq_true, decide_eq_true_eq] at h
  rcases h with ⟨-, h⟩ | ⟨-, h⟩
  · have : c.toNat ≤ 122 := h
    omega
  · have : c.toNat ≤ 90 := h
    omega

theorem toNat_lt_of_isAsciiDigit {c : Char} (h : isAsciiDigit c) : c.toNat < 128 := by
  simp only [isAsciiDigit, Bool.and_eq_true, decide_eq_true_eq] at h
  have : c.toNat ≤ 57 := h.2
  omega

variable {p : Char → Bool} {a b cs : List Char}

/-! ### Cutting where a class of characters ends -/

theorem dropWhile_eq_self (h : ∀ c ∈ cs.head?, ¬ p c) : cs.dropWhile p = cs := by
  cases cs with
  | nil => rfl
  | cons c cs => exact List.dropWhile_cons_of_neg (h c rfl)

theorem dropWhile_append_stop (ha : ∀ c ∈ a, p c) (hb : ∀ c ∈ b.head?, ¬ p c) :
    (a ++ b).dropWhile p = b := by
  rw [List.dropWhile_append_of_pos ha, dropWhile_eq_self hb]

theorem takeWhile_append_stop (ha : ∀ c ∈ a, p c) (hb : ∀ c ∈ b.head?, ¬ p c) :
    (a ++ b).takeWhile p = a := by
  have hb' : b.takeWhile p = [] := by
    cases b with
    | nil => rfl
    | cons c b => exact List.takeWhile_cons_of_neg (h := hb c rfl)
  rw [List.takeWhile_append_of_pos ha, hb', List.append_nil]

/-- What is left after a class of characters does not start with one of them. -/
theorem head?_dropWhile (p : Char → Bool) (cs : List Char) :
    ∀ c ∈ (cs.dropWhile p).head?, ¬ p c := by
  intro c hc
  have h := List.head?_dropWhile_not p cs
  rw [Option.mem_def.1 hc] at h
  simpa using h

theorem mem_takeWhile {c : Char} (h : c ∈ cs.takeWhile p) : p c :=
  List.mem_takeWhile_imp h

/-! ### Splitting -/

theorem splitOn_eq (separator : Char) (cs : List Char) :
    splitOn separator cs = cs.splitOn separator := by
  induction cs with
  | nil => rfl
  | cons c cs ih =>
    rw [splitOn, List.splitOn_cons_eq_if_modifyHead, ih]
    by_cases h : c = separator
    · simp [h]
    · cases hs : cs.splitOn separator with
      | nil => exact absurd hs (List.splitOn_ne_nil _ _)
      | cons part parts => simp [h]

/-- There is one part more than there are separators. -/
theorem length_splitOn (separator : Char) (cs : List Char) :
    (cs.splitOn separator).length = cs.count separator + 1 := by
  induction cs with
  | nil => rfl
  | cons c cs ih =>
    rw [List.splitOn_cons_eq_if_modifyHead, List.count_cons]
    split_ifs with h
    · rw [List.length_cons, ih]
    · rw [List.length_modifyHead, ih]

/-- No part holds a separator. -/
theorem separator_notMem {separator : Char} {part : List Char} (h : part ∈ cs.splitOn separator) :
    separator ∉ part := by
  induction cs generalizing part with
  | nil =>
    obtain rfl := List.mem_singleton.1 h
    exact List.not_mem_nil
  | cons c cs ih =>
    rw [List.splitOn_cons_eq_if_modifyHead] at h
    split_ifs at h with hc
    · rcases List.mem_cons.1 h with rfl | h
      · exact List.not_mem_nil
      · exact ih h
    · obtain ⟨a, as, has⟩ := List.exists_cons_of_ne_nil (List.splitOn_ne_nil separator cs)
      rw [has, List.modifyHead_cons] at h
      rw [has] at ih
      rcases List.mem_cons.1 h with rfl | h
      · have hca : separator ≠ c := fun he => hc (by simp [he])
        simp [hca, ih List.mem_cons_self]
      · exact ih (List.mem_cons_of_mem a h)

theorem afterStart?_eq_some_iff {start rest : List Char} :
    afterStart? start cs = some rest ↔ cs = start ++ rest := by
  induction start generalizing cs with
  | nil => simp [afterStart?, eq_comm]
  | cons p ps ih =>
    cases cs with
    | nil => simp [afterStart?]
    | cons c cs =>
      by_cases h : p = c
      · subst h; simp [afterStart?, ih]
      · simp [afterStart?, h, Ne.symm h]

/-! ### Trimming -/

theorem trimRight_eq_self (h : ∀ c ∈ cs.getLast?, ¬ isBlank c) : trimRight cs = cs := by
  rw [trimRight, dropWhile_eq_self, List.reverse_reverse]
  rwa [List.head?_reverse]

/-- The text and the white space that trimming takes off its end. -/
theorem exists_trimRight (cs : List Char) :
    ∃ b, (∀ c ∈ b, isBlank c) ∧ cs = trimRight cs ++ b := by
  refine ⟨(cs.reverse.takeWhile isBlank).reverse, fun c hc => ?_, ?_⟩
  · exact mem_takeWhile (List.mem_reverse.1 hc)
  · rw [trimRight, ← List.reverse_append, List.takeWhile_append_dropWhile, List.reverse_reverse]

theorem trim_isInfix (cs : List Char) : trim cs <:+: cs := by
  obtain ⟨b, -, hb⟩ := exists_trimRight (trimLeft cs)
  have hright : trim cs <+: trimLeft cs := ⟨b, hb.symm⟩
  exact hright.isInfix.trans (List.dropWhile_suffix isBlank).isInfix

theorem trim_append_left (ha : ∀ c ∈ a, isBlank c) : trim (a ++ b) = trim b := by
  rw [trim, trimLeft, List.dropWhile_append_of_pos ha, trim, trimLeft]

theorem trimRight_append_right (hb : ∀ c ∈ b, isBlank c) : trimRight (a ++ b) = trimRight a := by
  have hb' : ∀ c ∈ b.reverse, isBlank c := fun c hc => hb c (List.mem_reverse.1 hc)
  rw [trimRight, List.reverse_append, List.dropWhile_append_of_pos hb', trimRight]

theorem trim_append_right (hb : ∀ c ∈ b, isBlank c) : trim (a ++ b) = trim a := by
  rw [trim, trim, trimLeft, trimLeft, List.dropWhile_append]
  split_ifs with h
  · rw [List.isEmpty_iff.1 h, List.dropWhile_eq_nil_iff.2 hb]
  · exact trimRight_append_right hb

/-- What ends with a character that is not blank is kept in front of a trimmed text. -/
theorem trimRight_append_left {c : Char} (ha : a.getLast? = some c) (hc : ¬ isBlank c) :
    trimRight (a ++ b) = a ++ trimRight b := by
  have hkeep : a.reverse.dropWhile isBlank = a.reverse := by
    refine dropWhile_eq_self fun d hd => ?_
    rw [List.head?_reverse, ha] at hd
    obtain rfl := Option.some.inj hd
    exact hc
  rw [trimRight, trimRight, List.reverse_append, List.dropWhile_append, hkeep]
  split_ifs with h
  · rw [List.isEmpty_iff.1 h, List.reverse_reverse, List.reverse_nil, List.append_nil]
  · rw [List.reverse_append, List.reverse_reverse]

theorem trim_eq_self (h : ∀ c ∈ cs.head?, ¬ isBlank c) (h' : ∀ c ∈ cs.getLast?, ¬ isBlank c) :
    trim cs = cs := by
  rw [trim, trimLeft, dropWhile_eq_self h, trimRight_eq_self h']

theorem getLast?_trim (cs : List Char) : ∀ c ∈ (trim cs).getLast?, ¬ isBlank c := by
  intro c hc
  rw [trim, trimRight, List.getLast?_reverse] at hc
  exact head?_dropWhile isBlank _ c hc

theorem head?_trim (cs : List Char) : ∀ c ∈ (trim cs).head?, ¬ isBlank c := by
  intro c hc
  obtain ⟨b, -, hb⟩ := exists_trimRight (trimLeft cs)
  refine head?_dropWhile isBlank cs c ?_
  change c ∈ (trimLeft cs).head?
  have hc' : (trimRight (trimLeft cs)).head? = some c := hc
  rw [hb, List.head?_append, hc']
  rfl

end Text

namespace Query

variable {cs : List Char}

/-! ### Tabs -/

theorem tab_notMem_expandTabs (column : Nat) (cs : List Char) : '\t' ∉ expandTabs column cs := by
  induction cs generalizing column with
  | nil => simp [expandTabs]
  | cons c cs ih =>
    rw [expandTabs]
    split_ifs with h h'
    · simp [ih]
    · simp only [List.mem_cons, not_or]; exact ⟨fun e => h e.symm, ih 0⟩
    · simp only [List.mem_cons, not_or]; exact ⟨fun e => h e.symm, ih _⟩

theorem mem_expandTabs {column : Nat} {c : Char} (h : c ∈ expandTabs column cs) :
    c = ' ' ∨ c ∈ cs := by
  induction cs generalizing column with
  | nil => simp [expandTabs] at h
  | cons d cs ih =>
    rw [List.mem_cons]
    rw [expandTabs] at h
    split_ifs at h
    · rcases List.mem_append.1 h with h | h
      · exact .inl (List.eq_of_mem_replicate h)
      · exact (ih h).imp_right .inr
    · rcases List.mem_cons.1 h with rfl | h
      · exact .inr (.inl rfl)
      · exact (ih h).imp_right .inr
    · rcases List.mem_cons.1 h with rfl | h
      · exact .inr (.inl rfl)
      · exact (ih h).imp_right .inr

theorem expandTabs_eq_self {column : Nat} (h : '\t' ∉ cs) : expandTabs column cs = cs := by
  induction cs generalizing column with
  | nil => rfl
  | cons c cs ih =>
    rw [List.mem_cons, not_or] at h
    rw [expandTabs, if_neg (Ne.symm h.1), ih h.2, ih h.2, ite_self]

/-- Expanding tabs keeps a first character that is no tab. -/
theorem head?_expandTabs {column : Nat} (h : '\t' ∉ cs.head?) :
    (expandTabs column cs).head? = cs.head? := by
  cases cs with
  | nil => rfl
  | cons c cs =>
    have hc : c ≠ '\t' := fun e => h (by simp [e])
    rw [expandTabs, if_neg hc]
    split_ifs <;> rfl

theorem expandTabs_ne_nil {column : Nat} (h : cs ≠ []) : expandTabs column cs ≠ [] := by
  obtain ⟨c, cs, rfl⟩ := List.exists_cons_of_ne_nil h
  rw [expandTabs]
  split_ifs
  · have hwidth : 0 < 8 - column % 8 := by omega
    simp [hwidth.ne']
  · exact List.cons_ne_nil _ _
  · exact List.cons_ne_nil _ _

/-- Expanding tabs keeps a last character that is no tab. -/
theorem getLast?_expandTabs {column : Nat} (h : '\t' ∉ cs.getLast?) :
    (expandTabs column cs).getLast? = cs.getLast? := by
  induction cs generalizing column with
  | nil => rfl
  | cons c cs ih =>
    cases cs with
    | nil =>
      have hc : c ≠ '\t' := fun e => h (by simp [e])
      simp [expandTabs, hc]
    | cons d cs =>
      have hd : '\t' ∉ (d :: cs).getLast? := by rwa [List.getLast?_cons_cons] at h
      have hne : d :: cs ≠ [] := List.cons_ne_nil d cs
      rw [expandTabs, List.getLast?_cons_cons]
      split_ifs with h1 h2
      · rw [List.getLast?_append_of_ne_nil _ (expandTabs_ne_nil hne), ih hd]
      · rw [List.getLast?_cons_of_ne_nil (expandTabs_ne_nil hne), ih hd]
      · rw [List.getLast?_cons_of_ne_nil (expandTabs_ne_nil hne), ih hd]

/-- Tabs are expanded part by part, the later part from the column that the first one ends in. -/
theorem exists_expandTabs_append (column : Nat) (a b : List Char) :
    ∃ column', expandTabs column (a ++ b) = expandTabs column a ++ expandTabs column' b := by
  induction a generalizing column with
  | nil => exact ⟨column, rfl⟩
  | cons c a ih =>
    simp only [List.cons_append, expandTabs]
    split_ifs
    · obtain ⟨column', h⟩ := ih (column + (8 - column % 8))
      exact ⟨column', by rw [h, List.append_assoc]⟩
    · obtain ⟨column', h⟩ := ih 0
      exact ⟨column', by rw [h, List.cons_append]⟩
    · obtain ⟨column', h⟩ := ih (column + 1)
      exact ⟨column', by rw [h, List.cons_append]⟩

/-- Expanding tabs brings in spaces only. -/
theorem notMem_expandTabs {column : Nat} {c : Char} (h : c ∉ cs) (hc : c ≠ ' ') :
    c ∉ expandTabs column cs :=
  fun hm => (mem_expandTabs hm).elim hc h

/-- Expanding tabs takes out tabs only. -/
theorem mem_expandTabs_of_mem {column : Nat} {c : Char} (h : c ∈ cs) (hc : c ≠ '\t') :
    c ∈ expandTabs column cs := by
  obtain ⟨a, b, rfl⟩ := List.append_of_mem h
  obtain ⟨column', happend⟩ := exists_expandTabs_append column a (c :: b)
  rw [happend, expandTabs, if_neg hc]
  split_ifs <;> simp

end Query

end MediaQuery
