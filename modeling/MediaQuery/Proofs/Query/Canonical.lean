import MediaQuery.Proofs.Query.Clause
import MediaQuery.Proofs.Query.Comment

/-!
# Canonical trees and their text

A tree is canonical when its names are plain and its values hold nothing that ends a group, a
clause or a value. The text of a canonical query is written out as a list of characters, and no
character of it starts a comment, ends a clause or needs trimming.
-/

namespace MediaQuery

open Text Query Grammar

/-! ### Plain characters -/

/-- Lower-case ASCII letters and the underscore. -/
def startsPlain (c : Char) : Bool := c == '_' || ('a' ≤ c && c ≤ 'z')

/-- Further characters of a plain name. -/
def continuesPlain (c : Char) : Bool := startsPlain c || c == '-' || isAsciiDigit c

/-- First characters of a plain feature name. -/
def startsPlainFeature (c : Char) : Bool := startsPlain c || c == '-'

/-- Characters that mark the parts of a query list and start or end comments. -/
def marks : List Char := ['(', ')', ',', '/', '\t', ' ', '*']

/-- What plain characters are to the recognisers of names and keywords. -/
structure PlainChar (c : Char) : Prop where
  type : continuesType c
  feature : continuesFeature c
  starts : startsPlain c → startsType c
  starts_feature : startsPlainFeature c → startsFeature c
  head : continuesHead c ∨ isAsciiDigit c
  blank : ¬ isBlank c
  lower : lowerChar c = [c] ∧ c ≠ capitalSigma ∧ c.toLower = c
  mark : c ∉ marks

theorem continuesPlain_of_startsPlainFeature {c : Char} (h : startsPlainFeature c) :
    continuesPlain c := by
  simp only [startsPlainFeature, continuesPlain, Bool.or_eq_true] at h ⊢
  exact .inl h

theorem continuesPlain_of_startsPlain {c : Char} (h : startsPlain c) : continuesPlain c :=
  continuesPlain_of_startsPlainFeature (by simp [startsPlainFeature, h])

theorem plainChar {c : Char} (h : continuesPlain c) : PlainChar c := by
  -- plain characters are ASCII, so the classes are compared one code point at a time
  have hlt : c.toNat ∈ List.range 128 := by
    simp only [continuesPlain, startsPlain, Bool.or_eq_true, beq_iff_eq, Bool.and_eq_true,
      decide_eq_true_eq] at h
    rw [List.mem_range]
    rcases h with ((rfl | ⟨-, h⟩) | rfl) | h
    · decide
    · have : c.toNat ≤ 122 := h
      omega
    · decide
    · exact toNat_lt_of_isAsciiDigit h
  have hall : ∀ n ∈ List.range 128, continuesPlain (Char.ofNat n) →
      (continuesType (Char.ofNat n) ∧ continuesFeature (Char.ofNat n) ∧
      (startsPlain (Char.ofNat n) → startsType (Char.ofNat n)) ∧
      (startsPlainFeature (Char.ofNat n) → startsFeature (Char.ofNat n))) ∧
      (continuesHead (Char.ofNat n) ∨ isAsciiDigit (Char.ofNat n)) ∧ ¬ isBlank (Char.ofNat n) ∧
      (lowerChar (Char.ofNat n) = [Char.ofNat n] ∧ Char.ofNat n ≠ capitalSigma ∧
      (Char.ofNat n).toLower = Char.ofNat n) ∧
      Char.ofNat n ∉ marks := by decide +kernel
  obtain ⟨⟨h1, h2, h3, h4⟩, h5, h6, h7, h8⟩ := hall c.toNat hlt (by rwa [Char.ofNat_toNat])
  rw [Char.ofNat_toNat] at h1 h2 h3 h4 h5 h6 h7 h8
  exact ⟨h1, h2, h3, h4, h5, h6, h7, h8⟩

/-- A plain text holds no mark. -/
theorem notMem_of_plain {cs : List Char} (h : ∀ c ∈ cs, continuesPlain c) {mark : Char}
    (hmark : mark ∈ marks) : mark ∉ cs :=
  fun hmem => (plainChar (h mark hmem)).mark hmark

/-! ### Canonical trees -/

/-- A value that is read back as it stands. -/
structure CanonicalValue (cs : List Char) : Prop where
  head : ∀ c ∈ cs.head?, ¬ isBlank c
  last : ∀ c ∈ cs.getLast?, ¬ isBlank c
  ne_nil : cs ≠ []
  no_paren : ')' ∉ cs
  no_comma : ',' ∉ cs
  no_tab : '\t' ∉ cs
  no_opener : ¬ ['/', '*'] <:+: cs

/-- A test whose feature is plain and is not taken for a name with more parts. -/
structure FeatureTest.Canonical (t : FeatureTest) : Prop where
  feature : IsName startsPlainFeature continuesPlain t.feature.toList
  no_inner : ¬ "-moz-".toList <+: t.feature.toList
  no_part : t.modifier = none →
    ∀ part ∈ ["-webkit-", "-o-", "min-", "max-"], ¬ part.toList <+: t.feature.toList
  value : ∀ v ∈ t.value, CanonicalValue v.toList

/-- A query whose type is plain and does not start with a keyword, and whose tests are canonical. -/
structure Query.Canonical (q : Query) : Prop where
  type : IsName startsPlain continuesPlain q.mediaType.toList
  no_keyword : q.inverse = false → ∀ word ∈ ["not", "only"], q.mediaType ≠ word ∧
    ∀ d rest, isAsciiDigit d → q.mediaType.toList ≠ word.toList ++ d :: rest
  tests : ∀ t ∈ q.tests, t.Canonical

/-! ### Texts as characters -/

/-- The name of a test as written. -/
def FeatureTest.nameText (t : FeatureTest) : List Char :=
  (rangePart t.modifier).toList ++ t.feature.toList

/-- A test as written, without its parentheses. -/
def FeatureTest.body (t : FeatureTest) : List Char :=
  t.nameText ++
    match t.value with
    | some v => ':' :: ' ' :: v.toList
    | none => []

theorem FeatureTest.toList_text (t : FeatureTest) : t.text.toList = '(' :: (t.body ++ [')']) := by
  obtain ⟨feature, modifier, value⟩ := t
  rcases modifier with _ | _ | _ <;> cases value <;>
    simp [text, body, nameText, rangePart, Modifier.name]

/-- Tests as written, each after `and`. -/
def testsText (ts : List FeatureTest) : List Char :=
  ts.flatMap fun t => " and ".toList ++ t.text.toList

@[simp] theorem testsText_nil : testsText [] = [] := rfl

@[simp] theorem testsText_cons (t : FeatureTest) (ts : List FeatureTest) :
    testsText (t :: ts) = " and ".toList ++ '(' :: (t.body ++ ')' :: testsText ts) := by
  rw [testsText, List.flatMap_cons, t.toList_text]
  simp [testsText]

theorem Query.toList_text (q : Query) :
    q.text.toList =
      (if q.inverse then "not ".toList else []) ++ (q.mediaType.toList ++ testsText q.tests) := by
  have hjoin : ∀ (head : String) (ts : List FeatureTest),
      (String.intercalate " and " (head :: ts.map FeatureTest.text)).toList =
        head.toList ++ testsText ts := by
    intro head ts
    induction ts generalizing head with
    | nil => simp
    | cons t ts ih =>
      rw [List.map_cons, String.intercalate_cons_cons, String.toList_append, String.toList_append,
        ih, t.toList_text, testsText_cons]
      simp
  rw [Query.text]
  cases q.inverse <;> simp [hjoin]

/-! ### Characters of a canonical text -/

theorem plain_of_isName {starts : Char → Bool} {name : List Char}
    (hstarts : ∀ c, starts c → continuesPlain c) (h : IsName starts continuesPlain name) :
    ∀ c ∈ name, continuesPlain c := by
  obtain ⟨c, cs, rfl, hc, hcs⟩ := h
  intro d hd
  rcases List.mem_cons.1 hd with rfl | hd
  · exact hstarts d hc
  · exact hcs d hd

theorem FeatureTest.Canonical.plain_nameText {t : FeatureTest} (h : t.Canonical) :
    ∀ c ∈ t.nameText, continuesPlain c := by
  have hf := plain_of_isName (fun _ => continuesPlain_of_startsPlainFeature) h.feature
  have hr : ∀ c ∈ (rangePart t.modifier).toList, continuesPlain c := by
    rcases t.modifier with _ | _ | _ <;> decide +kernel
  intro c hc
  rcases List.mem_append.1 hc with hc | hc
  · exact hr c hc
  · exact hf c hc

theorem Query.Canonical.plain_type {q : Query} (h : q.Canonical) :
    ∀ c ∈ q.mediaType.toList, continuesPlain c :=
  plain_of_isName (fun _ => continuesPlain_of_startsPlain) h.type

theorem FeatureTest.Canonical.notMem_body {t : FeatureTest} (h : t.Canonical) {d : Char}
    (hd : d = ')' ∨ d = ',' ∨ d = '\t') : d ∉ t.body := by
  intro hmem
  rcases List.mem_append.1 hmem with hname | hvalue
  · have hmark : d ∈ marks := by rcases hd with rfl | rfl | rfl <;> decide
    exact notMem_of_plain h.plain_nameText hmark hname
  · cases hv : t.value with
    | none => simp [hv] at hvalue
    | some v =>
      have hcan := h.value v hv
      have hdv : d ∈ v.toList := by
        rw [hv, List.mem_cons, List.mem_cons] at hvalue
        rcases hvalue with rfl | rfl | hdv
        · simp at hd
        · simp at hd
        · exact hdv
      rcases hd with rfl | rfl | rfl
      · exact hcan.no_paren hdv
      · exact hcan.no_comma hdv
      · exact hcan.no_tab hdv

theorem notMem_testsText {d : Char} (hd : d = ',' ∨ d = '\t') {ts : List FeatureTest}
    (h : ∀ t ∈ ts, t.Canonical) : d ∉ testsText ts := by
  induction ts with
  | nil => exact List.not_mem_nil
  | cons t ts ih =>
    obtain ⟨ht, hts⟩ := List.forall_mem_cons.1 h
    have hbody := ht.notMem_body (.inr hd)
    have hand : d ∉ " and ".toList ∧ d ≠ '(' ∧ d ≠ ')' := by
      rcases hd with rfl | rfl <;> decide
    rw [testsText_cons, List.mem_append, List.mem_cons, List.mem_append, List.mem_cons]
    rintro (hmem | hmem | hmem | hmem | hmem)
    · exact hand.1 hmem
    · exact hand.2.1 hmem
    · exact hbody hmem
    · exact hand.2.2 hmem
    · exact ih hts hmem

/-- A canonical query holds neither what ends a clause nor a tab. -/
theorem Query.Canonical.notMem_text {q : Query} (h : q.Canonical) {d : Char}
    (hd : d = ',' ∨ d = '\t') : d ∉ q.text.toList := by
  rw [q.toList_text, List.mem_append, List.mem_append]
  rintro (hmem | hmem | hmem)
  · have hnot : d ∉ "not ".toList := by rcases hd with rfl | rfl <;> decide
    split_ifs at hmem
    · exact hnot hmem
    · exact List.not_mem_nil hmem
  · have hmark : d ∈ marks := by rcases hd with rfl | rfl <;> decide
    exact notMem_of_plain h.plain_type hmark hmem
  · exact notMem_testsText hd h.tests hmem

/-! ### No openers of comments -/

theorem no_opener_of_notMem {cs : List Char} (h : '/' ∉ cs) : ¬ ['/', '*'] <:+: cs :=
  fun hi => h (hi.subset List.mem_cons_self)

theorem no_opener_append {a b : List Char} (ha : ¬ ['/', '*'] <:+: a) (hb : ¬ ['/', '*'] <:+: b)
    (hjoin : '/' ∈ a → '*' ∉ b.head?) : ¬ ['/', '*'] <:+: a ++ b := by
  rw [List.infix_append_iff]
  rintro (hi | hi | ⟨l, r, hlr, hl, hr⟩)
  · exact ha hi
  · exact hb hi
  · -- an opener across the border: `l` is its part in `a`
    match l, hlr with
    | [], hlr =>
      rw [List.nil_append] at hlr
      exact hb (hlr ▸ hr.isInfix)
    | [_], hlr =>
      obtain ⟨hc, rfl⟩ := List.cons_eq_cons.1 hlr
      obtain ⟨b', rfl⟩ := hr
      exact hjoin (hc ▸ hl.subset List.mem_cons_self) rfl
    | [_, _], hlr =>
      obtain ⟨rfl, rfl, -⟩ : '/' = _ ∧ '*' = _ ∧ r = [] := by simpa using hlr
      exact ha hl.isInfix

theorem no_opener_append_left {a b : List Char} (ha : '/' ∉ a) (hb : ¬ ['/', '*'] <:+: b) :
    ¬ ['/', '*'] <:+: a ++ b :=
  no_opener_append (no_opener_of_notMem ha) hb fun h => absurd h ha

theorem FeatureTest.Canonical.no_opener_body {t : FeatureTest} (h : t.Canonical) :
    ¬ ['/', '*'] <:+: t.body := by
  have hname : '/' ∉ t.nameText := notMem_of_plain h.plain_nameText (by decide)
  refine no_opener_append_left hname ?_
  cases hv : t.value with
  | none => exact no_opener_of_notMem List.not_mem_nil
  | some v => exact no_opener_append_left (a := [':', ' ']) (by simp) (h.value v hv).no_opener

theorem no_opener_testsText {ts : List FeatureTest} (h : ∀ t ∈ ts, t.Canonical) :
    ¬ ['/', '*'] <:+: testsText ts := by
  induction ts with
  | nil => exact no_opener_of_notMem List.not_mem_nil
  | cons t ts ih =>
    obtain ⟨ht, hts⟩ := List.forall_mem_cons.1 h
    have hend : ¬ ['/', '*'] <:+: [')'] ++ testsText ts := no_opener_append_left (by simp) (ih hts)
    have hgroup : ¬ ['/', '*'] <:+: ['('] ++ (t.body ++ ([')'] ++ testsText ts)) :=
      no_opener_append_left (by simp) (no_opener_append ht.no_opener_body hend (by simp))
    rw [testsText_cons]
    exact no_opener_append_left (by simp) hgroup

/-- No comment starts in a canonical query. -/
theorem Query.Canonical.no_opener_text {q : Query} (h : q.Canonical) :
    ¬ ['/', '*'] <:+: q.text.toList := by
  have htype : '/' ∉ q.mediaType.toList := notMem_of_plain h.plain_type (by decide)
  have hnot : '/' ∉ (if q.inverse then "not ".toList else []) := by
    split_ifs <;> simp
  rw [q.toList_text]
  exact no_opener_append_left hnot (no_opener_append_left htype (no_opener_testsText h.tests))

/-! ### Ends of a canonical text -/

theorem getLast?_testsText (ts : List FeatureTest) :
    (')' :: testsText ts).getLast? = some ')' := by
  induction ts with
  | nil => rfl
  | cons t ts ih =>
    have hsplit : ')' :: testsText (t :: ts) =
        (')' :: (" and ".toList ++ '(' :: t.body)) ++ ')' :: testsText ts := by simp
    rw [hsplit, List.getLast?_append_of_ne_nil _ (List.cons_ne_nil _ _), ih]

/-- A canonical query starts with a plain character. -/
theorem Query.Canonical.head?_text {q : Query} (h : q.Canonical) :
    ∀ c ∈ q.text.toList.head?, ¬ isBlank c := by
  intro c hc
  refine (plainChar ?_).blank
  obtain ⟨d, ds, hname, hd, -⟩ := h.type
  rw [q.toList_text, hname] at hc
  cases hinv : q.inverse with
  | true =>
    obtain rfl : 'n' = c := by simpa [hinv] using hc
    decide
  | false =>
    obtain rfl : d = c := by simpa [hinv] using hc
    exact continuesPlain_of_startsPlain hd

/-- A canonical query ends with a plain character or a parenthesis. -/
theorem Query.Canonical.getLast?_text {q : Query} (h : q.Canonical) :
    ∀ c ∈ q.text.toList.getLast?, ¬ isBlank c := by
  intro c hc
  have hne : q.mediaType.toList ≠ [] := h.type.ne_nil
  cases hts : q.tests with
  | nil =>
    rw [q.toList_text, hts, testsText_nil, List.append_nil,
      List.getLast?_append_of_ne_nil _ hne] at hc
    exact (plainChar (h.plain_type c (List.mem_of_mem_getLast? hc))).blank
  | cons t ts =>
    have hsplit : q.text.toList = ((if q.inverse then "not ".toList else []) ++
        (q.mediaType.toList ++ (" and ".toList ++ '(' :: t.body))) ++ ')' :: testsText ts := by
      rw [q.toList_text, hts]
      simp
    rw [hsplit, List.getLast?_append_of_ne_nil _ (List.cons_ne_nil _ _), getLast?_testsText] at hc
    obtain rfl : ')' = c := by simpa using hc
    decide

end MediaQuery
