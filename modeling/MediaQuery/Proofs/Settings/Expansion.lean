import MediaQuery.Proofs.Environment.Lookup
import MediaQuery.Proofs.Text.Parts
import MediaQuery.Settings.Expansion
import Mathlib.Data.List.Forall2

/-!
# References in a configuration

A text is cut into references and characters that stay, from left to right and without regard to the
values of any variables (`Scanned`). Expanding it puts the value of its variable in the place of
each reference, so what a variable brings in is not read again, neither alone nor with what follows
it. In a tree nothing but the texts changes: `expand_in_one_pass`.
-/

namespace MediaQuery.Variables

open Text

/-! ### References -/

/-- A text that starts with a reference: its name goes up to the first closing brace and is not
empty, whatever else it holds. -/
def StartsReference (cs name rest : List Char) : Prop :=
  name ≠ [] ∧ '\x7d' ∉ name ∧ cs = '$' :: '\x7b' :: (name ++ '\x7d' :: rest)

/-- A part of a text: a character that stays, or a reference by its name. -/
inductive Piece where
  | char (c : Char)
  | reference (name : List Char)
  deriving DecidableEq, Repr

namespace Piece

/-- A piece as it is written. -/
def source : Piece → List Char
  | .char c => [c]
  | .reference name => '$' :: '\x7b' :: (name ++ ['\x7d'])

/-- What a piece comes to. -/
def expanded (vars : Variables) : Piece → List Char
  | .char c => [c]
  | .reference name => (vars.value (String.ofList name)).toList

end Piece

/-- The pieces of a text: a reference wherever one starts, and a character elsewhere. -/
inductive Scanned : List Char → List Piece → Prop
  | nil : Scanned [] []
  | reference {cs name rest : List Char} {pieces : List Piece} : StartsReference cs name rest →
      Scanned rest pieces → Scanned cs (.reference name :: pieces)
  | char {c : Char} {cs : List Char} {pieces : List Piece} :
      (∀ name rest, ¬ StartsReference (c :: cs) name rest) → Scanned cs pieces →
      Scanned (c :: cs) (.char c :: pieces)

variable {vars : Variables} {cs name rest : List Char} {pieces : List Piece}

/-! ### Reading a reference -/

theorem referenceName?_eq_some_iff :
    referenceName? cs = some (name, rest) ↔
      name ≠ [] ∧ '\x7d' ∉ name ∧ cs = name ++ '\x7d' :: rest := by
  constructor
  · intro h
    unfold referenceName? at h
    split at h
    · rename_i c name' rest' htake hdrop
      cases h
      refine ⟨List.cons_ne_nil c name', fun hmem => ?_, ?_⟩
      · rw [← htake] at hmem
        simpa using mem_takeWhile hmem
      · rw [← htake, ← hdrop, List.takeWhile_append_dropWhile]
    · cases h
  · rintro ⟨hne, hbrace, rfl⟩
    have hname : ∀ c ∈ name, (c != '\x7d') = true := by
      intro c hc
      rw [bne_iff_ne]
      rintro rfl
      exact hbrace hc
    have hstop : ∀ c ∈ ('\x7d' :: rest).head?, ¬ (c != '\x7d') = true := by
      rintro c ⟨⟩
      decide
    obtain ⟨c, name, rfl⟩ := List.exists_cons_of_ne_nil hne
    rw [referenceName?, takeWhile_append_stop hname hstop, dropWhile_append_stop hname hstop]
    rfl

theorem startsReference_iff :
    StartsReference cs name rest ↔
      ∃ cs', cs = '$' :: '\x7b' :: cs' ∧ referenceName? cs' = some (name, rest) := by
  simp only [StartsReference, referenceName?_eq_some_iff]
  constructor
  · rintro ⟨hne, hbrace, rfl⟩
    exact ⟨_, rfl, hne, hbrace, rfl⟩
  · rintro ⟨cs', rfl, hne, hbrace, rfl⟩
    exact ⟨hne, hbrace, rfl⟩

theorem not_startsReference (h : referenceName? cs = none) (name rest : List Char) :
    ¬ StartsReference ('$' :: '\x7b' :: cs) name rest := by
  rw [startsReference_iff]
  rintro ⟨cs', hcs, hname⟩
  cases hcs
  rw [h] at hname
  cases hname

theorem StartsReference.unique {name' rest' : List Char} (h : StartsReference cs name rest)
    (h' : StartsReference cs name' rest') : name = name' ∧ rest = rest' := by
  obtain ⟨cs', rfl, hname⟩ := startsReference_iff.1 h
  obtain ⟨cs'', hcs, hname'⟩ := startsReference_iff.1 h'
  cases hcs
  rw [hname] at hname'
  cases hname'
  exact ⟨rfl, rfl⟩

theorem not_startsReference_nil : ¬ StartsReference [] name rest := fun h => by
  cases h.2.2

/-! ### Pieces -/

theorem exists_scanned (cs : List Char) : ∃ pieces, Scanned cs pieces := by
  induction cs using expandText.induct with
  | case1 => exact ⟨[], .nil⟩
  | case2 cs name rest hname ih =>
    obtain ⟨pieces, hpieces⟩ := ih
    exact ⟨_, .reference (startsReference_iff.2 ⟨cs, rfl, hname⟩) hpieces⟩
  | case3 cs hnone ih =>
    -- an opening brace behind a dollar that no name follows
    obtain ⟨pieces, hpieces⟩ := ih
    exact ⟨_, .char (not_startsReference hnone) hpieces⟩
  | case4 c cs hc ih =>
    obtain ⟨pieces, hpieces⟩ := ih
    refine ⟨_, .char (fun name rest href => ?_) hpieces⟩
    obtain ⟨cs', hcs, -⟩ := startsReference_iff.1 href
    obtain ⟨rfl, rfl⟩ := List.cons.inj hcs
    exact hc cs' rfl rfl

/-- **A text has one cut into pieces.** -/
theorem Scanned.unique {pieces' : List Piece} (h : Scanned cs pieces) (h' : Scanned cs pieces') :
    pieces = pieces' := by
  induction h generalizing pieces' with
  | nil =>
    cases h' with
    | nil => rfl
    | reference href _ => exact absurd href not_startsReference_nil
  | reference href _ ih =>
    cases h' with
    | nil => exact absurd href not_startsReference_nil
    | reference href' h' =>
      obtain ⟨rfl, rfl⟩ := href.unique href'
      rw [ih h']
    | char hnot _ => exact absurd href (hnot _ _)
  | char hnot _ ih =>
    cases h' with
    | reference href _ => exact absurd href (hnot _ _)
    | char _ h' => rw [ih h']

/-- The pieces make up the text. -/
theorem Scanned.flatMap_source (h : Scanned cs pieces) : pieces.flatMap Piece.source = cs := by
  induction h with
  | nil => rfl
  | reference href _ ih =>
    rw [List.flatMap_cons, ih, href.2.2]
    simp [Piece.source]
  | char _ _ ih =>
    rw [List.flatMap_cons, ih]
    rfl

theorem expandText_reference (h : StartsReference cs name rest) :
    vars.expandText cs = (vars.value (String.ofList name)).toList ++ vars.expandText rest := by
  obtain ⟨cs', rfl, hname⟩ := startsReference_iff.1 h
  rw [expandText]
  split
  · rename_i name' rest' hname'
    rw [hname] at hname'
    cases hname'
    rfl
  · rename_i hnone
    rw [hname] at hnone
    cases hnone

theorem expandText_char {c : Char} (h : ∀ name rest, ¬ StartsReference (c :: cs) name rest) :
    vars.expandText (c :: cs) = c :: vars.expandText cs := by
  by_cases hopen : c = '$' ∧ ∃ cs', cs = '\x7b' :: cs'
  · obtain ⟨rfl, cs', rfl⟩ := hopen
    rw [expandText]
    split
    · rename_i name rest hname
      exact absurd (startsReference_iff.2 ⟨cs', rfl, hname⟩) (h name rest)
    · rfl
  · rw [expandText]
    rintro cs' rfl rfl
    exact hopen ⟨rfl, cs', rfl⟩

/-- **A text is expanded piece by piece.** -/
theorem expandText_eq_flatMap (h : Scanned cs pieces) (vars : Variables) :
    vars.expandText cs = pieces.flatMap (Piece.expanded vars) := by
  induction h with
  | nil => rw [expandText, List.flatMap_nil]
  | reference href _ ih => rw [expandText_reference href, ih, List.flatMap_cons, Piece.expanded]
  | char hnot _ ih =>
    rw [expandText_char hnot, ih, List.flatMap_cons]
    rfl

/-! ### Trees -/

/-- A text and the text that its pieces come to. -/
def ExpandedText (vars : Variables) (s t : String) : Prop :=
  ∃ pieces, Scanned s.toList pieces ∧ t.toList = pieces.flatMap (Piece.expanded vars)

/-- Two trees of one form: each text of the first is expanded in the second, and all else is the
same, keys and their order included. -/
inductive Expanded (vars : Variables) : Value → Value → Prop
  | text {s t : String} : ExpandedText vars s t → Expanded vars (.ofString s) (.ofString t)
  | scalar {s : Scalar} : (∀ t, s ≠ .text t) → Expanded vars (.scalar s) (.scalar s)
  | list {items items' : List Value} : List.Forall₂ (Expanded vars) items items' →
      Expanded vars (.list items) (.list items')
  | map {entries entries' : Entries Value} : namesOf entries = namesOf entries' →
      List.Forall₂ (Expanded vars) (entries.map (·.2)) (entries'.map (·.2)) →
      Expanded vars (.map entries) (.map entries')

theorem expandedText_iff {s t : String} :
    ExpandedText vars s t ↔ String.ofList (vars.expandText s.toList) = t := by
  rw [← String.toList_inj, String.toList_ofList]
  constructor
  · rintro ⟨pieces, hpieces, ht⟩
    rw [expandText_eq_flatMap hpieces, ht]
  · intro ht
    obtain ⟨pieces, hpieces⟩ := exists_scanned s.toList
    exact ⟨pieces, hpieces, by rw [← ht, expandText_eq_flatMap hpieces]⟩

mutual

/-- **Expanding a tree** gives the one tree that is an expanded one of it. -/
theorem expand_eq_iff (vars : Variables) : ∀ v w : Value, vars.expand v = w ↔ Expanded vars v w
  | .scalar s, w => by
    by_cases hs : ∃ t, s = .text t
    · obtain ⟨t, rfl⟩ := hs
      rw [expand]
      constructor
      · rintro rfl
        exact .text (expandedText_iff.2 rfl)
      · rintro (htext | hscalar)
        · rw [expandedText_iff.1 htext]
        · exact absurd rfl (hscalar t)
    · have hs' : ∀ t, s ≠ .text t := fun t ht => hs ⟨t, ht⟩
      rw [expand.eq_2 vars s hs']
      constructor
      · rintro rfl
        exact .scalar hs'
      · rintro (htext | hscalar)
        · exact absurd rfl (hs' _)
        · rfl
  | .list items, w => by
    rw [expand]
    constructor
    · rintro rfl
      exact .list ((expandItems_eq_iff vars items _).1 rfl)
    · rintro (- | - | hitems)
      rw [(expandItems_eq_iff vars items _).2 hitems]
  | .map entries, w => by
    rw [expand]
    constructor
    · rintro rfl
      obtain ⟨hnames, hvalues⟩ := (expandEntries_eq_iff vars entries _).1 rfl
      exact .map hnames hvalues
    · rintro (- | - | - | ⟨hnames, hvalues⟩)
      rw [(expandEntries_eq_iff vars entries _).2 ⟨hnames, hvalues⟩]

theorem expandItems_eq_iff (vars : Variables) : ∀ items items' : List Value,
    vars.expandItems items = items' ↔ List.Forall₂ (Expanded vars) items items'
  | [], items' => by simp [expandItems, eq_comm]
  | v :: items, items' => by
    rw [expandItems, List.forall₂_cons_left_iff]
    constructor
    · rintro rfl
      exact ⟨_, _, (expand_eq_iff vars v _).1 rfl, (expandItems_eq_iff vars items _).1 rfl, rfl⟩
    · rintro ⟨w, items', hv, hitems, rfl⟩
      rw [(expand_eq_iff vars v w).2 hv, (expandItems_eq_iff vars items items').2 hitems]

theorem expandEntries_eq_iff (vars : Variables) : ∀ entries entries' : Entries Value,
    vars.expandEntries entries = entries' ↔ namesOf entries = namesOf entries' ∧
      List.Forall₂ (Expanded vars) (entries.map (·.2)) (entries'.map (·.2))
  | [], entries' => by cases entries' <;> simp [expandEntries, namesOf]
  | (key, v) :: entries, entries' => by
    rw [expandEntries, expandEntry]
    constructor
    · rintro rfl
      obtain ⟨hnames, hvalues⟩ := (expandEntries_eq_iff vars entries _).1 rfl
      exact ⟨congrArg (key :: ·) hnames, .cons ((expand_eq_iff vars v _).1 rfl) hvalues⟩
    · rintro ⟨hnames, hvalues⟩
      cases entries' with
      | nil => cases hnames
      | cons e' entries' =>
        obtain ⟨key', w⟩ := e'
        obtain ⟨hkey, hnames⟩ := List.cons.inj hnames
        obtain ⟨hv, hvalues⟩ := List.forall₂_cons.1 hvalues
        dsimp only at hkey
        rw [(expand_eq_iff vars v w).2 hv,
          (expandEntries_eq_iff vars entries entries').2 ⟨hnames, hvalues⟩, hkey]

end

/--
**References are replaced in a single pass** that keeps the form of a tree. Expanding a tree gives
the one tree with the same keys in their order, the same lengths of lists and the same scalars that
are no texts, in which each text is what its pieces come to. A text is cut into pieces in one way,
whatever the variables are, and the variables only say what the references among the pieces come to.
-/
theorem expand_in_one_pass :
    (∀ (vars : Variables) (v w : Value), vars.expand v = w ↔ Expanded vars v w) ∧
    ∀ cs : List Char, ∃ pieces, (∀ pieces', Scanned cs pieces' ↔ pieces' = pieces) ∧
      pieces.flatMap Piece.source = cs ∧
      ∀ vars : Variables, vars.expandText cs = pieces.flatMap (Piece.expanded vars) := by
  refine ⟨expand_eq_iff, fun cs => ?_⟩
  obtain ⟨pieces, hpieces⟩ := exists_scanned cs
  refine ⟨pieces, fun pieces' => ⟨fun h => h.unique hpieces, ?_⟩, hpieces.flatMap_source,
    expandText_eq_flatMap hpieces⟩
  rintro rfl
  exact hpieces

/-- A value is neither read again nor joined with what follows it. -/
example : String.ofList (expandText [("A", "$"), ("B", "$\x7bA\x7d")]
    "$\x7bA\x7d\x7bB\x7d $\x7bB\x7d $\x7b\x7d $\x7bA".toList) =
      "$\x7bB\x7d $\x7bA\x7d $\x7b\x7d $\x7bA" := by
  cbv

end MediaQuery.Variables
