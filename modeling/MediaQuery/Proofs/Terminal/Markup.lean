import MediaQuery.Proofs.Text.Parts
import MediaQuery.Terminal.Markup

/-!
# Escaped text is shown

In a text that was escaped each tag has an odd number of backslashes in front of it, so that none
of them opens or closes anything (`pieces_escaped`). Between an opening tag and its closing tag such
a text can stand whatever it is: `exists_showPieces_coloured`.

* `escaped` is escaped text before its end is guarded;
* `Quiet` are the parts of a marked text that leave the open tags as they are.
-/

namespace MediaQuery.Terminal

open Text

variable {cs t inside rest : List Char}

/-! ### Tags -/

/-- Characters inside a tag, after the first one. -/
def isInside (c : Char) : Bool := c != ']' && c != '['

/-- What can stand between the brackets of a tag. -/
def TagText (inside : List Char) : Prop :=
  ∃ c more, inside = c :: more ∧ startsTag c ∧ ∀ d ∈ more, isInside d

theorem tagAt?_eq_some_iff :
    tagAt? cs = some (inside, rest) ↔ cs = '[' :: (inside ++ ']' :: rest) ∧ TagText inside := by
  constructor
  · intro h
    unfold tagAt? at h
    split at h
    · rename_i c more
      split_ifs at h with hc
      split at h
      · rename_i after hafter
        cases h
        refine ⟨?_, c, _, rfl, hc, fun d hd => mem_takeWhile hd⟩
        rw [List.cons_append, ← hafter, List.takeWhile_append_dropWhile]
      · cases h
    · cases h
  · rintro ⟨rfl, c, more, rfl, hc, hmore⟩
    have hstop : ∀ d ∈ (']' :: rest).head?, ¬ isInside d := by simp [isInside]
    have htake : (more ++ ']' :: rest).takeWhile (fun d => d != ']' && d != '[') = more :=
      takeWhile_append_stop hmore hstop
    have hdrop : (more ++ ']' :: rest).dropWhile (fun d => d != ']' && d != '[') = ']' :: rest :=
      dropWhile_append_stop hmore hstop
    simp only [tagAt?, List.cons_append, if_pos hc, htake, hdrop]

theorem pieces_tag (h : tagAt? (cs.dropWhile (· == '\\')) = some (inside, rest)) :
    pieces cs = .tag (cs.takeWhile (· == '\\')).length inside :: pieces rest := by
  cases cs with
  | nil => cases h
  | cons c cs =>
    rw [pieces]
    split
    · rename_i hsome
      rw [h] at hsome
      cases hsome
      rfl
    · rename_i hnone
      rw [h] at hnone
      cases hnone

theorem pieces_char {c : Char} (h : tagAt? ((c :: cs).dropWhile (· == '\\')) = none) :
    pieces (c :: cs) = .char c :: pieces cs := by
  rw [pieces]
  split
  · rename_i hsome
    rw [h] at hsome
    cases hsome
  · rfl

theorem pieces_backslashes (n : Nat) (h : TagText inside) (rest : List Char) :
    pieces (backslashes n ++ '[' :: (inside ++ ']' :: rest)) = .tag n inside :: pieces rest := by
  have hbackslashes : ∀ c ∈ backslashes n, (c == '\\') = true := by
    intro c hc
    rw [(List.mem_replicate.1 hc).2]
    rfl
  have hstop : ∀ c ∈ ('[' :: (inside ++ ']' :: rest)).head?, ¬ (c == '\\') = true := by simp
  have htag : tagAt? ((backslashes n ++ '[' :: (inside ++ ']' :: rest)).dropWhile (· == '\\')) =
      some (inside, rest) := by
    rw [dropWhile_append_stop hbackslashes hstop]
    exact tagAt?_eq_some_iff.2 ⟨rfl, h⟩
  rw [pieces_tag htag, takeWhile_append_stop hbackslashes hstop, backslashes, List.length_replicate]

/-! ### Escaped text -/

/-- A text as marked text that shows it. -/
def escaped (cs : List Char) : List Char := (pieces cs).flatMap Piece.escaped

/-- The parts of a marked text that open and close nothing. -/
def Quiet : Piece → Prop
  | .char _ => True
  | .tag n _ => n % 2 = 1

theorem escaped_nil : escaped [] = [] := by
  rw [escaped, pieces, List.flatMap_nil]

theorem escaped_tag (h : tagAt? (cs.dropWhile (· == '\\')) = some (inside, rest)) :
    escaped cs = backslashes (2 * (cs.takeWhile (· == '\\')).length + 1) ++
      '[' :: (inside ++ ']' :: escaped rest) := by
  rw [escaped, pieces_tag h, List.flatMap_cons, Piece.escaped]
  simp [escaped]

theorem escaped_char {c : Char} (h : tagAt? ((c :: cs).dropWhile (· == '\\')) = none) :
    escaped (c :: cs) = c :: escaped cs := by
  rw [escaped, pieces_char h, List.flatMap_cons, Piece.escaped]
  rfl

/-- What may follow escaped text without making a tag of its end. -/
structure Following (t : List Char) : Prop where
  head : ∀ c ∈ t.head?, ¬ startsTag c
  stop : (t.dropWhile isInside).head? ≠ some ']'

/-- A closing bracket that comes before any opening one is there without escaping. -/
theorem head?_dropWhile_escaped (ht : Following t)
    (h : ((escaped cs ++ t).dropWhile isInside).head? = some ']') :
    (cs.dropWhile isInside).head? = some ']' := by
  induction cs using pieces.induct with
  | case1 =>
    rw [escaped_nil, List.nil_append] at h
    exact absurd h ht.stop
  | case2 c cs inside rest htag ih =>
    have hbackslashes : ∀ d ∈ backslashes (2 * ((c :: cs).takeWhile (· == '\\')).length + 1),
        isInside d := by
      intro d hd
      rw [(List.mem_replicate.1 hd).2]
      rfl
    rw [escaped_tag htag, List.append_assoc, List.cons_append,
      dropWhile_append_stop hbackslashes (by simp [isInside])] at h
    cases h
  | case3 c cs htag ih =>
    rw [escaped_char htag, List.cons_append] at h
    by_cases hc : isInside c
    · rw [List.dropWhile_cons_of_pos hc] at h ⊢
      exact ih h
    · rw [List.dropWhile_cons_of_neg hc] at h ⊢
      exact h

/-- Escaping makes no tag where there was none. -/
theorem tagAt?_escaped {d : Char} (ht : Following t) (h : tagAt? (d :: cs) = none) :
    tagAt? (d :: (escaped cs ++ t)) = none := by
  rw [Option.eq_none_iff_forall_ne_some]
  rintro ⟨inside, rest⟩ hsome
  obtain ⟨hall, c, more, rfl, hc, hmore⟩ := tagAt?_eq_some_iff.1 hsome
  obtain ⟨rfl, htail⟩ := List.cons.inj hall
  cases cs with
  | nil =>
    rw [escaped_nil, List.nil_append] at htail
    exact ht.head c (by rw [htail]; rfl) hc
  | cons e cs =>
    cases htag : tagAt? ((e :: cs).dropWhile (· == '\\')) with
    | some found =>
      -- a backslash was put in front of the next tag
      obtain ⟨inside', rest'⟩ := found
      rw [escaped_tag htag, backslashes, List.replicate_succ] at htail
      obtain ⟨rfl, -⟩ := List.cons.inj htail
      cases hc
    | none =>
      rw [escaped_char htag, List.cons_append, List.cons_append] at htail
      obtain ⟨rfl, hmoretail⟩ := List.cons.inj htail
      have hstop : ((escaped cs ++ t).dropWhile isInside).head? = some ']' := by
        rw [hmoretail, dropWhile_append_stop hmore (by simp [isInside])]
        rfl
      have hcs := head?_dropWhile_escaped ht hstop
      obtain ⟨after, hafter⟩ : ∃ after, cs.dropWhile isInside = ']' :: after :=
        List.head?_eq_some_iff.1 hcs
      have hfound : tagAt? ('[' :: e :: cs) = some (e :: cs.takeWhile isInside, after) := by
        refine tagAt?_eq_some_iff.2 ⟨?_, e, _, rfl, hc, fun d hd => mem_takeWhile hd⟩
        rw [List.cons_append, ← hafter, List.takeWhile_append_dropWhile]
      rw [h] at hfound
      cases hfound

/-- Where no tag follows some backslashes, none follows them after escaping, unless the text is
nothing but backslashes. -/
theorem tagAt?_escaped_or (ht : Following t) (h : tagAt? (cs.dropWhile (· == '\\')) = none) :
    tagAt? ((escaped cs ++ t).dropWhile (· == '\\')) = none ∨ ∃ n, escaped cs = backslashes n := by
  induction cs with
  | nil => exact .inr ⟨0, escaped_nil⟩
  | cons c cs ih =>
    rw [escaped_char h, List.cons_append]
    by_cases hc : (c == '\\') = true
    · rw [List.dropWhile_cons, if_pos hc] at h ⊢
      refine (ih h).imp_right ?_
      rintro ⟨n, hn⟩
      exact ⟨n + 1, by rw [hn, eq_of_beq hc]; rfl⟩
    · rw [List.dropWhile_cons, if_neg hc] at h ⊢
      exact .inl (tagAt?_escaped ht h)

/-- **The parts of escaped text** are quiet, but for backslashes at its end. -/
theorem pieces_escaped (ht : Following t) (cs : List Char) :
    ∃ ps n, (∀ p ∈ ps, Quiet p) ∧ pieces (escaped cs ++ t) = ps ++ pieces (backslashes n ++ t) := by
  induction cs using pieces.induct with
  | case1 => exact ⟨[], 0, by simp, by rw [escaped_nil]; rfl⟩
  | case2 c cs inside rest htag ih =>
    obtain ⟨ps, n, hps, hpieces⟩ := ih
    obtain ⟨-, hinside⟩ := tagAt?_eq_some_iff.1 htag
    refine ⟨.tag (2 * ((c :: cs).takeWhile (· == '\\')).length + 1) inside :: ps, n, ?_, ?_⟩
    · rw [List.forall_mem_cons]
      exact ⟨by simp only [Quiet]; omega, hps⟩
    · rw [escaped_tag htag, List.append_assoc, List.cons_append, List.append_assoc,
        List.cons_append, pieces_backslashes _ hinside, hpieces, List.cons_append]
  | case3 c cs htag ih =>
    obtain ⟨ps, n, hps, hpieces⟩ := ih
    rw [escaped_char htag, List.cons_append]
    cases hnext : tagAt? ((c :: (escaped cs ++ t)).dropWhile (· == '\\')) with
    | none =>
      refine ⟨.char c :: ps, n, ?_, by rw [pieces_char hnext, hpieces, List.cons_append]⟩
      rw [List.forall_mem_cons]
      exact ⟨trivial, hps⟩
    | some found =>
      -- the text is all backslashes, which join those that follow
      have hall : ∃ n, escaped (c :: cs) = backslashes n := by
        refine (tagAt?_escaped_or ht htag).resolve_left ?_
        rw [escaped_char htag, List.cons_append, hnext]
        simp
      obtain ⟨n, hn⟩ := hall
      rw [escaped_char htag] at hn
      exact ⟨[], n, by simp, by rw [← List.cons_append, hn, List.nil_append]⟩

/-! ### Showing -/

variable {opened : List (List Char)} {ps qs : List Piece}

theorem showPieces_odd {n : Nat} (h : n % 2 = 1) (position : Nat) (text : List Char) :
    showPieces position opened text (.tag n inside :: ps) =
      (showPieces (position + n + inside.length + 2) opened [] ps).map fun rest =>
        showText text.reverse ++ backslashes (n / 2) ++ showText (['['] ++ inside ++ [']']) ++
          rest := by
  rw [showPieces.eq_def]
  exact if_pos h

theorem showPieces_opening (h : '/' ∉ inside.head?) (position : Nat) (text : List Char) :
    showPieces position opened text (.tag 0 inside :: ps) =
      (showPieces (position + inside.length + 2) (tagName inside :: opened) [] ps).map fun rest =>
        showText text.reverse ++ rest := by
  have hno : ∀ name, inside ≠ '/' :: name := by
    rintro name rfl
    exact h rfl
  rw [showPieces]
  · simp [backslashes]
  · exact hno

theorem close?_self (name : List Char) : close? [name] name = some [] := by
  rw [close?]
  split_ifs <;> simp_all

/-- The end of coloured text, where a single tag is open. -/
theorem exists_showPieces_closing (name : List Char) (n position : Nat) (text : List Char) :
    ∃ shown, showPieces position [tagName name] text [.tag n ('/' :: name)] = .ok shown := by
  rw [showPieces]
  by_cases hodd : n % 2 = 1
  · rw [if_pos hodd]
    exact ⟨_, rfl⟩
  · rw [if_neg hodd, close?_self]
    exact ⟨_, rfl⟩

/-- Quiet parts are shown if what follows them is. -/
theorem exists_showPieces_append (hps : ∀ p ∈ ps, Quiet p)
    (hqs : ∀ position text, ∃ shown, showPieces position opened text qs = .ok shown)
    (position : Nat) (text : List Char) :
    ∃ shown, showPieces position opened text (ps ++ qs) = .ok shown := by
  induction ps generalizing position text with
  | nil => exact hqs position text
  | cons p ps ih =>
    obtain ⟨hp, hrest⟩ := List.forall_mem_cons.1 hps
    rw [List.cons_append]
    cases p with
    | char c => exact ih hrest _ _
    | tag n inside =>
      obtain ⟨shown, hshown⟩ := ih hrest (position + n + inside.length + 2) []
      rw [showPieces_odd hp, hshown]
      exact ⟨_, rfl⟩

theorem exists_showPieces_quiet (hps : ∀ p ∈ ps, Quiet p) (position : Nat) (text : List Char) :
    ∃ shown, showPieces position opened text ps = .ok shown := by
  rw [← List.append_nil ps]
  exact exists_showPieces_append hps (fun _ _ => ⟨_, rfl⟩) position text

theorem pieces_eq_char {a : List Char} (ha : ∀ c ∈ a, c ≠ '[' ∧ c ≠ '\\') (t : List Char) :
    pieces (a ++ t) = a.map .char ++ pieces t := by
  induction a with
  | nil => rfl
  | cons c a ih =>
    obtain ⟨⟨hbracket, hbackslash⟩, ha⟩ := List.forall_mem_cons.1 ha
    have hnone : tagAt? ((c :: (a ++ t)).dropWhile (· == '\\')) = none := by
      rw [List.dropWhile_cons, if_neg (by simpa using hbackslash)]
      rw [Option.eq_none_iff_forall_ne_some]
      rintro ⟨inside, rest⟩ hsome
      exact hbracket (List.cons.inj (tagAt?_eq_some_iff.1 hsome).1).1
    rw [List.cons_append, pieces_char hnone, ih ha, List.map_cons, List.cons_append]

/-- Guarding the end of a text adds a backslash or nothing. -/
theorem exists_guardEnd (cs : List Char) : ∃ n, guardEnd cs = cs ++ backslashes n := by
  unfold guardEnd
  split
  · exact ⟨0, (List.append_nil cs).symm⟩
  · exact ⟨1, rfl⟩
  · exact ⟨0, (List.append_nil cs).symm⟩

theorem following_backslashes {u : List Char} (hu : ∀ c ∈ u.head?, c = '[') (n : Nat) :
    Following (backslashes n ++ u) := by
  constructor
  · intro c hc
    cases n with
    | zero =>
      rw [hu c hc]
      decide
    | succ n =>
      cases hc
      decide
  · have hbackslashes : ∀ c ∈ backslashes n, isInside c := by
      intro c hc
      rw [(List.mem_replicate.1 hc).2]
      rfl
    rw [List.dropWhile_append_of_pos hbackslashes]
    cases u with
    | nil => simp
    | cons c u =>
      rw [hu c rfl]
      simp [isInside]

/-- Escaped text after text without brackets and backslashes, in front of a tag or at the end. -/
theorem pieces_guarded {a u : List Char} (ha : ∀ c ∈ a, c ≠ '[' ∧ c ≠ '\\')
    (hu : ∀ c ∈ u.head?, c = '[') (cs : List Char) :
    ∃ ps n, (∀ p ∈ ps, Quiet p) ∧
      pieces (a ++ guardEnd (escaped cs) ++ u) = ps ++ pieces (backslashes n ++ u) := by
  obtain ⟨m, hguard⟩ := exists_guardEnd (escaped cs)
  obtain ⟨ps, n, hps, hpieces⟩ := pieces_escaped (following_backslashes hu m) cs
  refine ⟨a.map .char ++ ps, n + m, ?_, ?_⟩
  · intro p hp
    rcases List.mem_append.1 hp with hp | hp
    · obtain ⟨c, -, rfl⟩ := List.mem_map.1 hp
      trivial
    · exact hps p hp
  · have hjoin : backslashes n ++ (backslashes m ++ u) = backslashes (n + m) ++ u := by
      rw [← List.append_assoc, backslashes, backslashes, List.replicate_append_replicate]
      rfl
    rw [List.append_assoc, pieces_eq_char ha, hguard, List.append_assoc, hpieces, hjoin,
      List.append_assoc]

theorem quiet_of_notMem (h : '[' ∉ cs) : ∀ p ∈ pieces cs, Quiet p := by
  induction cs using pieces.induct with
  | case1 => simp [pieces]
  | case2 c cs inside rest htag ih =>
    -- a tag has an opening bracket
    have hmem : '[' ∈ (c :: cs).dropWhile (· == '\\') := by
      rw [(tagAt?_eq_some_iff.1 htag).1]
      exact List.mem_cons_self
    exact absurd ((List.dropWhile_suffix _).subset hmem) h
  | case3 c cs htag ih =>
    rw [pieces_char htag, List.forall_mem_cons]
    exact ⟨trivial, ih fun hmem => h (List.mem_cons_of_mem _ hmem)⟩

/-- Escaped text is shown. -/
theorem exists_showPieces_escaped {a : List Char} (ha : ∀ c ∈ a, c ≠ '[' ∧ c ≠ '\\')
    (cs : List Char) :
    ∃ shown, showPieces 0 [] [] (pieces (a ++ guardEnd (escaped cs))) = .ok shown := by
  obtain ⟨ps, n, hps, hpieces⟩ := pieces_guarded ha (u := []) (by simp) cs
  rw [List.append_nil, List.append_nil] at hpieces
  have hend : '[' ∉ backslashes n := fun hmem => by
    cases (List.mem_replicate.1 hmem).2
  rw [hpieces]
  exact exists_showPieces_append hps (exists_showPieces_quiet (quiet_of_notMem hend)) 0 []

/-- **Coloured text is shown**, whatever text was escaped: the tag at the end closes the one at the
start, if it is a tag, and nothing between them is open or closes anything. -/
theorem exists_showPieces_coloured {colour a : List Char} (hcolour : TagText colour)
    (hslash : '/' ∉ colour.head?) (ha : ∀ c ∈ a, c ≠ '[' ∧ c ≠ '\\') (cs : List Char) :
    ∃ shown, showPieces 0 [] [] (pieces ('[' :: (colour ++ ']' ::
      (a ++ guardEnd (escaped cs) ++ '[' :: ('/' :: colour ++ [']']))))) = .ok shown := by
  obtain ⟨c, more, rfl, hc, hmore⟩ := hcolour
  have hclosing : TagText ('/' :: c :: more) := by
    refine ⟨'/', _, rfl, by decide, ?_⟩
    rw [List.forall_mem_cons]
    refine ⟨?_, hmore⟩
    have hne : c ≠ ']' ∧ c ≠ '[' := by
      constructor <;> (rintro rfl; revert hc; decide)
    simp [isInside, hne]
  obtain ⟨ps, n, hps, hpieces⟩ := pieces_guarded ha
    (u := '[' :: ('/' :: (c :: more) ++ [']'])) (by simp) cs
  have hend : ∀ position text, ∃ shown, showPieces position [tagName (c :: more)] text
      (pieces (backslashes n ++ '[' :: ('/' :: (c :: more) ++ [']']))) = .ok shown := by
    intro position text
    rw [pieces_backslashes n hclosing [], pieces]
    exact exists_showPieces_closing (c :: more) n position text
  have hopening : pieces ('[' :: (c :: more ++ ']' ::
      (a ++ guardEnd (escaped cs) ++ '[' :: ('/' :: (c :: more) ++ [']'])))) =
      .tag 0 (c :: more) ::
        (ps ++ pieces (backslashes n ++ '[' :: ('/' :: (c :: more) ++ [']']))) := by
    rw [← hpieces]
    exact pieces_backslashes 0 ⟨c, more, rfl, hc, hmore⟩ _
  obtain ⟨shown, hshown⟩ := exists_showPieces_append hps hend ((c :: more).length + 2) []
  rw [hopening, showPieces_opening hslash, Nat.zero_add, hshown]
  exact ⟨_, rfl⟩

end MediaQuery.Terminal
