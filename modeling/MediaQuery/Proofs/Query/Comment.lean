import MediaQuery.Proofs.Query.Grammar
import MediaQuery.Query.Comment
import Mathlib.Data.List.Infix

/-!
# Deleting comments

`dropComments` deletes what the grammar calls comments: `uncommented_iff` says that its result is
the one text that `Uncommented` allows. A text without an opener keeps its form.
-/

namespace MediaQuery.Grammar

open Query

variable {cs rest out : List Char}

/-! ### Closers -/

theorem afterComment?_eq_some_iff :
    afterComment? cs = some rest ↔
      ∃ body, cs = body ++ '*' :: '/' :: rest ∧ ¬ ['*', '/'] <:+: body ++ ['*'] := by
  fun_induction afterComment? cs with
  | case1 cs =>
    constructor
    · rintro h
      cases h
      exact ⟨[], rfl, fun h => by simpa using h.length_le⟩
    · rintro ⟨body, h, hbody⟩
      rcases body with _ | ⟨b, _ | ⟨b', body⟩⟩
      · simpa using h
      · simp at h
      · obtain ⟨rfl, rfl, -⟩ : b = '*' ∧ b' = '/' ∧ _ := by simpa [eq_comm] using h
        exact absurd ⟨[], body ++ ['*'], by simp⟩ hbody
  | case2 c cs hc ih =>
    rw [ih]
    constructor
    · rintro ⟨body, rfl, hbody⟩
      refine ⟨c :: body, rfl, fun h => ?_⟩
      rcases List.infix_cons_iff.1 h with ⟨t, ht⟩ | h
      · -- the closer would stand across `c` and the text after it
        rcases body with _ | ⟨b, body⟩
        · simp at ht
        · obtain ⟨rfl, rfl, -⟩ : c = '*' ∧ b = '/' ∧ _ := by simpa [eq_comm] using ht
          exact hc _ rfl rfl
      · exact hbody h
    · rintro ⟨body, h, hbody⟩
      rcases body with _ | ⟨b, body⟩
      · obtain ⟨rfl, rfl⟩ : c = '*' ∧ cs = '/' :: rest := by simpa using h
        exact absurd rfl (hc _ rfl)
      · obtain ⟨rfl, rfl⟩ : c = b ∧ cs = body ++ '*' :: '/' :: rest := by simpa using h
        exact ⟨body, rfl, fun h => hbody (h.trans (List.suffix_cons _ _).isInfix)⟩
  | case3 => simp

theorem infix_of_afterComment?_eq_some (h : afterComment? cs = some rest) : ['*', '/'] <:+: cs := by
  obtain ⟨body, rfl, -⟩ := afterComment?_eq_some_iff.1 h
  exact ⟨body, rest, by simp⟩

theorem not_infix_of_afterComment?_eq_none (h : afterComment? cs = none) :
    ¬ ['*', '/'] <:+: cs := by
  fun_induction afterComment? cs with
  | case1 => cases h
  | case2 c cs hc ih =>
    rw [List.infix_cons_iff]
    rintro (⟨t, ht⟩ | h')
    · obtain ⟨rfl, rfl⟩ : c = '*' ∧ cs = '/' :: t := by simpa [eq_comm] using ht
      exact hc t rfl rfl
    · exact ih h h'
  | case3 => simp

theorem comment_iff :
    Comment cs rest ↔ ∃ cs', cs = '/' :: '*' :: cs' ∧ afterComment? cs' = some rest := by
  constructor
  · rintro ⟨body, rfl, hbody⟩
    exact ⟨_, rfl, afterComment?_eq_some_iff.2 ⟨body, rfl, hbody⟩⟩
  · rintro ⟨cs', rfl, h⟩
    obtain ⟨body, rfl, hbody⟩ := afterComment?_eq_some_iff.1 h
    exact ⟨body, rfl, hbody⟩

theorem Comment.unique {rest' : List Char} (h : Comment cs rest) (h' : Comment cs rest') :
    rest = rest' := by
  obtain ⟨cs', rfl, hs⟩ := comment_iff.1 h
  obtain ⟨cs'', he, hs'⟩ := comment_iff.1 h'
  obtain rfl : cs' = cs'' := by simpa using he
  rw [hs] at hs'
  exact Option.some.inj hs'

/-! ### Texts without comments -/

theorem Uncommented.unique {out' : List Char} (h : Uncommented cs out) (h' : Uncommented cs out') :
    out = out' := by
  induction h generalizing out' with
  | nil =>
    cases h' with
    | nil => rfl
    | comment hc _ => obtain ⟨cs', he, -⟩ := comment_iff.1 hc; cases he
  | comment hc _ ih =>
    -- where a comment can be read it is read, and it ends at one place only
    cases h' with
    | nil => obtain ⟨cs', he, -⟩ := comment_iff.1 hc; cases he
    | comment hc' h' => obtain rfl := hc.unique hc'; exact ih h'
    | char hn _ => exact absurd hc (hn _)
  | char hn _ ih =>
    cases h' with
    | comment hc _ => exact absurd hc (hn _)
    | char _ h' => rw [ih h']

/-- A text in which no comment starts keeps its form. -/
theorem uncommented_self (h : ∀ t, t <:+ cs → ∀ rest, ¬ Comment t rest) : Uncommented cs cs := by
  induction cs with
  | nil => exact .nil
  | cons c cs ih =>
    exact .char (h _ List.suffix_rfl) (ih fun t ht => h t (ht.trans (List.suffix_cons c cs)))

/-- A text without an opener keeps its form. -/
theorem uncommented_of_no_opener (h : ¬ ['/', '*'] <:+: cs) : Uncommented cs cs := by
  refine uncommented_self fun t ht rest hc => h ?_
  obtain ⟨cs', rfl, -⟩ := comment_iff.1 hc
  exact (List.IsInfix.trans ⟨[], cs', by simp⟩ ht.isInfix)

theorem suffix_of_cons_suffix_cons {c d : Char} {s t : List Char} (h : c :: t <:+ d :: s) :
    t <:+ s := by
  rcases List.suffix_cons_iff.1 h with he | h
  · rw [(List.cons.inj he).2]
  · exact (List.suffix_cons c t).trans h

theorem uncommented_dropComments (cs : List Char) : Uncommented cs (dropComments cs) := by
  fun_induction dropComments cs with
  | case1 cs rest hrest ih => exact .comment (comment_iff.2 ⟨cs, rfl, hrest⟩) ih
  | case2 cs hnone =>
    -- nothing closes the opener, so no later opener is closed either
    refine uncommented_self fun t ht rest hc => ?_
    obtain ⟨cs', rfl, hs⟩ := comment_iff.1 hc
    have hsuffix := suffix_of_cons_suffix_cons (suffix_of_cons_suffix_cons ht)
    have hcloser := (infix_of_afterComment?_eq_some hs).trans hsuffix.isInfix
    exact not_infix_of_afterComment?_eq_none hnone hcloser
  | case3 c cs hn ih =>
    refine .char (fun rest hc => ?_) ih
    obtain ⟨cs', he, -⟩ := comment_iff.1 hc
    obtain ⟨rfl, rfl⟩ : c = '/' ∧ cs = '*' :: cs' := by simpa using he
    exact hn _ rfl rfl
  | case4 => exact .nil

/-- **Deleting comments** leaves the one text that the grammar allows. -/
theorem uncommented_iff : Uncommented cs out ↔ dropComments cs = out :=
  ⟨fun h => (uncommented_dropComments cs).unique h, fun h => h ▸ uncommented_dropComments cs⟩

end MediaQuery.Grammar
