import MediaQuery.Proofs.Query.Comment
import MediaQuery.Proofs.Text.Parts
import MediaQuery.Proofs.Text.Pattern

/-!
# Comments as a pattern

A comment can also be given as a pattern, which reads other characters and runs of stars in turn
until a slash follows a run. The pattern is able to read past a closer, since what follows a run of
stars may be a star again; but a search reads as many stars as there are, and so never does.
Deleting the pattern is deleting comments, `deleteAll_commentPattern`.
-/

namespace MediaQuery.Query

open Text Pattern Grammar

variable {cs left : List Char}

/-- All characters up to a star, and one or more stars. -/
def toStars : Pattern := seq (star (but '*')) (plus (only '*'))

/-- A comment without its opener and its last slash. -/
def commentBody : Pattern := seq toStars (star (seq (but '/') toStars))

/-- A comment. -/
def commentPattern : Pattern := seq (only '/') (seq (only '*') (seq commentBody (only '/')))

/-! ### What the pattern can read -/

theorem suffix_of_reads_toStars (h : toStars.Reads cs) : ['*'] <:+ cs := by
  have hstar : ∀ x, (only '*').Reads x → ['*'] <:+ x := by
    rintro x ⟨c, hc, rfl⟩
    obtain rfl : c = '*' := by simpa using hc
    exact List.suffix_rfl
  obtain ⟨x, y, rfl, -, hy⟩ := h
  exact (suffix_of_reads_seq_star hstar hstar hy).trans (List.suffix_append x y)

theorem suffix_of_reads_commentBody (h : commentBody.Reads cs) : ['*'] <:+ cs := by
  refine suffix_of_reads_seq_star (fun x => suffix_of_reads_toStars) ?_ h
  rintro z ⟨x, y, rfl, -, hy⟩
  exact (suffix_of_reads_toStars hy).trans (List.suffix_append x y)

/-- The pattern reads an opener, and a closer behind it. -/
theorem exists_closer_of_search (h : commentPattern.search some cs = some left) :
    ∃ t, cs = '/' :: '*' :: t ∧ ['*', '/'] <:+: t := by
  obtain ⟨read, left, rfl, hreads, -⟩ := exists_reads_of_search h
  obtain ⟨-, -, rfl, ⟨c, hc, rfl⟩, -, -, rfl, ⟨d, hd, rfl⟩, x, -, rfl, hx, e, he, rfl⟩ := hreads
  obtain rfl : c = '/' := by simpa using hc
  obtain rfl : d = '*' := by simpa using hd
  obtain rfl : e = '/' := by simpa using he
  obtain ⟨y, rfl⟩ := suffix_of_reads_commentBody hx
  exact ⟨_, rfl, y, left, by simp⟩

/-! ### What a search reads -/

theorem afterComment?_cons {c : Char} (h : c ≠ '*') :
    afterComment? (c :: cs) = afterComment? cs := by
  rw [afterComment?]
  rintro - rfl
  exact absurd rfl h

theorem afterComment?_star_cons {c : Char} (h : c ≠ '/') :
    afterComment? ('*' :: c :: cs) = afterComment? (c :: cs) := by
  rw [afterComment?]
  rintro t - he
  exact h (List.cons.inj he).1

theorem afterComment?_dropWhile (cs : List Char) :
    afterComment? (cs.dropWhile (· != '*')) = afterComment? cs := by
  induction cs with
  | nil => rfl
  | cons c cs ih =>
    by_cases hc : c = '*'
    · simp [hc]
    · rw [List.dropWhile_cons_of_pos (by simpa using hc), ih, afterComment?_cons hc]

theorem afterComment?_dropWhile_star (cs : List Char) :
    afterComment? ('*' :: cs.dropWhile (· == '*')) = afterComment? ('*' :: cs) := by
  induction cs with
  | nil => rfl
  | cons c cs ih =>
    by_cases hc : c = '*'
    · subst hc
      rw [List.dropWhile_cons_of_pos (by simp), ih, afterComment?_star_cons (by decide)]
    · rw [List.dropWhile_cons_of_neg (by simpa using hc)]

/-- A search that is not over reads to the end of the next run of stars. -/
theorem exists_search_toStars (h : afterComment? cs = some left) :
    ∃ v, v.length < cs.length ∧ '*' ∉ v.head? ∧ afterComment? ('*' :: v) = some left ∧
      ∀ rest found, rest v = some found → toStars.search rest cs = some found := by
  rw [← afterComment?_dropWhile] at h
  have hhead := head?_dropWhile (· != '*') cs
  have hle := (List.dropWhile_suffix (l := cs) (· != '*')).length_le
  cases hu : cs.dropWhile (· != '*') with
  | nil =>
    rw [hu] at h
    cases h
  | cons c u =>
    obtain rfl : c = '*' := by simpa [hu] using hhead
    rw [hu] at h hle
    have hle' := (List.dropWhile_suffix (l := u) (· == '*')).length_le
    have hhead' := head?_dropWhile (· == '*') u
    refine ⟨u.dropWhile (· == '*'), ?_, fun hm => hhead' _ hm rfl, ?_, fun rest found hrest => ?_⟩
    · simp only [List.length_cons] at hle
      omega
    · rw [afterComment?_dropWhile_star, h]
    · refine search_star_char ?_
      rw [hu]
      exact search_star_char hrest

/-- Behind a run of stars the search finds the first closer. -/
theorem search_rounds (hhead : '*' ∉ cs.head?) (h : afterComment? ('*' :: cs) = some left) :
    (star (seq (but '/') toStars)).search ((only '/').search some) cs = some left := by
  induction hn : cs.length using Nat.strongRecOn generalizing cs with
  | _ n ih =>
    rw [search_star]
    cases cs with
    | nil => cases h
    | cons c cs =>
      by_cases hc : c = '/'
      · -- the run of stars and this slash are the closer
        subst hc
        exact h
      · have hstar : c ≠ '*' := fun he => hhead (by simp [he])
        rw [afterComment?_star_cons hc, afterComment?_cons hstar] at h
        obtain ⟨v, hlt, hv, hafter, hsearch⟩ := exists_search_toStars h
        have hvn : v.length < (c :: cs).length := by
          rw [List.length_cons]
          omega
        have hround := hsearch (fun t => if t.length < (c :: cs).length then
          (star (seq (but '/') toStars)).search ((only '/').search some) t else none) left
          (by rw [if_pos hvn]; exact ih v.length (hn ▸ hvn) hv hafter rfl)
        have hbut : (c != '/') = true := by simpa using hc
        rw [search_seq, search_but_cons, if_pos hbut, hround, Option.some_or]

/-- **A search for a comment** ends at the first closer. -/
theorem search_commentPattern (h : afterComment? cs = some left) :
    commentPattern.search some ('/' :: '*' :: cs) = some left := by
  obtain ⟨v, -, hv, hafter, hsearch⟩ := exists_search_toStars h
  exact hsearch _ _ (search_rounds hv hafter)

/-! ### Deleting the pattern -/

/-- **Deleting the pattern** is deleting comments. -/
theorem deleteAll_commentPattern (cs : List Char) :
    commentPattern.deleteAll cs = dropComments cs := by
  fun_induction dropComments cs with
  | case1 cs rest hrest ih =>
    have hlt : rest.length < ('/' :: '*' :: cs).length := by
      have := length_lt_of_afterComment? hrest
      simp only [List.length_cons]
      omega
    rw [deleteAll_of_search (search_commentPattern hrest) hlt, ih]
  | case2 cs hnone =>
    -- no closer is left, so the pattern reads nothing from here on
    refine deleteAll_eq_self fun t ht => Option.eq_none_iff_forall_ne_some.2 fun left hleft => ?_
    obtain ⟨t, rfl, hcloser⟩ := exists_closer_of_search hleft
    have hsuffix := suffix_of_cons_suffix_cons (suffix_of_cons_suffix_cons ht)
    exact not_infix_of_afterComment?_eq_none hnone (hcloser.trans hsuffix.isInfix)
  | case3 c cs hn ih =>
    have hnone : commentPattern.search some (c :: cs) = none := by
      refine Option.eq_none_iff_forall_ne_some.2 fun left hleft => ?_
      obtain ⟨t, he, -⟩ := exists_closer_of_search hleft
      obtain ⟨rfl, rfl⟩ := List.cons.inj he
      exact hn t rfl rfl
    rw [deleteAll_cons hnone, ih]
  | case4 => rw [deleteAll]

end MediaQuery.Query
