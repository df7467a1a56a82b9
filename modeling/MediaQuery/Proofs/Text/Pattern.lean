import Mathlib.Data.Option.Basic
import Mathlib.Tactic.Common

/-!
# Patterns

Patterns of characters, and the search for them: parts are read from left to right, a repetition
takes as many rounds as it can, and gives them back one by one as long as what follows fails.

* `Pattern.search` is that search, with what follows as a continuation;
* `Pattern.Reads` are the texts that a pattern can read, whatever is tried first;
* `Pattern.deleteAll` deletes what the pattern reads from a text, from left to right.
-/

namespace MediaQuery.Text

/--
Patterns of characters: one of a class, one pattern after another, and any number of rounds of one,
the more the better.
-/
inductive Pattern where
  | char (p : Char → Bool)
  | seq (a b : Pattern)
  | star (a : Pattern)

namespace Pattern

/-- The given character. -/
def only (c : Char) : Pattern := .char (· == c)

/-- Any other character. -/
def but (c : Char) : Pattern := .char (· != c)

/-- At least one round. -/
def plus (a : Pattern) : Pattern := .seq a (.star a)

/-! ### Searching -/

/-- What a search finds behind a text. -/
abbrev Search := List Char → Option (List Char)

/-- As many rounds as lead to success, and then the rest; a round must read something. -/
def rounds (once : Search → Search) (rest : Search) (cs : List Char) : Option (List Char) :=
  (once (fun left => if _h : left.length < cs.length then rounds once rest left else none) cs).or
    (rest cs)
termination_by cs.length

/-- The first way to read a pattern after which the rest succeeds, and what the rest finds. -/
def search : Pattern → Search → Search
  | .char p, rest => fun
    | c :: cs => if p c then rest cs else none
    | [] => none
  | .seq a b, rest => a.search (b.search rest)
  | .star a, rest => rounds a.search rest

variable {a b : Pattern} {p : Char → Bool} {rest : Search} {cs found : List Char}

@[simp] theorem search_char_cons {c : Char} :
    (char p).search rest (c :: cs) = if p c then rest cs else none := rfl

@[simp] theorem search_char_nil : (char p).search rest [] = none := rfl

@[simp] theorem search_but_cons {c d : Char} :
    (but c).search rest (d :: cs) = if d != c then rest cs else none := rfl

@[simp] theorem search_seq : (seq a b).search rest = a.search (b.search rest) := rfl

theorem search_star :
    (star a).search rest cs =
      (a.search (fun left => if left.length < cs.length then (star a).search rest left else none)
        cs).or (rest cs) := by
  change rounds a.search rest cs = _
  rw [rounds]
  rfl

/-- A repeated class is read to where the class ends, if the rest succeeds there. -/
theorem search_star_char (h : rest (cs.dropWhile p) = some found) :
    (star (char p)).search rest cs = some found := by
  induction cs with
  | nil =>
    rw [search_star, search_char_nil, Option.none_or]
    exact h
  | cons c cs ih =>
    rw [search_star, search_char_cons]
    by_cases hc : p c
    · rw [List.dropWhile_cons_of_pos hc] at h
      simp [hc, ih h]
    · rw [List.dropWhile_cons_of_neg hc] at h
      simp [hc, h]

/-! ### What a pattern can read -/

/-- The texts that a pattern can read. -/
def Reads : Pattern → List Char → Prop
  | .char p => fun cs => ∃ c, p c ∧ cs = [c]
  | .seq a b => fun cs => ∃ x y, cs = x ++ y ∧ a.Reads x ∧ b.Reads y
  | .star a => fun cs => ∃ parts : List (List Char), cs = parts.flatten ∧ ∀ x ∈ parts, a.Reads x

/-- **A search that succeeds** has read a text of the pattern, and the rest has gone on there. -/
theorem exists_reads_of_search (h : a.search rest cs = some found) :
    ∃ x left, cs = x ++ left ∧ a.Reads x ∧ rest left = some found := by
  induction a generalizing rest cs with
  | char p =>
    cases cs with
    | nil => cases h
    | cons c cs =>
      rw [search_char_cons] at h
      by_cases hc : p c
      · rw [if_pos hc] at h
        exact ⟨[c], cs, rfl, ⟨c, hc, rfl⟩, h⟩
      · rw [if_neg hc] at h
        cases h
  | seq a b iha ihb =>
    obtain ⟨x, middle, rfl, hx, hmiddle⟩ := iha h
    obtain ⟨y, left, rfl, hy, hleft⟩ := ihb hmiddle
    exact ⟨x ++ y, left, (List.append_assoc x y left).symm, ⟨x, y, rfl, hx, hy⟩, hleft⟩
  | star a iha =>
    -- each round shortens the text
    induction hn : cs.length using Nat.strongRecOn generalizing cs with
    | _ n ih =>
      rw [search_star, Option.or_eq_some_iff] at h
      rcases h with h | ⟨-, h⟩
      · obtain ⟨x, middle, hcs, hx, hmiddle⟩ := iha h
        split_ifs at hmiddle with hlt
        obtain ⟨y, left, rfl, ⟨parts, rfl, hparts⟩, hleft⟩ :=
          ih middle.length (hn ▸ hlt) hmiddle rfl
        refine ⟨x ++ parts.flatten, left, by rw [hcs, List.append_assoc], ?_, hleft⟩
        exact ⟨x :: parts, rfl, List.forall_mem_cons.2 ⟨hx, hparts⟩⟩
      · exact ⟨[], cs, rfl, ⟨[], rfl, by simp⟩, h⟩

/-- What ends each round ends a text of one round or more. -/
theorem suffix_of_reads_seq_star {last : List Char} (ha : ∀ x, a.Reads x → last <:+ x)
    (hb : ∀ x, b.Reads x → last <:+ x) (h : (seq a (star b)).Reads cs) : last <:+ cs := by
  obtain ⟨x, y, rfl, hx, parts, rfl, hparts⟩ := h
  rcases List.eq_nil_or_concat parts with rfl | ⟨front, part, rfl⟩
  · simpa using ha x hx
  · have hpart : last <:+ part := hb part (hparts part (by simp))
    refine hpart.trans ⟨x ++ front.flatten, ?_⟩
    simp

/-! ### Deleting -/

/--
The text without what the pattern reads, from left to right; the search goes on behind each
deleted part, and does not look again at what the deletion joins.
-/
def deleteAll (r : Pattern) : List Char → List Char
  | [] => []
  | c :: cs =>
    match r.search some (c :: cs) with
    | some left => if left.length < (c :: cs).length then deleteAll r left else c :: deleteAll r cs
    | none => c :: deleteAll r cs
termination_by cs => cs.length
decreasing_by
  · assumption
  · exact Nat.lt_succ_self cs.length
  · exact Nat.lt_succ_self cs.length

theorem deleteAll_of_search (h : a.search some cs = some found) (hlt : found.length < cs.length) :
    a.deleteAll cs = a.deleteAll found := by
  cases cs with
  | nil => simp at hlt
  | cons c cs =>
    rw [deleteAll, h]
    exact if_pos hlt

theorem deleteAll_cons {c : Char} (h : a.search some (c :: cs) = none) :
    a.deleteAll (c :: cs) = c :: a.deleteAll cs := by
  rw [deleteAll, h]

/-- A text in which the pattern reads nothing keeps its form. -/
theorem deleteAll_eq_self (h : ∀ t, t <:+ cs → a.search some t = none) : a.deleteAll cs = cs := by
  induction cs with
  | nil => rw [deleteAll]
  | cons c cs ih =>
    rw [deleteAll_cons (h _ List.suffix_rfl), ih fun t ht => h t (ht.trans (List.suffix_cons c cs))]

end Pattern

end MediaQuery.Text
