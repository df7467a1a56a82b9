import MediaQuery.Proofs.Session.History
import MediaQuery.Proofs.Text.Parts

/-!
# Joined query lists

Two texts with a comma between them are a query list of the clauses of the first and then those of
the second, whatever the comma stands in. So their trees are joined, the first text at fault is
reported, and a match goes on to the second text only where the first one has answered no.

* `parse_joined` and `matches_append` say so of the parser and the matcher;
* `joined_lists` says so of a session with empty caches.
-/

namespace MediaQuery

open Text

/-- The same error, of a query list of which the text at fault is a part. -/
def SyntaxError.within (e : SyntaxError) (query : String) : SyntaxError := { e with query := query }

namespace QueryList

variable {root : Binary64} {env : Environment}

/-! ### Parsing -/

/-- The whole list is in the error of a clause and nowhere else. -/
theorem ofClauses_eq_mapError (query query' : String) (raws : List (List Char)) :
    ofClauses query' raws = (ofClauses query raws).mapError (·.within query') := by
  induction raws with
  | nil => rfl
  | cons raw raws ih =>
    rw [ofClauses, ofClauses]
    cases Query.readQuery (Query.clauseText raw) with
    | error fault => rfl
    | ok q =>
      simp only [ih]
      cases ofClauses query raws <;> rfl

theorem ofClauses_append (query : String) (raws raws' : List (List Char)) :
    ofClauses query (raws ++ raws') =
      match ofClauses query raws with
      | .error e => .error e
      | .ok ps => (ofClauses query raws').map (ps ++ ·) := by
  induction raws with
  | nil =>
    rw [List.nil_append]
    cases ofClauses query raws' <;> rfl
  | cons raw raws ih =>
    rw [List.cons_append, ofClauses, ofClauses]
    cases Query.readQuery (Query.clauseText raw) with
    | error fault => rfl
    | ok q =>
      simp only [ih]
      cases ofClauses query raws with
      | error e => rfl
      | ok ps => cases ofClauses query raws' <;> rfl

/-- The comma between two texts is a place where the whole is split. -/
theorem splitOn_joined (p q : String) :
    splitOn ',' (p ++ "," ++ q).toList = splitOn ',' p.toList ++ splitOn ',' q.toList := by
  have htext : (p ++ "," ++ q).toList = p.toList ++ ',' :: q.toList := by simp
  rw [splitOn_eq, splitOn_eq, splitOn_eq, htext, List.splitOn_append_cons_self]

/-- **Parsing joined lists**: the joined trees, or the error of the first list that has one. -/
theorem parse_joined (p q : String) :
    parse (p ++ "," ++ q) =
      match parse p, parse q with
      | .error e, _ => .error (e.within (p ++ "," ++ q))
      | .ok _, .error e => .error (e.within (p ++ "," ++ q))
      | .ok ps, .ok qs => .ok (ps ++ qs) := by
  rw [parse, splitOn_joined, ofClauses_append, ofClauses_eq_mapError p (p ++ "," ++ q),
    ofClauses_eq_mapError q (p ++ "," ++ q), parse, parse]
  cases ofClauses p (splitOn ',' p.toList) with
  | error e => rfl
  | ok ps => cases ofClauses q (splitOn ',' q.toList) <;> rfl

/-! ### Matching -/

/-- **Matching joined lists**: the second list is tried where the first one does not match. -/
theorem matches_append (ps qs : QueryList) :
    QueryList.matches root env (ps ++ qs) =
      match QueryList.matches root env ps with
      | .error e => .error e
      | .ok true => .ok true
      | .ok false => QueryList.matches root env qs := by
  induction ps with
  | nil => rfl
  | cons p ps ih =>
    rw [List.cons_append, QueryList.matches, QueryList.matches]
    cases p.matches root env with
    | error e => rfl
    | ok b =>
      cases b with
      | true => rfl
      | false => exact ih

end QueryList

/-! ### Sessions -/

theorem Library.coherent_of_empty {lib : Library} (h : ∀ cache ∈ lib.caches, cache = .empty) :
    lib.Coherent := by
  intro cache hcache entry hentry
  rw [h cache hcache] at hentry
  exact absurd hentry List.not_mem_nil

namespace Session.State

variable {s : State} {p q : String}

theorem plainParse_eq_ok_iff {qs : QueryList} :
    plainParse q = .ok (.inl qs) ↔ QueryList.parse q = .ok qs := by
  unfold plainParse
  cases QueryList.parse q <;> simp

theorem plainParse_eq_error_iff {failure : Failure} :
    plainParse q = .error failure ↔ ∃ e, failure = .grammar e ∧ QueryList.parse q = .error e := by
  unfold plainParse
  cases QueryList.parse q <;> simp [eq_comm]

theorem exists_parse_of_plainParse {answer : QueryList ⊕ Outcome} (h : plainParse q = .ok answer) :
    ∃ qs, QueryList.parse q = .ok qs := by
  unfold plainParse at h
  cases hq : QueryList.parse q with
  | ok qs => exact ⟨qs, rfl⟩
  | error e => simp [hq] at h

/-- Matching joined lists that both parse, without caches. -/
theorem plainMatch_joined {ps qs : QueryList} (hp : QueryList.parse p = .ok ps)
    (hq : QueryList.parse q = .ok qs) (root : Binary64) (env : Environment) :
    plainMatch root (p ++ "," ++ q) env =
      match plainMatch root p env with
      | .error failure => .error failure
      | .ok (.inr (.flag true)) => .ok (.inr (.flag true))
      | .ok _ => plainMatch root q env := by
  have hjoined : QueryList.parse (p ++ "," ++ q) = .ok (ps ++ qs) := by
    rw [QueryList.parse_joined, hp, hq]
  simp only [plainMatch, hp, hq, hjoined, plainMatchTree, QueryList.matches_append]
  cases QueryList.matches root env ps with
  | error e => rfl
  | ok b => cases b <;> rfl

/--
**Query lists compose.** Starting from empty caches, two texts with a comma between them are parsed
to the joined trees; where one of them cannot be parsed, the first error is that of the whole. A
match is decided by the first text if that matches or fails, and else by the second.
-/
theorem joined_lists (hempty : ∀ cache ∈ s.library.caches, cache = .empty) (route : Route)
    (p q : String) :
    let both := p ++ "," ++ q
    (∀ ps qs, s.observe (.parse route p) = .ok (.inl ps) →
      s.observe (.parse route q) = .ok (.inl qs) →
      s.observe (.parse route both) = .ok (.inl (ps ++ qs))) ∧
    (∀ failure, s.observe (.parse route p) = .error failure →
      ∃ e, failure = .grammar e ∧
        s.observe (.parse route both) = .error (.grammar (e.within both))) ∧
    (∀ ps failure, s.observe (.parse route p) = .ok ps →
      s.observe (.parse route q) = .error failure →
      ∃ e, failure = .grammar e ∧
        s.observe (.parse route both) = .error (.grammar (e.within both))) ∧
    ∀ ps qs, s.observe (.parse route p) = .ok ps → s.observe (.parse route q) = .ok qs →
      ∀ env,
        let matched := fun text => s.observe (.matchOnce (.query text) env)
        (matched p = .ok (.inr (.flag true)) → matched both = .ok (.inr (.flag true))) ∧
        (∀ failure, matched p = .error failure → matched both = .error failure) ∧
        (matched p ≠ .ok (.inr (.flag true)) → (∀ failure, matched p ≠ .error failure) →
          matched both = matched q) := by
  intro both
  have hs := Library.coherent_of_empty hempty
  have hboth : QueryList.parse both = _ := QueryList.parse_joined p q
  simp only [observe_parse hs, observe_matchOnce hs]
  refine ⟨?_, ?_, ?_, ?_⟩
  · intro ps qs hp hq
    rw [plainParse_eq_ok_iff] at hp hq ⊢
    rw [hboth, hp, hq]
  · intro failure hp
    obtain ⟨e, rfl, hfault⟩ := plainParse_eq_error_iff.1 hp
    have herror : QueryList.parse both = .error (e.within both) := by rw [hboth, hfault]
    exact ⟨e, rfl, plainParse_eq_error_iff.2 ⟨_, rfl, herror⟩⟩
  · intro ps failure hp hq
    obtain ⟨ps', hp'⟩ := exists_parse_of_plainParse hp
    obtain ⟨e, rfl, hfault⟩ := plainParse_eq_error_iff.1 hq
    have herror : QueryList.parse both = .error (e.within both) := by rw [hboth, hp', hfault]
    exact ⟨e, rfl, plainParse_eq_error_iff.2 ⟨_, rfl, herror⟩⟩
  · intro ps qs hp hq env
    obtain ⟨ps', hp⟩ := exists_parse_of_plainParse hp
    obtain ⟨qs', hq⟩ := exists_parse_of_plainParse hq
    have hmatch := plainMatch_joined hp hq s.roots.current env
    refine ⟨fun h => ?_, fun failure h => ?_, fun hno hok => ?_⟩
    · rw [hmatch, h]
    · rw [hmatch, h]
    · rw [hmatch]
      split
      · rename_i failure h
        exact absurd h (hok failure)
      · rename_i h
        exact absurd h hno
      · rfl

/-- The first text matches, so the second one, which would fail, is not reached. -/
theorem joined_lists_screen :
    let env : Environment :=
      ⟨[("type", .ofString "screen"), ("aspect-ratio", .int (.ofNat (Nat.pow 10 400)))], by decide⟩
    (∀ cache ∈ initial.library.caches, cache = .empty) ∧
    initial.observe (.matchOnce (.query "(aspect-ratio: 1)") env) =
      .error (.measure .integerTooLarge) ∧
    initial.observe (.matchOnce (.query ("screen" ++ "," ++ "(aspect-ratio: 1)")) env) =
      .ok (.inr (.flag true)) := by
  intro env
  have hempty : ∀ cache ∈ initial.library.caches, cache = .empty := by decide
  have hscreen : QueryList.parse "screen" = .ok [⟨"screen", false, []⟩] := by decide +kernel
  have hratio : QueryList.parse "(aspect-ratio: 1)" =
      .ok [⟨"all", false, [⟨"aspect-ratio", none, some "1"⟩]⟩] := by decide +kernel
  have hfails : QueryList.matches initial.roots.current env
      [⟨"all", false, [⟨"aspect-ratio", none, some "1"⟩]⟩] = .error .integerTooLarge := by
    decide +kernel
  have hs : initial.library.Coherent := Library.coherent_initial
  refine ⟨hempty, ?_, ?_⟩
  · rw [observe_matchOnce hs, plainMatch, hratio]
    simp only [plainMatchTree, hfails]
  · have hfirst : initial.observe (.matchOnce (.query "screen") env) = .ok (.inr (.flag true)) := by
      rw [observe_matchOnce hs, plainMatch, hscreen]
      rfl
    have hp := (observe_parse hs (.cache .standard) _).trans (plainParse_eq_ok_iff.2 hscreen)
    have hq := (observe_parse hs (.cache .standard) _).trans (plainParse_eq_ok_iff.2 hratio)
    exact ((joined_lists hempty (.cache .standard) _ _).2.2.2 _ _ hp hq env).1 hfirst

end Session.State

end MediaQuery
