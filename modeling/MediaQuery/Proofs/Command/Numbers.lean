import MediaQuery.Proofs.Command.Check
import MediaQuery.Proofs.Matching.Numbers

/-!
# Integers that are configured or assigned

An assignment gives a feature a text, a configuration file may give it an integer. Both are matched
alike (`integer_or_text`), so a run with `--set` and a run with the integer configured say the same.
-/

namespace MediaQuery.Application

open Command Binary64

variable {n : Int} {f query : String} {name name' : Option String} {config config' : String}
  {runs runs' : List Invocation} {run run' : Invocation} {assignments : List String}
  {s s' : Settings} {base base' : Environment}

/-- An assignment in front of others over one environment, and only the others over an environment
with the integer: a feature has the same value, or the text in one and the integer in the other. -/
theorem sameOrText_withAssignments
    (hbase : ∀ g, base'.get? g = if g = f then some (.int n) else base.get? g)
    (pairs : List (String × String)) (g : String) :
    SameOrText n ((withAssignments base' pairs).get? g)
      ((withAssignments base ((f, toString n) :: pairs)).get? g) := by
  rw [get?_withAssignments, get?_withAssignments, List.reverse_cons, List.lookup_append, hbase]
  cases pairs.reverse.lookup g with
  | some text => exact .inl rfl
  | none =>
    rw [lookup_cons_eq]
    split_ifs
    · exact .inr ⟨rfl, rfl⟩
    · exact .inl rfl

/-- What a run of the command comes to, for a query list and a configured environment. -/
def outcome (root : Binary64) (qs : QueryList) (base : Environment) (assignments : List String) :
    RunResult :=
  match readAssignments? assignments with
  | none => .misused
  | some pairs => answered (qs.matches root (withAssignments base pairs))

theorem run_outcome {qs : QueryList}
    (hrequest : readRequest run.args = some (.check query name assignments config))
    (hs : firstSettings? (runs ++ [run]) = some s) (hbase : baseEnvironment s name = some base)
    (hquery : QueryList.parse query = .ok qs) :
    ∃ records, ((initial.afterRuns runs).invoke run).1 =
      (outcome s.units.rootFontSize qs base assignments).after records := by
  rw [firstSettings?_append] at hs
  obtain ⟨app, hknows, hroots, hresult⟩ := run_check (knows_afterRuns runs) hrequest hs
  rw [hresult, outcome]
  cases hpairs : readAssignments? assignments with
  | none =>
    refine ⟨[], ?_⟩
    simp only [runCheck, hbase, hpairs]
    rfl
  | some pairs =>
    obtain ⟨records, hmatched⟩ := runCheck_matched hknows hbase hpairs hquery
    exact ⟨records, by rw [hmatched, hroots]⟩

/--
**An integer and its text are interchangeable** in an environment, if the integer has a number; so
assigning the text on the command line and configuring the integer give runs that end alike.
-/
theorem integer_or_text (hn : ofInt? n ≠ none) {qs : QueryList}
    (hquery : QueryList.parse query = .ok qs) (f : String) :
    (∀ (root : Binary64) (env : Environment),
      qs.matches root (env.set f (.int n)) = qs.matches root (env.set f (.ofString (toString n)))) ∧
    ∀ {arg : String}, Assigns arg f (toString n) →
      readRequest run.args = some (.check query name (arg :: assignments) config) →
      readRequest run'.args = some (.check query name' assignments config') →
      firstSettings? (runs ++ [run]) = some s → firstSettings? (runs' ++ [run']) = some s' →
      s.units.rootFontSize = s'.units.rootFontSize →
      baseEnvironment s name = some base → baseEnvironment s' name' = some base' →
      (∀ g, base'.get? g = if g = f then some (.int n) else base.get? g) →
      let result := ((initial.afterRuns runs).invoke run).1
      let result' := ((initial.afterRuns runs').invoke run').1
      result.code = result'.code ∧ result.printed = result'.printed ∧
        result.error = result'.error := by
  obtain ⟨x, hx⟩ := Option.ne_none_iff_exists'.1 hn
  refine ⟨fun root env => ?_,
    fun {arg} harg hrequest hrequest' hs hs' hroot hbase hbase' hget => ?_⟩
  · refine QueryList.matches_of_sameOrText hquery hx fun g => ?_
    rw [Dict.get?_set, Dict.get?_set]
    split_ifs
    · exact .inr ⟨rfl, rfl⟩
    · exact .inl rfl
  · have hsame : outcome s.units.rootFontSize qs base (arg :: assignments) =
        outcome s'.units.rootFontSize qs base' assignments := by
      rw [outcome, outcome, readAssignments?, readAssignment?_eq_some_iff.2 harg, hroot]
      cases readAssignments? assignments with
      | none => rfl
      | some pairs =>
        have hmatches : qs.matches s'.units.rootFontSize (withAssignments base' pairs) =
            qs.matches s'.units.rootFontSize (withAssignments base ((f, toString n) :: pairs)) :=
          QueryList.matches_of_sameOrText hquery hx (sameOrText_withAssignments hget pairs)
        simp only [Option.map_some, hmatches]
    obtain ⟨records, hresult⟩ := run_outcome hrequest hs hbase hquery
    obtain ⟨records', hresult'⟩ := run_outcome hrequest' hs' hbase' hquery
    simp only [hresult, hresult', hsame]
    exact ⟨rfl, rfl, rfl⟩

/-- A file with a width. -/
def widthFiles : Files := [("mediamatch.yaml", "environments:\n  desk:\n    width: 5\n")]

/-- The integer that a value is, if it is one. -/
def integer? : Value → Option Int
  | .int i => some i
  | _ => none

/-- The file is read as an environment with an integer. -/
theorem exists_width_environment :
    ∃ s base, Settings.load widthFiles [] (some "mediamatch.yaml") Yaml.read = .ok s ∧
      s.units.rootFontSize = UnitSettings.default.rootFontSize ∧
      baseEnvironment s (some "desk") = some base ∧
      ∀ g, base.get? g = if g = "width" then some (.int 5) else none := by
  have hshown :
      ((Settings.load widthFiles [] (some "mediamatch.yaml") Yaml.read).toOption.map fun s =>
        (s.units.rootFontSize, (s.environment? "desk").map fun r =>
          r.toEnvironment.pairs.map fun e => (e.1, integer? e.2))) =
      some (UnitSettings.default.rootFontSize, some [("width", some 5)]) := by
    decide +kernel
  cases hload : Settings.load widthFiles [] (some "mediamatch.yaml") Yaml.read with
  | error e =>
    rw [hload] at hshown
    cases hshown
  | ok s =>
    rw [hload] at hshown
    simp only [Except.toOption, Option.map_some, Option.some.injEq, Prod.mk.injEq,
      Option.map_eq_some_iff, List.map_eq_singleton_iff] at hshown
    obtain ⟨hroot, r, hr, ⟨name, v⟩, henv, hname, hvalue⟩ := hshown
    dsimp only at hname hvalue
    subst hname
    unfold integer? at hvalue
    split at hvalue
    · rename_i i
      cases hvalue
      refine ⟨s, r.toEnvironment, rfl, hroot, by rw [baseEnvironment, hr]; rfl, fun g => ?_⟩
      rw [Dict.get?, henv, lookup_cons_eq]
      rfl
    · cases hvalue

/-- A width on the command line, and the same width in a file. -/
theorem integer_or_text_five :
    let query := "(width: 5px)"
    let qs : QueryList := [⟨"all", false, [⟨"width", none, some "5px"⟩]⟩]
    let run : Invocation := ⟨⟨[], []⟩, Yaml.read, ["match", query, "--set", "width=5"]⟩
    let run' : Invocation := ⟨⟨widthFiles, []⟩, Yaml.read, ["match", query, "-e", "desk"]⟩
    let result := ((initial.afterRuns []).invoke run).1
    let result' := ((initial.afterRuns []).invoke run').1
    ofInt? 5 ≠ none ∧ QueryList.parse query = .ok qs ∧
      qs.matches (Measure.ofNat 16) (Dict.empty.set "width" (.int 5)) =
        qs.matches (Measure.ofNat 16) (Dict.empty.set "width" (.ofString (toString (5 : Int)))) ∧
      result.code = result'.code ∧ result.printed = result'.printed ∧
      result.error = result'.error := by
  intro query qs run run' result result'
  have hn : ofInt? 5 ≠ none := by decide +kernel
  have hquery : QueryList.parse query = .ok qs := by decide +kernel
  have hrequest : readRequest run.args =
      some (.check query none ["width=5"] "mediamatch.yaml") := by
    decide +kernel
  have hrequest' : readRequest run'.args =
      some (.check query (some "desk") [] "mediamatch.yaml") := by
    decide +kernel
  have hload : Settings.load [] [] (some "mediamatch.yaml") Yaml.read =
      .ok ⟨.default, {}, []⟩ := rfl
  obtain ⟨s', base', hload', hroot, hbase', hget⟩ := exists_width_environment
  have hs : firstSettings? ([] ++ [run]) = some ⟨.default, {}, []⟩ := by
    simp [firstSettings?, Invocation.loads?, hrequest, Request.config?, hload, Except.toOption,
      run]
  have hs' : firstSettings? ([] ++ [run']) = some s' := by
    simp [firstSettings?, Invocation.loads?, hrequest', Request.config?, hload', Except.toOption,
      run']
  have hassigns : Assigns "width=5" "width" (toString (5 : Int)) :=
    readAssignment?_eq_some_iff.1 (by decide +kernel)
  obtain ⟨hmatch, hruns⟩ := integer_or_text hn hquery "width"
  exact ⟨hn, hquery, hmatch (Measure.ofNat 16) .empty,
    hruns hassigns hrequest hrequest' hs hs' hroot.symm rfl hbase' hget⟩

end MediaQuery.Application
