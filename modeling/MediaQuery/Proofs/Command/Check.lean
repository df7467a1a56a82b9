import MediaQuery.Proofs.Command.Runs
import MediaQuery.Proofs.Matching.Mentioned
import MediaQuery.Proofs.Session.History
import MediaQuery.Proofs.Terminal.Markup

/-!
# Matching on the command line

The command that matches a query list against an environment answers what the library answers in a
new process (`check_agrees`). The environment is one of the settings with the assignments of the
command line set over it; the settings are those that the process loaded first, and nothing else of
its past is seen.

* `Assigns` is what an argument assigns, `Overlaid` the environment that is matched;
* `exists_paragraph_message` says that messages can be printed whatever they are about;
* `runCheck_unknown`, `runCheck_unassigned`, `runCheck_unparsed` and `runCheck_matched` are the four
  ways that the command ends (`runCheck_cases`).
-/

namespace MediaQuery

open Command Text Terminal

/-! ### Assignments -/

namespace Command

/-- An argument assigns a value to a feature: they stand on both sides of the first equals sign. -/
def Assigns (arg feature value : String) : Prop :=
  ∃ left right, arg.toList = left ++ '=' :: right ∧ '=' ∉ left ∧ trim left ≠ [] ∧
    feature = String.ofList (lower (trim left)) ∧ value = String.ofList (trim right)

variable {arg feature value : String} {args : List String}

theorem readAssignment?_eq_some_iff :
    readAssignment? arg = some (feature, value) ↔ Assigns arg feature value := by
  constructor
  · intro h
    simp only [readAssignment?] at h
    split at h
    · rename_i c right hdrop
      split_ifs at h with hempty
      cases h
      have hc : ¬ (c != '=') = true := head?_dropWhile (· != '=') arg.toList c (by rw [hdrop]; rfl)
      obtain rfl : c = '=' := by simpa using hc
      refine ⟨arg.toList.takeWhile (· != '='), right, ?_, ?_, ?_, rfl, rfl⟩
      · rw [← hdrop, List.takeWhile_append_dropWhile]
      · intro hmem
        have hne := mem_takeWhile hmem
        simp at hne
      · simpa using hempty
    · cases h
  · rintro ⟨left, right, harg, hleft, htrim, rfl, rfl⟩
    have hne : ∀ c ∈ left, (c != '=') = true := by
      intro c hc
      rw [bne_iff_ne]
      rintro rfl
      exact hleft hc
    have htake : arg.toList.takeWhile (· != '=') = left := by
      rw [harg]
      exact takeWhile_append_stop hne (by simp)
    have hdrop : arg.toList.dropWhile (· != '=') = '=' :: right := by
      rw [harg]
      exact dropWhile_append_stop hne (by simp)
    have hempty : ¬ (trim left).isEmpty := by simpa using htrim
    simp only [readAssignment?, htake, hdrop, if_neg hempty]

theorem readAssignments?_eq_some_iff {pairs : List (String × String)} :
    readAssignments? args = some pairs ↔
      List.Forall₂ (fun arg pair => Assigns arg pair.1 pair.2) args pairs := by
  induction args generalizing pairs with
  | nil => cases pairs <;> simp [readAssignments?]
  | cons arg args ih =>
    rw [readAssignments?]
    constructor
    · intro h
      split at h
      · rename_i pair hpair
        obtain ⟨rest, hrest, rfl⟩ := Option.map_eq_some_iff.1 h
        exact .cons (readAssignment?_eq_some_iff.1 hpair) (ih.1 hrest)
      · cases h
    · rintro (_ | ⟨hpair, hrest⟩)
      rw [readAssignment?_eq_some_iff.2 hpair, ih.2 hrest]
      rfl

theorem readAssignments?_eq_none_iff :
    readAssignments? args = none ↔ ∃ arg ∈ args, ∀ feature value, ¬ Assigns arg feature value := by
  have hnone (arg : String) :
      readAssignment? arg = none ↔ ∀ feature value, ¬ Assigns arg feature value := by
    rw [Option.eq_none_iff_forall_ne_some]
    simp only [ne_eq, Prod.forall, readAssignment?_eq_some_iff]
  simp only [← hnone]
  induction args with
  | nil => simp [readAssignments?]
  | cons arg args ih =>
    rw [readAssignments?]
    simp only [List.mem_cons, exists_eq_or_imp]
    cases readAssignment? arg with
    | none => simp
    | some pair => simpa using ih

end Command

/-! ### Messages -/

theorem exists_paragraph {s : String}
    (h : ∃ shown, showPieces 0 [] [] (pieces s.toList) = .ok shown) :
    ∃ text, paragraph s = .ok text := by
  obtain ⟨shown, hshown⟩ := h
  rw [paragraph, shownText]
  by_cases hbracket : s.toList.contains '['
  · simp only [if_pos hbracket, hshown]
    exact ⟨_, rfl⟩
  · simp only [if_neg hbracket]
    exact ⟨_, rfl⟩

/-- A red message can be printed, whatever text was escaped in it. -/
theorem exists_paragraph_message (start : String)
    (hstart : ∀ c ∈ start.toList, c ≠ '[' ∧ c ≠ '\\') (s : String) :
    ∃ text, paragraph (message "red" (start ++ escapeMarkup s)) = .ok text := by
  have hred : TagText ['r', 'e', 'd'] := ⟨'r', ['e', 'd'], rfl, by decide, by decide⟩
  have htext : (message "red" (start ++ escapeMarkup s)).toList =
      '[' :: (['r', 'e', 'd'] ++ ']' :: (start.toList ++ guardEnd (escaped s.toList) ++
        '[' :: ('/' :: ['r', 'e', 'd'] ++ [']']))) := by
    simp [message, escapeMarkup, escaped, String.toList_append]
  apply exists_paragraph
  rw [htext]
  exact exists_showPieces_coloured hred (by decide) hstart s.toList

/-- A line in front of escaped text can be printed. -/
theorem exists_paragraph_escaped (start : String)
    (hstart : ∀ c ∈ start.toList, c ≠ '[' ∧ c ≠ '\\') (s : String) :
    ∃ text, paragraph (start ++ escapeMarkup s) = .ok text := by
  have htext : (start ++ escapeMarkup s).toList = start.toList ++ guardEnd (escaped s.toList) := by
    simp [escapeMarkup, escaped, String.toList_append]
  apply exists_paragraph
  rw [htext]
  exact exists_showPieces_escaped hstart s.toList

theorem paragraph_match : paragraph (message "green" "match") = .ok "match\n" := by
  decide +kernel

theorem paragraph_noMatch : paragraph (message "yellow" "no match") = .ok "no match\n" := by
  decide +kernel

/-! ### Ways to end -/

namespace Application

variable {app : Application} {known : Option Settings} {s : Settings} {name : Option String}
  {query : String} {assignments : List String} {env : Environment} {values : List (String × String)}
  {qs : QueryList}

/-- A run that is refused with a message. -/
def Refused (r : RunResult) : Prop := r.code = 2 ∧ r.error = none

/-- What a run gives that comes to an answer. -/
def answered : Except MeasureError Bool → RunResult
  | .ok true => { code := 0, printed := "match\n" }
  | .ok false => { code := 1, printed := "no match\n" }
  | .error e => .stopped (.measure e)

theorem refused_rejected (e : SyntaxError) (records : List Log.Delivery) :
    Refused ((rejected e).after records) := by
  obtain ⟨text, htext⟩ := exists_paragraph_message "" (by simp) e.message
  rw [String.empty_append] at htext
  rw [rejected, htext]
  exact ⟨rfl, rfl⟩

/-- The environment is not configured. -/
theorem runCheck_unknown (h : baseEnvironment s name = none) :
    Refused (app.runCheck s query name assignments).1 := by
  obtain ⟨first, hfirst⟩ := exists_paragraph_message "Unknown environment: "
    (by decide +kernel) (name.getD "")
  obtain ⟨second, hsecond⟩ := exists_paragraph_escaped "Available environments: "
    (by decide +kernel) (availableNames s)
  have hboth : paragraphs [message "red" ("Unknown environment: " ++ escapeMarkup (name.getD "")),
      "Available environments: " ++ escapeMarkup (availableNames s)] =
      .ok (String.join [first, second]) := by
    rw [paragraphs, List.mapM_cons, hfirst, List.mapM_cons, hsecond]
    rfl
  simp only [runCheck, h, hboth]
  exact ⟨rfl, rfl⟩

/-- An argument assigns nothing. -/
theorem runCheck_unassigned (h : baseEnvironment s name = some env)
    (hassignments : readAssignments? assignments = none) :
    Refused (app.runCheck s query name assignments).1 := by
  simp only [runCheck, h, hassignments]
  exact ⟨rfl, rfl⟩

/-- The text is no query list. -/
theorem runCheck_unparsed (hknows : app.Knows known) (h : baseEnvironment s name = some env)
    (hassignments : readAssignments? assignments = some values) {e : SyntaxError}
    (hquery : QueryList.parse query = .error e) :
    Refused (app.runCheck s query name assignments).1 := by
  obtain ⟨records, app', hparse, -, -⟩ := hknows.parse query
  simp only [runCheck, h, hassignments, hparse, hquery]
  exact refused_rejected e records

/-- A query list is matched against the environment with the values set over it. -/
theorem runCheck_matched (hknows : app.Knows known) (h : baseEnvironment s name = some env)
    (hassignments : readAssignments? assignments = some values)
    (hquery : QueryList.parse query = .ok qs) :
    ∃ records, (app.runCheck s query name assignments).1 =
      (answered (qs.matches app.session.roots.current (withAssignments env values))).after
        records := by
  obtain ⟨records, app', hparse, -, hroots⟩ := hknows.parse query
  refine ⟨records, ?_⟩
  simp only [runCheck, h, hassignments, hparse, hquery, hroots]
  rcases qs.matches app.session.roots.current (withAssignments env values) with e | b
  · rfl
  · cases b
    · simp only [paragraph_noMatch]
      rfl
    · simp only [paragraph_match]
      rfl

/-- **How the command can end**: it is refused for one of three reasons, or the query list is
matched. -/
theorem runCheck_cases (hknows : app.Knows known) :
    (Refused (app.runCheck s query name assignments).1 ∧
      (baseEnvironment s name = none ∨ readAssignments? assignments = none ∨
        ∃ e, QueryList.parse query = .error e)) ∨
    ∃ base values qs records, baseEnvironment s name = some base ∧
      readAssignments? assignments = some values ∧ QueryList.parse query = .ok qs ∧
      (app.runCheck s query name assignments).1 =
        (answered (qs.matches app.session.roots.current (withAssignments base values))).after
          records := by
  cases hbase : baseEnvironment s name with
  | none => exact .inl ⟨runCheck_unknown hbase, .inl rfl⟩
  | some base =>
    cases hvalues : readAssignments? assignments with
    | none => exact .inl ⟨runCheck_unassigned hbase hvalues, .inr (.inl rfl)⟩
    | some values =>
      cases hquery : QueryList.parse query with
      | error e => exact .inl ⟨runCheck_unparsed hknows hbase hvalues hquery, .inr (.inr ⟨e, rfl⟩)⟩
      | ok qs =>
        obtain ⟨records, hmatched⟩ := runCheck_matched hknows hbase hvalues hquery
        exact .inr ⟨base, values, qs, records, rfl, rfl, rfl, hmatched⟩

/-- **A run of the command** works with the settings that the process has or loads. -/
theorem run_check (hknows : app.Knows known) {run : Invocation} {config : String}
    (hrequest : readRequest run.args = some (.check query name assignments config))
    (hs : known.or run.loads? = some s) :
    ∃ app' : Application, app'.Knows (some s) ∧ app'.session.roots.current = s.units.rootFontSize ∧
      (app.invoke run).1 = (app'.runCheck s query name assignments).1 := by
  rw [Invocation.loads?, hrequest] at hs
  simp only [invoke, Application.run, hrequest, runPrepared]
  rcases hknows.prepare run.around config run.read with
    ⟨e, -, rfl, hload⟩ | ⟨s', app', hprepare, happ', hroots, hs'⟩
  · simp [Request.config?, hload, Except.toOption] at hs
  · have hsame : some s' = some s := by
      rw [← hs', ← hs]
      rfl
    cases hsame
    exact ⟨app', happ', hroots, by rw [hprepare]⟩

/-! ### The library -/

theorem baseEnvironment_eq_none_iff :
    baseEnvironment s name = none ↔ ∃ n, name = some n ∧ s.environment? n = none := by
  cases name <;> simp [baseEnvironment]

/-- An environment of some settings, or none, with the values of assignments set over it: of several
for a feature the last one counts. -/
def Overlaid (s : Settings) (name : Option String) (assignments : List String) (env : Environment) :
    Prop :=
  ∃ base pairs, baseEnvironment s name = some base ∧
    List.Forall₂ (fun arg pair => Assigns arg pair.1 pair.2) assignments pairs ∧
    ∀ feature, env.get? feature =
      ((pairs.reverse.lookup feature).map Value.ofString).or (base.get? feature)

theorem get?_withAssignments (env : Environment) (pairs : List (String × String))
    (feature : String) : (withAssignments env pairs).get? feature =
      ((pairs.reverse.lookup feature).map Value.ofString).or (env.get? feature) := by
  rw [withAssignments, Dict.get?_setAll, ← List.map_reverse, lookup_map]

/-- Environments with the same values give the same answer. -/
theorem matches_of_get?_eq {env' : Environment}
    (h : ∀ feature, env.get? feature = env'.get? feature) (root : Binary64) (qs : QueryList) :
    qs.matches root env = qs.matches root env' := by
  apply QueryList.matches_congr
  · intro q _
    rw [Query.typeMatches, Query.typeMatches, h]
  · intro q _ t _
    exact FeatureTest.matches_congr (.inl (h t.feature))

/-- A match in a new process with a root font size. -/
theorem observe_newWith {root : Binary64} (hroot : Binary64.zero.lt root)
    (hquery : QueryList.parse query = .ok qs) (env : Environment) :
    (Session.State.newWith root).observe (.matchOnce (.query query) env) =
      Session.plainMatchTree root qs env := by
  rw [Session.State.newWith_eq hroot, Session.State.observe_matchOnce Library.coherent_initial,
    Session.plainMatch, hquery]

/-- What an answer says of the code, the error and the output of a run. -/
theorem answered_iff (answer : Except MeasureError Bool) (records : List Log.Delivery) :
    let r := (answered answer).after records
    r.code ≠ 2 ∧
      (r.code = 0 ∧ r.error = none ∧ r.printed = "match\n" ↔ answer = .ok true) ∧
      (r.code = 1 ∧ r.error = none ∧ r.printed = "no match\n" ↔ answer = .ok false) ∧
      ∀ e, r.code = 1 ∧ r.error = some e ↔
        ∃ reason, e = .measure reason ∧ answer = .error reason := by
  rcases answer with reason | b
  · simp [answered, RunResult.after, RunResult.stopped]
    exact fun e => eq_comm
  · cases b <;> simp [answered, RunResult.after]

/-- **The command agrees with the library**, whatever the runs find around them and whatever reads
their files. -/
theorem check_agrees {runs : List Invocation} {run : Invocation} {config : String}
    (hrequest : readRequest run.args = some (.check query name assignments config))
    (hs : firstSettings? (runs ++ [run]) = some s) :
    let result := ((initial.afterRuns runs).invoke run).1
    (result.code = 2 ↔ (∃ n, name = some n ∧ s.environment? n = none) ∨
      (∃ arg ∈ assignments, ∀ feature value, ¬ Assigns arg feature value) ∨
      ∃ e, QueryList.parse query = .error e) ∧
    (result.code = 2 → result.error = none) ∧
    (result.code ≠ 2 → ∃ env, Overlaid s name assignments env) ∧
    ∀ env, Overlaid s name assignments env → (∃ qs, QueryList.parse query = .ok qs) →
      let answer := (Session.State.newWith s.units.rootFontSize).observe
        (.matchOnce (.query query) env)
      (result.code = 0 ∧ result.error = none ∧ result.printed = "match\n" ↔
        answer = .ok (.inr (.flag true))) ∧
      (result.code = 1 ∧ result.error = none ∧ result.printed = "no match\n" ↔
        answer = .ok (.inr (.flag false))) ∧
      ∀ e, result.code = 1 ∧ result.error = some e ↔
        ∃ reason, e = .measure reason ∧ answer = .error (.measure reason) := by
  intro result
  rw [firstSettings?_append] at hs
  obtain ⟨app, hknows, hroots, hresult⟩ := run_check (knows_afterRuns runs) hrequest hs
  have hresult : result = (app.runCheck s query name assignments).1 := hresult
  rw [← baseEnvironment_eq_none_iff, ← readAssignments?_eq_none_iff]
  rcases runCheck_cases hknows with ⟨hrefused, hreason⟩ |
    ⟨base, values, qs, records, hbase, hvalues, hquery, hmatched⟩
  · rw [← hresult] at hrefused
    refine ⟨iff_of_true hrefused.1 hreason, fun _ => hrefused.2, fun h => absurd hrefused.1 h, ?_⟩
    -- each reason leaves nothing to match
    rintro env ⟨base, pairs, hbase, hpairs, -⟩ ⟨qs, hquery⟩
    rw [hbase, readAssignments?_eq_some_iff.2 hpairs, hquery] at hreason
    simp at hreason
  · rw [← hresult, hroots] at hmatched
    obtain ⟨hcode, htrue, hfalse, herror⟩ := answered_iff
      (qs.matches s.units.rootFontSize (withAssignments base values)) records
    rw [← hmatched] at hcode htrue hfalse herror
    have hoverlaid : Overlaid s name assignments (withAssignments base values) :=
      ⟨base, values, hbase, readAssignments?_eq_some_iff.1 hvalues,
        get?_withAssignments base values⟩
    refine ⟨iff_of_false hcode (by simp [hbase, hvalues, hquery]), fun h => absurd h hcode,
      fun _ => ⟨_, hoverlaid⟩, ?_⟩
    rintro env ⟨base', pairs, hbase', hpairs, hget⟩ -
    rw [hbase] at hbase'
    cases hbase'
    obtain rfl : values = pairs := by
      rw [readAssignments?_eq_some_iff.2 hpairs] at hvalues
      exact (Option.some.inj hvalues).symm
    have hsame : qs.matches s.units.rootFontSize env =
        qs.matches s.units.rootFontSize (withAssignments base values) := by
      apply matches_of_get?_eq
      intro feature
      rw [hget, get?_withAssignments]
    have hanswer := observe_newWith (hknows.positive s rfl) hquery env
    rw [Session.plainMatchTree, hsame] at hanswer
    simp only [hanswer, htrue, hfalse, herror]
    cases qs.matches s.units.rootFontSize (withAssignments base values) with
    | error reason => simp
    | ok b => cases b <;> simp

/-- The settings of a process without files and variables stay when a later run names a file in
which the root font size is another one. -/
theorem check_agrees_wide :
    let first : Invocation := ⟨⟨[], []⟩, Yaml.read, ["envs"]⟩
    let run : Invocation := ⟨⟨[("other.yaml", "units:\n  root_font_size: 10\n")], []⟩, Yaml.read,
      ["match", "(max-width: 40em)", "-s", "width=1px", "--set", " Width = 640px ",
        "-c", "other.yaml"]⟩
    let result := ((initial.afterRuns [first]).invoke run).1
    firstSettings? ([first] ++ [run]) = some ⟨.default, {}, []⟩ ∧
      result.code = 0 ∧ result.error = none ∧ result.printed = "match\n" := by
  intro first run result
  have hrequest : readRequest run.args =
      some (.check "(max-width: 40em)" none ["width=1px", " Width = 640px "] "other.yaml") := by
    decide +kernel
  have hload : Settings.load [] [] (some "mediamatch.yaml") Yaml.read =
      .ok ⟨.default, {}, []⟩ := rfl
  have hfirst : readRequest ["envs"] = some (.envs "mediamatch.yaml") := by decide +kernel
  have hs : firstSettings? ([first] ++ [run]) = some ⟨.default, {}, []⟩ := by
    simp [firstSettings?, first, Invocation.loads?, hfirst, Request.config?, hload, Except.toOption]
  have hpairs : readAssignments? ["width=1px", " Width = 640px "] =
      some [("width", "1px"), ("width", "640px")] := by
    decide +kernel
  have hquery : QueryList.parse "(max-width: 40em)" =
      .ok [⟨"all", false, [⟨"width", some .max, some "40em"⟩]⟩] := by
    decide +kernel
  let env := withAssignments .empty [("width", "1px"), ("width", "640px")]
  have henv : Overlaid ⟨.default, {}, []⟩ none ["width=1px", " Width = 640px "] env :=
    ⟨.empty, _, rfl, readAssignments?_eq_some_iff.1 hpairs, get?_withAssignments .empty _⟩
  have hanswer := observe_newWith UnitSettings.positive_default hquery env
  have hmatches : QueryList.matches UnitSettings.default.rootFontSize env
      [⟨"all", false, [⟨"width", some .max, some "40em"⟩]⟩] = .ok true := by
    decide +kernel
  rw [Session.plainMatchTree, hmatches] at hanswer
  obtain ⟨-, -, -, hagrees⟩ := check_agrees hrequest hs
  exact ⟨hs, (hagrees env henv ⟨_, hquery⟩).1.2 hanswer⟩

end Application

end MediaQuery
