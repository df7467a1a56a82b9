import MediaQuery.Settings.Holder
import Mathlib.Data.List.Induction

/-!
# Asking for settings again and again

A run of calls for the settings of a process, between which files and variables change in any way.
Nothing is assumed of the readers of the files, so that a load can fail or give any settings. What a
call does is decided by the calls before it (`Loads`): it loads if it is told to or if no load has
succeeded, and else it answers the settings of the last load that did (`Keeps`). Each load that
succeeds gets a number of its own, and a load that fails leaves everything as it was:
`settings_of_run`.
-/

namespace MediaQuery.SettingsHolder

/-- A call for the settings, with the reader, the files and the variables of its moment. The file at
`path` is loaded, if one is given, and the settings are loaded anew if `reload` holds. -/
structure Call where
  read : Yaml.Reader
  files : Files
  vars : Variables
  path : Option String
  reload : Bool

/-- What a load gives at the moment of a call. -/
def Call.loaded (c : Call) : Except SettingsError Settings :=
  Settings.load c.files c.vars c.path c.read

/-- What a call answers: settings with their number, or an error. -/
def answer (h : SettingsHolder) (c : Call) : Except SettingsError (Nat × Settings) :=
  (h.get c.files c.vars c.path c.reload c.read).1

/-- The holder after a call. -/
def next (h : SettingsHolder) (c : Call) : SettingsHolder :=
  (h.get c.files c.vars c.path c.reload c.read).2

/-- The holder after some calls. -/
def after (h : SettingsHolder) (calls : List Call) : SettingsHolder := calls.foldl next h

/-- No load has succeeded: the calls all load, and none of them can. -/
def NoneLoaded (calls : List Call) : Prop := ∀ c ∈ calls, ∃ e, c.loaded = .error e

/-- A call loads after some others if it is told to, or if no load has succeeded. -/
def Loads (before : List Call) (c : Call) : Prop := c.reload = true ∨ NoneLoaded before

/-- No reload has succeeded. -/
def NoneReloaded (calls : List Call) : Prop :=
  ∀ c ∈ calls, c.reload = true → ∃ e, c.loaded = .error e

variable {h : SettingsHolder} {c : Call} {before calls : List Call} {n : Nat} {s : Settings}
  {kept : Nat × Settings}

/-! ### A call -/

theorem get_of_loads (hloads : h.loads c.reload = true) :
    h.get c.files c.vars c.path c.reload c.read =
      match c.loaded with
      | .ok s => (.ok (h.nextNumber, s), ⟨some (h.nextNumber, s)⟩)
      | .error e => (.error e, h) := by
  unfold get
  split
  case h_1 kept hkept hreload =>
    rw [loads, hkept, hreload] at hloads
    cases hloads
  case h_2 => rfl

theorem get_of_kept (hkept : h.kept = some kept) (hreload : c.reload = false) :
    h.get c.files c.vars c.path c.reload c.read = (.ok kept, h) := by
  simp only [get, hkept, hreload]

theorem call_of_ok (hloads : h.loads c.reload = true) (hs : c.loaded = .ok s) :
    h.answer c = .ok (h.nextNumber, s) ∧ h.next c = ⟨some (h.nextNumber, s)⟩ := by
  rw [answer, next, get_of_loads hloads, hs]
  exact ⟨rfl, rfl⟩

theorem call_of_error {e : SettingsError} (hloads : h.loads c.reload = true)
    (he : c.loaded = .error e) : h.answer c = .error e ∧ h.next c = h := by
  rw [answer, next, get_of_loads hloads, he]
  exact ⟨rfl, rfl⟩

theorem call_of_kept (hkept : h.kept = some kept) (hreload : c.reload = false) :
    h.answer c = .ok kept ∧ h.next c = h := by
  rw [answer, next, get_of_kept hkept hreload]
  exact ⟨rfl, rfl⟩

/-- A call that does not load finds settings that are kept. -/
theorem exists_kept (hloads : h.loads c.reload = false) :
    ∃ kept, h.kept = some kept ∧ c.reload = false := by
  obtain ⟨hkept, hreload⟩ := Bool.or_eq_false_iff.1 hloads
  obtain ⟨kept, hkept⟩ := Option.isSome_iff_exists.1 (Option.isNone_eq_false_iff.1 hkept)
  exact ⟨kept, hkept, hreload⟩

/-- **What a call can do**: load and keep what was loaded, fail to load and change nothing, or
answer what is kept. -/
theorem call_cases (h : SettingsHolder) (c : Call) :
    (h.loads c.reload = true ∧ ∃ s, c.loaded = .ok s ∧ h.answer c = .ok (h.nextNumber, s) ∧
      h.next c = ⟨some (h.nextNumber, s)⟩) ∨
    (h.loads c.reload = true ∧ ∃ e, c.loaded = .error e ∧ h.answer c = .error e ∧ h.next c = h) ∨
    (h.loads c.reload = false ∧ ∃ kept, h.kept = some kept ∧ c.reload = false ∧
      h.answer c = .ok kept ∧ h.next c = h) := by
  cases hloads : h.loads c.reload with
  | true =>
    cases hload : c.loaded with
    | ok s => exact .inl ⟨rfl, s, rfl, call_of_ok hloads hload⟩
    | error e => exact .inr (.inl ⟨rfl, e, rfl, call_of_error hloads hload⟩)
  | false =>
    obtain ⟨kept, hkept, hreload⟩ := exists_kept hloads
    exact .inr (.inr ⟨rfl, kept, hkept, hreload, call_of_kept hkept hreload⟩)

theorem next_of_error {e : SettingsError} (hload : c.loaded = .error e) : h.next c = h := by
  rcases call_cases h c with ⟨-, s, hs, -⟩ | ⟨-, -, -, -, hnext⟩ | ⟨-, -, -, -, -, hnext⟩
  · rw [hload] at hs
    cases hs
  · exact hnext
  · exact hnext

/-! ### Runs -/

theorem after_append (h : SettingsHolder) (calls later : List Call) :
    h.after (calls ++ later) = (h.after calls).after later :=
  List.foldl_append

theorem after_concat (h : SettingsHolder) (calls : List Call) (c : Call) :
    h.after (calls ++ [c]) = (h.after calls).next c := by
  rw [after_append]
  rfl

/-- Settings are kept until a reload succeeds. -/
theorem kept_after (hkept : h.kept = some kept) (hcalls : NoneReloaded calls) :
    (h.after calls).kept = some kept := by
  induction calls using List.reverseRecOn with
  | nil => exact hkept
  | append_singleton calls c ih =>
    obtain ⟨hcalls, hc⟩ := List.forall_mem_append.1 hcalls
    have hkept' := ih hcalls
    rw [after_concat]
    cases hreload : c.reload with
    | false => rw [(call_of_kept hkept' hreload).2, hkept']
    | true =>
      obtain ⟨e, he⟩ := hc c (List.mem_singleton_self c) hreload
      rw [next_of_error he, hkept']

/-- What a holder keeps after some calls: nothing if no load has succeeded, and else the answer to
the last call that loaded settings. -/
inductive Keeps (before : List Call) : Option (Nat × Settings) → Prop
  | nothing : NoneLoaded before → Keeps before none
  | settings {calls later : List Call} {c : Call} {n : Nat} {s : Settings} :
      before = calls ++ c :: later → Loads calls c → c.loaded = .ok s →
      (empty.after calls).answer c = .ok (n, s) → NoneReloaded later →
      Keeps before (some (n, s))

theorem Keeps.eq_none_iff (hkeeps : Keeps before h.kept) : h.kept = none ↔ NoneLoaded before := by
  generalize h.kept = kept at hkeeps
  cases hkeeps with
  | nothing hnone => exact iff_of_true rfl hnone
  | settings hbefore _ hload =>
    refine iff_of_false nofun fun hnone => ?_
    obtain ⟨e, he⟩ := hnone _ (hbefore ▸ List.mem_append_cons_self)
    rw [hload] at he
    cases he

theorem Keeps.loads_iff (hkeeps : Keeps before h.kept) :
    h.loads c.reload = true ↔ Loads before c := by
  rw [loads, Loads, Bool.or_eq_true, Option.isNone_iff_eq_none, hkeeps.eq_none_iff, or_comm]

/-- **A run keeps the settings of its last load that succeeded.** -/
theorem keeps_after (before : List Call) : Keeps before (empty.after before).kept := by
  induction before using List.reverseRecOn with
  | nil => exact .nothing nofun
  | append_singleton before c ih =>
    rw [after_concat]
    rcases call_cases (empty.after before) c with ⟨hloads, s, hs, hanswer, hnext⟩ |
      ⟨hloads, e, he, -, hnext⟩ | ⟨-, kept, hkept, hreload, -, hnext⟩
    · rw [hnext]
      exact .settings rfl (ih.loads_iff.1 hloads) hs hanswer nofun
    · rw [hnext]
      cases hkept : (empty.after before).kept with
      | none =>
        have hnone := ih.eq_none_iff.1 hkept
        exact .nothing (List.forall_mem_append.2 ⟨hnone, by simpa using ⟨e, he⟩⟩)
      | some kept =>
        rw [hkept] at ih
        rcases ih with - | ⟨hbefore, hloads, hs, hanswer, hlater⟩
        refine .settings (by rw [hbefore, List.append_assoc, List.cons_append]) hloads hs hanswer ?_
        exact List.forall_mem_append.2 ⟨hlater, by simpa using fun _ => ⟨e, he⟩⟩
    · rw [hnext, hkept]
      rw [hkept] at ih
      rcases ih with - | ⟨hbefore, hloads, hs, hanswer, hlater⟩
      refine .settings (by rw [hbefore, List.append_assoc, List.cons_append]) hloads hs hanswer ?_
      exact List.forall_mem_append.2 ⟨hlater, by simp [hreload]⟩

/-! ### Numbers -/

theorem nextNumber_of_kept (hkept : h.kept = some kept) : h.nextNumber = kept.1 + 1 := by
  rw [nextNumber, hkept]

/-- What a call answers has a number below the next one, which never falls. -/
theorem number_lt_next (h : SettingsHolder) (c : Call) :
    h.nextNumber ≤ (h.next c).nextNumber ∧
      ∀ n s, h.answer c = .ok (n, s) → n < (h.next c).nextNumber := by
  rcases call_cases h c with ⟨-, s, -, hanswer, hnext⟩ | ⟨-, e, -, hanswer, hnext⟩ |
    ⟨-, kept, hkept, -, hanswer, hnext⟩
  · rw [hanswer, hnext]
    refine ⟨Nat.le_succ _, ?_⟩
    rintro n s ⟨⟩
    exact Nat.lt_succ_self _
  · rw [hanswer, hnext]
    refine ⟨Nat.le_refl _, ?_⟩
    rintro n s ⟨⟩
  · rw [hanswer, hnext]
    refine ⟨Nat.le_refl _, ?_⟩
    rintro n s ⟨⟩
    rw [nextNumber_of_kept hkept]
    exact Nat.lt_succ_self _

/-- **Numbers are not used again**: what was answered has a number below the next one. -/
theorem number_lt_after {later : List Call} (hbefore : before = calls ++ c :: later)
    (hanswer : (empty.after calls).answer c = .ok (n, s)) :
    n < (empty.after before).nextNumber := by
  subst hbefore
  induction later using List.reverseRecOn with
  | nil =>
    rw [after_concat]
    exact (number_lt_next _ c).2 n s hanswer
  | append_singleton later d ih =>
    rw [← List.cons_append, ← List.append_assoc, after_concat]
    exact Nat.lt_of_lt_of_le ih (number_lt_next _ d).1

/-! ### Settings of a run -/

/--
**The settings of a run of calls.** A call loads iff it is told to or no load has succeeded before.
A load that succeeds answers what it loaded, under a number that no earlier call answered, and all
later calls that do not reload answer the same until a reload succeeds, whatever their paths. A load
that fails answers its error and leaves the holder as it was. A call that does not load changes
nothing, and answers the settings of the last load that succeeded. This holds of any reader.
-/
theorem settings_of_run (before : List Call) (c : Call) :
    let h := empty.after before
    (h.loads c.reload = true ↔ Loads before c) ∧
    (∀ s, Loads before c → c.loaded = .ok s → ∃ n, h.answer c = .ok (n, s) ∧
      (∀ calls d later t, before = calls ++ d :: later →
        (empty.after calls).answer d ≠ .ok (n, t)) ∧
      ∀ later d, NoneReloaded later → d.reload = false →
        (empty.after (before ++ c :: later)).answer d = .ok (n, s)) ∧
    (∀ e, Loads before c → c.loaded = .error e → h.answer c = .error e ∧ h.next c = h) ∧
    (¬ Loads before c → h.next c = h ∧ ∃ calls d later n s, before = calls ++ d :: later ∧
      Loads calls d ∧ d.loaded = .ok s ∧ NoneReloaded later ∧
      (empty.after calls).answer d = .ok (n, s) ∧ h.answer c = .ok (n, s)) := by
  intro h
  have hkeeps : Keeps before h.kept := keeps_after before
  have hloads : h.loads c.reload = true ↔ Loads before c := hkeeps.loads_iff
  refine ⟨hloads, fun s hc hs => ?_, fun e hc he => call_of_error (hloads.2 hc) he, fun hc => ?_⟩
  · obtain ⟨hanswer, hnext⟩ := call_of_ok (hloads.2 hc) hs
    refine ⟨h.nextNumber, hanswer, fun calls d later t hbefore hd => ?_,
      fun later d hlater hd => ?_⟩
    · exact Nat.lt_irrefl _ (number_lt_after hbefore hd)
    · have hafter : empty.after (before ++ c :: later) = (h.next c).after later := by
        rw [after_append]
        rfl
      rw [hafter, hnext]
      exact (call_of_kept (kept_after rfl hlater) hd).1
  · obtain ⟨kept, hkept, hreload⟩ := exists_kept (Bool.eq_false_iff.2 (mt hloads.1 hc))
    obtain ⟨hanswer, hnext⟩ := call_of_kept hkept hreload
    rw [hkept] at hkeeps
    rcases hkeeps with - | ⟨hbefore, hd, hs, hd', hlater⟩
    exact ⟨hnext, _, _, _, _, _, hbefore, hd, hs, hlater, hd', hanswer⟩

/-- A load that fails, one that succeeds and a reload that fails: what was loaded is kept. -/
example :
    let sized : Files := [("mediamatch.yaml", "units:\n  root_font_size: 20\n")]
    let listed : Files := [("mediamatch.yaml", "- 20\n")]
    let calls : List Call :=
      [⟨Yaml.read, listed, [], none, false⟩, ⟨Yaml.read, sized, [], none, false⟩,
        ⟨Yaml.read, listed, [], none, true⟩]
    ((empty.after calls).answer ⟨Yaml.read, [], [], some "other.yaml", false⟩).toOption.map
        (fun kept => (kept.1, kept.2.units.rootFontSize)) =
      some (0, Measure.ofNat 20) := by
  decide +kernel

end MediaQuery.SettingsHolder
