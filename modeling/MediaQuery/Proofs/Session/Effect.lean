import MediaQuery.Proofs.Dict
import MediaQuery.Session.Basic

/-!
# What a step does to trees and caches

A step changes a tree in place, adds a tree, and writes into a cache, each at most once. `effect`
reads off an action which of them it does, and `step_does` says once for all actions that nothing
else happens to trees and caches. A cache counts as empty before it is made, so making one is no
effect.
-/

namespace MediaQuery

/-! ### Effects -/

/-- A write into a cache. -/
inductive Write where
  | put (query : String) (tree : Nat)
  | clear
  deriving DecidableEq, Repr

/-- The cache after a write. -/
def Write.apply : Write → Cache → Cache
  | .put query tree, cache => cache.set query tree
  | .clear, _ => .empty

/--
What a step does to trees and caches: a change of the tree of a number in place, a new tree, and a
write into the cache of a number.
-/
structure Effect where
  change : Option (Nat × (QueryList → QueryList)) := none
  born : Option QueryList := none
  write : Option (Nat × Write) := none

namespace Effect

/-- The trees after a step. -/
def trees (e : Effect) (ts : List QueryList) : List QueryList :=
  (match e.change with
    | some (n, f) => ts.modify n f
    | none => ts) ++ e.born.toList

/-- The cache of a number after a step. -/
def cache (e : Effect) (n : Nat) (c : Cache) : Cache :=
  match e.write with
  | some (m, w) => if m = n then w.apply c else c
  | none => c

theorem trees_none (ts : List QueryList) : trees {} ts = ts := List.append_nil ts

theorem length_trees (e : Effect) (ts : List QueryList) :
    (e.trees ts).length = ts.length + e.born.toList.length := by
  unfold trees
  cases e.change <;> simp

/-- A new tree gets the next number. -/
theorem getElem?_length_trees {e : Effect} {qs : QueryList} (h : e.born = some qs)
    (ts : List QueryList) : (e.trees ts)[ts.length]? = some qs := by
  unfold trees
  rw [h]
  cases e.change with
  | none => simp
  | some change => rw [List.getElem?_append_right] <;> simp

/-- Lists of trees that agree at a number do so after an effect. -/
theorem getElem?_trees_congr {ts ts' : List QueryList} {n : Nat} (hlength : ts.length = ts'.length)
    (h : ts[n]? = ts'[n]?) (e : Effect) : (e.trees ts)[n]? = (e.trees ts')[n]? := by
  unfold trees
  cases e.change with
  | none => rw [List.getElem?_append, List.getElem?_append, hlength, h]
  | some change =>
    simp only [List.getElem?_append, List.length_modify, List.getElem?_modify, hlength, h]

end Effect

namespace Library

variable {lib lib' lib'' : Library} {e : Effect} {n tree : Nat} {query : String}

/-- A library with an effect done; numbers of caches stay good. -/
structure Does (lib : Library) (e : Effect) (lib' : Library) : Prop where
  trees : lib'.trees = e.trees lib.trees
  cache : ∀ n, lib'.cache n = e.cache n (lib.cache n)
  size : lib.caches.length ≤ lib'.caches.length
  default : lib.default < lib.caches.length → lib'.default < lib'.caches.length

theorem Does.refl (lib : Library) : lib.Does {} lib :=
  ⟨(List.append_nil _).symm, fun _ => rfl, Nat.le_refl _, id⟩

theorem Does.trees_eq (h : lib.Does {} lib') : lib'.trees = lib.trees :=
  h.trees.trans (Effect.trees_none _)

/-- An effect after a step without one. -/
theorem Does.after (h : lib.Does {} lib') (h' : lib'.Does e lib'') : lib.Does e lib'' := by
  refine ⟨?_, fun n => ?_, Nat.le_trans h.size h'.size, h'.default ∘ h.default⟩
  · rw [h'.trees, h.trees_eq]
  · rw [h'.cache, h.cache]
    rfl

theorem cache_addCache (lib : Library) (n : Nat) : lib.addCache.2.cache n = lib.cache n := by
  simp only [cache, addCache, List.getD_eq_getElem?_getD]
  rcases Nat.lt_trichotomy n lib.caches.length with h | rfl | h
  · rw [List.getElem?_append_left h]
  · simp
  · rw [List.getElem?_eq_none (by simp; omega), List.getElem?_eq_none (by omega)]

theorem does_addCache (lib : Library) : lib.Does {} lib.addCache.2 := by
  have hsize : lib.addCache.2.caches.length = lib.caches.length + 1 := by simp [addCache]
  refine ⟨(List.append_nil _).symm, cache_addCache lib, by omega, fun h => ?_⟩
  rw [hsize]
  exact Nat.lt_succ_of_lt h

theorem does_renew (lib : Library) : lib.Does {} lib.renew.2 := by
  refine ⟨(List.append_nil _).symm, cache_addCache lib, (does_addCache lib).size, fun _ => ?_⟩
  simp [renew, addCache]

theorem does_addTree (lib : Library) (qs : QueryList) :
    lib.Does { born := some qs } (lib.addTree qs).2 :=
  ⟨rfl, fun _ => rfl, Nat.le_refl _, id⟩

theorem does_changeTree (lib : Library) (n : Nat) (f : QueryList → QueryList) :
    lib.Does { change := some (n, f) } (lib.changeTree n f) :=
  ⟨(List.append_nil _).symm, fun _ => rfl, Nat.le_refl _, id⟩

theorem cache_changeCache {f : Cache → Cache} (hn : n < lib.caches.length) (m : Nat) :
    (lib.changeCache n f).cache m = if n = m then f (lib.cache m) else lib.cache m := by
  simp only [cache, changeCache, List.getD_eq_getElem?_getD, List.getElem?_modify]
  by_cases h : n = m
  · subst h
    simp [hn]
  · simp [h]

/-- A write, after a tree is added at most. -/
theorem Does.write {born : Option QueryList} (h : lib.Does { born := born } lib')
    (hn : n < lib'.caches.length) (w : Write) :
    lib.Does { born := born, write := some (n, w) } (lib'.changeCache n w.apply) := by
  have hsize : (lib'.changeCache n w.apply).caches.length = lib'.caches.length := by
    simp [changeCache]
  refine ⟨h.trees, fun m => ?_, ?_, fun hd => ?_⟩
  · rw [cache_changeCache hn, h.cache]
    rfl
  · rw [hsize]
    exact h.size
  · rw [hsize]
    exact h.default hd

/-! ### Parsing -/

/-- What a parse does: nothing, or it adds the tree of the text to the library and to the cache. -/
def parseEffect (lib : Library) (n : Nat) (query : String) : Effect :=
  match (lib.cache n).get? query, QueryList.parse query with
  | none, .ok qs => { born := some qs, write := some (n, .put query lib.trees.length) }
  | _, _ => {}

theorem parse_of_get?_eq_some (h : (lib.cache n).get? query = some tree) :
    lib.parse n query = .ok (tree, lib) ∧ lib.parseEffect n query = {} := by
  constructor
  · rw [parse, h]
  · rw [parseEffect, h]

theorem parse_of_parse_eq_ok (h : (lib.cache n).get? query = none) {qs : QueryList}
    (hqs : QueryList.parse query = .ok qs) :
    lib.parse n query = .ok (lib.trees.length, (lib.addTree qs).2.store n query lib.trees.length) ∧
      lib.parseEffect n query =
        { born := some qs, write := some (n, .put query lib.trees.length) } := by
  constructor
  · rw [parse, h, hqs]
    rfl
  · rw [parseEffect, h, hqs]

theorem parse_of_parse_eq_error (h : (lib.cache n).get? query = none) {e : SyntaxError}
    (he : QueryList.parse query = .error e) :
    lib.parse n query = .error e ∧ lib.parseEffect n query = {} := by
  constructor
  · rw [parse, h, he]
  · rw [parseEffect, h, he]

theorem does_parse (hn : n < lib.caches.length) {result : Nat × Library}
    (h : lib.parse n query = .ok result) : lib.Does (lib.parseEffect n query) result.2 := by
  cases hget : (lib.cache n).get? query with
  | some tree =>
    obtain ⟨hparse, heffect⟩ := parse_of_get?_eq_some hget
    cases hparse.symm.trans h
    rw [heffect]
    exact .refl lib
  | none =>
    cases hqs : QueryList.parse query with
    | error e => cases (parse_of_parse_eq_error hget hqs).1.symm.trans h
    | ok qs =>
      obtain ⟨hparse, heffect⟩ := parse_of_parse_eq_ok hget hqs
      cases hparse.symm.trans h
      rw [heffect]
      exact (does_addTree lib qs).write hn (.put query lib.trees.length)

/-- A failed parse would have done nothing. -/
theorem parseEffect_of_error {e : SyntaxError} (h : lib.parse n query = .error e) :
    lib.parseEffect n query = {} := by
  cases hget : (lib.cache n).get? query with
  | some tree => exact (parse_of_get?_eq_some hget).2
  | none =>
    cases hqs : QueryList.parse query with
    | error e => exact (parse_of_parse_eq_error hget hqs).2
    | ok qs => cases (parse_of_parse_eq_ok hget hqs).1.symm.trans h

theorem Does.parseEffect_eq (h : lib.Does {} lib') (n : Nat) (query : String) :
    lib'.parseEffect n query = lib.parseEffect n query := by
  have hcache : lib'.cache n = lib.cache n := h.cache n
  rw [parseEffect, parseEffect, h.trees_eq, hcache]

end Library

namespace Session

/-! ### Steps -/

/-- The tree that is new. -/
def TreeSource.born : TreeSource → Option QueryList
  | .numbered _ => none
  | .fresh qs => some qs

/-- A change of a tree in place, by the number of the tree. -/
def Action.change? : Action → Option (Nat × (QueryList → QueryList))
  | .appendQuery tree q => some (tree, fun qs => qs ++ [q])
  | .appendTest tree index t =>
    some (tree, fun qs => qs.modify index fun q => { q with tests := q.tests ++ [t] })
  | _ => none

namespace State

variable {s s' s'' : State} {e : Effect} {a : Action}

/-- The effect of opening a subject. -/
def subjectEffect (s : State) : Subject → Effect
  | .query text => s.library.parseEffect s.library.default text
  | .tree source => { born := source.born }

/-- What an action does to trees and caches. -/
def effect (s : State) : Action → Effect
  | .parse route query => s.library.parseEffect (s.openRoute route).1 query
  | .store cache query source =>
    { born := source.born, write := some ((s.openCache cache).1, .put query (s.openTree source).1) }
  | .clear cache => { write := some ((s.openCache cache).1, .clear) }
  | .matchOnce subject _ | .makeEvaluator _ subject => s.subjectEffect subject
  | a => { change := a.change? }

/-- The default cache and the named ones are among the caches. -/
structure Registered (s : State) : Prop where
  default : s.library.default < s.library.caches.length
  named : ∀ entry ∈ s.caches, entry.2 < s.library.caches.length

/-- A step with an effect, to a state with its caches registered. -/
structure Does (s : State) (e : Effect) (s' : State) : Prop where
  registered : s'.Registered
  library : s.library.Does e s'.library

namespace Does

theorem refl (hs : s.Registered) : s.Does {} s := ⟨hs, .refl _⟩

theorem after (h : s.Does {} s') (h' : s'.Does e s'') : s.Does e s'' :=
  ⟨h'.registered, h.library.after h'.library⟩

theorem withLibrary (hs : s.Registered) {lib : Library} (h : s.library.Does e lib) :
    s.Does e (s.withLibrary lib) :=
  ⟨⟨h.default hs.default, fun entry hentry => Nat.lt_of_lt_of_le (hs.named entry hentry) h.size⟩, h⟩

/-- A write, after a tree is added at most. -/
theorem write {born : Option QueryList} {n : Nat} (h : s.Does { born := born } s')
    (hn : n < s'.library.caches.length) (w : Write) :
    s.Does { born := born, write := some (n, w) }
      (s'.withLibrary (s'.library.changeCache n w.apply)) := by
  have hsize : (s'.library.changeCache n w.apply).caches.length = s'.library.caches.length := by
    simp [Library.changeCache]
  refine ⟨⟨?_, ?_⟩, h.library.write hn w⟩
  · exact hsize ▸ h.registered.default
  · exact hsize ▸ h.registered.named

end Does

theorem openCache_does (hs : s.Registered) (cache : CacheName) :
    s.Does {} (s.openCache cache).2 ∧
      (s.openCache cache).1 < (s.openCache cache).2.library.caches.length := by
  cases cache with
  | standard => exact ⟨.refl hs, hs.default⟩
  | named name =>
    rw [openCache]
    cases hlookup : s.caches.lookup name with
    | some n =>
      obtain ⟨before, after, hcaches, -⟩ := List.lookup_eq_some_iff.1 hlookup
      exact ⟨.refl hs, hs.named (name, n) (by simp [hcaches])⟩
    | none =>
      have hadd := Library.does_addCache s.library
      have hlt : s.library.caches.length < s.library.addCache.2.caches.length := by
        simp [Library.addCache]
      refine ⟨⟨⟨hadd.default hs.default, fun entry hentry => ?_⟩, hadd⟩, hlt⟩
      rcases List.mem_append.1 hentry with hold | hnew
      · exact Nat.lt_trans (hs.named entry hold) hlt
      · rw [List.mem_singleton.1 hnew]
        exact hlt

theorem openRoute_does (hs : s.Registered) (route : Route) :
    s.Does {} (s.openRoute route).2 ∧
      (s.openRoute route).1 < (s.openRoute route).2.library.caches.length := by
  cases route with
  | cache cache => exact openCache_does hs cache
  | parser name cache =>
    rw [openRoute]
    cases s.parsers.lookup name with
    | some cache => exact openCache_does hs cache
    | none =>
      have hparser : Registered { s with parsers := s.parsers ++ [(name, cache)] } :=
        ⟨hs.default, hs.named⟩
      obtain ⟨hdoes, hlt⟩ := openCache_does hparser cache
      exact ⟨⟨hdoes.registered, hdoes.library⟩, hlt⟩

theorem openTree_does (hs : s.Registered) (source : TreeSource) :
    s.Does { born := source.born } (s.openTree source).2 := by
  cases source with
  | numbered n => exact .refl hs
  | fresh qs => exact .withLibrary hs (Library.does_addTree _ qs)

theorem openSubject_does (hs : s.Registered) {subject : Subject} {tree : Nat}
    (h : s.openSubject subject = .ok (tree, s')) : s.Does (s.subjectEffect subject) s' := by
  cases subject with
  | tree source =>
    have hopen : s.openTree source = (tree, s') := Except.ok.inj h
    have hdoes := openTree_does hs source
    rwa [hopen] at hdoes
  | query text =>
    rw [openSubject] at h
    cases hparse : s.library.parse s.library.default text with
    | error e => simp [hparse, Except.map] at h
    | ok result =>
      rw [hparse] at h
      cases h
      exact .withLibrary hs (Library.does_parse hs.default hparse)

/-- A subject that cannot be opened has no effect. -/
theorem subjectEffect_of_error {subject : Subject} {e : SyntaxError}
    (h : s.openSubject subject = .error e) : s.subjectEffect subject = {} := by
  cases subject with
  | tree source => cases h
  | query text =>
    rw [openSubject] at h
    cases hparse : s.library.parse s.library.default text with
    | ok result => simp [hparse, Except.map] at h
    | error e => exact Library.parseEffect_of_error hparse

theorem changeRoots_does (hs : s.Registered) (roots : Except RootSizeError RootSizes) :
    s.Does {} (s.changeRoots roots).2 := by
  cases roots with
  | ok roots => exact ⟨⟨hs.default, hs.named⟩, .refl _⟩
  | error e => exact .refl hs

/-- **Every step has the effect of its action**, and no other effect on trees and caches. -/
theorem step_does (hs : s.Registered) (a : Action) : s.Does (s.effect a) (s.step a).2 := by
  cases a with
  | parse route query =>
    obtain ⟨hopen, hlt⟩ := openRoute_does hs route
    have heffect := hopen.library.parseEffect_eq (s.openRoute route).1 query
    simp only [step, effect]
    split
    · rename_i tree lib hparse
      rw [← heffect]
      exact hopen.after (.withLibrary hopen.registered (Library.does_parse hlt hparse))
    · rename_i e hparse
      rw [← heffect, Library.parseEffect_of_error hparse]
      exact hopen
  | store cache query source =>
    obtain ⟨hopen, hlt⟩ := openCache_does hs cache
    have htree := openTree_does hopen.registered source
    have hnumber : ((s.openCache cache).2.openTree source).1 = (s.openTree source).1 := by
      cases source with
      | numbered n => rfl
      | fresh qs => exact congrArg List.length hopen.library.trees_eq
    have hlt' := Nat.lt_of_lt_of_le hlt htree.library.size
    rw [effect, ← hnumber]
    exact hopen.after (htree.write hlt' (.put query _))
  | clear cache =>
    obtain ⟨hopen, hlt⟩ := openCache_does hs cache
    exact hopen.after ((Does.refl hopen.registered).write hlt .clear)
  | lookup cache query =>
    have hopen := (openCache_does hs cache).1
    simp only [step]
    split <;> exact hopen
  | contains cache query => exact (openCache_does hs cache).1
  | size cache => exact (openCache_does hs cache).1
  | describe cache => exact (openCache_does hs cache).1
  | renewDefault => exact .withLibrary hs (Library.does_renew _)
  | identify route => exact (openRoute_does hs route).1
  | appendQuery tree q => exact .withLibrary hs (Library.does_changeTree _ tree _)
  | appendTest tree index t => exact .withLibrary hs (Library.does_changeTree _ tree _)
  | sameTree | getRoot => exact .refl hs
  | setRoot size => exact changeRoots_does hs _
  | configureRoot size =>
    rw [step]
    split
    · exact changeRoots_does hs _
    · exact .refl hs
  | enterRoot size => exact changeRoots_does hs _
  | leaveRoot => exact changeRoots_does hs _
  | measure m v =>
    rw [step]
    split <;> exact .refl hs
  | matchOnce subject env =>
    rw [step, effect]
    split
    · rename_i hopen
      exact openSubject_does hs hopen
    · rename_i hopen
      rw [subjectEffect_of_error hopen]
      exact .refl hs
  | makeEvaluator name subject =>
    rw [step, effect]
    split
    · rename_i hopen
      have hdoes := openSubject_does hs hopen
      exact ⟨⟨hdoes.registered.default, hdoes.registered.named⟩, hdoes.library⟩
    · rename_i hopen
      rw [subjectEffect_of_error hopen]
      exact .refl hs
  | evaluate name env =>
    rw [step]
    split <;> exact .refl hs

end State

end Session

end MediaQuery
