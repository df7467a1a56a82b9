import MediaQuery.Matching
import MediaQuery.Session.Library
import MediaQuery.Settings.Units

/-!
# Sessions

A session is a run of actions on the state of a process: its library of trees and caches, caches,
parsers and evaluators by name, and the root font size. An action that fails answers its error, and
the session goes on.

* `Action` is what can be done and `Outcome` what it answers;
* `State.step` does one action and `State.run` a list of them.
-/

namespace MediaQuery.Session

/--
Which cache is meant: the default one at the time, or one of its own, which exists from when it is
first named.
-/
inductive CacheName where
  | standard
  | named (name : String)
  deriving DecidableEq, Repr

/--
What parses a query list: a cache alone, or a parser, which is made over a cache when it is first
named.
-/
inductive Route where
  | cache (cache : CacheName)
  | parser (name : String) (cache : CacheName)
  deriving DecidableEq, Repr

/-- A tree: one that has a number, or a new one. -/
inductive TreeSource where
  | numbered (n : Nat)
  | fresh (tree : QueryList)
  deriving DecidableEq, Repr

/-- What is matched: a text, which is parsed through the default cache, or a tree. -/
inductive Subject where
  | query (text : String)
  | tree (source : TreeSource)
  deriving DecidableEq, Repr

/--
The measures that can be taken of a single value. A count has an answer for values that are no
numbers.
-/
inductive Measurement where
  | pixels
  | dotsPerInch
  | decimal
  | count (default : Value)
  deriving Repr

/-- What can be done. -/
inductive Action where
  | parse (route : Route) (query : String)
  | lookup (cache : CacheName) (query : String)
  | store (cache : CacheName) (query : String) (tree : TreeSource)
  | contains (cache : CacheName) (query : String)
  | size (cache : CacheName)
  | describe (cache : CacheName)
  | clear (cache : CacheName)
  | renewDefault
  | identify (route : Route)
  | appendQuery (tree : Nat) (query : Query)
  | appendTest (tree index : Nat) (test : FeatureTest)
  | sameTree (a b : Nat)
  | setRoot (size : Value)
  | getRoot
  | configureRoot (size : Value)
  | enterRoot (size : Value)
  | leaveRoot
  | measure (measurement : Measurement) (value : Value)
  | matchOnce (subject : Subject) (env : Environment)
  | makeEvaluator (name : String) (subject : Subject)
  | evaluate (name : String) (env : Environment)
  deriving Repr

/--
What an action answers: a tree or a cache by its number, no tree, the root font size after the
action, or a plain value.
-/
inductive Outcome where
  | tree (n : Nat)
  | noTree
  | cache (n : Nat)
  | flag (b : Bool)
  | count (n : Nat)
  | text (s : String)
  | root (size : Binary64)
  | value (v : Value)
  deriving Repr

/-- Why an action fails. -/
inductive Failure where
  | grammar (e : SyntaxError)
  | measure (e : MeasureError)
  | rootSize (e : RootSizeError)
  | invalid (issues : List Issue)
  deriving DecidableEq, Repr

/--
The state of a process: trees and caches, the numbers of caches by name, parsers by name, each with
the cache that it parses through, evaluators by name, each with the number of its tree, and the root
font size.
-/
structure State where
  library : Library
  caches : List (String × Nat)
  parsers : List (String × CacheName)
  evaluators : List (String × Nat)
  roots : RootSizes
  deriving DecidableEq, Repr

namespace State

/-- The state of a new process. -/
def initial : State := ⟨Library.initial, [], [], [], RootSizes.initial⟩

/-- The state with another library. -/
def withLibrary (s : State) (lib : Library) : State := { s with library := lib }

/-- The number of a cache, which is made if its name is new. -/
def openCache (s : State) : CacheName → Nat × State
  | .standard => (s.library.default, s)
  | .named name =>
    match s.caches.lookup name with
    | some n => (n, s)
    | none =>
      let (n, lib) := s.library.addCache
      (n, { s with library := lib, caches := s.caches ++ [(name, n)] })

/-- The number of the cache that a route parses through; a parser of a new name is made. -/
def openRoute (s : State) : Route → Nat × State
  | .cache cache => s.openCache cache
  | .parser name cache =>
    match s.parsers.lookup name with
    | some cache => s.openCache cache
    | none => ({ s with parsers := s.parsers ++ [(name, cache)] }).openCache cache

/-- The number of a tree; a new tree gets one. -/
def openTree (s : State) : TreeSource → Nat × State
  | .numbered n => (n, s)
  | .fresh tree =>
    let (n, lib) := s.library.addTree tree
    (n, s.withLibrary lib)

/-- The number of the tree of a subject. -/
def openSubject (s : State) : Subject → Except SyntaxError (Nat × State)
  | .query text =>
    (s.library.parse s.library.default text).map fun (n, lib) => (n, s.withLibrary lib)
  | .tree source => .ok (s.openTree source)

/-- Whether an environment satisfies a tree under the present root font size. -/
def matchTree (s : State) (tree : Nat) (env : Environment) : Except Failure Outcome :=
  match (s.library.tree tree).matches s.roots.current env with
  | .ok b => .ok (.flag b)
  | .error e => .error (.measure e)

/-- The measure of a value under the present root font size. -/
def takeMeasure (s : State) (m : Measurement) (v : Value) : Except MeasureError Value :=
  match m with
  | .pixels => (Measure.pixels s.roots.current v).map .float
  | .dotsPerInch => (Measure.dotsPerInch v).map .float
  | .decimal => (Measure.decimal v).map .float
  | .count default => (Measure.count? v).map fun x => (x.map Value.float).getD default

/-- The state after a change of the root font size, or the same state and the error. -/
def changeRoots (s : State) (roots : Except RootSizeError RootSizes) :
    Except Failure Outcome × State :=
  match roots with
  | .ok roots => (.ok (.root roots.current), { s with roots := roots })
  | .error e => (.error (.rootSize e), s)

/-- What an action answers, and the state after it. -/
def step (s : State) : Action → Except Failure Outcome × State
  | .parse route query =>
    let (n, s) := s.openRoute route
    match s.library.parse n query with
    | .ok (tree, lib) => (.ok (.tree tree), s.withLibrary lib)
    | .error e => (.error (.grammar e), s)
  | .lookup cache query =>
    let (n, s) := s.openCache cache
    match (s.library.cache n).get? query with
    | some tree => (.ok (.tree tree), s)
    | none => (.ok .noTree, s)
  | .store cache query source =>
    let (n, s) := s.openCache cache
    let (tree, s) := s.openTree source
    (.ok (.tree tree), s.withLibrary (s.library.store n query tree))
  | .contains cache query =>
    let (n, s) := s.openCache cache
    (.ok (.flag ((s.library.cache n).get? query).isSome), s)
  | .size cache =>
    let (n, s) := s.openCache cache
    (.ok (.count (s.library.cache n).pairs.length), s)
  | .describe cache =>
    let (n, s) := s.openCache cache
    (.ok (.text (s.library.cache n).text), s)
  | .clear cache =>
    let (n, s) := s.openCache cache
    let s := s.withLibrary (s.library.clear n)
    (.ok (.count (s.library.cache n).pairs.length), s)
  | .renewDefault =>
    let (n, lib) := s.library.renew
    (.ok (.cache n), s.withLibrary lib)
  | .identify route =>
    let (n, s) := s.openRoute route
    (.ok (.cache n), s)
  | .appendQuery tree q => (.ok (.tree tree), s.withLibrary (s.library.appendQuery tree q))
  | .appendTest tree index t =>
    (.ok (.tree tree), s.withLibrary (s.library.appendTest tree index t))
  | .sameTree a b => (.ok (.flag (s.library.tree a == s.library.tree b)), s)
  | .setRoot size => s.changeRoots (s.roots.set size)
  | .getRoot => (.ok (.root s.roots.current), s)
  | .configureRoot size =>
    match UnitSettings.ofEntries [(.text UnitSettings.sizeName, size)] with
    | .ok units => s.changeRoots (s.roots.configure units)
    | .error issues => (.error (.invalid issues), s)
  | .enterRoot size => s.changeRoots (s.roots.enter size)
  | .leaveRoot => s.changeRoots s.roots.leave
  | .measure m v =>
    match s.takeMeasure m v with
    | .ok v => (.ok (.value v), s)
    | .error e => (.error (.measure e), s)
  | .matchOnce subject env =>
    match s.openSubject subject with
    | .ok (tree, s) => (s.matchTree tree env, s)
    | .error e => (.error (.grammar e), s)
  | .makeEvaluator name subject =>
    match s.openSubject subject with
    | .ok (tree, s) => (.ok (.tree tree), { s with evaluators := (name, tree) :: s.evaluators })
    | .error e => (.error (.grammar e), s)
  | .evaluate name env =>
    match s.evaluators.lookup name with
    | some tree => (s.matchTree tree env, s)
    | none => (.ok .noTree, s)

/-- The answers to a list of actions, and the state after them. -/
def run (s : State) : List Action → List (Except Failure Outcome) × State
  | [] => ([], s)
  | action :: actions =>
    let (answer, s) := s.step action
    let (answers, s) := s.run actions
    (answer :: answers, s)

end State

end MediaQuery.Session
