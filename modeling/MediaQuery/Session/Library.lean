import MediaQuery.Dict
import MediaQuery.Query.Parser

/-!
# Parsed query lists and their caches

Query lists that were parsed are kept as numbered trees. A cache maps the exact text of a query
list to the number of its tree, so that a text that is parsed again is answered by the same tree,
with whatever was appended to it since. Trees and caches are never removed, only out of reach: the
default cache can be replaced by a new one.

* `Library.parse` parses through a cache;
* `Library.store`, `Library.clear` and `Library.renew` change the caches by hand;
* `Library.appendQuery` and `Library.appendTest` change a tree in place.
-/

namespace MediaQuery

/-- Numbers of trees by the texts of their query lists. -/
abbrev Cache := Dict Nat

namespace Cache

/-- A cache as shown to users. -/
def text (cache : Cache) : String := "ParseCache(entries=" ++ toString cache.pairs.length ++ ")"

end Cache

/-- All trees and caches of a process, by number, and the number of the default cache. -/
structure Library where
  trees : List QueryList
  caches : List Cache
  default : Nat
  deriving DecidableEq, Repr

namespace Library

/-- The library at the start: an empty default cache. -/
def initial : Library := ⟨[], [.empty], 0⟩

/-- The cache of a number. -/
def cache (lib : Library) (n : Nat) : Cache := lib.caches.getD n .empty

/-- The tree of a number. -/
def tree (lib : Library) (n : Nat) : QueryList := lib.trees.getD n []

/-- The library with a new tree, and the number of that tree. -/
def addTree (lib : Library) (tree : QueryList) : Nat × Library :=
  (lib.trees.length, { lib with trees := lib.trees ++ [tree] })

/-- The library with a new empty cache, and the number of that cache. -/
def addCache (lib : Library) : Nat × Library :=
  (lib.caches.length, { lib with caches := lib.caches ++ [.empty] })

/-- The library with a new default cache, and its number. -/
def renew (lib : Library) : Nat × Library :=
  let (n, lib) := lib.addCache
  (n, { lib with default := n })

/-- The library with a cache changed. -/
def changeCache (lib : Library) (n : Nat) (change : Cache → Cache) : Library :=
  { lib with caches := lib.caches.modify n change }

/-- The library in which a cache holds a tree for a text. -/
def store (lib : Library) (n : Nat) (query : String) (tree : Nat) : Library :=
  lib.changeCache n fun cache => cache.set query tree

/-- The library with a cache emptied. -/
def clear (lib : Library) (n : Nat) : Library := lib.changeCache n fun _ => .empty

/--
Parses a text through a cache: the tree that the cache holds, or else a new tree that it holds from
then on. A text that is no query list leaves no trace.
-/
def parse (lib : Library) (n : Nat) (query : String) : Except SyntaxError (Nat × Library) :=
  match (lib.cache n).get? query with
  | some tree => .ok (tree, lib)
  | none =>
    match QueryList.parse query with
    | .error e => .error e
    | .ok qs =>
      let (tree, lib) := lib.addTree qs
      .ok (tree, lib.store n query tree)

/-- The library with a tree changed in place. -/
def changeTree (lib : Library) (n : Nat) (change : QueryList → QueryList) : Library :=
  { lib with trees := lib.trees.modify n change }

/-- The library with a query appended to a tree. -/
def appendQuery (lib : Library) (n : Nat) (q : Query) : Library :=
  lib.changeTree n fun qs => qs ++ [q]

/-- The library with a test appended to a query of a tree. -/
def appendTest (lib : Library) (n : Nat) (index : Nat) (t : FeatureTest) : Library :=
  lib.changeTree n fun qs => qs.modify index fun q => { q with tests := q.tests ++ [t] }

end Library

end MediaQuery
