import MediaQuery.Query.Basic
import MediaQuery.Query.Token
import MediaQuery.Text.Casing
import Mathlib.Data.List.Forall2

/-!
# The grammar of query lists

Which texts are query lists and which tree each of them spells, as relations that say where a text
is cut and never how it is searched.

* `Uncommented` deletes comments; `Groups` lists the groups of a text from left to right;
* `Keyword`, `Name` and `Group` are the tokens, each with what follows it;
* `NameOf` takes a feature name apart, `TestOf` reads a group, `QueryOf` a clause;
* `SegmentOf` is a clause as written, with comments, outer white space and tabs;
* `Spells` is the grammar of a whole query list.
-/

namespace MediaQuery.Grammar

open Text Query

/-! ### Comments and gaps -/

/-- A comment at the start of a text: from an opener through the first closer after it. -/
def Comment (cs rest : List Char) : Prop :=
  ∃ body, cs = '/' :: '*' :: (body ++ '*' :: '/' :: rest) ∧ ¬ ['*', '/'] <:+: body ++ ['*']

/-- A text and what is left of it without its comments. -/
inductive Uncommented : List Char → List Char → Prop
  | nil : Uncommented [] []
  | comment {cs rest out : List Char} :
      Comment cs rest → Uncommented rest out → Uncommented cs out
  | char {c : Char} {cs out : List Char} :
      (∀ rest, ¬ Comment (c :: cs) rest) → Uncommented cs out → Uncommented (c :: cs) (c :: out)

/-- Text that may stand between the parts of a clause. -/
def Gap (cs : List Char) : Prop := ∀ c ∈ cs, c = ' ' ∨ c = '\n' ∨ c = '\r'

/-! ### Keywords -/

/-- The caseless test takes `c` for one of `chars`: both have the same upper-case form. -/
def TakenFor (chars : Char → Prop) (c : Char) : Prop :=
  ∃ k, chars k ∧ ∃ u ∈ upperChar k, upperChar c = [u]

/-- Letters of Latin-1. -/
def LatinLetter (c : Char) : Prop :=
  isAsciiLetter c ∨ c.toNat ∈ [0xAA, 0xB5, 0xBA] ∨
    0xC0 ≤ c.toNat ∧ c.toNat ≤ 0xFF ∧ c.toNat ≠ 0xD7 ∧ c.toNat ≠ 0xF7

/-- Characters that continue `not` and `only`. -/
def HeadChar (c : Char) : Prop := LatinLetter c ∨ c = '_' ∨ c = '-'

/-- Characters that continue `and`. -/
def AndChar (c : Char) : Prop := isAsciiLetter c ∨ isAsciiDigit c ∨ c = '_' ∨ c = '$'

/-- A keyword at the start of a text, in any letter case and not part of a longer word. -/
def Keyword (word : String) (chars : Char → Prop) (cs rest : List Char) : Prop :=
  ∃ w, cs = w ++ rest ∧ w.map Char.toLower = word.toList ∧ ∀ c ∈ rest.head?, ¬ TakenFor chars c

/--
The optional keyword before a media type: whether it is `not`, and the text from the media type
on. A keyword that can be read is never left for the media type.
-/
inductive Lead (cs : List Char) : Bool → List Char → Prop
  | not {gap rest : List Char} :
      Keyword "not" HeadChar cs (gap ++ rest) → Gap gap → Lead cs true rest
  | only {gap rest : List Char} :
      Keyword "only" HeadChar cs (gap ++ rest) → Gap gap → Lead cs false rest
  | none : (∀ rest, ¬ Keyword "not" HeadChar cs rest) →
      (∀ rest, ¬ Keyword "only" HeadChar cs rest) → Lead cs false cs

/-! ### Names and groups -/

/-- A name by its first and its further characters. -/
def IsName (starts continues : Char → Bool) (name : List Char) : Prop :=
  ∃ c cs, name = c :: cs ∧ starts c ∧ ∀ d ∈ cs, continues d

/-- The longest media type at the start of a text. -/
def TypeName (cs name rest : List Char) : Prop :=
  cs = name ++ rest ∧ IsName startsType continuesType name ∧ ∀ c ∈ rest.head?, ¬ continuesType c

/-- A group at the start of a text; its body is not empty. -/
def Group (cs body rest : List Char) : Prop :=
  cs = '(' :: (body ++ ')' :: rest) ∧ body ≠ [] ∧ ')' ∉ body

/-- The bodies of the groups of a text: at each place a group that can be read is taken. -/
inductive Groups : List Char → List (List Char) → Prop
  | nil : Groups [] []
  | group {cs body rest : List Char} {bodies : List (List Char)} :
      Group cs body rest → Groups rest bodies → Groups cs (body :: bodies)
  | char {c : Char} {cs : List Char} {bodies : List (List Char)} :
      (∀ body rest, ¬ Group (c :: cs) body rest) → Groups cs bodies → Groups (c :: cs) bodies

/-! ### Feature names -/

/-- The text before a feature that sets its range. -/
def rangePart : Option Modifier → String
  | none => ""
  | some .min => "min-"
  | some .max => "max-"

/--
A feature name taken apart: the vendor part in front, the range, the vendor part after the range,
either of which may be nothing, and the feature proper.
-/
structure Reading where
  vendor : String
  modifier : Option Modifier
  inner : String
  feature : List Char

namespace Reading

/-- The parts of a reading make up a name, and something is left for the feature. -/
structure Of (r : Reading) (name : List Char) : Prop where
  vendor_mem : r.vendor ∈ ["", "-webkit-", "-moz-", "-o-"]
  inner_mem : r.inner ∈ ["", "-moz-"]
  feature_ne : r.feature ≠ []
  joined : name = r.vendor.toList ++ (rangePart r.modifier).toList ++ r.inner.toList ++ r.feature

/-- How much a reading takes off the feature; what stands further in front counts for more. -/
def rank (r : Reading) : Nat :=
  (if r.vendor = "" then 0 else 4) + (if r.modifier = none then 0 else 2) +
    (if r.inner = "" then 0 else 1)

end Reading

/-- The range and the feature of a name, by the reading of highest rank. -/
def NameOf (name : List Char) (modifier : Option Modifier) (feature : List Char) : Prop :=
  ∃ r : Reading, r.Of name ∧ (∀ r' : Reading, r'.Of name → r'.rank ≤ r.rank) ∧
    r.modifier = modifier ∧ r.feature = feature

/-! ### Tests, clauses and query lists -/

/-- The body of a group: a feature name, and after a colon a value, which is trimmed. -/
inductive TestOf : List Char → FeatureTest → Prop
  | plain {gap name gap' feature : List Char} {modifier : Option Modifier} :
      Gap gap → IsName startsFeature continuesFeature name → Gap gap' →
      NameOf (lower name) modifier feature →
      TestOf (gap ++ (name ++ gap')) ⟨String.ofList feature, modifier, none⟩
  | valued {gap name gap' value feature : List Char} {modifier : Option Modifier} :
      Gap gap → IsName startsFeature continuesFeature name → Gap gap' → ¬ Gap value →
      NameOf (lower name) modifier feature →
      TestOf (gap ++ (name ++ (gap' ++ ':' :: value)))
        ⟨String.ofList feature, modifier, some (String.ofList (trim value))⟩

/-- The start of a clause: its media type, whether it is inverted, the group that it starts with. -/
inductive HeadOf (cs : List Char) : String → Bool → List Char → List Char → Prop
  | typed {inverse : Bool} {named name rest : List Char} :
      Lead cs inverse named → TypeName named name rest →
      HeadOf cs (String.ofList (lower name)) inverse [] rest
  | grouped {body rest : List Char} :
      Group cs body rest → HeadOf cs "all" false ('(' :: (body ++ [')'])) rest

/-- The end of a clause: nothing, or `and` with any text. -/
inductive TailOf : List Char → List Char → Prop
  | nil : TailOf [] []
  | and {gap cs tail : List Char} :
      Gap gap → Keyword "and" AndChar cs tail → TailOf (gap ++ cs) tail

/-- The tests of a text: none if it is blank, else those of its groups, of which there is one. -/
inductive TestsOf (cs : List Char) : List FeatureTest → Prop
  | blank : (∀ c ∈ cs, isBlank c) → TestsOf cs []
  | groups {bodies : List (List Char)} {tests : List FeatureTest} :
      Groups cs bodies → bodies ≠ [] → List.Forall₂ TestOf bodies tests → TestsOf cs tests

/-- A clause without comments, outer white space and tabs, and the query that it spells. -/
def QueryOf (cs : List Char) (q : Query) : Prop :=
  ∃ group rest tail, HeadOf cs q.mediaType q.inverse group rest ∧ TailOf rest tail ∧
    TestsOf (group ++ tail) q.tests

/-- A clause as written and the query that it spells. -/
def SegmentOf (raw : List Char) (q : Query) : Prop :=
  ∃ text, Uncommented raw text ∧ QueryOf (expandTabs 0 (trim text)) q

/-- A query list and its tree: each part between commas spells one query. -/
def Spells (query : String) (qs : QueryList) : Prop :=
  List.Forall₂ SegmentOf (query.toList.splitOn ',') qs

end MediaQuery.Grammar
