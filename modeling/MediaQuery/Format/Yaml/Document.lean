import MediaQuery.Format.Yaml.Cursor

/-!
# YAML documents

A document is one node: a scalar, a collection in brackets, or a block of lines held together by
their indentation. Blocks are sequences of entries marked by hyphens and mappings of keys followed
by colons. Anchors, tags and keys marked by question marks are not taken.

Every function has fuel that bounds its depth and length; `read` gives enough for any text.
-/

namespace MediaQuery.Yaml

open Text

/-- A node before its keys are merged: a value, or the sign for merging. -/
inductive Node where
  | value (v : Value)
  | mergeSign
  deriving Repr, Inhabited

/-- A key and a value of a mapping. -/
abbrev Pair := Node × Value

/--
Where a scalar stands: inside brackets or not, and the least column of further lines of a plain
scalar.
-/
structure Context where
  flow : Bool
  least : Nat

/-! ### Mappings -/

/-- The entries of a mapping. -/
def entriesOf : Value → Except Error (List (Scalar × Value))
  | .map es => .ok es
  | _ => .error .malformed

/-- The entries that a merged value brings in: those of a mapping, or of all in a list. -/
def mergedEntries : Value → Except Error (List (Scalar × Value))
  | .list items => (items.mapM entriesOf).map fun maps => maps.reverse.flatten
  | v => entriesOf v

/-- An entry whose key must be a scalar. -/
def ownEntry : Value × Value → Except Error (Scalar × Value)
  | (.scalar k, v) => .ok (k, v)
  | _ => .error .malformed

/-- A mapping from its pairs; merged entries come first, and keys must be scalars. -/
def mapping (pairs : List Pair) : Except Error Value := do
  let merged ← (pairs.filterMap fun (k, v) =>
    match k with
    | .mergeSign => some v
    | .value _ => none).mapM mergedEntries
  let own ← (pairs.filterMap fun (k, v) =>
    match k with
    | .mergeSign => none
    | .value k => some (k, v)).mapM ownEntry
  return .map (Entries.ofList (merged.flatten ++ own))

/-- A node as a value. -/
def Node.toValue : Node → Except Error Value
  | .value v => .ok v
  | .mergeSign => .error .malformed

/-- A plain scalar as a node. -/
def plainNode (text : List Char) : Except Error Node :=
  match resolve text with
  | .ok (.scalar s) => .ok (.value (.scalar s))
  | .ok .mergeSign => .ok .mergeSign
  | .ok .defaultSign => .error .malformed
  | .error e => .error e

/-- Turns a missing result into an error. -/
def orMalformed {α : Type} : Option α → Except Error α
  | some a => .ok a
  | none => .error .malformed

/-- The longest text that is taken for a key. -/
def keyLimit : Nat := 1024

/-- The cursor after a colon that makes a key of what was read since `first` on the same line. -/
def afterKey? (flow : Bool) (first c : Cursor) : Option Cursor :=
  let blanks := c.rest.takeWhile (· == ' ')
  let c := c.forward blanks.length
  match c.rest with
  | ':' :: rest =>
    if c.line = first.line ∧ c.column ≤ first.column + keyLimit ∧ (flow ∨ atGap rest) then
      some (c.forward 1)
    else none
  | _ => none

/-! ### Nodes in brackets -/

/-- A scalar: quoted, or plain. -/
def scalar (ctx : Context) (c : Cursor) : Except Error (Node × Cursor) :=
  let fuel := c.rest.length + 1
  match c.rest with
  | '\'' :: _ => do
    let (text, c) ← orMalformed (singleFrom? fuel (c.forward 1))
    return (.value (.ofString (String.ofList text)), c)
  | '"' :: _ => do
    let (text, c) ← orMalformed (doubleFrom? fuel (c.forward 1))
    return (.value (.ofString (String.ofList text)), c)
  | _ =>
    if startsPlain ctx.flow c.rest then
      let (text, c) := plainFrom ctx.flow ctx.least fuel [] c
      (plainNode text).map fun node => (node, c)
    else .error .malformed

mutual

/-- A node inside brackets, and the cursor at what follows it. -/
def flowNode : Nat → Cursor → Except Error (Node × Cursor)
  | 0, _ => .error .malformed
  | fuel + 1, c =>
    if c.atMarker then .error .malformed
    else
      match c.rest with
      | '[' :: _ => do
        let (items, c) ← flowItems fuel true (c.forward 1).skip
        return (.value (.list items), c)
      | '\x7b' :: _ => do
        let (pairs, c) ← flowPairs fuel true (c.forward 1).skip
        return (.value (← mapping pairs), c)
      | _ => scalar ⟨true, 0⟩ c

/-- The items of a list in brackets up to its end; a comma stands between two items. -/
def flowItems : Nat → Bool → Cursor → Except Error (List Value × Cursor)
  | 0, _, _ => .error .malformed
  | fuel + 1, isFirst, c =>
    match c.rest with
    | ']' :: _ => .ok ([], c.forward 1)
    | d :: _ => do
      let c ←
        if isFirst then pure c
        else if d = ',' then pure (c.forward 1).skip
        else throw .malformed
      match c.rest with
      | ']' :: _ => return ([], c.forward 1)
      | _ =>
        let (node, after) ← flowNode fuel c
        match afterKey? true c after with
        | some value =>
          let (v, after) ← flowValue fuel value.skip
          let item ← mapping [(node, v)]
          let (items, last) ← flowItems fuel false after.skip
          return (item :: items, last)
        | none =>
          let item ← node.toValue
          let (items, last) ← flowItems fuel false after.skip
          return (item :: items, last)
    | [] => .error .malformed

/-- The pairs of a mapping in braces up to its end; a comma stands between two pairs. -/
def flowPairs : Nat → Bool → Cursor → Except Error (List Pair × Cursor)
  | 0, _, _ => .error .malformed
  | fuel + 1, isFirst, c =>
    match c.rest with
    | '\x7d' :: _ => .ok ([], c.forward 1)
    | d :: _ => do
      let c ←
        if isFirst then pure c
        else if d = ',' then pure (c.forward 1).skip
        else throw .malformed
      match c.rest with
      | '\x7d' :: _ => return ([], c.forward 1)
      | _ =>
        let (key, after) ← flowNode fuel c
        match afterKey? true c after with
        | some value =>
          let (v, after) ← flowValue fuel value.skip
          let (pairs, last) ← flowPairs fuel false after.skip
          return ((key, v) :: pairs, last)
        | none =>
          let (pairs, last) ← flowPairs fuel false after.skip
          return ((key, .null) :: pairs, last)
    | [] => .error .malformed

/-- The value after a colon inside brackets; it may be left out. -/
def flowValue : Nat → Cursor → Except Error (Value × Cursor)
  | 0, _ => .error .malformed
  | fuel + 1, c =>
    match c.rest with
    | ',' :: _ => .ok (.null, c)
    | ']' :: _ => .ok (.null, c)
    | '\x7d' :: _ => .ok (.null, c)
    | _ => do
      let (node, c) ← flowNode fuel c
      return (← node.toValue, c)

end

/-! ### Block scalars -/

/-- How a block scalar treats the line breaks at its end: one is kept, none is, or all are. -/
inductive Chomping where
  | clip
  | strip
  | keep
  deriving DecidableEq, Repr

/-- The header of a block scalar after its sign: chomping and indentation in either order. -/
def blockHeader? (cs : List Char) : Option (Chomping × Option Nat × List Char) :=
  let chomping? (c : Char) : Option Chomping :=
    if c = '-' then some .strip else if c = '+' then some .keep else none
  let width? (c : Char) : Option Nat := if isNonzeroDigit c then some (c.toNat - 48) else none
  match cs with
  | a :: b :: rest =>
    match chomping? a, width? b with
    | some k, some w => some (k, some w, rest)
    | some k, none => if b = '0' then none else some (k, none, b :: rest)
    | none, _ =>
      match width? a, chomping? b with
      | some w, some k => some (k, some w, rest)
      | some w, none => some (.clip, some w, b :: rest)
      | none, _ => if a = '0' then none else some (.clip, none, a :: b :: rest)
  | [a] =>
    match chomping? a, width? a with
    | some k, _ => some (k, none, [])
    | none, some w => some (.clip, some w, [])
    | none, none => some (.clip, none, [a])
  | [] => some (.clip, none, [])

/-- Spaces up to a column, and line breaks between them. -/
def blockBreaks (least : Nat) : Nat → Cursor → List Char × Cursor
  | 0, c => ([], c)
  | fuel + 1, c =>
    let blanks := (c.rest.take (least - c.column)).takeWhile (· == ' ')
    let c := c.forward blanks.length
    match c.rest with
    | d :: _ =>
      if isBreak d then
        let (breaks, last) := blockBreaks least fuel c.next
        (breakOf d :: breaks, last)
      else ([], c)
    | [] => ([], c)

/-- The column of the first line that is not blank, and at least the longest blank line before. -/
def blockColumn : Nat → Nat → Cursor → Nat
  | 0, widest, _ => widest
  | fuel + 1, widest, c =>
    match c.rest with
    | ' ' :: _ => blockColumn fuel (max widest (c.column + 1)) (c.forward 1)
    | d :: _ => if isBreak d then blockColumn fuel widest c.next else widest
    | [] => widest

/-- The lines of a block scalar from column `least` on, the first of which starts at the cursor. -/
def blockLines (folded : Bool) (least : Nat) (chomping : Chomping) :
    Nat → List Char → Cursor → List Char × Cursor
  | 0, acc, c => (acc, c)
  | fuel + 1, acc, c =>
    if c.column ≠ least ∨ c.rest.isEmpty then (acc, c)
    else
      let startsText := !(c.rest.head?.any isInlineSpace)
      let text := c.rest.takeWhile fun d => !isBreak d
      let c := c.forward text.length
      let acc := acc ++ text
      match c.rest with
      | [] => (acc, c)
      | d :: _ =>
        let (breaks, after) := blockBreaks least fuel c.next
        let more := after.column = least ∧ !after.rest.isEmpty
        if more then
          let continues := !(after.rest.head?.any isInlineSpace)
          let joined :=
            if folded ∧ breakOf d = '\n' ∧ startsText ∧ continues then
              (if breaks.isEmpty then [' '] else []) ++ breaks
            else breakOf d :: breaks
          blockLines folded least chomping fuel (acc ++ joined) after
        else
          match chomping with
          | .strip => (acc, after)
          | .clip => (acc ++ [breakOf d], after)
          | .keep => (acc ++ breakOf d :: breaks, after)

/-- A block scalar whose sign stands at the cursor, inside a block at column `parent`. -/
def blockScalar (parent : Int) (c : Cursor) : Except Error (Value × Cursor) := do
  let folded := c.rest.head? == some '>'
  let (chomping, width, rest) ← orMalformed (blockHeader? (c.rest.drop 1))
  let header := c.forward (c.rest.length - rest.length)
  let blanks := rest.takeWhile (· == ' ')
  let after := header.forward blanks.length
  let lineEnd :=
    match after.rest with
    | '#' :: _ => after.forward (after.rest.takeWhile fun d => !isBreak d).length
    | _ => after
  match lineEnd.rest with
  | [] => return (.ofString "", lineEnd)
  | d :: _ =>
    if !isBreak d then throw .malformed
    else
      let body := lineEnd.next
      let fuel := body.rest.length + 1
      let floor := (max (parent + 1) 1).toNat
      let least :=
        match width with
        | some w => floor + w - 1
        | none => max floor (blockColumn fuel 0 body)
      let (breaks, first) := blockBreaks least fuel body
      let hasText := first.column = least ∧ !first.rest.isEmpty
      if hasText then
        let (text, last) := blockLines folded least chomping fuel breaks first
        return (.ofString (String.ofList text), last)
      else
        let text := match chomping with
          | .keep => breaks
          | _ => []
        return (.ofString (String.ofList text), first)

/-! ### Blocks -/

mutual

/--
A node of a block that stands inside a block at column `parent`. Only where `fresh` holds may a
block sequence or a block mapping start: at the first token of a line or after a hyphen.
-/
def blockNode : Nat → Int → Bool → Cursor → Except Error (Value × Cursor)
  | 0, _, _, _ => .error .malformed
  | fuel + 1, parent, fresh, c =>
    if c.atIndicator '-' then
      if fresh then do
        let (items, c) ← blockItems fuel c.column false c
        return (.list items, c)
      else .error .malformed
    else if c.rest.head? = some '|' ∨ c.rest.head? = some '>' then blockScalar parent c
    else do
      let (node, after) ← blockKey fuel parent c
      match afterKey? false c after with
      | some value =>
        if fresh then
          let (v, after) ← blockValue fuel c.column value
          let (pairs, last) ← blockPairs fuel c.column after.skip
          return (← mapping ((node, v) :: pairs), last)
        else throw .malformed
      | none => return (← node.toValue, after)

/-- A scalar or a collection in brackets, as it can stand in front of a colon. -/
def blockKey : Nat → Int → Cursor → Except Error (Node × Cursor)
  | 0, _, _ => .error .malformed
  | fuel + 1, parent, c =>
    match c.rest with
    | '[' :: _ => flowNode fuel c
    | '\x7b' :: _ => flowNode fuel c
    | _ => scalar ⟨false, (parent + 1).toNat⟩ c

/-- The value after a colon of a mapping at `column`. -/
def blockValue : Nat → Nat → Cursor → Except Error (Value × Cursor)
  | 0, _, _ => .error .malformed
  | fuel + 1, column, colon => do
    let c := colon.skip
    if c.rest.isEmpty ∨ c.atMarker then return (.null, c)
    else if c.line = colon.line then blockNode fuel column false c
    else if column < c.column then blockNode fuel column true c
    else if c.column = column ∧ c.atIndicator '-' then
      let (items, c) ← blockItems fuel column true c
      return (.list items, c)
    else return (.null, c)

/-- The further pairs of a mapping at `column`, from the next token on. -/
def blockPairs : Nat → Nat → Cursor → Except Error (List Pair × Cursor)
  | 0, _, _ => .error .malformed
  | fuel + 1, column, c => do
    if c.rest.isEmpty ∨ c.atMarker ∨ c.column < column then return ([], c)
    else if c.column ≠ column then throw .malformed
    else
      let (node, after) ← blockKey fuel column c
      match afterKey? false c after with
      | none => throw .malformed
      | some value =>
        let (v, after) ← blockValue fuel column value
        let (pairs, last) ← blockPairs fuel column after.skip
        return ((node, v) :: pairs, last)

/--
The items of a sequence at `column`, whose next hyphen stands at the cursor. A sequence at the
column of the mapping that it belongs to ends where no hyphen follows.
-/
def blockItems : Nat → Nat → Bool → Cursor → Except Error (List Value × Cursor)
  | 0, _, _, _ => .error .malformed
  | fuel + 1, column, inMapping, c => do
    let hyphen := c.forward 1
    let next := hyphen.skip
    let (v, after) ←
      if next.rest.isEmpty ∨ next.atMarker then pure (Value.null, next)
      else if next.line = hyphen.line ∨ column < next.column then blockNode fuel column true next
      else pure (Value.null, next)
    let after := after.skip
    if after.rest.isEmpty ∨ after.atMarker ∨ after.column < column then return ([v], after)
    else if after.column = column ∧ after.line ≠ c.line then
      if after.atIndicator '-' then
        let (items, last) ← blockItems fuel column inMapping after
        return (v :: items, last)
      else if inMapping then return ([v], after)
      else throw .malformed
    else throw .malformed

end

/-! ### Documents -/

/-- Characters that may stand in a document. -/
def isAllowed (c : Char) : Bool :=
  let n := c.toNat
  n == 9 || n == 10 || n == 13 || (32 ≤ n && n ≤ 126) || n == 0x85 || (0xA0 ≤ n && n ≤ 0xFFFD) ||
    0x10000 ≤ n

/-- What may follow a document: the end, after a mark for it. -/
def isFinished (c : Cursor) : Bool :=
  c.rest.isEmpty || (c.atMark "..." && (c.forward 3).skip.rest.isEmpty)

/-- The document from its first token on; nothing is null. -/
def document (fuel : Nat) (c : Cursor) : Except Error Value := do
  let marked := c.atMark "---"
  let first := if marked then (c.forward 3).skip else c
  if first.rest.isEmpty ∨ first.atMarker then
    if isFinished first then return .null else throw .malformed
  else
    let fresh := !marked || first.line != c.line
    let (v, after) ← blockNode fuel (-1) fresh first
    if isFinished after.skip then return v else throw .malformed

/-- Line breaks in one form. -/
def plainBreaks : List Char → List Char
  | '\r' :: '\n' :: cs => '\n' :: plainBreaks cs
  | '\r' :: cs => '\n' :: plainBreaks cs
  | c :: cs => c :: plainBreaks cs
  | [] => []

/-- The value of a document. -/
def read (text : String) : Except Error Value :=
  let cs := plainBreaks text.toList
  if !cs.all isAllowed then .error .malformed
  else
    let cs :=
      match cs with
      | c :: rest => if c.toNat = 0xFEFF then rest else cs
      | [] => cs
    document (8 * cs.length + 16) (Cursor.start cs).skip

end MediaQuery.Yaml
