import MediaQuery.Terminal.EmojiTable
import MediaQuery.Text.Casing
import MediaQuery.Text.Character

/-!
# Emoji codes

A name of an emoji between two colons is shown as the emoji. The name can end in `-text` or
`-emoji`, which asks for one of the two forms in which some emoji exist. Other text between colons
stays, and its second colon starts no code.
-/

namespace MediaQuery.Terminal

open Text

/-- The emoji of a name. -/
def emoji? (name : List Char) : Option (List Char) :=
  emojiNames.findSome? fun line =>
    (splitOn ' ' line.toList).findSome? fun entry =>
      match afterStart? name entry with
      | some ('=' :: shown) => some shown
      | _ => none

/-- The forms of emoji, each with the character that asks for it. -/
def emojiForms : List (String × Char) :=
  [("-text", Char.ofNat 0xFE0E), ("-emoji", Char.ofNat 0xFE0F)]

/-- The start of a text that ends in a given way. -/
def beforeEnd? (ending cs : List Char) : Option (List Char) :=
  (afterStart? ending.reverse cs.reverse).map List.reverse

/-- What is shown for the inside of a code, if it is one. -/
def shownCode? (inside : List Char) : Option (List Char) :=
  let form? := emojiForms.findSome? fun (ending, sign) =>
    (beforeEnd? ending.toList inside).map fun name => (name, [sign])
  let (name, sign) := form?.getD (inside, [])
  (emoji? (lower name)).map (· ++ sign)

/-- The inside of a code, for a text after its first colon, and what follows the code. -/
def codeAt? (cs : List Char) : Option (List Char × List Char) :=
  match cs.dropWhile (· != ':') with
  | _ :: rest =>
    if (cs.takeWhile (· != ':')).any isBlank then none else some (cs.takeWhile (· != ':'), rest)
  | [] => none

/-- What follows a code is shorter than the text that holds it. -/
theorem length_lt_of_codeAt? {cs inside rest : List Char} (h : codeAt? cs = some (inside, rest)) :
    rest.length < cs.length := by
  have hl := (List.dropWhile_suffix (l := cs) (· != ':')).length_le
  unfold codeAt? at h
  split at h
  · rename_i hd
    rw [hd] at hl
    split at h
    · cases h
    · cases h
      simp only [List.length_cons] at hl
      omega
  · cases h

/-- A text with its codes replaced by what they show. -/
def withEmoji : List Char → List Char
  | [] => []
  | c :: cs =>
    if c = ':' then
      match _h : codeAt? cs with
      | some (inside, rest) =>
        (shownCode? inside).getD ([':'] ++ inside ++ [':']) ++ withEmoji rest
      | none => ':' :: withEmoji cs
    else c :: withEmoji cs
termination_by cs => cs.length
decreasing_by
  · have := length_lt_of_codeAt? _h
    simp only [List.length_cons]; omega
  · simp only [List.length_cons]; omega
  · simp only [List.length_cons]; omega

end MediaQuery.Terminal
