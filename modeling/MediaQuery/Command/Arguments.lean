import MediaQuery.Text.Character

/-!
# Reading arguments

A command knows options, each with a long and perhaps a short name, of which some take a value.
The value of a long option follows an equals sign or is the next argument, the value of a short
option follows at once or is the next argument, and short options without values can be put
together. Two hyphens end the options.

* `readArguments` sorts the arguments into options and all else.
-/

namespace MediaQuery.Command

open Text

/--
An option of a command: which one it is (`α` names them), its name after two hyphens, its name
after one, and whether a value belongs to it.
-/
structure OptionRule (α : Type) where
  key : α
  long : String
  short : Option Char
  takesValue : Bool

/--
The arguments of a command, sorted: the options in the order given, with their values, and all
others.
-/
structure Arguments (α : Type) where
  options : List (α × String)
  rest : List String

namespace Arguments

variable {α : Type}

/-- The arguments with another one in front. -/
def withRest (args : Arguments α) (arg : String) : Arguments α :=
  { args with rest := arg :: args.rest }

/-- All values of an option. -/
def values [BEq α] (args : Arguments α) (key : α) : List String :=
  (args.options.filter fun o => o.1 == key).map (·.2)

/-- The value of an option; the last one counts. -/
def value? [BEq α] (args : Arguments α) (key : α) : Option String := (args.values key).getLast?

/-- Whether an option is given. -/
def has [BEq α] (args : Arguments α) (key : α) : Bool := args.options.any fun o => o.1 == key

end Arguments

/--
What an argument turns out to be: options, with values that stand in the argument if they take any;
options of which the last one, `key`, wants the next argument for its value; or no known option.
-/
inductive Reading (α : Type) where
  | options (given : List (α × String))
  | wanting (given : List (α × String)) (key : α)
  | unknown

variable {α : Type}

/-- The short options of an argument, without its hyphen. -/
def readShort (rules : List (OptionRule α)) : List Char → Reading α
  | [] => .options []
  | c :: cs =>
    match rules.find? fun r => r.short == some c with
    | none => .unknown
    | some rule =>
      if rule.takesValue then
        if cs.isEmpty then .wanting [] rule.key else .options [(rule.key, String.ofList cs)]
      else
        match readShort rules cs with
        | .options given => .options ((rule.key, "") :: given)
        | .wanting given key => .wanting ((rule.key, "") :: given) key
        | .unknown => .unknown

/-- The long option of an argument, without its hyphens, and the value after an equals sign. -/
def readLong (rules : List (OptionRule α)) (cs : List Char) : Reading α :=
  let name := String.ofList (cs.takeWhile (· != '='))
  match rules.find? fun r => r.long == name, cs.dropWhile (· != '=') with
  | none, _ => .unknown
  | some rule, [] => if rule.takesValue then .wanting [] rule.key else .options [(rule.key, "")]
  | some rule, _ :: value =>
    if rule.takesValue then .options [(rule.key, String.ofList value)] else .unknown

/-- What an argument is that starts with a hyphen. -/
def readOption (rules : List (OptionRule α)) : List Char → Reading α
  | '-' :: '-' :: cs => readLong rules cs
  | '-' :: cs => readShort rules cs
  | _ => .unknown

/-- Arguments that are options: a hyphen and at least one more character. -/
def isOption (arg : String) : Bool :=
  match arg.toList with
  | '-' :: _ :: _ => true
  | _ => false

/--
Sorts arguments; none if an option is not known or lacks its value. If `mixed`, options may also
follow other arguments, else the first other argument ends the options.
-/
def readArguments (rules : List (OptionRule α)) (mixed : Bool) :
    List String → Option (Arguments α)
  | [] => some ⟨[], []⟩
  | arg :: args =>
    if arg = "--" then some ⟨[], args⟩
    else if isOption arg then
      match readOption rules arg.toList with
      | .unknown => none
      | .options given =>
        (readArguments rules mixed args).map fun r => { r with options := given ++ r.options }
      | .wanting given key =>
        match args with
        | [] => none
        | value :: args =>
          (readArguments rules mixed args).map fun r =>
            { r with options := given ++ (key, value) :: r.options }
    else if mixed then (readArguments rules mixed args).map (·.withRest arg)
    else some ⟨[], arg :: args⟩

end MediaQuery.Command
