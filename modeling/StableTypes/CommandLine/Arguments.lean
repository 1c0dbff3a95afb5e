import StableTypes.CommandLine.Suggestion
import StableTypes.Text.Parts

/-!
# Arguments

Words on a command line are operands or options. An option stands for itself or
takes a value, which is the next word, whatever it looks like, or follows an
equals sign. After two dashes every word is an operand. Words from the first
unknown option on are strays, which a more specific command may understand.
-/

namespace StableTypes

/-- An option that a command understands. -/
structure CommandOption where
  /-- Its name without the two dashes. -/
  name : String
  /-- Its letter behind a single dash. -/
  letter : Option Char := none
  /-- What its value is, if it takes one. -/
  value : Option String := none
deriving DecidableEq, Inhabited

namespace CommandOption

/-- The option as it is written. -/
def flag (option : CommandOption) : String := "--" ++ option.name

/-- The option as it is written, with its value. -/
def usage (option : CommandOption) : String :=
  match option.value with
  | some value => option.flag ++ " <" ++ value ++ ">"
  | none => option.flag

end CommandOption

/-- Why a command line cannot be carried out. -/
inductive UsageError where
  /-- An option stands last but takes a value. -/
  | missingValue (option : CommandOption)
  /-- No command at hand understands the option. -/
  | unknownOption (flag : String) (suggestions : List String)
  /-- An operand is missing. -/
  | missingOperand (name : String)

/-- A question after the names that may have been meant. -/
def suggestionText : List String → String
  | [] => ""
  | [name] => s!"\n(Did you mean {name}?)"
  | names => "\n(Did you mean one of " ++ ", ".intercalate names ++ "?)"

/-- What is wrong, in one line and perhaps a question. -/
def UsageError.message : UsageError → String
  | .missingValue option => "error: option '" ++ option.usage ++ "' argument missing"
  | .unknownOption flag suggestions =>
    "error: unknown option '" ++ flag ++ "'" ++ suggestionText suggestions
  | .missingOperand name => s!"error: missing required argument '{name}'"

/-- The words of a command line sorted out. -/
structure Arguments where
  /-- The operands in order. -/
  operands : List String
  /-- The options in order, with their values. -/
  options : List (CommandOption × String)
  /-- The words from the first unknown option on, known options left out. -/
  strays : List String

namespace Arguments

/-- No words. -/
def none : Arguments := ⟨[], [], []⟩

/-- One more word in front. -/
def withWord (stray : Bool) (word : String) (arguments : Arguments) : Arguments :=
  if stray then { arguments with strays := word :: arguments.strays }
  else { arguments with operands := word :: arguments.operands }

/-- One more option in front. -/
def withOption (option : CommandOption) (value : String) (arguments : Arguments) : Arguments :=
  { arguments with options := (option, value) :: arguments.options }

/-- A word that has the form of an option. -/
def isOption (word : String) : Bool :=
  match word.toList with
  | '-' :: _ :: _ => true
  | _ => false

/-- The option that a word names; letters behind the letter of an option that
takes no value do not count. -/
def named? (known : List CommandOption) (word : String) : Option CommandOption :=
  match known.find? (·.flag = word) with
  | some option => some option
  | Option.none =>
    match word.toList with
    | '-' :: letter :: _ =>
      if letter = '-' then Option.none else known.find? (·.letter = some letter)
    | _ => Option.none

/-- The option and the value in a word with an equals sign. -/
def assigned? (known : List CommandOption) (word : String) : Option (CommandOption × String) :=
  let cs := word.toList
  let flag := cs.takeWhile (· ≠ '=')
  if flag.length < cs.length then
    (known.find? fun option => option.value.isSome && option.flag.toList = flag).map
      (·, String.ofList (cs.drop (flag.length + 1)))
  else Option.none

/-- Sorts out words; `stray` tells that an unknown option came before. -/
def scan (known : List CommandOption) : (stray : Bool) → List String → Except UsageError Arguments
  | _, [] => .ok none
  | stray, word :: words =>
    if word = "--" then
      .ok (if stray then ⟨[], [], word :: words⟩ else ⟨words, [], []⟩)
    else if isOption word then
      match named? known word with
      | some option =>
        if option.value.isSome then
          match words with
          | [] => .error (.missingValue option)
          | value :: words => (scan known stray words).map (withOption option value)
        else (scan known stray words).map (withOption option "")
      | Option.none =>
        match assigned? known word with
        | some (option, value) => (scan known stray words).map (withOption option value)
        | Option.none => (scan known true words).map (withWord true word)
    else (scan known stray words).map (withWord stray word)

/-- The value of an option; of several the last counts. -/
def value? (name : String) (arguments : Arguments) : Option String :=
  (arguments.options.reverse.find? (·.1.name = name)).map (·.2)

/-- An option was given. -/
def has (name : String) (arguments : Arguments) : Bool := (arguments.value? name).isSome

/-- The error about an unknown option, where `known` are the options at hand. -/
def unknownOption (known : List CommandOption) (flag : String) : UsageError :=
  let suggested :=
    if Text.startsWith flag "--" then
      Suggestion.suggestions (String.ofList (flag.toList.drop 2)) (known.map (·.name))
    else []
  .unknownOption flag (suggested.map ("--" ++ ·))

end Arguments

end StableTypes
