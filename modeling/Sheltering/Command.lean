import Sheltering.Text.Split
import Sheltering.Text.Decimal

/-!
# Commands

The words after the name of the program are options and one command.

* `Command`, `Invocation`: what the program is asked for.
* `UsageFault`: why the words cannot be understood.
* `Invocation.ofWords`: reads the words.

An option is a letter after a dash or a name after two. Letters without a value may share a dash. A
value follows as the next word, or in the same word, perhaps after an equals sign. A word with a
dash in front is never the value of the word before it.
-/

namespace Sheltering

/-- What the program shows. -/
inductive Command where
  | lease (workType : Option String)
  | logs (limit : UInt32)
  | sheltered (limit : UInt32)
  | config
deriving DecidableEq, Repr

/-- A command and the form of its output. -/
structure Invocation where
  command : Command
  json : Bool
deriving DecidableEq, Repr

/-- Why the words are not a command to carry out. -/
inductive UsageFault where
  | unknownArgument
  | invalidSubcommand
  /-- An option lacks its value. -/
  | missingValue
  /-- A value is not of its type. -/
  | invalidValue
  /-- An option is given twice. -/
  | conflict
  /-- An option that takes no value is given one. -/
  | tooManyValues
  | nothingGiven
  | missingSubcommand
  | helpAsked
  | versionAsked
deriving DecidableEq, Repr

namespace UsageFault

/-- The exit code: asking for help is no mistake. -/
def exitCode : UsageFault → Nat
  | helpAsked | versionAsked => 0
  | _ => 2

end UsageFault

/-! ## Options -/

/-- An option. -/
inductive CommandOption where
  | json
  | help
  | version
  | workType
  | limit
deriving DecidableEq, Repr

namespace CommandOption

/-- The letter of an option. -/
def letter : CommandOption → Char
  | json => 'j'
  | help => 'h'
  | version => 'V'
  | workType => 'w'
  | limit => 'l'

/-- The name of an option. -/
def name : CommandOption → String
  | json => "json"
  | help => "help"
  | version => "version"
  | workType => "work-type"
  | limit => "limit"

/-- The option has a value. -/
def takesValue : CommandOption → Bool
  | workType | limit => true
  | _ => false

end CommandOption

/-- A natural number of 32 bits, with or without a sign. -/
def wordOfDecimal? (text : String) : Option UInt32 :=
  let (negative, unsigned) := Text.Decimal.sign text.toList
  match Text.spanAllDigits unsigned with
  | (d :: ds, []) =>
    let n := Text.ofDigits (d :: ds)
    if n < UInt32.size ∧ (!negative ∨ n = 0) then some (UInt32.ofNat n) else none
  | _ => none

/-- Where options may stand: before the command, or after one. -/
inductive CommandLevel where
  | top
  | lease
  | logs
  | sheltered
  | config
deriving DecidableEq, Repr

namespace CommandLevel

/-- The options of a level. -/
def options : CommandLevel → List CommandOption
  | top => [.json, .help, .version]
  | lease => [.json, .help, .workType]
  | logs | sheltered => [.json, .help, .limit]
  | config => [.json, .help]

/-- The commands by name. -/
def names : List (String × CommandLevel) :=
  [("lease", lease), ("logs", logs), ("sheltered", sheltered), ("config", config)]

/-- The name of the command that explains the others. -/
def helpName : String := "help"

/-- The word is a command of the level. Only the top level has any. -/
def isCommand (l : CommandLevel) (word : String) : Bool :=
  l = top && (word == helpName || (names.lookup word).isSome)

/-- What is wrong with a word that is neither option nor value. -/
def strayWord (l : CommandLevel) (afterDashes : Bool) (word : String) : UsageFault :=
  if l = top ∧ !(afterDashes && l.isCommand word) then .invalidSubcommand else .unknownArgument

end CommandLevel

/-- The options of a level as far as they are read. -/
structure GivenOptions where
  json : Bool := false
  workType : Option String := none
  limit : Option UInt32 := none
  /-- An option whose value is awaited or not yet looked at. -/
  pending : Option (CommandOption × Option String) := none

namespace GivenOptions

/-- An option is given at most once. -/
def once {α : Type} (old : Option α) (new : Except UsageFault α) : Except UsageFault (Option α) :=
  if old.isSome then .error .conflict else new.map some

/-- Takes the value of an option. -/
def take (g : GivenOptions) (o : CommandOption) (value : String) :
    Except UsageFault GivenOptions :=
  match o with
  | .workType => do pure { g with workType := ← once g.workType (.ok value) }
  | .limit => do
    let read := (wordOfDecimal? value).elim (.error .invalidValue) .ok
    pure { g with limit := ← once g.limit read }
  | _ => .ok g

/-- Looks at the pending option; its value must have come. -/
def settle (g : GivenOptions) : Except UsageFault GivenOptions :=
  match g.pending with
  | none => .ok g
  | some (_, none) => .error .missingValue
  | some (o, some value) => { g with pending := none }.take o value

/-- An option without a value. -/
def raise (g : GivenOptions) (o : CommandOption) : Except UsageFault GivenOptions := do
  let g ← g.settle
  match o with
  | .help => .error .helpAsked
  | .version => .error .versionAsked
  | .json => if g.json then .error .conflict else pure { g with json := true }
  | _ => pure g

/-- An option with a value, if it is in the same word. -/
def open? (g : GivenOptions) (o : CommandOption) (value : Option String) :
    Except UsageFault GivenOptions := do
  let g ← g.settle
  match value with
  | some value => g.take o value
  | none => pure { g with pending := some (o, none) }

/-- Options by their letters. -/
def letters (l : CommandLevel) : GivenOptions → List Char → Except UsageFault GivenOptions
  | g, [] => .ok g
  | g, c :: rest =>
    match l.options.find? fun o => o.letter = c with
    | none => .error .unknownArgument
    | some o =>
      if o.takesValue then
        let value :=
          match rest with
          | [] => none
          | '=' :: rest => some (String.ofList rest)
          | rest => some (String.ofList rest)
        g.open? o value
      else do
        let g ← g.raise o
        letters l g rest

/-- An option by its name, with its value if there is one. -/
def named (l : CommandLevel) (g : GivenOptions) (text : List Char) :
    Except UsageFault GivenOptions :=
  let name := String.ofList (text.takeWhile (· ≠ '='))
  let value :=
    match text.dropWhile (· ≠ '=') with
    | [] => none
    | _ :: value => some (String.ofList value)
  match l.options.find? fun o => o.name = name with
  | none => .error .unknownArgument
  | some o =>
    if o.takesValue then g.open? o value
    else if value.isSome then .error .tooManyValues
    else g.raise o

/-- Reads the words of a level up to a command, which is given with the words after it. After two
dashes no word is an option or a command. -/
def read (l : CommandLevel) : (afterDashes : Bool) → GivenOptions → List String →
    Except UsageFault (GivenOptions × Option (String × List String))
  | _, g, [] => do pure (← g.settle, none)
  | true, _, word :: _ => .error (l.strayWord true word)
  | false, g, word :: rest =>
    if l.isCommand word then do pure (← g.settle, some (word, rest))
    else
      match word.toList with
      | ['-', '-'] => read l true g rest
      | '-' :: '-' :: text => do read l false (← g.named l text) rest
      | '-' :: c :: text => do read l false (← g.letters l (c :: text)) rest
      | _ =>
        match g.pending with
        | some (o, none) => read l false { g with pending := some (o, some word) } rest
        | _ => .error (l.strayWord false word)

end GivenOptions

namespace Invocation

/-- How many rows are shown when no limit is given. -/
def standardLimit : UInt32 := 20

/-- The command of a level with its options. -/
def commandOf (l : CommandLevel) (g : GivenOptions) : Command :=
  match l with
  | .lease => .lease g.workType
  | .logs => .logs (g.limit.getD standardLimit)
  | .sheltered => .sheltered (g.limit.getD standardLimit)
  | .config | .top => .config

/-- Asking for help about a command, or about all. -/
def helpAbout : List String → UsageFault
  | [] => .helpAsked
  | [word] => if CommandLevel.top.isCommand word then .helpAsked else .invalidSubcommand
  | _ => .invalidSubcommand

/-- Reads the words after the name of the program. -/
def ofWords (words : List String) : Except UsageFault Invocation := do
  let (top, command) ← GivenOptions.read .top false {} words
  match command with
  | none => .error (if top.json then .missingSubcommand else .nothingGiven)
  | some (name, rest) =>
    match CommandLevel.names.lookup name with
    | none => .error (helpAbout rest)
    | some level => do
      let (own, _) ← GivenOptions.read level false {} rest
      pure { command := commandOf level own, json := top.json || own.json }

end Invocation

end Sheltering
