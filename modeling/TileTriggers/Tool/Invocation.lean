import TileTriggers.Text.Decimal

/-!
# Command Lines

What a command line asks for. Arguments are read from left to right and the first
thing that settles the matter does: a request for help wins over any mistake that
follows it, and a mistake over any request for help behind it.

An option is known by a long name and possibly a letter. Letters without values
can be joined behind one hyphen, a value can follow its option directly or as the
next argument, and behind two hyphens alone nothing is an option any more. No
option can be given twice, except that the settings file can be named both before
and after the command, where the latter counts.

## Main definitions

* `Command`: What to do.
* `Invocation`: A command with the settings file to use.
* `Outcome`: What a command line comes to.
* `Outcome.ofArguments`: The reading of a command line.
-/

namespace TileTriggers

/-- What to do. -/
inductive Command
  /-- Compile a listing and report its mistakes. -/
  | check (listing : String) (verbose : Bool)
  /-- Write a blank map. -/
  | new (map : String) (width height : Option Nat) (force : Bool)
  /-- Describe a map. -/
  | dump (map : String) (objects : Bool)
  /-- Replace the scripts of a map by those of a listing. -/
  | scripts (map listing : String)
  deriving DecidableEq, Repr

/-- A command with the settings file to use. -/
structure Invocation where
  settingsFile : String
  command : Command
  deriving DecidableEq, Repr

/-- The options of the commands and of the program itself. -/
inductive CommandOption
  | config | help | version | verbose | width | height | force | objects
  deriving DecidableEq, Repr

namespace CommandOption

/-- The long name of an option. -/
def name : CommandOption → String
  | .config => "config"
  | .help => "help"
  | .version => "version"
  | .verbose => "verbose"
  | .width => "width"
  | .height => "height"
  | .force => "force"
  | .objects => "objects"

/-- The letter of an option. -/
def letter? : CommandOption → Option Char
  | .config => some 'c'
  | .help => some 'h'
  | .version => some 'V'
  | .verbose => some 'v'
  | .width => none
  | .height => none
  | .force => some 'f'
  | .objects => some 'o'

/-- Whether an option has a value. -/
def hasValue : CommandOption → Bool
  | .config | .width | .height => true
  | _ => false

/-- Whether a text can be the value of an option. -/
def accepts (option : CommandOption) (value : String) : Bool :=
  match option with
  | .config => !value.isEmpty
  | _ => true

end CommandOption

/-- Why a command line is not carried out. -/
inductive Stop
  | help | version | misuse
  deriving DecidableEq, Repr

/-- What a part of an argument means. -/
inductive Part
  | option (option : CommandOption) (value : String)
  | word (text : String)
  | mistake
  deriving DecidableEq, Repr

/-- An option that needs a value, with the next argument as its value. Something
    that looks like an option is none. -/
def Part.withNext (needed : CommandOption) : List String → List Part × List String
  | [] => ([.mistake], [])
  | value :: rest =>
    if value.startsWith "-" && value != "-" then ([.mistake], rest)
    else ([.option needed value], rest)

/-- The parts of an argument with letters behind one hyphen. -/
def Part.ofLetters (known : List CommandOption) (rest : List String) :
    List Char → List Part × List String
  | [] => ([], rest)
  | letter :: letters =>
    match known.find? fun o => o.letter? == some letter with
    | none => ([.mistake], rest)
    | some found =>
      if found.hasValue then
        match letters with
        | [] => Part.withNext found rest
        | '=' :: value => ([.option found (String.ofList value)], rest)
        | value => ([.option found (String.ofList value)], rest)
      else
        let (parts, rest) := Part.ofLetters known rest letters
        (.option found "" :: parts, rest)

/-- The parts of an argument, which may take the next one as a value. -/
def Part.ofArgument (known : List CommandOption) (argument : String) (rest : List String) :
    List Part × List String :=
  match argument.toList with
  | '-' :: '-' :: body =>
    let (name, value) := body.span (· != '=')
    match known.find? fun o => o.name.toList == name with
    | none => ([.mistake], rest)
    | some found =>
      match found.hasValue, value with
      | true, [] => Part.withNext found rest
      | true, _ :: value => ([.option found (String.ofList value)], rest)
      | false, [] => ([.option found ""], rest)
      | false, _ :: _ => ([.mistake], rest)
  | '-' :: letter :: letters => Part.ofLetters known rest (letter :: letters)
  | _ => ([.word argument], rest)

/-- What was gathered of the arguments of a command. -/
structure Gathered where
  options : List (CommandOption × String)
  words : List String

namespace Gathered

/-- Nothing yet. -/
def empty : Gathered :=
  ⟨[], []⟩

/-- The value of an option, if it was given. -/
def value? (g : Gathered) (option : CommandOption) : Option String :=
  g.options.lookup option

/-- Whether an option was given. -/
def has (g : Gathered) (option : CommandOption) : Bool :=
  (g.value? option).isSome

/-- The number that an option has as its value: decimal digits, possibly behind
    a plus sign. -/
def number? (value : String) : Option Nat :=
  match value.toList with
  | '+' :: digits => Decimal.value? (Nat.pow 2 64 - 1) digits
  | digits => Decimal.value? (Nat.pow 2 64 - 1) digits

/-- What was gathered with one more word, unless there are enough already. -/
def addWord (limit : Nat) (g : Gathered) (word : String) : Except Stop Gathered :=
  if g.words.length < limit && !word.isEmpty then .ok { g with words := g.words ++ [word] }
  else .error .misuse

/-- What was gathered with one more part, unless it settles the matter. -/
def addPart (limit : Nat) (g : Gathered) : Part → Except Stop Gathered
  | .mistake => .error .misuse
  | .word text => g.addWord limit text
  | .option .help _ => .error .help
  | .option .version _ => .error .version
  | .option option value =>
    let isNumber := option = .width ∨ option = .height
    if g.has option || !option.accepts value || (isNumber && (number? value).isNone) then
      .error .misuse
    else .ok { g with options := g.options ++ [(option, value)] }

/-- All that the arguments of a command say, given how many words it takes. -/
def ofArguments (known : List CommandOption) (limit : Nat) :
    Nat → Gathered → List String → Except Stop Gathered
  | 0, g, _ => .ok g
  | _ + 1, g, [] => .ok g
  | fuel + 1, g, argument :: rest =>
    if argument = "--" then rest.foldlM (addWord limit) g
    else do
      let (parts, rest) := Part.ofArgument known argument rest
      ofArguments known limit fuel (← parts.foldlM (addPart limit) g) rest

end Gathered

namespace Command

/-- The options and the number of words of the command with some name. -/
def signature? : String → Option (List CommandOption × Nat)
  | "check" => some ([.config, .help, .verbose], 1)
  | "new" => some ([.config, .help, .width, .height, .force], 1)
  | "dump" => some ([.config, .help, .objects], 1)
  | "scripts" => some ([.config, .help], 2)
  | _ => none

/-- The command with some name and what was gathered for it. -/
def ofGathered? (name : String) (g : Gathered) : Option Command :=
  match name, g.words with
  | "check", [listing] => some (.check listing (g.has .verbose))
  | "new", [map] =>
    some (.new map ((g.value? .width).bind Gathered.number?)
      ((g.value? .height).bind Gathered.number?) (g.has .force))
  | "dump", [map] => some (.dump map (g.has .objects))
  | "scripts", [map, listing] => some (.scripts map listing)
  | _, _ => none

end Command

/-- What a command line comes to. -/
inductive Outcome
  | run (invocation : Invocation)
  | stop (reason : Stop)
  deriving DecidableEq, Repr

namespace Outcome

/-- The settings file where none is named. -/
def defaultSettingsFile : String := "raymap.toml"

/-- The command that the rest of a command line asks for. -/
def ofCommand (before : Gathered) (name : String) (rest : List String) : Outcome :=
  match Command.signature? name with
  | none => .stop .misuse
  | some (known, limit) =>
    match Gathered.ofArguments known limit (rest.length + 1) .empty rest with
    | .error reason => .stop reason
    | .ok g =>
      match Command.ofGathered? name g with
      | none => .stop .misuse
      | some command =>
        let file := (g.value? .config).or (before.value? .config)
        .run ⟨file.getD defaultSettingsFile, command⟩

/-- The help that the rest of a command line asks for: on the program or on one
    of its commands. -/
def ofHelp : List String → Outcome
  | [] => .stop .help
  | [name] =>
    if name = "help" ∨ (Command.signature? name).isSome then .stop .help else .stop .misuse
  | _ => .stop .misuse

/-- The reading of a command line, given what was gathered before its command. An
    option with the next argument as its value waits until something else is read
    and only then can turn out to be a mistake: when the next option is read, or behind
    the whole command. -/
def fromTop : Nat → Gathered → List Part → List String → Outcome
  | 0, _, _, _ => .stop .misuse
  | _ + 1, _, _, [] => .stop .misuse
  | fuel + 1, g, waiting, argument :: rest =>
    let settled := waiting.foldlM (Gathered.addPart 0) g
    match Part.ofArgument [.config, .help, .version] argument rest with
    | ([.word name], rest) =>
      if name = "help" then ofHelp rest
      else
        match ofCommand (settled.toOption.getD g) name rest, settled with
        | .run _, .error reason => .stop reason
        | outcome, _ => outcome
    | (parts, behind) =>
      if argument = "--" then .stop .misuse
      else
        let (now, waiting) :=
          if behind.length < rest.length then (parts.dropLast, parts.getLast?.toList)
          else (parts, [])
        match do now.foldlM (Gathered.addPart 0) (← settled) with
        | .error reason => .stop reason
        | .ok g => fromTop fuel g waiting behind

/-- The reading of a command line. -/
def ofArguments (arguments : List String) : Outcome :=
  fromTop (arguments.length + 1) .empty [] arguments

end Outcome

end TileTriggers
