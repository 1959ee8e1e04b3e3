import EntityModels.CommandLine.Usage
import EntityModels.Text.Similarity

/-!
Reading the arguments of the program.

Options are read one scope after the other: those before a command belong to the program, those
after it to the command. The values of an option are checked when they are complete: at the next
option or at the end.
-/
namespace EntityModels.CommandLine

open Text (similar)

/-- Where the graph comes from and how classes are named. -/
structure Inputs where
  patterns : List String
  pointer : Option String
  classPrefix : Option String
deriving DecidableEq, Repr

inductive Command where
  | compile (inputs : Inputs) (out : Option String)
  | check (inputs : Inputs)
deriving DecidableEq, Repr

/-- What has been read in one scope: the complete options with their values, and an option whose
values are being gathered. `expecting` says that the next argument may be one of them. -/
structure Gathered where
  complete : List (Opt × List String) := []
  pending : Option (Opt × List String) := none
  expecting : Bool := false
  onlyValues : Bool := false
deriving Repr

namespace Gathered

def given (g : Gathered) : List Opt := (g.complete.map (·.1)).eraseDups

def valuesOf (g : Gathered) (option : Opt) : List String :=
  (g.complete.filter (·.1 = option)).flatMap (·.2)

/-- Takes an option with all its values. -/
def take (scope : Scope) (g : Gathered) (option : Opt) (values : List String) :
    Except Usage Gathered :=
  if option.takesValue && values.isEmpty then
    .error (.mistake (.missingValue option) none none true)
  else if option = .help then .error (.help scope.helpText)
  else if option ∈ g.given && !option.repeats then
    .error (.mistake (.repeatedOption option) none (some scope.usage) true)
  else if option.refusesEmpty && values.contains "" then
    .error (.mistake (.missingValue option) none none true)
  else .ok { g with complete := g.complete ++ [(option, values)] }

/-- Takes the option whose values have been gathered. -/
def settle (scope : Scope) (g : Gathered) : Except Usage Gathered :=
  match g.pending with
  | none => .ok g
  | some (option, values) =>
    { g with pending := none, expecting := false }.take scope option values

/-- The options that count as given at a mistake. -/
def givenAtMistake (g : Gathered) : List Opt :=
  match g.pending with
  | none | some (_, []) => g.given
  | some (option, _) =>
    -- an option counts from its first value on
    if option ∉ g.given then g.given ++ [option]
    else if option.repeats then g.given
    -- one that was complete before and must not come again counts no longer
    else g.given.filter (· ≠ option)

/-- Reads an option with the value that is attached to it, if there is one. -/
def readOption (scope : Scope) (g : Gathered) (option : Opt) (attached : Option String) :
    Except Usage Gathered := do
  let done := { ← g.settle scope with expecting := false }
  match option.takesValue, attached with
  | true, none => return { done with pending := some (option, []), expecting := true }
  | true, some value => done.take scope option [value]
  | false, _ => done.take scope option []

def readValue (g : Gathered) (value : String) : Gathered :=
  match g.pending with
  | none => g
  | some (option, values) =>
    { g with pending := some (option, values ++ [value]), expecting := option.repeats }

end Gathered

/-- The options of the commands that are like a name, with the command, for the command that occurs
first among the arguments. -/
def commandOption? (name : String) (arguments : List String) : Option Tip :=
  let candidates := commands.filterMap fun (command, target) =>
    match target with
    | .help => none
    | .run scope => do
      let long ← (similar name (scope.options.map (·.long))).getLast?
      let option ← scope.options.find? (·.long = long)
      let place ← arguments.idxOf? command
      return (place, Tip.commandOption command option)
  candidates.foldl first none |>.map (·.2)
where
  first (best : Option (Nat × Tip)) (candidate : Nat × Tip) : Option (Nat × Tip) :=
    match best with
    | none => some candidate
    | some best => if candidate.1 < best.1 then some candidate else some best

def unknownOption (scope : Scope) (g : Gathered) (name : String) (rest : List String) : Usage :=
  let given := g.givenAtMistake
  let mistake := Mistake.unexpectedArgument ("--" ++ name)
  let like := (similar name (scope.options.map (·.long))).getLast?
  match like.bind fun long => scope.options.find? (·.long = long) with
  | some option =>
    .mistake mistake (some (.option option)) (some (scope.usageWith (given ++ [option]))) true
  | none =>
    let tip := if scope = .top then commandOption? name rest else none
    .mistake mistake tip (some (scope.usageWith given)) true

def unknownArgument (scope : Scope) (g : Gathered) (argument : String) : Usage :=
  let usage := some scope.usage
  if scope = .top then
    if g.onlyValues && (command? argument).isSome then
      .mistake (.unexpectedArgument argument) (some (.withoutDashes argument)) usage true
    else
      match similar argument commandNames with
      | [] => .mistake (.unknownCommand argument) none usage true
      | names => .mistake (.unknownCommand argument) (some (.commands names)) usage true
  else .mistake (.unexpectedArgument argument) none usage true

def readLetters (scope : Scope) (g : Gathered) : List Char → Except Usage Gathered
  | [] => .ok g
  | letter :: rest => do
    match scope.options.find? (·.letter? = some letter) with
    | none =>
      throw (.mistake (.unexpectedArgument ("-" ++ letter.toString)) none (some scope.usage) true)
    | some option =>
      if option.takesValue then
        let attached :=
          match rest with
          | [] => none
          | '=' :: value => some (String.ofList value)
          | value => some (String.ofList value)
        g.readOption scope option attached
      else readLetters scope (← g.readOption scope option none) rest

/-- Cuts the text after two dashes into the name of an option and the value attached to it. -/
def splitLong (text : List Char) : String × Option String :=
  let name := String.ofList (text.takeWhile (· ≠ '='))
  match text.dropWhile (· ≠ '=') with
  | [] => (name, none)
  | _ :: value => (name, some (String.ofList value))

def readLong (scope : Scope) (g : Gathered) (text : List Char) (rest : List String) :
    Except Usage Gathered :=
  let (name, attached) := splitLong text
  match scope.options.find? (·.long = name), attached with
  | none, _ => .error (unknownOption scope g name rest)
  | some option, some value =>
    if option.takesValue then g.readOption scope option attached
    else
      .error (.mistake (.unexpectedValue value option) none
        (some (scope.usageWithGroup g.given option)) true)
  | some option, none => g.readOption scope option none

/-- Reads one argument of a scope; `rest` follows it. -/
def readArgument (scope : Scope) (g : Gathered) (argument : String) (rest : List String) :
    Except Usage Gathered :=
  if g.onlyValues then .error (unknownArgument scope g argument)
  else
    match argument.toList with
    | ['-', '-'] => .ok { g with onlyValues := true }
    | '-' :: '-' :: text => readLong scope g text rest
    | '-' :: letter :: letters => readLetters scope g (letter :: letters)
    | _ =>
      if g.expecting then .ok (g.readValue argument)
      else .error (unknownArgument scope g argument)

def readScope (scope : Scope) (g : Gathered) : List String → Except Usage Gathered
  | [] => do
    let g ← g.settle scope
    let missing := scope.required.filter fun o => o ∉ g.given
    if missing.isEmpty then return g
    else throw (.mistake (.missingOptions missing) none
      (some (scope.usageWith (g.given ++ missing))) true)
  | argument :: rest => do readScope scope (← readArgument scope g argument rest) rest

/-- The answer of the command `help` to the names after it. -/
def helpAnswer : List String → Usage
  | [] => .help Scope.top.helpText
  | name :: rest =>
    let unknown := fun (text usage : String) (helpOption : Bool) =>
      Usage.mistake (.unknownCommand text) none (some usage) helpOption
    match command? name, rest with
    | none, _ => unknown name Scope.top.usage true
    | some (.run scope), [] => .help scope.helpText
    | some (.run scope), extra :: _ => unknown extra scope.usage true
    | some .help, [] => .help helpCommandText
    | some .help, extra :: _ => unknown extra "Usage: modelc help [COMMAND]..." false

/-- Reads the arguments before a command, and the command with its own. -/
def readTop (g : Gathered) : List String → Except Usage (Gathered × Scope × Gathered)
  | [] =>
    if g.given.isEmpty then .error .noArguments
    else .error (.mistake .missingCommand none (some Scope.top.usage) true)
  | argument :: rest =>
    match if g.onlyValues then none else command? argument with
    | some (.run scope) => return (g, scope, ← readScope scope {} rest)
    | some .help => .error (helpAnswer rest)
    | none => do readTop (← readArgument .top g argument rest) rest

def Gathered.command (scope : Scope) (g : Gathered) : Command :=
  let inputs : Inputs :=
    { patterns := g.valuesOf .input
      pointer := (g.valuesOf .jsonPointer).head?
      classPrefix := (g.valuesOf .classPrefix).head? }
  if scope = .compile then .compile inputs (g.valuesOf .out).head? else .check inputs

/-- A command to run, and whether its course is to be logged. -/
structure Invocation where
  verbose : Bool
  command : Command
deriving DecidableEq, Repr

def parse (arguments : List String) : Except Usage Invocation := do
  let (before, scope, g) ← readTop {} arguments
  return { verbose := .verbose ∈ before.given ++ g.given, command := g.command scope }

end EntityModels.CommandLine
