import EntityModels.CommandLine.Option
import EntityModels.Text.ControlSequence

/-!
What the program answers when its arguments are no command to run: a request for help, or a mistake.
-/
namespace EntityModels.CommandLine

open Text (shown)

/-- What has been wrong with the arguments. -/
inductive Mistake where
  | unexpectedArgument (argument : String)
  | unexpectedValue (value : String) (option : Opt)
  | unknownCommand (name : String)
  | missingValue (option : Opt)
  | missingOptions (options : List Opt)
  | missingCommand
  | repeatedOption (option : Opt)
deriving DecidableEq, Repr

/-- The text of a mistake. Of an argument, only what a terminal would show is written. -/
def Mistake.message : Mistake → String
  | .unexpectedArgument argument => "unexpected argument '" ++ shown argument ++ "' found"
  | .unexpectedValue value option =>
    "unexpected value '" ++ shown value ++ "' for '" ++ option.display ++
      "' found; no more were expected"
  | .unknownCommand name => "unrecognized subcommand '" ++ shown name ++ "'"
  | .missingValue option =>
    "a value is required for '" ++ option.display ++ "' but none was supplied"
  | .missingOptions options =>
    "the following required arguments were not provided:" ++
      String.join (options.map fun o => "\n  " ++ o.display)
  | .missingCommand =>
    "'modelc' requires a subcommand but one was not provided\n  [subcommands: " ++
      String.intercalate ", " commandNames ++ "]"
  | .repeatedOption option =>
    "the argument '" ++ option.display ++ "' cannot be used multiple times"

/-- What may have been meant. -/
inductive Tip where
  | option (option : Opt)
  | commandOption (command : String) (option : Opt)
  | commands (names : List String)
  | withoutDashes (command : String)
deriving DecidableEq, Repr

def Tip.message : Tip → String
  | .option o => "a similar argument exists: '--" ++ o.long ++ "'"
  | .commandOption command o => "'" ++ command ++ " --" ++ o.long ++ "' exists"
  | .commands [name] => "a similar subcommand exists: '" ++ name ++ "'"
  | .commands names =>
    "some similar subcommands exist: " ++
      String.intercalate ", " (names.map fun name => "'" ++ name ++ "'")
  | .withoutDashes command =>
    "subcommand '" ++ command ++ "' exists; to use it, remove the '--' before it"

/-- The outcome of a program: its exit status and what it writes. -/
structure Outcome where
  status : Nat
  stdout : String := ""
  stderr : String := ""
deriving DecidableEq, Repr

/-- The answer to arguments that are no command to run. -/
inductive Usage where
  | help (text : String)
  | noArguments
  | mistake (mistake : Mistake) (tip : Option Tip) (usage : Option String) (helpOption : Bool)
deriving DecidableEq, Repr

def Usage.outcome : Usage → Outcome
  | .help text => { status := 0, stdout := text }
  | .noArguments => { status := 2, stderr := Scope.top.helpText }
  | .mistake m tip usage helpOption =>
    { status := 2
      stderr := "error: " ++ m.message ++
        (tip.elim "" fun t => "\n\n  tip: " ++ t.message) ++
        (usage.elim "" fun u => "\n\n" ++ u) ++
        (if helpOption then "\n\nFor more information, try '--help'.\n" else "\n") }

end EntityModels.CommandLine
