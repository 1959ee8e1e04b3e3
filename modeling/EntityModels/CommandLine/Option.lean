/-!
The commands and options of the command line, and the texts that describe them.
-/
namespace EntityModels.CommandLine

inductive Opt where
  | jsonPointer
  | verbose
  | classPrefix
  | input
  | out
  | help
deriving DecidableEq, Repr

namespace Opt

def long : Opt → String
  | .jsonPointer => "json-pointer"
  | .verbose => "verbose"
  | .classPrefix => "class-prefix"
  | .input => "input"
  | .out => "out"
  | .help => "help"

def letter? : Opt → Option Char
  | .verbose => some 'v'
  | .input => some 'i'
  | .out => some 'o'
  | .help => some 'h'
  | .jsonPointer | .classPrefix => none

def takesValue : Opt → Bool
  | .jsonPointer | .classPrefix | .input | .out => true
  | .verbose | .help => false

/-- Whether several values may follow, and the option may occur several times. -/
def repeats : Opt → Bool
  | .input => true
  | _ => false

def isRequired : Opt → Bool
  | .input => true
  | _ => false

def refusesEmpty : Opt → Bool
  | .out => true
  | _ => false

/-- The option as messages show it. -/
def display : Opt → String
  | .jsonPointer => "--json-pointer <JSON_POINTER>"
  | .verbose => "--verbose"
  | .classPrefix => "--class-prefix <CLASS_PREFIX>"
  | .input => "--input <INPUT>..."
  | .out => "--out <OUT>"
  | .help => "--help"

end Opt

/-- The part of the command line that is being read: before a command, or after it. -/
inductive Scope where
  | top
  | compile
  | check
deriving DecidableEq, Repr

namespace Scope

def options : Scope → List Opt
  | .top => [.verbose, .help]
  | .compile => [.jsonPointer, .classPrefix, .input, .out, .verbose, .help]
  | .check => [.jsonPointer, .classPrefix, .input, .verbose, .help]

def required (s : Scope) : List Opt := s.options.filter (·.isRequired)

/-- The words up to the end of the scope's name. -/
def words : Scope → String
  | .top => "modelc"
  | .compile => "modelc compile"
  | .check => "modelc check"

/-- How the scope is used. -/
def usage : Scope → String
  | .top => "Usage: modelc [OPTIONS] <COMMAND>"
  | .compile => "Usage: modelc compile [OPTIONS] --input <INPUT>..."
  | .check => "Usage: modelc check [OPTIONS] --input <INPUT>..."

/-- The options of a scope that are described together. -/
def group : Scope → List Opt
  | .top => [.verbose]
  | .compile | .check => [.jsonPointer, .classPrefix, .input]

def groupText (s : Scope) : String :=
  "<" ++ String.intercalate "|" (s.group.map (·.display)) ++ ">"

/-- How the scope is used with the given items. -/
def usageLine (s : Scope) (items : List String) : String :=
  "Usage: " ++ s.words ++ String.join (items.map (" " ++ ·)) ++
    if s = .top then " <COMMAND>" else ""

/-- How the scope is used with the given options. Those that have to be given come first. -/
def usageWith (s : Scope) (given : List Opt) : String :=
  if given.isEmpty then s.usage
  else s.usageLine ((s.required ++ given).eraseDups.map (·.display))

/-- How the scope is used with an option after the given ones. When one of the group has been given,
the group stands at the end in place of its options. -/
def usageWithGroup (s : Scope) (given : List Opt) (option : Opt) : String :=
  let options := (s.required ++ given ++ [option]).eraseDups
  if given.any (s.group.contains ·) then
    s.usageLine ((options.filter (!s.group.contains ·)).map (·.display) ++ [s.groupText])
  else s.usageLine (options.map (·.display))

def helpText : Scope → String
  | .top =>
    "compile entity graphs into model, builder and merge descriptors\n\n" ++
    "Usage: modelc [OPTIONS] <COMMAND>\n\n" ++
    "Commands:\n" ++
    "  compile  compile and write the model descriptors as JSON\n" ++
    "  check    compile and report failures and diagnostics only\n" ++
    "  help     Print this message or the help of the given subcommand(s)\n\n" ++
    "Options:\n" ++
    "  -v, --verbose  log compiler progress (overridden by RUST_LOG)\n" ++
    "  -h, --help     Print help\n"
  | .compile =>
    "compile and write the model descriptors as JSON\n\n" ++
    "Usage: modelc compile [OPTIONS] --input <INPUT>...\n\n" ++
    inputOptions ++
    "  -o, --out <OUT>                    output .json file (stdout if omitted)\n" ++
    helpOption
  | .check =>
    "compile and report failures and diagnostics only\n\n" ++
    "Usage: modelc check [OPTIONS] --input <INPUT>...\n\n" ++
    inputOptions ++
    helpOption
where
  inputOptions : String :=
    "Options:\n" ++
    "      --json-pointer <JSON_POINTER>  JSON Pointer to the graph inside each document" ++
    " (e.g. /components/schema)\n" ++
    "  -v, --verbose                      log compiler progress (overridden by RUST_LOG)\n" ++
    "      --class-prefix <CLASS_PREFIX>  prefix prepended to every class name (e.g. PI)\n" ++
    "  -i, --input <INPUT>...             One or more inputs. May be literal paths or quoted" ++
    " glob patterns\n"
  helpOption : String := "  -h, --help                         Print help\n"

end Scope

inductive CommandName where
  | run (scope : Scope)
  | help
deriving DecidableEq, Repr

def commands : List (String × CommandName) :=
  [("compile", .run .compile), ("check", .run .check), ("help", .help)]

def commandNames : List String := commands.map (·.1)

def command? (name : String) : Option CommandName :=
  (commands.find? fun entry => entry.1 = name).map (·.2)

def helpCommandText : String :=
  "Print this message or the help of the given subcommand(s)\n\n" ++
  "Usage: modelc help [COMMAND]...\n\n" ++
  "Arguments:\n" ++
  "  [COMMAND]...  Print help for the subcommand(s)\n"

end EntityModels.CommandLine
