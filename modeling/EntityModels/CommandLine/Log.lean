import EntityModels.Model.Event

/-!
The log: which events it shows, and the lines it makes of them. The time in a line, and how events
of runs side by side come between each other, differ from one run of the program to the next.
-/
namespace EntityModels.CommandLine

/-- A text with the control sequences around it that give it a style on a terminal. -/
def painted (style text : String) : String := "\x1b[" ++ style ++ "m" ++ text ++ "\x1b[0m"

/-- Gives a text a style, if there are to be any. -/
def paint (styled : Bool) (style text : String) : String :=
  if styled then painted style text else text

/-- A list has the items of several lists, those of each list in their order. -/
inductive Interleaves {α : Type} : List (List α) → List α → Prop
  | done {lists} (h : ∀ list ∈ lists, list = []) : Interleaves lists []
  | take {before after list rest} (x : α) (h : Interleaves (before ++ list :: after) rest) :
    Interleaves (before ++ (x :: list) :: after) (x :: rest)

theorem Interleaves.cons_nil {α : Type} {lists : List (List α)} {rest : List α}
    (h : Interleaves lists rest) : Interleaves ([] :: lists) rest := by
  induction h with
  | done h => exact .done (List.forall_mem_cons.mpr ⟨rfl, h⟩)
  | @take before _ _ _ x _ ih => exact @Interleaves.take _ ([] :: before) _ _ _ x ih

/-- One list after the other is one way to interleave them. -/
theorem interleaves_flatten {α : Type} (lists : List (List α)) :
    Interleaves lists lists.flatten := by
  induction lists with
  | nil => exact .done fun _ h => absurd h List.not_mem_nil
  | cons list lists ih =>
    rw [List.flatten_cons]
    induction list with
    | nil => exact ih.cons_nil
    | cons x list ihlist => exact @Interleaves.take _ [] _ _ _ x ihlist

/-- How a log is written. -/
structure Log where
  shows : Event → Bool
  /-- The line for an event, which may depend on how many there are before it. -/
  line : Event → Nat → String
  interleave : List (List Event) → List Event
  interleaves : ∀ lists, Interleaves lists (interleave lists)

def severityStyle : Severity → String
  | .error => "31"
  | .warning => "33"
  | .info => "32"
  | .debug => "34"
  | .trace => "35"

/-- The line for an event at a time: its severity, its message and its data. -/
def lineAt (styled : Bool) (time : String) (event : Event) : String :=
  paint styled "2" time ++ " " ++
    paint styled (severityStyle event.severity) event.severity.word ++ " " ++ event.message ++
    String.join (event.data.map fun (name, value) =>
      " " ++ paint styled "3" name ++ paint styled "2" "=" ++ value) ++ "\n"

example : lineAt false "now" (.finished 2 1 0) =
    "now  INFO compilation finished models=2 failures=1 diagnostics=0\n" := by decide +kernel

namespace Log

/-- The log that shows nothing. -/
def off : Log where
  shows _ := false
  line _ _ := ""
  interleave := List.flatten
  interleaves := interleaves_flatten

/-- The events of a run that are shown. -/
def shown (log : Log) (t : Trace) : List Event :=
  (log.interleave t.sideBySide ++ t.after).filter log.shows

def text (log : Log) (t : Trace) : String :=
  String.join ((log.shown t).zipIdx.map fun (event, number) => log.line event number)

end Log

/-- The words in front of the lines of a report. -/
inductive Label where
  | warning
  | error
  | ok
deriving DecidableEq, Repr

namespace Label

def word : Label → String
  | .warning => "warning:"
  | .error => "error:"
  | .ok => "ok:"

def style : Label → String
  | .warning => "1;33"
  | .error => "1;31"
  | .ok => "1;32"

end Label

/-- How the program shows what it has to say. -/
structure Display where
  log : Log
  label : Label → String

/-- Without a log, and without styles. -/
def Display.plain : Display where
  log := .off
  label := Label.word

/-- A part of the program and the gravity from which on its events are shown; without one, none
are. -/
structure Directive where
  target : String
  least : Option Severity
deriving DecidableEq, Repr

namespace Directive

def severity? : String → Option (Option Severity)
  | "off" | "0" => some none
  | "error" | "1" => some (some .error)
  | "warn" | "2" => some (some .warning)
  | "info" | "3" => some (some .info)
  | "debug" | "4" => some (some .debug)
  | "trace" | "5" => some (some .trace)
  | _ => none

/-- Reads a directive: a severity for the whole program, a part of it, or a part with a severity. -/
def ofText? (text : String) : Option Directive :=
  match text.splitOn "=" with
  | [one] =>
    match severity? one.toLower with
    | some least => some ⟨"", least⟩
    | none => some ⟨one, some .trace⟩
  | [target, word] => (severity? word.toLower).map fun least => ⟨target, least⟩
  | _ => none

/-- Directives with commas between them; only errors are shown when there are none. -/
def all? (text : String) : Option (List Directive) :=
  if text.isEmpty then some [⟨"", some .error⟩]
  else ((text.splitOn ",").filter (!·.isEmpty)).mapM ofText?

/-- What is shown when the environment does not say: warnings, or also the course of the program. -/
def byDefault (verbose : Bool) : Directive :=
  if verbose then ⟨"modelc", some .info⟩ else ⟨"", some .warning⟩

def covers (d : Directive) (event : Event) : Bool := event.target.startsWith d.target

/-- The directive that decides: the longest one for the event, the last of those. -/
def deciding? (directives : List Directive) (event : Event) : Option Directive :=
  (directives.filter (·.covers event)).foldl (fun best d =>
    if best.any fun b => d.target.length < b.target.length then best else some d) none

def shows (directives : List Directive) (event : Event) : Bool :=
  match (deciding? directives event).bind (·.least) with
  | some least => event.severity.rank ≤ least.rank
  | none => false

end Directive

end EntityModels.CommandLine
