import EntityModels.Proofs.CommandLine.Writing

/-!
The two commands agree. They look at the same inputs and, after what has been logged, report the
same lines; they succeed on the same inputs; and what one of them writes into a file is what it
prints when it is given none. All this holds whatever each of them logs, and in whatever style.
-/
namespace EntityModels.CommandLine

variable {σ α β : Type} {files : Files (StateM σ)} {s : σ} {inputs : Inputs} {out : String}
  {display : Display} {t : Trace} {c : Compilation} {error : RunError}

/-- The commands over these inputs: to check them, to print what they compile to, and to write it to
a file. -/
def Inputs.commands (inputs : Inputs) (out : String) : List Command :=
  [.check inputs, .compile inputs none, .compile inputs (some out)]

theorem mem_commands_iff {command : Command} : command ∈ inputs.commands out ↔
    command = .check inputs ∨ command = .compile inputs none ∨
      command = .compile inputs (some out) := by
  simp [Inputs.commands]

/-- The lines of a report: a warning for each diagnostic, then an error for each failed entity. -/
def reported (display : Display) (c : Compilation) : List String :=
  c.diagnostics.map (fun d => display.label .warning ++ " " ++ d.message) ++
    c.failures.map fun f => display.label .error ++ " " ++ f.message

theorem reportLines_eq (display : Display) (c : Compilation) :
    reportLines display c = String.join ((reported display c).map (· ++ "\n")) := by
  rw [reported, List.map_append, List.map_map, List.map_map, String.join_append]
  rfl

/-- What a command says of a compilation after its report when no entity failed. -/
def Command.closing (display : Display) (c : Compilation) : Command → String
  | .compile _ _ => ""
  | .check _ => display.label .ok ++ " " ++ toString c.models.size ++ " models\n"

/-- How a command ends that produced a compilation: after the log every line is reported, and it
succeeds exactly if no entity failed. -/
structure Reports (display : Display) (t : Trace) (c : Compilation) (closing : String)
    (o : Outcome) : Prop where
  status : o.status = if c.failures = [] then 0 else 1
  stderr : o.stderr = display.log.text t ++ String.join ((reported display c).map (· ++ "\n")) ++
    if c.failures = [] then closing
    else (RunError.failedEntities c.failures.length (c.failures.length + c.models.size)).report

theorem failedEntities?_eq_none (h : c.failures = []) : failedEntities? c = none := by
  rw [failedEntities?, Compilation.isClean, h]
  rfl

theorem failedEntities?_eq_some (h : c.failures ≠ []) : failedEntities? c =
    some (.failedEntities c.failures.length (c.failures.length + c.models.size)) := by
  rw [failedEntities?, Compilation.isClean, if_neg]
  rwa [List.isEmpty_iff]

/-- An outcome that ends with the report of a compilation reports it. -/
theorem reports_outcome (display : Display) (t : Trace) (c : Compilation) (stdout : String) :
    Reports display t c "" (outcome stdout (display.log.text t ++ reportLines display c)
      (failedEntities? c)) := by
  by_cases h : c.failures = []
  · rw [failedEntities?_eq_none h, reportLines_eq]
    exact ⟨(if_pos h).symm, by rw [if_pos h, String.append_empty]; rfl⟩
  · rw [failedEntities?_eq_some h, reportLines_eq]
    exact ⟨(if_neg h).symm, by rw [if_neg h]; rfl⟩

theorem outcome_stdout (stdout stderr : String) (error : Option RunError) :
    (outcome stdout stderr error).stdout = stdout := by
  cases error <;> rfl

/-- A command goes on from what the inputs compile to, with the files as they were. -/
theorem compile_bind_apply (hfiles : files.ReadsSafely) (inputs : Inputs)
    (next : Except RunError (Trace × Compilation) → StateM σ Outcome) (s : σ) :
    ((inputs.compile files).run >>= next) s = next (seen (inputs.compile files) s) s := by
  exact bind_apply_of_eq (Prod.ext rfl (readsOnly_compile hfiles inputs s))

/-- Without a compilation every command stops with the error, and nothing else happens. -/
theorem run_of_error (hfiles : files.ReadsSafely)
    (h : seen (inputs.compile files) s = .error error) {command : Command}
    (hcommand : command ∈ inputs.commands out) :
    command.run files display s = (outcome "" "" (some error), s) := by
  rcases mem_commands_iff.mp hcommand with rfl | rfl | rfl
  all_goals
    rw [Command.run, compile_bind_apply hfiles, h]
    rfl

section Compiled

variable (hfiles : files.ReadsSafely) (h : seen (inputs.compile files) s = .ok (t, c))
include hfiles h

/-- The check writes what has been logged, the report, and its closing line when nothing has
failed. -/
theorem run_check (display : Display) : (Command.check inputs).run files display s =
    (match failedEntities? c with
      | some error => outcome "" (display.log.text t ++ reportLines display c) (some error)
      | none => outcome "" (display.log.text t ++ reportLines display c ++
          (Command.check inputs).closing display c) none, s) := by
  rw [Command.run, compile_bind_apply hfiles, h]
  dsimp only
  cases failedEntities? c with
  | some error => rfl
  | none =>
    simp only [Command.closing, String.append_assoc]
    rfl

theorem run_print (display : Display) : (Command.compile inputs none).run files display s =
    (outcome (c.toJson.pretty ++ "\n") (display.log.text t ++ reportLines display c)
      (failedEntities? c), s) := by
  rw [Command.run, compile_bind_apply hfiles, h]
  rfl

/-- The compilation with a file prints nothing, and what it would print goes into the file. -/
theorem run_write (display : Display) (hout : files.Writable out s) :
    (Command.compile inputs (some out)).run files display s =
      (outcome "" (display.log.text t ++ reportLines display c) (failedEntities? c),
        ((writeOut files out c.toJson.pretty).run s).2) := by
  have hwrite : (writeOut files out c.toJson.pretty).run s =
      (.ok (), ((writeOut files out c.toJson.pretty).run s).2) :=
    Prod.ext (hout.succeeds c.toJson.pretty) rfl
  rw [Command.run, compile_bind_apply hfiles, h]
  exact bind_apply_of_eq hwrite

theorem reports_check (display : Display) :
    Reports display t c ((Command.check inputs).closing display c)
      ((Command.check inputs).run files display s).1 := by
  rw [run_check hfiles h]
  by_cases hclean : c.failures = []
  · rw [failedEntities?_eq_none hclean]
    refine ⟨(if_pos hclean).symm, ?_⟩
    rw [if_pos hclean, ← reportLines_eq]
    rfl
  · rw [failedEntities?_eq_some hclean]
    refine ⟨(if_neg hclean).symm, ?_⟩
    rw [if_neg hclean, ← reportLines_eq]
    rfl

/-- Every command on inputs that compile reports the compilation. -/
theorem reports_of_compiled (display : Display) (hout : files.Writable out s) {command : Command}
    (hcommand : command ∈ inputs.commands out) :
    Reports display t c (command.closing display c) (command.run files display s).1 := by
  rcases mem_commands_iff.mp hcommand with rfl | rfl | rfl
  · exact reports_check hfiles h display
  · rw [run_print hfiles h display]
    exact reports_outcome display t c _
  · rw [run_write hfiles h display hout]
    exact reports_outcome display t c _

end Compiled

/-- What the commands over the same inputs have in common in a state of the files, and what each of
them writes, however each of them shows what it has to say. -/
structure CommandsAgree (files : Files (StateM σ)) (s : σ) (inputs : Inputs) (out : String) :
    Prop where
  /-- Every command succeeds exactly if the inputs yield a compilation without a failed entity. -/
  succeeds_iff : ∀ display, ∀ command ∈ inputs.commands out,
    (command.run files display s).1.status = 0 ↔ ∃ t c, Yields files s inputs t c ∧ c.failures = []
  /-- Of a compilation, failed entities or not, every command reports the same lines, after what its
  log makes of the same events. -/
  reports : ∀ t c, Yields files s inputs t c → ∀ display, ∀ command ∈ inputs.commands out,
    Reports display t c (command.closing display c) (command.run files display s).1
  /-- Checking prints nothing and leaves the files as they were. -/
  check_quiet : ∀ display, ((Command.check inputs).run files display s).1.stdout = "" ∧
    ((Command.check inputs).run files display s).2 = s
  /-- Without a file to write, the compilation is printed, and the files are left as they were. -/
  prints : ∀ t c, Yields files s inputs t c → ∀ display,
    ((Command.compile inputs none).run files display s).1.stdout = c.toJson.pretty ++ "\n" ∧
    ((Command.compile inputs none).run files display s).2 = s
  /-- Nothing but the one text is written, and this is what the file then holds. -/
  writes : ∀ t c, Yields files s inputs t c → ∀ display,
    ((Command.compile inputs (some out)).run files display s).1.stdout = "" ∧
    ((Command.compile inputs (some out)).run files display s).2 =
      ((writeOut files out c.toJson.pretty).run s).2 ∧
    (files.read out ((Command.compile inputs (some out)).run files display s).2).1 =
      .ok c.toJson.pretty
  /-- Without a compilation all commands fail with the same error, and nothing else is written. -/
  stops : (¬∃ t c, Yields files s inputs t c) → ∃ error, ∀ display, ∀ command ∈ inputs.commands out,
    command.run files display s = (outcome "" "" (some error), s)

/-- Checking writes nothing, whether there is a compilation or not. -/
theorem check_writes_nothing (hfiles : files.ReadsSafely) (display : Display) :
    ((Command.check inputs).run files display s).1.stdout = "" ∧
      ((Command.check inputs).run files display s).2 = s := by
  cases h : seen (inputs.compile files) s with
  | error error =>
    have hmem : Command.check inputs ∈ inputs.commands "" := mem_commands_iff.mpr (.inl rfl)
    rw [run_of_error hfiles h hmem]
    exact ⟨rfl, rfl⟩
  | ok compiled =>
    obtain ⟨t, c⟩ := compiled
    rw [run_check hfiles h display]
    cases failedEntities? c with
    | none => exact ⟨rfl, rfl⟩
    | some error => exact ⟨rfl, rfl⟩

/-- A command succeeds when the inputs compile and no entity fails. -/
theorem succeeds_iff_of_writable (hfiles : files.ReadsSafely) (hout : files.Writable out s)
    (display : Display) {command : Command} (hcommand : command ∈ inputs.commands out) :
    (command.run files display s).1.status = 0 ↔
      ∃ t c, Yields files s inputs t c ∧ c.failures = [] := by
  simp only [← seen_compile_eq_ok_iff hfiles]
  cases h : seen (inputs.compile files) s with
  | error error =>
    rw [run_of_error hfiles h hcommand]
    simp [outcome]
  | ok compiled =>
    obtain ⟨t, c⟩ := compiled
    rw [(reports_of_compiled hfiles h display hout hcommand).status]
    constructor
    · intro hstatus
      exact ⟨t, c, rfl, by_contra fun hfailed => by simp [hfailed] at hstatus⟩
    · rintro ⟨_, _, heq, hclean⟩
      obtain ⟨rfl, rfl⟩ := Prod.mk.inj (Except.ok.inj heq)
      exact if_pos hclean

/-- The commands agree on all inputs, all files that can be read safely and all files to write
to. -/
theorem commands_agree (hfiles : files.ReadsSafely) (hout : files.Writable out s) :
    CommandsAgree files s inputs out where
  succeeds_iff display _ hcommand := succeeds_iff_of_writable hfiles hout display hcommand
  reports t c hc display _ hcommand :=
    reports_of_compiled hfiles ((seen_compile_eq_ok_iff hfiles).mpr hc) display hout hcommand
  check_quiet display := check_writes_nothing hfiles display
  prints t c hc display := by
    rw [run_print hfiles ((seen_compile_eq_ok_iff hfiles).mpr hc) display]
    exact ⟨outcome_stdout _ _ _, rfl⟩
  writes t c hc display := by
    rw [run_write hfiles ((seen_compile_eq_ok_iff hfiles).mpr hc) display hout]
    exact ⟨outcome_stdout _ _ _, rfl, hout.read_writeOut c.toJson.pretty⟩
  stops hnone := by
    cases h : seen (inputs.compile files) s with
    | error error => exact ⟨error, fun display _ hcommand => run_of_error hfiles h hcommand⟩
    | ok compiled =>
      exact absurd ⟨compiled.1, compiled.2, (seen_compile_eq_ok_iff hfiles).mp h⟩ hnone

/-- A directory with a source in which one entity has an array of integers, which fails it, and
another one refers to an entity that is not there. -/
def shelf : FileTree where
  files := [(["work", "shelf.json"], text.toUTF8)]
  directories := []
  current := ["work"]
where
  text := "\x7b\"entities\": [" ++
    "\x7b\"name\": \"pin\", \"properties\": [" ++
      "\x7b\"name\": \"sizes\", \"type\": \"array\", " ++
        "\"items\": \x7b\"type\": \"integer\"\x7d\x7d]\x7d, " ++
    "\x7b\"name\": \"tag\", \"properties\": [" ++
      "\x7b\"name\": \"owner\", \"$ref\": \"user\"\x7d]\x7d]\x7d"

def shelfInputs : Inputs where
  patterns := ["shelf.json"]
  pointer := none
  classPrefix := none

/-- An entity fails, and the output is to be written into a directory that is not there. -/
theorem commands_agree_shelf :
    FileTree.operations.ReadsSafely ∧ FileTree.operations.Writable "out/models.json" shelf ∧
      (∃ t c, Yields FileTree.operations shelf shelfInputs t c ∧
        c.failures.map (·.entity) = ["pin"] ∧ c.diagnostics.length = 1) ∧
      CommandsAgree FileTree.operations shelf shelfInputs "out/models.json" := by
  have hout : FileTree.operations.Writable "out/models.json" shelf :=
    FileTree.writable_of_writeOut (by decide +kernel)
  have hpaths : shelfInputs.patterns.mapM (expandInput FileTree.operations) =
      pure [["shelf.json"]] := by
    have hpath : isPattern "shelf.json" = false := by decide +kernel
    change ["shelf.json"].mapM _ = _
    rw [List.mapM_cons, expandInput, hpath]
    rfl
  have hc : ((seen (shelfInputs.compile FileTree.operations) shelf).toOption.map fun compiled =>
      (compiled.2.failures.map (·.entity), compiled.2.diagnostics.length)) = some (["pin"], 1) := by
    rw [Inputs.compile, hpaths]
    decide +kernel
  obtain ⟨⟨t, c⟩, hseen, hcounts⟩ := exists_ok_of_view hc
  refine ⟨FileTree.readsSafely_operations, hout,
    ⟨t, c, (seen_compile_eq_ok_iff FileTree.readsSafely_operations).mp hseen, ?_⟩,
    commands_agree FileTree.readsSafely_operations hout⟩
  exact Prod.ext_iff.mp hcounts

end EntityModels.CommandLine
