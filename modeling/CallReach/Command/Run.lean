import CallReach.Analysis.Report
import CallReach.Command.Arguments
import CallReach.Command.Trouble
import CallReach.Provider

/-!
# Running the command

A run takes arguments and a file tree to an exit code, printed text, log entries, and the file tree
after it. It goes through its stages with a session, in which files are written and texts printed as
they come. Standard output may fail: its reader may have gone, or its device may be full.
-/

namespace CallReach

/-- The inputs that every run needs. -/
structure Inputs where
  repo : String
  sources : List String
  sinks : List String
  deriving DecidableEq, Repr

/-- A value that is given and not blank, without the blanks around it. -/
def present (value : Option String) : Option String := do
  let text := Text.trim (← value)
  if text = "" then none else some text

namespace Flags

/-- The inputs of a run, which must all be given. -/
def inputs (f : Flags) : Except Failure Inputs :=
  match present f.repo, present f.sources, present f.sinks with
  | some repo, some sources, some sinks =>
    .ok { repo, sources := Text.commaList sources, sinks := Text.commaList sinks }
  | _, _, _ => .error (.config "repo, sources, and sinks flags are required")

/-- The settings file of a run: the one that is named, or the one in the directory if there is
one. -/
def settingsFile (f : Flags) (t : FileTree) (dir : String) : Except Failure (Option FileSettings) :=
  match f.config with
  | some path => some <$> t.loadSettingsFile path
  | none => t.loadSettings dir

/-- The settings of a run. What the command line says wins over the settings file. -/
def settings (f : Flags) (i : Inputs) (dir cwd : String) (file : Option FileSettings) :
    Except Failure Settings :=
  let stem := (f.modulePrefix <|> file.bind (·.modulePrefix)).getD ""
  let d : Settings.Draft :=
    { module := moduleIdentifier stem i.repo, root := dir, sources := i.sources, sinks := i.sinks }
  let d := file.elim d d.apply
  { d with
    markers := if f.generated.isEmpty then d.markers else f.generated
    linkClosures := d.linkClosures && !f.noClosures
    granularity := f.granularity.getD d.granularity : Settings.Draft }.build cwd

/-- Whether the report is printed as JSON. -/
def wantsJson (f : Flags) (file : Option FileSettings) : Bool :=
  f.json || ((file.bind (·.output)).bind (·.format)).any fun format =>
    Text.asciiLower format = "json"

/-- Where the program of a run comes from. -/
def provider (f : Flags) : Provider :=
  match f.model with
  | some path => .document path
  | none => .package

end Flags

/-- Checks a path to write to: it must be relative and may not lead upwards. -/
def checkOutputPath (path : String) : Except Trouble Unit :=
  if path.toList.contains '\x00' then .error (.plain "Output path contains null bytes")
  else if Path.isAbsolute path then
    .error (.plain s!"Output path must be relative, not absolute: {path}")
  else if (Path.components path).contains .up then
    .error (.plain s!"Path traversal (..) not allowed in output paths: {path}")
  else .ok ()

/-- What a run comes to. -/
structure Outcome where
  exit : Nat := 0
  stdout : String := ""
  trouble : Option Trouble := none
  logs : List Log.Entry := []
  tree : FileTree

/-- Where standard output fails: how many more characters come through, and the message of the
failure. -/
structure OutputLimit where
  room : Nat
  message : String

/-- Standard output: the text that has come through, and where it fails, if it does. -/
structure Stdout where
  text : String := ""
  limit : Option OutputLimit := none

/-- Writes as much of a text as comes through. The message of the failure is given if that is not
all. -/
def Stdout.write (o : Stdout) (text : String) : Stdout × Option String :=
  match o.limit with
  | none => ({ o with text := o.text ++ text }, none)
  | some l =>
    let through := text.toList.take l.room
    ({ text := o.text ++ String.ofList through
       limit := some { l with room := l.room - through.length } },
      if through.length < text.length then some l.message else none)

/-- What a run has done so far: the file tree as it is now, what has been printed, and the log. -/
structure Session where
  tree : FileTree
  stdout : Stdout := {}
  logs : List Log.Entry := []

/-- A run under way. It may stop with a trouble, and what was done before that stays done. -/
abbrev Run := ExceptT Trouble (StateM Session)

namespace Run

/-- The file tree as it is now. -/
def tree : Run FileTree := do return (← get).tree

/-- Notes log entries. -/
def note (entries : List Log.Entry) : Run Unit := modify fun s =>
    { s with logs := s.logs ++ entries }

/-- Writes a text to standard output, and gives the message of the failure if not all of it came
through. -/
def put (text : String) : Run (Option String) := do
  let (stdout, failed) := (← get).stdout.write text
  modify fun s => { s with stdout }
  return failed

/-- Breaks the run off. -/
def panic {α : Type} (message : String) : Run α := do
  note [Log.note .error s!"panic: {message}"]
  throw (.panic message)

/-- Prints a text, and does what is said with the message of a failure. -/
def printOr (handle : String → Run Unit) (text : String) : Run Unit := do
  match ← put text with
  | none => pure ()
  | some message => handle message

/-- Prints a text. The run is broken off if that fails. -/
def print : String → Run Unit :=
  printOr fun message => panic ("failed printing to stdout: " ++ message)

/-- Prints the plain report, or stops where that is not possible. -/
def printPlain : String → Run Unit :=
  printOr fun message => throw (.during "Failed to write report" (.plain message))

/-- Goes on with a result, or stops with its failure. -/
def take {α : Type} (result : Except Failure α) (wrap : Trouble → Trouble := id) : Run α :=
  match result with
  | .ok a => pure a
  | .error f => throw (wrap (.failure f))

/-- Writes a drawing to a file, or stops where that is not possible. -/
def writeDrawing (path drawing : String) : Run Unit := do
  match (← tree).write path drawing with
  | .ok tree => modify fun s => { s with tree }
  | .error e => throw (.during s!"Failed to write DOT output to {path}" (.plain e.message))

/-- Prints a drawing, or writes it to the file that is given. -/
def deliver (file : Option String) (drawing : String) : Run Unit :=
  match file with
  | none => print drawing
  | some path =>
    match checkOutputPath path with
    | .error e => throw e
    | .ok () => do
      writeDrawing path drawing
      print s!"DOT graph saved to: {path}\n"

end Run

open Run

/-- Prints the call graph, or writes it to a file. -/
def runDrawing (f : Flags) (c : Settings) : Run Unit := do
  note (if f.json then [Log.note .warn "--json has no effect together with --dot"] else [])
  let (g, notes) ← take (f.provider.callGraph (← tree) c) (.during "Failed to build call graph")
  note notes
  deliver f.dotFile g.toDrawing

/-- Prints the report. -/
def runReport (f : Flags) (c : Settings) (file : Option FileSettings) : Run Unit := do
  let (r, notes) ← take (f.provider.report (← tree) c) (.during "Analysis failed")
  note notes
  if f.wantsJson file then print (r.toJson.pretty ++ "\n") else printPlain r.plain

/-- Does what the flags ask for. -/
def runFlags (f : Flags) : Run Unit := do
  let t ← tree
  let i ← take f.inputs
  let dir := repositoryDir i.repo f.test
  let file ← take (f.settingsFile t dir)
  let c ← take (f.settings i dir (Place.text t.cwd) file) (.during "Invalid analysis configuration")
  note [Log.note .info
    s!"module={c.module} root={c.root} sources={c.sources.length} sinks={c.sinks.length}"]
  if f.dot || f.dotFile.isSome then runDrawing f c else runReport f c file

/-- What a run comes to by its end. One that stops leaves behind what it has done. -/
def Outcome.ofEnd : Except Trouble Unit × Session → Outcome
  | (.ok (), s) => { stdout := s.stdout.text, logs := s.logs, tree := s.tree }
  | (.error e, s) =>
    { exit := e.exit, stdout := s.stdout.text, trouble := some e, logs := s.logs, tree := s.tree }

/-- What it comes to when the flags are followed. -/
def Flags.outcome (f : Flags) (t : FileTree) (limit : Option OutputLimit := none) : Outcome :=
  .ofEnd ((runFlags f).run.run { tree := t, stdout := { limit } })

/-- The version of the command. -/
def versionText : String := "impactmap-cli 0.1.0\n"

/-- How to use the command. -/
def helpText : String :=
  "Reports which functions in source files reach functions in sink files\n\nOptions:\n" ++
    String.join (Flags.options.map fun (name, _) => "      --" ++ name ++ "\n")

/-- Runs the command. -/
def run (args : List String) (t : FileTree) (limit : Option OutputLimit := none) : Outcome :=
  -- No one is told if these texts do not come through.
  let shown (text : String) : String := (({ limit } : Stdout).write text).1.text
  match Flags.parse args with
  | .version => { stdout := shown versionText, tree := t }
  | .help => { stdout := shown helpText, tree := t }
  | .usageError => { exit := 2, tree := t }
  | .flags f => f.outcome t limit

end CallReach
