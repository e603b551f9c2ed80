import CallReach.Granularity
import CallReach.Path
import CallReach.Pattern.Parser

/-!
# Settings

What an analysis is asked: the module to stay in, the files where paths start and end, and how to
treat generated code and closures. Settings are drafted first and then built: `Draft.build` checks
that nothing is missing, resolves the files against the root directory and reads the markers of
generated code.
-/

namespace CallReach

/-- A marker of generated code: a pattern together with its text. -/
structure Marker where
  text : String
  pattern : Pattern

namespace Marker

/-- Reads a marker. -/
def parse (text : String) : Except Failure Marker :=
  match Pattern.parse? text with
  | some pattern => .ok { text, pattern }
  | none => .error (.config s!"invalid generated-code marker '{text}'" (some "not a pattern"))

/-- Whether a file name matches the marker anywhere. -/
def marks (m : Marker) (file : String) : Bool := m.pattern.occursIn file

end Marker

/-- The settings of an analysis. Root and files are canonical absolute paths. -/
structure Settings where
  module : String
  root : String
  sources : List String
  sinks : List String
  markers : List Marker
  linkClosures : Bool
  granularity : Granularity

namespace Settings

/-- Whether a file holds generated code. -/
def isGenerated (c : Settings) (file : String) : Bool := c.markers.any (·.marks file)

/-- The same settings for another module. -/
def withModule (c : Settings) (module : String) : Settings := { c with module }

/-- The markers in use if none are given. -/
def defaultMarkers : List String := ["wire_gen"]

/-- Settings as they are given, before they are checked. -/
structure Draft where
  module : String := ""
  root : String := "."
  sources : List String := []
  sinks : List String := []
  markers : List String := defaultMarkers
  linkClosures : Bool := true
  granularity : Granularity := .file

/-- The canonical absolute paths of files that are seen from `root`, each once, in the order in
which they come first. -/
def resolveFiles (cwd root : String) (files : List String) : List String :=
  files.foldl (fun resolved file =>
    let path := Path.absolute cwd (Path.join root file)
    if resolved.any (Path.same path) then resolved else resolved ++ [path]) []

/-- Checks a draft and resolves its paths, which are relative to the directory `cwd`. -/
def Draft.build (d : Draft) (cwd : String) : Except Failure Settings := do
  if Text.trim d.module = "" then throw (.config "module identifier is required")
  if d.sources.isEmpty then throw (.config "at least one source file is required")
  if d.sinks.isEmpty then throw (.config "at least one sink file is required")
  let root := Path.absolute cwd d.root
  -- Markers are read last, so that missing files are complained of first.
  let markers ← d.markers.mapM Marker.parse
  return { module := d.module
           root
           sources := resolveFiles cwd root d.sources
           sinks := resolveFiles cwd root d.sinks
           markers
           linkClosures := d.linkClosures
           granularity := d.granularity }

end Settings

/-- The identifier of the module that a repository holds. -/
def moduleIdentifier (stem repository : String) : String := stem ++ repository

/-- The directory of a repository: next to the working directory in the layout for tests, and the
working directory itself otherwise. -/
def repositoryDir (repository : String) (testLayout : Bool) : String :=
  if testLayout then Path.join ".." repository else "."

end CallReach
