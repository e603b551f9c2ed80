import CallReach.Failure
import CallReach.Source.Body
import CallReach.Source.Grammar.File
import CallReach.Source.Imports

/-!
# Source units

Everything that linking needs to know about one source file: where it is, which module it is, what
it imports and which bodies it has.
-/

namespace CallReach.Source

/-- One source file. -/
structure SourceUnit where
  file : String
  module : ModulePath
  imports : Imports
  bodies : List Body

namespace SourceUnit

/-- The unit of a file that has been read. -/
def ofSourceFile (path : String) (module : ModulePath) (source : SourceFile) : SourceUnit :=
  { file := path
    module
    imports := Imports.ofTrees module source.uses
    bodies := bodiesOf module source.outline }

/-- Reads a file, given by its path, by its path below the source directory and by its text. -/
def parse (path relative text : String) : Except Failure SourceUnit :=
  match SourceFile.parse text with
  | .ok source => .ok (ofSourceFile path (ModulePath.ofFile relative) source)
  | .error p =>
    .error (.parse path s!"syntax error at {p.line}:{p.column}" p.line p.column)

end SourceUnit

end CallReach.Source
