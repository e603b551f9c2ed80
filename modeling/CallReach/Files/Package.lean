import CallReach.Files.Gather
import CallReach.Settings.File
import CallReach.Source.Index

/-!
# Packages on disk

The settings file of a repository, the name of a Rust package, and the program that its sources make
up.
-/

namespace CallReach.FileTree

/-- Reads the settings file at a path. -/
def loadSettingsFile (t : FileTree) (path : String) : Except Failure FileSettings := do
  FileSettings.parse path (← t.readFile path)

/-- Reads the settings file of a directory, if it has one. -/
def loadSettings (t : FileTree) (dir : String) : Except Failure (Option FileSettings) := do
  let path := Path.join dir FileSettings.fileName
  if t.pathExists path then some <$> t.loadSettingsFile path else return none

/-- The name that a package has in paths. -/
def packageSpelling (name : String) : String := Text.replaceChar '-' '_' name

/-- The name that a manifest gives to its package. -/
def manifestName? (manifest : Toml.Table Toml) : Option String := do
  let package ← match ← manifest.find? "package" with
    | .table t | .inlineTable t => some t
    | _ => none
  match ← package.find? "name" with
  | .string name => some name
  | _ => none

/-- The manifest of a directory, if it has one. -/
def manifest (t : FileTree) (root : String) : Except Failure (Option (Toml.Table Toml)) := do
  let path := Path.join root "Cargo.toml"
  if t.isFile path then
    match Toml.parse? (← t.readFile path) with
    | some m => return some m
    | none => throw (.modelLoad path "invalid Cargo.toml" (some "not a document"))
  else return none

/-- The name of the package in a directory: as the manifest says, or that of the directory. -/
def packageName (t : FileTree) (root : String) : Except Failure String := do
  match (← t.manifest root).bind manifestName? with
  | some name => return packageSpelling name
  | none =>
    match Path.fileName? root with
    | some name => return packageSpelling name
    | none => throw (.modelLoad root "cannot determine crate name")

/-- The directory that holds the sources of a package. -/
def sourceRoot (t : FileTree) (root : String) : String :=
  let dir := Path.join root "src"
  if t.isDirectory dir then dir else root

/-- A path as it is seen from a directory that it starts with. -/
def relativeTo (dir path : String) : String :=
  let names := (Path.components path).drop (Path.components dir).length
  Path.ofComponents names

/-- The parsed sources of a package, in order. -/
def packageUnits (t : FileTree) (root : String) : Except Failure (List Source.SourceUnit) := do
  unless t.isDirectory root do throw (.modelLoad root "repository directory not found")
  let dir := t.sourceRoot root
  let files ← (t.gather dir).mapError fun message => .modelLoad dir message
  files.mapM fun path => do
    Source.SourceUnit.parse path (relativeTo dir path) (← t.readFile path)

end CallReach.FileTree
