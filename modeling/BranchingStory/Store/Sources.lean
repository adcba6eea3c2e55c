import BranchingStory.Files.Access
import BranchingStory.Files.Path
import BranchingStory.Notation.Story
import BranchingStory.Validation.Check

/-!
# Building a store

A store is built from package directories, package files and packages given directly, in
this order, and what comes later replaces what came before. A strict build refuses a
story with errors; a lenient one only fails where something cannot be read or bound.
-/

namespace BranchingStory

open Files

/-- Reads the content of a package file. -/
def Package.ofText (text : String) : Except StoryError Package :=
  (Notation.readAs Package text).mapError .unreadable

namespace Store

variable {σ : Type}

/-- The store of a package. A strict build refuses one that has any error, and then
reports all issues. -/
def ofPackage (package : Package) (bindings : HostBindings σ) (strict : Bool) :
    Except StoryError (Store σ) :=
  match Store.empty.load package bindings with
  | (.error error, _) => .error error
  | (.ok (), store) =>
      let issues := store.validate
      if strict && issues.any (·.isError) then .error (.invalidPackage issues)
      else .ok store

end Store

/-- Where the content of a store comes from. -/
structure Sources where
  directories : List String
  files : List String
  packages : List Package

namespace Sources

/-- No content. -/
def empty : Sources := ⟨[], [], []⟩

variable {m : Type → Type} [Monad m] [FileAccess m]

/-- A result of file access whose failure is an error of loading. -/
def accessed {α : Type} (access : m (Except Fault α)) : ExceptT StoryError m α :=
  ExceptT.mk ((·.mapError .fileAccess) <$> access)

/-- The package of a file. -/
def readPackage (path : String) : ExceptT StoryError m Package := do
  let text ← accessed (FileAccess.read path)
  ExceptT.mk (pure (Package.ofText text))

/-- The package files directly inside a directory, in the order of their names. -/
def packageFiles (directory : String) : ExceptT StoryError m (List String) := do
  let names ← accessed (FileAccess.list directory)
  return ((names.filter Path.isPackage).map (Path.join directory)).mergeSort Path.before

/-- Lays the packages of some files over a package, one after another. -/
def mergeFiles (base : Package) (paths : List String) : ExceptT StoryError m Package :=
  paths.foldlM (fun package path => return package.merge (← readPackage path)) base

/-- The content of all sources in one package. -/
def gather (sources : Sources) : ExceptT StoryError m Package := do
  let package ← sources.directories.foldlM
    (fun package directory => do mergeFiles package (← packageFiles directory))
    Package.empty
  let package ← mergeFiles package sources.files
  return sources.packages.foldl Package.merge package

/-- Builds the store of all sources. -/
def build {σ : Type} (sources : Sources) (bindings : HostBindings σ) (strict : Bool) :
    ExceptT StoryError m (Store σ) := do
  let package ← sources.gather
  ExceptT.mk (pure (Store.ofPackage package bindings strict))

end Sources

end BranchingStory
