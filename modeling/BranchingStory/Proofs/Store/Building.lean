import BranchingStory.Files.Tree
import BranchingStory.Proofs.Validation.Playable
import BranchingStory.Store.Sources

/-!
# What a build promises

A build that succeeds gives the store of one package, namely of all its sources together.
A strict build has moreover found no error in it.
-/

namespace BranchingStory

open Files Validation

variable {σ : Type} {bindings : HostBindings σ} {strict : Bool} {store : Store σ}

/-- A lenient build only needs the package to be loaded. -/
theorem Store.ofPackage_lenient_iff {package : Package} :
    Store.ofPackage package bindings false = .ok store ↔
      Store.empty.load package bindings = (.ok (), store) := by
  unfold Store.ofPackage
  generalize Store.empty.load package bindings = loaded
  obtain ⟨result, full⟩ := loaded
  cases result with
  | error error =>
      constructor
      · rintro ⟨⟩
      · rintro ⟨⟩
  | ok _ =>
      constructor
      · rintro ⟨⟩
        rfl
      · rintro ⟨⟩
        rfl

/-- A strict build gives what a lenient one does, where that is free of errors. -/
theorem Store.ofPackage_strict_iff {package : Package} :
    Store.ofPackage package bindings true = .ok store ↔
      Store.ofPackage package bindings false = .ok store ∧ Harmless store.validate := by
  unfold Store.ofPackage
  generalize Store.empty.load package bindings = loaded
  obtain ⟨result, full⟩ := loaded
  cases result with
  | error error =>
      constructor
      · rintro ⟨⟩
      · rintro ⟨⟨⟩, _⟩
  | ok _ =>
      have harmless : full.validate.any (·.isError) = false ↔ Harmless full.validate := by
        simp [Harmless, List.any_eq_false]
      cases errors : full.validate.any (·.isError) with
      | false =>
          simp only [errors, Bool.and_false, Bool.false_eq_true, ↓reduceIte]
          constructor
          · rintro ⟨⟩
            exact ⟨rfl, harmless.1 errors⟩
          · exact And.left
      | true =>
          simp only [errors, Bool.and_true, ↓reduceIte, Bool.false_eq_true]
          constructor
          · rintro ⟨⟩
          · rintro ⟨⟨⟩, clean⟩
            rw [harmless.2 clean] at errors
            contradiction

theorem Store.ofPackage_ok {package : Package}
    (built : Store.ofPackage package bindings strict = .ok store) :
    store.Constructed ∧ (strict = true → ∀ issue ∈ store.validate, issue.isError = false) := by
  have constructed : (Store.empty.load package bindings).2.Constructed :=
    Store.Constructed.empty.load package bindings
  cases strict with
  | false =>
      rw [Store.ofPackage_lenient_iff.1 built] at constructed
      exact ⟨constructed, fun isStrict => by contradiction⟩
  | true =>
      obtain ⟨lenient, harmless⟩ := Store.ofPackage_strict_iff.1 built
      rw [Store.ofPackage_lenient_iff.1 lenient] at constructed
      exact ⟨constructed, fun _ => harmless⟩

namespace Sources

variable {sources : Sources} {files after : FileTree}

/-- Builds the store of all sources in a file tree. -/
def buildIn (files : FileTree) (sources : Sources) (bindings : HostBindings σ)
    (strict : Bool) : Except StoryError (Store σ) × FileTree :=
  (sources.build bindings strict : ExceptT StoryError (StateM FileTree) (Store σ)).run.run files

/-- Gathers the content of all sources in a file tree. -/
def gatherIn (files : FileTree) (sources : Sources) : Except StoryError Package × FileTree :=
  (sources.gather : ExceptT StoryError (StateM FileTree) Package).run.run files

theorem buildIn_eq (files : FileTree) (sources : Sources) (bindings : HostBindings σ)
    (strict : Bool) :
    sources.buildIn files bindings strict =
      match sources.gatherIn files with
      | (.ok package, after) => (Store.ofPackage package bindings strict, after)
      | (.error error, after) => (.error error, after) := by
  unfold buildIn gatherIn
  simp only [build, ExceptT.run_bind, StateT.run_bind]
  generalize (sources.gather : ExceptT StoryError (StateM FileTree) Package).run.run files =
    gathered
  obtain ⟨result, after⟩ := gathered
  cases result <;> rfl

/-- A strict build gives what a lenient one does, where that is free of errors. -/
theorem buildIn_strict_iff :
    sources.buildIn files bindings true = (.ok store, after) ↔
      sources.buildIn files bindings false = (.ok store, after) ∧ Harmless store.validate := by
  rw [buildIn_eq, buildIn_eq]
  generalize sources.gatherIn files = gathered
  obtain ⟨result, read⟩ := gathered
  cases result with
  | error error => simp
  | ok package =>
      simp only [Prod.mk.injEq, Store.ofPackage_strict_iff]
      exact and_right_comm

/-- A build from the sources in a file tree ends with the store of one package. -/
theorem build_ok
    (built : (sources.build bindings strict :
      ExceptT StoryError (StateM FileTree) (Store σ)).run.run files = (.ok store, after)) :
    ∃ package, Store.ofPackage package bindings strict = .ok store := by
  have made : sources.buildIn files bindings strict = (.ok store, after) := built
  rw [buildIn_eq] at made
  generalize sources.gatherIn files = gathered at made
  obtain ⟨result, read⟩ := gathered
  cases result with
  | error error => cases made
  | ok package => exact ⟨package, congrArg Prod.fst made⟩

end Sources

end BranchingStory
