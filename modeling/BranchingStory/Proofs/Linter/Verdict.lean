import BranchingStory.Linter
import BranchingStory.Proofs.Store.Gathering

/-!
# The verdict of the linter

In a file tree the linter only reads.  It takes the files that a path stands for, builds a
store from them without a host, and passes them if the check of this store finds no error.
On request warnings count as errors do, and then nothing may be found at all.
-/

namespace BranchingStory

open Files Validation

variable {files : FileTree} {path : String} {paths options : List String}

namespace Linter

/-! ## Counting issues -/

theorem count_pos_iff {severity : Severity} {issues : List Issue} :
    0 < count severity issues ↔ ∃ issue ∈ issues, issue.severity = severity := by
  simp [count, List.countP_pos_iff]

theorem no_errors_iff {issues : List Issue} :
    ¬0 < count .error issues ↔ Harmless issues := by
  simp [count_pos_iff, Harmless, Issue.isError]

/-- The linter is content with issues that are no errors and, where warnings count, with
none at all. -/
theorem fails_eq_false_iff {warningsAsErrors : Bool} {issues : List Issue} :
    fails warningsAsErrors issues = false ↔
      Harmless issues ∧ (warningsAsErrors = true → issues = []) := by
  have parts : fails warningsAsErrors issues = false ↔
      ¬0 < count .error issues ∧ (warningsAsErrors = true → ¬0 < count .warning issues) := by
    simp [fails]
  rw [parts, no_errors_iff]
  refine and_congr_right fun harmless => imp_congr_right fun _ => ?_
  constructor
  · intro noWarnings
    rw [List.eq_nil_iff_forall_not_mem]
    intro issue member
    have noError := harmless issue member
    cases severity : issue.severity with
    | warning => exact noWarnings (count_pos_iff.2 ⟨issue, member, severity⟩)
    | error =>
        rw [Issue.isError, severity] at noError
        contradiction
  · rintro rfl
    simp [count]

/-! ## What the linter reads -/

section

variable {α : Type}

theorem list_run (path : String) (next : Except Fault (List String) → StateM FileTree α) :
    (FileAccess.list path >>= next).run files = (next (files.list path)).run files := by
  rfl

theorem isFile_run (path : String) (next : Bool → StateM FileTree α) :
    (FileAccess.isFile path >>= next).run files = (next (files.isFile path)).run files := by
  rfl

theorem isDirectory_run (path : String) (next : Bool → StateM FileTree α) :
    (FileAccess.isDirectory path >>= next).run files =
      (next (files.isDirectory path)).run files := by
  rfl

end

theorem flatten_mapM_run {α β : Type} {compute : α → StateM FileTree (List β)}
    {value : α → List β} {items : List α}
    (reads : ∀ item, (compute item).run files = (value item, files)) :
    (do return (← items.mapM compute).flatten : StateM FileTree (List β)).run files =
      (items.flatMap value, files) := by
  have all : (items.mapM compute).run files = (items.map value, files) := by
    induction items with
    | nil => rfl
    | cons item items ih =>
        rw [List.mapM_cons, StateT.run_bind, reads]
        exact congrArg (fun rest => (value item :: rest.1, rest.2)) ih
  exact congrArg (fun found => (found.1.flatten, found.2)) all

/-- The package files in a directory of a tree and below it, down to a number of levels. -/
def packagesBelow (files : FileTree) : (levels : Nat) → String → List String
  | 0, _ => []
  | levels + 1, directory =>
      match files.list directory with
      | .error _ => []
      | .ok names => names.flatMap fun name =>
          if files.isDirectory (Path.join directory name) then
            packagesBelow files levels (Path.join directory name)
          else if Path.isPackage name then [Path.join directory name]
          else []

theorem collect_run (levels : Nat) (directory : String) :
    (collect levels directory : StateM FileTree (List String)).run files =
      (packagesBelow files levels directory, files) := by
  induction levels generalizing directory with
  | zero => rfl
  | succ levels ih =>
      rw [collect, packagesBelow, list_run]
      cases files.list directory with
      | error fault => rfl
      | ok names =>
          refine flatten_mapM_run fun name => ?_
          rw [isDirectory_run]
          cases files.isDirectory (Path.join directory name) with
          | true => exact ih _
          | false => rfl

/-- The files of a tree that a path stands for. -/
def filesIn (files : FileTree) (path : String) : Option (List String) :=
  if files.isFile path then some [path]
  else if files.isDirectory path then
    some ((packagesBelow files greatestDepth path).mergeSort Path.before)
  else none

theorem filesOf_run (path : String) :
    (filesOf path : StateM FileTree (Option (List String))).run files =
      (filesIn files path, files) := by
  rw [filesOf, filesIn, isFile_run]
  cases files.isFile path with
  | true => rfl
  | false =>
      simp only [Bool.false_eq_true, ↓reduceIte, isDirectory_run]
      cases files.isDirectory path with
      | true =>
          have collected := @collect_run files greatestDepth path
          exact congrArg (fun found => (some (found.1.mergeSort Path.before), found.2)) collected
      | false => rfl

/-! ## When the linter exits with success -/

/-- The exit code of the linter in a file tree. -/
def exitCode (files : FileTree) (arguments : List String) : UInt8 :=
  ((run arguments : StateM FileTree Finished).run files).1.exitCode

/-- The linter passes files whose story can be built and is free of errors and, where they
count, of warnings. -/
theorem check_run_exitCode (paths : List String) (warningsAsErrors : Bool) :
    ((check paths warningsAsErrors : StateM FileTree Finished).run files).1.exitCode = 0 ↔
      ∃ store : Store Variables,
        Sources.buildIn files ⟨[], paths, []⟩ .none false = (.ok store, files) ∧
        Harmless store.validate ∧ (warningsAsErrors = true → store.validate = []) := by
  have unchanged :
      (Sources.buildIn files ⟨[], paths, []⟩ (.none : HostBindings Variables) false).2 = files :=
    congrArg Prod.snd (Sources.buildIn_files paths)
  rw [check, StateT.run_bind, ← Sources.buildIn]
  generalize Sources.buildIn files ⟨[], paths, []⟩ (.none : HostBindings Variables) false =
    built at unchanged
  obtain ⟨result, after⟩ := built
  cases unchanged
  cases result with
  | error error =>
      constructor
      · intro passed
        exact absurd (show (1 : UInt8) = 0 from passed) (by decide)
      · rintro ⟨_, ⟨⟩, _⟩
  | ok store =>
      have verdict : (if fails warningsAsErrors store.validate then 1 else 0 : UInt8) = 0 ↔
          fails warningsAsErrors store.validate = false := by
        cases fails warningsAsErrors store.validate <;> decide
      refine verdict.trans (fails_eq_false_iff.trans ?_)
      constructor
      · exact fun accepted => ⟨store, rfl, accepted⟩
      · rintro ⟨_, ⟨⟩, accepted⟩
        exact accepted

/-- Where the path is not a call for help, the linter checks the files that it stands for. -/
theorem exitCode_of_filesIn (meant : path ≠ "--help" ∧ path ≠ "-h")
    (found : filesIn files path = some paths) :
    exitCode files (path :: options) =
      ((check paths (options.contains warningsOption) :
        StateM FileTree Finished).run files).1.exitCode := by
  rw [exitCode, run, if_neg (not_or.2 meant), StateT.run_bind, filesOf_run, found]
  rfl

theorem exitCode_eq_zero_iff (meant : path ≠ "--help" ∧ path ≠ "-h") :
    exitCode files (path :: options) = 0 ↔
      ∃ paths, filesIn files path = some paths ∧ ∃ store : Store Variables,
        Sources.buildIn files ⟨[], paths, []⟩ .none false = (.ok store, files) ∧
        Harmless store.validate ∧ (warningsOption ∈ options → store.validate = []) := by
  cases found : filesIn files path with
  | none =>
      rw [exitCode, run, if_neg (not_or.2 meant), StateT.run_bind, filesOf_run, found]
      constructor
      · intro passed
        exact absurd (show (1 : UInt8) = 0 from passed) (by decide)
      · rintro ⟨_, ⟨⟩, _⟩
  | some paths =>
      rw [exitCode_of_filesIn meant found, check_run_exitCode, List.contains_iff_mem]
      constructor
      · exact fun accepted => ⟨paths, rfl, accepted⟩
      · rintro ⟨_, ⟨⟩, accepted⟩
        exact accepted

end Linter

end BranchingStory
