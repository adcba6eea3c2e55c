import BranchingStory.Proofs.Store.Alike
import BranchingStory.Proofs.Store.Merging

/-!
# Gathering sources from a file tree

A build only reads, so the tree is the same after it, and its result is that of a plain
function of the tree.  A directory stands for its package files, a file for the package in
it, and in the end there is one package.
-/

namespace BranchingStory

open Files

variable {σ : Type} {bindings : HostBindings σ} {strict : Bool} {store : Store σ}
variable {files after : FileTree}

namespace Sources

/-- A build without a host comes to the same for states of any type. -/
theorem exists_alike_buildIn {sources : Sources} (τ : Type)
    (built : sources.buildIn files .none strict = (.ok store, after)) :
    ∃ other : Store τ, sources.buildIn files .none strict = (.ok other, after) ∧
      store.Alike other := by
  rw [buildIn_eq] at built
  simp only [buildIn_eq]
  generalize sources.gatherIn files = gathered at built
  obtain ⟨result, read⟩ := gathered
  cases result with
  | error error => cases built
  | ok package =>
      obtain ⟨accepted, rfl⟩ := Prod.mk.inj built
      obtain ⟨other, again, alike⟩ := Store.exists_alike τ accepted
      exact ⟨other, congrArg (·, read) again, alike⟩

/-! ## Reading -/

/-- The package of a file in a tree. -/
def packageIn (files : FileTree) (path : String) : Except StoryError Package :=
  ((files.read path).mapError .fileAccess).bind Package.ofText

/-- The package files directly inside a directory of a tree. -/
def packageFilesIn (files : FileTree) (directory : String) : Except StoryError (List String) :=
  ((files.list directory).mapError .fileAccess).map fun names =>
    ((names.filter Path.isPackage).map (Path.join directory)).mergeSort Path.before

theorem accessed_run {α β : Type} {access : StateM FileTree (Except Fault α)}
    {result : Except Fault α} (given : access.run files = (result, after))
    (next : α → ExceptT StoryError (StateM FileTree) β) :
    (accessed access >>= next).run.run files =
      match result with
      | .ok value => (next value).run.run after
      | .error fault => (.error (.fileAccess fault), after) := by
  simp only [accessed, ExceptT.run_bind, ExceptT.run_mk, StateT.run_bind, StateT.run_map, given]
  cases result <;> rfl

theorem readPackage_run (path : String) :
    (readPackage path : ExceptT StoryError (StateM FileTree) Package).run.run files =
      (packageIn files path, files) := by
  refine (accessed_run rfl _).trans ?_
  unfold packageIn
  cases files.read path <;> rfl

theorem packageFiles_run (directory : String) :
    (packageFiles directory : ExceptT StoryError (StateM FileTree) (List String)).run.run
      files = (packageFilesIn files directory, files) := by
  refine (accessed_run rfl _).trans ?_
  unfold packageFilesIn
  cases files.list directory <;> rfl

theorem mergeFiles_run (base : Package) (paths : List String) :
    (mergeFiles base paths : ExceptT StoryError (StateM FileTree) Package).run.run files =
      (paths.foldlM (fun package path => package.merge <$> packageIn files path) base,
        files) := by
  induction paths generalizing base with
  | nil => rfl
  | cons path paths ih =>
      rw [mergeFiles, List.foldlM_cons, List.foldlM_cons]
      simp only [ExceptT.run_bind, StateT.run_bind, readPackage_run]
      cases packageIn files path with
      | error error => rfl
      | ok package => exact ih _

/-! ## Sources of one kind -/

theorem gatherIn_packages (packages : List Package) :
    gatherIn files ⟨[], [], packages⟩ = (.ok (.mergeAll packages), files) := by
  rfl

theorem gatherIn_files (paths : List String) :
    gatherIn files ⟨[], paths, []⟩ =
      (paths.foldlM (fun package path => package.merge <$> packageIn files path) .empty,
        files) := by
  rw [← mergeFiles_run]
  simp [gatherIn, gather]

theorem buildIn_files (paths : List String) :
    buildIn files ⟨[], paths, []⟩ bindings strict =
      ((paths.foldlM (fun package path => package.merge <$> packageIn files path) .empty).bind
        fun package => Store.ofPackage package bindings strict, files) := by
  rw [buildIn_eq, gatherIn_files]
  cases paths.foldlM (fun package path => package.merge <$> packageIn files path)
    Package.empty <;> rfl

/-- A directory stands for the package files directly inside it. -/
theorem gatherIn_directory {directory : String} {paths : List String}
    (inside : packageFilesIn files directory = .ok paths) :
    gatherIn files ⟨[directory], [], []⟩ = gatherIn files ⟨[], paths, []⟩ := by
  have read := @packageFiles_run files directory
  rw [inside] at read
  simp only [gatherIn, gather, List.foldlM_cons, List.foldlM_nil, bind_pure, pure_bind,
    mergeFiles, List.foldl_nil, ExceptT.run_bind, StateT.run_bind, read]
  rfl

/-- A file stands for the package in it. -/
theorem gatherIn_file {path text : String} (stored : files.read path = .ok text) :
    gatherIn files ⟨[], [path], []⟩ = (Package.ofText text, files) := by
  rw [gatherIn_files, List.foldlM_cons, packageIn, stored]
  simp only [Except.mapError, Except.bind]
  cases Package.ofText text with
  | error error => rfl
  | ok package =>
      exact congrArg (fun merged => (Except.ok merged, files)) (Package.empty_merge package)

end Sources

end BranchingStory
