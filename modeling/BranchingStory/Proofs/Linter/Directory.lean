import BranchingStory.Proofs.Linter.Verdict
import BranchingStory.Proofs.Store.Sorting

/-!
# Directories that the linter passes

The linter looks below a directory while a build only takes the package files directly
inside it.  What the linter passes is therefore a story that can be built from all those
files, and the directory itself can be built where nothing below it is missed.
-/

namespace BranchingStory

open Files Validation

variable {σ : Type} {files : FileTree} {directory path : String}

namespace Files.FileTree

/-- A package file that stands in a directory or below it, at any depth. -/
inductive PackageBelow (files : FileTree) : (directory path : String) → Prop where
  | inside {directory name : String} {names : List String} :
      files.list directory = .ok names → name ∈ names →
      files.isDirectory (Path.join directory name) = false → Path.isPackage name = true →
      PackageBelow files directory (Path.join directory name)
  | deeper {directory name path : String} {names : List String} :
      files.list directory = .ok names → name ∈ names →
      PackageBelow files (Path.join directory name) path →
      PackageBelow files directory path

theorem PackageBelow.exists_list (below : files.PackageBelow directory path) :
    ∃ names, files.list directory = .ok names := by
  cases below with
  | inside listed => exact ⟨_, listed⟩
  | deeper listed => exact ⟨_, listed⟩

/-- A directory whose package files all stand directly inside it: no directory in it is
named like one, and no directory in it holds any. -/
def Flat (files : FileTree) (directory : String) : Prop :=
  ∀ names, files.list directory = .ok names → ∀ name ∈ names,
    files.isDirectory (Path.join directory name) = true →
      Path.isPackage name = false ∧
      ∀ path, ¬files.PackageBelow (Path.join directory name) path

end Files.FileTree

namespace Linter

theorem packageBelow_of_mem {levels : Nat} (found : path ∈ packagesBelow files levels directory) :
    files.PackageBelow directory path := by
  induction levels generalizing directory with
  | zero => contradiction
  | succ levels ih =>
      rw [packagesBelow] at found
      cases listed : files.list directory with
      | error fault =>
          rw [listed] at found
          contradiction
      | ok names =>
          rw [listed] at found
          obtain ⟨name, member, found⟩ := List.mem_flatMap.1 found
          cases kind : files.isDirectory (Path.join directory name) with
          | true =>
              rw [kind] at found
              exact .deeper listed member (ih found)
          | false =>
              cases package : Path.isPackage name with
              | true =>
                  simp only [kind, package, Bool.false_eq_true, ↓reduceIte,
                    List.mem_singleton] at found
                  subst found
                  exact .inside listed member kind package
              | false =>
                  simp only [kind, package, Bool.false_eq_true, ↓reduceIte,
                    List.not_mem_nil] at found

/-- Below a flat directory the linter finds what stands directly inside it. -/
theorem packagesBelow_of_flat (flat : files.Flat directory) {names : List String}
    (listed : files.list directory = .ok names) (levels : Nat) :
    packagesBelow files (levels + 1) directory =
      (names.filter Path.isPackage).map (Path.join directory) := by
  rw [packagesBelow, listed, ← flatMap_ite]
  apply List.flatMap_congr
  intro name member
  cases kind : files.isDirectory (Path.join directory name) with
  | true =>
      obtain ⟨unlike, none⟩ := flat names listed name member kind
      have nothing : packagesBelow files levels (Path.join directory name) = [] := by
        rw [List.eq_nil_iff_forall_not_mem]
        exact fun path found => none path (packageBelow_of_mem found)
      simp [unlike, nothing]
  | false => simp

theorem exists_list_of_isDirectory (standing : files.isDirectory directory = true) :
    files.isFile directory = false ∧ ∃ names, files.list directory = .ok names := by
  unfold FileTree.isDirectory at standing
  unfold FileTree.isFile FileTree.list
  cases found : files.find directory with
  | error fault =>
      rw [found] at standing
      contradiction
  | ok tree =>
      rw [found] at standing
      cases tree with
      | file text => contradiction
      | directory entries => exact ⟨rfl, _, rfl⟩

/-- What the linter finds in order it takes in this order. -/
theorem filesIn_of_sorted {paths : List String} (standing : files.isDirectory directory = true)
    (below : packagesBelow files greatestDepth directory = paths)
    (sorted : paths.Pairwise fun left right => Path.before left right = true) :
    filesIn files directory = some paths := by
  rw [filesIn, (exists_list_of_isDirectory standing).1, standing, below,
    List.mergeSort_of_pairwise sorted]
  rfl

/-- The linter takes the files of a flat directory that a build takes, in the same order. -/
theorem filesIn_of_flat (flat : files.Flat directory)
    (standing : files.isDirectory directory = true) {paths : List String}
    (found : filesIn files directory = some paths) :
    Sources.packageFilesIn files directory = .ok paths := by
  obtain ⟨noFile, names, listed⟩ := exists_list_of_isDirectory standing
  rw [filesIn, noFile, standing, greatestDepth, packagesBelow_of_flat flat listed] at found
  cases found
  rw [Sources.packageFilesIn, listed]
  rfl

/-- Some sources can be built strictly, in a game with states of a type, to the nodes of the
store that the linter makes of some files, and nothing is found in it where warnings
count. -/
def Confirms (σ : Type) (files : FileTree) (paths options : List String) (sources : Sources) :
    Prop :=
  ∃ checked : Store Variables,
    Sources.buildIn files ⟨[], paths, []⟩ .none false = (.ok checked, files) ∧
    (warningsOption ∈ options → checked.validate = []) ∧
    ∃ store : Store σ, Sources.buildIn files sources .none true = (.ok store, files) ∧
      checked.Alike store

theorem confirms_files_iff {paths options : List String} :
    Confirms σ files paths options ⟨[], paths, []⟩ ↔
      ∃ checked : Store Variables,
        Sources.buildIn files ⟨[], paths, []⟩ .none false = (.ok checked, files) ∧
        Harmless checked.validate ∧ (warningsOption ∈ options → checked.validate = []) := by
  constructor
  · rintro ⟨checked, lenient, clean, store, built, alike⟩
    refine ⟨checked, lenient, ?_, clean⟩
    rw [alike.validate]
    exact (Sources.buildIn_strict_iff.1 built).2
  · rintro ⟨checked, lenient, harmless, clean⟩
    exact ⟨checked, lenient, clean,
      Sources.exists_alike_buildIn σ (Sources.buildIn_strict_iff.2 ⟨lenient, harmless⟩)⟩

/-- The linter passes a directory exactly when all the package files in it and below it can
be built strictly.  So it passes a flat directory exactly when the directory itself can be
built.  Either way the game has the nodes that the linter has checked.  An argument that
asks for the usage names no directory. -/
theorem passes_iff_build (σ : Type) (standing : files.isDirectory directory = true)
    (meant : directory ≠ "--help" ∧ directory ≠ "-h") (options : List String) :
    ∃ paths,
      (filesOf directory : StateM FileTree (Option (List String))).run files =
        (some paths, files) ∧
      (exitCode files (directory :: options) = 0 ↔
        Confirms σ files paths options ⟨[], paths, []⟩) ∧
      (files.Flat directory →
        (exitCode files (directory :: options) = 0 ↔
          Confirms σ files paths options ⟨[directory], [], []⟩)) := by
  obtain ⟨noFile, _⟩ := exists_list_of_isDirectory standing
  obtain ⟨paths, found⟩ : ∃ paths, filesIn files directory = some paths := by
    rw [filesIn, noFile, standing]
    exact ⟨_, rfl⟩
  have passed : exitCode files (directory :: options) = 0 ↔
      Confirms σ files paths options ⟨[], paths, []⟩ := by
    rw [exitCode_eq_zero_iff meant, found, confirms_files_iff]
    simp only [Option.some.injEq, exists_eq_left']
  refine ⟨paths, ?_, passed, ?_⟩
  · rw [filesOf_run, found]
  · intro flat
    have same : Sources.gatherIn files ⟨[directory], [], []⟩ =
        Sources.gatherIn files ⟨[], paths, []⟩ :=
      Sources.gatherIn_directory (filesIn_of_flat flat standing found)
    rw [passed]
    simp only [Confirms, Sources.buildIn_eq, same]

end Linter

namespace Sample

/-- A dialogue of one line that leads on. -/
def leadingText (id target : String) : String :=
  "(dialogues:\x7b\"" ++ id ++ "\":(lines:[(speaker:\"\",text:\"On\",next:\"" ++ target ++
    "\")])\x7d)"

/-- A flat directory in which a later file replaces what an earlier one has. -/
def chapter : FileTree :=
  .directory [("pack", .directory
    [("a.ron", .file (leadingText "a" "nowhere")), ("b.ron", .file (leadingText "a" "END")),
      ("art", .directory [("map.png", .file "")])])]

/-- A directory in which a story goes on in a directory below it. -/
def chapters : FileTree :=
  .directory [("pack", .directory
    [("a.ron", .file (leadingText "a" "b")),
      ("deep", .directory [("b.ron", .file (leadingText "b" "END"))])])]

end Sample

/-- The flat directory is passed, and it can be built in a game without any state. -/
theorem Linter.passes_iff_build_chapter :
    Sample.chapter.isDirectory "pack" = true ∧ ("pack" ≠ "--help" ∧ "pack" ≠ "-h") ∧
    exitCode Sample.chapter ["pack"] = 0 ∧ Sample.chapter.Flat "pack" ∧
    ∃ checked : Store Variables, ∃ store : Store Unit,
      Sources.buildIn Sample.chapter ⟨["pack"], [], []⟩ .none true =
        (.ok store, Sample.chapter) ∧ checked.Alike store := by
  have standing : Sample.chapter.isDirectory "pack" = true := by decide +kernel
  have meant : "pack" ≠ "--help" ∧ "pack" ≠ "-h" := by decide
  have flat : Sample.chapter.Flat "pack" := by
    intro names listed name member inside
    have pack : Sample.chapter.list "pack" = .ok ["a.ron", "b.ron", "art"] := by decide +kernel
    have art : Sample.chapter.list (Path.join "pack" "art") = .ok ["map.png"] := by
      decide +kernel
    cases pack.symm.trans listed
    have onlyArt : ∀ name ∈ ["a.ron", "b.ron", "art"],
        Sample.chapter.isDirectory (Path.join "pack" name) = true → name = "art" := by
      decide +kernel
    cases onlyArt name member inside
    refine ⟨by decide +kernel, ?_⟩
    rintro path (⟨below, found, _, package⟩ | ⟨below, found, deeper⟩)
    · cases art.symm.trans below
      cases List.mem_singleton.1 found
      exact absurd package (by decide +kernel)
    · cases art.symm.trans below
      cases List.mem_singleton.1 found
      have map : Sample.chapter.list (Path.join (Path.join "pack" "art") "map.png") =
          .error .notDirectory := by decide +kernel
      obtain ⟨_, within⟩ := deeper.exists_list
      cases map.symm.trans within
  have passed : exitCode Sample.chapter ["pack"] = 0 := by
    have below : packagesBelow Sample.chapter greatestDepth "pack" =
        ["pack/a.ron", "pack/b.ron"] := by decide +kernel
    rw [exitCode_of_filesIn meant (filesIn_of_sorted standing below (by decide +kernel))]
    decide +kernel
  obtain ⟨_, _, _, whereFlat⟩ := passes_iff_build Unit standing meant []
  obtain ⟨checked, _, _, store, built, alike⟩ := (whereFlat flat).1 passed
  exact ⟨standing, meant, passed, flat, checked, store, built, alike⟩

theorem Except.eq_error_of_map {α β ε : Type} {f : α → β} {result : Except ε α} {error : ε}
    (failed : result.map f = .error error) : result = .error error := by
  cases result with
  | error found =>
      cases failed
      rfl
  | ok value => cases failed

/-- The linter passes a directory that cannot be built, since the build does not look into
the directory below. -/
theorem Linter.passes_chapters :
    Sample.chapters.isDirectory "pack" = true ∧ ("pack" ≠ "--help" ∧ "pack" ≠ "-h") ∧
    exitCode Sample.chapters ["pack"] = 0 ∧
    Sources.buildIn Sample.chapters ⟨["pack"], [], []⟩ (.none : HostBindings Variables) true =
      (.error (.invalidPackage [⟨.dialogue, "a", some 0, .danglingNext "b"⟩]),
        Sample.chapters) := by
  have standing : Sample.chapters.isDirectory "pack" = true := by decide +kernel
  have meant : "pack" ≠ "--help" ∧ "pack" ≠ "-h" := by decide
  refine ⟨standing, meant, ?_, ?_⟩
  · have below : packagesBelow Sample.chapters greatestDepth "pack" =
        ["pack/a.ron", "pack/deep/b.ron"] := by decide +kernel
    rw [exitCode_of_filesIn meant (filesIn_of_sorted standing below (by decide +kernel))]
    decide +kernel
  · have inside : Sources.packageFilesIn Sample.chapters "pack" = .ok ["pack/a.ron"] := by
      have pack : Sample.chapters.list "pack" = .ok ["a.ron", "deep"] := by decide +kernel
      have kept : ["a.ron", "deep"].filter Path.isPackage = ["a.ron"] := by decide +kernel
      rw [Sources.packageFilesIn, pack]
      simp only [Except.mapError, Except.map, kept, List.map_cons, List.map_nil,
        List.mergeSort_singleton]
      rfl
    rw [Sources.buildIn_eq, Sources.gatherIn_directory inside, ← Sources.buildIn_eq]
    have refused : (Sources.buildIn Sample.chapters ⟨[], ["pack/a.ron"], []⟩
        (.none : HostBindings Variables) true).1.map (fun _ => ()) =
          .error (.invalidPackage [⟨.dialogue, "a", some 0, .danglingNext "b"⟩]) := by
      decide +kernel
    have unchanged : (Sources.buildIn Sample.chapters ⟨[], ["pack/a.ron"], []⟩
        (.none : HostBindings Variables) true).2 = Sample.chapters :=
      congrArg Prod.snd (Sources.buildIn_files ["pack/a.ron"])
    exact Prod.ext (Except.eq_error_of_map refused) unchanged

end BranchingStory
