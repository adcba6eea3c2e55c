import BranchingStory.Proofs.Linter.Verdict
import BranchingStory.Proofs.Preview.Refinement

/-!
# All ways to have a package accepted agree

A package can be built into a store by a game, previewed by a page, asked for its issues,
and given to the linter as a file.  All of them read it alike and bind it alike, and what a
strict build refuses is what the others call an error.  So they come to the same verdict,
for a game with states of any type.
-/

namespace BranchingStory

open Files Validation

variable {σ : Type} {files : FileTree} {path text : String} {strict : Bool} {store : Store σ}

/-- A store that is built from the package in a text and nothing else, without a host. -/
def Package.Makes (files : FileTree) (text : String) (strict : Bool) (store : Store σ) : Prop :=
  ∃ package, Package.ofText text = .ok package ∧
    Sources.buildIn files ⟨[], [], [package]⟩ .none strict = (.ok store, files)

namespace Package

theorem makes_iff :
    Makes files text strict store ↔ ∃ package, Package.ofText text = .ok package ∧
      Store.ofPackage package .none strict = .ok store := by
  have alone (package : Package) :
      Sources.buildIn files ⟨[], [], [package]⟩ .none strict = (.ok store, files) ↔
        Store.ofPackage package .none strict = .ok store := by
    rw [Sources.buildIn_eq, Sources.gatherIn_packages, mergeAll_cons, mergeAll_nil, merge_empty]
    exact ⟨congrArg Prod.fst, congrArg (·, files)⟩
  simp only [Makes, alone]

theorem makes_strict_iff :
    Makes files text true store ↔ Makes files text false store ∧ Harmless store.validate := by
  simp only [makes_iff, Store.ofPackage_strict_iff]
  constructor
  · rintro ⟨package, read, lenient, harmless⟩
    exact ⟨⟨package, read, lenient⟩, harmless⟩
  · rintro ⟨⟨package, read, lenient⟩, harmless⟩
    exact ⟨package, read, lenient, harmless⟩

/-- What is found in the store that is made does not depend on the states of the host. -/
theorem Makes.transfer (τ : Type) {demand : List Issue → Prop}
    (made : ∃ store : Store σ, Makes files text strict store ∧ demand store.validate) :
    ∃ store : Store τ, Makes files text strict store ∧ demand store.validate := by
  obtain ⟨store, makes, meets⟩ := made
  obtain ⟨package, read, built⟩ := makes_iff.1 makes
  obtain ⟨other, again, alike⟩ := Store.exists_alike τ built
  exact ⟨other, makes_iff.2 ⟨package, read, again⟩, alike.validate ▸ meets⟩

theorem exists_makes_iff (τ : Type) (demand : List Issue → Prop) :
    (∃ store : Store σ, Makes files text strict store ∧ demand store.validate) ↔
      ∃ store : Store τ, Makes files text strict store ∧ demand store.validate :=
  ⟨Makes.transfer τ, Makes.transfer σ⟩

theorem exists_makes (τ : Type) :
    (∃ store : Store σ, Makes files text strict store) ↔
      ∃ store : Store τ, Makes files text strict store := by
  have free := @exists_makes_iff σ files text strict τ fun _ => True
  simpa only [and_true] using free

end Package

/-- A preview is made of a package from which a strict build makes a store. -/
theorem Preview.exists_ofPackageText_iff (seed : UInt64) :
    (∃ preview, ofPackageText text seed = .ok preview) ↔
      ∃ store : Store Variables, Package.Makes files text true store := by
  simp only [ofPackageText_ok_iff, Package.makes_iff]
  constructor
  · rintro ⟨_, package, read, store, built, _⟩
    exact ⟨store, package, read, built⟩
  · rintro ⟨store, package, read, built⟩
    exact ⟨_, package, read, store, built, rfl⟩

/-- Issues are listed for a package from which a lenient build makes a store. -/
theorem Preview.validatePackage_ok_iff {issues : List String} :
    validatePackage text = .ok issues ↔
      ∃ store : Store Variables, Package.Makes files text false store ∧
        issues = store.validate.map Issue.text := by
  simp only [Package.makes_iff]
  unfold validatePackage
  cases Package.ofText text with
  | error error =>
      constructor
      · rintro ⟨⟩
      · rintro ⟨_, ⟨_, ⟨⟩, _⟩, _⟩
  | ok package =>
      change (do
        let store ← (Store.ofPackage package (.none : HostBindings Variables) false).mapError
          PreviewError.callRefused
        return store.validate.map Issue.text) = Except.ok issues ↔ _
      cases built : Store.ofPackage package (.none : HostBindings Variables) false with
      | error error =>
          constructor
          · rintro ⟨⟩
          · rintro ⟨_, ⟨_, ⟨⟩, again⟩, _⟩
            cases built.symm.trans again
      | ok store =>
          constructor
          · rintro ⟨⟩
            exact ⟨store, ⟨package, rfl, built⟩, rfl⟩
          · rintro ⟨_, ⟨_, ⟨⟩, again⟩, rfl⟩
            cases built.symm.trans again
            rfl

/-- The issues that are listed are those that a game would find. -/
theorem Preview.validatePackage_of_makes (makes : Package.Makes files text false store) :
    validatePackage text = .ok (store.validate.map Issue.text) := by
  obtain ⟨other, again, same⟩ :=
    Package.Makes.transfer Variables ⟨store, makes, (rfl : store.validate = store.validate)⟩
  exact validatePackage_ok_iff.2 ⟨other, again, congrArg (List.map Issue.text) same⟩

/-- The linter builds from a file what is built from the package in it. -/
theorem Sources.buildIn_file_iff (stored : files.read path = .ok text) :
    Sources.buildIn files ⟨[], [path], []⟩ .none strict = (.ok store, files) ↔
      Package.Makes files text strict store := by
  rw [Package.makes_iff, Sources.buildIn_eq, Sources.gatherIn_file stored]
  cases Package.ofText text with
  | error error =>
      constructor
      · rintro ⟨⟩
      · rintro ⟨_, ⟨⟩, _⟩
  | ok package =>
      constructor
      · exact fun built => ⟨package, rfl, congrArg Prod.fst built⟩
      · rintro ⟨_, ⟨⟩, built⟩
        exact congrArg (·, files) built

namespace Linter

theorem filesIn_of_read (stored : files.read path = .ok text) :
    filesIn files path = some [path] := by
  have file : files.isFile path = true := by
    unfold FileTree.read at stored
    unfold FileTree.isFile
    cases found : files.find path with
    | error fault =>
        rw [found] at stored
        cases stored
    | ok tree =>
        rw [found] at stored
        cases tree with
        | file text => rfl
        | directory entries => cases stored
  rw [filesIn, if_pos file]

/-- The linter passes a file where a strict build makes a store of the package in it, and
where it makes one without any issues if warnings count. -/
theorem exitCode_file_iff {options : List String} (stored : files.read path = .ok text)
    (meant : path ≠ "--help" ∧ path ≠ "-h") :
    exitCode files (path :: options) = 0 ↔
      ∃ store : Store Variables, Package.Makes files text true store ∧
        (warningsOption ∈ options → store.validate = []) := by
  rw [exitCode_eq_zero_iff meant, filesIn_of_read stored]
  simp only [Option.some.injEq, exists_eq_left', Sources.buildIn_file_iff stored,
    Package.makes_strict_iff, and_assoc]

end Linter

/-- A text that a game can load by a strict build is one that can be previewed with every
seed, one whose issues can be listed and are no errors, and one that the linter passes as a
file.  Where warnings count the linter passes it if moreover no issue is found at all.  An
argument that asks for the usage names no file. -/
theorem Package.accepted_alike (σ : Type) (stored : files.read path = .ok text)
    (meant : path ≠ "--help" ∧ path ≠ "-h") :
    (∀ seed, (∃ preview, Preview.ofPackageText text seed = .ok preview) ↔
      ∃ store : Store σ, Package.Makes files text true store) ∧
    ((∃ store : Store σ, Package.Makes files text false store ∧
        Preview.validatePackage text = .ok (store.validate.map Issue.text) ∧
        ∀ issue ∈ store.validate, issue.severity ≠ .error) ↔
      ∃ store : Store σ, Package.Makes files text true store) ∧
    (∀ options, Linter.warningsOption ∉ options →
      (Linter.exitCode files (path :: options) = 0 ↔
        ∃ store : Store σ, Package.Makes files text true store)) ∧
    (∀ options, Linter.warningsOption ∈ options →
      (Linter.exitCode files (path :: options) = 0 ↔
        ∃ store : Store σ, Package.Makes files text true store ∧ store.validate = [])) := by
  have accepted : (∃ store : Store σ, Package.Makes files text true store) ↔
      ∃ store : Store Variables, Package.Makes files text true store :=
    Package.exists_makes Variables
  have clean {issues : List Issue} :
      (∀ issue ∈ issues, issue.severity ≠ .error) ↔ Harmless issues := by
    simp [Harmless, Issue.isError]
  refine ⟨?_, ?_, ?_, ?_⟩
  · intro seed
    rw [accepted]
    exact Preview.exists_ofPackageText_iff seed
  · simp only [clean, Package.makes_strict_iff]
    constructor
    · rintro ⟨store, makes, _, harmless⟩
      exact ⟨store, makes, harmless⟩
    · rintro ⟨store, makes, harmless⟩
      exact ⟨store, makes, Preview.validatePackage_of_makes makes, harmless⟩
  · intro options plain
    rw [Linter.exitCode_file_iff stored meant, accepted]
    simp only [plain, false_implies, and_true]
  · intro options asked
    rw [Linter.exitCode_file_iff stored meant,
      Package.exists_makes_iff Variables fun issues => issues = []]
    simp only [asked, true_implies]

namespace Sample

/-- A dialogue whose second line is never met. -/
def pierText : String :=
  "(dialogues:\x7b\"pier\":(lines:[(speaker:\"\",text:\"Up\",next:\"END\")," ++
    "(speaker:\"\",text:\"Lost\",next:\"END\")])\x7d)"

def pierFiles : FileTree := .directory [("pier.ron", .file pierText)]

end Sample

/-- A package with nothing but a warning is accepted everywhere, also by a game without any
state, unless warnings count. -/
theorem Package.accepted_alike_pier :
    Sample.pierFiles.read "pier.ron" = .ok Sample.pierText ∧
    ("pier.ron" ≠ "--help" ∧ "pier.ron" ≠ "-h") ∧
    Linter.exitCode Sample.pierFiles ["pier.ron"] = 0 ∧
    (∃ store : Store Unit, Package.Makes Sample.pierFiles Sample.pierText true store) ∧
    (∀ seed, ∃ preview, Preview.ofPackageText Sample.pierText seed = .ok preview) ∧
    Linter.exitCode Sample.pierFiles ["pier.ron", Linter.warningsOption] = 1 ∧
    ¬∃ store : Store Unit, Package.Makes Sample.pierFiles Sample.pierText true store ∧
      store.validate = [] := by
  have stored : Sample.pierFiles.read "pier.ron" = .ok Sample.pierText := by rfl
  have meant : "pier.ron" ≠ "--help" ∧ "pier.ron" ≠ "-h" := by decide
  obtain ⟨previewed, _, passed, strictly⟩ := Package.accepted_alike Unit stored meant
  have plain : Linter.exitCode Sample.pierFiles ["pier.ron"] = 0 := by decide +kernel
  have flagged : Linter.exitCode Sample.pierFiles ["pier.ron", Linter.warningsOption] = 1 := by
    decide +kernel
  have accepted := (passed [] List.not_mem_nil).1 plain
  refine ⟨stored, meant, plain, accepted, fun seed => (previewed seed).2 accepted, flagged, ?_⟩
  intro clean
  have none := (strictly [Linter.warningsOption] List.mem_cons_self).2 clean
  exact absurd (flagged.symm.trans none) (by decide)

end BranchingStory
