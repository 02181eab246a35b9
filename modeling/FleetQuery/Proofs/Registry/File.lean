import FleetQuery.Proofs.Files.States
import FleetQuery.Proofs.Json.RoundTrip
import FleetQuery.Proofs.Outcome
import FleetQuery.Registry

/-!
# The file of a registry

A registry is read from its text as it was written, whatever its texts are, and from the disk as it
was saved there. Saving a question writes the registry with the question, or only makes directories
around it. Main statements: `ofText?_toText` and `upsert_run`.
-/
namespace FleetQuery

/-! ### The text -/

open Json in
def SavedQuestion.tree (saved : SavedQuestion) : Tree :=
  .object [(some "name", .string (some saved.name)),
    (some "question", .string (some saved.question)),
    (some "savedAt", .string (some saved.savedAt))]

theorem SavedQuestion.ofTree?_tree (saved : SavedQuestion) : ofTree? saved.tree = some saved := by
  rfl

namespace Registry

def tree (registry : Registry) : Json.Tree :=
  .object [(some "saved", .array (registry.questions.map SavedQuestion.tree))]

theorem itemTrees?_questions (questions : List SavedQuestion) :
    Json.itemTrees? (questions.map SavedQuestion.toJson) =
      some (questions.map SavedQuestion.tree) := by
  induction questions with
  | nil => rfl
  | cons saved rest ih =>
    have first : saved.toJson.tree? = some saved.tree := rfl
    simp [Json.itemTrees?, first, ih]

theorem tree?_toJson (registry : Registry) : registry.toJson.tree? = some registry.tree := by
  have items := itemTrees?_questions registry.questions
  simp [toJson, tree, Json.tree?, Json.memberTrees?, items]

theorem ofTree?_tree (registry : Registry) : ofTree? registry.tree = some registry := by
  have questions : (registry.questions.map SavedQuestion.tree).mapM SavedQuestion.ofTree? =
      some registry.questions := by
    rw [List.mapM_map, mapM_eq_some_map (SavedQuestion.ofTree? ∘ SavedQuestion.tree) id _
      fun saved _ => saved.ofTree?_tree, List.map_id]
  have fields : registry.tree.record? ["saved"] =
      some [("saved", .array (registry.questions.map SavedQuestion.tree))] := rfl
  simp [ofTree?, fields, questions]

/-- A registry is read from its text as it was. -/
theorem ofText?_toText (registry : Registry) : ofText? registry.toText = some registry := by
  rw [ofText?, toText, Json.ofText?_indented registry.tree?_toJson, Option.bind_some, ofTree?_tree]

end Registry

/-! ### The disk -/

namespace Disk

variable {disk changed : Disk} {path : String}

/-- The registry in the file at a path; a file that is missing or cannot be read holds none. -/
def registry (disk : Disk) (path : String) : Registry :=
  match disk.readText path with
  | .ok text => (Registry.ofText? text).getD .empty
  | .error _ => .empty

/-- The registry is what the text of its file says. -/
theorem registry_congr (same : ∀ text, changed.readText path = .ok text ↔
    disk.readText path = .ok text) : changed.registry path = disk.registry path := by
  rw [registry, registry]
  cases before : disk.readText path with
  | ok text => rw [(same text).mpr before]
  | error =>
    cases after : changed.readText path with
    | error => rfl
    | ok text =>
      rw [(same text).mp after] at before
      cases before

theorem registry_of_toText {registry : Registry}
    (written : disk.readText path = .ok registry.toText) : disk.registry path = registry := by
  simp [Disk.registry, written, Registry.ofText?_toText]

/-- Directories leave the registry at a path as it is that they do not bring to light. -/
theorem Settles.registry_of_createDirectory (settles : disk.Settles path) {around : String}
    (made : disk.createDirectory around = .ok changed) :
    changed.registry path = disk.registry path :=
  registry_congr fun _ =>
    ⟨settles.readText_of_createDirectory made,
      fun read => Disk.readText_of_createDirectory read made⟩

theorem keptByDirectories_registry (path : String) (registry : Registry) :
    Files.KeptByDirectories fun disk => disk.Settles path ∧ disk.registry path = registry := by
  intro before changed around ⟨settles, same⟩ made
  exact ⟨settles.createDirectory made, (settles.registry_of_createDirectory made).trans same⟩

end Disk

namespace Registry

variable {σ : Type} [Files (StateM σ)] [HoldsDisk σ] {path : String} {state after : σ}
  {question : SavedQuestion} {result : Except FileError SavedQuestion}

open HoldsDisk (disk)

theorem load_run (path : String) (state : σ) :
    (load path : StateM σ Registry).run state = ((disk state).registry path, state) := by
  rw [load, run_bind, HoldsDisk.fileExists_run, Disk.registry]
  dsimp only
  split
  next =>
    rw [run_bind, HoldsDisk.readText_run]
    cases (disk state).readText path <;> rfl
  next absent =>
    cases read : (disk state).readText path with
    | ok text => exact absurd (Disk.fileExists_of_readText read) absent
    | error => rfl

/-- A question is saved by writing the registry with it, or not at all. -/
theorem upsert_cases {keeps : Disk → Prop} (step : Files.KeptByDirectories keeps)
    (ran : (upsert path question : StateM σ _).run state = (result, after))
    (holds : keeps (disk state)) :
    (∃ error, result = .error error ∧ keeps (disk after)) ∨
      ∃ between, result = .ok question ∧ keeps between ∧
        between.writeText path (((disk state).registry path).insert question).toText =
          .ok (disk after) := by
  rw [upsert, run_bind, load_run, run_bind] at ran
  cases saved : (save path (((disk state).registry path).insert question) :
      StateM σ _).run state with
  | mk outcome last =>
    rw [saved] at ran
    rcases Files.writeInDirectory_cases step saved holds with
      ⟨error, rfl, kept⟩ | ⟨between, rfl, kept, written⟩
    · cases ran
      exact .inl ⟨error, rfl, kept⟩
    · cases ran
      exact .inr ⟨between, rfl, kept, written⟩

theorem upsert_run (ran : (upsert path question : StateM σ _).run state = (result, after))
    (succeeds : result.isOk) :
    result = .ok question ∧
      (disk after).registry path = ((disk state).registry path).insert question := by
  rcases upsert_cases Files.keptByDirectories_true ran trivial with
    ⟨error, rfl, _⟩ | ⟨between, rfl, _, written⟩
  · cases succeeds
  · exact ⟨rfl, Disk.registry_of_toText (Disk.readText_of_writeText written)⟩

end Registry
end FleetQuery
