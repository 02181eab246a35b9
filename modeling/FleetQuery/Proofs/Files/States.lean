import FleetQuery.Proofs.Files.Disk

/-!
# States that hold a disk

A state may hold more than a disk, and a change of the disk may fail for more reasons than those
that lie in its tree: a disk that is full, or a file that must not be changed. It is enough to know
that reading shows the disk and that a change takes full effect or has none. What a program keeps of
the disk is then said of its single changes.
-/
namespace FleetQuery

/-- A program of two parts, the second one in the state that the first one leaves. -/
theorem run_bind {σ α β : Type} (state : σ) (first : StateM σ α) (second : α → StateM σ β) :
    (first >>= second).run state =
      (second (first.run state).1).run (first.run state).2 := rfl

/-- A change that takes full effect or fails without any. -/
inductive Disk.Attempts (change : Disk → Except FileError Disk) (before : Disk) :
    Except FileError Unit → Disk → Prop where
  | done {after : Disk} (changed : change before = .ok after) :
      Attempts change before (.ok ()) after
  | failed {after : Disk} (error : FileError) (same : after = before) :
      Attempts change before (.error error) after

/-- States that hold a disk and use their files on it. -/
class HoldsDisk (σ : Type) [Files (StateM σ)] where
  disk : σ → Disk
  fileExists_run (path : String) (state : σ) :
    (Files.fileExists path : StateM σ Bool).run state = ((disk state).fileExists path, state)
  isDirectory_run (path : String) (state : σ) :
    (Files.isDirectory path : StateM σ Bool).run state = ((disk state).isDirectory path, state)
  readText_run (path : String) (state : σ) :
    (Files.readText path : StateM σ (Except FileError String)).run state =
      ((disk state).readText path, state)
  writeText_run (path text : String) (state : σ) :
    Disk.Attempts (fun disk => disk.writeText path text) (disk state)
      ((Files.writeText path text : StateM σ (Except FileError Unit)).run state).1
      (disk ((Files.writeText path text : StateM σ (Except FileError Unit)).run state).2)
  createDirectory_run (path : String) (state : σ) :
    Disk.Attempts (fun disk => disk.createDirectory path) (disk state)
      ((Files.createDirectory path : StateM σ (Except FileError Unit)).run state).1
      (disk ((Files.createDirectory path : StateM σ (Except FileError Unit)).run state).2)

/-! ### A disk alone -/

theorem Disk.attempts_attempt (change : Disk → Except FileError Disk) (disk : Disk) :
    Attempts change disk ((attempt change).run disk).1 ((attempt change).run disk).2 := by
  cases made : change disk with
  | ok changed =>
    have ran : (attempt change).run disk = (.ok (), changed) := by
      simp [attempt, StateT.run, made]
    rw [ran]
    exact .done made
  | error error =>
    have ran : (attempt change).run disk = (.error error, disk) := by
      simp [attempt, StateT.run, made]
    rw [ran]
    exact .failed error rfl

instance : HoldsDisk Disk where
  disk := id
  fileExists_run _ _ := rfl
  isDirectory_run _ _ := rfl
  readText_run _ _ := rfl
  writeText_run path text := Disk.attempts_attempt fun disk => disk.writeText path text
  createDirectory_run path := Disk.attempts_attempt fun disk => disk.createDirectory path

/-! ### A disk with troubles -/

/-- A disk whose next changes may fail although its tree lets them be. -/
structure TroubledDisk where
  disk : Disk
  /-- What stops the next changes, one after another, where anything does. -/
  troubles : List (Option FileError)

namespace TroubledDisk

def attempt (change : Disk → Except FileError Disk) :
    StateM TroubledDisk (Except FileError Unit) := fun state =>
  match state.troubles.head?.join with
  | some trouble => (.error trouble, ⟨state.disk, state.troubles.tail⟩)
  | none =>
    match change state.disk with
    | .ok changed => (.ok (), ⟨changed, state.troubles.tail⟩)
    | .error error => (.error error, ⟨state.disk, state.troubles.tail⟩)

instance : Files (StateM TroubledDisk) where
  fileExists path := fun state => (state.disk.fileExists path, state)
  isDirectory path := fun state => (state.disk.isDirectory path, state)
  readText path := fun state => (state.disk.readText path, state)
  writeText path text := attempt fun disk => disk.writeText path text
  createDirectory path := attempt fun disk => disk.createDirectory path

theorem attempts_attempt (change : Disk → Except FileError Disk) (state : TroubledDisk) :
    Disk.Attempts change state.disk ((attempt change).run state).1
      ((attempt change).run state).2.disk := by
  rw [StateT.run]
  unfold attempt
  cases state.troubles.head?.join with
  | some trouble => exact .failed trouble rfl
  | none =>
    cases made : change state.disk with
    | ok changed => exact .done made
    | error error => exact .failed error rfl

instance : HoldsDisk TroubledDisk where
  disk := TroubledDisk.disk
  fileExists_run _ _ := rfl
  isDirectory_run _ _ := rfl
  readText_run _ _ := rfl
  writeText_run path text := attempts_attempt fun disk => disk.writeText path text
  createDirectory_run path := attempts_attempt fun disk => disk.createDirectory path

end TroubledDisk

/-! ### Programs on files -/

namespace Files

variable {σ : Type} [Files (StateM σ)] [HoldsDisk σ] {state after : σ}
  {outcome : Except FileError Unit}

open HoldsDisk (disk)

/-- Whether making a directory keeps a property of disks. -/
def KeptByDirectories (keeps : Disk → Prop) : Prop :=
  ∀ before changed : Disk, ∀ path, keeps before →
    before.createDirectory path = .ok changed → keeps changed

theorem keptByDirectories_true : KeptByDirectories fun _ => True :=
  fun _ _ _ _ _ => trivial

theorem keptByDirectories_readText (path text : String) :
    KeptByDirectories fun disk => disk.readText path = .ok text := by
  intro before changed around read made
  exact Disk.readText_of_createDirectory read made

variable {keeps : Disk → Prop}

theorem ensureDirectory_keeps (step : KeptByDirectories keeps) {path : String}
    (ran : (ensureDirectory path : StateM σ _).run state = (outcome, after))
    (holds : keeps (disk state)) : keeps (disk after) := by
  have tried := HoldsDisk.createDirectory_run path state
  rw [ensureDirectory, run_bind] at ran
  generalize (createDirectory path : StateM σ _).run state = made at tried ran
  obtain ⟨first, between⟩ := made
  have kept : keeps (disk between) := by
    cases tried with
    | done changed => exact step _ _ _ holds changed
    | failed error same => exact same ▸ holds
  cases first with
  | ok =>
    cases ran
    exact kept
  | error error =>
    -- looking for a directory changes nothing
    dsimp only at ran
    rw [run_bind, HoldsDisk.isDirectory_run] at ran
    dsimp only at ran
    split at ran <;> cases ran <;> exact kept

theorem ensureDirectories_keeps (step : KeptByDirectories keeps) {paths : List String}
    (ran : (ensureDirectories paths : StateM σ _).run state = (outcome, after))
    (holds : keeps (disk state)) : keeps (disk after) := by
  induction paths generalizing state outcome after with
  | nil =>
    cases ran
    exact holds
  | cons path around ih =>
    rw [ensureDirectories, run_bind] at ran
    cases first : (ensureDirectory path : StateM σ _).run state with
    | mk found between =>
      have kept := ensureDirectory_keeps step first holds
      rw [first] at ran
      dsimp only at ran
      split at ran
      next =>
        rw [run_bind] at ran
        cases outer : (ensureDirectories around : StateM σ _).run between with
        | mk made within =>
          have reached := ih outer kept
          rw [outer] at ran
          cases made with
          | ok => exact ensureDirectory_keeps step ran reached
          | error error =>
            cases ran
            exact reached
      next =>
        cases ran
        exact kept

/-- A file is written after its directories, or only some of these are made. -/
theorem writeInDirectory_cases (step : KeptByDirectories keeps) {path text : String}
    (ran : (writeInDirectory path text : StateM σ _).run state = (outcome, after))
    (holds : keeps (disk state)) :
    (∃ error, outcome = .error error ∧ keeps (disk after)) ∨
      ∃ between, outcome = .ok () ∧ keeps between ∧
        between.writeText path text = .ok (disk after) := by
  rw [writeInDirectory, run_bind] at ran
  cases first : (ensureDirectories (Path.parents path) : StateM σ _).run state with
  | mk made between =>
    have kept := ensureDirectories_keeps step first holds
    rw [first] at ran
    cases made with
    | error error =>
      cases ran
      exact .inl ⟨error, rfl, kept⟩
    | ok =>
      have tried := HoldsDisk.writeText_run path text between
      dsimp only at ran
      rw [ran] at tried
      cases tried with
      | done changed => exact .inr ⟨disk between, rfl, kept, changed⟩
      | failed error same => exact .inl ⟨error, rfl, same ▸ kept⟩

end Files
end FleetQuery
