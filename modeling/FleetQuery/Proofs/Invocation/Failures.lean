import FleetQuery.Proofs.Invocation.Courses
import FleetQuery.Proofs.Outcome

/-!
# Failed invocations

An invocation that fails leaves the saved questions as they were, whichever step failed, with one
exception: a question is saved before its result is written, and stays if the result cannot be
written. Main statement: `saved_of_failed`.
-/
namespace FleetQuery.Engine

section

variable {σ : Type} [Files (StateM σ)] [HoldsDisk σ] {engine : Engine} {invocation : Invocation}
  {now question : String} {before after : σ} {payload : Json}

open HoldsDisk (disk)

/-- Whether all is done but for the file of the result: the question is saved under the name that
the invocation gives, and writing the file has failed. -/
def OnlyUnwritten (engine : Engine) (invocation : Invocation) (now : String) (before after : σ)
    (payload : Json) (saved : SavedQuestion) : Prop :=
  ∃ answer between error, invocation.save = some saved.name ∧ saved.savedAt = now ∧
    engine.ask saved.question = .ok answer ∧
    (engine.saveQuestion invocation.save saved.question now : StateM σ _).run before =
      (.ok (some saved), between) ∧
    invocation.outputFile.isSome ∧
    (engine.writeResult invocation.outputFile
      (answer.toJson (attachments invocation answer ⟨some saved, none⟩)) : StateM σ _).run between =
      (.error (.file error), after) ∧
    payload = (Failure.file error).payload saved.question

/-- A failed invocation leaves the list of saved questions as it was, or it has saved its question
and could not write the result to its file. -/
theorem saved_of_failed
    (ran : (engine.invoke invocation now : StateM σ Json).run before = (payload, after))
    (fails : payload.member? "ok" = some (.bool false))
    (settles : (disk before).Settles engine.config.savedPath) :
    ∃ earlier later : Registry,
      (Registry.load engine.config.savedPath : StateM σ Registry).run before = (earlier, before) ∧
      (Registry.load engine.config.savedPath : StateM σ Registry).run after = (later, after) ∧
      (later = earlier ∨ ∃ saved, engine.OnlyUnwritten invocation now before after payload saved ∧
        later = earlier.insert saved) := by
  refine ⟨_, _, Registry.load_run _ _, Registry.load_run _ _, ?_⟩
  have directories := Disk.keptByDirectories_registry engine.config.savedPath
    ((disk before).registry engine.config.savedPath)
  obtain ⟨effects, course⟩ := run_iff.mp ran
  cases course with
  | listed => simp [Json.member?] at fails
  | refused => exact .inl rfl
  | unanswered => exact .inl rfl
  | unsaved _ _ _ failed => exact .inl (saveQuestion_failed directories failed ⟨settles, rfl⟩).2
  | unwritten _ _ asked saves failed =>
    rcases saveQuestion_saved directories saves ⟨settles, rfl⟩ with
      ⟨_, _, rfl⟩ | ⟨text, between, named, rfl, _, written⟩
    · exact .inl (writeResult_failed directories failed ⟨settles, rfl⟩).2.2.2
    · right
      -- the registry can be read now, so that no directory changes it
      have readable := Disk.readText_of_writeText written
      obtain ⟨path, ⟨error, rfl⟩, kept⟩ :=
        writeResult_failed (Files.keptByDirectories_readText _ _) failed readable
      exact ⟨⟨text, _, now⟩, ⟨_, _, error, named, rfl, asked, saves, path, failed, rfl⟩,
        Disk.registry_of_toText kept⟩
  | finished => simp at fails

end

/-- A disk with one saved question and no space left. -/
def fullDisk : TroubledDisk where
  disk := ⟨[(["saved_questions.json"],
    .file (Registry.mk [⟨"all", "Get role from all", "2024-05-20T09:30:00Z"⟩]).toText)]⟩
  troubles := [some (.other "No space left on device (os error 28)")]

def savingSize : Invocation :=
  { Invocation.none with question := some "Get count() from all", save := some "fleet size" }

theorem saved_of_failed_full_disk : ∃ payload after registry,
    ((⟨.standard, .sample⟩ : Engine).invoke savingSize "2024-05-21T00:00:00Z" :
      StateM TroubledDisk Json).run fullDisk = (payload, after) ∧
    payload.member? "ok" = some (.bool false) ∧
    (Registry.load Config.standard.savedPath : StateM TroubledDisk Registry).run fullDisk =
      (registry, fullDisk) ∧
    (Registry.load Config.standard.savedPath : StateM TroubledDisk Registry).run after =
      (registry, after) := by
  have fails : (((⟨.standard, .sample⟩ : Engine).answer "Get count() from all" savingSize
      "2024-05-21T00:00:00Z" : StateM TroubledDisk _).run fullDisk).1.isOk = false := by
    decide +kernel
  obtain ⟨failure, ran⟩ := exists_failed_run rfl rfl fails
  obtain ⟨earlier, later, loads, reloads, kept⟩ :=
    saved_of_failed ran (member?_payload _ _) ⟨by decide +kernel, .inl (by decide +kernel)⟩
  refine ⟨_, _, earlier, ran, rfl, loads, ?_⟩
  rcases kept with rfl | ⟨saved, ⟨_, _, _, _, _, _, _, path, _⟩, _⟩
  · exact reloads
  · cases path

/-- A file where the directory of the results should be. -/
def blockedDisk : Disk := ⟨[(["downloads"], .file "x")]⟩

/-- A registry that is reached through a directory that is not there. -/
def hiddenDisk : Disk :=
  ⟨[(["saved.json"],
    .file (Registry.mk [⟨"all", "Get role from all", "2024-05-20T09:30:00Z"⟩]).toText)]⟩

def hiddenConfig : Config :=
  { Config.standard with savedPath := "d/../saved.json", downloadsDirectory := "d" }

/-- A failed invocation can leave another list: one that could not write its result after it had
saved its question, and one that has made a directory on the way to the registry. -/
theorem not_saved_of_failed :
    (¬ ∀ (engine : Engine) (invocation : Invocation) (now : String) (before after : Disk)
      (payload : Json), before.Settles engine.config.savedPath →
      (engine.invoke invocation now : StateM Disk Json).run before = (payload, after) →
      payload.member? "ok" = some (.bool false) →
      ((Registry.load engine.config.savedPath : StateM Disk Registry).run after).1 =
        ((Registry.load engine.config.savedPath : StateM Disk Registry).run before).1) ∧
    (¬ ∀ (engine : Engine) (invocation : Invocation) (now : String) (before after : Disk)
      (payload : Json), invocation.save = none →
      (engine.invoke invocation now : StateM Disk Json).run before = (payload, after) →
      payload.member? "ok" = some (.bool false) →
      ((Registry.load engine.config.savedPath : StateM Disk Registry).run after).1 =
        ((Registry.load engine.config.savedPath : StateM Disk Registry).run before).1) := by
  constructor
  · intro keeps
    have fails : (((⟨.standard, .sample⟩ : Engine).answer "Get count() from all"
        { savingSize with outputFile := some "size.json" } "2024-05-21T00:00:00Z" :
          StateM Disk _).run blockedDisk).1.isOk = false := by decide +kernel
    obtain ⟨failure, ran⟩ := exists_failed_run rfl rfl fails
    have same := keeps _ _ _ _ _ _ ⟨by decide +kernel, .inl (by decide +kernel)⟩ ran rfl
    rw [Registry.load_run, Registry.load_run] at same
    revert same
    decide +kernel
  · intro keeps
    have fails : (((⟨hiddenConfig, .sample⟩ : Engine).answer "Get count() from all"
        { Invocation.none with
          question := some "Get count() from all", outputFile := some "x/" }
        "2024-05-21T00:00:00Z" : StateM Disk _).run hiddenDisk).1.isOk = false := by
      decide +kernel
    obtain ⟨failure, ran⟩ := exists_failed_run rfl rfl fails
    have same := keeps _ _ _ _ _ _ rfl ran rfl
    rw [Registry.load_run, Registry.load_run] at same
    revert same
    decide +kernel

end FleetQuery.Engine
