import FleetQuery.Proofs.Invocation.Courses
import FleetQuery.Proofs.Outcome
import FleetQuery.Proofs.Registry.Runs
import Mathlib.Control.Monad.Basic

/-!
# Saved questions asked again

A question that was saved is found under its name, in any case of the letters, until a question is
saved under the same name or a result is written over the registry. Asked by its name it is answered
as it is by itself. Main statement: `rerun_of_saved`.
-/
namespace FleetQuery

/-! ### The registry -/

theorem Registry.find?_congr {name other : String} (same : Text.lower other = Text.lower name)
    (registry : Registry) : registry.find? other = registry.find? name := by
  simp only [find?, SavedQuestion.isNamed, same]

namespace Disk

variable {disk changed : Disk} {path name question : String}

/-- Whether the registry at the path has the question under the name. -/
def Recalls (path name question : String) (disk : Disk) : Prop :=
  ((disk.registry path).find? name).map SavedQuestion.question = some question

/-- A registry that has a question can be read, and stays while its text stays. -/
theorem Recalls.of_readText (recalls : disk.Recalls path name question)
    (keeps : ∀ text, disk.readText path = .ok text → changed.readText path = .ok text) :
    changed.Recalls path name question := by
  cases read : disk.readText path with
  | error failure => simp [Recalls, registry, read, Registry.find?, Registry.empty] at recalls
  | ok text =>
    have same : changed.registry path = disk.registry path := by
      rw [registry, registry, read, keeps text read]
    rw [Recalls, same]
    exact recalls

theorem keptByDirectories_recalls (path name question : String) :
    Files.KeptByDirectories (Recalls path name question) := by
  intro before changed around recalls made
  exact recalls.of_readText fun text read => readText_of_createDirectory read made

theorem Recalls.of_writeText (recalls : disk.Recalls path name question) {elsewhere text : String}
    (written : disk.writeText elsewhere text = .ok changed)
    (apart : changed.place elsewhere ≠ changed.place path) :
    changed.Recalls path name question :=
  recalls.of_readText fun _ read => readText_of_writeText_elsewhere read written apart

/-- Once a question is saved the registry has it. -/
theorem recalls_of_saved {registry : Registry} {savedAt : String}
    (written : disk.writeText path (registry.insert ⟨name, question, savedAt⟩).toText =
      .ok changed) : changed.Recalls path name question := by
  rw [Recalls, registry_of_toText (readText_of_writeText written), Registry.insert, Registry.find?,
    Registry.find?_insertQuestion]
  simp [SavedQuestion.isNamed]

/-- Saving under another name leaves what the registry has under this one. -/
theorem Recalls.of_saved {before : Disk} (recalls : before.Recalls path name question)
    {saved : SavedQuestion} (other : Text.lower saved.name ≠ Text.lower name)
    (written : disk.writeText path ((before.registry path).insert saved).toText = .ok changed) :
    changed.Recalls path name question := by
  have named : saved.isNamed name = false := by simpa [SavedQuestion.isNamed] using other
  rw [Recalls, registry_of_toText (readText_of_writeText written), Registry.insert, Registry.find?,
    Registry.find?_insertQuestion, named]
  exact recalls

end Disk

namespace Engine

variable {σ : Type} [Files (StateM σ)] [HoldsDisk σ] {engine : Engine} {invocation : Invocation}
  {now name question : String} {before after : σ} {payload : Json} {effects : Effects}

open HoldsDisk (disk)

/-! ### Other invocations -/

/-- Whether effects leave the question of a name as it is: they save none under the name, in any
case of the letters, and write no result over the registry. -/
structure Effects.Spares (effects : Effects) (path name : String) (after : Disk) : Prop where
  names : ∀ saved ∈ effects.saved, Text.lower saved.name ≠ Text.lower name
  files : ∀ written ∈ effects.written, after.place written ≠ after.place path

/-- The states that invocations lead to which leave the question of a name as it is. -/
inductive Undisturbed (engine : Engine) (name : String) (first : σ) : σ → Prop where
  | start : Undisturbed engine name first first
  | invoke {before after : σ} {invocation : Invocation} {now : String} {payload : Json}
      {effects : Effects} (earlier : Undisturbed engine name first before)
      (course : engine.Course invocation now before payload after effects)
      (spares : effects.Spares engine.config.savedPath name (disk after)) :
      Undisturbed engine name first after

theorem Course.recalls (course : engine.Course invocation now before payload after effects)
    (spares : effects.Spares engine.config.savedPath name (disk after))
    (recalls : (disk before).Recalls engine.config.savedPath name question) :
    (disk after).Recalls engine.config.savedPath name question := by
  apply course.preserves (Disk.keptByDirectories_recalls _ _ _) _ _ recalls
  · intro saved member between changed _ written
    exact recalls.of_saved (spares.names saved member) written
  · intro path member between text kept written
    exact kept.of_writeText written (spares.files path member)

theorem Undisturbed.recalls {first last : σ} (undisturbed : engine.Undisturbed name first last)
    (recalls : (disk first).Recalls engine.config.savedPath name question) :
    (disk last).Recalls engine.config.savedPath name question := by
  induction undisturbed with
  | start => exact recalls
  | invoke earlier course spares ih => exact course.recalls spares ih

/-- An invocation spares what it does not ask to change. -/
theorem Course.spares (course : engine.Course invocation now before payload after effects)
    (names : ∀ given ∈ invocation.save, Text.lower given ≠ Text.lower name)
    (files : ∀ given ∈ invocation.outputFile,
      (disk after).place (engine.config.outputPath given) ≠
        (disk after).place engine.config.savedPath) :
    effects.Spares engine.config.savedPath name (disk after) := by
  have named : ∀ {question : String} {saved : Option SavedQuestion} {between : σ},
      (engine.saveQuestion invocation.save question now : StateM σ _).run before =
        (.ok saved, between) → ∀ other ∈ saved, Text.lower other.name ≠ Text.lower name := by
    intro question saved between saves other member
    rcases saveQuestion_saved Files.keptByDirectories_true saves trivial with
      ⟨_, rfl, _⟩ | ⟨text, _, given, rfl, _⟩
    · cases member
    · cases member
      exact names text given
  cases course with
  | listed => exact ⟨nofun, nofun⟩
  | refused => exact ⟨nofun, nofun⟩
  | unanswered => exact ⟨nofun, nofun⟩
  | unsaved => exact ⟨nofun, nofun⟩
  | unwritten _ _ _ saves _ => exact ⟨named saves, nofun⟩
  | finished _ _ _ saves writes =>
    refine ⟨named saves, ?_⟩
    intro written member
    rcases writeResult_written Files.keptByDirectories_true writes trivial with
      ⟨rfl, _⟩ | ⟨given, _, path, rfl, _⟩
    · cases member
    · cases member
      exact files given path

/-! ### Asking again -/

/-- A question that is saved is asked by its name. -/
theorem questionOf_run_of_saved {other : String} (asks : invocation.runSaved = some other)
    (recalls : (disk before).Recalls engine.config.savedPath name question)
    (same : Text.lower other = Text.lower name) :
    (engine.questionOf invocation : StateM σ _).run before = (.ok question, before) := by
  obtain ⟨saved, found, rfl⟩ := Option.map_eq_some_iff.mp recalls
  rw [questionOf, asks]
  dsimp only
  rw [run_bind, Registry.load_run]
  dsimp only
  rw [Registry.find?_congr same, found]
  rfl

omit [HoldsDisk σ] in
/-- A question that is not blank is asked as it is. -/
theorem questionOf_run_of_question (asks : invocation.runSaved = none)
    (given : invocation.question = some question) :
    (engine.questionOf invocation : StateM σ _).run before =
      (if (Text.trimChars question.toList).isEmpty then .error "Provide a question with -q."
        else .ok question, before) := by
  rw [questionOf, asks, given]
  dsimp only
  split <;> rfl

omit [HoldsDisk σ] in
/-- What an invocation that only asks and reads answers in every state. -/
theorem invoke_run_of_asked {answer : Answer} {asking : Invocation}
    (asks : asking = { asking with save := none, listSaved := false, outputFile := none })
    (named : (engine.questionOf asking : StateM σ _).run before = (.ok question, before))
    (asked : engine.ask question = .ok answer) :
    (engine.invoke asking now : StateM σ Json).run before =
      (answer.toJson (attachments asking answer .none), before) := by
  rw [asks] at named ⊢
  exact invoke_run_of_answer rfl named (answer_run asked rfl rfl)

/-- A question that is saved without a failure was not blank, has an answer, and is recalled unless
the result was written over the registry. -/
theorem recalls_of_succeeds (asks : invocation.runSaved = none)
    (given : invocation.question = some question) (keeps : invocation.save = some name)
    (lists : invocation.listSaved = false)
    (ran : (engine.invoke invocation now : StateM σ Json).run before = (payload, after))
    (succeeds : payload.member? "ok" = some (.bool true))
    (spared : ∀ path ∈ invocation.outputFile, (disk after).place (engine.config.outputPath path) ≠
      (disk after).place engine.config.savedPath) :
    ¬ (Text.trimChars question.toList).isEmpty ∧ (∃ answer, engine.ask question = .ok answer) ∧
      (disk after).Recalls engine.config.savedPath name question := by
  obtain ⟨effects, course⟩ := run_iff.mp ran
  cases course with
  | listed listing => simp [lists] at listing
  | refused => simp at succeeds
  | unanswered => simp at succeeds
  | unsaved => simp at succeeds
  | unwritten => simp at succeeds
  | finished _ named asked saves writes =>
    rw [questionOf_run_of_question asks given] at named
    split at named
    next => cases named
    next visible =>
      cases named
      refine ⟨visible, ⟨_, asked⟩, ?_⟩
      -- the registry has the question once it is saved, and the result is written after that
      rcases saveQuestion_saved Files.keptByDirectories_true saves trivial with
        ⟨none, _⟩ | ⟨text, _, same, _, _, stored⟩
      · simp [keeps] at none
      · cases keeps.symm.trans same
        have recalls := Disk.recalls_of_saved stored
        rcases writeResult_written (Disk.keptByDirectories_recalls _ _ _) writes recalls with
          ⟨_, rfl⟩ | ⟨path, _, here, _, kept, written⟩
        · exact recalls
        · exact kept.of_writeText written (spared path here)

/-- A question that was saved, and then asked again by its name in any case of the letters, is
answered as it is by itself in any state, whatever invocations came between that spare it. -/
theorem rerun_of_saved (engine : Engine) (question name now : String) (csv : Bool)
    (outputFile : Option String) (first second last : σ) (payload : Json)
    (saves : (engine.invoke
      { Invocation.none with
        question := some question, save := some name, csv := csv, outputFile := outputFile } now :
      StateM σ Json).run first = (payload, second))
    (succeeds : payload.member? "ok" = some (.bool true))
    (spared : ∀ path ∈ outputFile, (disk second).place (engine.config.outputPath path) ≠
      (disk second).place engine.config.savedPath)
    (undisturbed : engine.Undisturbed name second last) :
    ∀ (other : String) (csv : Bool), Text.lower other = Text.lower name →
      ∃ again : Json,
        (∀ moment, (engine.invoke
          { Invocation.none with runSaved := some other, csv := csv } moment :
            StateM σ Json).run last = (again, last)) ∧
        ∀ moment state, (engine.invoke
          { Invocation.none with question := some question, csv := csv } moment :
            StateM σ Json).run state = (again, state) := by
  intro other csv same
  obtain ⟨visible, ⟨answer, asked⟩, recalls⟩ :=
    recalls_of_succeeds rfl rfl rfl rfl saves succeeds spared
  have kept := undisturbed.recalls recalls
  refine ⟨answer.toJson (attachments { Invocation.none with csv := csv } answer .none), ?_, ?_⟩
  · intro moment
    exact invoke_run_of_asked rfl (questionOf_run_of_saved rfl kept same) asked
  · intro moment state
    apply invoke_run_of_asked rfl _ asked
    rw [questionOf_run_of_question rfl rfl, if_neg visible]

/-- A registry that cannot be read. -/
def corruptDisk : Disk := ⟨[(["saved_questions.json"], .file "\x7b oops")]⟩

/-- A question with blanks, quotes, a control character and letters beyond ASCII. -/
def oddQuestion : String := "\tGet role from all\n with role does not contain \"Überall \\ \x01\"  "

def savingOddQuestion : Invocation :=
  { Invocation.none with question := some oddQuestion, save := some "Für \"alle\"" }

/-- Something else in between, with a result in a file. -/
def counting : Invocation :=
  { Invocation.none with
    question := some "Get count() from all", save := some "size", outputFile := some "size.json" }

/-- The disk after the question is saved. -/
def savedDisk : Disk :=
  (((⟨.standard, .sample⟩ : Engine).answer oddQuestion savingOddQuestion "2024-05-20T09:30:00Z" :
    StateM Disk _).run corruptDisk).2

/-- The disk after something else. -/
def countedDisk : Disk :=
  (((⟨.standard, .sample⟩ : Engine).invoke counting "2024-05-21T00:00:00Z" :
    StateM Disk Json).run savedDisk).2

theorem rerun_of_saved_odd_question : ∃ payload again : Json,
    ((⟨.standard, .sample⟩ : Engine).invoke savingOddQuestion "2024-05-20T09:30:00Z" :
      StateM Disk Json).run corruptDisk = (payload, savedDisk) ∧
    payload.member? "ok" = some (.bool true) ∧
    ((⟨.standard, .sample⟩ : Engine).invoke
      { Invocation.none with runSaved := some "FÜR \"ALLE\"", csv := true }
      "2024-05-22T00:00:00Z" : StateM Disk Json).run countedDisk = (again, countedDisk) ∧
    ((⟨.standard, .sample⟩ : Engine).invoke
      { Invocation.none with question := some oddQuestion, csv := true }
      "2024-05-22T00:00:00Z" : StateM Disk Json).run corruptDisk = (again, corruptDisk) := by
  have answers : (((⟨.standard, .sample⟩ : Engine).answer oddQuestion savingOddQuestion
      "2024-05-20T09:30:00Z" : StateM Disk _).run corruptDisk).1.isOk := by
    decide +kernel
  obtain ⟨payload, saves, succeeds⟩ := exists_answered_run rfl rfl answers
  obtain ⟨effects, course⟩ := run_iff.mp (rfl :
    ((⟨.standard, .sample⟩ : Engine).invoke counting "2024-05-21T00:00:00Z" :
      StateM Disk Json).run savedDisk = (_, countedDisk))
  have apart : countedDisk.place (Config.standard.outputPath "size.json") ≠
      countedDisk.place Config.standard.savedPath := by
    decide +kernel
  have spares : effects.Spares _ "Für \"alle\"" countedDisk := course.spares
    (by rintro _ ⟨⟩; decide +kernel) (by rintro _ ⟨⟩; exact apart)
  obtain ⟨again, reruns, alone⟩ := rerun_of_saved _ oddQuestion "Für \"alle\"" _ false none _ _
    countedDisk payload saves succeeds nofun (.invoke .start course spares)
    "FÜR \"ALLE\"" true (by decide +kernel)
  exact ⟨payload, again, saves, succeeds, reruns _, alone _ _⟩

end Engine
end FleetQuery
