import FleetQuery.Engine
import FleetQuery.Proofs.Registry.File

/-!
# The courses of an invocation

An invocation finds its question, answers it, saves it and writes the result, in this order and only
as far as each step succeeds. Every run takes one of six courses, and all that it leaves on the disk
are the saved question, the written file and directories around them. Main statements: `run_iff` and
`Course.preserves`.
-/
namespace FleetQuery.Engine

variable {σ : Type} [Files (StateM σ)] [HoldsDisk σ] {engine : Engine} {invocation : Invocation}
  {now question : String} {before after : σ} {payload : Json}

open HoldsDisk (disk)

/-- What an invocation leaves behind besides its payload and directories. -/
structure Effects where
  saved : Option SavedQuestion
  /-- The path of the file that holds the result. -/
  written : Option String

def Effects.none : Effects := ⟨.none, .none⟩

/-- What an invocation adds to an answer, in the order of its steps. -/
def attachments (invocation : Invocation) (answer : Answer) (effects : Effects) : Attachments :=
  ⟨effects.saved, if invocation.csv then some answer.execution.table.toCsv else none,
    effects.written⟩

/-- The courses that an invocation can take from one state to another. -/
inductive Course (engine : Engine) (invocation : Invocation) (now : String) (before : σ) :
    Json → σ → Effects → Prop where
  /-- It lists what is saved. -/
  | listed (lists : invocation.listSaved = true) :
      Course engine invocation now before
        (.object [("ok", .bool true),
          ("saved", .array (((disk before).registry engine.config.savedPath).questions.map
            SavedQuestion.toJson))]) before .none
  /-- It names no question, or none that is saved. -/
  | refused {message : String} (asks : invocation.listSaved = false)
      (named : (engine.questionOf invocation : StateM σ _).run before = (.error message, before)) :
      Course engine invocation now before (refusal message) before .none
  /-- Its question has no answer. -/
  | unanswered {question : String} {failure : Failure} (asks : invocation.listSaved = false)
      (named : (engine.questionOf invocation : StateM σ _).run before = (.ok question, before))
      (asked : engine.ask question = .error failure) :
      Course engine invocation now before (failure.payload question) before .none
  /-- Its question cannot be saved. -/
  | unsaved {question : String} {answer : Answer} {failure : Failure} {after : σ}
      (asks : invocation.listSaved = false)
      (named : (engine.questionOf invocation : StateM σ _).run before = (.ok question, before))
      (asked : engine.ask question = .ok answer)
      (saves : (engine.saveQuestion invocation.save question now : StateM σ _).run before =
        (.error failure, after)) :
      Course engine invocation now before (failure.payload question) after .none
  /-- Its result cannot be written. -/
  | unwritten {question : String} {answer : Answer} {saved : Option SavedQuestion}
      {failure : Failure} {between after : σ} (asks : invocation.listSaved = false)
      (named : (engine.questionOf invocation : StateM σ _).run before = (.ok question, before))
      (asked : engine.ask question = .ok answer)
      (saves : (engine.saveQuestion invocation.save question now : StateM σ _).run before =
        (.ok saved, between))
      (writes : (engine.writeResult invocation.outputFile
        (answer.toJson (attachments invocation answer ⟨saved, .none⟩)) : StateM σ _).run between =
        (.error failure, after)) :
      Course engine invocation now before (failure.payload question) after ⟨saved, .none⟩
  /-- All that it asks for is done. -/
  | finished {question : String} {answer : Answer} {saved : Option SavedQuestion}
      {written : Option String} {between after : σ} (asks : invocation.listSaved = false)
      (named : (engine.questionOf invocation : StateM σ _).run before = (.ok question, before))
      (asked : engine.ask question = .ok answer)
      (saves : (engine.saveQuestion invocation.save question now : StateM σ _).run before =
        (.ok saved, between))
      (writes : (engine.writeResult invocation.outputFile
        (answer.toJson (attachments invocation answer ⟨saved, .none⟩)) : StateM σ _).run between =
        (.ok written, after)) :
      Course engine invocation now before
        (answer.toJson (attachments invocation answer ⟨saved, written⟩)) after ⟨saved, written⟩

/-- Finding the question of an invocation only reads. -/
theorem questionOf_run {outcome : Except String String}
    (ran : (engine.questionOf invocation : StateM σ _).run before = (outcome, after)) :
    after = before := by
  rw [questionOf] at ran
  split at ran
  next name _ =>
    rw [run_bind, Registry.load_run] at ran
    dsimp only at ran
    split at ran <;> cases ran <;> rfl
  next =>
    split at ran
    next =>
      split at ran <;> cases ran <;> rfl
    next =>
      cases ran
      rfl

omit [HoldsDisk σ] in
theorem invoke_run_of_failure {failure : Failure} (asks : invocation.listSaved = false)
    (named : (engine.questionOf invocation : StateM σ _).run before = (.ok question, before))
    (fails : (engine.answer question invocation now : StateM σ _).run before =
      (.error failure, after)) :
    (engine.invoke invocation now : StateM σ Json).run before =
      (failure.payload question, after) := by
  rw [invoke, if_neg (by simp [asks]), run_bind, named]
  dsimp only
  rw [run_bind, fails]
  rfl

omit [HoldsDisk σ] in
theorem invoke_run_of_answer (asks : invocation.listSaved = false)
    (named : (engine.questionOf invocation : StateM σ _).run before = (.ok question, before))
    (answers : (engine.answer question invocation now : StateM σ _).run before =
      (.ok payload, after)) :
    (engine.invoke invocation now : StateM σ Json).run before = (payload, after) := by
  rw [invoke, if_neg (by simp [asks]), run_bind, named]
  dsimp only
  rw [run_bind, answers]
  rfl

omit [HoldsDisk σ] in
/-- A question that is answered and saved leaves only its result to be written. -/
theorem answer_run {answer : Answer} {saved : Option SavedQuestion} {between : σ}
    {outcome : Except Failure (Option String)} (asked : engine.ask question = .ok answer)
    (saves : (engine.saveQuestion invocation.save question now : StateM σ _).run before =
      (.ok saved, between))
    (writes : (engine.writeResult invocation.outputFile
      (answer.toJson (attachments invocation answer ⟨saved, .none⟩)) : StateM σ _).run between =
      (outcome, after)) :
    (engine.answer question invocation now : StateM σ _).run before =
      (outcome.map fun written => answer.toJson (attachments invocation answer ⟨saved, written⟩),
        after) := by
  simp only [attachments] at writes
  rw [Engine.answer, asked]
  dsimp only
  rw [run_bind, saves]
  dsimp only
  rw [run_bind, writes]
  cases outcome <;> rfl

theorem run_of_course {effects : Effects}
    (course : engine.Course invocation now before payload after effects) :
    (engine.invoke invocation now : StateM σ Json).run before = (payload, after) := by
  cases course with
  | listed lists =>
    rw [invoke, if_pos lists, run_bind, Registry.load_run]
    rfl
  | refused asks named =>
    rw [invoke, if_neg (by simp [asks]), run_bind, named]
    rfl
  | unanswered asks named asked =>
    apply invoke_run_of_failure asks named
    rw [answer, asked]
    rfl
  | unsaved asks named asked saves =>
    apply invoke_run_of_failure asks named
    rw [answer, asked]
    dsimp only
    rw [run_bind, saves]
    rfl
  | unwritten asks named asked saves writes =>
    exact invoke_run_of_failure asks named (answer_run asked saves writes)
  | finished asks named asked saves writes =>
    exact invoke_run_of_answer asks named (answer_run asked saves writes)

theorem exists_course (engine : Engine) (invocation : Invocation) (now : String) (before : σ) :
    ∃ payload after effects, engine.Course invocation now before payload after effects := by
  cases lists : invocation.listSaved with
  | true => exact ⟨_, _, _, .listed lists⟩
  | false =>
    cases named : (engine.questionOf invocation : StateM σ _).run before with
    | mk outcome first =>
      cases questionOf_run named
      cases outcome with
      | error message => exact ⟨_, _, _, .refused lists named⟩
      | ok question =>
        cases asked : engine.ask question with
        | error failure => exact ⟨_, _, _, .unanswered lists named asked⟩
        | ok answer =>
          cases saves : (engine.saveQuestion invocation.save question now :
              StateM σ _).run before with
          | mk outcome between =>
            cases outcome with
            | error failure => exact ⟨_, _, _, .unsaved lists named asked saves⟩
            | ok saved =>
              cases writes : (engine.writeResult invocation.outputFile
                (answer.toJson (attachments invocation answer ⟨saved, .none⟩)) :
                  StateM σ _).run between with
              | mk outcome after =>
                cases outcome with
                | error failure => exact ⟨_, _, _, .unwritten lists named asked saves writes⟩
                | ok written => exact ⟨_, _, _, .finished lists named asked saves writes⟩

/-- The runs of an invocation are its courses. -/
theorem run_iff : (engine.invoke invocation now : StateM σ Json).run before = (payload, after) ↔
    ∃ effects, engine.Course invocation now before payload after effects := by
  constructor
  · intro ran
    obtain ⟨payload, after, effects, course⟩ := engine.exists_course invocation now before
    rw [run_of_course course] at ran
    cases ran
    exact ⟨effects, course⟩
  · rintro ⟨effects, course⟩
    exact run_of_course course

/-! ### Payloads -/

@[simp] theorem member?_refusal (message : String) :
    (refusal message).member? "ok" = some (.bool false) := rfl

@[simp] theorem member?_payload (failure : Failure) (question : String) :
    (failure.payload question).member? "ok" = some (.bool false) := rfl

@[simp] theorem member?_toJson (answer : Answer) (attachments : Attachments) :
    (answer.toJson attachments).member? "ok" = some (.bool true) := by
  simp [Answer.toJson, Json.member?]

omit [HoldsDisk σ] in
theorem exists_failed_run (asks : invocation.listSaved = false)
    (named : (engine.questionOf invocation : StateM σ _).run before = (.ok question, before))
    (fails : ((engine.answer question invocation now : StateM σ _).run before).1.isOk = false) :
    ∃ failure, (engine.invoke invocation now : StateM σ Json).run before =
      (Failure.payload failure question,
        ((engine.answer question invocation now : StateM σ _).run before).2) := by
  cases ran : (engine.answer question invocation now : StateM σ _).run before with
  | mk outcome after =>
    rw [ran] at fails
    cases outcome with
    | error failure => exact ⟨failure, invoke_run_of_failure asks named ran⟩
    | ok payload => cases fails

omit [HoldsDisk σ] in
theorem member?_of_answer
    (answers : (engine.answer question invocation now : StateM σ _).run before =
      (.ok payload, after)) : payload.member? "ok" = some (.bool true) := by
  rw [Engine.answer] at answers
  split at answers
  next => cases answers
  next answer _ =>
    rw [run_bind] at answers
    split at answers
    next => cases answers
    next =>
      rw [run_bind] at answers
      split at answers
      next => cases answers
      next =>
        cases answers
        exact member?_toJson answer _

omit [HoldsDisk σ] in
theorem exists_answered_run (asks : invocation.listSaved = false)
    (named : (engine.questionOf invocation : StateM σ _).run before = (.ok question, before))
    (succeeds : ((engine.answer question invocation now : StateM σ _).run before).1.isOk) :
    ∃ payload, (engine.invoke invocation now : StateM σ Json).run before =
        (payload, ((engine.answer question invocation now : StateM σ _).run before).2) ∧
      payload.member? "ok" = some (.bool true) := by
  cases ran : (engine.answer question invocation now : StateM σ _).run before with
  | mk outcome after =>
    rw [ran] at succeeds
    cases outcome with
    | error failure => cases succeeds
    | ok payload =>
      exact ⟨payload, invoke_run_of_answer asks named ran, member?_of_answer ran⟩

/-! ### What a course leaves on the disk -/

variable {keeps : Disk → Prop}

omit [HoldsDisk σ] in
theorem saveQuestion_run {text : String} {result : Except FileError SavedQuestion}
    (saves : (Registry.upsert engine.config.savedPath ⟨text, question, now⟩ :
      StateM σ _).run before = (result, after)) :
    (engine.saveQuestion (some text) question now : StateM σ _).run before =
      ((result.map some).mapError .file, after) := by
  rw [saveQuestion, run_bind, saves]
  rfl

omit [HoldsDisk σ] in
theorem writeResult_run {given : String} {result : Json} {outcome : Except FileError Unit}
    (writes : (Files.writeInDirectory (engine.config.outputPath given) result.indented :
      StateM σ _).run before = (outcome, after)) :
    (engine.writeResult (some given) result : StateM σ _).run before =
      ((outcome.map fun _ => some (engine.config.outputPath given)).mapError .file, after) := by
  rw [writeResult, run_bind, writes]
  rfl

/-- A question that is not saved leaves only directories. -/
theorem saveQuestion_failed (step : Files.KeptByDirectories keeps) {name : Option String}
    {failure : Failure}
    (ran : (engine.saveQuestion name question now : StateM σ _).run before =
      (.error failure, after))
    (holds : keeps (disk before)) : keeps (disk after) := by
  cases name with
  | none => cases ran
  | some text =>
    cases saves : (Registry.upsert engine.config.savedPath ⟨text, question, now⟩ :
        StateM σ _).run before with
    | mk result last =>
      rw [saveQuestion_run saves] at ran
      rcases Registry.upsert_cases step saves holds with ⟨error, rfl, kept⟩ | ⟨_, rfl, _⟩
      · cases ran
        exact kept
      · cases ran

/-- A question is saved if a name is given. -/
theorem saveQuestion_saved (step : Files.KeptByDirectories keeps) {name : Option String}
    {saved : Option SavedQuestion}
    (ran : (engine.saveQuestion name question now : StateM σ _).run before = (.ok saved, after))
    (holds : keeps (disk before)) :
    (name = none ∧ saved = none ∧ after = before) ∨
      ∃ text between, name = some text ∧ saved = some ⟨text, question, now⟩ ∧ keeps between ∧
        between.writeText engine.config.savedPath
          (((disk before).registry engine.config.savedPath).insert ⟨text, question, now⟩).toText =
            .ok (disk after) := by
  cases name with
  | none =>
    cases ran
    exact .inl ⟨rfl, rfl, rfl⟩
  | some text =>
    right
    cases saves : (Registry.upsert engine.config.savedPath ⟨text, question, now⟩ :
        StateM σ _).run before with
    | mk result last =>
      rw [saveQuestion_run saves] at ran
      rcases Registry.upsert_cases step saves holds with
        ⟨_, rfl, _⟩ | ⟨between, rfl, kept, written⟩
      · cases ran
      · cases ran
        exact ⟨text, between, rfl, rfl, kept, written⟩

/-- A result that is not written leaves only directories. -/
theorem writeResult_failed (step : Files.KeptByDirectories keeps) {path : Option String}
    {result : Json} {failure : Failure}
    (ran : (engine.writeResult path result : StateM σ _).run before = (.error failure, after))
    (holds : keeps (disk before)) :
    path.isSome ∧ (∃ error, failure = .file error) ∧ keeps (disk after) := by
  cases path with
  | none => cases ran
  | some given =>
    cases writes : (Files.writeInDirectory (engine.config.outputPath given) result.indented :
        StateM σ _).run before with
    | mk outcome last =>
      rw [writeResult_run writes] at ran
      rcases Files.writeInDirectory_cases step writes holds with ⟨error, rfl, kept⟩ | ⟨_, rfl, _⟩
      · cases ran
        exact ⟨rfl, ⟨error, rfl⟩, kept⟩
      · cases ran

/-- A result is written if a file is given. -/
theorem writeResult_written (step : Files.KeptByDirectories keeps) {path : Option String}
    {result : Json} {written : Option String}
    (ran : (engine.writeResult path result : StateM σ _).run before = (.ok written, after))
    (holds : keeps (disk before)) :
    (written = none ∧ after = before) ∨
      ∃ given between, path = some given ∧ written = some (engine.config.outputPath given) ∧
        keeps between ∧ between.writeText (engine.config.outputPath given) result.indented =
          .ok (disk after) := by
  cases path with
  | none =>
    cases ran
    exact .inl ⟨rfl, rfl⟩
  | some given =>
    right
    cases writes : (Files.writeInDirectory (engine.config.outputPath given) result.indented :
        StateM σ _).run before with
    | mk outcome last =>
      rw [writeResult_run writes] at ran
      rcases Files.writeInDirectory_cases step writes holds with
        ⟨_, rfl, _⟩ | ⟨between, rfl, kept, changed⟩
      · cases ran
      · cases ran
        exact ⟨given, between, rfl, rfl, kept, changed⟩

/-- What directories, the saved question and the written file keep is kept by a whole course. -/
theorem Course.preserves {effects : Effects}
    (course : engine.Course invocation now before payload after effects)
    (directories : Files.KeptByDirectories keeps)
    (saves : ∀ saved ∈ effects.saved, ∀ between changed, keeps between →
      between.writeText engine.config.savedPath
        (((disk before).registry engine.config.savedPath).insert saved).toText = .ok changed →
      keeps changed)
    (writes : ∀ path ∈ effects.written, ∀ between text, keeps between →
      between.writeText path text = .ok (disk after) → keeps (disk after))
    (holds : keeps (disk before)) : keeps (disk after) := by
  -- the question is saved before the result is written, so both last courses pass this state
  have saving : ∀ {saved : Option SavedQuestion} {question : String} {between : σ},
      (engine.saveQuestion invocation.save question now : StateM σ _).run before =
        (.ok saved, between) → effects.saved = saved → keeps (disk between) := by
    intro saved question between ran same
    rcases saveQuestion_saved directories ran holds with
      ⟨_, _, rfl⟩ | ⟨text, first, _, rfl, kept, written⟩
    · exact holds
    · exact saves _ same first _ kept written
  cases course with
  | listed => exact holds
  | refused => exact holds
  | unanswered => exact holds
  | unsaved _ _ _ failed => exact saveQuestion_failed directories failed holds
  | unwritten _ _ _ saved failed =>
    exact (writeResult_failed directories failed (saving saved rfl)).2.2
  | finished _ _ _ saved wrote =>
    rcases writeResult_written directories wrote (saving saved rfl) with
      ⟨_, rfl⟩ | ⟨given, between, _, rfl, kept, changed⟩
    · exact saving saved rfl
    · exact writes _ rfl between _ kept changed

/-- An invocation leaves a tree of files where it found one. -/
theorem Course.isTree {effects : Effects}
    (course : engine.Course invocation now before payload after effects)
    (tree : (disk before).IsTree) : (disk after).IsTree := by
  apply course.preserves _ _ _ tree
  · exact fun _ _ _ tree made => tree.createDirectory made
  · exact fun _ _ _ _ tree written => tree.writeText written
  · exact fun _ _ _ _ tree written => tree.writeText written

end FleetQuery.Engine
