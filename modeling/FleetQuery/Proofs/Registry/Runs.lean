import FleetQuery.KeyedList
import FleetQuery.Proofs.Registry.File
import Mathlib.Data.List.Nodup

/-!
# Saving questions one after another

The file of a registry is read, changed and written again for every question that is saved. However
many are saved, it holds what a list would hold that is changed in memory: a question takes the
place of the one of its name, or comes last. Main statement: `upserts_record`.
-/
namespace FleetQuery

namespace SavedQuestion

/-- The form of a name in which names are told apart. -/
def key (saved : SavedQuestion) : String := Text.lower saved.name

theorem isNamed_iff (saved other : SavedQuestion) :
    saved.isNamed other.name = true ↔ saved.key = other.key := by
  simp [isNamed, key]

/-- A question as an entry under its key. -/
def entry (saved : SavedQuestion) : String × SavedQuestion := (saved.key, saved)

end SavedQuestion

namespace Registry

/-- The list with a question in the place of the one of its name, or at the end. -/
def put (saved : List SavedQuestion) (question : SavedQuestion) : List SavedQuestion :=
  if saved.any fun other => other.isNamed question.name then
    saved.map fun other => if other.isNamed question.name then question else other
  else saved ++ [question]

/-- No two names are the same without regard to case. -/
def NamesDistinct (saved : List SavedQuestion) : Prop := (saved.map SavedQuestion.key).Nodup

instance (saved : List SavedQuestion) : Decidable (NamesDistinct saved) :=
  inferInstanceAs (Decidable (saved.map SavedQuestion.key).Nodup)

variable {saved : List SavedQuestion} {question : SavedQuestion}

/-! ### One question -/

/-- The registry is a keyed list. -/
theorem entries_insertQuestion : (insertQuestion question saved).map SavedQuestion.entry =
    KeyedList.insertEntry question.key question (saved.map SavedQuestion.entry) := by
  induction saved with
  | nil => rfl
  | cons first rest ih =>
    have named := first.isNamed_iff question
    rw [insertQuestion, List.map_cons, KeyedList.insertEntry]
    by_cases same : first.key = question.key
    · rw [if_pos (named.mpr same), if_pos (show first.entry.1 = question.key from same)]
      rfl
    · rw [if_neg fun here => same (named.mp here),
        if_neg (show ¬ first.entry.1 = question.key from same), List.map_cons, ih]

theorem keys_eq (saved : List SavedQuestion) :
    (saved.map SavedQuestion.entry).map Prod.fst = saved.map SavedQuestion.key := by
  rw [List.map_map]
  rfl

theorem find?_eq (saved : List SavedQuestion) (name : String) :
    (saved.find? fun other => other.isNamed name) =
      ((saved.map SavedQuestion.entry).find? fun entry => entry.1 == Text.lower name).map
        Prod.snd := by
  rw [List.find?_map, Option.map_map]
  exact Option.map_id'.symm

theorem find?_insertQuestion (name : String) :
    ((insertQuestion question saved).find? fun other => other.isNamed name) =
      if question.isNamed name then some question
      else saved.find? fun other => other.isNamed name := by
  have named : question.isNamed name = true ↔ Text.lower name = question.key := by
    rw [SavedQuestion.isNamed, beq_iff_eq, eq_comm]
    rfl
  rw [find?_eq, entries_insertQuestion, KeyedList.find_insertEntry, ← find?_eq]
  simp only [named]

theorem NamesDistinct.insertQuestion (distinct : NamesDistinct saved) (question : SavedQuestion) :
    NamesDistinct (insertQuestion question saved) := by
  rw [NamesDistinct, ← keys_eq] at distinct ⊢
  rw [entries_insertQuestion]
  exact (KeyedList.insert ⟨_, distinct⟩ question.key question).distinct

theorem insertQuestion_eq_put (distinct : NamesDistinct saved) :
    insertQuestion question saved = put saved question := by
  induction saved with
  | nil => rfl
  | cons first rest ih =>
    rw [NamesDistinct, List.map_cons, List.nodup_cons] at distinct
    have later := ih distinct.2
    rw [Registry.insertQuestion, put, List.any_cons, List.map_cons]
    split
    next here =>
      -- no other question has the name of the first one
      have others : ∀ other ∈ rest, ¬ other.isNamed question.name = true := by
        intro other member named
        rw [SavedQuestion.isNamed_iff] at here named
        exact distinct.1 (List.mem_map.mpr ⟨other, member, named.trans here.symm⟩)
      have kept : (rest.map fun other => if other.isNamed question.name then question else other) =
          rest.map id := List.map_congr_left fun other member => if_neg (others other member)
      rw [kept, List.map_id, here]
      rfl
    next other =>
      rw [later, put, (Bool.not_eq_true _).mp other, Bool.false_or]
      split <;> rfl

theorem filter_insertQuestion {keeps : SavedQuestion → Bool}
    (passes : ∀ other, other.isNamed question.name = true → keeps other = false) :
    (insertQuestion question saved).filter keeps = saved.filter keeps := by
  have itself : keeps question = false := passes question (by simp [SavedQuestion.isNamed])
  induction saved with
  | nil => simp [Registry.insertQuestion, itself]
  | cons first rest ih =>
    rw [Registry.insertQuestion]
    split
    next named => simp [itself, passes first named]
    next => rw [List.filter_cons, List.filter_cons, ih]

/-! ### Many questions -/

/-- The questions put into a list one after another, in memory. -/
def putAll (saved calls : List SavedQuestion) : List SavedQuestion := calls.foldl put saved

/-- What holds of the registries before and after some questions are saved. -/
structure Records (calls : List SavedQuestion) (before after : Registry) : Prop where
  /-- Every question has taken the place of the one of its name, or was added at the end. -/
  questions : after.questions = putAll before.questions calls
  distinct : NamesDistinct after.questions
  /-- The last question of a name is the one that is found. -/
  found : ∀ name, after.find? name =
    (calls.reverse.find? fun call => call.isNamed name).or (before.find? name)
  /-- Questions of other names are left as they are. -/
  others : (after.questions.filter fun saved => !calls.any fun call => saved.isNamed call.name) =
    before.questions.filter fun saved => !calls.any fun call => saved.isNamed call.name

/-- Every successful call inserts its question into the registry on the disk. -/
theorem upserts_run {path : String} {calls : List SavedQuestion} {disk after : Disk}
    {results : List (Except FileError SavedQuestion)}
    (ran : (calls.mapM (upsert path) : StateM Disk _).run disk = (results, after))
    (succeed : ∀ result ∈ results, result.isOk) :
    results = calls.map .ok ∧
      after.registry path = calls.foldl Registry.insert (disk.registry path) := by
  induction calls generalizing disk results with
  | nil =>
    cases ran
    exact ⟨rfl, rfl⟩
  | cons call rest ih =>
    rw [List.mapM_cons, run_bind, run_bind] at ran
    cases first : (upsert path call : StateM Disk _).run disk with
    | mk result between =>
      rw [first] at ran
      cases later : (rest.mapM (upsert path) : StateM Disk _).run between with
      | mk others last =>
        dsimp only at ran
        rw [later] at ran
        cases ran
        obtain ⟨rfl, inserted⟩ := upsert_run first (succeed _ List.mem_cons_self)
        obtain ⟨rfl, run⟩ := ih later fun other member =>
          succeed other (List.mem_cons_of_mem _ member)
        refine ⟨rfl, ?_⟩
        rw [run]
        exact congrArg (fun registry => rest.foldl insert registry) inserted

/-- Questions inserted one after another are recorded. -/
theorem records_foldl_insert (calls : List SavedQuestion) (before : Registry)
    (distinct : NamesDistinct before.questions) :
    Records calls before (calls.foldl insert before) := by
  induction calls generalizing before with
  | nil => exact ⟨rfl, distinct, fun name => rfl, rfl⟩
  | cons call rest ih =>
    have later := ih (before.insert call) (distinct.insertQuestion call)
    rw [List.foldl_cons]
    refine ⟨?_, later.distinct, ?_, ?_⟩
    · rw [later.questions, insert, insertQuestion_eq_put distinct]
      rfl
    · intro name
      -- this question is found if none of the later ones has the name
      rw [later.found, find?, insert, find?_insertQuestion, List.reverse_cons, List.find?_append,
        Option.or_assoc]
      congr 1
      cases named : call.isNamed name <;> simp [named, find?]
    · have split : ∀ saved : List SavedQuestion,
          (saved.filter fun saved => !(call :: rest).any fun call => saved.isNamed call.name) =
            (saved.filter fun saved => !rest.any fun call => saved.isNamed call.name).filter
              fun saved => !saved.isNamed call.name := by
        intro saved
        rw [List.filter_filter]
        simp only [List.any_cons, Bool.not_or]
      rw [split, later.others, ← split]
      exact filter_insertQuestion fun other named => by simp [named]

/-- However many questions are saved, if every call succeeds the file holds what the calls record in
memory. -/
theorem upserts_record (path : String) (calls : List SavedQuestion) (disk : Disk)
    (distinct : NamesDistinct (disk.registry path).questions)
    (succeed : ∀ result ∈ ((calls.mapM (upsert path) : StateM Disk _).run disk).1, result.isOk) :
    ∃ after registry, (calls.mapM (upsert path) : StateM Disk _).run disk =
        (calls.map .ok, after) ∧
      (load path : StateM Disk _).run after = (registry, after) ∧
      Records calls (disk.registry path) registry := by
  cases ran : (calls.mapM (upsert path) : StateM Disk _).run disk with
  | mk results after =>
    rw [ran] at succeed
    obtain ⟨rfl, inserted⟩ := upserts_run ran succeed
    refine ⟨after, after.registry path, rfl, load_run path after, ?_⟩
    rw [inserted]
    exact records_foldl_insert calls _ distinct

/-- Two names, the first one saved again in other letters. -/
def sampleCalls : List SavedQuestion :=
  [⟨"Busy \"hosts\"", "Get role from all", "2024-05-20T09:30:00Z"⟩,
    ⟨"second", "line\nline", "2024-05-20T10:00:00Z"⟩,
    ⟨"BUSY \"hosts\"", "Get count() from all", "2024-05-21T00:00:00Z"⟩]

theorem upserts_record_sample : ∃ after registry,
    (sampleCalls.mapM (upsert "saved/questions.json") : StateM Disk _).run .empty =
        (sampleCalls.map .ok, after) ∧
      (load "saved/questions.json" : StateM Disk _).run after = (registry, after) ∧
      registry.questions =
        [⟨"BUSY \"hosts\"", "Get count() from all", "2024-05-21T00:00:00Z"⟩,
          ⟨"second", "line\nline", "2024-05-20T10:00:00Z"⟩] := by
  obtain ⟨after, registry, ran, loads, records⟩ :=
    upserts_record "saved/questions.json" sampleCalls .empty (by decide +kernel) (by decide +kernel)
  refine ⟨after, registry, ran, loads, records.questions.trans ?_⟩
  decide +kernel

end Registry
end FleetQuery
