import FleetQuery.Loading
import FleetQuery.Proofs.Files.States
import FleetQuery.Proofs.Inventory.Records

/-!
# Loads as a whole

A load reads all that it brings before it changes anything, so it takes effect as a whole or not at
all, whatever was asked of the inventory before. Main statements: `perform_effect` for one request and
`requests_history` for a run of them.
-/
namespace FleetQuery.Inventory

/-! ### Reading the machines of a value -/

theorem readMachines_eq_ok_iff {value : Json} {machines : List Machine} :
    readMachines value = .ok machines ↔ ∃ items, value = .array items ∧
      List.Forall₂ (fun item machine => Machine.ofJson item = .ok machine) items machines := by
  cases value with
  | array items =>
    have read : readMachines (.array items) = .ok machines ↔
        items.mapM Machine.ofJson = .ok machines := by
      rw [readMachines]
      cases items.mapM Machine.ofJson <;> simp [Except.mapError]
    rw [read, mapM_eq_ok_iff]
    simp
  | _ => simp [readMachines]

/-- A value is refused if it is no array, or for its first item that is no record. -/
inductive Unreadable : Json → LoadError → Prop where
  | noArray {value : Json} (other : ∀ items, value ≠ .array items) : Unreadable value .notAnArray
  | misshapen {before after : List Json} {item : Json} {error : ShapeError}
    (earlier : ∀ other ∈ before, Machine.IsRecord other) (here : ¬ Machine.IsRecord item)
    (raised : Machine.ofJson item = .error error) :
    Unreadable (.array (before ++ item :: after)) (.shape error)

theorem unreadable_of_readMachines {value : Json} {error : LoadError}
    (refused : readMachines value = .error error) : Unreadable value error := by
  cases value with
  | array items =>
    obtain ⟨shape, failed, rfl⟩ : ∃ shape, items.mapM Machine.ofJson = .error shape ∧
        LoadError.shape shape = error := by
      rw [readMachines] at refused
      cases traversed : items.mapM Machine.ofJson with
      | ok machines =>
        rw [traversed] at refused
        cases refused
      | error shape =>
        rw [traversed] at refused
        cases refused
        exact ⟨shape, rfl, rfl⟩
    -- the items are read from the left, so those before the first refused one are records
    obtain ⟨before, item, after, rfl, earlier, raised⟩ := (mapM_eq_error_iff _ _ _).mp failed
    refine .misshapen (fun other member => Machine.exists_ofJson_iff.mp (earlier other member)) ?_
      raised
    rw [← Machine.exists_ofJson_iff]
    rintro ⟨machine, read⟩
    rw [raised] at read
    cases read
  | null | bool _ | number _ | string _ | object _ =>
    cases refused
    exact .noArray nofun

/-! ### One request -/

variable {σ : Type} [Files (StateM σ)]

namespace Request

/-- Whether the present machines stay when others are loaded. -/
def keeps : Request → Bool
  | load _ keep => keep
  | loadFile _ | clear => false

/-- The value that a request brings, the files being left as `later`. -/
inductive Brings (files later : σ) : Request → Json → Prop where
  | given {value : Json} {keep : Bool} (same : later = files) :
    Brings files later (.load value keep) value
  | file {path text : String} {value : Json}
    (read : (Files.readText path : StateM σ (Except FileError String)).run files =
      (.ok text, later))
    (denotes : Json.ofText? text = some value) : Brings files later (.loadFile path) value

/-- Why a request is refused: its file is not read or holds no JSON, or its value is no array of
records. -/
inductive Refused (files later : σ) : Request → Failure → Prop where
  | unread {path : String} {error : FileError}
    (failed : (Files.readText path : StateM σ (Except FileError String)).run files =
      (.error error, later)) : Refused files later (.loadFile path) (.file error)
  | malformed {path text : String}
    (read : (Files.readText path : StateM σ (Except FileError String)).run files =
      (.ok text, later))
    (denotes : Json.ofText? text = none) : Refused files later (.loadFile path) .malformedJson
  | unreadable {request : Request} {value : Json} {error : LoadError}
    (brings : request.Brings files later value) (refused : Unreadable value error) :
    Refused files later request (.load error)

/-- What a request does to an inventory: a refused one changes nothing, and a load adds a machine for
each item of its array, to the present ones or to none. -/
inductive Effect (files later : σ) (held : Inventory) :
    Request → Except Failure (Option Nat) → Inventory → Prop where
  | cleared (same : later = files) : Effect files later held .clear (.ok none) ⟨[]⟩
  | refused {request : Request} {failure : Failure} (why : request.Refused files later failure) :
    Effect files later held request (.error failure) held
  | loaded {request : Request} {items : List Json} {machines : List Machine}
    (brings : request.Brings files later (.array items))
    (reads : List.Forall₂ (fun item machine => Machine.ofJson item = .ok machine) items machines) :
    Effect files later held request (.ok (some items.length))
      ⟨(if request.keeps then held.machines else []) ++ machines⟩

end Request

omit [Files (StateM σ)] in
/-- A load of a value is done as a whole. -/
theorem loadJson_run (held : Inventory) (files : σ) (value : Json) (keep : Bool) :
    (∃ error, Unreadable value error ∧
      ((loadJson value keep : StateT Inventory (StateM σ) _).run held).run files =
        ((.error error, held), files)) ∨
    ∃ items machines, value = .array items ∧
      List.Forall₂ (fun item machine => Machine.ofJson item = .ok machine) items machines ∧
      ((loadJson value keep : StateT Inventory (StateM σ) _).run held).run files =
        ((.ok items.length, ⟨(if keep then held.machines else []) ++ machines⟩), files) := by
  cases read : readMachines value with
  | error error =>
    refine .inl ⟨error, unreadable_of_readMachines read, ?_⟩
    simp only [loadJson, read]
    rfl
  | ok machines =>
    obtain ⟨items, rfl, reads⟩ := readMachines_eq_ok_iff.mp read
    refine .inr ⟨items, machines, rfl, reads, ?_⟩
    simp only [loadJson, read, reads.length_eq]
    cases keep <;> rfl

omit [Files (StateM σ)] in
/-- Two steps one after another. -/
theorem run_steps {α β : Type} (held : Inventory) (files : σ) (first : StateT Inventory (StateM σ) α)
    (second : α → StateT Inventory (StateM σ) β) :
    ((first >>= second).run held).run files =
      ((second ((first.run held).run files).1.1).run ((first.run held).run files).1.2).run
        ((first.run held).run files).2 := rfl

omit [Files (StateM σ)] in
/-- A step on the files leaves the machines alone. -/
theorem run_onFiles {α : Type} (held : Inventory) (files : σ) (step : StateM σ α) :
    ((liftM step : StateT Inventory (StateM σ) α).run held).run files =
      (((step.run files).1, held), (step.run files).2) := rfl

/-- What is in a file is brought, or the request is refused. -/
theorem readFile_run (path : String) (files : σ) :
    (∃ failure later, (Request.loadFile path).Refused files later failure ∧
      (readFile path : StateM σ (Except Failure Json)).run files = (.error failure, later)) ∨
    ∃ value later, (Request.loadFile path).Brings files later value ∧
      (readFile path : StateM σ (Except Failure Json)).run files = (.ok value, later) := by
  have ran : (readFile path : StateM σ (Except Failure Json)).run files = _ := run_bind files _ _
  cases read : (Files.readText path : StateM σ (Except FileError String)).run files with
  | mk content later =>
    rw [read] at ran
    cases content with
    | error error => exact .inl ⟨_, later, .unread read, ran⟩
    | ok text =>
      cases denotes : Json.ofText? text with
      | none =>
        simp only [denotes] at ran
        exact .inl ⟨_, later, .malformed read denotes, ran⟩
      | some value =>
        simp only [denotes] at ran
        exact .inr ⟨value, later, .file read denotes, ran⟩

/-- A request takes effect as a whole or changes nothing. -/
theorem perform_effect (request : Request) (held : Inventory) (files : σ) :
    ∃ outcome after later,
      ((perform request : StateT Inventory (StateM σ) _).run held).run files =
        ((outcome, after), later) ∧ request.Effect files later held outcome after := by
  cases request with
  | clear => exact ⟨_, _, _, rfl, .cleared rfl⟩
  | load value keep =>
    have brings : (Request.load value keep).Brings files files value := .given rfl
    have ran : ((perform (.load value keep) : StateT Inventory (StateM σ) _).run held).run files =
        _ := run_steps held files (loadJson value keep) _
    rcases loadJson_run held files value keep with
      ⟨error, refused, loaded⟩ | ⟨items, machines, rfl, reads, loaded⟩
    · rw [loaded] at ran
      exact ⟨_, _, _, ran, .refused (.unreadable brings refused)⟩
    · rw [loaded] at ran
      exact ⟨_, _, _, ran, .loaded brings reads⟩
  | loadFile path =>
    -- reading the file changes the files only, so a load of its value starts from the same machines
    have ran : ((perform (.loadFile path) : StateT Inventory (StateM σ) _).run held).run files =
        _ := run_steps held files (loadFile path) _
    have opened : ((loadFile path : StateT Inventory (StateM σ) _).run held).run files =
        _ := run_steps held files (liftM (readFile path : StateM σ (Except Failure Json))) _
    rw [run_onFiles] at opened
    rcases readFile_run path files with
      ⟨failure, later, refused, read⟩ | ⟨value, later, brings, read⟩
    · rw [read] at opened
      rw [opened] at ran
      exact ⟨_, _, _, ran, .refused refused⟩
    · rw [read] at opened
      have given : ((loadFile path : StateT Inventory (StateM σ) _).run held).run files =
          _ := opened.trans (run_steps held later (loadJson value false) _)
      rcases loadJson_run held later value false with
        ⟨error, refused, loaded⟩ | ⟨items, machines, rfl, reads, loaded⟩
      · rw [loaded] at given
        rw [given] at ran
        exact ⟨_, _, _, ran, .refused (.unreadable brings refused)⟩
      · rw [loaded] at given
        rw [given] at ran
        exact ⟨_, _, _, ran, .loaded brings reads⟩

/-! ### Any number of requests -/

/-- What requests do, one after another. -/
inductive History : Inventory → σ → List Request → List (Except Failure (Option Nat)) →
    Inventory → σ → Prop where
  | nil (held : Inventory) (files : σ) : History held files [] [] held files
  | cons {held next last : Inventory} {files between later : σ} {request : Request}
    {outcome : Except Failure (Option Nat)} {requests : List Request}
    {outcomes : List (Except Failure (Option Nat))}
    (effect : request.Effect files between held outcome next)
    (rest : History next between requests outcomes last later) :
    History held files (request :: requests) (outcome :: outcomes) last later

theorem requests_history (requests : List Request) (held : Inventory) (files : σ) :
    ∃ outcomes last later,
      ((requests.mapM perform : StateT Inventory (StateM σ) _).run held).run files =
        ((outcomes, last), later) ∧ History held files requests outcomes last later := by
  -- the later requests start from whatever the first one leaves
  induction requests generalizing held files with
  | nil => exact ⟨[], held, files, rfl, .nil held files⟩
  | cons request rest ih =>
    obtain ⟨outcome, next, between, performed, effect⟩ := perform_effect request held files
    obtain ⟨outcomes, last, later, ran, history⟩ := ih next between
    refine ⟨outcome :: outcomes, last, later, ?_, .cons effect history⟩
    rw [List.mapM_cons, run_steps, performed, run_steps, ran]
    rfl

/-- Any object with the members of a machine is a record of it. -/
def IsRecordOf (machine : Machine) (record : Json) : Prop :=
  ∃ members, record = .object members ∧ members.Perm machine.members

/-- Loading the records of the machines that are held brings the same machines. -/
theorem load_records (held : Inventory) (files : σ) {records : List Json}
    (recorded : List.Forall₂ IsRecordOf held.machines records)
    (finite : ∀ machine ∈ held.machines, machine.HasFiniteNumbers) :
    ((perform (.load (.array records) false) : StateT Inventory (StateM σ) _).run held).run files =
      ((.ok (some held.machines.length), held), files) := by
  have reads : readMachines (.array records) = .ok held.machines := by
    refine readMachines_eq_ok_iff.mpr ⟨records, rfl, ?_⟩
    have each := (List.forall₂_and_left _ _).mpr ⟨finite, recorded⟩
    refine each.flip.imp ?_
    rintro record machine ⟨numbers, members, rfl, all⟩
    exact Machine.ofJson_of_members numbers all
  have loaded : ((loadJson (.array records) false : StateT Inventory (StateM σ) _).run held).run
      files = ((.ok held.machines.length, held), files) := by
    simp only [loadJson, reads]
    rfl
  exact (run_steps held files (loadJson (.array records) false) _).trans (by rw [loaded]; rfl)

/-- An inventory is loaded again from its own JSON. -/
theorem load_toJson (held : Inventory) (files : σ)
    (finite : ∀ machine ∈ held.machines, machine.HasFiniteNumbers) :
    ((perform (.load held.toJson false) : StateT Inventory (StateM σ) _).run held).run files =
      ((.ok (some held.machines.length), held), files) := by
  refine load_records held files ?_ finite
  rw [List.forall₂_map_right_iff, List.forall₂_same]
  exact fun machine _ => ⟨machine.members, machine.toJson_eq_object_members, .refl _⟩

/-- Whatever is asked of an inventory, one request after another: a refused load changes nothing, a
load that succeeds adds one machine for each item of its array, in order, to the present machines or
to none, and loading the records of the machines that are held in the end brings the same machines. -/
theorem requests_all_or_nothing (requests : List Request) (held : Inventory) (files : σ) :
    ∃ outcomes last later,
      ((requests.mapM perform : StateT Inventory (StateM σ) _).run held).run files =
        ((outcomes, last), later) ∧
      History held files requests outcomes last later ∧
      ∀ records, List.Forall₂ IsRecordOf last.machines records →
        (∀ machine ∈ last.machines, machine.HasFiniteNumbers) →
        ((perform (.load (.array records) false) : StateT Inventory (StateM σ) _).run last).run
          later = ((.ok (some last.machines.length), last), later) := by
  obtain ⟨outcomes, last, later, ran, history⟩ := requests_history requests held files
  exact ⟨outcomes, last, later, ran, history,
    fun records recorded finite => load_records last later recorded finite⟩

/-- A value that is refused and a file that is missing leave the machine that was loaded before. -/
theorem requests_all_or_nothing_sample : ∃ outcomes last later,
    ((([.load (.array [.object []]) true, .load (.array [.bool true]) false,
        .loadFile "missing.json"] : List Request).mapM perform :
          StateT Inventory (StateM Disk) _).run .empty).run .empty = ((outcomes, last), later) ∧
    last = ⟨[Machine.blank]⟩ ∧
    ((perform (.load (.array [.object Machine.blank.members]) false) :
        StateT Inventory (StateM Disk) _).run last).run later = ((.ok (some 1), last), later) := by
  obtain ⟨outcomes, last, later, ran, _, again⟩ := requests_all_or_nothing
    [.load (.array [.object []]) true, .load (.array [.bool true]) false, .loadFile "missing.json"]
      .empty Disk.empty
  have held : last = ⟨[Machine.blank]⟩ := by
    have same := congrArg (fun result => result.1.2) ran
    refine same.symm.trans ?_
    decide +kernel
  refine ⟨outcomes, last, later, ran, held, ?_⟩
  subst held
  refine again _ (.cons ⟨_, rfl, .refl _⟩ .nil) (List.forall_mem_singleton.mpr ?_)
  intro field number shown
  cases field <;> cases shown

end FleetQuery.Inventory
