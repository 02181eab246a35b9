import FleetQuery.Config
import FleetQuery.Proofs.Files.States
import FleetQuery.Proofs.Json.RoundTrip
import FleetQuery.Proofs.Outcome

/-!
# The file of a configuration

A configuration is read from its file as it was saved there, with the group aliases in their
order. Keys that are taken out of the written object have their defaults, and the others stay as
they are.
Main statement: `load_of_saved`.
-/
namespace FleetQuery

/-! ### Lists of distinct keys -/

namespace KeyedList

variable {α : Type}

theorem insertEntry_of_new {key : String} (value : α) {entries : List (String × α)}
    (absent : key ∉ entries.map Prod.fst) :
    insertEntry key value entries = entries ++ [(key, value)] := by
  induction entries with
  | nil => rfl
  | cons entry rest ih =>
    rw [List.map_cons, List.mem_cons, not_or] at absent
    rw [insertEntry, if_neg (Ne.symm absent.1), ih absent.2, List.cons_append]

theorem entries_insertAll (list : KeyedList α) (pairs : List (String × α))
    (distinct : ((list.entries ++ pairs).map Prod.fst).Nodup) :
    (list.insertAll pairs).entries = list.entries ++ pairs := by
  induction pairs generalizing list with
  | nil => exact (List.append_nil _).symm
  | cons pair rest ih =>
    -- the pair goes to the end, where the induction goes on with the rest
    have absent : pair.1 ∉ list.entries.map Prod.fst := by
      rw [List.map_append, List.nodup_append] at distinct
      exact fun member => distinct.2.2 _ member _ List.mem_cons_self rfl
    have inserted : (list.insert pair.1 pair.2).entries = list.entries ++ [pair] :=
      insertEntry_of_new pair.2 absent
    have later := ih (list.insert pair.1 pair.2) (by
      rw [inserted, List.append_assoc]
      exact distinct)
    rw [inserted, List.append_assoc] at later
    exact later

/-- Entries with distinct keys stay in their order. -/
theorem ofList_entries (list : KeyedList α) : ofList list.entries = list := by
  obtain ⟨entries, distinct⟩ := list
  have same := entries_insertAll empty entries distinct
  rw [mk.injEq]
  exact same

end KeyedList

/-! ### Objects with some names removed -/

namespace Json

/-- The object without the members of some names. -/
def without (removed : List String) : Json → Json
  | object members => object (members.filter fun member => !removed.contains member.1)
  | value => value

/-- The object with some fields. -/
def Tree.ofFields (fields : List (String × Tree)) : Tree :=
  .object (fields.map fun field => (some field.1, field.2))

/-- Whether a member of an object is read as a field. -/
def IsReadAs (member : String × Json) (field : String × Tree) : Prop :=
  member.1 = field.1 ∧ member.2.tree? = some field.2

variable {members : List (String × Json)} {fields : List (String × Tree)}

theorem tree?_object (each : List.Forall₂ IsReadAs members fields) :
    (object members).tree? = some (.ofFields fields) := by
  have trees : memberTrees? members = some (fields.map fun field => (some field.1, field.2)) := by
    induction each with
    | nil => rfl
    | @cons member field members fields here later ih =>
      obtain ⟨name, value⟩ := member
      obtain ⟨rfl, found⟩ := here
      simp only [memberTrees?, found, ih]
      rfl
  rw [tree?, trees]
  rfl

/-- What is left of an object is read as what is left of its fields. -/
theorem tree?_without (each : List.Forall₂ IsReadAs members fields) (removed : List String) :
    ((object members).without removed).tree? =
      some (.ofFields (fields.filter fun field => !removed.contains field.1)) := by
  rw [without]
  apply tree?_object
  refine List.rel_filter ?_ each
  rintro member field ⟨same, _⟩
  simp only [same]

namespace Tree

variable {names : List String}

/-- The known members of an object with distinct names, the last one first. -/
theorem knownMembers_eq {found : List (String × Tree)} (known : ∀ field ∈ fields, field.1 ∈ names)
    (distinct : ((found ++ fields).map Prod.fst).Nodup) :
    knownMembers names found (fields.map fun field => (some field.1, field.2)) =
      some (fields.reverse ++ found) := by
  induction fields generalizing found with
  | nil => rfl
  | cons field rest ih =>
    have listed : names.contains field.1 = true := by
      simpa using known field List.mem_cons_self
    have fresh : ¬ (found.any fun member => member.1 == field.1) = true := by
      rw [List.map_append, List.nodup_append] at distinct
      simp only [List.any_eq_true, beq_iff_eq, not_exists, not_and]
      intro member among same
      exact distinct.2.2 _ (List.mem_map_of_mem among) _ List.mem_cons_self same
    -- what is found is kept in reverse, so the names found and to come change places
    have earlier : ∀ other ∈ rest, other.1 ∈ names := fun other member =>
      known other (List.mem_cons_of_mem _ member)
    have apart : (((field :: found) ++ rest).map Prod.fst).Nodup :=
      (List.Perm.map _ List.perm_middle).nodup_iff.mp distinct
    rw [List.map_cons, knownMembers, if_pos listed, if_neg fresh, ih earlier apart,
      List.reverse_cons, List.append_assoc]
    rfl

theorem record?_ofFields (known : ∀ field ∈ fields, field.1 ∈ names)
    (distinct : (fields.map Prod.fst).Nodup) :
    (ofFields fields).record? names = some fields.reverse := by
  have all : (([] ++ fields).map Prod.fst).Nodup := distinct
  rw [ofFields, record?, knownMembers_eq known all, List.append_nil]

end Tree
end Json

namespace Config

/-! ### The text -/

/-- The configuration with defaults for some keys. -/
def withDefaults (removed : List String) (config : Config) : Config where
  inventoryPath :=
    if "inventory_path" ∈ removed then standard.inventoryPath else config.inventoryPath
  savedPath := if "saved_path" ∈ removed then standard.savedPath else config.savedPath
  downloadsDirectory :=
    if "downloads_dir" ∈ removed then standard.downloadsDirectory else config.downloadsDirectory
  defaultColumn :=
    if "default_column" ∈ removed then standard.defaultColumn else config.defaultColumn
  groupAliases := if "group_aliases" ∈ removed then standard.groupAliases else config.groupAliases

/-- The members of the file, as they are read. -/
def fields (config : Config) : List (String × Json.Tree) :=
  [("inventory_path", config.inventoryPath.elim .null fun path => .string (some path)),
    ("saved_path", .string (some config.savedPath)),
    ("downloads_dir", .string (some config.downloadsDirectory)),
    ("default_column", .string (some config.defaultColumn)),
    ("group_aliases", .ofFields (config.groupAliases.entries.map fun entry =>
      (entry.1, .string (some entry.2))))]

/-- The fields without those of some keys. -/
def fieldsWithout (removed : List String) (config : Config) : List (String × Json.Tree) :=
  config.fields.filter fun field => !removed.contains field.1

theorem tree?_toJson_without (removed : List String) (config : Config) :
    (config.toJson.without removed).tree? = some (.ofFields (config.fieldsWithout removed)) := by
  have path : (Json.ofOption .string config.inventoryPath).tree? =
      some (config.inventoryPath.elim .null fun path => .string (some path)) := by
    cases config.inventoryPath <;> rfl
  have aliases : (Json.object (config.groupAliases.entries.map fun entry =>
      (entry.1, .string entry.2))).tree? = some (.ofFields (config.groupAliases.entries.map
        fun entry => (entry.1, .string (some entry.2)))) := by
    apply Json.tree?_object
    rw [List.forall₂_map_left_iff, List.forall₂_map_right_iff, List.forall₂_same]
    exact fun _ _ => ⟨rfl, rfl⟩
  exact Json.tree?_without (.cons ⟨rfl, path⟩ (.cons ⟨rfl, rfl⟩ (.cons ⟨rfl, rfl⟩
    (.cons ⟨rfl, rfl⟩ (.cons ⟨rfl, aliases⟩ .nil))))) removed

theorem record?_fieldsWithout (removed : List String) (config : Config) :
    (Json.Tree.ofFields (config.fieldsWithout removed)).record? keys =
      some (config.fields.reverse.filter fun field => !removed.contains field.1) := by
  have listed : config.fields.map Prod.fst = keys := rfl
  have known : ∀ field ∈ config.fieldsWithout removed, field.1 ∈ keys := fun field kept =>
    listed ▸ List.mem_map_of_mem (List.mem_of_mem_filter kept)
  have distinct : ((config.fieldsWithout removed).map Prod.fst).Nodup := by
    refine List.Nodup.sublist (List.filter_sublist.map Prod.fst) ?_
    rw [listed]
    decide
  rw [Json.Tree.record?_ofFields known distinct, fieldsWithout, List.filter_reverse]

/-- A field whose key is removed is gone, and the others stay. -/
theorem lookup_filter (removed : List String) (fields : List (String × Json.Tree)) (key : String) :
    (fields.filter fun field => !removed.contains field.1).lookup key =
      if key ∈ removed then none else fields.lookup key := by
  induction fields with
  | nil => simp
  | cons field rest ih =>
    obtain ⟨name, tree⟩ := field
    rw [List.filter_cons]
    by_cases here : key = name
    · subst here
      by_cases gone : key ∈ removed
      · rw [if_neg (by simpa using gone), ih, if_pos gone, if_pos gone]
      · rw [if_pos (by simpa using gone), List.lookup_cons_self, if_neg gone, List.lookup_cons_self]
    · have apart : (key == name) = false := beq_false_of_ne here
      rw [List.lookup_cons, apart]
      split
      · rw [List.lookup_cons, apart, ih]
      · exact ih

theorem fieldOr_filter {α : Type} {fields : List (String × Json.Tree)} {key : String}
    {default value : α} {read : Json.Tree → Option α} (removed : List String)
    (stored : fieldOr fields key default read = some value) :
    fieldOr (fields.filter fun field => !removed.contains field.1) key default read =
      some (if key ∈ removed then default else value) := by
  rw [fieldOr, lookup_filter]
  by_cases gone : key ∈ removed
  · rw [if_pos gone, if_pos gone]
  · rw [if_neg gone, if_neg gone, ← stored]
    rfl

theorem aliases?_entries (aliases : KeyedList String) :
    aliases? (.ofFields (aliases.entries.map fun entry => (entry.1, .string (some entry.2)))) =
      some aliases := by
  have read : ((aliases.entries.map fun entry => (entry.1, Json.Tree.string (some entry.2))).map
      fun field => (some field.1, field.2)).mapM alias? = some aliases.entries := by
    rw [List.map_map, List.mapM_map, mapM_eq_some_map (alias? ∘ _) id _ fun entry _ => rfl,
      List.map_id]
  rw [Json.Tree.ofFields, aliases?, read, Option.map_some, KeyedList.ofList_entries]

theorem ofTree?_fieldsWithout (removed : List String) (config : Config) :
    ofTree? (.ofFields (config.fieldsWithout removed)) = some (config.withDefaults removed) := by
  -- what each key holds while none is removed
  have inventoryPath : fieldOr config.fields.reverse "inventory_path" standard.inventoryPath
      optionalText? = some config.inventoryPath := by
    have stored : fieldOr config.fields.reverse "inventory_path" standard.inventoryPath
        optionalText? = optionalText? (config.inventoryPath.elim .null fun path =>
          .string (some path)) := rfl
    rw [stored]
    cases config.inventoryPath <;> rfl
  have savedPath : fieldOr config.fields.reverse "saved_path" standard.savedPath
      Json.Tree.text? = some config.savedPath := rfl
  have downloads : fieldOr config.fields.reverse "downloads_dir" standard.downloadsDirectory
      Json.Tree.text? = some config.downloadsDirectory := rfl
  have column : fieldOr config.fields.reverse "default_column" standard.defaultColumn
      Json.Tree.text? = some config.defaultColumn := rfl
  have aliases : fieldOr config.fields.reverse "group_aliases" standard.groupAliases aliases? =
      some config.groupAliases := aliases?_entries config.groupAliases
  rw [ofTree?, record?_fieldsWithout]
  simp only [Option.bind_eq_bind, Option.bind_some, fieldOr_filter removed inventoryPath,
    fieldOr_filter removed savedPath, fieldOr_filter removed downloads,
    fieldOr_filter removed column, fieldOr_filter removed aliases]
  rfl

/-- A text that reads as the written object without some keys. -/
theorem ofText?_without {removed : List String} {config : Config} {text : String}
    (reads : Json.Tree.ofText? text = Json.Tree.ofText? (config.toJson.without removed).indented) :
    ofText? text = some (config.withDefaults removed) := by
  rw [ofText?, reads, Json.ofText?_indented (tree?_toJson_without removed config),
    Option.bind_some, ofTree?_fieldsWithout]

/-- A configuration is read from its text as it was. -/
theorem ofText?_toText (config : Config) : ofText? config.toText = some config := by
  have whole : config.toJson.without [] = config.toJson := by
    simp [toJson, Json.without]
  have read : Json.Tree.ofText? config.toText =
      Json.Tree.ofText? (config.toJson.without []).indented := by
    rw [whole, toText]
  rw [ofText?_without read]
  simp [withDefaults]

/-! ### The disk -/

variable {σ : Type} [Files (StateM σ)] [HoldsDisk σ] {path text : String} {state after : σ}
  {config loaded : Config}

open HoldsDisk (disk)

theorem load_run (read : (disk state).readText path = .ok text)
    (found : ofText? text = some loaded) :
    (load path : StateM σ (Except Failure Config)).run state = (.ok loaded, state) := by
  rw [load, run_bind, HoldsDisk.fileExists_run, Disk.fileExists_of_readText read]
  dsimp only
  rw [if_pos rfl, run_bind, HoldsDisk.readText_run, read]
  dsimp only
  rw [found]
  rfl

theorem readText_of_save
    (saved : (save path config : StateM σ (Except FileError Unit)).run state = (.ok (), after)) :
    (disk after).readText path = .ok config.toText := by
  rcases Files.writeInDirectory_cases Files.keptByDirectories_true saved trivial with
    ⟨error, failed, _⟩ | ⟨between, _, _, written⟩
  · cases failed
  · exact Disk.readText_of_writeText written

/-- A saved configuration is loaded as it was, and its catalog resolves every group as before. From
a file that holds the written object without some keys, however it is laid out, the configuration
is loaded with the defaults of these keys. -/
theorem load_of_saved
    (saved : (save path config : StateM σ (Except FileError Unit)).run state = (.ok (), after)) :
    (disk after).readText path = .ok config.toJson.indented ∧
    (∃ loaded, (load path : StateM σ (Except Failure Config)).run after = (.ok loaded, after) ∧
      loaded = config ∧
      ∀ name, loaded.catalog.resolveGroup name = config.catalog.resolveGroup name) ∧
    ∀ (removed : List String) (text : String) (edited : σ),
      (disk edited).readText path = .ok text →
      Json.Tree.ofText? text = Json.Tree.ofText? (config.toJson.without removed).indented →
      (load path : StateM σ (Except Failure Config)).run edited =
        (.ok (config.withDefaults removed), edited) := by
  have written := readText_of_save saved
  refine ⟨written, ⟨config, load_run written config.ofText?_toText, rfl, fun _ => rfl⟩, ?_⟩
  intro removed text edited read reads
  exact load_run read (ofText?_without reads)

/-- A configuration whose texts need escapes, with two aliases that are alike up to case. -/
def odd : Config where
  inventoryPath := some "\"C:\\fleet\"\n.json"
  savedPath := ""
  downloadsDirectory := "Ausgänge\t\x00"
  defaultColumn := "null"
  groupAliases := .ofList [("Ops", "Büro \"1\""), (" ops ", "\\"), ("", "")]

/-- A disk with the file of that configuration, from which two keys are removed. -/
def editedDisk : Disk :=
  ⟨[(["conf"], .directory), (["conf", "qsim.json"],
    .file (odd.toJson.without ["inventory_path", "group_aliases"]).indented)]⟩

theorem load_of_saved_odd : ∃ after : Disk,
    (save "conf/qsim.json" odd : StateM Disk (Except FileError Unit)).run .empty =
      (.ok (), after) ∧
    (load "conf/qsim.json" : StateM Disk (Except Failure Config)).run after = (.ok odd, after) ∧
    (load "conf/qsim.json" : StateM Disk (Except Failure Config)).run editedDisk =
      (.ok { odd with inventoryPath := none, groupAliases := .empty }, editedDisk) := by
  have written : ((save "conf/qsim.json" odd : StateM Disk (Except FileError Unit)).run .empty).1 =
      .ok () := by decide +kernel
  have saved : (save "conf/qsim.json" odd : StateM Disk (Except FileError Unit)).run .empty =
      (.ok (), ((save "conf/qsim.json" odd : StateM Disk (Except FileError Unit)).run .empty).2) :=
    Prod.ext written rfl
  have read : editedDisk.readText "conf/qsim.json" =
      .ok (odd.toJson.without ["inventory_path", "group_aliases"]).indented := by decide +kernel
  obtain ⟨_, ⟨loaded, loads, rfl, _⟩, edits⟩ := load_of_saved saved
  exact ⟨_, saved, loads, edits _ _ editedDisk read rfl⟩

end Config
end FleetQuery
