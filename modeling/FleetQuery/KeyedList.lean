/-!
# Keyed lists

A keyed list holds one value per key and remembers in which order the keys first came. Writing
under a known key replaces the value where it stands, and under a new key it appends.
-/
namespace FleetQuery

structure KeyedList (α : Type) where
  entries : List (String × α)
  distinct : (entries.map Prod.fst).Nodup

namespace KeyedList

variable {α : Type}

def empty : KeyedList α := ⟨[], by simp⟩

instance : Inhabited (KeyedList α) := ⟨empty⟩

def keys (list : KeyedList α) : List String := list.entries.map Prod.fst

/-- Replaces the value under `key`, or appends a new entry. -/
def insertEntry (key : String) (value : α) : List (String × α) → List (String × α)
  | [] => [(key, value)]
  | entry :: rest =>
    if entry.1 = key then (key, value) :: rest else entry :: insertEntry key value rest

theorem keys_insertEntry (key : String) (value : α) (entries : List (String × α)) :
    (insertEntry key value entries).map Prod.fst =
      if key ∈ entries.map Prod.fst then entries.map Prod.fst
      else entries.map Prod.fst ++ [key] := by
  induction entries with
  | nil => simp [insertEntry]
  | cons entry rest ih =>
    unfold insertEntry
    by_cases same : entry.1 = key
    · simp [same]
    · have other : ¬ key = entry.1 := fun h => same h.symm
      simp only [same, if_false, List.map_cons, ih, List.mem_cons, other, false_or]
      split <;> simp

def insert (list : KeyedList α) (key : String) (value : α) : KeyedList α where
  entries := insertEntry key value list.entries
  distinct := by
    rw [keys_insertEntry]
    split
    · exact list.distinct
    · next absent =>
      refine List.nodup_append.mpr ⟨list.distinct, by simp, ?_⟩
      intro a member b single equal
      rw [List.mem_singleton] at single
      exact absent (single ▸ equal ▸ member)

def get? (list : KeyedList α) (key : String) : Option α :=
  (list.entries.find? fun entry => entry.1 == key).map Prod.snd

/-- Writes the pairs one after another. -/
def insertAll (list : KeyedList α) (pairs : List (String × α)) : KeyedList α :=
  pairs.foldl (fun built pair => built.insert pair.1 pair.2) list

def ofList (pairs : List (String × α)) : KeyedList α := empty.insertAll pairs

/-! ### What a write changes -/

theorem find_insertEntry (key other : String) (value : α) (entries : List (String × α)) :
    ((insertEntry key value entries).find? fun entry => entry.1 == other).map Prod.snd =
      if other = key then some value
      else (entries.find? fun entry => entry.1 == other).map Prod.snd := by
  induction entries with
  | nil =>
    by_cases h : other = key
    · simp [insertEntry, h]
    · have : ¬ key = other := fun e => h e.symm
      simp [insertEntry, h, this]
  | cons entry rest ih =>
    unfold insertEntry
    by_cases same : entry.1 = key
    · by_cases h : other = key
      · simp [same, h]
      · have : ¬ key = other := fun e => h e.symm
        simp [same, h, this]
    · by_cases here : entry.1 = other
      · have : ¬ other = key := fun e => same (here.trans e)
        simp [here, this]
      · simp [same, here, ih]

theorem get?_insert (list : KeyedList α) (key other : String) (value : α) :
    (list.insert key value).get? other = if other = key then some value else list.get? other :=
  find_insertEntry key other value list.entries

end KeyedList
end FleetQuery
