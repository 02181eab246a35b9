import FleetQuery.Files.Disk
import Mathlib.Data.List.Induction

/-!
# Changes of a disk

What is written is read back. What can be read stays as it is when a directory is made or another
file is written. Directories bring no file to light that could not be read before, unless a path
goes back over one of them with two dots.
-/
namespace FleetQuery.Disk

variable {disk changed : Disk} {path text : String} {place target : List String}

/-! ### Entries -/

theorem entry_put_self (below : place ≠ []) (entry : Entry) :
    Disk.entry? (disk.put place entry) place = some entry := by
  simp [put, entry?, below]

theorem entry_put_of_ne {other : List String} (apart : other ≠ place) (entry : Entry) :
    Disk.entry? (disk.put place entry) other = disk.entry? other := by
  have kept : (fun stands : List String × Entry =>
      decide ((stands.1 != place) = true ∧ (stands.1 == other) = true)) =
        fun stands => stands.1 == other := by
    funext stands
    by_cases here : stands.1 = other
    · simp [here, apart]
    · simp [here]
  have skipped : (place == other) = false := by simpa using apart.symm
  simp only [put, entry?, List.find?_cons, skipped, List.find?_filter, kept]

theorem root_ne_none : disk.entry? [] ≠ none := nofun

/-- The root is a directory, so what is none lies below it. -/
theorem ne_root (plain : disk.entry? place ≠ some .directory) : place ≠ [] := by
  rintro rfl
  exact plain rfl

/-- Nothing is no directory. -/
theorem plain_of_absent (absent : disk.entry? place = none) :
    disk.entry? place ≠ some .directory := by
  simp [absent]

/-! ### Paths -/

theorem route_eq_ok {steps : List String} (routed : route path = .ok steps) :
    steps = Path.steps path := by
  unfold route at routed
  split at routed
  · cases routed
  · split at routed
    · cases routed
    · split at routed <;> cases routed
      rfl

theorem place_eq_ok_iff : disk.place path = .ok place ↔
    route path = .ok (Path.steps path) ∧ disk.follow [] (Path.steps path) = .ok place := by
  rw [Disk.place]
  cases routed : route path with
  | error failure => simp [bind, Except.bind]
  | ok steps =>
    cases route_eq_ok routed
    simp [bind, Except.bind]

/-- A change at a place where no directory was is on nobody's way. -/
theorem follow_put {start : List String} {steps : List String}
    (found : disk.follow start steps = .ok place)
    (plain : disk.entry? target ≠ some .directory) (entry : Entry) :
    (disk.put target entry).follow start steps = .ok place := by
  induction steps generalizing start with
  | nil => exact found
  | cons step rest ih =>
    rw [follow] at found ⊢
    cases here : disk.entry? start with
    | none => simp [here] at found
    | some stands =>
      cases stands with
      | file text => simp [here] at found
      | directory =>
        -- the way goes through directories only, and the target is none
        have apart : start ≠ target := fun same => plain (same ▸ here)
        rw [here] at found
        rw [entry_put_of_ne apart, here]
        dsimp only at found ⊢
        split at found
        next => cases found
        next short =>
          rw [if_neg short]
          exact ih found

theorem place_put (found : disk.place path = .ok place)
    (plain : disk.entry? target ≠ some .directory) (entry : Entry) :
    (disk.put target entry).place path = .ok place := by
  rw [place_eq_ok_iff] at found ⊢
  exact ⟨found.1, follow_put found.2 plain entry⟩

/-! ### Reading, writing and making directories -/

theorem readText_eq_ok_iff : disk.readText path = .ok text ↔
    ∃ place, disk.place path = .ok place ∧ disk.entry? place = some (.file text) ∧
      endsInSlash path = false := by
  rw [readText, lookup]
  cases found : disk.place path with
  | error failure => simp [bind, Except.bind]
  | ok place =>
    cases stands : disk.entry? place with
    | none => simp [stands, bind, Except.bind, pure, Except.pure]
    | some entry =>
      cases entry with
      | directory => simp [stands, bind, Except.bind, pure, Except.pure]
      | file found =>
        cases endsInSlash path <;>
          simp [stands, bind, Except.bind, pure, Except.pure, throw, throwThe, MonadExceptOf.throw]

/-- A file is written at the place that its path leads to, where no directory is. -/
theorem exists_of_writeText (written : disk.writeText path text = .ok changed) :
    ∃ place, disk.place path = .ok place ∧ endsInSlash path = false ∧
      disk.entry? place ≠ some .directory ∧ changed = disk.put place (.file text) := by
  rw [writeText] at written
  rw [Disk.place]
  cases routed : route path with
  | error failure => simp [routed, bind, Except.bind] at written
  | ok steps =>
    simp only [routed, bind, Except.bind] at written ⊢
    split at written
    next => split at written <;> cases written
    next plain =>
      cases found : disk.follow [] steps with
      | error failure => simp [found] at written
      | ok place =>
        simp only [found] at written
        split at written
        next => cases written
        next stands =>
          cases written
          exact ⟨place, rfl, by simpa using plain, fun here => stands here, rfl⟩

/-- A directory is made at the place that its path leads to, where nothing is. -/
theorem exists_of_createDirectory (made : disk.createDirectory path = .ok changed) :
    ∃ place, disk.place path = .ok place ∧ disk.entry? place = none ∧
      changed = disk.put place .directory := by
  rw [createDirectory] at made
  cases found : disk.place path with
  | error failure => simp [found, bind, Except.bind] at made
  | ok place =>
    cases stands : disk.entry? place with
    | some entry => simp [found, stands, bind, Except.bind, throw, throwThe,
        MonadExceptOf.throw] at made
    | none =>
      simp only [found, stands, bind, Except.bind, pure, Except.pure, Except.ok.injEq] at made
      exact ⟨place, rfl, stands, made.symm⟩

/-- What is written at a path is read there. -/
theorem readText_of_writeText (written : disk.writeText path text = .ok changed) :
    changed.readText path = .ok text := by
  obtain ⟨place, found, plain, apart, rfl⟩ := exists_of_writeText written
  rw [readText_eq_ok_iff]
  exact ⟨place, place_put found apart _, entry_put_self (ne_root apart) _, plain⟩

/-- A change at another place, where no directory was, leaves a file as it is. -/
theorem readText_put (read : disk.readText path = .ok text)
    (plain : disk.entry? target ≠ some .directory) (apart : disk.place path ≠ .ok target)
    (entry : Entry) : (disk.put target entry).readText path = .ok text := by
  rw [readText_eq_ok_iff] at read ⊢
  obtain ⟨place, found, stands, closed⟩ := read
  have other : place ≠ target := fun same => apart (same ▸ found)
  exact ⟨place, place_put found plain entry, by rw [entry_put_of_ne other, stands], closed⟩

theorem readText_of_createDirectory {around : String} (read : disk.readText path = .ok text)
    (made : disk.createDirectory around = .ok changed) : changed.readText path = .ok text := by
  obtain ⟨target, _, absent, rfl⟩ := exists_of_createDirectory made
  refine readText_put read (plain_of_absent absent) ?_ _
  -- a file stands where the path leads to, and nothing at the target
  intro same
  obtain ⟨place, found, stands, _⟩ := readText_eq_ok_iff.mp read
  rw [same] at found
  cases found
  rw [absent] at stands
  cases stands

/-- A file that is written elsewhere leaves a file as it is. -/
theorem readText_of_writeText_elsewhere {elsewhere other : String}
    (read : disk.readText path = .ok text)
    (written : disk.writeText elsewhere other = .ok changed)
    (apart : changed.place elsewhere ≠ changed.place path) :
    changed.readText path = .ok text := by
  obtain ⟨target, reached, _, plain, rfl⟩ := exists_of_writeText written
  refine readText_put read plain ?_ _
  intro same
  exact apart ((place_put reached plain _).trans (place_put same plain _).symm)

theorem fileExists_of_readText (read : disk.readText path = .ok text) :
    disk.fileExists path = true := by
  rw [readText] at read
  rw [fileExists]
  split at read <;> simp_all

/-! ### Trees -/

/-- Whether every entry lies in a directory. -/
def IsTree (disk : Disk) : Prop :=
  ∀ stands ∈ disk.entries, disk.entry? stands.1.dropLast = some .directory

instance (disk : Disk) : Decidable disk.IsTree :=
  inferInstanceAs (Decidable (∀ stands ∈ disk.entries, _ = _))

theorem IsTree.around (tree : disk.IsTree) {entry : Entry}
    (stands : disk.entry? place = some entry) : disk.entry? place.dropLast = some .directory := by
  unfold entry? at stands
  split at stands
  next root => simp [List.isEmpty_iff.mp root, entry?]
  next =>
    obtain ⟨found, listed, _⟩ := Option.map_eq_some_iff.mp stands
    have here : found.1 = place := by simpa using List.find?_some listed
    rw [← here]
    exact tree found (List.mem_of_find?_eq_some listed)

/-- Every place on the way to an entry is a directory. -/
theorem IsTree.on_the_way (tree : disk.IsTree) {more : List String} (further : more ≠ [])
    {entry : Entry} (stands : disk.entry? (place ++ more) = some entry) :
    disk.entry? place = some .directory := by
  induction more using List.reverseRecOn generalizing entry with
  | nil => exact absurd rfl further
  | append_singleton front last ih =>
    have above := tree.around stands
    rw [← List.append_assoc, List.dropLast_concat] at above
    by_cases done : front = []
    · simpa [done] using above
    · exact ih done above

/-- What a path leads to lies in a directory, even if nothing is there. -/
theorem IsTree.around_follow (tree : disk.IsTree) {start steps : List String}
    (stands : disk.entry? start ≠ none) (found : disk.follow start steps = .ok place)
    (absent : disk.entry? place = none) : disk.entry? place.dropLast = some .directory := by
  induction steps generalizing start with
  | nil =>
    cases found
    exact absurd absent stands
  | cons step rest ih =>
    rw [follow] at found
    split at found
    next => cases found
    next => cases found
    next here =>
      split at found
      next => cases found
      next =>
        by_cases entered : disk.entry? (enter start step) = none
        · -- nothing can be entered from here, so this is the last step, and it is a name
          cases rest with
          | cons next later => simp [follow, entered] at found
          | nil =>
            cases found
            unfold enter at entered ⊢
            split at entered
            next => exact absurd entered stands
            next =>
              split at entered
              next => simp [tree.around here] at entered
              next dots name =>
                rw [if_neg dots, if_neg name, List.dropLast_concat]
                exact here
        · exact ih entered found

/-- A change where no directory was leaves a tree. -/
theorem IsTree.put (tree : disk.IsTree) (plain : disk.entry? target ≠ some .directory)
    (held : disk.entry? target.dropLast = some .directory) (entry : Entry) :
    (disk.put target entry).IsTree := by
  -- directories are where they were, since none was at the target
  have kept : ∀ other, disk.entry? other = some .directory →
      Disk.entry? (disk.put target entry) other = some .directory := by
    intro other stands
    have apart : other ≠ target := fun same => plain (same ▸ stands)
    rw [entry_put_of_ne apart, stands]
  intro stands member
  rcases List.mem_cons.mp member with rfl | old
  · exact kept _ held
  · exact kept _ (tree stands (List.mem_filter.mp old).1)

theorem IsTree.createDirectory (tree : disk.IsTree) {around : String}
    (made : disk.createDirectory around = .ok changed) : changed.IsTree := by
  obtain ⟨target, reached, absent, rfl⟩ := exists_of_createDirectory made
  have held := tree.around_follow root_ne_none (place_eq_ok_iff.mp reached).2 absent
  exact tree.put (plain_of_absent absent) held _

theorem IsTree.writeText (tree : disk.IsTree) (written : disk.writeText path text = .ok changed) :
    changed.IsTree := by
  obtain ⟨target, reached, _, plain, rfl⟩ := exists_of_writeText written
  apply tree.put plain
  cases stands : disk.entry? target with
  | none => exact tree.around_follow root_ne_none (place_eq_ok_iff.mp reached).2 stands
  | some entry => exact tree.around stands

/-- Without two dots a path leads only further down. -/
theorem prefix_of_follow {start steps : List String} (straight : ".." ∉ steps)
    (found : disk.follow start steps = .ok place) : start <+: place := by
  induction steps generalizing start with
  | nil =>
    cases found
    exact List.prefix_refl _
  | cons step rest ih =>
    rw [follow] at found
    split at found
    next => cases found
    next => cases found
    next =>
      split at found
      next => cases found
      next =>
        have entered := ih (fun back => straight (List.mem_cons_of_mem _ back)) found
        have down : start <+: enter start step := by
          unfold enter
          split
          next => exact List.prefix_refl _
          next =>
            have name : step ≠ ".." := fun up => straight (up ▸ List.mem_cons_self)
            rw [if_neg name]
            exact List.prefix_append _ _
        exact down.trans entered

/-- A path without two dots that leads to a file past a new directory led there before. -/
theorem IsTree.follow_of_put (tree : disk.IsTree) {start steps : List String}
    (straight : ".." ∉ steps) (absent : disk.entry? target = none)
    (stands : disk.entry? place = some (.file text))
    (found : (disk.put target .directory).follow start steps = .ok place) :
    disk.follow start steps = .ok place := by
  induction steps generalizing start with
  | nil => exact found
  | cons step rest ih =>
    have apart : start ≠ target := by
      rintro rfl
      obtain ⟨more, rfl⟩ := prefix_of_follow straight found
      by_cases here : more = []
      · simp [here, absent] at stands
      · simp [tree.on_the_way here stands] at absent
    rw [follow] at found ⊢
    rw [entry_put_of_ne apart] at found
    split at found
    next => cases found
    next => cases found
    next here =>
      split at found
      next => cases found
      next short =>
        rw [if_neg short]
        exact ih (fun back => straight (List.mem_cons_of_mem _ back)) found

/-! ### Paths that new directories do not change -/

/-- Whether no file comes to light at the path by making directories: on a tree it does not go back
with two dots, or all directories on its way are there. -/
structure Settles (disk : Disk) (path : String) : Prop where
  tree : disk.IsTree
  straight : ".." ∉ Path.steps path ∨ (disk.place path).isOk

theorem Settles.createDirectory (settles : disk.Settles path) {around : String}
    (made : disk.createDirectory around = .ok changed) : changed.Settles path := by
  refine ⟨settles.tree.createDirectory made, ?_⟩
  rcases settles.straight with straight | reached
  · exact .inl straight
  · right
    obtain ⟨target, _, absent, rfl⟩ := exists_of_createDirectory made
    cases found : disk.place path with
    | error failure =>
      rw [found] at reached
      cases reached
    | ok place =>
      rw [place_put found (plain_of_absent absent)]
      rfl

theorem Settles.readText_of_createDirectory (settles : disk.Settles path) {around : String}
    (made : disk.createDirectory around = .ok changed) (read : changed.readText path = .ok text) :
    disk.readText path = .ok text := by
  obtain ⟨target, _, absent, rfl⟩ := exists_of_createDirectory made
  rw [readText_eq_ok_iff] at read ⊢
  obtain ⟨place, found, stands, closed⟩ := read
  have apart : place ≠ target := by
    -- a directory is at the target now
    rintro rfl
    rw [entry_put_self (ne_root (plain_of_absent absent))] at stands
    cases stands
  rw [entry_put_of_ne apart] at stands
  refine ⟨place, ?_, stands, closed⟩
  rcases settles.straight with straight | reached
  · rw [place_eq_ok_iff] at found ⊢
    exact ⟨found.1, settles.tree.follow_of_put straight absent stands found.2⟩
  · cases before : disk.place path with
    | error failure =>
      rw [before] at reached
      cases reached
    | ok earlier =>
      rw [place_put before (plain_of_absent absent)] at found
      exact found

end FleetQuery.Disk
