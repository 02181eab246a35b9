import FleetQuery.Json.Tree
import FleetQuery.Proofs.Json.Strings

/-!
# JSON, printed and read

The tokens of a syntax tree lead back to the tree. A value without numbers is printed as the tokens
of its tree, with blanks between them, so reading the text gives the tree. Main statement:
`ofText?_indented`.
-/
namespace FleetQuery.Json

namespace Tree

/-! ### The tokens of a tree -/

mutual

def tokens : Tree → List Token
  | null => [.null]
  | bool value => [.bool value]
  | numeral written => [.numeral written]
  | string text => [.string text]
  | array [] => [.beginArray, .endArray]
  | array (item :: rest) => .beginArray :: tokens item ++ moreItems rest ++ [.endArray]
  | object [] => [.beginObject, .endObject]
  | object ((name, value) :: rest) =>
    .beginObject :: .string name :: .colon :: tokens value ++ moreMembers rest ++ [.endObject]

/-- The tokens of further items, each after a comma. -/
def moreItems : List Tree → List Token
  | [] => []
  | item :: rest => .comma :: tokens item ++ moreItems rest

/-- The tokens of further members, each after a comma. -/
def moreMembers : List (Option String × Tree) → List Token
  | [] => []
  | (name, value) :: rest => .comma :: .string name :: .colon :: tokens value ++ moreMembers rest

end

/-- What is expected after some more tokens. -/
def steps (expecting : Expecting) (tokens : List Token) : Option Expecting :=
  tokens.foldlM step expecting

theorem steps_append (expecting : Expecting) (left right : List Token) :
    steps expecting (left ++ right) = (steps expecting left).bind fun later => steps later right :=
  List.foldlM_append

theorem steps_cons (expecting : Expecting) (token : Token) (rest : List Token) :
    steps expecting (token :: rest) = (step expecting token).bind fun later => steps later rest :=
  List.foldlM_cons

/-- The first item of an array is read as a value in it. -/
theorem steps_firstItem (frames : List Frame) (item : Tree) :
    steps (.firstItem frames) item.tokens = steps (.value (.array [] :: frames)) item.tokens := by
  cases item with
  | array items => cases items <;> rfl
  | object members => cases members <;> rfl
  | _ => rfl

mutual

/-- The tokens of a tree are read as the tree. -/
theorem steps_tokens : ∀ (tree : Tree) (frames : List Frame),
    steps (.value frames) tree.tokens = some (.separator frames tree)
  | null, frames => rfl
  | bool value, frames => rfl
  | numeral written, frames => rfl
  | string text, frames => rfl
  | array [], frames => rfl
  | array (item :: rest), frames => by
    have begins : step (.value frames) .beginArray = some (.firstItem frames) := rfl
    have later := steps_moreItems rest frames [] item
    rw [tokens, List.append_assoc, List.cons_append, steps_cons, begins, Option.bind_some,
      steps_append, steps_firstItem, steps_tokens item, Option.bind_some, later]
    rfl
  | object [], frames => rfl
  | object ((name, value) :: rest), frames => by
    have later := steps_moreMembers rest frames [] name value
    have split : (object ((name, value) :: rest)).tokens = [.beginObject, .string name, .colon] ++
        (value.tokens ++ (moreMembers rest ++ [.endObject])) := by simp [tokens]
    have begins : steps (.value frames) [.beginObject, .string name, .colon] =
      some (.value (.object [] name :: frames)) := rfl
    rw [split, steps_append, begins, Option.bind_some, steps_append, steps_tokens value,
      Option.bind_some, later]
    rfl

theorem steps_moreItems : ∀ (rest : List Tree) (frames : List Frame) (done : List Tree)
    (item : Tree), steps (.separator (.array done :: frames) item) (moreItems rest ++ [.endArray]) =
      some (.separator frames (.array (done.reverse ++ item :: rest)))
  | [], frames, done, item => by
    simp [moreItems, steps, step, endValue]
  | next :: rest, frames, done, item => by
    have later := steps_moreItems rest frames (item :: done) next
    have comma : step (.separator (.array done :: frames) item) .comma =
      some (.value (.array (item :: done) :: frames)) := rfl
    rw [moreItems, List.append_assoc, List.cons_append, steps_cons, comma, Option.bind_some,
      steps_append, steps_tokens next, Option.bind_some, later]
    simp

theorem steps_moreMembers : ∀ (rest : List (Option String × Tree)) (frames : List Frame)
    (done : List (Option String × Tree)) (name : Option String) (value : Tree),
    steps (.separator (.object done name :: frames) value) (moreMembers rest ++ [.endObject]) =
      some (.separator frames (.object (done.reverse ++ (name, value) :: rest)))
  | [], frames, done, name, value => by
    simp [moreMembers, steps, step, endValue]
  | (other, next) :: rest, frames, done, name, value => by
    have later := steps_moreMembers rest frames ((name, value) :: done) other next
    have split : moreMembers ((other, next) :: rest) ++ [.endObject] =
        [.comma, .string other, .colon] ++
          (next.tokens ++ (moreMembers rest ++ [.endObject])) := by simp [moreMembers]
    have goes : steps (.separator (.object done name :: frames) value)
        [.comma, .string other, .colon] =
      some (.value (.object ((name, value) :: done) other :: frames)) := rfl
    rw [split, steps_append, goes, Option.bind_some, steps_append, steps_tokens next,
      Option.bind_some, later]
    simp

end

/-- Every tree is the tree of its tokens. -/
theorem ofTokens?_tokens (tree : Tree) : ofTokens? tree.tokens = some tree := by
  have read := steps_tokens tree []
  rw [steps] at read
  rw [ofTokens?, read]

end Tree

/-! ### Values without numbers -/

mutual

/-- The tree of a value, if it holds no number. -/
def tree? : Json → Option Tree
  | null => some .null
  | bool value => some (.bool value)
  | string text => some (.string (some text))
  | array items => (itemTrees? items).map .array
  | object members => (memberTrees? members).map .object
  | number _ => none

def itemTrees? : List Json → Option (List Tree)
  | [] => some []
  | item :: rest => do return (← tree? item) :: (← itemTrees? rest)

def memberTrees? : List (String × Json) → Option (List (Option String × Tree))
  | [] => some []
  | (name, value) :: rest => do return (some name, ← tree? value) :: (← memberTrees? rest)

end

theorem itemTrees?_cons {item : Json} {rest : List Json} {trees : List Tree}
    (found : itemTrees? (item :: rest) = some trees) :
    ∃ tree others, item.tree? = some tree ∧ itemTrees? rest = some others ∧
      trees = tree :: others := by
  simp only [itemTrees?, Option.bind_eq_bind, Option.bind_eq_some_iff] at found
  obtain ⟨tree, first, others, later, same⟩ := found
  exact ⟨tree, others, first, later, (Option.some.inj same).symm⟩

theorem memberTrees?_cons {name : String} {value : Json} {rest : List (String × Json)}
    {trees : List (Option String × Tree)}
    (found : memberTrees? ((name, value) :: rest) = some trees) :
    ∃ tree others, value.tree? = some tree ∧ memberTrees? rest = some others ∧
      trees = (some name, tree) :: others := by
  simp only [memberTrees?, Option.bind_eq_bind, Option.bind_eq_some_iff] at found
  obtain ⟨tree, first, others, later, same⟩ := found
  exact ⟨tree, others, first, later, (Option.some.inj same).symm⟩

/-! ### Printed values -/

namespace Token

/-- Characters that add tokens between tokens. -/
def Reads (chars : List Char) (added : List Token) : Prop :=
  ∀ tokens, steps ⟨tokens, .between⟩ chars = some ⟨added.reverse ++ tokens, .between⟩

theorem Reads.append {left right : List Char} {first second : List Token} (reads : Reads left first)
    (later : Reads right second) : Reads (left ++ right) (first ++ second) := by
  intro tokens
  rw [steps_append, reads, Option.bind_some, later, List.reverse_append, List.append_assoc]

/-- A mark of punctuation is a token of its own. -/
theorem reads_mark {c : Char} {token : Token}
    (marks : ∀ tokens, stepBetween tokens c = some ⟨token :: tokens, .between⟩) :
    Reads [c] [token] := by
  intro tokens
  rw [steps_cons, step, marks]
  rfl

theorem reads_nil : Reads [] [] := fun _ => rfl

theorem reads_space : Reads [' '] [] := fun _ => rfl

theorem reads_newLine (depth : Nat) : Reads (newLine depth) [] := by
  have blanks : ∀ count, Reads (List.replicate count ' ') [] := by
    intro count
    induction count with
    | zero => exact reads_nil
    | succ count ih => exact reads_space.append ih
  exact fun tokens => blanks (2 * depth) tokens

theorem reads_printString (text : String) : Reads (printString text) [.string (some text)] :=
  fun tokens => steps_printString tokens text

theorem reads_comma : Reads [','] [.comma] := reads_mark fun _ => rfl

/-- A name with the colon and the blank after it. -/
theorem reads_name (name : String) :
    Reads (printString name ++ [':', ' ']) [.string (some name), .colon] := by
  have colon : Reads [':'] [.colon] := reads_mark fun _ => rfl
  exact (reads_printString name).append (colon.append reads_space)

/-! ### Words

A word has no mark at its end: it is a token once the text ends or goes on with another character.
-/

/-- Whether some tokens are read once the text ends or goes on with anything but a letter. -/
structure Progress.Completes (progress : Progress) (tokens : List Token) : Prop where
  ends : finish progress = some tokens.reverse
  goesOn : ∀ c, isLetter c = false → step progress c = stepBetween tokens c

/-- Characters that add tokens between tokens, the last of which may be a word. -/
def Completes (chars : List Char) (added : List Token) : Prop :=
  ∀ tokens, ∃ progress, steps ⟨tokens, .between⟩ chars = some progress ∧
    progress.Completes (added.reverse ++ tokens)

theorem Reads.completes {chars : List Char} {added : List Token} (reads : Reads chars added) :
    Completes chars added := fun tokens => ⟨_, reads tokens, rfl, fun _ _ => rfl⟩

theorem completes_word {letters : List Char} {token : Token}
    (begins : ∀ tokens, steps ⟨tokens, .between⟩ letters = some ⟨tokens, .word letters.reverse⟩)
    (names : ofWord letters = some token) : Completes letters [token] := by
  intro tokens
  refine ⟨_, begins tokens, ?_, fun c other => ?_⟩
  · simp [finish, names]
  · simp [step, other, names]

theorem completes_bool (value : Bool) :
    Completes (if value then "true".toList else "false".toList) [.bool value] := by
  cases value with
  | true => exact completes_word (fun _ => rfl) rfl
  | false => exact completes_word (fun _ => rfl) rfl

theorem Reads.append_completes {left right : List Char} {first second : List Token}
    (reads : Reads left first) (later : Completes right second) :
    Completes (left ++ right) (first ++ second) := by
  intro tokens
  obtain ⟨progress, goes, completes⟩ := later (first.reverse ++ tokens)
  rw [steps_append, reads, Option.bind_some, List.reverse_append, List.append_assoc]
  exact ⟨progress, goes, completes⟩

/-- Further characters complete the word before them if they begin with no letter. -/
theorem Completes.append {left right : List Char} {first second : List Token}
    (completes : Completes left first) (later : Completes right second)
    (parted : ∀ c ∈ right.head?, isLetter c = false) :
    Completes (left ++ right) (first ++ second) := by
  intro tokens
  obtain ⟨progress, goes, ended⟩ := completes tokens
  obtain ⟨further, reads, completed⟩ := later (first.reverse ++ tokens)
  rw [List.reverse_append, List.append_assoc, steps_append, goes, Option.bind_some]
  cases right with
  | nil =>
    -- nothing is added
    cases reads
    have nothing := completed.ends
    rw [finish, Option.some.injEq, List.reverse_inj] at nothing
    exact ⟨progress, rfl, nothing ▸ ended⟩
  | cons c rest =>
    rw [steps_cons, ended.goesOn c (parted c rfl)]
    rw [steps_cons] at reads
    exact ⟨further, reads, completed⟩

/-! ### Values -/

theorem head_newLine (depth : Nat) (rest : List Char) :
    ∀ c ∈ (newLine depth ++ rest).head?, isLetter c = false := by
  rintro c ⟨⟩
  rfl

theorem head_indentMoreItems (depth : Nat) (items : List Json) :
    ∀ c ∈ (indentMoreItems depth items).head?, isLetter c = false := by
  cases items with
  | nil => nofun
  | cons item rest =>
    rintro c ⟨⟩
    rfl

theorem head_indentMoreMembers (depth : Nat) (members : List (String × Json)) :
    ∀ c ∈ (indentMoreMembers depth members).head?, isLetter c = false := by
  cases members with
  | nil => nofun
  | cons member rest =>
    rintro c ⟨⟩
    rfl

mutual

/-- A printed value is read as the tokens of its tree. -/
theorem completes_indent : ∀ (value : Json) (tree : Tree) (depth : Nat),
    value.tree? = some tree → Completes (indent depth value) tree.tokens
  | .null, tree, depth, found => by
    cases found
    exact completes_word (fun _ => rfl) rfl
  | .bool value, tree, depth, found => by
    cases found
    exact completes_bool value
  | .number value, tree, depth, found => by cases found
  | .string text, tree, depth, found => by
    cases found
    exact (reads_printString text).completes
  | .array [], tree, depth, found => by
    cases found
    have empty : Reads ['[', ']'] [.beginArray, .endArray] := fun _ => rfl
    exact empty.completes
  | .array (item :: rest), tree, depth, found => by
    obtain ⟨trees, listed, rfl⟩ := Option.map_eq_some_iff.mp found
    obtain ⟨first, others, one, more, rfl⟩ := itemTrees?_cons listed
    have opens : Reads ['['] [.beginArray] := reads_mark fun _ => rfl
    have closes : Reads [']'] [.endArray] := reads_mark fun _ => rfl
    have items := (completes_indent item first (depth + 1) one).append
      (completes_indentMoreItems rest others (depth + 1) more) (head_indentMoreItems _ rest)
    have ends := items.append ((reads_newLine depth).append closes).completes (head_newLine depth _)
    have whole := opens.append_completes ((reads_newLine (depth + 1)).append_completes ends)
    simpa [indent, Tree.tokens] using whole
  | .object [], tree, depth, found => by
    cases found
    have empty : Reads ['\x7b', '\x7d'] [.beginObject, .endObject] := fun _ => rfl
    exact empty.completes
  | .object ((name, value) :: rest), tree, depth, found => by
    obtain ⟨trees, listed, rfl⟩ := Option.map_eq_some_iff.mp found
    obtain ⟨first, others, one, more, rfl⟩ := memberTrees?_cons listed
    have opens : Reads ['\x7b'] [.beginObject] := reads_mark fun _ => rfl
    have closes : Reads ['\x7d'] [.endObject] := reads_mark fun _ => rfl
    have members := (completes_indent value first (depth + 1) one).append
      (completes_indentMoreMembers rest others (depth + 1) more) (head_indentMoreMembers _ rest)
    have ends :=
      members.append ((reads_newLine depth).append closes).completes (head_newLine depth _)
    have begins := opens.append ((reads_newLine (depth + 1)).append (reads_name name))
    have whole := begins.append_completes ends
    simpa [indent, Tree.tokens] using whole

theorem completes_indentMoreItems : ∀ (items : List Json) (trees : List Tree) (depth : Nat),
    itemTrees? items = some trees → Completes (indentMoreItems depth items) (Tree.moreItems trees)
  | [], trees, depth, found => by
    cases found
    exact reads_nil.completes
  | item :: rest, trees, depth, found => by
    obtain ⟨first, others, one, more, rfl⟩ := itemTrees?_cons found
    have items := (completes_indent item first depth one).append
      (completes_indentMoreItems rest others depth more) (head_indentMoreItems depth rest)
    have whole := (reads_comma.append (reads_newLine depth)).append_completes items
    simpa [indentMoreItems, Tree.moreItems] using whole

theorem completes_indentMoreMembers : ∀ (members : List (String × Json))
    (trees : List (Option String × Tree)) (depth : Nat), memberTrees? members = some trees →
    Completes (indentMoreMembers depth members) (Tree.moreMembers trees)
  | [], trees, depth, found => by
    cases found
    exact reads_nil.completes
  | (name, value) :: rest, trees, depth, found => by
    obtain ⟨first, others, one, more, rfl⟩ := memberTrees?_cons found
    have members := (completes_indent value first depth one).append
      (completes_indentMoreMembers rest others depth more) (head_indentMoreMembers depth rest)
    have begins := reads_comma.append ((reads_newLine depth).append (reads_name name))
    have whole := begins.append_completes members
    simpa [indentMoreMembers, Tree.moreMembers] using whole

end

end Token

/-- Reading the printed text of a value without numbers gives its tree. -/
theorem ofText?_indented {value : Json} {tree : Tree} (found : value.tree? = some tree) :
    Tree.ofText? value.indented = some tree := by
  obtain ⟨progress, read, completes⟩ := Token.completes_indent value tree 0 found []
  rw [Token.steps] at read
  rw [Tree.ofText?, indented, String.toList_ofList, Token.scan, Token.start, read, Option.bind_some,
    completes.ends]
  simp [Tree.ofTokens?_tokens]

end FleetQuery.Json
