import FleetQuery.Question.Query

/-!
# Written questions

A question as it may be written: its items, its scope and its clauses in some order, each with the
conditions under which its text can be told from the text around it. A written question has a text
and a content, which is what a query says without the places of its parts.
-/
namespace FleetQuery

/-- What a query says, without the places of its parts. -/
structure Query.Content where
  columns : List String
  aggregations : List (Aggregate × Option String)
  scope : Scope.Selection
  filters : List (Field × String × FilterOperator × String)
  groupBy : Option String
  /-- The label and whether the order is ascending. -/
  orderBy : Option (String × Bool)
  limit : Option Nat
deriving DecidableEq

def Filter.content (filter : Filter) : Field × String × FilterOperator × String :=
  (filter.field, filter.label, filter.operator, filter.value)

def AggregateCall.content (call : AggregateCall) : Aggregate × Option String :=
  (call.aggregate, call.target.map Column.label)

def Query.content (query : Query) : Query.Content where
  columns := query.columns.map Column.label
  aggregations := query.aggregations.map AggregateCall.content
  scope := query.scope.selection
  filters := query.filters.map Filter.content
  groupBy := query.groupBy.map fun groupBy => groupBy.column.label
  orderBy := query.orderBy.map fun order => (order.column.label, order.ascending)
  limit := query.limit

namespace Written

/-! ### Words -/

/-- A label of the standard catalog in any ASCII case, with the field that it names. -/
structure Label where
  chars : List Char
  field : Field
  listed : (String.ofList (chars.map Char.toLower), field) ∈ Catalog.standardFields

def Label.text (label : Label) : String := String.ofList label.chars

/-- Whether no clause begins within a text. -/
def IsCalm (chars : List Char) : Prop :=
  ∀ clause : Clause, ¬ clause.boundary.letters <:+: chars.map Char.toLower

/-- The name of a group, as it stands between quotes. -/
structure GroupName where
  chars : List Char
  calm : IsCalm chars

/-- The value of a filter, as it stands between quotes. It does not hold the word `and` between
blanks. -/
structure Value where
  chars : List Char
  nonempty : chars ≠ []
  unquoted : '"' ∉ chars
  calm : IsCalm chars
  unjoined : ∀ front before word after rest, chars = front ++ before :: (word ++ after :: rest) →
    Text.isBlank before → Text.isBlank after → word.map Char.toLower ≠ "and".toList

/-! ### Items -/

/-- A call of an aggregate function, whose name may be in any ASCII case. -/
structure Call where
  aggregate : Aggregate
  name : List Char
  named : name.map Char.toLower = aggregate.name.toList
  target : Option Label

inductive Item where
  | column (label : Label)
  | aggregate (call : Call)

inductive Separator where
  | comma
  | word

/-- One or more items with what separates them. -/
inductive Listing where
  | item (only : Item)
  | more (first : Item) (separator : Separator) (rest : Listing)

def Call.chars (call : Call) : List Char :=
  call.name ++ '(' :: ((call.target.map Label.chars).getD [] ++ [')'])

def Item.chars : Item → List Char
  | column label => label.chars
  | aggregate call => call.chars

def Separator.chars : Separator → List Char
  | comma => ", ".toList
  | word => " and ".toList

def Listing.chars : Listing → List Char
  | .item only => only.chars
  | .more first separator rest => first.chars ++ (separator.chars ++ rest.chars)

def Listing.items : Listing → List Item
  | .item only => [only]
  | .more first _ rest => first :: rest.items

def Item.column? : Item → Option String
  | column label => some label.text
  | aggregate _ => none

def Item.call? : Item → Option (Aggregate × Option String)
  | column _ => none
  | aggregate call => some (call.aggregate, call.target.map Label.text)

/-! ### Clauses -/

structure Predicate where
  label : Label
  operator : FilterOperator
  value : Value

/-- A clause after the scope. Filters stand behind either of two keywords. -/
inductive Part where
  | groupBy (label : Label)
  /-- The direction is ascending, descending or left out. -/
  | orderBy (label : Label) (direction : Option Bool)
  | limit (rows : Nat) (fits : rows < Nat.pow 2 64)
  | filters (clause : Clause) (repeatable : clause.isRepeatable) (first : Predicate)
      (others : List Predicate)

def Predicate.chars (predicate : Predicate) : List Char :=
  predicate.label.chars ++ ' ' :: (predicate.operator.phrase.toList ++
    ' ' :: '"' :: (predicate.value.chars ++ ['"']))

/-- The predicates of a clause after the first one. -/
def joinedChars (predicates : List Predicate) : List Char :=
  predicates.flatMap fun predicate => " and ".toList ++ predicate.chars

theorem joinedChars_cons (first : Predicate) (others : List Predicate) :
    joinedChars (first :: others) = " and ".toList ++ (first.chars ++ joinedChars others) := by
  rw [joinedChars, List.flatMap_cons, List.append_assoc]
  rfl

def directionChars : Option Bool → List Char
  | none => []
  | some ascending => ' ' :: (OrderBy.directionName ascending).toList

namespace Part

def clause : Part → Clause
  | groupBy _ => .groupBy
  | orderBy .. => .orderBy
  | limit .. => .limit
  | filters clause .. => clause

def body : Part → List Char
  | groupBy label => label.chars
  | orderBy label direction => label.chars ++ directionChars direction
  | limit rows _ => (toString rows).toList
  | filters _ _ first others => first.chars ++ joinedChars others

def chars (part : Part) : List Char := part.clause.name.toList ++ ' ' :: part.body

def predicates : Part → List Predicate
  | filters _ _ first others => first :: others
  | _ => []

def groupBy? : Part → Option String
  | groupBy label => some label.text
  | _ => none

/-- The label of an order and whether it is ascending, as it is unless asked otherwise. -/
def orderBy? : Part → Option (String × Bool)
  | orderBy label direction => some (label.text, direction.getD true)
  | _ => none

def limit? : Part → Option Nat
  | limit rows _ => some rows
  | _ => none

end Part

def Predicate.content (predicate : Predicate) : Field × String × FilterOperator × String :=
  (predicate.label.field, predicate.label.text, predicate.operator,
    String.ofList predicate.value.chars)

/-! ### Questions -/

structure Question where
  listing : Option Listing
  /-- The group asked about, or all machines. -/
  scope : Option GroupName
  parts : List Part
  /-- Only filters come more than once. -/
  once : ((parts.map Part.clause).filter fun clause => !clause.isRepeatable).Nodup

def scopeChars : Option GroupName → List Char
  | none => "all".toList
  | some name => "group ".toList ++ '"' :: (name.chars ++ ['"'])

theorem scopeChars_some (name : GroupName) :
    scopeChars (some name) = "group ".toList ++ '"' :: (name.chars ++ ['"']) := rfl

/-- What is asked about, with the group's own name for an alias. -/
def selection (catalog : Catalog) : Option GroupName → Scope.Selection
  | none => .all
  | some name => .group (catalog.resolveGroup (String.ofList name.chars))

/-- The clauses, with a space before each of them. -/
def partsChars (parts : List Part) : List Char := parts.flatMap fun part => ' ' :: part.chars

namespace Question

def chars (question : Question) : List Char :=
  "Get ".toList ++ ((question.listing.map Listing.chars).getD [] ++ (" from ".toList ++
    (scopeChars question.scope ++ partsChars question.parts)))

def text (question : Question) : String := String.ofList question.chars

def items (question : Question) : List Item := (question.listing.map Listing.items).getD []

/-- What a written question asks for. -/
def content (question : Question) (catalog : Catalog) : Query.Content where
  columns := question.items.filterMap Item.column?
  aggregations := question.items.filterMap Item.call?
  scope := selection catalog question.scope
  filters := (question.parts.flatMap Part.predicates).map Predicate.content
  groupBy := question.parts.findSome? Part.groupBy?
  orderBy := question.parts.findSome? Part.orderBy?
  limit := question.parts.findSome? Part.limit?

end Question
end Written
end FleetQuery
