import SearchQuery.Grammar
import SearchQuery.Query

/-! # From trees to queries

A parse tree becomes a query by dropping the blanks and the punctuation. The grammar keeps the
separators of a list apart from its conditions; here they come back into the order of the text.
-/

namespace SearchQuery

/-- A node of a tree, named by its rule and its offset. -/
structure NodeRef where
  rule : Rule
  offset : Nat
deriving DecidableEq, Repr

def Tree.ref (t : Tree) : NodeRef := ⟨t.rule, t.offset⟩

/-! ## Walks -/

/-- What a walk over a tree gives: the nodes it came to, in order, and a value unless a node had no
meaning. The walk ends at that node. -/
structure Walk (α : Type) where
  visits : List NodeRef
  result : Except NodeRef α

namespace Walk

variable {α β : Type}

instance : Monad Walk where
  pure a := ⟨[], .ok a⟩
  bind first next :=
    match first.result with
    | .error node => ⟨first.visits, .error node⟩
    | .ok a =>
      let later := next a
      ⟨first.visits ++ later.visits, later.result⟩

def visit (node : NodeRef) : Walk Unit := ⟨[node], .ok ()⟩

/-- A value, or the node that has none. -/
def ofOption (node : NodeRef) : Option α → Walk α
  | some a => ⟨[], .ok a⟩
  | none => ⟨[], .error node⟩

def all : List (Walk α) → Walk (List α)
  | [] => return []
  | first :: later => do return (← first) :: (← all later)

@[simp] theorem result_bind (first : Walk α) (next : α → Walk β) :
    (first >>= next).result = first.result.bind fun a => (next a).result := by
  cases h : first.result with
  | error node => simp only [bind, h, Except.bind]
  | ok a => simp only [bind, h, Except.bind]

@[simp] theorem result_pure (a : α) : (pure a : Walk α).result = .ok a := rfl

@[simp] theorem result_visit (node : NodeRef) : (visit node).result = .ok () := rfl

@[simp] theorem result_ofOption_some (node : NodeRef) (a : α) :
    (ofOption node (some a)).result = .ok a := rfl

end Walk

@[simp] theorem Except.ok_bind {ε α β : Type} (a : α) (f : α → Except ε β) :
    (Except.ok a).bind f = f a := rfl

/-! ## Order of a list -/

/-- Puts an item in front of all that do not start before it. -/
def insertByOffset {α : Type} (item : Nat × α) : List (Nat × α) → List (Nat × α)
  | [] => [item]
  | other :: later =>
    if item.1 ≤ other.1 then item :: other :: later else other :: insertByOffset item later

/-- Items in ascending order of their offsets. Items with one offset keep their order. -/
def sortByOffset {α : Type} : List (Nat × α) → List (Nat × α)
  | [] => []
  | item :: later => insertByOffset item (sortByOffset later)

/-! ## The meaning of nodes -/

/-- A list with one item is that item. -/
def Query.ofItems? : List Query → Option Query
  | [] => none
  | [item] => some item
  | items => some (.sequence items)

namespace Tree

mutual

/-- The query that a node stands for. A node that lacks a child, or whose token is unknown, has none,
and blanks and iterations have none of their own. -/
def walk : Tree → Walk Query
  | ⟨rule, offset, source, children⟩ => do
    let node : NodeRef := ⟨rule, offset⟩
    Walk.visit node
    match rule with
    | .query => walkChild node 1 children
    | .list => do
      let items ← Walk.all ((sortByOffset (contributions children)).map Prod.snd)
      Walk.ofOption node (Query.ofItems? items)
    | .spaced => walkChild node 1 children
    | .boolOperator => return .operator (← Walk.ofOption node (Operator.ofText? source))
    | .orSpace => return .operator .either
    | .parented => return .parenthesized (← walkChild node 2 children)
    | .longNegation => return .marked .not (← walkChild node 2 children)
    | .simpleNegation => return .marked .minus (← walkChild node 1 children)
    | .simpleMust => return .marked .plus (← walkChild node 1 children)
    | .fieldCondition => do
      let name ← Walk.ofOption node children[0]?
      return .field name.source (← walkChild node 2 children)
    | .rangeCondition => do
      let opening ← Walk.ofOption node children[0]?
      let closing ← Walk.ofOption node children[6]?
      let left ← Walk.ofOption opening.ref (Edge.ofOpening? opening.source)
      let lower ← Walk.ofOption node children[2]?
      let upper ← Walk.ofOption node children[4]?
      let right ← Walk.ofOption closing.ref (Edge.ofClosing? closing.source)
      return .range left lower.source upper.source right
    | .simpleRangeCondition => do
      let operand ← Walk.ofOption node children[0]?
      let value ← walkChild node 1 children
      return .comparison (← Walk.ofOption operand.ref (Comparison.ofText? operand.source)) value
    | .regexCondition => return .regex (← Walk.ofOption node children[1]?).source
    | .detachedCondition => return .term source
    | .terminal => return .term source
    | .iteration => Walk.ofOption node none
    | .spaces => Walk.ofOption node none

/-- The query of the child with the given index, which the node must have. -/
def walkChild (node : NodeRef) : Nat → List Tree → Walk Query
  | _, [] => Walk.ofOption node none
  | 0, child :: _ => walk child
  | index + 1, _ :: later => walkChild node index later

/-- What the parts of a list contribute, with their offsets: an iteration its children, any other
part itself. -/
def contributions : List Tree → List (Nat × Walk Query)
  | [] => []
  | ⟨.iteration, _, _, inner⟩ :: later => walkEach inner ++ contributions later
  | part :: later => (part.offset, walk part) :: contributions later

def walkEach : List Tree → List (Nat × Walk Query)
  | [] => []
  | part :: later => (part.offset, walk part) :: walkEach later

end

/-- The query that a tree stands for, or the node that stands for none. -/
def toQuery (t : Tree) : Except NodeRef Query := t.walk.result

theorem toQuery_detachedCondition {offset : Nat} {source : Text} {a : Tree} :
    toQuery ⟨.detachedCondition, offset, source, [a]⟩ = .ok (.term source) := by
  simp [toQuery, walk]

theorem toQuery_terminal {offset : Nat} {source : Text} :
    toQuery ⟨.terminal, offset, source, []⟩ = .ok (.term source) := by
  simp [toQuery, walk]

end Tree

/-! ## Parsing -/

inductive QueryError where
  | mismatch (mismatch : Mismatch)
  | unresolved (node : NodeRef)
deriving DecidableEq, Repr

namespace QueryError

def offset : QueryError → Nat
  | mismatch m => m.offset
  | unresolved node => node.offset

def message : QueryError → Text
  | mismatch m => m.shortMessage
  | unresolved node =>
    "no transformation for " ++ node.rule.name ++ " node at offset " ++ Text.ofNat node.offset

end QueryError

def parse (t : Text) : Except QueryError Query := do
  let tree ← (parseTree t).mapError .mismatch
  tree.toQuery.mapError .unresolved

theorem parse_of_error {t : Text} {m : Mismatch} (h : parseTree t = .error m) :
    parse t = .error (.mismatch m) := by
  rw [parse, h]
  rfl

theorem parse_of_ok {t : Text} {tree : Tree} (h : parseTree t = .ok tree) :
    parse t = tree.toQuery.mapError .unresolved := by
  rw [parse, h]
  rfl

instance Except.decEq {ε α : Type} [DecidableEq ε] [DecidableEq α] : DecidableEq (Except ε α)
  | .ok a, .ok b => decidable_of_iff (a = b) (by simp)
  | .error e, .error e' => decidable_of_iff (e = e') (by simp)
  | .ok _, .error _ => isFalse (by simp)
  | .error _, .ok _ => isFalse (by simp)

end SearchQuery
