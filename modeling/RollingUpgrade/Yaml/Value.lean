import RollingUpgrade.Document
import RollingUpgrade.Yaml.Node
import RollingUpgrade.Yaml.Scalar

namespace RollingUpgrade.Yaml

-- A node as data. No mapping has a key twice.
inductive Value
  | scalar (value : Scalar)
  | sequence (items : List Value)
  | mapping (entries : List (Value × Value))
  deriving Repr, Inhabited

namespace Value

mutual

-- Whether two values are the same as data. The order of a mapping's entries does not matter.
def same : Value → Value → Bool
  | .scalar a, .scalar b => a.same b
  | .sequence l, .sequence m => sameItems l m
  | .mapping l, .mapping m => l.length == m.length && areAmong l m
  | _, _ => false
termination_by structural v => v

def sameItems : List Value → List Value → Bool
  | [], [] => true
  | v :: rest, w :: others => same v w && sameItems rest others
  | _, _ => false
termination_by structural l => l

def areAmong : List (Value × Value) → List (Value × Value) → Bool
  | [], _ => true
  | (key, value) :: rest, m => m.any (fun e => same key e.1 && same value e.2) && areAmong rest m
termination_by structural l => l

end

def text (s : String) : Value := .scalar (.text s)

def hasRepeatedKey : List (Value × Value) → Bool
  | [] => false
  | (key, _) :: rest => rest.any (same key ·.1) || hasRepeatedKey rest

-- What a scalar is as data. One between quotes is a text; integers of more than 64 bits are
-- refused.
def ofScalar? (s : String) (plain : Bool) : Option Value :=
  if plain then
    match Scalar.ofPlain s with
    | .wideInt _ => none
    | v => some (.scalar v)
  else some (.text s)

mutual

def ofNode? : Node → Option Value
  | .scalar s plain => ofScalar? s plain
  | .sequence items => (ofItems? items).map .sequence
  | .mapping entries =>
    match ofEntries? entries with
    | some es => if hasRepeatedKey es then none else some (.mapping es)
    | none => none
termination_by structural n => n

def ofItems? : List Node → Option (List Value)
  | [] => some []
  | n :: rest => do
    let v ← ofNode? n
    let vs ← ofItems? rest
    return v :: vs
termination_by structural l => l

def ofEntries? : List (Node × Node) → Option (List (Value × Value))
  | [] => some []
  | (key, value) :: rest => do
    let k ← ofNode? key
    let v ← ofNode? value
    let es ← ofEntries? rest
    return (k, v) :: es
termination_by structural l => l

end

mutual

def toJson? : Value → Option Json
  | .scalar .null => some .null
  | .scalar (.bool b) => some (.bool b)
  | .scalar (.int i) => some (.int i)
  | .scalar (.float x) => some (.number (.float x))
  | .scalar (.text s) => some (.string s)
  | .scalar _ => none
  | .sequence items => (itemsToJson? items).map .array
  | .mapping entries => (entriesToJson? entries).map .object
termination_by structural v => v

def itemsToJson? : List Value → Option (List Json)
  | [] => some []
  | v :: rest => do
    let j ← toJson? v
    let js ← itemsToJson? rest
    return j :: js
termination_by structural l => l

def entriesToJson? : List (Value × Value) → Option (List (String × Json))
  | [] => some []
  | (key, value) :: rest => do
    let .scalar (.text k) := key | none
    let j ← toJson? value
    let es ← entriesToJson? rest
    return (k, j) :: es
termination_by structural l => l

end

end Value

namespace Node

-- An empty plain scalar stands for an empty list or an empty map.
def isBlank : Node → Bool
  | .scalar "" true => true
  | _ => false

-- Whatever a scalar stands for, it has its own text.
def text? : Node → Option String
  | .scalar s _ => some s
  | _ => none

def list? : Node → Option (List Node)
  | .sequence items => some items
  | n => if n.isBlank then some [] else none

def entries? : Node → Option (List (String × Node))
  | .mapping entries => entries.mapM fun e => (text? e.1).map fun key => (key, e.2)
  | n => if n.isBlank then some [] else none

def plain? : Node → Option Scalar
  | .scalar s true => some (.ofPlain s)
  | _ => none

def isNull (n : Node) : Bool := n.plain? == some .null

def bool? (n : Node) : Option Bool :=
  match n.plain? with
  | some (.bool b) => some b
  | _ => none

-- A count has no minus sign.
def count? (n : Node) : Option Nat :=
  match n with
  | .scalar s true =>
    match Scalar.ofPlain s with
    | .int i => if s.toList.head? == some '-' then none else some i.toNat
    | _ => none
  | _ => none

end Node

instance : Document Node where
  isNull := Node.isNull
  bool? := Node.bool?
  count? := Node.count?
  string? := Node.text?
  list? := Node.list?
  map? := Node.entries?
  tuple? _ := none
  untyped? n := (Value.ofNode? n).bind Value.toJson?

end RollingUpgrade.Yaml
