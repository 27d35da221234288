import RollingUpgrade.Yaml.Tree

namespace RollingUpgrade.Yaml

inductive Node
  | scalar (text : String) (plain : Bool)
  | sequence (items : List Node)
  | mapping (entries : List (Node × Node))
  deriving Repr, Inhabited

-- What is looked at of a node: all of it, or of a mapping the values of some keys, each as its own
-- shape says.
inductive Shape
  | all
  | record (fields : List (String × Shape))

namespace Shape

def fields (names : List String) : Shape := .record (names.map fun name => (name, .all))

def ofValue? (s : Shape) (key : Node) : Option Shape :=
  match s, key with
  | .all, _ => some .all
  | .record fields, .scalar name _ => fields.lookup name
  | .record _, _ => none

end Shape

namespace Node

def empty : Node := .scalar "" true

-- How many sequences and mappings may stand within each other.
def depthLimit : Nat := 128

-- How many aliases may be followed for each part of a tree.
def aliasesPerPart : Nat := 100

-- Looking at a tree, with the number of aliases that may still be followed.
abbrev Looking := StateT Nat Option

-- Where an alias leads, or else the node itself, without its anchor.
def follow (target? : Nat → Option Tree) : Tree → Looking Tree
  | .anchor _ node => return node
  | .alias number => do
    let left ← get
    if left = 0 then failure
    set (left - 1)
    match target? number with
    | some node => return node
    | none => failure
  | tree => return tree

-- The node that a tree stands for, nested to `depth` at most. Values that are not looked at are
-- empty.
def unfold (target? : Nat → Option Tree) : Nat → Shape → Tree → Looking Node
  | 0, _, tree => do
    match ← follow target? tree with
    | .scalar text plain => return .scalar text plain
    | _ => failure
  | depth + 1, shape, tree => do
    match ← follow target? tree with
    | .scalar text plain => return .scalar text plain
    | .sequence items => return .sequence (← items.mapM (unfold target? depth .all))
    | .mapping entries =>
      let entries ← entries.mapM fun (key, value) => do
        let key ← unfold target? depth .all key
        match shape.ofValue? key with
        | some inner => return (key, ← unfold target? depth inner value)
        | none => return (key, empty)
      return .mapping entries
    | _ => failure

def ofTree? (shape : Shape) (tree : Tree) : Option Node :=
  let anchors := tree.anchors.reverse
  let looking := unfold (fun number => anchors.lookup number) depthLimit shape tree
  (looking.run (aliasesPerPart * tree.size)).map (·.1)

def parse (shape : Shape) (s : String) : Option Node := (Tree.parse s).bind (ofTree? shape)

end Node

-- A reader of texts. It says what is wrong with those that it refuses.
abbrev Parser (α : Type) := String → Except String α

-- Decodes what is looked at of a text. It has no words for what is wrong with one.
def parser {α : Type} (shape : Shape) (decode? : Node → Option α) : Parser α := fun text =>
  match (Node.parse shape text).bind decode? with
  | some a => .ok a
  | none => .error ""

end RollingUpgrade.Yaml
