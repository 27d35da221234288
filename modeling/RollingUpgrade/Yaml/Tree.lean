import RollingUpgrade.Yaml.Token

namespace RollingUpgrade.Yaml

inductive Tree
  | scalar (text : String) (plain : Bool)
  | sequence (items : List Tree)
  | mapping (entries : List (Tree × Tree))
  | anchor (number : Nat) (node : Tree)
  | alias (number : Nat)
  deriving Repr, Inhabited

namespace Tree

def empty : Tree := .scalar "" true

mutual

def size : Tree → Nat
  | .scalar .. | .alias _ => 1
  | .sequence items => itemsSize items + 2
  | .mapping entries => entriesSize entries + 2
  | .anchor _ node => size node
termination_by structural t => t

def itemsSize : List Tree → Nat
  | [] => 0
  | t :: rest => size t + itemsSize rest
termination_by structural l => l

def entriesSize : List (Tree × Tree) → Nat
  | [] => 0
  | (key, value) :: rest => size key + size value + entriesSize rest
termination_by structural l => l

end

mutual

-- The nodes with anchors and their numbers, in the order of the text.
def anchors : Tree → List (Nat × Tree)
  | .scalar .. | .alias _ => []
  | .sequence items => itemsAnchors items
  | .mapping entries => entriesAnchors entries
  | .anchor number node => (number, node) :: anchors node
termination_by structural t => t

def itemsAnchors : List Tree → List (Nat × Tree)
  | [] => []
  | t :: rest => anchors t ++ itemsAnchors rest
termination_by structural l => l

def entriesAnchors : List (Tree × Tree) → List (Nat × Tree)
  | [] => []
  | (key, value) :: rest => anchors key ++ anchors value ++ entriesAnchors rest
termination_by structural l => l

end

-- The tokens to come, and the numbers of the names so far; no name stands twice.
structure Input where
  tokens : List Token
  names : List (String × Nat)

abbrev Reading := StateT Input Option

def peek : Reading (Option Token) := return (← get).tokens.head?

def skip : Reading Unit := modify fun i => { i with tokens := i.tokens.drop 1 }

def skipIf (t : Token) : Reading Bool := do
  if (← peek) == some t then
    skip
    return true
  else return false

def expect (t : Token) : Reading Unit := do
  if !(← skipIf t) then failure

def numberOf (name : String) : Reading Nat := do
  match (← get).names.lookup name with
  | some number => return number
  | none => failure

-- Gives a name its number at an anchor: how many different names stand before it.
def number (name : String) : Reading Nat := do
  let names := (← get).names
  modify fun i => { i with names := (name, names.length) :: names.filter (·.1 != name) }
  return names.length

def startsContent (bareItems : Bool) : Token → Bool
  | .scalar .. | .openSequence | .openMapping | .leftBracket | .leftBrace => true
  | .dash => bareItems
  | _ => false

def comes (ts : List Token) : Reading Bool := return (← peek).any (ts.contains ·)

mutual

-- A node. The items of a sequence may stand at the column of the key that has it as its value;
-- `bareItems` says that this is the place for such.
def read (bareItems : Bool) : Nat → Reading Tree
  | 0 => failure
  | fuel + 1 => do
    match ← peek with
    | some (.alias name) =>
      skip
      return .alias (← numberOf name)
    | some (.anchor name) =>
      skip
      let number ← number name
      if (← peek).any (startsContent bareItems) then
        return .anchor number (← content bareItems fuel)
      else return .anchor number .empty
    | _ => content bareItems fuel

def content (bareItems : Bool) : Nat → Reading Tree
  | 0 => failure
  | fuel + 1 => do
    match ← peek with
    | some (.scalar text plain) =>
      skip
      return .scalar text plain
    | some .openSequence =>
      skip
      return .sequence (← blockItems fuel)
    | some .openMapping =>
      skip
      return .mapping (← blockEntries fuel)
    | some .leftBracket =>
      skip
      return .sequence (← bracketItems fuel)
    | some .leftBrace =>
      skip
      return .mapping (← braceEntries fuel)
    | some .dash =>
      if bareItems then return .sequence (← alignedItems fuel) else failure
    | _ => failure

-- A node, or the empty one where a token comes that ends it before it starts.
def readUnless (ends : List Token) (bareItems : Bool) : Nat → Reading Tree
  | 0 => failure
  | fuel + 1 => do if ← comes ends then return .empty else read bareItems fuel

def blockItems : Nat → Reading (List Tree)
  | 0 => failure
  | fuel + 1 => do
    if ← skipIf .dash then
      let item ← readUnless [.dash, .closeBlock] false fuel
      return item :: (← blockItems fuel)
    else
      expect .closeBlock
      return []

def alignedItems : Nat → Reading (List Tree)
  | 0 => failure
  | fuel + 1 => do
    if ← skipIf .dash then
      let item ← readUnless [.dash, .key, .value, .closeBlock] false fuel
      return item :: (← alignedItems fuel)
    else return []

def blockEntries : Nat → Reading (List (Tree × Tree))
  | 0 => failure
  | fuel + 1 => do
    if ← skipIf .key then
      let key ← readUnless [.key, .value, .closeBlock] true fuel
      let value ← if ← skipIf .value then readUnless [.key, .value, .closeBlock] true fuel
        else pure .empty
      return (key, value) :: (← blockEntries fuel)
    else
      expect .closeBlock
      return []

-- The items between brackets. A key among them makes an item a mapping of one entry. Where a
-- question mark has no node behind it, the key is empty, and the token there is used up.
def bracketItems : Nat → Reading (List Tree)
  | 0 => failure
  | fuel + 1 => do
    if ← skipIf .rightBracket then return []
    let item ← if ← skipIf .key then do
        let key ← if ← comes [.value, .comma, .rightBracket] then skip; pure .empty
          else read false fuel
        let value ← if ← skipIf .value then readUnless [.comma, .rightBracket] false fuel
          else pure .empty
        pure (.mapping [(key, value)])
      else read false fuel
    if ← comes [.rightBracket] then skip; return [item]
    expect .comma
    return item :: (← bracketItems fuel)

-- The entries between braces. A node without a colon is a key with an empty value.
def braceEntries : Nat → Reading (List (Tree × Tree))
  | 0 => failure
  | fuel + 1 => do
    if ← skipIf .rightBrace then return []
    let entry ← if ← skipIf .key then do
        let key ← readUnless [.value, .comma, .rightBrace] false fuel
        let value ← if ← skipIf .value then readUnless [.comma, .rightBrace] false fuel
          else pure .empty
        pure (key, value)
      else do
        pure (← read false fuel, .empty)
    if ← comes [.rightBrace] then skip; return [entry]
    expect .comma
    return entry :: (← braceEntries fuel)

end

def skipDocumentEnds : Nat → Reading Unit
  | 0 => return ()
  | fuel + 1 => do if ← skipIf .documentEnd then skipDocumentEnds fuel

def document (fuel : Nat) : Reading Tree := do
  if (← peek).isNone then return .empty
  let started ← skipIf .documentStart
  let bare := started && ((← peek).isNone || (← comes [.documentStart, .documentEnd]))
  let node ← if bare then pure .empty else read false fuel
  skipDocumentEnds fuel
  if (← peek).isSome then failure
  return node

-- Reading goes at most four steps deeper for each token.
def ofTokens? (tokens : List Token) : Option Tree :=
  ((document (4 * tokens.length + 4)).run ⟨tokens, []⟩).map (·.1)

def parse (s : String) : Option Tree := (tokens? s).bind ofTokens?

end Tree
end RollingUpgrade.Yaml
