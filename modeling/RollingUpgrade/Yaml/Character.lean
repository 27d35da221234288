namespace RollingUpgrade.Yaml

-- A blank within a line.
def isGap (c : Char) : Bool := c == ' ' || c == '\t'

-- A character that ends a line.
def isBreak (c : Char) : Bool := c == '\n' || c == '\u2028' || c == '\u2029'

def endsWord : List Char → Bool
  | [] => true
  | c :: _ => isGap c || isBreak c

def isAllowed (c : Char) : Bool :=
  let n := c.toNat
  n == 0x09 || n == 0x0A || n == 0x0D || (0x20 ≤ n && n ≤ 0x7E) || n == 0x85 ||
    (0xA0 ≤ n && n ≤ 0xD7FF) || (0xE000 ≤ n && n ≤ 0xFFFD) || 0x10000 ≤ n

-- The text with a line feed for every end of a line that is written with a carriage return or as
-- U+0085.
def unifyLines : List Char → List Char
  | '\r' :: '\n' :: rest => '\n' :: unifyLines rest
  | '\r' :: rest => '\n' :: unifyLines rest
  | '\u0085' :: rest => '\n' :: unifyLines rest
  | c :: rest => c :: unifyLines rest
  | [] => []

def chars? (s : String) : Option (List Char) :=
  if s.toList.all isAllowed then some (unifyLines s.toList) else none

def isMarker : List Char → Bool
  | '-' :: '-' :: '-' :: rest | '.' :: '.' :: '.' :: rest => endsWord rest
  | _ => false

-- Where a character stands: its line, its column, and the number of characters before it.
structure Place where
  line : Nat
  column : Nat
  index : Nat
  deriving DecidableEq, Repr

namespace Place

def start : Place := ⟨0, 0, 0⟩

def after (p : Place) (c : Char) : Place :=
  if isBreak c then ⟨p.line + 1, 0, p.index + 1⟩ else ⟨p.line, p.column + 1, p.index + 1⟩

end Place

structure Piece where
  text : String
  rest : List Char
  place : Place
  -- Whether lines ended behind the text, before what is left.
  newLine : Bool

end RollingUpgrade.Yaml
