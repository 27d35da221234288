import RollingUpgrade.Yaml.Character

namespace RollingUpgrade.Yaml

-- What stands between two words, last character first.
inductive Gap
  | blanks (reversed : List Char)
  -- `first` is none where an escape took the first line end away.
  | lines (first : Option Char) (others : List Char)

namespace Gap

def empty : Gap := .blanks []

def isEmpty : Gap → Bool
  | .blanks [] => true
  | _ => false

def isBroken : Gap → Bool
  | .blanks _ => false
  | .lines .. => true

def addBlank (g : Gap) (c : Char) : Gap :=
  match g with
  | .blanks reversed => .blanks (c :: reversed)
  | .lines first others => .lines first others

def addBreak (g : Gap) (c : Char) : Gap :=
  match g with
  | .blanks _ => .lines (some c) []
  | .lines first others => .lines first (c :: others)

def text : Gap → List Char
  | .blanks reversed => reversed.reverse
  | .lines none others => others.reverse
  | .lines (some '\n') [] => [' ']
  | .lines (some '\n') others => others.reverse
  | .lines (some c) others => c :: others.reverse

def onto (g : Gap) (reversed : List Char) : List Char := g.text.reverse ++ reversed

end Gap
end RollingUpgrade.Yaml
