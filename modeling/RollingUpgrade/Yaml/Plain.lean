import RollingUpgrade.Yaml.Gap

namespace RollingUpgrade.Yaml.Plain

def endsInBrackets (c : Char) : Bool :=
  c == ',' || c == '[' || c == ']' || c == '\x7b' || c == '\x7d'

-- Whether a colon stands before a character that it may not touch between brackets.
def isStrayColon (c : Char) (rest : List Char) : Bool :=
  c == ':' && match rest with
    | next :: _ => next == '?' || endsInBrackets next
    | [] => false

-- Reads on after `gap`, with the characters read before it in `reversed`. A line has to be
-- indented to `indent` at least.
def readFrom (inBrackets : Bool) (indent : Nat) (gap : Gap) (reversed : List Char) (p : Place) :
    List Char → Option Piece
  | [] => some ⟨.ofList reversed.reverse, [], p, gap.isBroken⟩
  | c :: rest =>
    if isGap c then
      if gap.isBroken && p.column < indent && c == '\t' then none
      else readFrom inBrackets indent (gap.addBlank c) reversed (p.after c) rest
    else if isBreak c then
      readFrom inBrackets indent (gap.addBreak c) reversed (p.after c) rest
    else
      let outdented := gap.isBroken && !inBrackets && p.column < indent
      let atMarker := p.column == 0 && gap.isBroken && isMarker (c :: rest)
      let atComment := c == '#' && !gap.isEmpty
      let ended := outdented || atMarker || atComment
      if !ended && inBrackets && isStrayColon c rest then none
      else if ended || (c == ':' && endsWord rest) || (inBrackets && endsInBrackets c) then
        some ⟨.ofList reversed.reverse, c :: rest, p, gap.isBroken⟩
      else readFrom inBrackets indent .empty (c :: gap.onto reversed) (p.after c) rest

def read (inBrackets : Bool) (indent : Nat) (p : Place) (chars : List Char) : Option Piece :=
  readFrom inBrackets indent .empty [] p chars

end RollingUpgrade.Yaml.Plain
