import RollingUpgrade.Yaml.Gap

namespace RollingUpgrade.Yaml.Quoted

-- Reads on between single quotes. `doubled` says that a quote was read which may be half of
-- one.
def readSingle (doubled : Bool) (gap : Gap) (reversed : List Char) (p : Place) :
    List Char → Option Piece
  | [] => if doubled then some ⟨.ofList reversed.reverse, [], p, false⟩ else none
  | c :: rest =>
    if doubled then
      if c == '\'' then readSingle false .empty ('\'' :: reversed) (p.after c) rest
      else some ⟨.ofList reversed.reverse, c :: rest, p, false⟩
    else if isGap c then readSingle false (gap.addBlank c) reversed (p.after c) rest
    else if isBreak c then readSingle false (gap.addBreak c) reversed (p.after c) rest
    else if p.column == 0 && isMarker (c :: rest) then none
    else
      let reversed := gap.onto reversed
      if c == '\'' then readSingle true .empty reversed (p.after c) rest
      else readSingle false .empty (c :: reversed) (p.after c) rest

inductive Escape
  | none
  | backslash
  -- Hexadecimal digits to come, and the value of those read.
  | digits (left : Nat) (value : Nat)

def escaped? (c : Char) : Option Char :=
  match c with
  | '0' => some '\x00'
  | 'a' => some '\x07'
  | 'b' => some '\x08'
  | 't' | '\t' => some '\t'
  | 'n' => some '\n'
  | 'v' => some '\x0b'
  | 'f' => some '\x0c'
  | 'r' => some '\r'
  | 'e' => some '\x1b'
  | ' ' => some ' '
  | '"' => some '"'
  | '/' => some '/'
  | '\\' => some '\\'
  | 'N' => some '\u0085'
  | '_' => some '\u00a0'
  | 'L' => some '\u2028'
  | 'P' => some '\u2029'
  | _ => .none

def digitCount? (c : Char) : Option Nat :=
  match c with
  | 'x' => some 2
  | 'u' => some 4
  | 'U' => some 8
  | _ => .none

def hexValue? (c : Char) : Option Nat :=
  if c.isDigit then some (c.toNat - '0'.toNat)
  else if 'a' ≤ c && c ≤ 'f' then some (c.toNat - 'a'.toNat + 10)
  else if 'A' ≤ c && c ≤ 'F' then some (c.toNat - 'A'.toNat + 10)
  else .none

-- The character of a number; none for half of a surrogate pair and beyond the last character.
def ofNumber? (n : Nat) : Option Char := if h : n.isValidChar then some (.ofNatAux n h) else .none

def readDouble (escape : Escape) (gap : Gap) (reversed : List Char) (p : Place) :
    List Char → Option Piece
  | [] => .none
  | c :: rest =>
    match escape with
    | .backslash =>
      if isBreak c then readDouble .none (.lines .none []) reversed (p.after c) rest
      else match escaped? c, digitCount? c with
        | some d, _ => readDouble .none .empty (d :: reversed) (p.after c) rest
        | .none, some n => readDouble (.digits n 0) .empty reversed (p.after c) rest
        | .none, .none => .none
    | .digits left value =>
      match hexValue? c with
      | .none => .none
      | some d =>
        let value := value * 16 + d
        if 1 < left then readDouble (.digits (left - 1) value) .empty reversed (p.after c) rest
        else match ofNumber? value with
          | some d => readDouble .none .empty (d :: reversed) (p.after c) rest
          | .none => .none
    | .none =>
      if isGap c then readDouble .none (gap.addBlank c) reversed (p.after c) rest
      else if isBreak c then readDouble .none (gap.addBreak c) reversed (p.after c) rest
      else if p.column == 0 && isMarker (c :: rest) then .none
      else
        let reversed := gap.onto reversed
        if c == '"' then some ⟨.ofList reversed.reverse, rest, p.after c, false⟩
        else if c == '\\' then readDouble .backslash .empty reversed (p.after c) rest
        else readDouble .none .empty (c :: reversed) (p.after c) rest

def single (p : Place) (chars : List Char) : Option Piece := readSingle false .empty [] p chars

def double (p : Place) (chars : List Char) : Option Piece := readDouble .none .empty [] p chars

end RollingUpgrade.Yaml.Quoted
