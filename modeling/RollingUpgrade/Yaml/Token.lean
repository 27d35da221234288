import RollingUpgrade.Yaml.Block
import RollingUpgrade.Yaml.Plain
import RollingUpgrade.Yaml.Quoted

namespace RollingUpgrade.Yaml

inductive Token
  | documentStart
  | documentEnd
  | openSequence
  | openMapping
  | closeBlock
  | leftBracket
  | rightBracket
  | leftBrace
  | rightBrace
  | dash
  | comma
  | key
  | value
  | anchor (name : String)
  | alias (name : String)
  | scalar (text : String) (plain : Bool)
  deriving DecidableEq, Repr

-- A token that is a key if a colon follows it on its line.
structure Candidate where
  -- The number of tokens before it.
  position : Nat
  place : Place
  -- Whether nothing but a key may stand there.
  required : Bool

structure Scanner where
  chars : List Char
  place : Place
  -- The columns of the open blocks, innermost first.
  indents : List Nat
  candidate : Option Candidate
  -- The candidates outside of the innermost brackets, one for each pair around.
  outer : List (Option Candidate)
  keyAllowed : Bool
  tokens : List Token

namespace Scanner

def start (chars : List Char) : Scanner := ⟨chars, .start, [], none, [], true, []⟩

def inBrackets (s : Scanner) : Bool := !s.outer.isEmpty

def push (s : Scanner) (t : Token) : Scanner := { s with tokens := t :: s.tokens }

-- Puts a token in front of the last `behind` tokens.
def pushBefore (s : Scanner) (behind : Nat) (t : Token) : Scanner :=
  { s with tokens := s.tokens.take behind ++ t :: s.tokens.drop behind }

def skip (s : Scanner) (n : Nat) : Scanner :=
  let p := s.place
  { s with chars := s.chars.drop n, place := ⟨p.line, p.column + n, p.index + n⟩ }

-- Passes over blanks, comments and line ends. Outside of brackets a key may stand on a new line;
-- a tab does not stand for indentation. A byte order mark may start a line and takes up a column.
def skipGaps (inBrackets keyAllowed inComment : Bool) (p : Place) :
    List Char → List Char × Place × Bool
  | [] => ([], p, keyAllowed)
  | c :: rest =>
    if isBreak c then skipGaps inBrackets (keyAllowed || !inBrackets) false (p.after c) rest
    else if inComment || c == ' ' || (c == '\t' && (inBrackets || !keyAllowed)) ||
        (c == '\ufeff' && p.column == 0) then
      skipGaps inBrackets keyAllowed inComment (p.after c) rest
    else if c == '#' then skipGaps inBrackets keyAllowed true (p.after c) rest
    else (c :: rest, p, keyAllowed)

def skipToToken (s : Scanner) : Scanner :=
  let (chars, place, keyAllowed) := skipGaps s.inBrackets s.keyAllowed false s.place s.chars
  { s with chars, place, keyAllowed }

def closeWhile (p : Nat → Bool) (s : Scanner) : Scanner :=
  let closed := s.indents.takeWhile p
  { s with
    indents := s.indents.dropWhile p
    tokens := List.replicate closed.length .closeBlock ++ s.tokens }

def closeDeeper (s : Scanner) : Scanner :=
  if s.inBrackets then s else s.closeWhile (s.place.column < ·)

def closeAll (s : Scanner) : Scanner := if s.inBrackets then s else s.closeWhile fun _ => true

-- Opens a block at a column, unless one is open there; `behind` tokens belong into it.
def openBlock (s : Scanner) (column behind : Nat) (t : Token) : Scanner :=
  if !s.inBrackets && !s.indents.head?.any (column ≤ ·) then
    ({ s with indents := column :: s.indents } : Scanner).pushBefore behind t
  else s

def dropCandidate (s : Scanner) : Option Scanner :=
  if s.candidate.any (·.required) then none else some { s with candidate := none }

def noteCandidate (s : Scanner) : Option Scanner :=
  if s.keyAllowed then do
    let s ← s.dropCandidate
    let required := !s.inBrackets && s.indents.head? == some s.place.column
    return { s with candidate := some ⟨s.tokens.length, s.place, required⟩ }
  else some s

-- The candidate, if a colon here makes it a key: it starts on this line, not too far away.
def keyHere? (s : Scanner) : Option Candidate :=
  s.candidate.filter fun c => c.place.line == s.place.line && s.place.index ≤ c.place.index + 1024

def allowingKey (s : Scanner) (allowed : Bool) : Scanner := { s with keyAllowed := allowed }

def marker (t : Token) (s : Scanner) : Option Scanner := do
  let s ← s.closeAll.dropCandidate
  return ((s.allowingKey false).push t).skip 3

def openBracket (t : Token) (s : Scanner) : Option Scanner := do
  let s ← s.noteCandidate
  let s := { s with candidate := none, outer := s.candidate :: s.outer }
  return ((s.allowingKey true).push t).skip 1

def closeBracket (t : Token) (s : Scanner) : Option Scanner := do
  let s ← s.dropCandidate
  let s := match s.outer with
    | candidate :: outer => { s with candidate, outer }
    | [] => s
  return ((s.allowingKey false).push t).skip 1

def comma (s : Scanner) : Option Scanner := do
  let s ← s.dropCandidate
  return ((s.allowingKey true).push .comma).skip 1

def dash (s : Scanner) : Option Scanner := do
  if !s.inBrackets && !s.keyAllowed then none
  let s ← (s.openBlock s.place.column 0 .openSequence).dropCandidate
  return ((s.allowingKey true).push .dash).skip 1

def questionMark (s : Scanner) : Option Scanner := do
  if !s.inBrackets && !s.keyAllowed then none
  let s ← (s.openBlock s.place.column 0 .openMapping).dropCandidate
  return ((s.allowingKey !s.inBrackets).push .key).skip 1

-- A colon behind a key, or one that has none.
def colon (s : Scanner) : Option Scanner := do
  match s.keyHere? with
  | some c =>
    let behind := s.tokens.length - c.position
    let s := ({ s with candidate := none } : Scanner).pushBefore behind .key
    let s := s.openBlock c.place.column (behind + 1) .openMapping
    return ((s.allowingKey false).push .value).skip 1
  | none =>
    let s ← s.dropCandidate
    if !s.inBrackets && !s.keyAllowed then none
    let s := s.openBlock s.place.column 0 .openMapping
    return ((s.allowingKey !s.inBrackets).push .value).skip 1

def isNameChar (c : Char) : Bool := c.isAlphanum || c == '-' || c == '_'

def name (t : String → Token) (s : Scanner) : Option Scanner := do
  let s := ((← s.noteCandidate).allowingKey false).skip 1
  let name := s.chars.takeWhile isNameChar
  let ends := match s.chars.drop name.length with
    | [] => true
    | c :: _ => isGap c || isBreak c || "?:,]\x7d%@\x60".toList.contains c
  if name.isEmpty || !ends then none
  return (s.push (t (.ofList name))).skip name.length

def take (s : Scanner) (piece : Piece) (plain : Bool) : Scanner :=
  { s with
    chars := piece.rest, place := piece.place,
    tokens := .scalar piece.text plain :: s.tokens }

def quoted (read : Place → List Char → Option Piece) (s : Scanner) : Option Scanner := do
  let s := ((← s.noteCandidate).allowingKey false).skip 1
  return s.take (← read s.place s.chars) false

def block (fold : Bool) (s : Scanner) : Option Scanner := do
  let s := ((← s.dropCandidate).allowingKey true).skip 1
  return s.take (← Block.read fold s.indents.head? s.place s.chars) false

def plain (s : Scanner) : Option Scanner := do
  let s ← s.noteCandidate
  let indent := s.indents.head?.elim 0 (· + 1)
  let piece ← Plain.read s.inBrackets indent s.place s.chars
  return (s.take piece true).allowingKey piece.newLine

def startsPlain (c : Char) : Bool := !isGap c && !"!|>%@\x60".toList.contains c

def token (s : Scanner) (c : Char) (rest : List Char) : Option Scanner :=
  if s.place.column == 0 && isMarker (c :: rest) then
    s.marker (if c == '-' then .documentStart else .documentEnd)
  else if c == '[' then s.openBracket .leftBracket
  else if c == '\x7b' then s.openBracket .leftBrace
  else if c == ']' then s.closeBracket .rightBracket
  else if c == '\x7d' then s.closeBracket .rightBrace
  else if c == ',' then s.comma
  else if c == '-' && endsWord rest then s.dash
  else if c == '?' && (s.inBrackets || endsWord rest) then s.questionMark
  else if c == ':' && (s.inBrackets || endsWord rest) then s.colon
  else if c == '*' then s.name .alias
  else if c == '&' then s.name .anchor
  else if c == '|' && !s.inBrackets then s.block false
  else if c == '>' && !s.inBrackets then s.block true
  else if c == '\'' then s.quoted Quoted.single
  else if c == '"' then s.quoted Quoted.double
  else if startsPlain c then s.plain
  else none

-- Scans tokens up to the end of the text; each takes up a character at least.
def run : Nat → Scanner → Option (List Token)
  | 0, _ => none
  | fuel + 1, s =>
    let s := s.skipToToken
    match s.chars with
    | [] => s.closeAll.dropCandidate.map (·.tokens.reverse)
    | c :: rest => do run fuel (← s.closeDeeper.token c rest)

end Scanner

def tokens? (s : String) : Option (List Token) := do
  let chars ← chars? s
  Scanner.run (chars.length + 1) (.start chars)

end RollingUpgrade.Yaml
