import RollingUpgrade.Yaml.Character

namespace RollingUpgrade.Yaml.Block

inductive Chomp
  | strip
  | clip
  | keep
  deriving DecidableEq, Repr

structure Header where
  chomp : Chomp
  -- The indentation below that of the surroundings, if it is given.
  increment : Option Nat
  rest : List Char

def chomp? : Char → Option Chomp
  | '-' => some .strip
  | '+' => some .keep
  | _ => none

def increment? (c : Char) : Option Nat :=
  if '1' ≤ c && c ≤ '9' then some (c.toNat - '0'.toNat) else none

def Header.read : List Char → Header
  | a :: b :: rest =>
    match chomp? a, increment? b, increment? a, chomp? b with
    | some c, some i, _, _ | _, _, some i, some c => ⟨c, some i, rest⟩
    | some c, none, _, _ => ⟨c, none, b :: rest⟩
    | none, _, some i, _ => ⟨.clip, some i, b :: rest⟩
    | _, _, _, _ => ⟨.clip, none, a :: b :: rest⟩
  | [a] =>
    match chomp? a, increment? a with
    | some c, _ => ⟨c, none, []⟩
    | _, some i => ⟨.clip, some i, []⟩
    | _, _ => ⟨.clip, none, [a]⟩
  | [] => ⟨.clip, none, []⟩

-- What is left behind the end of a header's line, which may hold a comment; none if there is
-- more on the line.
def nextLine? (chars : List Char) : Option (List Char) :=
  let rest := chars.dropWhile isGap
  let rest := if rest.head? == some '#' then rest.dropWhile (!isBreak ·) else rest
  match rest with
  | [] => some []
  | c :: rest => if isBreak c then some rest else none

-- The indentation of the first line with words, or of a deeper one before it; at least
-- `least`.
def detect (least column deepest : Nat) : List Char → Nat
  | [] => max least (max column deepest)
  | c :: rest =>
    if c == ' ' then detect least (column + 1) deepest rest
    else if isBreak c then detect least 0 (max column deepest) rest
    else max least (max column deepest)

-- Whether a tab stands where the indentation is looked for.
def startsWithTab : List Char → Bool
  | [] => false
  | c :: rest => if c == ' ' || isBreak c then startsWithTab rest else c == '\t'

structure State where
  -- The lines, last character first.
  reversed : List Char
  -- The end of the last line, unless it has been used.
  lineEnd : Option Char
  -- The ends of the empty lines after it, last one first.
  emptyLines : List Char
  -- Whether the last line starts with a blank.
  startsBlank : Bool

namespace State

def start : State := ⟨[], none, [], false⟩

def startLine (fold : Bool) (s : State) (c : Char) : State :=
  let folds := fold && s.lineEnd == some '\n' && !s.startsBlank && !isGap c
  let joint := if folds then if s.emptyLines.isEmpty then [' '] else [] else s.lineEnd.toList
  ⟨c :: (s.emptyLines ++ joint ++ s.reversed), none, [], isGap c⟩

def finish (chomp : Chomp) (s : State) : String :=
  .ofList (match chomp with
    | .strip => s.reversed
    | .clip => s.lineEnd.toList ++ s.reversed
    | .keep => s.emptyLines ++ s.lineEnd.toList ++ s.reversed).reverse

end State

-- Reads on, `inLine` in the middle of a line.
def readFrom (fold : Bool) (chomp : Chomp) (indent : Nat) (inLine : Bool) (s : State) (p : Place) :
    List Char → Option Piece
  | [] => some ⟨s.finish chomp, [], p, true⟩
  | c :: rest =>
    if inLine then
      if isBreak c then
        readFrom fold chomp indent false { s with lineEnd := some c } (p.after c) rest
      else readFrom fold chomp indent true { s with reversed := c :: s.reversed } (p.after c) rest
    else if isBreak c then
      readFrom fold chomp indent false { s with emptyLines := c :: s.emptyLines } (p.after c) rest
    else if p.column < indent then
      if c == ' ' then readFrom fold chomp indent false s (p.after c) rest
      else if c == '\t' then none
      else some ⟨s.finish chomp, c :: rest, p, true⟩
    else readFrom fold chomp indent true (s.startLine fold c) (p.after c) rest

-- Reads what follows a bar or an angle. `surroundings` is the indentation of what holds the
-- scalar, if anything does.
def read (fold : Bool) (surroundings : Option Nat) (p : Place) (chars : List Char) :
    Option Piece := do
  let header := Header.read chars
  let below ← nextLine? header.rest
  let p : Place := ⟨p.line + 1, 0, p.index + (chars.length - below.length)⟩
  match header.increment with
  | some i => readFrom fold header.chomp (surroundings.getD 0 + i) false .start p below
  | none =>
    if startsWithTab below then none
    else
      let least := max 1 (surroundings.elim 0 (· + 1))
      readFrom fold header.chomp (detect least 0 0 below) false .start p below

end RollingUpgrade.Yaml.Block
