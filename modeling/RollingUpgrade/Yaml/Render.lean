import RollingUpgrade.Json.Basic
import RollingUpgrade.Number.Layout
import RollingUpgrade.Yaml.Character
import RollingUpgrade.Yaml.Scalar

namespace RollingUpgrade.Yaml

-- Numbers are written without an exponent from 1e-5 up to 1e16; a positive exponent has no
-- sign.
def numberLayout : Binary64.Layout := ⟨16, 4, false⟩

inductive Style
  | plain
  | singleQuoted
  | doubleQuoted
  | literal
  deriving DecidableEq, Repr

def isPrintable (c : Char) : Bool :=
  let n := c.toNat
  n == 0x0A || (0x20 ≤ n && n ≤ 0x7E) || (0xA0 ≤ n && n ≤ 0xD7FF) ||
    (0xE000 ≤ n && n ≤ 0xFFFD && n != 0xFEFF) || 0x10000 ≤ n

def isReserved (c : Char) : Bool := "#,[]\x7b\x7d&*!|>'\"%@\x60".toList.contains c

def endsWrittenWord (rest : List Char) : Bool :=
  endsWord rest || rest.head? == some '\x00'

-- Whether a colon ends a word or a comment seems to start somewhere behind the first
-- character.
def looksLikeMore : List Char → Bool
  | a :: b :: rest =>
    (b == ':' && endsWrittenWord rest) || (b == '#' && endsWrittenWord [a]) ||
      looksLikeMore (b :: rest)
  | _ => false

-- Whether a text would be read as something else than text if it stood without quotes.
def hasIndicator (s : List Char) : Bool :=
  match s with
  | [] => false
  | c :: rest =>
    isReserved c || ((c == '?' || c == ':' || c == '-') && endsWrittenWord rest) ||
      looksLikeMore s || "---".toList.isPrefixOf s || "...".toList.isPrefixOf s

def hasPair (p q : Char → Bool) : List Char → Bool
  | a :: b :: rest => (p a && q b) || hasPair p q (b :: rest)
  | _ => false

structure Traits where
  severalLines : Bool
  plain : Bool
  singleQuoted : Bool
  literal : Bool

def isSpace (c : Char) : Bool := c == ' '

-- Whether a character ends a line, be it that it is never written as it is.
def isAnyBreak (c : Char) : Bool := isBreak c || c == '\r' || c == '\u0085'

def traits (s : List Char) : Traits :=
  let edge (p : Char → Bool) : Bool := s.head?.any p || s.getLast?.any p
  let special := s.any (!isPrintable ·)
  let breakSpace := hasPair isBreak isSpace s
  let spaceBreak := hasPair isSpace isBreak s
  let severalLines := s.any isAnyBreak
  let hard := special || spaceBreak
  { severalLines
    plain := !(severalLines || hard || edge isSpace || edge isBreak || hasIndicator s)
    singleQuoted := !(hard || breakSpace)
    literal := !(hard || s.getLast?.any isSpace) }

def readsOtherwise (s : String) : Bool :=
  match Scalar.ofPlain s with
  | .text _ => Scalar.hasLeadingZero s.toList
  | _ => true

-- The style of a text; a key in front of a colon takes a single line.
def styleOf (simpleKey : Bool) (s : String) : Style :=
  let t := traits s.toList
  let quoted := if t.singleQuoted then Style.singleQuoted else .doubleQuoted
  if s.toList.contains '\n' then
    if t.literal && !simpleKey then .literal else .doubleQuoted
  else if s.isEmpty then .singleQuoted
  else if simpleKey && t.severalLines then .doubleQuoted
  else if readsOtherwise s || !t.plain then quoted
  else .plain

def spaces (n : Nat) : List Char := List.replicate n ' '

-- Writes a text with its further lines indented, save those without characters. `fresh` says
-- that a line starts here.
def indented (indent : Nat) (fresh : Bool) : List Char → List Char
  | [] => []
  | c :: rest =>
    if isBreak c then c :: indented indent true rest
    else (if fresh then spaces indent else []) ++ c :: indented indent false rest

def singleQuotedText (indent : Nat) (s : List Char) : List Char :=
  let doubled := s.flatMap fun c => if c == '\'' then ['\'', '\''] else [c]
  '\'' :: indented indent false (doubled ++ ['\''])

def hexDigits (width n : Nat) : List Char :=
  let digits := (Nat.toDigits 16 n).map Char.toUpper
  List.replicate (width - digits.length) '0' ++ digits

def escapeLetter? (c : Char) : Option Char :=
  match c with
  | '\x00' => some '0'
  | '\x07' => some 'a'
  | '\x08' => some 'b'
  | '\t' => some 't'
  | '\n' => some 'n'
  | '\x0b' => some 'v'
  | '\x0c' => some 'f'
  | '\r' => some 'r'
  | '\x1b' => some 'e'
  | '"' => some '"'
  | '\\' => some '\\'
  | '\u0085' => some 'N'
  | '\u2028' => some 'L'
  | '\u2029' => some 'P'
  | _ => none

def doubleQuotedChar (c : Char) : List Char :=
  match escapeLetter? c with
  | some letter => ['\\', letter]
  | none =>
    let n := c.toNat
    if isPrintable c then [c]
    else if n ≤ 0xFF then '\\' :: 'x' :: hexDigits 2 n
    else if n ≤ 0xFFFF then '\\' :: 'u' :: hexDigits 4 n
    else '\\' :: 'U' :: hexDigits 8 n

-- The signs after a bar: whether the text starts with a blank, and what becomes of the ends of
-- its last lines.
def literalSigns (s : List Char) : List Char :=
  let hint := if s.head?.any fun c => isSpace c || isBreak c then ['2'] else []
  let chomp := match s.reverse with
    | [] => ['-']
    | [c] => if isBreak c then ['+'] else ['-']
    | c :: d :: _ => if !isBreak c then ['-'] else if isBreak d then ['+'] else []
  hint ++ chomp

def literalText (indent : Nat) (s : List Char) : List Char :=
  '|' :: literalSigns s ++ '\n' :: indented indent true s

def writtenText (simpleKey : Bool) (indent : Nat) (s : String) : String :=
  let l := s.toList
  .ofList (match styleOf simpleKey s with
    | .plain => l
    | .singleQuoted => singleQuotedText indent l
    | .doubleQuoted => '"' :: l.flatMap doubleQuotedChar ++ ['"']
    | .literal => literalText indent l)

def isSimpleKey (s : String) : Bool := !(traits s.toList).severalLines && s.utf8ByteSize ≤ 128

def newLine (indent : Nat) : String := .ofList ('\n' :: spaces indent)

-- Ends the line of a text, unless the text does so itself.
def endLine (s : String) : String := if s.toList.getLast?.any isBreak then s else s ++ "\n"

def nextLine (s : String) (indent : Nat) : String := endLine s ++ .ofList (spaces indent)

def stacked (column : Nat) : List String → String
  | [] => ""
  | [s] => s
  | s :: rest => nextLine s column ++ stacked column rest

inductive Standing
  | inline
  | list
  | map

def standingOf : Json → Standing
  | .array (_ :: _) => .list
  | .object (_ :: _) => .map
  | _ => .inline

-- Where a value starts that stands behind the colon of a simple key.
def afterColon (indent : Nat) : Standing → String
  | .inline => " "
  | .list => newLine indent
  | .map => newLine (indent + 2)

def valueColumn (indent : Nat) : Standing → Nat
  | .list => indent
  | _ => indent + 2

def keyText (indent : Nat) (key : String) (standing : Standing) : String :=
  if isSimpleKey key then writtenText true (indent + 2) key ++ ":" ++ afterColon indent standing
  else nextLine ("? " ++ writtenText false (indent + 2) key) indent ++ ": "

def valueColumnOf (indent : Nat) (key : String) (standing : Standing) : Nat :=
  if isSimpleKey key then valueColumn indent standing else indent + 2

mutual

-- A value whose first line stands where it is put and whose other lines start at `column`.
def written (column : Nat) : Json → String
  | .null | .unreadable => "null"
  | .bool b => if b then "true" else "false"
  | .number (.int i) => toString i
  | .number (.float x) => x.render numberLayout
  | .string s => writtenText false column s
  | .array [] => "[]"
  | .array (j :: rest) => stacked column (writtenItems column (j :: rest))
  | .object [] => "\x7b\x7d"
  | .object (e :: rest) => stacked column (writtenEntries column (e :: rest))
termination_by structural j => j

def writtenItems (column : Nat) : List Json → List String
  | [] => []
  | j :: rest => ("- " ++ written (column + 2) j) :: writtenItems column rest
termination_by structural l => l

def writtenEntries (column : Nat) : List (String × Json) → List String
  | [] => []
  | (key, j) :: rest =>
    let standing := standingOf j
    (keyText column key standing ++ written (valueColumnOf column key standing) j) ::
      writtenEntries column rest
termination_by structural l => l

end

def documentColumn (j : Json) : Nat :=
  match standingOf j with
  | .inline => 2
  | _ => 0

def render (j : Json) : String := endLine (written (documentColumn j) j)

end RollingUpgrade.Yaml
