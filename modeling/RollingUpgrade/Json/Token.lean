import RollingUpgrade.Json.Basic

namespace RollingUpgrade.Json

-- A token. A quoted text whose escapes give half of a surrogate pair has no value.
inductive Token
  | openArray | closeArray | openObject | closeObject | comma | colon
  | text (value : Option String)
  | literal (value : Json)

-- The digits at the front of a text that fit into 64 bits after `value`, with their number.
def fitting (value : Nat) : List Char → Nat × Nat
  | [] => (value, 0)
  | c :: rest =>
    let next := value * 10 + (c.toNat - '0'.toNat)
    if fitsUnsigned 64 next then
      let (v, n) := fitting next rest
      (v, n + 1)
    else (value, 0)

structure NumberText where
  negative : Bool
  whole : List Char
  fraction : List Char
  exponent : Option Int

namespace NumberText

-- A fraction has at least one digit.
def fraction? : List Char → Option (List Char × List Char)
  | '.' :: rest =>
    let digits := rest.takeWhile Char.isDigit
    if digits.isEmpty then none else some (digits, rest.dropWhile Char.isDigit)
  | rest => some ([], rest)

def digits? (s : List Char) : Option Nat :=
  if s.isEmpty || !s.all Char.isDigit then none
  else some (s.foldl (fun n c => n * 10 + (c.toNat - '0'.toNat)) 0)

def exponent? : List Char → Option (Option Int)
  | [] => some none
  | e :: rest =>
    if e = 'e' || e = 'E' then
      match rest with
      | '-' :: ds => (digits? ds).map fun n => some (-(n : Int))
      | '+' :: ds => (digits? ds).map fun n => some (n : Int)
      | ds => (digits? ds).map fun n => some (n : Int)
    else none

-- A whole part has no leading zero.
def ofChars? (s : List Char) : Option NumberText := do
  let (negative, s) := match s with
    | '-' :: rest => (true, rest)
    | s => (false, s)
  let whole := s.takeWhile Char.isDigit
  if whole.isEmpty || (whole.head? == some '0' && 1 < whole.length) then none
  let (fraction, rest) ← fraction? (s.dropWhile Char.isDigit)
  let exponent ← exponent? rest
  return { negative, whole, fraction, exponent }

-- A whole number in 64 bits, signed or not, is exact. Any other number is a binary64: of its
-- digits only those count that fit into 64 bits, and then it is scaled.
def value (t : NumberText) : Json :=
  let (wholeDigits, taken) := fitting 0 t.whole
  let isWhole := t.fraction.isEmpty && t.exponent.isNone && taken == t.whole.length
  if isWhole && !t.negative then .int wholeDigits
  else if isWhole && 0 < wholeDigits && fitsSigned 64 (-(wholeDigits : Int)) then
    .int (-(wholeDigits : Int))
  else
    let (digits, takenAfter) := fitting wholeDigits t.fraction
    let exponent : Int := (t.whole.length - taken : Nat) - (takenAfter : Int) + t.exponent.getD 0
    match Binary64.ofScaled? t.negative digits exponent with
    | some x => .number (.float x)
    | none => .unreadable

end NumberText

def isWordChar (c : Char) : Bool := c.isAlphanum || c == '-' || c == '+' || c == '.'

def wordToken? (word : List Char) : Option Token :=
  if word = "null".toList then some (.literal .null)
  else if word = "true".toList then some (.literal (.bool true))
  else if word = "false".toList then some (.literal (.bool false))
  else (NumberText.ofChars? word).map fun t => .literal t.value

-- The part of a quoted text that has been read, last character first. `high` is the first half of
-- a surrogate pair that waits for its second half.
structure Quoted where
  reversed : List Char
  high : Option Nat
  sound : Bool

namespace Quoted

def empty : Quoted := ⟨[], none, true⟩

def push (q : Quoted) (c : Char) : Quoted :=
  ⟨c :: q.reversed, none, q.sound && q.high.isNone⟩

def pushUnit (q : Quoted) (unit : Nat) : Quoted :=
  let isHigh := 0xD800 ≤ unit && unit < 0xDC00
  let isLow := 0xDC00 ≤ unit && unit < 0xE000
  match q.high with
  | some high =>
    if isLow then
      let c := Char.ofNat (0x10000 + (high - 0xD800) * 0x400 + (unit - 0xDC00))
      ⟨c :: q.reversed, none, q.sound⟩
    else ⟨q.reversed, none, false⟩
  | none =>
    if isHigh then { q with high := some unit }
    else if isLow then { q with sound := false }
    else q.push (Char.ofNat unit)

def value (q : Quoted) : Option String :=
  if q.sound && q.high.isNone then some (.ofList q.reversed.reverse) else none

end Quoted

inductive ScanState
  | between
  | inWord (reversed : List Char)
  | inText (read : Quoted)
  | afterBackslash (read : Quoted)
  | inUnit (read : Quoted) (value digits : Nat)

def escaped? (c : Char) : Option Char :=
  match c with
  | '"' => some '"'
  | '\\' => some '\\'
  | '/' => some '/'
  | 'b' => some '\x08'
  | 'f' => some '\x0c'
  | 'n' => some '\n'
  | 'r' => some '\r'
  | 't' => some '\t'
  | _ => none

def hexValue? (c : Char) : Option Nat :=
  if c.isDigit then some (c.toNat - '0'.toNat)
  else if 'a' ≤ c && c ≤ 'f' then some (c.toNat - 'a'.toNat + 10)
  else if 'A' ≤ c && c ≤ 'F' then some (c.toNat - 'A'.toNat + 10)
  else none

def punctuation? (c : Char) : Option Token :=
  match c with
  | '[' => some .openArray
  | ']' => some .closeArray
  | '\x7b' => some .openObject
  | '\x7d' => some .closeObject
  | ',' => some .comma
  | ':' => some .colon
  | _ => none

-- The tokens read so far, last one first, and the state of reading.
structure Scan where
  tokens : List Token
  state : ScanState

namespace Scan

def start : Scan := ⟨[], .between⟩

def outside (tokens : List Token) (c : Char) : Option Scan :=
  if c == ' ' || c == '\t' || c == '\n' || c == '\r' then some ⟨tokens, .between⟩
  else if c == '"' then some ⟨tokens, .inText .empty⟩
  else if isWordChar c then some ⟨tokens, .inWord [c]⟩
  else (punctuation? c).map fun t => ⟨t :: tokens, .between⟩

def step (s : Scan) (c : Char) : Option Scan :=
  match s.state with
  | .between => outside s.tokens c
  | .inWord reversed =>
    if isWordChar c then some { s with state := .inWord (c :: reversed) }
    else do
      let t ← wordToken? reversed.reverse
      outside (t :: s.tokens) c
  | .inText read =>
    if c == '"' then some ⟨.text read.value :: s.tokens, .between⟩
    else if c == '\\' then some { s with state := .afterBackslash read }
    else if c.toNat < 0x20 then none
    else some { s with state := .inText (read.push c) }
  | .afterBackslash read =>
    if c == 'u' then some { s with state := .inUnit read 0 0 }
    else (escaped? c).map fun d => { s with state := .inText (read.push d) }
  | .inUnit read value digits => do
    let d ← hexValue? c
    let value := value * 16 + d
    if digits < 3 then some { s with state := .inUnit read value (digits + 1) }
    else some { s with state := .inText (read.pushUnit value) }

def finish (s : Scan) : Option (List Token) :=
  match s.state with
  | .between => some s.tokens.reverse
  | .inWord reversed => (wordToken? reversed.reverse).map fun t => (t :: s.tokens).reverse
  | _ => none

end Scan

def tokens? (s : String) : Option (List Token) := do
  (← s.toList.foldlM Scan.step .start).finish

end RollingUpgrade.Json
