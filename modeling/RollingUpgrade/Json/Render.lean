import RollingUpgrade.Json.Basic
import RollingUpgrade.Number.Layout

namespace RollingUpgrade.Json

-- Numbers are written without an exponent from 1e-5 up to 1e16; a positive exponent has its
-- sign.
def numberLayout : Binary64.Layout := ⟨16, 4, true⟩

def Number.render : Number → String
  | .int i => toString i
  | .float x => x.render numberLayout

def hexDigit (n : Nat) : Char := (Nat.digitChar n)

-- Only the quote, the backslash and control characters are escaped.
def escape (c : Char) : List Char :=
  match c with
  | '"' => ['\\', '"']
  | '\\' => ['\\', '\\']
  | '\n' => ['\\', 'n']
  | '\r' => ['\\', 'r']
  | '\t' => ['\\', 't']
  | '\x08' => ['\\', 'b']
  | '\x0c' => ['\\', 'f']
  | c =>
    if c.toNat < 0x20 then
      ['\\', 'u', '0', '0', hexDigit (c.toNat / 16), hexDigit (c.toNat % 16)]
    else [c]

def quote (s : String) : String := .ofList ('"' :: s.toList.flatMap escape ++ ['"'])

mutual

-- An unreadable part is written as null.
def render : Json → String
  | .null | .unreadable => "null"
  | .bool b => if b then "true" else "false"
  | .number n => n.render
  | .string s => quote s
  | .array items => "[" ++ ",".intercalate (renderItems items) ++ "]"
  | .object entries => "\x7b" ++ ",".intercalate (renderEntries entries) ++ "\x7d"
termination_by structural j => j

def renderItems : List Json → List String
  | [] => []
  | j :: rest => render j :: renderItems rest
termination_by structural l => l

def renderEntries : List (String × Json) → List String
  | [] => []
  | (key, j) :: rest => (quote key ++ ":" ++ render j) :: renderEntries rest
termination_by structural l => l

end

end RollingUpgrade.Json
