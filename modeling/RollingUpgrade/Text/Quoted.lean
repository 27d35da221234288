import RollingUpgrade.Text.Hidden

namespace RollingUpgrade.Text

def hex (n : Nat) : List Char := Nat.toDigits 16 n

def quotedChar (c : Char) : List Char :=
  match c with
  | '\x00' => ['\\', '0']
  | '\t' => ['\\', 't']
  | '\r' => ['\\', 'r']
  | '\n' => ['\\', 'n']
  | '\\' => ['\\', '\\']
  | '"' => ['\\', '"']
  | c =>
    let shows := if c.toNat < 0x80 then 0x20 ≤ c.toNat && c.toNat < 0x7F else !isHidden c
    if shows then [c] else '\\' :: 'u' :: '\x7b' :: hex c.toNat ++ ['\x7d']

def quote (s : String) : String := .ofList ('"' :: s.toList.flatMap quotedChar ++ ['"'])

def quoteList (l : List String) : String := "[" ++ ", ".intercalate (l.map quote) ++ "]"

end RollingUpgrade.Text
