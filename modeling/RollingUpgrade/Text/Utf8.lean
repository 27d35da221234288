namespace RollingUpgrade.Text.Utf8

def isContinuation (b : UInt8) : Bool := 0x80 ≤ b && b ≤ 0xBF

-- Whether the second byte of a character of three or four bytes may follow its first: no
-- character has a longer form than it needs, is half of a surrogate pair or lies past U+10FFFF.
def isSecond (first second : UInt8) : Bool :=
  if first == 0xE0 then 0xA0 ≤ second && second ≤ 0xBF
  else if first == 0xED then 0x80 ≤ second && second ≤ 0x9F
  else if first == 0xF0 then 0x90 ≤ second && second ≤ 0xBF
  else if first == 0xF4 then 0x80 ≤ second && second ≤ 0x8F
  else isContinuation second

def payload (b : UInt8) (mask : UInt8) : Nat := (b &&& mask).toNat

-- The characters of a byte sequence, `none` standing for a run that is no character.
def chunks : List UInt8 → List (Option Char)
  | [] => []
  | a :: rest =>
    if a < 0x80 then some (Char.ofNat a.toNat) :: chunks rest
    else if 0xC2 ≤ a && a ≤ 0xDF then
      match rest with
      | b :: more =>
        if isContinuation b then
          some (Char.ofNat (payload a 0x1F * 64 + payload b 0x3F)) :: chunks more
        else none :: chunks (b :: more)
      | [] => [none]
    else if 0xE0 ≤ a && a ≤ 0xEF then
      match rest with
      | b :: c :: more =>
        if !isSecond a b then none :: chunks (b :: c :: more)
        else if !isContinuation c then none :: chunks (c :: more)
        else
          some (Char.ofNat (payload a 0x0F * 4096 + payload b 0x3F * 64 + payload c 0x3F)) ::
            chunks more
      | b :: [] => if isSecond a b then [none] else none :: chunks (b :: [])
      | [] => [none]
    else if 0xF0 ≤ a && a ≤ 0xF4 then
      match rest with
      | b :: c :: d :: more =>
        if !isSecond a b then none :: chunks (b :: c :: d :: more)
        else if !isContinuation c then none :: chunks (c :: d :: more)
        else if !isContinuation d then none :: chunks (d :: more)
        else
          some (Char.ofNat (payload a 0x07 * 262144 + payload b 0x3F * 4096 +
            payload c 0x3F * 64 + payload d 0x3F)) :: chunks more
      | b :: c :: [] =>
        if !isSecond a b then none :: chunks (b :: c :: [])
        else if !isContinuation c then none :: chunks (c :: [])
        else [none]
      | b :: [] => if isSecond a b then [none] else none :: chunks (b :: [])
      | [] => [none]
    else none :: chunks rest

def decode? (bytes : List UInt8) : Option String := ((chunks bytes).mapM id).map .ofList

-- The text that the bytes spell, with U+FFFD where they spell none.
def decodeLossy (bytes : List UInt8) : String :=
  .ofList ((chunks bytes).map (·.getD (Char.ofNat 0xFFFD)))

-- The text behind its first `n` bytes; a character that is cut goes with them.
def dropBytes (n : Nat) : List Char → List Char
  | [] => []
  | c :: rest => if n = 0 then c :: rest else dropBytes (n - c.utf8Size) rest

-- The first `n` bytes of a text, with the whole of a character that is cut.
def takeBytes (n : Nat) : List Char → List Char
  | [] => []
  | c :: rest => if n = 0 then [] else c :: takeBytes (n - c.utf8Size) rest

end RollingUpgrade.Text.Utf8
