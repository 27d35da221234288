import RollingUpgrade.Json.Basic

namespace RollingUpgrade

-- A parsed text. Each question expects one kind of value and has no answer for the others, save
-- that a format may take one kind for another, such as an empty value for an empty map.
class Document (δ : Type) where
  isNull : δ → Bool
  bool? : δ → Option Bool
  -- A natural number below 2^64.
  count? : δ → Option Nat
  string? : δ → Option String
  list? : δ → Option (List δ)
  -- The entries of a map in the order of the text, repeated keys included.
  map? : δ → Option (List (String × δ))
  -- The fields of a record that is written as a list, in the order of its declaration.
  tuple? : δ → Option (List δ)
  -- The value as the text alone has it, whatever is expected.
  untyped? : δ → Option Json

namespace Document

variable {δ α : Type} [Document δ]

def optional? (decode? : δ → Option α) (d : δ) : Option (Option α) :=
  if isNull d then some none else (decode? d).map some

def listOf? (decode? : δ → Option α) (d : δ) : Option (List α) := do
  (← list? d).mapM decode?

-- Of entries with one name the last stays, but all of them have to decode.
def mapOf? (decode? : δ → Option α) (d : δ) : Option (NameMap α) := do
  let entries ← (← map? d).mapM fun e => (decode? e.2).map fun a => (e.1, a)
  return .ofList entries

-- The value that a map has for a field under any of its spellings; none if it has two.
def field? (spellings : List String) (entries : List (String × δ)) : Option (Option δ) :=
  match entries.filter fun e => e.1 ∈ spellings with
  | [] => some none
  | [e] => some (some e.2)
  | _ => none

-- The fields of a record of which each is given by its spellings. Fields that the record does not
-- have are passed over. A record written as a list has at least `atLeast` fields and no more than
-- all.
def fields? (spellings : List (List String)) (atLeast : Nat) (d : δ) : Option (List (Option δ)) :=
  match tuple? d with
  | some items =>
    if atLeast ≤ items.length && items.length ≤ spellings.length then
      some (items.map some ++ List.replicate (spellings.length - items.length) none)
    else none
  | none => do
    let entries ← map? d
    spellings.mapM (field? · entries)

def orElse (default : α) (decode? : δ → Option α) : Option δ → Option α
  | none => some default
  | some d => decode? d

def required (decode? : δ → Option α) (d : Option δ) : Option α := d.bind decode?

end Document

instance : Document Json where
  isNull j := j matches .null
  bool? | .bool b => some b | _ => none
  count?
    | .number (.int i) => if fitsUnsigned 64 i then some i.toNat else none
    | _ => none
  string? | .string s => some s | _ => none
  list? | .array items => some items | _ => none
  map? | .object entries => some entries | _ => none
  tuple? | .array items => some items | _ => none
  untyped? := some

end RollingUpgrade
