import RollingUpgrade.Json.Token

namespace RollingUpgrade.Json

-- An array or object that has been opened; its parts come last one first. An object one of whose
-- keys has no value is not sound.
inductive Container
  | array (items : List Json)
  | object (entries : List (String × Json)) (key : Option String) (sound : Bool)

inductive Expecting
  | value
  | firstItem
  | firstKey
  | key
  | colon
  | separator
  | nothing

structure Reader where
  containers : List Container
  expecting : Expecting
  result : Option Json

namespace Reader

def start : Reader := ⟨[], .value, none⟩

-- Containers that lie deeper than this have no value.
def nestingLimit : Nat := 127

def place (containers : List Container) (v : Json) : Reader :=
  match containers with
  | [] => ⟨[], .nothing, some v⟩
  | .array items :: outer => ⟨.array (v :: items) :: outer, .separator, none⟩
  | .object entries (some key) sound :: outer =>
    ⟨.object ((key, v) :: entries) none sound :: outer, .separator, none⟩
  | .object entries none _ :: outer => ⟨.object entries none false :: outer, .separator, none⟩

def close (containers outer : List Container) (v : Json) : Reader :=
  place outer (if containers.length ≤ nestingLimit then v else .unreadable)

def step (r : Reader) (t : Token) : Option Reader :=
  match r.expecting, t with
  | .value, .literal v | .firstItem, .literal v => some (place r.containers v)
  | .value, .text s | .firstItem, .text s =>
    some (place r.containers (s.elim .unreadable .string))
  | .value, .openArray | .firstItem, .openArray =>
    some ⟨.array [] :: r.containers, .firstItem, none⟩
  | .value, .openObject | .firstItem, .openObject =>
    some ⟨.object [] none true :: r.containers, .firstKey, none⟩
  | .firstKey, .text key | .key, .text key =>
    match r.containers with
    | .object entries _ sound :: outer =>
      some ⟨.object entries key (sound && key.isSome) :: outer, .colon, none⟩
    | _ => none
  | .colon, .colon => some { r with expecting := .value }
  | .separator, .comma =>
    match r.containers with
    | .array _ :: _ => some { r with expecting := .value }
    | .object .. :: _ => some { r with expecting := .key }
    | [] => none
  | .firstItem, .closeArray | .separator, .closeArray =>
    match r.containers with
    | .array items :: outer => some (close r.containers outer (.array items.reverse))
    | _ => none
  | .firstKey, .closeObject | .separator, .closeObject =>
    match r.containers with
    | .object entries _ sound :: outer =>
      some (close r.containers outer (if sound then .object entries.reverse else .unreadable))
    | _ => none
  | _, _ => none

end Reader

def parse (s : String) : Option Json := do
  let tokens ← tokens? s
  (← tokens.foldlM Reader.step .start).result

end RollingUpgrade.Json
