import RollingUpgrade.NameMap
import RollingUpgrade.Number.Binary64

namespace RollingUpgrade

-- A JSON number: whole, or with a fraction or an exponent.
inductive Json.Number
  | int (value : Int)
  | float (value : Binary64)
  deriving DecidableEq, Repr

-- A JSON value with its objects as written. A text may follow the grammar and still denote
-- nothing: half of a surrogate pair, a number beyond binary64, nesting beyond the limit. Such a
-- part is `unreadable`; it does no harm where a decoder passes it over.
inductive Json
  | null
  | bool (value : Bool)
  | number (value : Json.Number)
  | string (value : String)
  | array (items : List Json)
  | object (entries : List (String × Json))
  | unreadable
  deriving Repr, BEq, Inhabited

namespace Json

def nat (n : Nat) : Json := .number (.int n)

def int (i : Int) : Json := .number (.int i)

def strings (l : List String) : Json := .array (l.map .string)

def ofMap {α : Type} (encode : α → Json) (m : NameMap α) : Json :=
  .object (m.toList.map fun e => (e.1, encode e.2))

def get? (j : Json) (key : String) : Option Json :=
  match j with
  | .object entries => entries.lookup key
  | _ => none

mutual

-- The value as data; none if a part of it is unreadable.
def settle? : Json → Option Json
  | .array items => (settleItems? items).map .array
  | .object entries => (settleEntries? entries).map fun es => .object (NameMap.ofList es).toList
  | .unreadable => none
  | leaf => some leaf
termination_by structural j => j

def settleItems? : List Json → Option (List Json)
  | [] => some []
  | j :: rest => do
    let v ← settle? j
    let vs ← settleItems? rest
    return v :: vs
termination_by structural l => l

def settleEntries? : List (String × Json) → Option (List (String × Json))
  | [] => some []
  | (key, j) :: rest => do
    let v ← settle? j
    let vs ← settleEntries? rest
    return (key, v) :: vs
termination_by structural l => l

end

theorem settleItems?_eq_some_self {l : List Json} :
    settleItems? l = some l ↔ ∀ j ∈ l, settle? j = some j := by
  induction l with
  | nil => simp [settleItems?]
  | cons j rest ih =>
    simp only [settleItems?, List.forall_mem_cons, ← ih]
    cases h₁ : settle? j <;> cases h₂ : settleItems? rest <;> simp

theorem settleEntries?_eq_some_self {l : List (String × Json)} :
    settleEntries? l = some l ↔ ∀ e ∈ l, settle? e.2 = some e.2 := by
  induction l with
  | nil => simp [settleEntries?]
  | cons e rest ih =>
    obtain ⟨k, j⟩ := e
    simp only [settleEntries?, List.forall_mem_cons, ← ih]
    cases h₁ : settle? j <;> cases h₂ : settleEntries? rest <;> simp

mutual

theorem settle?_idem : ∀ {j v : Json}, settle? j = some v → settle? v = some v
  | .null, v, h | .bool _, v, h | .number _, v, h | .string _, v, h => by
    simp only [settle?, Option.some.injEq] at h
    subst h
    rfl
  | .unreadable, v, h => by simp [settle?] at h
  | .array items, v, h => by
    obtain ⟨vs, hvs, rfl⟩ := Option.map_eq_some_iff.1 h
    simp [settle?, settleItems?_eq_some_self.2 (settleItems?_idem hvs)]
  | .object entries, v, h => by
    obtain ⟨vs, hvs, rfl⟩ := Option.map_eq_some_iff.1 h
    have kept : ∀ e ∈ (NameMap.ofList vs).toList, settle? e.2 = some e.2 := fun e he =>
      settleEntries?_idem hvs e (NameMap.mem_of_mem_ofList he)
    simp [settle?, settleEntries?_eq_some_self.2 kept]

theorem settleItems?_idem : ∀ {l vs : List Json}, settleItems? l = some vs →
    ∀ v ∈ vs, settle? v = some v
  | [], vs, h => by
    simp only [settleItems?, Option.some.injEq] at h
    simp [← h]
  | j :: rest, vs, h => by
    simp only [settleItems?, Option.bind_eq_bind, Option.bind_eq_some_iff, Option.pure_def,
      Option.some.injEq] at h
    obtain ⟨v, hv, ws, hws, rfl⟩ := h
    exact List.forall_mem_cons.2 ⟨settle?_idem hv, settleItems?_idem hws⟩

theorem settleEntries?_idem : ∀ {l vs : List (String × Json)}, settleEntries? l = some vs →
    ∀ e ∈ vs, settle? e.2 = some e.2
  | [], vs, h => by
    simp only [settleEntries?, Option.some.injEq] at h
    simp [← h]
  | (k, j) :: rest, vs, h => by
    simp only [settleEntries?, Option.bind_eq_bind, Option.bind_eq_some_iff, Option.pure_def,
      Option.some.injEq] at h
    obtain ⟨v, hv, ws, hws, rfl⟩ := h
    exact List.forall_mem_cons.2 ⟨settle?_idem hv, settleEntries?_idem hws⟩

end

end Json

-- A JSON value as data: all of it readable, each object with each key once, in ascending
-- order.
structure JsonValue where
  json : Json
  settled : json.settle? = some json

namespace JsonValue

@[ext]
theorem ext {v w : JsonValue} (h : v.json = w.json) : v = w := by
  cases v; cases w; cases h; rfl

def ofJson? (j : Json) : Option JsonValue :=
  match h : j.settle? with
  | some v => some ⟨v, Json.settle?_idem h⟩
  | none => none

theorem ofJson?_json (v : JsonValue) : ofJson? v.json = some v := by
  obtain ⟨j, h⟩ := v
  unfold ofJson?
  split
  · next w hw => exact congrArg some (ext (Option.some.inj (hw.symm.trans h)))
  · next hw => simp [h] at hw

theorem ofJson?_eq_some_iff {j : Json} {v : JsonValue} :
    ofJson? j = some v ↔ j.settle? = some v.json := by
  unfold ofJson?
  split
  · next w hw => simp [hw, JsonValue.ext_iff]
  · next hw => simp [hw]

def null : JsonValue := ⟨.null, rfl⟩

def string (s : String) : JsonValue := ⟨.string s, rfl⟩

def nat (n : Nat) : JsonValue := ⟨.nat n, rfl⟩

def int (i : Int) : JsonValue := ⟨.int i, rfl⟩

instance : Inhabited JsonValue := ⟨null⟩

end JsonValue
end RollingUpgrade
