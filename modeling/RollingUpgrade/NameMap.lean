namespace RollingUpgrade

-- Values by names, in ascending order of the names.
structure NameMap (α : Type) where
  toList : List (String × α)
  ascending : toList.Pairwise (·.1 < ·.1)

namespace NameMap

variable {α β : Type}

@[ext]
theorem ext {m n : NameMap α} (h : m.toList = n.toList) : m = n := by
  cases m; cases n; cases h; rfl

instance [DecidableEq α] : DecidableEq (NameMap α) := fun m n =>
  if h : m.toList = n.toList then .isTrue (ext h) else .isFalse (fun e => h (e ▸ rfl))

instance [BEq α] : BEq (NameMap α) := ⟨fun m n => m.toList == n.toList⟩

def empty : NameMap α := ⟨[], .nil⟩

instance : EmptyCollection (NameMap α) := ⟨empty⟩

instance : Inhabited (NameMap α) := ⟨empty⟩

def keys (m : NameMap α) : List String := m.toList.map (·.1)

def values (m : NameMap α) : List α := m.toList.map (·.2)

def size (m : NameMap α) : Nat := m.toList.length

def isEmpty (m : NameMap α) : Bool := m.toList.isEmpty

def find? (m : NameMap α) (name : String) : Option α := m.toList.lookup name

def contains (m : NameMap α) (name : String) : Bool := (m.find? name).isSome

instance : Membership String (NameMap α) := ⟨fun m name => name ∈ m.keys⟩

instance (name : String) (m : NameMap α) : Decidable (name ∈ m) :=
  inferInstanceAs (Decidable (name ∈ m.keys))

theorem keys_ascending (m : NameMap α) : m.keys.Pairwise (· < ·) :=
  List.pairwise_map.2 m.ascending

theorem keys_nodup (m : NameMap α) : m.keys.Nodup :=
  m.keys_ascending.imp fun {a b} (h : a < b) (e : a = b) => String.lt_irrefl b (e ▸ h)

-- Puts an entry where the order wants it; an entry of the same name gives way.
def insertEntry (name : String) (value : α) : List (String × α) → List (String × α)
  | [] => [(name, value)]
  | (other, old) :: rest =>
    if name < other then (name, value) :: (other, old) :: rest
    else if name = other then (name, value) :: rest
    else (other, old) :: insertEntry name value rest

theorem mem_insertEntry {name : String} {value : α} {l : List (String × α)} {e : String × α} :
    e ∈ insertEntry name value l → e = (name, value) ∨ e ∈ l := by
  induction l with
  | nil => simp [insertEntry]
  | cons hd tl ih =>
    obtain ⟨other, old⟩ := hd
    simp only [insertEntry]
    split
    · simp
    · split <;> grind

theorem insertEntry_ascending (name : String) (value : α) {l : List (String × α)}
    (h : l.Pairwise (·.1 < ·.1)) : (insertEntry name value l).Pairwise (·.1 < ·.1) := by
  induction l with
  | nil => simp [insertEntry]
  | cons hd tl ih =>
    obtain ⟨other, old⟩ := hd
    obtain ⟨hd_lt, tl_asc⟩ := List.pairwise_cons.1 h
    simp only [insertEntry]
    split
    · next lt =>
      refine List.pairwise_cons.2 ⟨fun e he => ?_, h⟩
      rcases List.mem_cons.1 he with rfl | he
      · exact lt
      · exact String.lt_trans lt (hd_lt e he)
    · next nlt =>
      split
      · next eq => subst eq; exact List.pairwise_cons.2 ⟨hd_lt, tl_asc⟩
      · next ne =>
        refine List.pairwise_cons.2 ⟨fun e he => ?_, ih tl_asc⟩
        rcases mem_insertEntry he with rfl | he
        · exact Std.lt_of_le_of_ne (String.not_lt.1 nlt) (Ne.symm ne)
        · exact hd_lt e he

def insert (m : NameMap α) (name : String) (value : α) : NameMap α :=
  ⟨insertEntry name value m.toList, insertEntry_ascending name value m.ascending⟩

theorem lookup_cons_ite (name k : String) (v : α) (l : List (String × α)) :
    ((k, v) :: l).lookup name = if name = k then some v else l.lookup name := by
  by_cases h : name = k
  · simp [h]
  · simp [List.lookup_cons, h, beq_false_of_ne h]

theorem lookup_insertEntry (name : String) (value : α) (l : List (String × α)) (other : String) :
    (insertEntry name value l).lookup other =
      if other = name then some value else l.lookup other := by
  induction l with
  | nil => simp [insertEntry, lookup_cons_ite]
  | cons hd tl ih => grind [insertEntry, lookup_cons_ite]

theorem lookup_eq_some_iff {l : List (String × α)} (h : l.Pairwise (·.1 < ·.1)) {name : String}
    {a : α} : l.lookup name = some a ↔ (name, a) ∈ l := by
  induction l with
  | nil => simp
  | cons hd tl ih =>
    obtain ⟨k, v⟩ := hd
    obtain ⟨hd_lt, tl_asc⟩ := List.pairwise_cons.1 h
    rw [lookup_cons_ite, List.mem_cons]
    split
    · next eq =>
      have notMem : (name, a) ∉ tl := fun h => String.lt_irrefl k (eq ▸ hd_lt _ h)
      simp [eq, eq_comm, eq ▸ notMem]
    · next ne => simp [ih tl_asc, ne]

theorem find?_eq_some_iff {m : NameMap α} {name : String} {a : α} :
    m.find? name = some a ↔ (name, a) ∈ m.toList :=
  lookup_eq_some_iff m.ascending

theorem value_unique {m : NameMap α} {name : String} {a b : α} (ha : (name, a) ∈ m.toList)
    (hb : (name, b) ∈ m.toList) : a = b :=
  Option.some.inj ((find?_eq_some_iff.2 ha).symm.trans (find?_eq_some_iff.2 hb))

theorem exists_value_iff {m : NameMap α} {name : String} {a : α} {P : α → Prop}
    (h : (name, a) ∈ m.toList) : (∃ b, (name, b) ∈ m.toList ∧ P b) ↔ P a :=
  ⟨fun ⟨_, hb, hP⟩ => value_unique h hb ▸ hP, fun hP => ⟨a, h, hP⟩⟩

@[simp]
theorem find?_insert (m : NameMap α) (name : String) (value : α) (other : String) :
    (m.insert name value).find? other = if other = name then some value else m.find? other :=
  lookup_insertEntry ..

@[simp]
theorem find?_empty (name : String) : (empty : NameMap α).find? name = none := rfl

-- Of entries with one name the last stays.
def ofList (l : List (String × α)) : NameMap α :=
  l.foldl (fun m e => m.insert e.1 e.2) empty

theorem find?_foldl_insert (m : NameMap α) (l : List (String × α)) (name : String) :
    (l.foldl (fun m e => m.insert e.1 e.2) m).find? name =
      (l.reverse.lookup name).or (m.find? name) := by
  induction l generalizing m with
  | nil => rfl
  | cons e rest ih =>
    obtain ⟨k, v⟩ := e
    rw [List.foldl_cons, ih, find?_insert, List.reverse_cons, List.lookup_append, Option.or_assoc,
      lookup_cons_ite]
    split <;> rfl

theorem find?_ofList (l : List (String × α)) (name : String) :
    (ofList l).find? name = l.reverse.lookup name := by
  rw [ofList, find?_foldl_insert]
  exact Option.or_none

theorem mem_of_mem_foldl_insert {l : List (String × α)} {m : NameMap α} {e : String × α}
    (h : e ∈ (l.foldl (fun m e => m.insert e.1 e.2) m).toList) : e ∈ m.toList ∨ e ∈ l := by
  induction l generalizing m with
  | nil => exact .inl h
  | cons hd tl ih =>
    rcases ih h with h | h
    · rcases mem_insertEntry h with rfl | h <;> simp [*]
    · simp [h]

theorem mem_of_mem_ofList {l : List (String × α)} {e : String × α}
    (h : e ∈ (ofList l).toList) : e ∈ l := by
  rcases mem_of_mem_foldl_insert h with h | h
  · simp [empty] at h
  · exact h

def map (f : String → α → β) (m : NameMap α) : NameMap β :=
  ⟨m.toList.map fun e => (e.1, f e.1 e.2), List.pairwise_map.2 m.ascending⟩

def filter (p : String → α → Bool) (m : NameMap α) : NameMap α :=
  ⟨m.toList.filter fun e => p e.1 e.2, m.ascending.filter _⟩

theorem filter_congr {m : NameMap α} {p q : String → α → Bool}
    (h : ∀ e ∈ m.toList, p e.1 e.2 = q e.1 e.2) : m.filter p = m.filter q :=
  ext (List.filter_congr h)

theorem mem_keys_filter {m : NameMap α} {p : String → α → Bool} {name : String} :
    name ∈ (m.filter p).keys ↔ ∃ a, (name, a) ∈ m.toList ∧ p name a = true := by
  simp [keys, filter]

-- The map with every entry of `n` put over those of `m`.
def overlay (m n : NameMap α) : NameMap α :=
  n.toList.foldl (fun m e => m.insert e.1 e.2) m

theorem insertEntry_of_all_lt {name : String} {value : α} {l : List (String × α)}
    (h : ∀ e ∈ l, e.1 < name) : insertEntry name value l = l ++ [(name, value)] := by
  induction l with
  | nil => rfl
  | cons hd tl ih =>
    have lt := h hd (by simp)
    have nlt : ¬ name < hd.1 := String.lt_asymm lt
    have ne : name ≠ hd.1 := fun e => String.lt_irrefl _ (e ▸ lt)
    simp [insertEntry, nlt, ne, ih fun e he => h e (by simp [he])]

theorem toList_foldl_insert (m : NameMap α) {l : List (String × α)}
    (h : (m.toList ++ l).Pairwise (·.1 < ·.1)) :
    (l.foldl (fun m e => m.insert e.1 e.2) m).toList = m.toList ++ l := by
  induction l generalizing m with
  | nil => simp
  | cons hd tl ih =>
    have step : (m.insert hd.1 hd.2).toList = m.toList ++ [hd] :=
      insertEntry_of_all_lt fun e he => (List.pairwise_append.1 h).2.2 e he hd (by simp)
    rw [List.foldl_cons, ih _ (by rw [step]; simpa using h), step]
    simp

theorem toList_ofList {l : List (String × α)} (h : l.Pairwise (·.1 < ·.1)) :
    (ofList l).toList = l := by
  rw [ofList, toList_foldl_insert empty (by simpa [empty] using h)]; rfl

@[simp]
theorem ofList_toList (m : NameMap α) : ofList m.toList = m :=
  ext (toList_ofList m.ascending)

end NameMap
end RollingUpgrade
