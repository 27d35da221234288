import RollingUpgrade.Log.Settings
import RollingUpgrade.Proofs.NameMap
import RollingUpgrade.Proofs.Text.Pieces
import RollingUpgrade.Proofs.Text.Trimmed

namespace RollingUpgrade.Log

open Text

variable {α : Type}

-- A text that, blanks around it and the case of Latin letters aside, is a name of something.
inductive Spells (names : List (String × α)) : String → α → Prop
  | intro {text name : String} {part : List Char} {a : α} : Trimmed text.toList part →
    name.toList = part.map Char.toLower → (name, a) ∈ names → Spells names text a

-- All names of levels, and all names of formats.
def Level.names : List (String × Level) := all.map (fun l => (l.name, l)) ++ aliases

def Format.names : List (String × Format) := all.map (fun f => (f.name, f)) ++ aliases

theorem find?_name (l : List α) (name : α → String) (s : String) :
    l.find? (name · == s) = (l.map fun a => (name a, a)).lookup s := by
  induction l
  case nil         => rfl
  case cons a l hi => rw [List.find?_cons, List.map_cons, List.lookup_cons, hi, BEq.comm]

theorem spells_iff {names : List (String × α)} {s : String} {a : α} :
    Spells names s a ↔ (word s, a) ∈ names := by
  have chars : (word s).toList = (trimChars s.toList).map Char.toLower := by
    rw [word, lowerLatin, String.toList_map, trim, String.toList_ofList]
  constructor
  · intro h
    cases h
    case intro name part trimmed letters mem =>
      have same : word s = name := by
        rw [← String.toList_inj, chars, letters, trimmed.eq_trimChars]
      exact same ▸ mem
  · exact fun mem => .intro (trimmed_trimChars _) chars mem

theorem Level.ofName?_eq_some_iff {s : String} {l : Level} :
    ofName? s = some l ↔ Spells names s l := by
  rw [spells_iff, ← NameMap.lookup_eq_some_iff_mem (by decide), names, List.lookup_append,
    ← find?_name]
  rfl

theorem Format.ofName?_eq_some_iff {s : String} {f : Format} :
    ofName? s = some f ↔ Spells names s f := by
  rw [spells_iff, ← NameMap.lookup_eq_some_iff_mem (by decide), names, List.lookup_append,
    ← find?_name]
  rfl

instance : Std.IsLinearOrder Level where
  le_refl _ := Nat.le_refl _
  le_trans _ _ _ := Nat.le_trans
  le_antisymm _ _ h h' := Level.rank_injective (Nat.le_antisymm h h')
  le_total _ _ := Nat.le_total _ _

theorem Level.min_def (a b : Level) : min a b = if a ≤ b then a else b := rfl

instance : Std.LawfulOrderMin Level where
  min_eq_or a b := by
    rw [Level.min_def]
    split
    case isTrue  => exact .inl rfl
    case isFalse => exact .inr rfl
  le_min_iff a b c := by
    rw [Level.min_def]
    split
    case isTrue h  => exact ⟨fun ha => ⟨ha, Std.le_trans ha h⟩, fun ha => ha.left⟩
    case isFalse h =>
      have h : c ≤ b := Std.le_of_not_ge h
      exact ⟨fun ha => ⟨Std.le_trans ha h, ha⟩, fun ha => ha.right⟩

-- What ends the names in a list of directives.
def separates (c : Char) : Bool := c == ',' || c == '='

-- A piece of the list of directives names the level.
inductive Names (directives : String) (l : Level) : Prop
  | intro {piece : List Char} : HasPiece separates directives.toList piece →
    Spells Level.names (.ofList piece) l → Names directives l

structure MostVerbose (directives : String) (l : Level) : Prop where
  named : Names directives l
  least : ∀ l', Names directives l' → l ≤ l'

namespace Settings

-- The levels that the pieces of a list of directives name, in order.
def levelsIn (directives : String) : List Level :=
  (splitWhere separates directives.toList).filterMap fun piece => Level.ofName? (.ofList piece)

theorem mem_levelsIn {directives : String} {l : Level} :
    l ∈ levelsIn directives ↔ Names directives l := by
  simp only [levelsIn, List.mem_filterMap, mem_splitWhere_iff, Level.ofName?_eq_some_iff]
  constructor
  · exact fun ⟨_, has, spells⟩ => .intro has spells
  · exact fun ⟨has, spells⟩ => ⟨_, has, spells⟩

theorem mostVerbose?_eq (directives : String) :
    mostVerbose? directives = (levelsIn directives).min? :=
  rfl

theorem mostVerbose?_eq_some_iff {directives : String} {l : Level} :
    mostVerbose? directives = some l ↔ MostVerbose directives l := by
  simp only [mostVerbose?_eq, List.min?_eq_some_iff, mem_levelsIn]
  exact ⟨fun ⟨named, least⟩ => ⟨named, least⟩, fun ⟨named, least⟩ => ⟨named, least⟩⟩

theorem mostVerbose?_eq_none_iff {directives : String} :
    mostVerbose? directives = none ↔ ∀ l, ¬Names directives l := by
  simp only [mostVerbose?_eq, List.min?_eq_none_iff, List.eq_nil_iff_forall_not_mem, mem_levelsIn]

end Settings
end RollingUpgrade.Log
