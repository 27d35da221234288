import RollingUpgrade.Path
import RollingUpgrade.Proofs.Text.Pieces

namespace RollingUpgrade.Path

open Text

-- A name that an entry of a directory can have.
structure Plain (name : List Char) : Prop where
  nonempty : name ≠ []
  undivided : '/' ∉ name
  not_here : name ≠ ['.']
  not_up : name ≠ ['.', '.']

-- What may follow the last component of a path: slashes, of which each may precede a point.
inductive Trailing : List Char → Prop
  | nothing : Trailing []
  | slash {rest : List Char} : Trailing rest → Trailing ('/' :: rest)
  | point {rest : List Char} : Trailing rest → Trailing ('/' :: '.' :: rest)

-- A path of which the last component is a plain one.
inductive EndsIn : List Char → List Char → Prop
  | intro {front name back : List Char} : (∀ c ∈ front.getLast?, c = '/') → Plain name →
    Trailing back → EndsIn (front ++ name ++ back) name

abbrev isSlash (c : Char) : Bool := c == '/'

-- Whether a piece between slashes is a component.
def isComponent (piece : List Char) : Bool := piece != [] && piece != ['.']

theorem components_eq (path : String) :
    components path = ((splitWhere isSlash path.toList).filter isComponent).map .ofList := by
  rw [components, List.filter_map]
  congr
  funext piece
  rw [Bool.eq_iff_iff]
  simp [isComponent, ← String.toList_inj]

theorem whole_isSlash_iff {s : List Char} : Whole isSlash s ↔ '/' ∉ s := by
  simp [Whole, List.forall_mem_ne']

theorem eq_of_not_isComponent {piece : List Char} (h : !isComponent piece) :
    piece = [] ∨ piece = ['.'] := by
  simpa [isComponent] using h

theorem trailing_of_pieces {s : List Char} {ps : List (List Char)} (h : Pieces isSlash s ps)
    (idle : ∀ piece ∈ ps, !isComponent piece) : Trailing ('/' :: s) := by
  induction h
  case last s _ =>
    cases eq_of_not_isComponent (idle s (by simp))
    case inl h => exact h ▸ .slash .nothing
    case inr h => exact h ▸ .point .nothing
  case next s t c ps _ slash _ hi =>
    have ⟨first, rest⟩ := List.forall_mem_cons.mp idle
    have slash : c = '/' := by simpa using slash
    subst slash
    cases eq_of_not_isComponent first
    case inl h => exact h ▸ .slash (hi rest)
    case inr h => exact h ▸ .point (hi rest)

theorem trailing_of_behind {back : List Char} {after : List (List Char)}
    (h : Behind isSlash back after) (idle : ∀ piece ∈ after, !isComponent piece) :
    Trailing back := by
  cases h
  case nothing => exact .nothing
  case separator slash pieces =>
    have slash := eq_of_beq slash
    exact slash ▸ trailing_of_pieces pieces idle

-- A piece in front of what leads nowhere is the last one that may be a component.
theorem splitWhere_append_trailing {s back : List Char} (whole : Whole isSlash s)
    (h : Trailing back) :
    ∃ after, splitWhere isSlash (s ++ back) = s :: after ∧ ∀ piece ∈ after, !isComponent piece := by
  induction h generalizing s
  case nothing => exact ⟨[], by simp [splitWhere_of_whole whole], nofun⟩
  case slash rest _ hi =>
    have ⟨after, split, idle⟩ := hi (s := []) nofun
    refine ⟨[] :: after, ?_, List.forall_mem_cons.mpr ⟨rfl, idle⟩⟩
    rw [splitWhere_append_cons (by rfl), splitWhere_of_whole whole]
    exact congrArg (s :: ·) split
  case point rest _ hi =>
    have ⟨after, split, idle⟩ := hi (s := ['.']) (by simp [Whole])
    refine ⟨['.'] :: after, ?_, List.forall_mem_cons.mpr ⟨rfl, idle⟩⟩
    rw [splitWhere_append_cons (by rfl), splitWhere_of_whole whole]
    exact congrArg (s :: ·) split

theorem getLast?_filter_eq_some_iff {α : Type} {l : List α} {p : α → Bool} {a : α} :
    (l.filter p).getLast? = some a ↔
      p a ∧ ∃ before after, l = before ++ a :: after ∧ ∀ b ∈ after, !p b := by
  constructor
  · intro h
    have ⟨_, h⟩ := List.getLast?_eq_some_iff.mp h
    have ⟨front, back, split, _, h⟩ := List.filter_eq_append_iff.mp h
    have ⟨before, after, split', _, ha, h⟩ := List.filter_eq_cons_iff.mp h
    exact ⟨ha, front ++ before, after, by simp [split, split'], by simpa using h⟩
  · intro ⟨ha, before, after, split, idle⟩
    have none : after.filter p = [] := by simpa using idle
    simp [split, ha, none]

-- The last component of a path, which may be the one that leads upwards.
theorem getLast?_components_eq_some_iff (path : String) (name : List Char) :
    (components path).getLast? = some (.ofList name) ↔
      isComponent name ∧ ∃ front back, path.toList = front ++ name ++ back ∧
        (∀ c ∈ front.getLast?, c = '/') ∧ Whole isSlash name ∧ Trailing back := by
  have texts : (components path).getLast? = some (.ofList name) ↔
      ((splitWhere isSlash path.toList).filter isComponent).getLast? = some name := by
    rw [components_eq, List.getLast?_map, Option.map_eq_some_iff]
    simp only [String.ofList_inj, exists_eq_right]
  rw [texts, getLast?_filter_eq_some_iff]
  apply and_congr_right
  intro _
  constructor
  · intro ⟨before, after, split, idle⟩
    have ⟨front, back, parts, ends, whole, behind⟩ := (splitWhere_eq_iff.mp split).around
    exact ⟨front, back, parts, by simpa using ends, whole, trailing_of_behind behind idle⟩
  · intro ⟨front, back, parts, ends, whole, trailing⟩
    have ends : ∀ c ∈ front.getLast?, isSlash c := by simpa using ends
    have ⟨before, first⟩ := splitWhere_append_of_ends ends (name ++ back)
    have ⟨after, second, idle⟩ := splitWhere_append_trailing whole trailing
    exact ⟨before, after, by rw [parts, List.append_assoc, first, second], idle⟩

theorem fileName?_eq_some_iff {path name : String} :
    fileName? path = some name ↔ EndsIn path.toList name.toList := by
  have last := getLast?_components_eq_some_iff path name.toList
  rw [String.ofList_toList] at last
  have up : name ≠ ".." ↔ name.toList ≠ ['.', '.'] := by simp [← String.toList_inj]
  rw [fileName?, Option.filter_eq_some_iff, last, bne_iff_ne, up]
  constructor
  · intro ⟨⟨component, front, back, parts, ends, whole, trailing⟩, notUp⟩
    have ⟨nonempty, notHere⟩ : name.toList ≠ [] ∧ name.toList ≠ ['.'] := by
      simpa [isComponent] using component
    have plain : Plain name.toList := ⟨nonempty, whole_isSlash_iff.mp whole, notHere, notUp⟩
    exact parts ▸ .intro ends plain trailing
  · intro h
    generalize name.toList = name, path.toList = path at h
    cases h
    case intro front back ends trailing plain =>
      have whole : Whole isSlash name := whole_isSlash_iff.mpr plain.undivided
      have component : isComponent name := by
        simpa [isComponent] using ⟨plain.nonempty, plain.not_here⟩
      exact ⟨⟨component, front, back, rfl, ends, whole, trailing⟩, plain.not_up⟩

theorem fileName?_eq_none_iff {path : String} :
    fileName? path = none ↔ ∀ name, ¬EndsIn path.toList name := by
  rw [Option.eq_none_iff_forall_ne_some]
  constructor
  · intro h name ends
    have ends : EndsIn path.toList (String.ofList name).toList := by simpa using ends
    exact h _ (fileName?_eq_some_iff.mpr ends)
  · exact fun h name some => h _ (fileName?_eq_some_iff.mp some)

end RollingUpgrade.Path
