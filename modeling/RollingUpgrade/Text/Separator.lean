import RollingUpgrade.Text.Blank

namespace RollingUpgrade.Text

-- The part before the first `sep`; all of a text without one.
def beforeFirst (sep : Char) (s : List Char) : List Char := s.takeWhile (· != sep)

-- The part after the last `sep`; all of a text without one.
def afterLast (sep : Char) (s : List Char) : List Char :=
  (s.reverse.takeWhile (· != sep)).reverse

theorem sep_notMem_beforeFirst (sep : Char) (s : List Char) : sep ∉ beforeFirst sep s := by
  induction s with
  | nil => simp [beforeFirst]
  | cons c rest ih =>
    by_cases h : c = sep
    · simp [beforeFirst, h]
    · simp only [beforeFirst] at ih ⊢
      simp [h, ih, Ne.symm h]

theorem sep_notMem_afterLast (sep : Char) (s : List Char) : sep ∉ afterLast sep s := by
  simpa [afterLast, beforeFirst] using sep_notMem_beforeFirst sep s.reverse

theorem afterLast_suffix (sep : Char) (s : List Char) : afterLast sep s <:+ s := by
  simpa [afterLast, List.reverse_suffix] using
    List.reverse_suffix.2 (List.takeWhile_prefix (l := s.reverse) (· != sep))

theorem bne_of_notMem {sep : Char} {s : List Char} (h : sep ∉ s) : ∀ c ∈ s, (c != sep) = true := by
  simp only [bne_iff_ne]
  exact fun c mem same => h (same ▸ mem)

theorem afterLast_append {sep : Char} (s : List Char) {t : List Char} (h : sep ∉ t) :
    afterLast sep (s ++ t) = afterLast sep s ++ t := by
  have passed := bne_of_notMem (mt List.mem_reverse.1 h)
  simp [afterLast, List.takeWhile_append_of_pos passed]

theorem afterLast_concat (sep : Char) (s : List Char) : afterLast sep (s ++ [sep]) = [] := by
  simp [afterLast]

theorem dropWhile_eq_cons {sep c : Char} {s after : List Char}
    (h : s.dropWhile (· != sep) = c :: after) : c = sep := by
  have stopped := List.head?_dropWhile_not (· != sep) s
  simpa [h] using stopped

theorem exists_append_afterLast (sep : Char) (s : List Char) :
    ∃ before, s = before ++ afterLast sep s ∧ (before = [] ∨ ∃ init, before = init ++ [sep]) := by
  have parts := List.takeWhile_append_dropWhile (p := (· != sep)) (l := s.reverse)
  refine ⟨(s.reverse.dropWhile (· != sep)).reverse, ?split, ?ends⟩
  case split => rw [afterLast, ← List.reverse_append, parts, List.reverse_reverse]
  case ends =>
    cases h : s.reverse.dropWhile (· != sep)
    case nil => exact .inl rfl
    case cons c rest =>
      have found : c = sep := dropWhile_eq_cons h
      exact .inr ⟨rest.reverse, by simp [found]⟩

def occurs (needle : List Char) : List Char → Bool
  | [] => needle.isEmpty
  | c :: rest => needle.isPrefixOf (c :: rest) || occurs needle rest

-- The two sides of the first `sep`, if there is one.
def splitFirst? (sep : Char) (s : List Char) : Option (List Char × List Char) :=
  match s.dropWhile (· != sep) with
  | [] => none
  | _ :: after => some (beforeFirst sep s, after)

theorem splitFirst?_eq_none_iff {sep : Char} {s : List Char} :
    splitFirst? sep s = none ↔ sep ∉ s := by
  have passed : s.dropWhile (· != sep) = [] ↔ sep ∉ s := by
    induction s with
    | nil => simp
    | cons c rest ih =>
      by_cases h : c = sep
      · simp [h]
      · simp [h, ih, Ne.symm h]
  rw [← passed, splitFirst?]
  split <;> simp_all

theorem splitFirst?_eq_some_iff {sep : Char} {s before after : List Char} :
    splitFirst? sep s = some (before, after) ↔ s = before ++ sep :: after ∧ sep ∉ before := by
  constructor
  · intro h
    cases dropped : s.dropWhile (· != sep)
    case nil => simp [splitFirst?, dropped] at h
    case cons c rest =>
      have ⟨first, last⟩ : beforeFirst sep s = before ∧ rest = after := by
        simpa [splitFirst?, dropped] using h
      have parts := List.takeWhile_append_dropWhile (p := (· != sep)) (l := s)
      have found : c = sep := dropWhile_eq_cons dropped
      rw [dropped, found, last] at parts
      exact ⟨first ▸ parts.symm, first ▸ sep_notMem_beforeFirst sep s⟩
  · intro ⟨split, notMem⟩
    have passed := bne_of_notMem notMem
    simp [splitFirst?, beforeFirst, split, List.dropWhile_append_of_pos passed,
      List.takeWhile_append_of_pos passed]

-- The lines of a text. A line ends with a line feed, which may follow a carriage return.
def lines (s : String) : List String :=
  let pieces := splitWhere (· == '\n') s.toList
  let ended := pieces.dropLast.map fun piece =>
    match piece.reverse with
    | '\r' :: rest => rest.reverse
    | _ => piece
  let last := pieces.getLast?.filter (!·.isEmpty)
  (ended ++ last.toList).map .ofList

end RollingUpgrade.Text
