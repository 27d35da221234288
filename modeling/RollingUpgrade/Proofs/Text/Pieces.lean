import RollingUpgrade.Text.Blank

namespace RollingUpgrade.Text

variable {p : Char → Bool} {c : Char} {s t piece : List Char} {ps : List (List Char)}

-- No character of the text separates.
def Whole (p : Char → Bool) (s : List Char) : Prop := ∀ c ∈ s, p c = false

-- A text that consists of pieces in order, with one separator between each two of them.
inductive Pieces (p : Char → Bool) : List Char → List (List Char) → Prop
  | last {s : List Char} : Whole p s → Pieces p s [s]
  | next {s t : List Char} {c : Char} {ps : List (List Char)} :
    Whole p s → p c → Pieces p t ps → Pieces p (s ++ c :: t) (s :: ps)

-- A piece has a separator in front of it, or the text starts with it, and a separator behind it, or
-- the text ends with it.
inductive HasPiece (p : Char → Bool) : List Char → List Char → Prop
  | intro {front piece back : List Char} : (∀ c ∈ front.getLast?, p c) → Whole p piece →
    (∀ c ∈ back.head?, p c) → HasPiece p (front ++ piece ++ back) piece

theorem splitWhere_of_whole (h : Whole p s) : splitWhere p s = [s] := by
  induction s
  case nil => rfl
  case cons c s hi =>
    have ⟨first, rest⟩ := List.forall_mem_cons.mp h
    simp [splitWhere, first, hi rest]

-- The pieces in front of a separator and those behind it do not depend on each other.
theorem splitWhere_append_cons (h : p c) (s t : List Char) :
    splitWhere p (s ++ c :: t) = splitWhere p s ++ splitWhere p t := by
  induction s
  case nil => simp [splitWhere, h]
  case cons d s hi =>
    simp only [List.cons_append, splitWhere, hi]
    cases pieces : splitWhere p s
    case nil  => exact absurd pieces (splitWhere_ne_nil p s)
    case cons => split <;> rfl

theorem Pieces.eq_splitWhere (h : Pieces p s ps) : ps = splitWhere p s := by
  induction h
  case last whole          => exact (splitWhere_of_whole whole).symm
  case next whole sep _ hi => rw [splitWhere_append_cons sep, splitWhere_of_whole whole, hi]; rfl

-- A character that is put in front starts a new piece, or goes to the first one.
theorem exists_pieces (p : Char → Bool) (s : List Char) : ∃ ps, Pieces p s ps := by
  induction s
  case nil => exact ⟨[[]], .last fun _ h => nomatch h⟩
  case cons c s hi =>
    have ⟨ps, h⟩ := hi
    cases hc : p c
    case true  => exact ⟨[] :: ps, .next (s := []) (fun _ h => nomatch h) hc h⟩
    case false =>
      cases h
      case last whole => exact ⟨_, .last (List.forall_mem_cons.mpr ⟨hc, whole⟩)⟩
      case next s t d ps whole sep h =>
        exact ⟨_, .next (s := c :: s) (List.forall_mem_cons.mpr ⟨hc, whole⟩) sep h⟩

theorem pieces_splitWhere (p : Char → Bool) (s : List Char) : Pieces p s (splitWhere p s) := by
  have ⟨_, h⟩ := exists_pieces p s
  exact h.eq_splitWhere ▸ h

theorem splitWhere_eq_iff : splitWhere p s = ps ↔ Pieces p s ps :=
  ⟨fun h => h ▸ pieces_splitWhere p s, fun h => h.eq_splitWhere.symm⟩

-- What follows a piece: nothing, or a separator and the pieces behind it.
inductive Behind (p : Char → Bool) : List Char → List (List Char) → Prop
  | nothing : Behind p [] []
  | separator {t : List Char} {c : Char} {ps : List (List Char)} :
    p c → Pieces p t ps → Behind p (c :: t) ps

theorem Pieces.around {before after : List (List Char)}
    (h : Pieces p s (before ++ piece :: after)) :
    ∃ front back, s = front ++ piece ++ back ∧ (∀ c ∈ front.getLast?, p c) ∧ Whole p piece ∧
      Behind p back after := by
  induction before generalizing s
  case nil =>
    cases h
    case last whole           => exact ⟨[], [], by simp, by simp, whole, .nothing⟩
    case next t c sep whole h => exact ⟨[], c :: t, rfl, by simp, whole, .separator sep h⟩
  case cons first before hi =>
    generalize pieces : first :: before ++ piece :: after = ps at h
    cases h
    case last => simp at pieces
    case next s t c ps _ sep h =>
      have ⟨_, rest⟩ := List.cons.inj pieces
      obtain ⟨front, back, rfl, ends, whole, behind⟩ := hi (rest ▸ h)
      refine ⟨s ++ c :: front, back, by simp, ?_, whole, behind⟩
      cases front
      case nil  => simpa using sep
      case cons => simpa using ends

theorem HasPiece.of_pieces {before after : List (List Char)}
    (h : Pieces p s (before ++ piece :: after)) : HasPiece p s piece := by
  obtain ⟨front, back, rfl, ends, whole, behind⟩ := h.around
  refine .intro ends whole ?_
  cases behind
  case nothing         => simp
  case separator sep _ => simpa using sep

-- A text after a separator, or at the start, has its own pieces.
theorem splitWhere_append_of_ends {front : List Char} (ends : ∀ c ∈ front.getLast?, p c)
    (s : List Char) : ∃ before, splitWhere p (front ++ s) = before ++ splitWhere p s := by
  cases List.eq_nil_or_concat front
  case inl h => exact ⟨[], by simp [h]⟩
  case inr h =>
    obtain ⟨init, c, rfl⟩ := h
    exact ⟨splitWhere p init, by simp [splitWhere_append_cons (ends c (by simp))]⟩

theorem splitWhere_append_of_starts {back : List Char} (whole : Whole p s)
    (starts : ∀ c ∈ back.head?, p c) : ∃ after, splitWhere p (s ++ back) = s :: after := by
  cases back
  case nil         => exact ⟨[], by rw [List.append_nil, splitWhere_of_whole whole]⟩
  case cons c rest =>
    exact ⟨splitWhere p rest,
      by rw [splitWhere_append_cons (starts c rfl), splitWhere_of_whole whole]; rfl⟩

theorem mem_splitWhere_iff : piece ∈ splitWhere p s ↔ HasPiece p s piece := by
  constructor
  · intro h
    have ⟨before, after, split⟩ := List.append_of_mem h
    exact .of_pieces (splitWhere_eq_iff.mp split)
  · intro h
    cases h
    case intro front back ends starts whole =>
      have ⟨before, first⟩ := splitWhere_append_of_ends ends (piece ++ back)
      have ⟨after, second⟩ := splitWhere_append_of_starts whole starts
      rw [List.append_assoc, first, second]
      exact List.mem_append_right _ List.mem_cons_self

end RollingUpgrade.Text
