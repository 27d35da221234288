import RollingUpgrade.Proofs.Text.Pieces

namespace RollingUpgrade.Text

def Blank (s : List Char) : Prop := ∀ c ∈ s, isBlank c

-- A word has at least one character, and none of them is blank.
structure IsWord (w : List Char) : Prop where
  nonempty : w ≠ []
  solid : ∀ c ∈ w, isBlank c = false

-- Nothing follows a word, or a blank does.
def Ends (rest : List Char) : Prop := ∀ c ∈ rest.head?, isBlank c

-- A text that consists of words in order, with blanks around them and between them.
inductive Spaced : List Char → List (List Char) → Prop
  | blank {b : List Char} : Blank b → Spaced b []
  | word {b w rest : List Char} {ws : List (List Char)} :
    Blank b → IsWord w → Ends rest → Spaced rest ws → Spaced (b ++ w ++ rest) (w :: ws)

-- The pieces of a text between its blanks that are not empty.
def wordsOf (s : List Char) : List (List Char) := (splitWhere isBlank s).filter (!·.isEmpty)

theorem wordsOf_cons_blank {c : Char} {s : List Char} (h : isBlank c) :
    wordsOf (c :: s) = wordsOf s := by
  simp [wordsOf, splitWhere, h]

theorem wordsOf_append_blank {b s : List Char} (h : Blank b) : wordsOf (b ++ s) = wordsOf s := by
  induction b
  case nil => rfl
  case cons c b hi =>
    have ⟨first, rest⟩ := List.forall_mem_cons.mp h
    rw [List.cons_append, wordsOf_cons_blank first, hi rest]

-- The first piece of a text that goes on after a word is this word.
theorem splitWhere_append_solid {w rest : List Char} (solid : ∀ c ∈ w, isBlank c = false)
    (ends : Ends rest) : ∃ pieces, splitWhere isBlank (w ++ rest) = w :: pieces ∧
      pieces.filter (!·.isEmpty) = wordsOf rest := by
  cases rest
  case nil => exact ⟨[], by rw [List.append_nil, splitWhere_of_whole solid], rfl⟩
  case cons c rest =>
    have blank : isBlank c := ends c rfl
    have split : splitWhere isBlank (w ++ c :: rest) = w :: splitWhere isBlank rest := by
      rw [splitWhere_append_cons blank, splitWhere_of_whole solid]
      rfl
    exact ⟨_, split, (wordsOf_cons_blank blank).symm⟩

theorem wordsOf_append_word {w rest : List Char} (word : IsWord w) (ends : Ends rest) :
    wordsOf (w ++ rest) = w :: wordsOf rest := by
  have ⟨pieces, split, filtered⟩ := splitWhere_append_solid word.solid ends
  rw [wordsOf, split, List.filter_cons_of_pos (by simpa using word.nonempty), filtered]

theorem Spaced.eq_wordsOf {s : List Char} {ws : List (List Char)} (h : Spaced s ws) :
    ws = wordsOf s := by
  induction h
  case blank b h =>
    have gone : wordsOf (b ++ []) = wordsOf [] := wordsOf_append_blank h
    rw [List.append_nil] at gone
    exact gone.symm
  case word b w rest ws blank word ends _ hi =>
    rw [List.append_assoc, wordsOf_append_blank blank, wordsOf_append_word word ends, hi]

theorem isWord_singleton {c : Char} (h : isBlank c = false) : IsWord [c] :=
  ⟨List.cons_ne_nil _ _, List.forall_mem_singleton.mpr h⟩

theorem IsWord.cons {c : Char} {w : List Char} (h : isBlank c = false) (word : IsWord w) :
    IsWord (c :: w) :=
  ⟨List.cons_ne_nil _ _, List.forall_mem_cons.mpr ⟨h, word.solid⟩⟩

-- A character that is put in front goes to the blanks or to the word that the text starts with, or
-- it is a word of its own.
theorem exists_spaced (s : List Char) : ∃ ws, Spaced s ws := by
  induction s
  case nil => exact ⟨[], .blank fun _ h => nomatch h⟩
  case cons c s hi =>
    have ⟨ws, h⟩ := hi
    cases hc : isBlank c
    case true =>
      cases h
      case blank blank => exact ⟨[], .blank (List.forall_mem_cons.mpr ⟨hc, blank⟩)⟩
      case word b w rest ws blank word ends h =>
        have blank : Blank (c :: b) := List.forall_mem_cons.mpr ⟨hc, blank⟩
        exact ⟨w :: ws, .word blank word ends h⟩
    case false =>
      have empty : Blank [] := fun _ h => nomatch h
      cases h
      case blank blank =>
        have ends : Ends s := fun d hd => blank d (List.mem_of_mem_head? hd)
        exact ⟨[[c]], .word empty (isWord_singleton hc) ends (.blank blank)⟩
      case word b w rest ws blank word ends h =>
        cases b
        case nil => exact ⟨(c :: w) :: ws, .word empty (word.cons hc) ends h⟩
        case cons d b =>
          have blank' : isBlank d := blank d List.mem_cons_self
          have ends' : Ends (d :: b ++ w ++ rest) := by simpa [Ends] using blank'
          exact ⟨[c] :: w :: ws,
            .word empty (isWord_singleton hc) ends' (.word blank word ends h)⟩

theorem words_eq_iff {s : String} {ws : List String} :
    words s = ws ↔ Spaced s.toList (ws.map String.toList) := by
  have texts : (words s).map String.toList = wordsOf s.toList := by
    simp [words, wordsOf, Function.comp_def]
  constructor
  · intro h
    have ⟨ws', spaced⟩ := exists_spaced s.toList
    rw [← h, texts, ← spaced.eq_wordsOf]
    exact spaced
  · intro h
    have same : (words s).map String.toList = ws.map String.toList := texts.trans h.eq_wordsOf.symm
    exact (List.map_inj_right fun _ _ => String.toList_inj.mp).mp same

end RollingUpgrade.Text
