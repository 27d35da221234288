import Mathlib.Data.List.TakeWhile
import RollingUpgrade.Proofs.Text.Words

namespace RollingUpgrade.Text

-- The text does not start with a blank.
def Flush (s : List Char) : Prop := ∀ c ∈ s.head?, isBlank c = false

-- A text that consists of a part with blanks around it, which itself neither starts nor ends with
-- a blank.
inductive Trimmed : List Char → List Char → Prop
  | intro {front part back : List Char} : Blank front → Blank back → Flush part →
    Flush part.reverse → Trimmed (front ++ part ++ back) part

theorem Blank.reverse {b : List Char} (h : Blank b) : Blank b.reverse :=
  fun c hc => h c (List.mem_reverse.mp hc)

theorem dropBlanks_append {b s : List Char} (blank : Blank b) (flush : Flush s) :
    dropBlanks (b ++ s) = s := by
  rw [dropBlanks, List.dropWhile_append_of_pos blank]
  cases s
  case nil      => rfl
  case cons c s => simp [flush c rfl]

theorem Flush.of_append {s t : List Char} (h : Flush (s ++ t)) : Flush s := by
  cases s
  case nil => simp [Flush]
  case cons => exact h

-- Every text has blanks in front of one that does not start with a blank.
theorem exists_dropBlanks (s : List Char) :
    ∃ b, s = b ++ dropBlanks s ∧ Blank b ∧ Flush (dropBlanks s) := by
  refine ⟨s.takeWhile isBlank, List.takeWhile_append_dropWhile.symm, ?blank, ?flush⟩
  case blank => exact fun c => List.mem_takeWhile_imp
  case flush =>
    intro c hc
    have stopped := List.head?_dropWhile_not isBlank s
    simp_all [dropBlanks]

theorem trimmed_trimChars (s : List Char) : Trimmed s (trimChars s) := by
  have ⟨front, split, blank, flush⟩ := exists_dropBlanks s
  have ⟨back, split', blank', flush'⟩ := exists_dropBlanks (dropBlanks s).reverse
  have rest : dropBlanks s = trimChars s ++ back.reverse := by
    simpa [trimChars] using congrArg List.reverse split'
  have parts : s = front ++ trimChars s ++ back.reverse := by
    rw [List.append_assoc, ← rest]
    exact split
  have trimmed : Trimmed (front ++ trimChars s ++ back.reverse) (trimChars s) :=
    .intro blank blank'.reverse (rest ▸ flush).of_append (by simpa [trimChars] using flush')
  rwa [← parts] at trimmed

theorem Trimmed.eq_trimChars {s part : List Char} (h : Trimmed s part) : trimChars s = part := by
  cases h
  case intro front back blank blank' flush flush' =>
    cases part
    case nil =>
      have all : Blank (front ++ back) := List.forall_mem_append.mpr ⟨blank, blank'⟩
      have gone : dropBlanks (front ++ [] ++ back) = [] := by
        simpa using dropBlanks_append all flush
      rw [trimChars, gone]
      rfl
    case cons c part =>
      have flush : Flush (c :: part ++ back) := flush
      have front : dropBlanks (front ++ (c :: part) ++ back) = c :: part ++ back := by
        rw [List.append_assoc, dropBlanks_append blank flush]
      rw [trimChars, front, List.reverse_append, dropBlanks_append blank'.reverse flush',
        List.reverse_reverse]

theorem Trimmed.of_solid {s : List Char} (h : ∀ c ∈ s, isBlank c = false) : Trimmed s s := by
  have none : Blank [] := fun _ h => nomatch h
  have front : Flush s := fun c hc => h c (List.mem_of_mem_head? hc)
  have back : Flush s.reverse :=
    fun c hc => h c (List.mem_reverse.mp (List.mem_of_mem_head? hc))
  simpa using Trimmed.intro none none front back

end RollingUpgrade.Text
