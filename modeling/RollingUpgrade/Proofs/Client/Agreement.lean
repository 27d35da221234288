import Mathlib.Data.List.TakeWhile
import RollingUpgrade.Client.Checks
import RollingUpgrade.Proofs.Model.Arrangement
import RollingUpgrade.Proofs.Text.Words

namespace RollingUpgrade

namespace Text

-- The first line of a text. It ends at the first line feed, or else with the text.
inductive FirstLine : List Char → List Char → Prop
  | only {line : List Char} : '\n' ∉ line → FirstLine line line
  | followed {line rest : List Char} : '\n' ∉ line → FirstLine (line ++ '\n' :: rest) line

theorem FirstLine.eq_beforeFirst {s line : List Char} (h : FirstLine s line) :
    beforeFirst '\n' s = line := by
  cases h
  case only notMem => exact List.takeWhile_eq_self_iff.mpr (bne_of_notMem notMem)
  case followed rest notMem =>
    rw [beforeFirst, List.takeWhile_append_of_pos (bne_of_notMem notMem)]
    simp

theorem firstLine_beforeFirst (s : List Char) : FirstLine s (beforeFirst '\n' s) := by
  cases split : splitFirst? '\n' s
  case none =>
    have first : FirstLine s s := .only (splitFirst?_eq_none_iff.mp split)
    exact first.eq_beforeFirst.symm ▸ first
  case some sides =>
    have ⟨parts, notMem⟩ := splitFirst?_eq_some_iff.mp split
    have first : FirstLine s sides.1 := parts ▸ .followed notMem
    exact first.eq_beforeFirst.symm ▸ first

theorem words_ofList_eq_iff {line : List Char} {ws : List String} :
    words (.ofList line) = ws ↔ Spaced line (ws.map String.toList) := by
  rw [words_eq_iff, String.toList_ofList]

end Text

namespace Client

-- The third word of the first line of a text. It is empty if the line has fewer words.
inductive ThirdWord (output : String) : String → Prop
  | intro {line : List Char} {words : List String} :
    Text.FirstLine output.toList line → Text.Spaced line (words.map String.toList) →
    ThirdWord output (words[2]?.getD "")

theorem thirdWord_iff {output word : String} : ThirdWord output word ↔ thirdWord output = word := by
  constructor
  · intro h
    have ⟨first, spaced⟩ := h
    rw [thirdWord, first.eq_beforeFirst, Text.words_ofList_eq_iff.mpr spaced]
  · intro h
    exact h ▸ .intro (Text.firstLine_beforeFirst _) (Text.words_ofList_eq_iff.mp rfl)

section

variable {application package v : String} {versions : List String}

theorem eraseReps_cons (v : String) (l : List String) :
    ∃ rest, (v :: l).eraseReps = v :: rest ∧ (rest = [] ↔ ∀ w ∈ l, w = v) := by
  induction l generalizing v
  case nil => exact ⟨[], rfl, by simp⟩
  case cons w l hi =>
    rw [List.eraseReps, PlacedUnit.eraseRepsBy_cons_cons]
    by_cases same : v = w
    case pos =>
      subst same
      have ⟨rest, eq, single⟩ := hi v
      rw [if_pos (beq_self_eq_true v)]
      exact ⟨rest, eq, single.trans (by simp)⟩
    case neg =>
      have ⟨rest, eq, _⟩ := hi w
      rw [if_neg (mt beq_iff_eq.mp same)]
      have more : (w :: l).eraseReps ≠ [] := eq ▸ List.cons_ne_nil w rest
      exact ⟨_, rfl, iff_of_false more fun h => same (h w List.mem_cons_self).symm⟩

theorem distinct_nil : distinct [] = [] := by
  rw [distinct, List.mergeSort_nil]
  rfl

-- Texts that are not all the same leave more than one text.
theorem exists_distinct (some : versions ≠ []) : ∃ v ∈ versions, ∃ rest,
    distinct versions = v :: rest ∧ (rest = [] ↔ ∀ w ∈ versions, w = v) := by
  have mem {w} : w ∈ versions.mergeSort (· ≤ ·) ↔ w ∈ versions := List.mem_mergeSort
  rw [distinct]
  cases sorted : versions.mergeSort (· ≤ ·)
  case nil =>
    have ⟨w, hw⟩ := List.exists_mem_of_ne_nil versions some
    exact absurd (sorted ▸ mem.mpr hw) List.not_mem_nil
  case cons v l =>
    rw [sorted] at mem
    have ⟨rest, eq, single⟩ := eraseReps_cons v l
    refine ⟨v, mem.mp List.mem_cons_self, rest, eq, single.trans ?_⟩
    simp [← mem]

theorem agreement_nil : agreement application package [] =
    .error (.client s!"application {application} has no units") := by
  rw [agreement, distinct_nil]

theorem agreement_eq_ok_iff :
    agreement application package versions = .ok v ↔ versions ≠ [] ∧ ∀ w ∈ versions, w = v := by
  by_cases none : versions = []
  case pos =>
    subst none
    rw [agreement_nil]
    exact iff_of_false nofun fun h => h.left rfl
  case neg =>
    have ⟨first, mem, rest, eq, single⟩ := exists_distinct none
    rw [agreement, eq]
    cases rest
    case nil =>
      refine ⟨fun h => ?_, fun h => congrArg _ (h.right first mem)⟩
      cases h
      exact ⟨none, single.mp rfl⟩
    case cons =>
      refine iff_of_false nofun fun h => ?_
      have same w (hw : w ∈ versions) : w = first := (h.right w hw).trans (h.right first mem).symm
      exact List.cons_ne_nil _ _ (single.mpr same)

theorem agreement_eq_mismatch_iff {p : String} {vs : List String} :
    agreement application package versions = .error (.packageVersionMismatch p vs) ↔
      p = package ∧ vs = versions ∧ ∃ v ∈ versions, ∃ w ∈ versions, v ≠ w := by
  by_cases none : versions = []
  case pos =>
    subst none
    rw [agreement_nil]
    exact iff_of_false nofun fun ⟨_, _, _, mem, _⟩ => List.not_mem_nil mem
  case neg =>
    have ⟨first, mem, rest, eq, single⟩ := exists_distinct none
    rw [agreement, eq]
    cases rest
    case nil =>
      have same := single.mp rfl
      refine iff_of_false nofun fun ⟨_, _, v, hv, w, hw, differ⟩ => ?_
      exact differ ((same v hv).trans (same w hw).symm)
    case cons =>
      have more := mt single.mpr (List.cons_ne_nil _ _)
      have ⟨w, hw, differ⟩ : ∃ w ∈ versions, w ≠ first := by simpa using more
      constructor
      · intro h
        cases h
        exact ⟨rfl, rfl, w, hw, first, mem, differ⟩
      · intro ⟨hp, hvs, _⟩
        subst hp hvs
        rfl

end

end Client
end RollingUpgrade
