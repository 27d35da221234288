import RollingUpgrade.Proofs.Json.Written
import RollingUpgrade.Proofs.Number.Decimal
import RollingUpgrade.Proofs.Text.Trimmed

namespace RollingUpgrade

theorem Text.trimChars_cons {c : Char} {rest : List Char} (h : isBlank c = false) :
    ∃ rest', trimChars (c :: rest) = c :: rest' := by
  have front : dropBlanks (c :: rest) = c :: rest := List.dropWhile_cons_of_neg (by simp [h])
  have back : ∃ l, dropBlanks (rest.reverse ++ [c]) = l ++ [c] := by
    rw [dropBlanks, List.dropWhile_append]
    split
    case isTrue  => exact ⟨[], List.dropWhile_cons_of_neg (by simp [h])⟩
    case isFalse => exact ⟨_, rfl⟩
  obtain ⟨l, hl⟩ := back
  exact ⟨l.reverse, by rw [trimChars, front, List.reverse_cons, hl, List.reverse_concat]⟩

theorem int32?_eq_none {c : Char} {rest : List Char} (minus : c ≠ '-') (plus : c ≠ '+')
    (digit : c.isDigit = false) : int32? (c :: rest) = none := by
  simp only [int32?]
  split
  case h_1 e => exact absurd (List.cons.inj e).left minus
  case h_2 e => exact absurd (List.cons.inj e).left plus
  case h_3   => simp [digit]

namespace CommandResult

variable {r r' : CommandResult}

theorem exitCode_congr (h : r.code = r'.code) : r.exitCode = r'.exitCode := by
  rw [exitCode, exitCode, h]

-- The code is neither left out nor a number that fits.
def Unparsable (r : CommandResult) : Prop :=
  Text.trimChars r.code.toList ≠ [] ∧ int32? (Text.trimChars r.code.toList) = none

theorem Unparsable.exitCode (h : r.Unparsable) : r.exitCode = 1 := by
  rw [CommandResult.exitCode]
  split
  case h_1 blank => exact absurd blank h.left
  case h_2       => rw [h.right]; rfl

theorem unparsable_of_toList {c : Char} {rest : List Char} (h : r.code.toList = c :: rest)
    (blank : Text.isBlank c = false) (minus : c ≠ '-') (plus : c ≠ '+')
    (digit : c.isDigit = false) : r.Unparsable := by
  have ⟨rest', trimmed⟩ : ∃ rest', Text.trimChars (c :: rest) = c :: rest' :=
    Text.trimChars_cons blank
  rw [Unparsable, h, trimmed]
  exact ⟨List.cons_ne_nil _ _, int32?_eq_none minus plus digit⟩

-- The values that a code is taken for as it is: a text, a number, or nothing.
def IsCode : Json → Prop
  | .string _ | .number _ | .null => True
  | _                             => False

theorem isCode_settled {j w : Json} (h : j.settle? = some w) : IsCode w ↔ IsCode j := by
  cases j
  case array  => obtain ⟨_, _, rfl⟩ := Option.map_eq_some_iff.mp h; exact Iff.rfl
  case object => obtain ⟨_, _, rfl⟩ := Option.map_eq_some_iff.mp h; exact Iff.rfl
  case unreadable => nomatch h
  all_goals
    cases h
    exact Iff.rfl

theorem unparsable_of_not_isCode {w : Json} (h : ¬IsCode w) (code : r.code = w.render) :
    r.Unparsable := by
  cases w
  case null | number | string => exact absurd trivial h
  case bool b =>
    cases b
    · exact unparsable_of_toList (c := 'f') (by rw [code]; rfl) rfl (by decide) (by decide) rfl
    · exact unparsable_of_toList (c := 't') (by rw [code]; rfl) rfl (by decide) (by decide) rfl
  case array items =>
    have text : r.code.toList =
        '[' :: (",".intercalate (Json.renderItems items) ++ "]").toList := by
      rw [code, Json.render, String.append_assoc]
      simp
    exact unparsable_of_toList text rfl (by decide) (by decide) rfl
  case object entries =>
    have text : r.code.toList =
        '\x7b' :: (",".intercalate (Json.renderEntries entries) ++ "\x7d").toList := by
      rw [code, Json.render, String.append_assoc]
      simp
    exact unparsable_of_toList text rfl (by decide) (by decide) rfl
  case unreadable =>
    exact unparsable_of_toList (c := 'n') (by rw [code]; rfl) rfl (by decide) (by decide) rfl

theorem exitCode_of_blank (h : Text.trimChars r.code.toList = []) : r.exitCode = 0 := by
  rw [exitCode, h]

theorem exitCode_of_decimal {c : Int32} (h : Decimal (Text.trimChars r.code.toList) c.toInt) :
    r.exitCode = c.toInt := by
  have read : int32? (Text.trimChars r.code.toList) = some c.toInt :=
    int32?_eq_some_iff.mpr ⟨h, fitsSigned_iff_exists.mpr ⟨c, rfl⟩⟩
  rw [exitCode]
  split
  case h_1 blank => exact absurd blank h.ne_nil
  case h_2       => rw [read]; rfl

-- Nobody can read what is no integer in 32 bits.
theorem unparsable_of_not_decimal (solid : Text.trimChars r.code.toList ≠ [])
    (h : ∀ c : Int32, ¬Decimal (Text.trimChars r.code.toList) c.toInt) : r.Unparsable := by
  refine ⟨solid, Option.eq_none_iff_forall_ne_some.mpr fun n read => ?_⟩
  have ⟨written, fits⟩ := int32?_eq_some_iff.mp read
  have ⟨c, value⟩ := fitsSigned_iff_exists.mp fits
  exact h c (value ▸ written)

theorem exitCode_eq_zero_iff : r.exitCode = 0 ↔
    Text.trimChars r.code.toList = [] ∨ Decimal (Text.trimChars r.code.toList) 0 := by
  constructor
  · intro zero
    by_cases blank : Text.trimChars r.code.toList = []
    case pos => exact .inl blank
    case neg =>
      apply Or.inr
      cases read : int32? (Text.trimChars r.code.toList)
      case none   => nomatch zero.symm.trans (Unparsable.exitCode ⟨blank, read⟩)
      case some n =>
        have ⟨written, fits⟩ := int32?_eq_some_iff.mp read
        have ⟨c, value⟩ := fitsSigned_iff_exists.mp fits
        have same := exitCode_of_decimal (value ▸ written)
        rwa [← value, ← same, zero] at written
  · intro h
    cases h
    case inl blank   => exact exitCode_of_blank blank
    case inr written => exact exitCode_of_decimal (c := 0) written

theorem exitCode_ofExit (c : Int32) (stdout stderr : String) :
    (ofExit c.toInt stdout stderr).exitCode = c.toInt := by
  have written : Decimal (toString c.toInt).toList c.toInt := decimal_toString c.toInt
  have trimmed := (Text.Trimmed.of_solid written.solid).eq_trimChars
  exact exitCode_of_decimal (trimmed.symm ▸ written)

theorem ofJson?_toJson (r : CommandResult) : ofJson? r.toJson = some r :=
  rfl

theorem ofJson?_render (r : CommandResult) :
    (Json.parse r.toJson.render).bind ofJson? = some r := by
  have texts : r.toJson =
      Json.texts [("Code", r.code), ("Stdout", r.stdout), ("Stderr", r.stderr)] := rfl
  rw [texts, Json.parse_render_texts]
  rfl

-- Without the blanks around it, a code is a success if it is empty or a zero. An integer in 32 bits
-- counts as it is, and everything else is a failure. So the result that is made for an integer has
-- this integer for its code, and still has it after it is written and read again.
theorem exitCode_reads_code :
    (∀ r : CommandResult, ∃ code, Text.Trimmed r.code.toList code ∧
      (r.exitCode = 0 ↔ code = [] ∨
        ∃ sign ∈ [[], ['+'], ['-']], ∃ k, code = sign ++ List.replicate (k + 1) '0') ∧
      (∀ c : Int32, Decimal code c.toInt → r.exitCode = c.toInt) ∧
      (code ≠ [] → (∀ c : Int32, ¬Decimal code c.toInt) → r.exitCode = 1) ∧
      (∀ n, Decimal code n → (∀ c : Int32, c.toInt ≠ n) → r.exitCode = 1) ∧
      ('.' ∈ code → r.exitCode = 1)) ∧
    ∀ (c : Int32) (stdout stderr : String),
      let r := ofExit c.toInt stdout stderr
      r.exitCode = c.toInt ∧ ofJson? r.toJson = some r ∧
        (Json.parse r.toJson.render).bind ofJson? = some r := by
  constructor
  · intro r
    let code := Text.trimChars r.code.toList
    have garbled (solid : code ≠ []) (h : ∀ c : Int32, ¬Decimal code c.toInt) : r.exitCode = 1 :=
      (unparsable_of_not_decimal solid h).exitCode
    refine ⟨code, Text.trimmed_trimChars _, ?zero, fun c => exitCode_of_decimal, garbled, ?large,
      ?fraction⟩
    case zero => rw [exitCode_eq_zero_iff, Decimal.zero_iff]
    case large =>
      intro n written large
      exact garbled written.ne_nil fun c written' => large c (written'.unique written)
    case fraction =>
      intro point
      exact garbled (List.ne_nil_of_mem point) fun c written => written.point_notMem point
  · intro c stdout stderr
    exact ⟨exitCode_ofExit c stdout stderr, ofJson?_toJson _, ofJson?_render _⟩

-- The first integer that is too large.
theorem exitCode_reads_code_beyond :
    Decimal "2147483648".toList 2147483648 ∧
      (⟨" 2147483648\n", "", ""⟩ : CommandResult).exitCode = 1 := by
  have numeral : IsNumeral "2147483648".toList := isNumeral_iff.mpr (by decide)
  have written : Decimal "2147483648".toList 2147483648 := .unsigned numeral
  have large (c : Int32) : c.toInt ≠ 2147483648 := by
    have := c.toInt_lt
    omega
  have ⟨code, trimmed, _, _, _, beyond, _⟩ := exitCode_reads_code.left ⟨" 2147483648\n", "", ""⟩
  have same : code = "2147483648".toList := trimmed.eq_trimChars.symm
  exact ⟨written, beyond _ (same ▸ written) large⟩

end CommandResult
end RollingUpgrade
