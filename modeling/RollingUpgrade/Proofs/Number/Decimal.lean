import RollingUpgrade.Model.Outcome

namespace RollingUpgrade

-- Digits, of which there is at least one.
structure IsNumeral (ds : List Char) : Prop where
  nonempty : ds ≠ []
  digits : ∀ c ∈ ds, c.isDigit

-- The integers that texts stand for in decimal.
inductive Decimal : List Char → Int → Prop
  | unsigned {ds : List Char} : IsNumeral ds → Decimal ds (Nat.ofDigitChars 10 ds 0)
  | plus {ds : List Char} : IsNumeral ds → Decimal ('+' :: ds) (Nat.ofDigitChars 10 ds 0)
  | minus {ds : List Char} : IsNumeral ds → Decimal ('-' :: ds) (-Nat.ofDigitChars 10 ds 0)

variable {s ds : List Char} {n : Int}

theorem fitsSigned_iff_exists : fitsSigned 32 n ↔ ∃ c : Int32, c.toInt = n := by
  have bound : twoTo 31 = 2147483648 := rfl
  simp [fitsSigned, bound]
  constructor
  · rintro ⟨low, high⟩
    exists .ofInt n
    exact Int32.toInt_ofInt_of_le (by omega) (by omega)
  · rintro ⟨c, rfl⟩
    have low := c.le_toInt
    have high := c.toInt_lt
    omega

theorem isNumeral_iff : IsNumeral ds ↔ ¬(ds.isEmpty || !ds.all Char.isDigit) := by
  simp
  exact ⟨fun h => ⟨h.nonempty, h.digits⟩, fun h => ⟨h.left, h.right⟩⟩

namespace IsNumeral

theorem ne_sign (h : IsNumeral (c :: ds)) : c ≠ '-' ∧ c ≠ '+' := by
  have digit := h.digits c List.mem_cons_self
  constructor <;> rintro rfl <;> nomatch digit

theorem ofDigitChars_eq_zero_iff (h : ∀ c ∈ ds, c.isDigit) (k : Nat) :
    Nat.ofDigitChars 10 ds k = 0 ↔ k = 0 ∧ ∀ c ∈ ds, c = '0' := by
  induction ds generalizing k
  case nil => simp
  case cons c ds hi =>
    have ⟨digit, digits⟩ := List.forall_mem_cons.mp h
    have low : 48 ≤ c.toNat := (Char.isDigit_iff_toNat.mp digit).left
    have zero : c.toNat - '0'.toNat = 0 ↔ c = '0' := by
      rw [← Char.toNat_inj]
      change c.toNat - 48 = 0 ↔ c.toNat = 48
      omega
    have lead : 10 * k = 0 ↔ k = 0 := by omega
    rw [Nat.ofDigitChars_cons, hi digits, List.forall_mem_cons, Nat.add_eq_zero_iff, zero, lead,
      and_assoc]

-- Only zeros stand for zero.
theorem eq_zero_iff (h : IsNumeral ds) :
    Nat.ofDigitChars 10 ds 0 = 0 ↔ ∃ k, ds = List.replicate (k + 1) '0' := by
  rw [ofDigitChars_eq_zero_iff h.digits]
  constructor
  · intro ⟨_, zeros⟩
    have length : ds.length - 1 + 1 = ds.length :=
      Nat.sub_add_cancel (List.length_pos_iff.mpr h.nonempty)
    exists ds.length - 1
    rw [length]
    exact List.eq_replicate_of_mem zeros
  · rintro ⟨k, rfl⟩
    exact ⟨rfl, fun _ => List.eq_of_mem_replicate⟩

end IsNumeral

namespace Decimal

theorem minus_iff : Decimal ('-' :: ds) n ↔ IsNumeral ds ∧ -Nat.ofDigitChars 10 ds 0 = n := by
  constructor
  · intro h
    cases h
    case unsigned h => exact absurd rfl h.ne_sign.left
    case minus h    => exact ⟨h, rfl⟩
  · rintro ⟨h, rfl⟩
    exact .minus h

theorem plus_iff : Decimal ('+' :: ds) n ↔ IsNumeral ds ∧ Nat.ofDigitChars 10 ds 0 = n := by
  constructor
  · intro h
    cases h
    case unsigned h => exact absurd rfl h.ne_sign.right
    case plus h     => exact ⟨h, rfl⟩
  · rintro ⟨h, rfl⟩
    exact .plus h

theorem unsigned_iff (minus : ∀ rest, s ≠ '-' :: rest) (plus : ∀ rest, s ≠ '+' :: rest) :
    Decimal s n ↔ IsNumeral s ∧ Nat.ofDigitChars 10 s 0 = n := by
  constructor
  · intro h
    cases h
    case unsigned h => exact ⟨h, rfl⟩
    case plus       => exact absurd rfl (plus _)
    case minus      => exact absurd rfl (minus _)
  · rintro ⟨h, rfl⟩
    exact .unsigned h

theorem ne_nil (h : Decimal s n) : s ≠ [] := by
  cases h
  case unsigned h => exact h.nonempty
  all_goals exact List.cons_ne_nil _ _

theorem unique {m : Int} (h : Decimal s m) (h' : Decimal s n) : m = n := by
  cases h
  case unsigned h =>
    have minus (rest : List Char) : s ≠ '-' :: rest := by
      rintro rfl
      exact h.ne_sign.left rfl
    have plus (rest : List Char) : s ≠ '+' :: rest := by
      rintro rfl
      exact h.ne_sign.right rfl
    exact ((unsigned_iff minus plus).mp h').right
  case plus  => exact (plus_iff.mp h').right
  case minus => exact (minus_iff.mp h').right

-- Zero is written with zeros, as many as one likes, and with any sign.
theorem zero_iff :
    Decimal s 0 ↔ ∃ sign ∈ [[], ['+'], ['-']], ∃ k, s = sign ++ List.replicate (k + 1) '0' := by
  have zeros (k : Nat) : IsNumeral (List.replicate (k + 1) '0') :=
    ⟨nofun, fun c hc => List.eq_of_mem_replicate hc ▸ rfl⟩
  have value (k : Nat) : Nat.ofDigitChars 10 (List.replicate (k + 1) '0') 0 = 0 :=
    (zeros k).eq_zero_iff.mpr ⟨k, rfl⟩
  constructor
  · intro h
    generalize zero : (0 : Int) = n at h
    cases h
    case unsigned h => exact ⟨[], by simp, h.eq_zero_iff.mp (by omega)⟩
    case plus h =>
      have ⟨k, hk⟩ := h.eq_zero_iff.mp (by omega)
      exact ⟨['+'], by simp, k, congrArg _ hk⟩
    case minus h =>
      have ⟨k, hk⟩ := h.eq_zero_iff.mp (by omega)
      exact ⟨['-'], by simp, k, congrArg _ hk⟩
  · rintro ⟨sign, known, k, rfl⟩
    simp only [List.mem_cons, List.not_mem_nil, or_false] at known
    rcases known with rfl | rfl | rfl
    · simpa [value] using Decimal.unsigned (zeros k)
    · simpa [value] using Decimal.plus (zeros k)
    · simpa [value] using Decimal.minus (zeros k)

theorem mem_cases (h : Decimal s n) {c : Char} (hc : c ∈ s) : c.isDigit ∨ c = '+' ∨ c = '-' := by
  cases h
  case unsigned h => exact .inl (h.digits c hc)
  case plus h =>
    cases hc
    case head    => exact .inr (.inl rfl)
    case tail hc => exact .inl (h.digits c hc)
  case minus h =>
    cases hc
    case head    => exact .inr (.inr rfl)
    case tail hc => exact .inl (h.digits c hc)

theorem solid (h : Decimal s n) : ∀ c ∈ s, Text.isBlank c = false := by
  intro c hc
  cases h.mem_cases hc
  case inl digit =>
    have bounds : 48 ≤ c.toNat ∧ c.toNat ≤ 57 := Char.isDigit_iff_toNat.mp digit
    simp [Text.isBlank]
    omega
  case inr sign => rcases sign with rfl | rfl <;> rfl

theorem point_notMem (h : Decimal s n) : '.' ∉ s :=
  fun hc => by simpa using h.mem_cases hc

end Decimal

-- What is read as an integer stands for it and is not too large or small.
theorem int32?_eq_some_iff : int32? s = some n ↔ Decimal s n ∧ fitsSigned 32 n := by
  have value (ds : List Char) : ds.foldl (fun n c => n * 10 + (c.toNat - '0'.toNat)) 0 =
      Nat.ofDigitChars 10 ds 0 := by
    simp only [Nat.ofDigitChars_eq_foldl, Nat.mul_comm]
  have checked {bad : Bool} {v : Int} :
      (if bad then none else if fitsSigned 32 v then some v else none) = some n ↔
        (¬bad ∧ v = n) ∧ fitsSigned 32 n := by
    grind
  simp only [int32?, value, checked, ← isNumeral_iff]
  refine and_congr_left fun _ => ?_
  split
  case h_1 ds            => rw [Decimal.minus_iff, Int.neg_one_mul]
  case h_2 ds            => rw [Decimal.plus_iff, Int.one_mul]
  case h_3 ds minus plus => rw [Decimal.unsigned_iff minus plus, Int.one_mul]

theorem isNumeral_toDigits (n : Nat) : IsNumeral (Nat.toDigits 10 n) :=
  ⟨Nat.toDigits_ne_nil, fun _ => Nat.isDigit_of_mem_toDigits (by decide) (by decide)⟩

theorem decimal_toString (n : Int) : Decimal (toString n).toList n := by
  rw [Int.toString_eq_repr, Int.repr_eq_if]
  split
  case isTrue h =>
    have written := Decimal.unsigned (isNumeral_toDigits n.toNat)
    rw [Nat.ofDigitChars_ten_toDigits, Int.toNat_of_nonneg h] at written
    simpa using written
  case isFalse h =>
    have written := Decimal.minus (isNumeral_toDigits (-n).toNat)
    rw [Nat.ofDigitChars_ten_toDigits, Int.toNat_of_nonneg (by omega), Int.neg_neg] at written
    simpa using written

end RollingUpgrade
