import Mathlib.Data.List.Basic
import RollingUpgrade.Proofs.Number.Decimal
import RollingUpgrade.Proofs.Pids.Faults
import RollingUpgrade.Proofs.Rendition
import RollingUpgrade.Proofs.Text.Pieces

namespace RollingUpgrade

open Document

namespace Text

variable {s t ds : List Char} {c : Char}

-- The numbers that a text tells of, digit by digit.
def numeralsIn (s : List Char) : List (List Char) :=
  (splitWhere (!·.isDigit) s).filter (!·.isEmpty)

theorem numeralsIn_append_cons (h : c.isDigit = false) (s t : List Char) :
    numeralsIn (s ++ c :: t) = numeralsIn s ++ numeralsIn t := by
  rw [numeralsIn, splitWhere_append_cons (by simp [h]), List.filter_append]
  rfl

theorem numeralsIn_cons (h : c.isDigit = false) (s : List Char) :
    numeralsIn (c :: s) = numeralsIn s :=
  numeralsIn_append_cons h [] s

theorem numeralsIn_append (h : s.any Char.isDigit = false) :
    numeralsIn (s ++ t) = numeralsIn t := by
  induction s
  case nil => rfl
  case cons c s hi =>
    have ⟨first, rest⟩ := Bool.or_eq_false_iff.mp h
    rw [List.cons_append, numeralsIn_cons first, hi rest]

theorem numeralsIn_numeral (h : IsNumeral ds) : numeralsIn ds = [ds] := by
  have whole : Whole (!·.isDigit) ds := fun c hc => by simp [h.digits c hc]
  rw [numeralsIn, splitWhere_of_whole whole]
  simp [h.nonempty]

theorem toList_toString (n : Nat) : (toString n).toList = Nat.toDigits 10 n := by
  rw [Nat.toString_eq_repr, Nat.toList_repr]

theorem numeralsIn_toString (n : Nat) : numeralsIn (toString n).toList = [Nat.toDigits 10 n] := by
  rw [toList_toString, numeralsIn_numeral (isNumeral_toDigits n)]

theorem numeralsIn_enumeration (ns : List Nat) :
    numeralsIn (", ".intercalate (ns.map toString)).toList = ns.map (Nat.toDigits 10) := by
  induction ns
  case nil => rfl
  case cons n ns hi =>
    by_cases h : ns = []
    case pos =>
      rw [h, List.map_singleton, String.intercalate_singleton, numeralsIn_toString]
      rfl
    case neg =>
      have rest : ns.map toString ≠ [] := by simpa using h
      have letters : (", ".intercalate ((n :: ns).map toString)).toList =
          (toString n).toList ++ ',' :: ' ' :: (", ".intercalate (ns.map toString)).toList := by
        rw [List.map_cons, String.intercalate_cons_of_ne_nil rest]
        simp
      rw [letters, numeralsIn_append_cons rfl, numeralsIn_cons rfl, numeralsIn_toString, hi]
      rfl

end Text

namespace PidExpectation

-- The data that stands for an expectation: a truth value, a count in 64 bits, or a list of these.
inductive Denotes : Json → PidExpectation → Prop
  | running (some : Bool) : Denotes (.bool some) (.running some)
  | exact {n : Nat} : n < twoTo 64 → Denotes (.nat n) (.exact n)
  | oneOf {counts : List Nat} : (∀ n ∈ counts, n < twoTo 64) →
    Denotes (.array (counts.map .nat)) (.oneOf counts)

-- The data that stands for none.
inductive Unfit : Json → Prop
  | null : Unfit .null
  | negative {i : Int} : i < 0 → Unfit (.int i)
  | large {i : Int} : twoTo 64 ≤ i → Unfit (.int i)
  | float {x : Binary64} : Unfit (.number (.float x))
  | string {s : String} : Unfit (.string s)
  | mixed {items : List Json} {item : Json} : item ∈ items → (∀ n < twoTo 64, item ≠ .nat n) →
    Unfit (.array items)
  | object {entries : List (String × Json)} : Unfit (.object entries)
  | unreadable : Unfit .unreadable

-- Whether words for an expectation admit a count. The words for any number at all start with an a,
-- all others tell the numbers that are accepted.
def admits (words : List Char) (count : Nat) : Bool :=
  if words.head? = some 'a' then 1 ≤ count
  else (Text.numeralsIn words).contains (Nat.toDigits 10 count)

variable {j : Json} {e e' : PidExpectation} {n : Nat} {items : List Json} {counts : List Nat}

theorem count?_eq_some_iff : count? j = some n ↔ j = .nat n ∧ n < twoTo 64 := by
  constructor
  · intro h
    cases j
    case number number =>
      cases number
      case float => cases h
      case int i =>
        simp only [count?, Option.ite_none_right_eq_some, Option.some.injEq, fitsUnsigned_iff] at h
        obtain ⟨⟨sign, small⟩, rfl⟩ := h
        exact ⟨by rw [Json.nat, Int.toNat_of_nonneg sign], by omega⟩
    all_goals cases h
  · rintro ⟨rfl, small⟩
    have fits : fitsUnsigned 64 n := fitsUnsigned_iff.mpr ⟨by omega, by omega⟩
    simp [count?, Json.nat, fits]

theorem mapM_count?_eq_some_iff :
    items.mapM count? = some counts ↔ items = counts.map .nat ∧ ∀ n ∈ counts, n < twoTo 64 := by
  induction items generalizing counts
  case nil => cases counts <;> simp
  case cons j items hi =>
    simp only [List.mapM_cons, Option.bind_eq_bind, Option.bind_eq_some_iff, Option.pure_def,
      Option.some.injEq, count?_eq_some_iff, hi]
    constructor
    · rintro ⟨n, ⟨rfl, small⟩, ns, ⟨rfl, smalls⟩, rfl⟩
      exact ⟨rfl, List.forall_mem_cons.mpr ⟨small, smalls⟩⟩
    · rintro ⟨same, smalls⟩
      cases counts
      case nil => cases same
      case cons n ns =>
        obtain ⟨first, rest⟩ := List.cons.inj same
        obtain ⟨small, smalls⟩ := List.forall_mem_cons.mp smalls
        exact ⟨n, ⟨first, small⟩, ns, ⟨rest, smalls⟩, rfl⟩

theorem denotes_of_ofJson? (h : ofJson? j = some e) : Denotes j e := by
  cases j
  case bool some =>
    cases h
    exact .running some
  case number number =>
    obtain ⟨n, counted, rfl⟩ := Option.map_eq_some_iff.mp h
    have ⟨same, small⟩ := count?_eq_some_iff.mp counted
    exact same ▸ .exact small
  case array items =>
    obtain ⟨counts, counted, rfl⟩ := Option.map_eq_some_iff.mp h
    obtain ⟨rfl, small⟩ := mapM_count?_eq_some_iff.mp counted
    exact .oneOf small
  all_goals nomatch h

theorem ofJson?_number (number : Json.Number) :
    ofJson? (.number number) = (count? (Json.number number)).map .exact :=
  rfl

theorem Denotes.ofJson?_eq (h : Denotes j e) : ofJson? j = some e := by
  cases h
  case running some => rfl
  case exact n small =>
    have counted : count? (Json.nat n) = some n := count?_eq_some_iff.mpr ⟨rfl, small⟩
    rw [Json.nat, ofJson?_number, ← Json.nat, counted]
    rfl
  case oneOf counts small =>
    have counted : (counts.map Json.nat).mapM count? = some counts :=
      mapM_count?_eq_some_iff.mpr ⟨rfl, small⟩
    exact congrArg (Option.map PidExpectation.oneOf) counted

theorem decode?_eq_some_iff : decode? j = some e ↔ Denotes j e :=
  ⟨denotes_of_ofJson?, Denotes.ofJson?_eq⟩

theorem Denotes.toJson_eq (h : Denotes j e) : e.toJson = j := by
  cases h <;> rfl

theorem Unfit.not_denotes (h : Unfit j) : ¬Denotes j e := by
  intro denotes
  cases denotes
  case running => nomatch h
  case exact n small =>
    cases h
    case negative sign => omega
    case large large   => omega
  case oneOf counts small =>
    cases h
    case mixed item odd mem =>
      obtain ⟨n, counted, rfl⟩ := List.mem_map.mp mem
      exact odd n (small n counted) rfl

-- Data that stands for no expectation is unfit in one of the ways.
theorem unfit_or_denotes (j : Json) : Unfit j ∨ ∃ e, Denotes j e := by
  cases j
  case null       => exact .inl .null
  case bool some  => exact .inr ⟨_, .running some⟩
  case string     => exact .inl .string
  case object     => exact .inl .object
  case unreadable => exact .inl .unreadable
  case number number =>
    cases number
    case float => exact .inl .float
    case int i =>
      by_cases sign : 0 ≤ i
      case neg => exact .inl (.negative (by omega))
      case pos =>
        obtain ⟨n, rfl⟩ := Int.eq_ofNat_of_zero_le sign
        by_cases small : n < twoTo 64
        case pos => exact .inr ⟨_, .exact small⟩
        case neg => exact .inl (.large (by omega))
  case array items =>
    by_cases all : ∀ item ∈ items, ∃ n < twoTo 64, item = .nat n
    case pos =>
      have counted (item : Json) (mem : item ∈ items) : ∃ n, count? item = some n ∧ True :=
        have ⟨n, small, same⟩ := all item mem
        ⟨n, count?_eq_some_iff.mpr ⟨same, small⟩, trivial⟩
      obtain ⟨counts, counted, _⟩ := exists_mapM counted
      obtain ⟨rfl, small⟩ := mapM_count?_eq_some_iff.mp counted
      exact .inr ⟨_, .oneOf small⟩
    case neg =>
      push Not at all
      have ⟨item, mem, odd⟩ := all
      exact .inl (.mixed mem odd)

theorem decode?_eq_none_iff : decode? j = none ↔ Unfit j := by
  rw [Option.eq_none_iff_forall_ne_some]
  constructor
  · intro none
    refine (unfit_or_denotes j).resolve_right fun ⟨e, denotes⟩ => ?_
    exact none e (decode?_eq_some_iff.mpr denotes)
  · exact fun unfit e read => unfit.not_denotes (decode?_eq_some_iff.mp read)

theorem contains_toDigits (ns : List Nat) (n : Nat) :
    (ns.map (Nat.toDigits 10)).contains (Nat.toDigits 10 n) = ns.contains n := by
  have injective : Function.Injective (Nat.toDigits 10) :=
    Function.LeftInverse.injective fun n => Nat.ofDigitChars_ten_toDigits (n := n)
  rw [Bool.eq_iff_iff, List.contains_iff_mem, List.contains_iff_mem,
    List.mem_map_of_injective injective]

theorem head?_toDigits_ne (n : Nat) : (Nat.toDigits 10 n).head? ≠ some 'a' := by
  intro first
  have digit := (isNumeral_toDigits n).digits 'a' (List.mem_of_mem_head? first)
  nomatch digit

theorem admits_exact (n count : Nat) : admits (toString n).toList count = (count == n) := by
  have head := Text.toList_toString n ▸ head?_toDigits_ne n
  have one : [n].contains count = (count == n) := by
    rw [List.contains_cons, List.contains_nil, Bool.or_false]
  rw [admits, if_neg head, Text.numeralsIn_toString, ← List.map_singleton, contains_toDigits, one]

theorem admits_oneOf (counts : List Nat) (count : Nat) :
    admits (describe (.oneOf counts)).toList count = counts.contains count := by
  have letters : (describe (.oneOf counts)).toList =
      "one of [".toList ++ (", ".intercalate (counts.map toString)).toList ++ [']'] := by
    simp [describe]
  have numerals : Text.numeralsIn (describe (.oneOf counts)).toList =
      counts.map (Nat.toDigits 10) := by
    rw [letters, Text.numeralsIn_append_cons rfl, Text.numeralsIn_append (by decide),
      Text.numeralsIn_enumeration]
    exact List.append_nil _
  have head : (describe (.oneOf counts)).toList.head? ≠ some 'a' := by
    simp [letters]
  rw [admits, if_neg head, numerals, contains_toDigits]

-- The words for an expectation decide which counts it accepts.
theorem accepts_eq_admits (e : PidExpectation) (count : Nat) :
    e.accepts count = admits e.describe.toList count := by
  cases e
  case exact n      => exact (admits_exact n count).symm
  case oneOf counts => exact (admits_oneOf counts count).symm
  case running some =>
    cases some
    case true  => rfl
    case false => exact (admits_exact 0 count).symm

theorem accepts_of_describe_eq (same : e.describe = e'.describe) (count : Nat) :
    e.accepts count = e'.accepts count := by
  rw [accepts_eq_admits, accepts_eq_admits, same]

end PidExpectation

namespace ExpectedPids

variable {expected : ExpectedPids} {found : FoundPids} {unit process words : String} {count : Nat}

-- A number that is not as expected is reported with the words for what was expected there.
theorem expectation_of_miscount
    (h : expected.validate found = .error (.pidCountMismatch unit process words count)) :
    ∃ processes e, (unit, processes) ∈ expected.toList ∧ (process, e) ∈ processes.toList ∧
      words = e.describe ∧ ¬e.accepts count := by
  rw [validate_eq, NameMap.countedForM_eq_error_iff] at h
  rcases h with ⟨_, differ⟩ | ⟨_, unit, processes, firstUnit, fault⟩
  · nomatch differ
  · replace fault := checkUnit_eq_error_iff.mp fault
    generalize found.find? unit = observed? at fault
    cases fault
    case process observed process e _ firstProcess fault =>
      generalize observed.find? process = pids? at fault
      cases fault
      case number rejected => exact ⟨_, e, firstUnit.mem, firstProcess.mem, rfl, rejected⟩

end ExpectedPids

namespace PidExpectation

-- Data stands for an expectation just if it is a truth value, a count in 64 bits or a list of
-- these, and is what is written for the expectation. Expectations in the same words accept the same
-- counts, so the words in the report of a miscount tell which counts would have passed.
theorem expectation_told_by_words :
    (∀ j : Json, (∀ e, decode? j = some e ↔ Denotes j e) ∧ (decode? j = none ↔ Unfit j)) ∧
    (∀ (j : Json) e, decode? j = some e → e.toJson = j) ∧
    (∀ e e', describe e = describe e' → ∀ count, e.accepts count = e'.accepts count) ∧
    ∀ (expected : ExpectedPids) found unit process words count,
      expected.validate found = .error (.pidCountMismatch unit process words count) →
      ∃ processes e, (unit, processes) ∈ expected.toList ∧ (process, e) ∈ processes.toList ∧
        ¬e.accepts count ∧
        ∀ e', describe e' = words → ∀ count', e'.accepts count' = e.accepts count' := by
  refine ⟨fun j => ⟨fun e => decode?_eq_some_iff, decode?_eq_none_iff⟩, ?written,
    fun e e' => accepts_of_describe_eq, ?reported⟩
  case written => exact fun j e read => (decode?_eq_some_iff.mp read).toJson_eq
  case reported =>
    intro expected found unit process words count miscount
    obtain ⟨processes, e, onUnit, ofProcess, rfl, rejected⟩ :=
      ExpectedPids.expectation_of_miscount miscount
    exact ⟨processes, e, onUnit, ofProcess, rejected, fun e' => accepts_of_describe_eq⟩

-- Three processes where one or two are expected.
theorem expectation_told_by_words_three :
    let expected : ExpectedPids := .ofList [("nova/0", .ofList [("nova-compute", .oneOf [1, 2])])]
    let found : FoundPids := .ofList [("nova/0", .ofList [("nova-compute", ["7", "8", "9"])])]
    expected.validate found =
      .error (.pidCountMismatch "nova/0" "nova-compute" "one of [1, 2]" 3) ∧
    (∃ e, ¬accepts e 3 ∧ accepts (.oneOf [1, 2]) 2 = accepts e 2) ∧
    accepts (.running false) 3 = accepts (.exact 0) 3 ∧
    toJson (.oneOf [1, 2]) = .array [.nat 1, .nat 2] := by
  intro expected found
  have ⟨_, written, same, reported⟩ := expectation_told_by_words
  have miscount : expected.validate found =
      .error (.pidCountMismatch "nova/0" "nova-compute" "one of [1, 2]" 3) := by rfl
  have ⟨_, e, _, _, rejected, alike⟩ := reported _ _ _ _ _ _ miscount
  exact ⟨miscount, ⟨e, rejected, alike (.oneOf [1, 2]) rfl 2⟩, same _ _ rfl 3,
    written (.array [.nat 1, .nat 2]) _ (by decide +kernel)⟩

end PidExpectation
end RollingUpgrade
