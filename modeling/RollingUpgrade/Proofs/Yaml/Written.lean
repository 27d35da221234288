import Mathlib.Data.List.Basic
import RollingUpgrade.Proofs.Rendition
import RollingUpgrade.Yaml.Render
import RollingUpgrade.Yaml.Value

namespace RollingUpgrade.Yaml

open Document

namespace Scalar

theorem digit?_of_isDigit {c : Char} (h : c.isDigit) :
    digit? 10 c = some (c.toNat - '0'.toNat) := by
  have bounds : 48 ≤ c.toNat ∧ c.toNat ≤ 57 := by
    simpa [Char.isDigit, UInt32.le_iff_toNat_le] using h
  have small : c.toNat - '0'.toNat < 10 := by
    change c.toNat - 48 < 10
    omega
  simp only [digit?, h, if_true, Option.filter, small, decide_true]

theorem foldlM_digits {s : List Char} (h : ∀ c ∈ s, c.isDigit) (n : Nat) :
    s.foldlM (fun n c => (digit? 10 c).map (n * 10 + ·)) n = some (Nat.ofDigitChars 10 s n) := by
  induction s generalizing n
  case nil => rfl
  case cons c s hi =>
    have ⟨hc, hs⟩ := List.forall_mem_cons.mp h
    rw [List.foldlM_cons, digit?_of_isDigit hc, Nat.ofDigitChars_cons, Nat.mul_comm 10 n]
    exact hi hs _

theorem isDigit_of_mem_toDigits {n : Nat} {c : Char} (h : c ∈ Nat.toDigits 10 n) : c.isDigit :=
  Nat.isDigit_of_mem_toDigits (by decide) (by decide) h

theorem digits?_toDigits (n : Nat) : digits? 10 (Nat.toDigits 10 n) = some n := by
  rw [digits?, if_neg (by simp [Nat.toDigits_ne_nil]),
    foldlM_digits fun _ => isDigit_of_mem_toDigits, Nat.ofDigitChars_ten_toDigits]

-- Only zero is written with a zero in front.
theorem head?_toDigits {n : Nat} (h : (Nat.toDigits 10 n).head? = some '0') : n = 0 := by
  induction n using Nat.strongRecOn
  case ind n hi =>
    by_cases small : n < 10
    case pos =>
      rw [Nat.toDigits_of_lt_base small] at h
      have digit : Nat.digitChar n = '0' := by simpa using h
      simpa using digit
    case neg =>
      rw [Nat.toDigits_of_base_le (by decide) (Nat.le_of_not_lt small),
        List.head?_append_of_ne_nil _ Nat.toDigits_ne_nil] at h
      have := hi (n / 10) (by omega) h
      omega

-- An integer as it is written reads as that integer.
theorem int?_toDigits (n : Nat) : int? (Nat.toDigits 10 n) = some (n : Int) := by
  by_cases zero : n = 0
  case pos => exact zero ▸ rfl
  case neg =>
    have value := digits?_toDigits n
    have first : (Nat.toDigits 10 n).head? ≠ some '0' := fun h => zero (head?_toDigits h)
    cases hl : Nat.toDigits 10 n <;> rw [hl] at value first
    case nil => nomatch value
    case cons c rest =>
      have digit : c.isDigit := isDigit_of_mem_toDigits (hl ▸ List.mem_cons_self)
      have other : c ≠ '0' ∧ c ≠ '-' ∧ c ≠ '+' :=
        ⟨by simpa using first, (nomatch · ▸ digit), (nomatch · ▸ digit)⟩
      have whole : magnitude? (c :: rest) = some n := by
        simp [magnitude?, hasLeadingZero, dropSign, other, value]
      simp [int?, other, whole]

def beginsWithDigit (s : String) : Bool := s.toList.head?.any Char.isDigit

theorem not_mem_of_beginsWithDigit {s : String} {words : List String} (h : beginsWithDigit s)
    (letters : words.all (!beginsWithDigit ·)) : s ∉ words := fun hs => by
  simpa [h] using List.all_eq_true.mp letters s hs

theorem beginsWithDigit_toString (n : Nat) : beginsWithDigit (toString n) := by
  rw [beginsWithDigit, Nat.toString_eq_repr, Nat.toList_repr]
  cases hl : Nat.toDigits 10 n
  case nil       => exact absurd hl Nat.toDigits_ne_nil
  case cons c cs => exact isDigit_of_mem_toDigits (hl ▸ List.mem_cons_self)

theorem number?_toString {n : Nat} (h : fitsUnsigned 64 n) :
    number? (toString n).toList = some (.int n) := by
  rw [number?, Nat.toString_eq_repr, Nat.toList_repr, int?_toDigits, Option.bind_some, ofInt?, h,
    Bool.or_true, if_pos rfl]
  rfl

-- A count is written as a scalar that stands for it.
theorem ofPlain_toString {n : Nat} (h : fitsUnsigned 64 n) : ofPlain (toString n) = .int n := by
  have digit := beginsWithDigit_toString n
  have empty : (toString n).isEmpty = false := by
    rw [Bool.eq_false_iff]
    intro h
    rw [String.isEmpty_iff.mp h] at digit
    nomatch digit
  have noNull : isNullWord (toString n) = false :=
    decide_eq_false (not_mem_of_beginsWithDigit digit (by decide))
  have noBool : bool? (toString n) = none := by
    rw [bool?, if_neg (not_mem_of_beginsWithDigit digit (by decide)),
      if_neg (not_mem_of_beginsWithDigit digit (by decide))]
  simp only [ofPlain, empty, noNull, noBool, number?_toString h, Bool.or_self, Bool.false_eq_true,
    if_false]

theorem number?_ne_text (s : List Char) (t : String) : number? s ≠ some (.text t) := by
  intro h
  rw [number?, Option.or_eq_some_iff] at h
  rcases h with h | ⟨_, h⟩
  · obtain ⟨i, _, h⟩ := Option.bind_eq_some_iff.mp h
    grind [ofInt?]
  · grind [Option.map_eq_some_iff]

-- What is text is the text as it stands.
theorem eq_of_ofPlain {s t : String} (h : ofPlain s = .text t) : t = s := by
  rw [ofPlain] at h
  split at h
  case isTrue => nomatch h
  case isFalse =>
    split at h
    case h_1 => nomatch h
    case h_2 =>
      split at h
      case h_1 number => exact absurd (h ▸ number) (number?_ne_text _ _)
      case h_2 => nomatch h
      case h_3 =>
        split at h
        case isTrue  => nomatch h
        case isFalse => exact (Scalar.text.inj h).symm

theorem ofPlain_of_styleOf {s : String} {simpleKey : Bool} (h : styleOf simpleKey s = .plain) :
    ofPlain s = .text s := by
  have reads : readsOtherwise s = false := by
    grind [styleOf]
  rw [readsOtherwise] at reads
  split at reads
  case h_1 t h => rw [h, eq_of_ofPlain h]
  case h_2     => nomatch reads

end Scalar

namespace Node

-- A node stands for a value without records and maps in it.
inductive Renders : Rendition Node
  | null {s : String} (plain : Scalar.ofPlain s = .null) : Renders .null (.scalar s true)
  | bool {s : String} {b : Bool} (plain : Scalar.ofPlain s = .bool b) :
    Renders (.bool b) (.scalar s true)
  | count {s : String} {n : Nat} (plain : Scalar.ofPlain s = .int n)
    (unsigned : s.toList.head? ≠ some '-') : Renders (.nat n) (.scalar s true)
  | quoted {s : String} : Renders (.string s) (.scalar s false)
  | plain {s : String} (plain : Scalar.ofPlain s = .text s) : Renders (.string s) (.scalar s true)
  | list {items : List Json} {nodes : List Node} (each : List.Forall₂ Renders items nodes) :
    Renders (.array items) (.sequence nodes)

theorem reads_string : Reads Renders string? Json.string := by
  intro _ _ h
  cases h <;> rfl

-- A decoder reads from a node what it stands for.
theorem legible : Rendition.Legible Renders where
  null := by
    intro _ h
    cases h
    case null plain => simp [Document.isNull, isNull, plain?, plain]
  solid := by
    intro _ _ h
    cases h
    case quoted      => rfl
    case plain plain => simp [Document.isNull, isNull, plain?, plain]
  string := reads_string
  bool := by
    intro _ _ h
    cases h
    case bool plain => simp [Document.bool?, bool?, plain?, plain]
  strings := by
    intro _ _ h
    cases h
    case list each => exact reads_string.mapM each
  count := by
    intro _ _ _ h
    cases h
    case count plain unsigned => simp [Document.count?, count?, plain, unsigned]

mutual

-- The node that is written for a value.
def ofJson : Json → Node
  | .null | .unreadable => .scalar "null" true
  | .bool b => .scalar (if b then "true" else "false") true
  | .number (.int i) => .scalar (toString i) true
  | .number (.float x) => .scalar (x.render numberLayout) true
  | .string s => .scalar s (styleOf false s = .plain)
  | .array items => .sequence (ofItems items)
  | .object entries => .mapping (ofEntries entries)
termination_by structural j => j

def ofItems : List Json → List Node
  | [] => []
  | j :: rest => ofJson j :: ofItems rest
termination_by structural l => l

def ofEntries : List (String × Json) → List (Node × Node)
  | [] => []
  | (key, j) :: rest => (.scalar key (styleOf true key = .plain), ofJson j) :: ofEntries rest
termination_by structural l => l

end

theorem renders_string (s : String) : Renders (.string s) (ofJson (.string s)) := by
  rw [ofJson]
  by_cases plain : styleOf false s = .plain
  case pos =>
    rw [plain]
    exact .plain (Scalar.ofPlain_of_styleOf plain)
  case neg =>
    rw [decide_eq_false plain]
    exact .quoted

theorem renders_bool (b : Bool) : Renders (.bool b) (ofJson (.bool b)) := by
  cases b <;> exact .bool rfl

theorem renders_count {n : Nat} (h : fitsUnsigned 64 n) : Renders (.nat n) (ofJson (.nat n)) := by
  refine .count (Scalar.ofPlain_toString h) fun sign => ?_
  have digit := Scalar.beginsWithDigit_toString n
  rw [Scalar.beginsWithDigit] at digit
  change (toString n).toList.head? = some '-' at sign
  rw [sign] at digit
  nomatch digit

theorem renders_strings (l : List String) : Renders (.strings l) (ofJson (.strings l)) := by
  refine .list ?_
  induction l
  case nil            => exact .nil
  case cons s rest hi => exact .cons (renders_string s) hi

theorem renders_optional (o : Option String) :
    Renders (o.elim .null .string) (ofJson (o.elim .null .string)) := by
  cases o
  case none   => exact .null rfl
  case some s => exact renders_string s

theorem entries?_ofEntries (entries : List (String × Json)) :
    entries? (.mapping (ofEntries entries)) = some (entries.map (·.map id ofJson)) := by
  rw [entries?]
  induction entries
  case nil => rfl
  case cons e rest hi =>
    rw [ofEntries, List.mapM_cons, hi]
    rfl

-- The nodes that are written for data stand for the data.
theorem writes : Rendition.Writes Renders ofJson where
  noTuple _ := rfl
  object    := entries?_ofEntries
  string    := renders_string
  optional  := renders_optional
  bool      := renders_bool
  strings   := renders_strings
  count _   := renders_count

end Node
end RollingUpgrade.Yaml
