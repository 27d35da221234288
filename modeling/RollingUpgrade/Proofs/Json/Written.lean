import RollingUpgrade.Json.Reader
import RollingUpgrade.Json.Render

namespace RollingUpgrade.Json

-- The text is cut into the tokens, whatever tokens are before it, and nothing of it is left over.
def Cut (s : List Char) (tokens : List Token) : Prop :=
  ∀ before, s.foldlM Scan.step ⟨before, .between⟩ = some ⟨tokens.reverse ++ before, .between⟩

namespace Cut

variable {s t : List Char} {tokens tokens' : List Token}

theorem nil : Cut [] [] :=
  fun _ => rfl

theorem append (h : Cut s tokens) (h' : Cut t tokens') : Cut (s ++ t) (tokens ++ tokens') := by
  intro before
  rw [List.foldlM_append, h, List.reverse_append, List.append_assoc]
  exact h' _

theorem punctuation {c : Char} {token : Token} (h : punctuation? c = some token) :
    Cut [c] [token] := by
  intro before
  unfold punctuation? at h
  split at h
  case h_7 => nomatch h
  all_goals
    cases h
    rfl

theorem tokens? {s : String} (h : Cut s.toList tokens) : tokens? s = some tokens := by
  rw [Json.tokens?, Scan.start, h]
  simp [Scan.finish]

end Cut

theorem hexValue?_digitChar {n : Nat} (h : n < 16) : hexValue? (Nat.digitChar n) = some n := by
  decide +revert

theorem pushUnit_toNat (reversed : List Char) {c : Char} (h : c.toNat < 0xD800) :
    (⟨reversed, none, true⟩ : Quoted).pushUnit c.toNat = ⟨c :: reversed, none, true⟩ := by
  have notHigh : ¬0xD800 ≤ c.toNat := by omega
  have notLow : ¬0xDC00 ≤ c.toNat := by omega
  simp [Quoted.pushUnit, Quoted.push, notHigh, notLow]

-- Within quotes, a character is read back, with an escape or without.
theorem scan_escape (c : Char) (tokens : List Token) (reversed : List Char) :
    (escape c).foldlM Scan.step ⟨tokens, .inText ⟨reversed, none, true⟩⟩ =
      some ⟨tokens, .inText ⟨c :: reversed, none, true⟩⟩ := by
  unfold escape
  split
  case h_8 notQuote notBackslash _ _ _ _ _ =>
    split
    case isTrue control =>
      have high : hexValue? (hexDigit (c.toNat / 16)) = some (c.toNat / 16) :=
        hexValue?_digitChar (by omega)
      have low : hexValue? (hexDigit (c.toNat % 16)) = some (c.toNat % 16) :=
        hexValue?_digitChar (Nat.mod_lt _ (by decide))
      have zero : hexValue? '0' = some 0 := rfl
      have unit : c.toNat / 16 * 16 + c.toNat % 16 = c.toNat := Nat.div_add_mod' _ _
      simp [Scan.step, zero, high, low, unit, pushUnit_toNat reversed (c := c) (by omega)]
    case isFalse plain =>
      have notQuote : c ≠ '"' := notQuote
      have notBackslash : c ≠ '\\' := notBackslash
      simp [Scan.step, notQuote, notBackslash, plain, Quoted.push]
  all_goals rfl

theorem scan_escapes (s : List Char) (tokens : List Token) (reversed : List Char) :
    (s.flatMap escape).foldlM Scan.step ⟨tokens, .inText ⟨reversed, none, true⟩⟩ =
      some ⟨tokens, .inText ⟨s.reverse ++ reversed, none, true⟩⟩ := by
  induction s generalizing reversed
  case nil => rfl
  case cons c s hi =>
    rw [List.flatMap_cons, List.foldlM_append, scan_escape]
    simp [hi]

theorem cut_quote (s : String) : Cut (quote s).toList [.text (some s)] := by
  intro before
  have opened : Scan.step ⟨before, .between⟩ '"' =
      some ⟨before, .inText ⟨[], none, true⟩⟩ := rfl
  rw [quote, String.toList_ofList, List.cons_append, List.foldlM_cons, opened,
    Option.bind_eq_bind, Option.bind_some, List.foldlM_append, scan_escapes]
  simp [Scan.step, Quoted.value]

-- A record all of whose fields are texts.
def texts (fields : List (String × String)) : Json :=
  .object (fields.map fun f => (f.1, .string f.2))

def fieldText (f : String × String) : List Char := (quote f.1 ++ ":" ++ quote f.2).toList

def fieldTokens (f : String × String) : List Token := [.text (some f.1), .colon, .text (some f.2)]

theorem toList_render_texts (fields : List (String × String)) :
    (render (texts fields)).toList =
      ['\x7b'] ++ [','].intercalate (fields.map fieldText) ++ ['\x7d'] := by
  have entries : renderEntries (fields.map fun f => (f.1, .string f.2)) =
      fields.map fun f => quote f.1 ++ ":" ++ quote f.2 := by
    induction fields
    case nil            => rfl
    case cons f rest hi => exact congrArg (_ :: ·) hi
  have each : (fields.map fun f => quote f.1 ++ ":" ++ quote f.2).map String.toList =
      fields.map fieldText := List.map_map
  rw [texts, render, entries, String.toList_append, String.toList_append,
    String.toList_intercalate, each]
  rfl

theorem cut_fields (fields : List (String × String)) :
    Cut ([','].intercalate (fields.map fieldText))
      ([.comma].intercalate (fields.map fieldTokens)) := by
  have field (f : String × String) : Cut (fieldText f) (fieldTokens f) := by
    have colon : Cut [':'] [.colon] := .punctuation rfl
    simpa [fieldText, fieldTokens] using ((cut_quote f.1).append colon).append (cut_quote f.2)
  have comma : Cut [','] [.comma] := .punctuation rfl
  induction fields
  case nil => exact .nil
  case cons f rest hi =>
    cases rest
    case nil       => simpa using field f
    case cons g rest =>
      simpa [List.intercalate_cons_cons] using ((field f).append comma).append hi

-- A reader within an object takes in fields, behind those that it has.
theorem read_fields (fields : List (String × String)) (f : String × String)
    (entries : List (String × Json)) {expecting : Expecting}
    (next : expecting = .firstKey ∨ expecting = .key) :
    ([.comma].intercalate ((f :: fields).map fieldTokens)).foldlM Reader.step
        ⟨[.object entries none true], expecting, none⟩ =
      let read := (f :: fields).reverse.map fun f => (f.1, .string f.2)
      some ⟨[.object (read ++ entries) none true], .separator, none⟩ := by
  have first (f : String × String) (entries : List (String × Json)) {expecting : Expecting}
      (next : expecting = .firstKey ∨ expecting = .key) :
      (fieldTokens f).foldlM Reader.step ⟨[.object entries none true], expecting, none⟩ =
        some ⟨[.object ((f.1, .string f.2) :: entries) none true], .separator, none⟩ := by
    rcases next with rfl | rfl <;> rfl
  induction fields generalizing f entries expecting
  case nil => simpa using first f entries next
  case cons g rest hi =>
    have rest := hi g ((f.1, .string f.2) :: entries) (.inr rfl)
    rw [List.map_cons] at rest
    rw [List.map_cons, List.map_cons, List.intercalate_cons_cons, List.foldlM_append,
      List.foldlM_append, first f entries next]
    simp [Reader.step, rest]

-- A record of texts is read back as it was written.
theorem parse_render_texts (fields : List (String × String)) :
    parse (render (texts fields)) = some (texts fields) := by
  have opened : Cut ['\x7b'] [.openObject] := .punctuation rfl
  have closed : Cut ['\x7d'] [.closeObject] := .punctuation rfl
  have cut := (opened.append (cut_fields fields)).append closed
  rw [← toList_render_texts] at cut
  have first : Reader.step .start .openObject = some ⟨[.object [] none true], .firstKey, none⟩ :=
    rfl
  have last : (([.comma].intercalate (fields.map fieldTokens)).foldlM Reader.step
      ⟨[.object [] none true], .firstKey, none⟩).bind (Reader.step · .closeObject) =
        some ⟨[], .nothing, some (texts fields)⟩ := by
    cases fields
    case nil => rfl
    case cons f rest =>
      rw [read_fields rest f [] (.inl rfl)]
      simp [Reader.step, Reader.close, Reader.place, Reader.nestingLimit, texts]
  simp [parse, cut.tokens?, first, last]

end RollingUpgrade.Json
