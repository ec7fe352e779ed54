/-
# Strings and whole numbers read back

Every string and every whole number that fits its word is read from its written form, and what stands
after it is left over.

## Key statements

* `readStringFrom_writeString`: a string of any characters.
* `readUnsigned_toDigits`: a number that nothing continues.
-/
import SchemaBridge.Json.Reader
import SchemaBridge.Json.Writer
import SchemaBridge.Proofs.Text.Decimal

namespace SchemaBridge.Json

/-! ## Strings -/

/-- A digit to the base 16 is read back. -/
theorem hexValue?_digitChar : ∀ n, n < 16 → hexValue? (Nat.digitChar n) = some n := by decide

/-- An escape of two characters. -/
theorem readStringFrom_simpleEscape {e c : Char} (he : e ≠ 'u') (h : simpleEscape? e = some c)
    (done rest : List Char) :
    readStringFrom done ('\\' :: e :: rest) = readStringFrom (c :: done) rest := by
  simp [readStringFrom, he, h]

/-- One character is read from its written form. -/
theorem readStringFrom_escaped (c : Char) (done rest : List Char) :
    readStringFrom done (escaped c ++ rest) = readStringFrom (c :: done) rest := by
  have hsimple : ∀ e x : Char, e ≠ 'u' → simpleEscape? e = some x → (c == x) = true →
      readStringFrom done (['\\', e] ++ rest) = readStringFrom (c :: done) rest := by
    intro e x he hx hc
    rw [eq_of_beq hc]
    exact readStringFrom_simpleEscape he hx done rest
  unfold escaped
  split
  · exact hsimple '"' '"' (by decide) rfl ‹_›
  split
  · exact hsimple '\\' '\\' (by decide) rfl ‹_›
  split
  · exact hsimple 'n' '\n' (by decide) rfl ‹_›
  split
  · exact hsimple 'r' '\r' (by decide) rfl ‹_›
  split
  · exact hsimple 't' '\t' (by decide) rfl ‹_›
  split
  · exact hsimple 'b' '\x08' (by decide) rfl ‹_›
  split
  · exact hsimple 'f' '\x0c' (by decide) rfl ‹_›
  split
  · rename_i hlow
    -- a control character is written by its number, which is no half of a pair
    have hfirst := hexValue?_digitChar (c.toNat / 16) (by omega)
    have hsecond := hexValue?_digitChar (c.toNat % 16) (by omega)
    have hunit : hexUnit? '0' '0' (Nat.digitChar (c.toNat / 16)) (Nat.digitChar (c.toNat % 16))
        = some c.toNat := by
      have hzero : hexValue? '0' = some 0 := by decide
      unfold hexUnit?
      rw [hzero, hfirst, hsecond]
      show some _ = some _
      congr 1
      omega
    have hhigh : isHighSurrogate c.toNat = false := by
      simp only [isHighSurrogate, Bool.and_eq_false_iff, decide_eq_false_iff_not]
      omega
    have hlowS : isLowSurrogate c.toNat = false := by
      simp only [isLowSurrogate, Bool.and_eq_false_iff, decide_eq_false_iff_not]
      omega
    show readStringFrom done ('\\' :: 'u' :: '0' :: '0' :: Nat.digitChar (c.toNat / 16)
      :: Nat.digitChar (c.toNat % 16) :: rest) = _
    rw [readStringFrom]
    simp only [hunit, hhigh, hlowS, Char.ofNat_toNat]
    rfl
  · rename_i hquote hback _ _ _ _ _ hlow
    -- any other character stands for itself
    show readStringFrom done (c :: rest) = _
    rw [readStringFrom.eq_def]
    split
    · simp_all
    · simp_all
    · simp_all
    · simp_all
    · rename_i heq
      cases heq
      rw [if_neg hlow]

/-- Escaped characters are read back up to the mark. -/
theorem readStringFrom_flatMap_escaped (cs done rest : List Char) :
    readStringFrom done (cs.flatMap escaped ++ '"' :: rest)
      = .ok (String.ofList (done.reverse ++ cs), rest) := by
  induction cs generalizing done with
  | nil => simp [readStringFrom]
  | cons c cs ih =>
    rw [List.flatMap_cons, List.append_assoc, readStringFrom_escaped, ih]
    simp

/-- A written string is read back, whatever stands after it. -/
theorem readStringFrom_writeString (s : String) (rest : List Char) :
    readStringFrom [] ((writeString s).tail ++ rest) = .ok (s, rest) := by
  have hform : (writeString s).tail ++ rest = s.toList.flatMap escaped ++ '"' :: rest := by
    simp [writeString]
  rw [hform, readStringFrom_flatMap_escaped]
  simp

/-- A text begins with its mark. -/
theorem writeString_eq_cons (s : String) : writeString s = '"' :: (writeString s).tail := rfl

/-! ## Whole numbers -/

/-- A text that does not carry a number on. -/
def EndsNumber (r : List Char) : Prop :=
  ∀ c ∈ r.head?, c.isDigit = false ∧ c ≠ '.' ∧ c ≠ 'e' ∧ c ≠ 'E'

/-- What ends a number ends its digits. -/
theorem EndsNumber.endsDigits {r : List Char} (h : EndsNumber r) : Text.EndsDigits r :=
  fun c hc => (h c hc).1

/-- A number that has ended has no fraction. -/
theorem readFraction_of_ends {r : List Char} (h : EndsNumber r) : readFraction r = .ok (none, r) := by
  cases r with
  | nil => rfl
  | cons c r =>
    have hc := (h c rfl).2.1
    simp [readFraction, hc]

theorem readExponent_of_ends {r : List Char} (h : EndsNumber r) :
    readExponent r = .ok (none, r) := by
  cases r with
  | nil => rfl
  | cons c r =>
    obtain ⟨-, -, he, hE⟩ := h c rfl
    simp [readExponent, he, hE]

/-- Digits are read up to what ends them. -/
theorem readUnsigned_toDigits {negative : Bool} {n : Nat} {v : Json} {r : List Char}
    (hr : EndsNumber r)
    (hv : numberOf negative (Nat.toDigits 10 n) none none = .ok v) :
    readUnsigned negative (Nat.toDigits 10 n ++ r) = .ok (v, r) := by
  unfold readUnsigned
  rw [Text.takeWhile_digits n hr.endsDigits, Text.dropWhile_digits n hr.endsDigits]
  simp only
  split
  · rename_i h
    exact absurd h Nat.toDigits_ne_nil
  · rename_i h
    cases (Text.toDigits_eq_zero_cons h).2
  · rw [readFraction_of_ends hr]
    simp only [bind, Except.bind, readExponent_of_ends hr, hv]
    rfl

/-- A whole number that is kept as such: it fits a word of 64 bits, with or without a sign. -/
def FitsWord (n : Int) : Prop := -9223372036854775808 ≤ n ∧ n ≤ (maxWord : Int)

/-- A number of 64 bits is read back. -/
theorem readUnsigned_nat {n : Nat} (hn : n ≤ maxWord) {r : List Char} (hr : EndsNumber r) :
    readUnsigned false (Nat.toDigits 10 n ++ r) = .ok (.int n, r) := by
  refine readUnsigned_toDigits hr ?_
  unfold numberOf
  rw [Text.digitsValue_toDigits]
  simp [hn]

theorem readUnsigned_negSucc {n : Nat} (hn : n + 1 ≤ 9223372036854775808) {r : List Char}
    (hr : EndsNumber r) :
    readUnsigned true (Nat.toDigits 10 (n + 1) ++ r) = .ok (.int (.negSucc n), r) := by
  refine readUnsigned_toDigits hr ?_
  unfold numberOf
  rw [Text.digitsValue_toDigits]
  have hpow : Nat.pow 2 63 = 9223372036854775808 := rfl
  simp only [hpow, hn]
  simp [Int.negSucc_eq]

end SchemaBridge.Json
