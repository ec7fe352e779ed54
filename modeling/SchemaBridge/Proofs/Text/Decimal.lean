/-
# Decimal digits

The digits of a number read back as the number, also with zeros before them, and a run of digits is
found in a text whatever follows it, unless another digit does.

## Key statements

* `digitsValue_toDigits`: the digits of a number have its value.
* `takeWhile_digits`, `dropWhile_digits`: a run of digits in front of something else.
-/
import SchemaBridge.Text.Pattern

namespace SchemaBridge.Text

/-- The digits of a number have its value. -/
theorem digitsValue_toDigits (n : Nat) : digitsValue (Nat.toDigits 10 n) = n :=
  Nat.ofDigitChars_ten_toDigits

/-- Zeros in front do not change it. -/
theorem digitsValue_zeros_toDigits (k n : Nat) :
    digitsValue (List.replicate k '0' ++ Nat.toDigits 10 n) = n := by
  show Nat.ofDigitChars 10 (List.replicate k '0' ++ Nat.toDigits 10 n) 0 = n
  rw [Nat.ofDigitChars_append, Nat.ofDigitChars_replicate_zero, Nat.mul_zero]
  exact digitsValue_toDigits n

/-- A number is made of digits. -/
theorem isDigit_toDigits (n : Nat) : ∀ c ∈ Nat.toDigits 10 n, c.isDigit = true :=
  fun _ hc => Nat.isDigit_of_mem_toDigits (by decide) (by decide) hc

/-- A number is read back. -/
theorem readNat?_toDigits (n : Nat) : readNat? (Nat.toDigits 10 n) = some n := by
  have hall : (Nat.toDigits 10 n).all Char.isDigit = true :=
    List.all_eq_true.2 (isDigit_toDigits n)
  unfold readNat?
  rw [hall, digitsValue_toDigits]
  simp

/-- Different numbers have different texts. -/
theorem decimal_inj {m n : Nat} (h : decimal m = decimal n) : m = n := by
  have hdigits : Nat.toDigits 10 m = Nat.toDigits 10 n := String.ofList_injective h
  rw [← digitsValue_toDigits m, hdigits, digitsValue_toDigits n]

/-- Only the number zero has a zero in front. -/
theorem toDigits_eq_zero_cons {n : Nat} {r : List Char} (h : Nat.toDigits 10 n = '0' :: r) :
    n = 0 ∧ r = [] := by
  induction n using Nat.strongRecOn generalizing r with
  | ind n ih =>
    by_cases hn : n < 10
    · rw [Nat.toDigits_of_lt_base hn, List.cons.injEq] at h
      exact ⟨Nat.digitChar_eq_zero.1 h.1, h.2.symm⟩
    · exfalso
      rw [Nat.toDigits_of_base_le (by decide) (by omega)] at h
      cases hd : Nat.toDigits 10 (n / 10) with
      | nil => exact Nat.toDigits_ne_nil hd
      | cons c s =>
        rw [hd, List.cons_append, List.cons.injEq] at h
        have hzero := (ih (n / 10) (by omega) (hd.trans (by rw [h.1]))).1
        omega

/-! ## Runs of digits -/

/-- A text that does not begin with a digit. -/
def EndsDigits (r : List Char) : Prop := ∀ c ∈ r.head?, c.isDigit = false

/-- A character that is no digit ends digits. -/
theorem endsDigits_cons {c : Char} (h : c.isDigit = false) (r : List Char) :
    EndsDigits (c :: r) := by
  intro d hd
  cases hd
  exact h

theorem endsDigits_take {r : List Char} (h : EndsDigits r) (n : Nat) : EndsDigits (r.take n) := by
  intro c hc
  cases n with
  | zero => cases hc
  | succ n =>
    cases r with
    | nil => cases hc
    | cons d r => exact h c hc

/-- A run ends where the next character stays. -/
theorem takeWhile_append_of_head {p : Char → Bool} {ds r : List Char} (hd : ∀ c ∈ ds, p c = true)
    (hr : ∀ c ∈ r.head?, p c = false) : (ds ++ r).takeWhile p = ds := by
  rw [List.takeWhile_append_of_pos hd]
  cases r with
  | nil => simp
  | cons c r => simp [hr c rfl]

/-- What follows a run is left. -/
theorem dropWhile_append_of_head {p : Char → Bool} {ds r : List Char} (hd : ∀ c ∈ ds, p c = true)
    (hr : ∀ c ∈ r.head?, p c = false) : (ds ++ r).dropWhile p = r := by
  rw [List.dropWhile_append_of_pos hd]
  cases r with
  | nil => simp
  | cons c r => simp [hr c rfl]

/-- The digits of a number are taken. -/
theorem takeWhile_digits {r : List Char} (n : Nat) (hr : EndsDigits r) :
    (Nat.toDigits 10 n ++ r).takeWhile Char.isDigit = Nat.toDigits 10 n :=
  takeWhile_append_of_head (isDigit_toDigits n) hr

/-- What follows them is left. -/
theorem dropWhile_digits {r : List Char} (n : Nat) (hr : EndsDigits r) :
    (Nat.toDigits 10 n ++ r).dropWhile Char.isDigit = r :=
  dropWhile_append_of_head (isDigit_toDigits n) hr

end SchemaBridge.Text
