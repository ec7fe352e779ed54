/-
# Words

Counters are words, unsigned integers of 32 bits.  After its last value a word begins again at 0;
below that it counts like a number.

## Key statements

* `nextWord_eq`: how a word counts.
-/

namespace SchemaBridge

/-- Number of values of a word. -/
def wordSize : Nat := 4294967296

/-- The value of a word after one more step. -/
def nextWord (n : Nat) : Nat := (n + 1) % wordSize

/-- A word that is not at its last value counts like a number. -/
theorem nextWord_eq {n : Nat} (h : n + 1 < wordSize) : nextWord n = n + 1 := Nat.mod_eq_of_lt h

/-- After its last value a word begins again. -/
theorem nextWord_last : nextWord (wordSize - 1) = 0 := rfl

end SchemaBridge
