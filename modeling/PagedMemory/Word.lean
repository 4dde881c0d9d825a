/-!
# Machine words and their numerals

Sizes, page numbers and counters of the machine are 64-bit words.  They are kept as natural
numbers, and each sum that could leave the word is formed by `Word.add?`, which has no answer for
a sum that does not fit.  A caller that meets `none` stops the program; nothing wraps around.

A numeral is an optional plus sign and one or more ASCII digits, in any number, whose value is a
64-bit word.  The digits are read from the left, and reading stops at the first thing that is wrong:
a character that is no digit, or a value that leaves the word.
-/

namespace PagedMemory

/-! ## Checked sums -/

namespace Word

/-- The number of 64-bit words: one more than the largest. -/
def bound : Nat := 0x10000000000000000

/-- The sum of two words, if it is a word again. -/
def add? (left right : Nat) : Option Nat :=
  if left + right < bound then some (left + right) else none

theorem add?_eq_some_iff {left right sum : Nat} :
    add? left right = some sum ↔ left + right < bound ∧ left + right = sum := by
  unfold add?
  split
  · simp_all
  · simp only [reduceCtorEq, false_iff]
    omega

end Word

/-! ## Numerals -/

/-- Why a text is not a numeral. -/
inductive NumeralFlaw where
  | empty
  | invalidDigit
  | tooLarge
deriving DecidableEq

namespace NumeralFlaw

/-- The flaw in words. -/
def describe : NumeralFlaw → String
  | empty => "cannot parse integer from empty string"
  | invalidDigit => "invalid digit found in string"
  | tooLarge => "number too large to fit in target type"

end NumeralFlaw

namespace Numeral

/-- The value of an ASCII digit. -/
def digit? (char : Char) : Option Nat :=
  if char.isDigit then some (char.toNat - '0'.toNat) else none

/-- Continues a value with further digits. -/
def readDigits (value : Nat) : List Char → Except NumeralFlaw Nat
  | [] => .ok value
  | char :: rest =>
    match digit? char with
    | none => .error .invalidDigit
    | some digit =>
      if value * 10 + digit < Word.bound then readDigits (value * 10 + digit) rest
      else .error .tooLarge

/-- The value of a numeral. -/
def read : List Char → Except NumeralFlaw Nat
  | [] => .error .empty
  | ['+'] => .error .invalidDigit
  | '+' :: digits => readDigits 0 digits
  | digits => readDigits 0 digits

end Numeral

end PagedMemory
