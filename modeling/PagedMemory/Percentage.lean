/-!
# Percentages

What part is of a whole, in percent, is computed in double precision: both numbers are rounded, the
part is multiplied by one hundred and rounded, the quotient is formed and rounded.  It is written
with two decimal places of its exact value, a tie going to the even last digit.  Nothing is no part
of nothing: the percentage of a zero whole is zero.
-/

namespace PagedMemory

/-! ## Rounding to double precision

Numbers are rounded to the nearest value with 53 significant binary digits, a tie going to the even
one: the rounding of double-precision arithmetic, for numbers that are neither so small nor so large
that its range of exponents matters.  Numbers are non-negative fractions and are never approximated
in any other way, so a computation in double precision is an exact computation with a rounding after
each step.
-/

/-- A non-negative rational number, not necessarily in lowest terms. -/
structure Fraction where
  numerator : Nat
  denominator : Nat := 1
deriving DecidableEq

namespace Fraction

/-- The product of two fractions. -/
def mul (left right : Fraction) : Fraction :=
  ⟨left.numerator * right.numerator, left.denominator * right.denominator⟩

/-- The quotient of two fractions. -/
def div (left right : Fraction) : Fraction :=
  ⟨left.numerator * right.denominator, left.denominator * right.numerator⟩

/-- The nearest integer.  A number half-way between two integers goes to the even one. -/
def roundHalfEven (number : Fraction) : Nat :=
  let floor := number.numerator / number.denominator
  let twice := 2 * (number.numerator % number.denominator)
  if twice < number.denominator then floor
  else if number.denominator < twice then floor + 1
  else floor + floor % 2

end Fraction

namespace Binary64

/-- The number of significant binary digits. -/
def precision : Nat := 53

/-- Rounds a number to 53 significant digits.  The number is scaled by a power of two so that its
integral part has 53 digits, rounded to an integer, and scaled back.  Comparing the lengths of
numerator and denominator leaves two candidates for the power; the larger is right unless it leaves
the integral part a digit short. -/
def nearest (number : Fraction) : Fraction :=
  let down := number.numerator.log2 + 1
  let scaled (up : Nat) : Fraction := ⟨number.numerator <<< up, number.denominator <<< down⟩
  let least := precision + number.denominator.log2
  let short := (scaled least).numerator / (scaled least).denominator < 1 <<< (precision - 1)
  let up := if short then least + 1 else least
  if number.numerator = 0 then ⟨0, 1⟩ else ⟨(scaled up).roundHalfEven <<< down, 1 <<< up⟩

end Binary64

/-! ## Parts of a whole -/

namespace Percentage

/-- What `part` is of `whole`, in percent, in double precision. -/
def value (part whole : Nat) : Fraction :=
  if whole = 0 then
    ⟨0, 1⟩
  else
    let hundredfold := Binary64.nearest ((Binary64.nearest ⟨part, 1⟩).mul ⟨100, 1⟩)
    Binary64.nearest (hundredfold.div (Binary64.nearest ⟨whole, 1⟩))

/-- The percentage in hundredths, rounded once more. -/
def hundredths (part whole : Nat) : Nat := ((value part whole).mul ⟨100, 1⟩).roundHalfEven

/-- A number of hundredths in decimal notation with two places. -/
def fixedPoint (hundredths : Nat) : String :=
  let places := hundredths % 100
  s!"{hundredths / 100}.{places / 10}{places % 10}"

/-- The percentage in decimal notation with two places. -/
def text (part whole : Nat) : String := fixedPoint (hundredths part whole)

end Percentage

end PagedMemory
