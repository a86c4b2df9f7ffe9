import Stencil.Text.Digit

/-!
# Rounded division

Quotients of natural numbers rounded to the nearest whole number, and the position
of the leading decimal digit of a quotient.
-/

namespace Stencil.Number

-- Powers are the ones of the core library, whatever algebra is imported, as in each module below.
attribute [local instance (high)] instPowNat

/-- Signed words of 64 bits are below it, and not below its negation. -/
def wordBound : Int := 2 ^ (63 : Nat)

/-- A half goes to the even neighbour. -/
def divHalfEven (num den : Nat) : Nat :=
  let quotient := num / den
  let rest := num % den
  if den < 2 * rest ∨ (2 * rest = den ∧ quotient % 2 = 1) then quotient + 1 else quotient

/-- A half goes up. -/
def divHalfUp (num den : Nat) : Nat :=
  if den ≤ 2 * (num % den) then num / den + 1 else num / den

def decimalLength (n : Nat) : Nat := (Text.decimalText n).length

/-- The quotient of `num * base ^ power` by `den`, as a fraction of natural numbers. -/
def scaled (base : Nat) (power : Int) (num den : Nat) : Nat × Nat :=
  match power with
  | .ofNat p => (num * base ^ p, den)
  | .negSucc p => (num, den * base ^ (p + 1))

/-- The greatest `k` with `10 ^ k ≤ num / den`, for positive `num` and `den`. -/
def leadingPower (num den : Nat) : Int :=
  let guess := (decimalLength num : Int) - decimalLength den
  let (n, d) := scaled 10 (-guess) num den
  if d ≤ n then guess else guess - 1

end Stencil.Number
