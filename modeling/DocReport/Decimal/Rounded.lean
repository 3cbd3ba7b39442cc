import DocReport.Decimal.Binary

/-!
Numbers with as many decimal digits as are asked for: after the point, with an exponent, or
whichever of the two is shorter. Digits are those of the exact value, rounded; a half goes to the
even neighbour.
-/
namespace DocReport.Decimal

/-- Digits before and after the point. The point stands alone only if `always` asks for it. -/
def withPoint (always : Bool) (whole fraction : Text) : Text :=
  if fraction.isEmpty && !always then whole else whole ++ '.' :: fraction

/-- A ratio with so many digits after the point. -/
def fixed (always : Bool) (places num den : Nat) : Text :=
  let digits := Nat.toDigits 10 (roundRatio (num * Nat.pow 10 places) den)
  let padded := List.replicate (places + 1 - digits.length) '0' ++ digits
  withPoint always (padded.take (padded.length - places)) (padded.drop (padded.length - places))

/-- The first digits of a ratio, with the position of the very first: zero for ones, one for
tens. -/
def significant (count num den : Nat) : Text × Int :=
  if num = 0 then (List.replicate count '0', 0)
  else
    let lead := leadingPosition num den
    let grid := powerRatio 10 (lead - (count : Int) + 1)
    let n := roundRatio (num * grid.2) (den * grid.1)
    -- Nines that are rounded up make one digit more.
    if n = Nat.pow 10 count then (Nat.toDigits 10 (Nat.pow 10 (count - 1)), lead + 1)
    else (Nat.toDigits 10 n, lead)

/-- The exponent behind digits, of at least two digits itself. -/
def exponentText (lead : Int) : Text :=
  'e' :: (if lead < 0 then '-' else '+') :: Text.ofNatPadded 2 lead.natAbs

/-- A ratio with one digit before the point, so many after it, and an exponent. -/
def scientific (always : Bool) (places num den : Nat) : Text :=
  let found := significant (places + 1) num den
  withPoint always (found.1.take 1) (found.1.drop 1) ++ exponentText found.2

/-- A ratio with so many digits in all. Zeros at the end of the fraction go, unless `always` keeps
them; numbers below a ten-thousandth and those with more digits before the point have an
exponent. -/
def general (always : Bool) (count num den : Nat) : Text :=
  let count := max 1 count
  let found := significant count num den
  let fraction := fun digits => if always then digits else Text.dropTail (· == '0') digits
  if -4 ≤ found.2 ∧ found.2 < count then
    if found.2 < 0 then
      withPoint always ['0'] (fraction (List.replicate (-found.2 - 1).toNat '0' ++ found.1))
    else
      let whole := found.2.toNat + 1
      withPoint always (found.1.take whole) (fraction (found.1.drop whole))
  else withPoint always (found.1.take 1) (fraction (found.1.drop 1)) ++ exponentText found.2

/-- The ratio that a multiple of a power of two is. -/
def binaryRatio (mantissa : Nat) (exponent : Int) : Nat × Nat :=
  let power := powerRatio 2 exponent
  (mantissa * power.1, power.2)

namespace Binary

/-- Whether a number has a minus sign. -/
def isNegative : Binary → Bool
  | .finite negative .. => negative
  | .infinite negative => negative
  | .undefined => false

/-- What is before the point, without the sign; only real numbers have it. -/
def truncated? : Binary → Option Nat
  | .finite _ m e => some ((binaryRatio m e).1 / (binaryRatio m e).2)
  | _ => none

/-- The number nearest to a natural one, if it is not too large. -/
def ofNat? (n : Nat) : Option Binary :=
  match ofRatio false n 1 with
  | .infinite _ => none
  | x => some x

/-- A number without its sign, where `write` writes ratios. -/
def magnitude (write : Nat → Nat → Text) : Binary → Text
  | .finite _ m e => write (binaryRatio m e).1 (binaryRatio m e).2
  | .infinite _ => "inf".toList
  | .undefined => "nan".toList

end Binary

end DocReport.Decimal
