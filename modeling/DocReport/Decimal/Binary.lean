import DocReport.Text.Basic

/-!
Binary floating point numbers of 64 bits as exact values: the nearest one to a ratio, and the
fewest decimal digits that read back.
-/
namespace DocReport.Decimal

/-- A floating point number: a sign with a multiple of a power of two, or none of the real
numbers. -/
inductive Binary where
  | finite (negative : Bool) (mantissa : Nat) (exponent : Int)
  | infinite (negative : Bool)
  | undefined
  deriving DecidableEq, Repr

/-- A power of a base as a ratio of naturals. -/
def powerRatio (base : Nat) (exponent : Int) : Nat × Nat :=
  if 0 ≤ exponent then (base.pow exponent.toNat, 1) else (1, base.pow (-exponent).toNat)

/-- A ratio, rounded to the nearest natural; a half goes to the even neighbour. -/
def roundRatio (num den : Nat) : Nat :=
  let q := num / den
  let r := num % den
  if 2 * r < den then q else if den < 2 * r then q + 1 else if q % 2 = 0 then q else q + 1

/-- The ratio divided by a power of two, as a ratio again. -/
def scaled (num den : Nat) (exponent : Int) : Nat × Nat :=
  let power := powerRatio 2 exponent
  (num * power.2, den * power.1)

/-- The least exponent at which a positive ratio needs no more than 53 bits. -/
def fittingExponent (num den : Nat) : Int :=
  let estimate : Int := (num.log2 : Int) - (den.log2 : Int)
  let candidates := [estimate - 54, estimate - 53, estimate - 52, estimate - 51]
  let fits := fun (e : Int) => (scaled num den e).1 / (scaled num den e).2 < Nat.pow 2 53
  max (-1074) ((candidates.find? fits).getD (estimate - 50))

/-- The floating point number nearest to a ratio. -/
def Binary.ofRatio (negative : Bool) (num den : Nat) : Binary :=
  if num = 0 then .finite negative 0 0
  else
    let e := fittingExponent num den
    let ratio := scaled num den e
    let m := roundRatio ratio.1 ratio.2
    let value := if m = Nat.pow 2 53 then (Nat.pow 2 52, e + 1) else (m, e)
    if 971 < value.2 then .infinite negative else .finite negative value.1 value.2

/-- The floating point number nearest to a decimal: digits and a power of ten. -/
def Binary.ofDecimal (negative : Bool) (digits : Nat) (exponent : Int) : Binary :=
  if digits = 0 then .finite negative 0 0
  else if 400 < exponent then .infinite negative
  else if exponent < -800 - (Nat.toDigits 10 digits).length then .finite negative 0 0
  else
    let power := powerRatio 10 exponent
    Binary.ofRatio negative (digits * power.1) power.2

/-- The position of the first decimal digit of a positive ratio: zero for ones, one for tens. -/
def leadingPosition (num den : Nat) : Int :=
  ((Nat.toDigits 10 (num * Nat.pow 10 350 / den)).length : Int) - 351

/-- The ends of the interval of reals that round to a number, as ratios. The interval is narrower
below a power of two. -/
def roundingInterval (mantissa : Nat) (exponent : Int) : (Nat × Nat) × (Nat × Nat) :=
  let half := powerRatio 2 (exponent - 1)
  let quarter := powerRatio 2 (exponent - 2)
  let low :=
    if mantissa = Nat.pow 2 52 ∧ -1074 < exponent then ((4 * mantissa - 1) * quarter.1, quarter.2)
    else ((2 * mantissa - 1) * half.1, half.2)
  (low, ((2 * mantissa + 1) * half.1, half.2))

/-- Whether a ratio lies in an interval, whose ends belong to it if `closed`. -/
def inInterval (closed : Bool) (interval : (Nat × Nat) × (Nat × Nat)) (x : Nat × Nat) : Bool :=
  let below := fun (a b : Nat × Nat) =>
    if closed then a.1 * b.2 ≤ b.1 * a.2 else a.1 * b.2 < b.1 * a.2
  below interval.1 x && below x interval.2

/-- The digits of a number on a decimal grid, if one of its two neighbours there rounds to it. The
nearer one is taken. -/
def onGrid? (mantissa : Nat) (exponent : Int) (unit : Int) : Option Nat :=
  let power := powerRatio 2 exponent
  let grid := powerRatio 10 unit
  let num := mantissa * power.1 * grid.2
  let den := power.2 * grid.1
  let low := num / den
  let inside := fun n => inInterval (mantissa % 2 == 0) (roundingInterval mantissa exponent)
    (n * grid.1, grid.2)
  match inside low, inside (low + 1) with
  | true, true => some (if 2 * (num % den) ≤ den then low else low + 1)
  | true, false => some low
  | false, true => some (low + 1)
  | false, false => none

/-- Drops zeros at the end of digits, counting them. -/
def dropZeros : Nat → Nat → Int → Nat × Int
  | 0, digits, unit => (digits, unit)
  | fuel + 1, digits, unit =>
    if digits % 10 = 0 ∧ digits ≠ 0 then dropZeros fuel (digits / 10) (unit + 1) else (digits, unit)

/-- The fewest digits that read back, with the power of ten of the last one. -/
def shortest (mantissa : Nat) (exponent : Int) : Nat × Int :=
  let power := powerRatio 2 exponent
  let lead := leadingPosition (mantissa * power.1) power.2
  let tries := (List.range 17).filterMap fun (n : Nat) =>
    let unit := lead - (n : Int)
    (onGrid? mantissa exponent unit).map fun digits => (digits, unit)
  match tries.head? with
  | some (digits, unit) => dropZeros 20 digits unit
  | none => (mantissa, 0)

/-- Digits with the position of the first one as text: positional from a ten-thousandth up to below
ten to the sixteenth, with an exponent otherwise. -/
def layout (digits : Text) (lead : Int) : Text :=
  if -4 ≤ lead ∧ lead < 16 then
    if lead < 0 then
      "0.".toList ++ List.replicate (-lead - 1).toNat '0' ++ digits
    else
      let whole := lead.toNat + 1
      if digits.length ≤ whole then
        digits ++ List.replicate (whole - digits.length) '0' ++ ".0".toList
      else digits.take whole ++ '.' :: digits.drop whole
  else
    let fraction := if digits.length ≤ 1 then [] else '.' :: digits.drop 1
    digits.take 1 ++ fraction ++ (if lead < 0 then "e-".toList else "e+".toList) ++
      Text.ofNatPadded 2 lead.natAbs

/-- A floating point number as text. -/
def Binary.toText : Binary → Text
  | .undefined => "nan".toList
  | .infinite negative => if negative then "-inf".toList else "inf".toList
  | .finite negative m e =>
    let sign := if negative then ['-'] else []
    if m = 0 then sign ++ "0.0".toList
    else
      let found := shortest m e
      let digits := Nat.toDigits 10 found.1
      sign ++ layout digits (found.2 + (digits.length : Int) - 1)

/-- Whether a number is zero. -/
def Binary.isZero : Binary → Bool
  | .finite _ m _ => m == 0
  | _ => false

end DocReport.Decimal
