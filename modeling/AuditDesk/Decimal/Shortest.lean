/-!
The shortest decimal that reads back as a given double. A finite positive double is `mantissa · 2^q`;
the reals that round to it form an interval whose ends belong to it exactly when the mantissa is
even. Digit counts are tried from one upwards, so the first grid with a point in the interval gives
the fewest digits, and of its points the one nearest to the double is taken.
-/
namespace AuditDesk.Decimal

/-- A finite double without its sign: `mantissa · 2^exponent`. -/
structure Dyadic where
  mantissa : Nat
  exponent : Int
  /-- The spacing below the value is half the spacing above it: a power of two that is not the
  smallest normal number. -/
  narrowBelow : Bool

namespace Dyadic

/-- Splits the 64 bits of a double into its parts; the sign is dropped. Infinities and NaN have no
parts. -/
def ofBits? (bits : UInt64) : Option Dyadic :=
  let word : Nat := bits.toNat
  let field : Nat := word / Nat.pow 2 52 % Nat.pow 2 11
  let fraction : Nat := word % Nat.pow 2 52
  if field = 2047 then none
  else if field = 0 then some ⟨fraction, -1074, false⟩
  else some ⟨Nat.pow 2 52 + fraction, (field : Int) - 1075, decide (fraction = 0 ∧ 1 < field)⟩

end Dyadic

/-- Compares `a · 2^i` with `b · 10^j` exactly. -/
private def compareScaled (a : Nat) (i : Int) (b : Nat) (j : Int) : Ordering :=
  compare (a * Nat.pow 2 i.toNat * Nat.pow 10 (-j).toNat)
    (b * Nat.pow 10 j.toNat * Nat.pow 2 (-i).toNat)

/-- The greatest natural number `n` with `n · 10^j ≤ a · 2^i`. -/
private def floorAt (a : Nat) (i : Int) (j : Int) : Nat :=
  (a * Nat.pow 2 i.toNat * Nat.pow 10 (-j).toNat) / (Nat.pow 10 j.toNat * Nat.pow 2 (-i).toNat)

/-- Whether `n · 10^j` rounds to the double. Four times the mantissa is compared, so that both ends
of the interval are whole multiples of the unit. -/
private def roundsTo (d : Dyadic) (n : Nat) (j : Int) : Bool :=
  let unit := d.exponent - 2
  let low := 4 * d.mantissa - (if d.narrowBelow then 1 else 2)
  let high := 4 * d.mantissa + 2
  let closed := d.mantissa % 2 == 0
  let fromBelow := compareScaled low unit n j
  let fromAbove := compareScaled high unit n j
  (fromBelow == .lt || (closed && fromBelow == .eq)) &&
    (fromAbove == .gt || (closed && fromAbove == .eq))

/-- The multiple of `10^j` that rounds to the double and is nearest to it; of two equally near ones
the even one. -/
private def nearestAt (d : Dyadic) (j : Int) : Option Nat :=
  let below := floorAt d.mantissa d.exponent j
  let above := below + 1
  match roundsTo d below j, roundsTo d above j with
  | false, false => none
  | true, false => some below
  | false, true => some above
  | true, true =>
      match compareScaled (2 * d.mantissa) d.exponent (below + above) j with
      | .lt => some below
      | .gt => some above
      | .eq => some (if below % 2 = 0 then below else above)

/-- The number of decimal digits before the point in `mantissa · 2^exponent`, at least when the value
is one or more; for smaller values it counts the zeros after the point negatively. -/
private def magnitude (d : Dyadic) : Int :=
  if 0 ≤ d.exponent then
    (Nat.toDigits 10 (d.mantissa * Nat.pow 2 d.exponent.toNat)).length
  else
    -- Scaling by a power of ten that makes the value a whole number leaves the digit count known.
    let shift := (-d.exponent).toNat
    ((Nat.toDigits 10 (d.mantissa * Nat.pow 10 shift / Nat.pow 2 shift)).length : Int) - shift

/-- Tries digit counts from `count` on; seventeen digits always suffice. -/
private def search (d : Dyadic) (size : Int) : Nat → Nat → Nat × Int
  | 0, count => (floorAt d.mantissa d.exponent (size - count), size - count)
  | tries + 1, count =>
      match nearestAt d (size - count) with
      | some n => (n, size - count)
      | none => search d size tries (count + 1)

/-- Moves trailing zeros of the significand into the exponent. -/
private def dropZeros : Nat → Nat → Int → Nat × Int
  | 0, n, j => (n, j)
  | fuel + 1, n, j => if n ≠ 0 ∧ n % 10 = 0 then dropZeros fuel (n / 10) (j + 1) else (n, j)

/-- Significand and decimal exponent of the shortest decimal that reads back as the double. -/
def shortest (d : Dyadic) : Nat × Int :=
  if d.mantissa = 0 then (0, 0)
  else
    let (n, j) := search d (magnitude d) 17 1
    dropZeros 20 n j

/-- How a decimal is laid out as text. -/
structure Layout where
  /-- The least exponent of the leading digit that is still written positionally. -/
  leastPositional : Int
  /-- From this exponent of the leading digit on, an exponent is written. -/
  firstExponential : Int
  /-- The text between the significand and a non-negative exponent. -/
  positiveMark : String
  /-- The text between the significand and the size of a negative exponent. -/
  negativeMark : String

private def zeros (count : Nat) : String :=
  String.ofList (List.replicate count '0')

/-- Writes `significand · 10^exponent`; a whole number written positionally keeps `.0`. -/
def Layout.write (layout : Layout) (significand : Nat) (exponent : Int) : String :=
  let digits := Nat.toDigits 10 significand
  let leading := exponent + digits.length - 1
  if layout.leastPositional ≤ leading && leading < layout.firstExponential then
    if 0 ≤ exponent then String.ofList digits ++ zeros exponent.toNat ++ ".0"
    else if 0 ≤ leading then
      let whole := (leading + 1).toNat
      String.ofList (digits.take whole) ++ "." ++ String.ofList (digits.drop whole)
    else "0." ++ zeros (-leading - 1).toNat ++ String.ofList digits
  else
    let point := if digits.length = 1 then "" else "."
    let mark := if 0 ≤ leading then layout.positiveMark else layout.negativeMark
    String.ofList (digits.take 1) ++ point ++ String.ofList (digits.drop 1) ++ mark ++
      toString leading.natAbs

end AuditDesk.Decimal
