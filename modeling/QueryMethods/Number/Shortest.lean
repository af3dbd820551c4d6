/-
The text of a floating-point number. Its digits are the fewest that read back as the same number,
and of those the nearest to it; the search runs in exact integer arithmetic. A layout says where
the digits go: always positional, or with an exponent outside a range.
-/
import QueryMethods.Number.Binary
import QueryMethods.Text.Basic

namespace QueryMethods

/-! ## Digits -/

/-- A decimal `digits · 10^power`. -/
structure Decimal where
  digits : Nat
  power : Int
  deriving DecidableEq, Repr

/-- `b^p` as a fraction of naturals. -/
def powerFraction (b : Nat) (p : Int) : Nat × Nat :=
  if 0 ≤ p then (Nat.pow b p.toNat, 1) else (1, Nat.pow b (-p).toNat)

/-- The decimals that read back as one number lie between `low` and `high` quarters of the
number's last place, the ends included when the significand is even. -/
structure RoundingRange where
  low : Nat
  value : Nat
  high : Nat
  /-- A quarter of the last place, as a power of two. -/
  unit : Int
  closed : Bool

/-- The range of the positive number `m · 2^e`. Below a power of two the neighbours are nearer. -/
def FloatFormat.roundingRange (f : FloatFormat) (m : Nat) (e : Int) : RoundingRange :=
  { low := if m = Nat.pow 2 f.fractionBits && f.lowestExponent < e then 4 * m - 1 else 4 * m - 2
    value := 4 * m
    high := 4 * m + 2
    unit := e - 2
    closed := m % 2 = 0 }

namespace RoundingRange

/-- `a · 10^p` against `b` quarters, as two naturals to compare. -/
def scale (r : RoundingRange) (a b : Nat) (p : Int) : Nat × Nat :=
  let (tenUp, tenDown) := powerFraction 10 p
  let (twoUp, twoDown) := powerFraction 2 r.unit
  (a * tenUp * twoDown, b * twoUp * tenDown)

/-- Does `a · 10^p` lie in the range? -/
def contains (r : RoundingRange) (a : Nat) (p : Int) : Bool :=
  let (x, low) := r.scale a r.low p
  let (y, high) := r.scale a r.high p
  (low < x || (r.closed && low == x)) && (y < high || (r.closed && y == high))

/-- The power of ten of the leading digit. -/
def leadingPower (r : RoundingRange) : Int :=
  let (up, down) := powerFraction 2 r.unit
  let n := r.value * up
  let estimate : Int := (digitCount n : Int) - digitCount down
  let (tenUp, tenDown) := powerFraction 10 estimate
  if down * tenUp ≤ n * tenDown then estimate else estimate - 1

/-- The point of the grid of step `10^p` that reads back, the nearer one if two do and the upper
one if they are equally near. -/
def pick (r : RoundingRange) (p : Int) : Option Decimal :=
  let (one, value) := r.scale 1 r.value p
  let below := value / one
  let upperIsNear := one ≤ 2 * (value % one)
  match r.contains below p && below != 0, r.contains (below + 1) p with
  | true, true => some ⟨if upperIsNear then below + 1 else below, p⟩
  | true, false => some ⟨below, p⟩
  | false, true => some ⟨below + 1, p⟩
  | false, false => none

/-- Try grids of ever smaller steps. -/
def search (r : RoundingRange) : Nat → Int → Decimal
  | 0, p => ⟨(r.scale 1 r.value p).2 / (r.scale 1 r.value p).1, p⟩
  | more + 1, p => (r.pick p).getD (r.search more (p - 1))

end RoundingRange

/-- Drop the zeros at the end of the digits. -/
def Decimal.strip : Nat → Decimal → Decimal
  | 0, d => d
  | more + 1, d =>
    if d.digits ≠ 0 ∧ d.digits % 10 = 0 then strip more ⟨d.digits / 10, d.power + 1⟩ else d

/-- The fewest digits that read back as `m · 2^e`; seventeen always do. -/
def FloatFormat.shortest (f : FloatFormat) (m : Nat) (e : Int) : Decimal :=
  let r := f.roundingRange m e
  let d := r.search 17 r.leadingPower
  d.strip (digitCount d.digits)

/-! ## Layout -/

/-- Where the digits of a number go. -/
structure NumberLayout where
  /-- Numbers whose leading digit has this power of ten are written without an exponent. -/
  positional : Int → Bool
  /-- Whether whole numbers written without an exponent end in `.0`. -/
  wholeMark : Bool

namespace NumberLayout

/-- Plain text: never an exponent, whole numbers without a fraction. -/
def plain : NumberLayout := ⟨fun _ => true, false⟩

/-- Inspection text: an exponent below `10^-4` and from `10^16` on, whole numbers with `.0`. -/
def inspection : NumberLayout := ⟨fun power => -5 < power && power < 16, true⟩

/-- The digits of a positive decimal in place. -/
def place (layout : NumberLayout) (d : Decimal) : List Char :=
  let ds := Nat.toDigits 10 d.digits
  let leading : Int := d.power + ds.length - 1
  if layout.positional leading then
    if 0 ≤ d.power then
      ds ++ List.replicate d.power.toNat '0' ++ (if layout.wholeMark then ['.', '0'] else [])
    else if 0 ≤ leading then
      ds.take (leading.toNat + 1) ++ '.' :: ds.drop (leading.toNat + 1)
    else
      ['0', '.'] ++ List.replicate (-leading - 1).toNat '0' ++ ds
  else
    let fraction := match ds.drop 1 with
      | [] => []
      | rest => '.' :: rest
    ds.take 1 ++ fraction ++ 'e' :: (toString leading).toList

/-- The text of a number. -/
def write (layout : NumberLayout) (f : FloatFormat) : FloatClass → String
  | .nan => "NaN"
  | .infinite negative => if negative then "-inf" else "inf"
  | .finite negative m e =>
    let sign := if negative then ['-'] else []
    let magnitude :=
      if m = 0 then '0' :: (if layout.wholeMark then ['.', '0'] else [])
      else layout.place (f.shortest m e)
    String.ofList (sign ++ magnitude)

end NumberLayout

/-- The text of a 32-bit number. -/
def Binary32.text (x : Binary32) (layout : NumberLayout) : String :=
  layout.write binary32 x.classify

/-- The text of a 64-bit number. -/
def Binary64.text (x : Binary64) (layout : NumberLayout) : String :=
  layout.write binary64 x.classify

end QueryMethods
