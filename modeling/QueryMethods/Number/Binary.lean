/-
Binary floating-point numbers as bit patterns. A format says how many bits hold the fraction and
the exponent; a pattern is read as not-a-number, an infinity or `significand · 2^exponent`, and
an exact value is written by rounding to the nearest pattern, ties to the even one. Every
operation is exact arithmetic on integers.
-/

namespace QueryMethods

/-! ## Formats -/

/-- An interchange format: one sign bit, the exponent, the fraction. -/
structure FloatFormat where
  fractionBits : Nat
  exponentBits : Nat

/-- What a bit pattern stands for. -/
inductive FloatClass where
  | nan
  | infinite (negative : Bool)
  /-- The value `significand · 2^exponent`, with its sign. -/
  | finite (negative : Bool) (significand : Nat) (exponent : Int)
  deriving DecidableEq, Repr

namespace FloatFormat

/-- The exponent of the last place of the smallest numbers. -/
def lowestExponent (f : FloatFormat) : Int :=
  2 - (Nat.pow 2 (f.exponentBits - 1) : Nat) - f.fractionBits

/-- The pattern of infinity, without its sign. -/
def infinity (f : FloatFormat) : Nat :=
  (Nat.pow 2 f.exponentBits - 1) * Nat.pow 2 f.fractionBits

/-- The sign bit, in place. -/
def signBit (f : FloatFormat) (negative : Bool) : Nat :=
  if negative then Nat.pow 2 (f.fractionBits + f.exponentBits) else 0

/-- Read a bit pattern. -/
def classify (f : FloatFormat) (bits : Nat) : FloatClass :=
  let negative := bits / Nat.pow 2 (f.fractionBits + f.exponentBits) % 2 == 1
  let exponent := bits / Nat.pow 2 f.fractionBits % Nat.pow 2 f.exponentBits
  let fraction := bits % Nat.pow 2 f.fractionBits
  if exponent = Nat.pow 2 f.exponentBits - 1 then
    if fraction = 0 then .infinite negative else .nan
  else if exponent = 0 then .finite negative fraction f.lowestExponent
  else
    .finite negative (Nat.pow 2 f.fractionBits + fraction)
      (f.lowestExponent + (exponent - 1 : Nat))

/-- `m / 2^shift` to the nearest integer, ties to the even one. -/
def halve (m shift : Nat) : Nat :=
  let unit := Nat.pow 2 shift
  let quotient := m / unit
  let twice := 2 * (m % unit)
  if unit < twice || (twice = unit && quotient % 2 = 1) then quotient + 1 else quotient

/-- The pattern nearest to `m · 2^e`; what is too large is infinite. -/
def round (f : FloatFormat) (negative : Bool) (m : Nat) (e : Int) : Nat :=
  let magnitude :=
    if m = 0 then 0
    else
      let place := max (e + Nat.log2 m - f.fractionBits) f.lowestExponent
      let significand :=
        if place ≤ e then m * Nat.pow 2 (e - place).toNat else halve m (place - e).toNat
      min ((place - f.lowestExponent).toNat * Nat.pow 2 f.fractionBits + significand) f.infinity
  f.signBit negative + magnitude

/-- A quiet not-a-number. -/
def quietNan (f : FloatFormat) : Nat := f.infinity + Nat.pow 2 (f.fractionBits - 1)

/-- The pattern for a class of values. -/
def encode (f : FloatFormat) : FloatClass → Nat
  | .nan => f.quietNan
  | .infinite negative => f.signBit negative + f.infinity
  | .finite negative m e => f.round negative m e

end FloatFormat

/-- The 32-bit format. -/
def binary32 : FloatFormat := ⟨23, 8⟩

/-- The 64-bit format. -/
def binary64 : FloatFormat := ⟨52, 11⟩

/-! ## The two number types -/

/-- A 32-bit floating-point number, by its bits. -/
structure Binary32 where
  bits : UInt32
  deriving DecidableEq, Repr, Inhabited

/-- A 64-bit floating-point number, by its bits. -/
structure Binary64 where
  bits : UInt64
  deriving DecidableEq, Repr, Inhabited

namespace FloatClass

/-- Numeric equality: nothing equals not-a-number, and the two zeros are equal. -/
def equal : FloatClass → FloatClass → Bool
  | .nan, _ => false
  | _, .nan => false
  | .infinite a, .infinite b => a == b
  | .finite a m e, .finite b n d => (m == 0 && n == 0) || (a == b && m == n && e == d)
  | _, _ => false

/-- The integer part, kept between `low` and `high`; not-a-number gives 0. -/
def truncate (low high : Int) : FloatClass → Int
  | .nan => 0
  | .infinite negative => if negative then low else high
  | .finite negative m e =>
    let magnitude : Nat :=
      if 0 ≤ e then m * Nat.pow 2 e.toNat else m / Nat.pow 2 (-e).toNat
    max low (min high (if negative then -(magnitude : Int) else magnitude))

end FloatClass

namespace Binary32

def classify (x : Binary32) : FloatClass := binary32.classify x.bits.toNat

/-- The number nearest to the value. -/
def ofClass (c : FloatClass) : Binary32 := ⟨UInt32.ofNat (binary32.encode c)⟩

def isNan (x : Binary32) : Bool := x.classify == .nan

def equal (a b : Binary32) : Bool := a.classify.equal b.classify

end Binary32

namespace Binary64

def classify (x : Binary64) : FloatClass := binary64.classify x.bits.toNat

/-- The number nearest to the value. -/
def ofClass (c : FloatClass) : Binary64 := ⟨UInt64.ofNat (binary64.encode c)⟩

/-- The number nearest to an integer. -/
def ofInt (n : Int) : Binary64 := ofClass (.finite (n < 0) n.natAbs 0)

def isNan (x : Binary64) : Bool := x.classify == .nan

def equal (a b : Binary64) : Bool := a.classify.equal b.classify

/-- The integer part as a 64-bit integer, the nearest one when out of range. -/
def toInt64 (x : Binary64) : Int64 :=
  Int64.ofInt (x.classify.truncate Int64.minValue.toInt Int64.maxValue.toInt)

/-- The nearest 32-bit number. -/
def toBinary32 (x : Binary64) : Binary32 := .ofClass x.classify

end Binary64

/-- The same number in 64 bits; every 32-bit number has one. -/
def Binary32.toBinary64 (x : Binary32) : Binary64 := .ofClass x.classify

end QueryMethods
