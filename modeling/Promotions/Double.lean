/-!
# Double-precision numbers

A `Double` is a double-precision number, held as its 64 bits. `Double.toRat?` is the number that it
stands for; `Double.ofDecimal` and `Double.share` round to the nearest double.
-/

namespace Promotions

/-- A double-precision number, held as its 64 bits. -/
structure Double where
  bits : UInt64
  deriving DecidableEq, Repr, Inhabited

namespace Double

/-- The number a double stands for; infinities and not-a-numbers stand for none. -/
def toRat? (d : Double) : Option Rat :=
  let bits := d.bits.toNat
  let fraction : Nat := bits % (1 <<< 52)
  let exponent : Nat := (bits >>> 52) % (1 <<< 11)
  let magnitude : Nat := if exponent = 0 then fraction else fraction + (1 <<< 52)
  let signed : Int := if bits >>> 63 = 1 then -(magnitude : Int) else magnitude
  if exponent = 2047 then none
  else if exponent ≤ 1075 then some (mkRat signed (1 <<< (1075 - max exponent 1)))
  else some (mkRat (signed * (1 <<< (exponent - 1075) : Nat)) 1)

/-- The sign bit is set. -/
def isNegative (d : Double) : Bool := d.bits >>> 63 = 1

/-- The double stands for a number. -/
def isFinite (d : Double) : Bool := d.toRat?.isSome

/-- Positive or negative infinity. -/
def infinity (negative : Bool) : Double :=
  ⟨if negative then 0xfff0000000000000 else 0x7ff0000000000000⟩

/-- A double that is not a number. -/
def notANumber (negative : Bool) : Double :=
  ⟨if negative then 0xfff8000000000000 else 0x7ff8000000000000⟩

/-- The double nearest to `mantissa · 10 ^ (-places)`, or its negative. -/
def ofDecimal (negative : Bool) (mantissa : Nat) (places : Int) : Double :=
  let size := if places ≥ 0 then Float.ofScientific mantissa true places.toNat
    else Float.ofScientific mantissa false (-places).toNat
  ⟨(if negative then -size else size).toBits⟩

/-- The double nearest to an integer. -/
def ofInt (n : Int) : Double := ofDecimal (n < 0) n.natAbs 0

/-- The share `part / whole`, rounded to a double; a share of nothing is zero. -/
def share (part whole : Nat) : Double :=
  ⟨(if whole = 0 then 0.0 else Float.ofNat part / Float.ofNat whole).toBits⟩

/-- How many `scale`ths a double lies above the whole number below it: the product is rounded to a
double and then to a whole number, a half upwards. -/
def partsAbove (d : Double) (scale : Nat) : Nat :=
  let x := Float.ofBits d.bits
  ((x - x.floor) * Float.ofNat scale).round.toUInt64.toNat

end Double

end Promotions
