namespace CommandCompletion

-- A floating-point number of 64 bits: sign, eleven bits of exponent, 52 bits of fraction.
structure Double where
  bits : UInt64
deriving DecidableEq, Repr

namespace Double

def sign (d : Double) : Bool := d.bits.toNat ≥ Nat.pow 2 63

def exponentField (d : Double) : Nat := d.bits.toNat / Nat.pow 2 52 % Nat.pow 2 11

def fraction (d : Double) : Nat := d.bits.toNat % Nat.pow 2 52

def isNaN (d : Double) : Bool := d.exponentField = 2047 && d.fraction ≠ 0

def isInfinite (d : Double) : Bool := d.exponentField = 2047 && d.fraction = 0

-- A finite number is `mantissa * 2 ^ (scale - 1074)`. Numbers below the least normal one share
-- its scale.
def mantissa (d : Double) : Nat :=
  if d.exponentField = 0 then d.fraction else d.fraction + Nat.pow 2 52

def scale (d : Double) : Nat := d.exponentField - 1

def isZero (d : Double) : Bool := d.exponentField = 0 && d.fraction = 0

-- Whether a number is a whole one of less than 64 bits with its sign.
def isWord (d : Double) : Bool :=
  d.exponentField < 1086 && (1074 ≤ d.scale || d.mantissa % Nat.pow 2 (1074 - d.scale) = 0)

def zero (negative : Bool) : Double := ⟨if negative then 9223372036854775808 else 0⟩

def infinity (negative : Bool) : Double :=
  ⟨(2047 * Nat.pow 2 52 + (if negative then Nat.pow 2 63 else 0) : Nat).toUInt64⟩

def nan : Double := ⟨(2047 * Nat.pow 2 52 + Nat.pow 2 51 : Nat).toUInt64⟩

-- The quotient rounded to the nearest whole number, a half to the even one.
def roundHalfEven (num den : Nat) : Nat :=
  let q := num / den
  let twice := 2 * (num % den)
  if twice < den || (twice = den && q % 2 = 0) then q else q + 1

-- The number of binary digits of a quotient, less one, when it is at least one. A quotient below
-- one counts as negative.
def floorLog2 (num den : Nat) : Int :=
  let guess : Int := (Nat.log2 num : Int) - Nat.log2 den
  let below :=
    if guess ≥ 0 then num < den * Nat.pow 2 guess.toNat
    else num * Nat.pow 2 (-guess).toNat < den
  if below then guess - 1 else guess

-- The double nearest to `num / den`, both positive. The mantissa's carry at a power of two runs
-- into the exponent field, which is the encoding of the next power.
def ofQuotient (negative : Bool) (num den : Nat) : Double :=
  let scale := (floorLog2 num den - 52 + 1074).toNat
  let mantissa :=
    if scale ≤ 1074 then roundHalfEven (num * Nat.pow 2 (1074 - scale)) den
    else roundHalfEven num (den * Nat.pow 2 (scale - 1074))
  let bits := scale * Nat.pow 2 52 + mantissa
  if 2047 * Nat.pow 2 52 ≤ bits then infinity negative
  else ⟨(bits + (if negative then Nat.pow 2 63 else 0)).toUInt64⟩

-- The double nearest to `digits * 10 ^ exponent`. Beyond 10 ^ 310 and below 10 ^ -400 the answer
-- is known without forming the power of ten.
def ofDecimal (negative : Bool) (digits : Nat) (exponent : Int) : Double :=
  if digits = 0 then zero negative
  else
    let size : Int := (Nat.toDigits 10 digits).length + exponent
    if 311 < size then infinity negative
    else if size < -400 then zero negative
    else if 0 ≤ exponent then ofQuotient negative (digits * Nat.pow 10 exponent.toNat) 1
    else ofQuotient negative digits (Nat.pow 10 (-exponent).toNat)

end Double

end CommandCompletion
