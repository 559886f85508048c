import CommandCompletion.Decimal.Double

namespace CommandCompletion.Double

-- Four times the mantissa and four times the ends of the interval of reals that round to it, all
-- in units of `2 ^ (scale - 1076)`. Below a power of two the next double is half as far.
def quarters (d : Double) : Nat × Nat × Nat :=
  let m := d.mantissa
  let low := if m = Nat.pow 2 52 && d.scale ≠ 0 then 4 * m - 1 else 4 * m - 2
  (low, 4 * m, 4 * m + 2)

-- `n * 10 ^ x` against `w * 2 ^ (scale - 1076)`, both brought to whole numbers.
def decimalSide (d : Double) (x : Int) : Nat :=
  Nat.pow 10 x.toNat * Nat.pow 2 (1076 - d.scale)

def binarySide (d : Double) (x : Int) : Nat :=
  Nat.pow 2 (d.scale - 1076) * Nat.pow 10 (-x).toNat

-- Whether `n * 10 ^ x` rounds to `d`. The ends of the interval do when the mantissa is even.
def readsBack (d : Double) (n : Nat) (x : Int) : Bool :=
  let (low, _, high) := d.quarters
  let n := n * d.decimalSide x
  let low := low * d.binarySide x
  let high := high * d.binarySide x
  if d.mantissa % 2 = 0 then low ≤ n && n ≤ high else low < n && n < high

-- The power of ten of the first digit of a positive number.
def leadingPower (d : Double) : Int :=
  let guess := ((Nat.log2 d.mantissa : Int) + d.scale - 1074) * 30103 / 100000
  let reaches (x : Int) : Bool := d.decimalSide x ≤ d.quarters.2.1 * d.binarySide x
  if reaches (guess + 1) then guess + 1 else if reaches guess then guess else guess - 1

-- The nearest neighbour of a number among the multiples of `10 ^ x` that round to it. Of two
-- equally near ones the even one is taken.
def onGrid? (d : Double) (x : Int) : Option Nat :=
  let value := d.quarters.2.1 * d.binarySide x
  let unit := d.decimalSide x
  let below := value / unit
  match d.readsBack below x, d.readsBack (below + 1) x with
  | true, false => some below
  | false, true => some (below + 1)
  | true, true => some (roundHalfEven value unit)
  | false, false => none

-- The fewest digits that round to a positive number, and the power of ten of the last one.
-- Seventeen digits always do.
def shortest (d : Double) : Nat × Int :=
  let top := d.leadingPower
  let tries := (List.range 17).filterMap fun (count : Nat) =>
    (d.onGrid? (top - count)).map ((·, top - count))
  tries.headD (0, 0)

-- Digits without zeros at the end, and the power of ten of the last one.
def withoutZeros (fuel n : Nat) (x : Int) : Nat × Int :=
  match fuel with
  | 0 => (n, x)
  | fuel + 1 => if n ≠ 0 && n % 10 = 0 then withoutZeros fuel (n / 10) (x + 1) else (n, x)

def padded (width : Nat) (digits : List Char) : List Char :=
  List.replicate (width - digits.length) '0' ++ digits

-- Numbers from 10 ^ -4 up to 10 ^ 16 are written with a point and at least one digit after it,
-- others with an exponent of at least two digits.
def written (digits : List Char) (power : Int) : List Char :=
  let count : Int := digits.length
  let first := power + count - 1
  if -4 ≤ first && first < 16 then
    if 0 ≤ power then digits ++ List.replicate power.toNat '0' ++ ['.', '0']
    else if 0 ≤ first then digits.take (first + 1).toNat ++ '.' :: digits.drop (first + 1).toNat
    else '0' :: '.' :: List.replicate (-first - 1).toNat '0' ++ digits
  else
    let tail := match digits with
      | [d] => [d]
      | d :: rest => d :: '.' :: rest
      | [] => []
    tail ++ 'e' :: (if first < 0 then '-' else '+') :: padded 2 (Nat.toDigits 10 first.natAbs)

-- The text of a number: the fewest digits that read back as it.
def text (d : Double) : String :=
  if d.isNaN then "nan"
  else
    let size :=
      if d.isInfinite then "inf".toList
      else if d.isZero then "0.0".toList
      else
        let (n, x) := d.shortest
        let (n, x) := withoutZeros 20 n x
        written (Nat.toDigits 10 n) x
    String.ofList (if d.sign then '-' :: size else size)

end CommandCompletion.Double
