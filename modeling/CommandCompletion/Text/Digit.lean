import CommandCompletion.Text.Blank

namespace CommandCompletion.Text

-- The zeros of the decimal digit runs of Unicode 14. A script's ten digits stand in order.
def zeroDigits : List Nat := [
  0x30, 0x660, 0x6f0, 0x7c0, 0x966, 0x9e6, 0xa66, 0xae6, 0xb66, 0xbe6, 0xc66, 0xce6, 0xd66, 0xde6,
  0xe50, 0xed0, 0xf20, 0x1040, 0x1090, 0x17e0, 0x1810, 0x1946, 0x19d0, 0x1a80, 0x1a90, 0x1b50,
  0x1bb0, 0x1c40, 0x1c50, 0xa620, 0xa8d0, 0xa900, 0xa9d0, 0xa9f0, 0xaa50, 0xabf0, 0xff10, 0x104a0,
  0x10d30, 0x11066, 0x110f0, 0x11136, 0x111d0, 0x112f0, 0x11450, 0x114d0, 0x11650, 0x116c0,
  0x11730, 0x118e0, 0x11950, 0x11c50, 0x11d50, 0x11da0, 0x16a60, 0x16ac0, 0x16b50, 0x1d7ce,
  0x1d7d8, 0x1d7e2, 0x1d7ec, 0x1d7f6, 0x1e140, 0x1e2f0, 0x1e950, 0x1fbf0]

-- The value of a decimal digit of any script.
def digit? (c : CodePoint) : Option Nat :=
  (zeroDigits.find? fun first => first ≤ c.toNat && c.toNat < first + 10).map (c.toNat - ·)

-- Digits with single underscores between them, most significant first.
def digitRun? : Text → Option (List Nat)
  | [] => none
  | [c] => (digit? c).map ([·])
  | c :: .char '_' :: rest => do
    let d ← digit? c
    return d :: (← digitRun? rest)
  | c :: rest => do
    let d ← digit? c
    return d :: (← digitRun? rest)

def ofDigits (base : Nat) (digits : List Nat) : Nat :=
  digits.foldl (fun value d => base * value + d) 0

-- More digits than this are refused, leading zeros included.
def maxDigits : Nat := 4300

-- The ASCII separators are white space but do not stand around a number.
def isNumberBlank (c : CodePoint) : Bool :=
  isBlank c && !(28 ≤ c.toNat && c.toNat < 32)

def trimNumber (text : Text) : Text :=
  ((text.dropWhile isNumberBlank).reverse.dropWhile isNumberBlank).reverse

-- A whole number: blanks around it, a sign before it, decimal digits of any script.
def integer? (text : Text) : Option Int :=
  let (negative, digits) :=
    match trimNumber text with
    | .char '-' :: rest => (true, rest)
    | .char '+' :: rest => (false, rest)
    | rest => (false, rest)
  match digitRun? digits with
  | none => none
  | some run =>
    if maxDigits < run.length then none
    else
      let size : Int := ofDigits 10 run
      some (if negative then -size else size)

end CommandCompletion.Text
