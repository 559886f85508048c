namespace CommandCompletion.Text

-- Where a fault stands in a text: lines and columns count from one, the offset from zero.
structure Location where
  line : Nat
  column : Nat
  offset : Nat
deriving DecidableEq, Repr

-- The location reached after the characters of `before`.
def locate (before : List Char) : Location where
  line := before.count '\n' + 1
  column := (before.reverse.takeWhile (· != '\n')).length + 1
  offset := before.length

end CommandCompletion.Text
