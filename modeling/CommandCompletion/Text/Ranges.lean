namespace CommandCompletion.Text

-- Whether a number lies in one of the ranges, which are given by their first and last numbers.
def isWithin (ranges : List (Nat × Nat)) (n : Nat) : Bool :=
  ranges.any fun (first, last) => first ≤ n && n ≤ last

end CommandCompletion.Text
