import CommandCompletion.Argument
import CommandCompletion.Grammar.Redirect
import CommandCompletion.Text.Blank

namespace CommandCompletion

open Text (isBlank trimStart spaced)

def isInk (c : CodePoint) : Bool := !isBlank c

-- The line after a literal and the blanks behind it. Only a blank or the end of the line ends a
-- literal.
def takeLiteral (name line : Text) : Option Text :=
  if name.isPrefixOf line then
    match line.drop name.length with
    | [] => some []
    | c :: rest => if isBlank c then some (trimStart rest) else none
  else none

-- The first `count` words of a line and the line after them. A word without a blank behind it is
-- still being typed and does not count.
def takeWords : Nat → Text → Option (List Text × Text)
  | 0, line => some ([], line)
  | count + 1, line =>
    let word := line.takeWhile isInk
    let gap := line.dropWhile isInk
    if word = [] ∨ gap = [] then none
    else (takeWords count (trimStart gap)).map fun (words, rest) => (word :: words, rest)

-- What a node takes from the start of a line: the text it is bound to, if it is an argument, and
-- the line that is left.
structure Bite where
  bound : Option Text
  rest : Text
deriving DecidableEq, Repr

def Node.bite? (node : Node) (name line : Text) : Option Bite :=
  match node.kind with
  | .root => none
  | .literal => (takeLiteral name line).map fun rest => ⟨none, rest⟩
  | .argument =>
    (takeWords node.argument.width line).map fun (words, rest) => ⟨some (spaced words), rest⟩

theorem length_trimStart_le (line : Text) : (trimStart line).length ≤ line.length :=
  (List.dropWhile_sublist _).length_le

theorem length_lt_of_takeLiteral {name line rest : Text} (hn : name ≠ [])
    (h : takeLiteral name line = some rest) : rest.length < line.length := by
  have pos : 0 < name.length := List.length_pos_iff.mpr hn
  unfold takeLiteral at h
  split at h
  · next hp =>
    have le := (List.isPrefixOf_iff_prefix.mp hp).length_le
    have drop := List.length_drop (l := line) (i := name.length)
    split at h
    · cases h
      simp only [List.length_nil]
      omega
    · next c cs hd =>
      split at h
      · cases h
        rw [hd, List.length_cons] at drop
        have := length_trimStart_le cs
        omega
      · cases h
  · cases h

theorem length_le_of_takeWords {count : Nat} {line rest : Text} {words : List Text}
    (h : takeWords count line = some (words, rest)) : rest.length + count ≤ line.length := by
  induction count generalizing line words with
  | zero =>
    cases h
    omega
  | succ count ih =>
    simp only [takeWords] at h
    split at h
    · cases h
    · next full =>
      obtain ⟨⟨others, left⟩, ho, he⟩ := Option.map_eq_some_iff.mp h
      cases he
      have step := ih ho
      have trimmed := length_trimStart_le (line.dropWhile isInk)
      have whole := congrArg List.length (List.takeWhile_append_dropWhile (p := isInk) (l := line))
      have filled : 0 < (line.takeWhile isInk).length :=
        List.length_pos_iff.mpr fun he => full (.inl he)
      rw [List.length_append] at whole
      omega

theorem width_pos (a : Argument) : 0 < a.width := by
  cases a <;> decide

theorem length_lt_of_bite? {node : Node} {name line : Text} {bite : Bite}
    (hn : name ≠ []) (h : node.bite? name line = some bite) : bite.rest.length < line.length := by
  unfold Node.bite? at h
  split at h
  · cases h
  · obtain ⟨rest, hr, rfl⟩ := Option.map_eq_some_iff.mp h
    exact length_lt_of_takeLiteral hn hr
  · obtain ⟨⟨words, rest⟩, hr, rfl⟩ := Option.map_eq_some_iff.mp h
    have := length_le_of_takeWords hr
    have := width_pos node.argument
    simp only
    omega

end CommandCompletion
