import CommandCompletion.Text

namespace CommandCompletion.Text

-- How many code points two texts share at their fronts.
def shared : Text → Text → Nat
  | c :: rest, d :: others => if c = d then shared rest others + 1 else 0
  | _, _ => 0

-- A run of code points that stands in two texts, by its starts in both.
structure Overlap where
  first : Nat
  second : Nat
  length : Nat
deriving DecidableEq, Repr

def overlaps (text other : Text) : List Overlap :=
  (List.range text.length).flatMap fun i =>
    (List.range other.length).map fun j => ⟨i, j, shared (text.drop i) (other.drop j)⟩

-- The longest run in common; of several the first in the one text, and then in the other.
def longestOverlap? (text other : Text) : Option Overlap :=
  let longest := ((overlaps text other).map (·.length)).foldl max 0
  (overlaps text other).find? fun o => 0 < o.length && o.length = longest

theorem first_lt_of_longestOverlap? {text other : Text} {o : Overlap}
    (h : longestOverlap? text other = some o) : o.first < text.length ∧ 0 < o.length := by
  have found := List.find?_some h
  have listed := List.mem_of_find?_eq_some h
  simp only [overlaps, List.mem_flatMap, List.mem_map, List.mem_range] at listed
  obtain ⟨i, hi, j, -, rfl⟩ := listed
  simp only [Bool.and_eq_true, decide_eq_true_eq] at found
  exact ⟨hi, found.1⟩

-- How many code points two texts have in common in order: those of the longest run, and those in
-- common before it and after it.
def common (text other : Text) : Nat :=
  match _h : longestOverlap? text other with
  | none => 0
  | some o =>
    common (text.take o.first) (other.take o.second) + o.length +
      common (text.drop (o.first + o.length)) (other.drop (o.second + o.length))
termination_by text.length
decreasing_by
  all_goals
    have := first_lt_of_longestOverlap? _h
    simp only [List.length_take, List.length_drop]
    omega

-- A name, and how much of it and of what was written for it is in common.
structure Likeness where
  name : Text
  common : Nat
  total : Nat
deriving DecidableEq, Repr

namespace Likeness

def of (written name : Text) : Likeness where
  name := name
  common := Text.common name written
  total := name.length + written.length

-- Six tenths of two like texts are in common.
def isClose (l : Likeness) : Bool :=
  3 * l.total ≤ 10 * l.common

-- The more alike first; of equally alike names the last of the alphabet.
def isBefore (l m : Likeness) : Bool :=
  m.common * l.total < l.common * m.total ||
    (m.common * l.total = l.common * m.total && Text.isAtMost m.name l.name)

end Likeness

-- No more is in common than the shorter of two texts holds.
def mayBeClose (written name : Text) : Bool :=
  3 * (name.length + written.length) ≤ 10 * min name.length written.length

-- The names most like what was written, three of them at most, in the order of the alphabet.
def closeTo (written : Text) (names : List Text) : List Text :=
  let close := ((names.filter (mayBeClose written)).map (.of written)).filter Likeness.isClose
  (((close.mergeSort Likeness.isBefore).take 3).map (·.name)).mergeSort isAtMost

end CommandCompletion.Text
