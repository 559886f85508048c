import CommandCompletion.Text

namespace CommandCompletion.Text

def isBetween (first last : Nat) (c : CodePoint) : Bool :=
  first ≤ c.toNat && c.toNat ≤ last

-- The text behind a sequence that steers a terminal, once its start has been read: parameters,
-- signs between, and a letter or sign that ends it.
def afterSequence? (text : Text) : Option Text :=
  match (text.dropWhile (isBetween 0x30 0x3f)).dropWhile (isBetween 0x20 0x2f) with
  | c :: rest => if isBetween 0x40 0x7e c then some rest else none
  | [] => none

theorem length_lt_of_afterSequence? {text rest : Text} (h : afterSequence? text = some rest) :
    rest.length < text.length := by
  unfold afterSequence? at h
  split at h
  · next c more heq =>
    split at h
    · cases h
      have outer := (List.dropWhile_sublist (l := text.dropWhile (isBetween 0x30 0x3f))
        (isBetween 0x20 0x2f)).length_le
      have inner := (List.dropWhile_sublist (l := text) (isBetween 0x30 0x3f)).length_le
      rw [heq, List.length_cons] at outer
      omega
    · cases h
  · cases h

-- A text without the sequences that steer a terminal.
def withoutSequences (text : Text) : Text :=
  match text with
  | [] => []
  | .char '\x1b' :: .char '[' :: rest =>
    match _h : afterSequence? rest with
    | some after => withoutSequences after
    | none => "\x1b[" ++ withoutSequences rest
  | c :: rest => c :: withoutSequences rest
termination_by text.length
decreasing_by
  · have := length_lt_of_afterSequence? _h
    simp only [List.length_cons]
    omega
  · simp only [List.length_cons]
    omega
  · simp

end CommandCompletion.Text
