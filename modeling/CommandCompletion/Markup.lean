import CommandCompletion.Markup.Emoji
import CommandCompletion.Markup.Literal
import CommandCompletion.Markup.Style
import CommandCompletion.Markup.Styled

namespace CommandCompletion.Markup

-- Messages for people are marked up: tags in square brackets style what stands between them, and
-- are not shown themselves. A backslash before a tag makes it plain text.

def opensTag (c : CodePoint) : Bool :=
  c.char?.any fun c => ('a' ≤ c && c ≤ 'z') || c = '#' || c = '/' || c = '@'

-- Whether a tag goes on behind a code point.
def staysInTag (c : CodePoint) : Bool :=
  c ≠ '[' && c ≠ ']'

-- The inside of the tag whose opening bracket has just been read, and the text after the tag. A
-- tag ends at the first closing bracket and holds no opening one.
def tag? (text : Text) : Option (Text × Text) :=
  match text with
  | [] => none
  | c :: rest =>
    if opensTag c then
      match rest.dropWhile staysInTag with
      | .char ']' :: after => some (c :: rest.takeWhile staysInTag, after)
      | _ => none
    else none

theorem eq_of_tag? {text inside after : Text} (h : tag? text = some (inside, after)) :
    text = inside ++ .char ']' :: after := by
  unfold tag? at h
  split at h
  · cases h
  · next c rest =>
    split at h
    · split at h
      · next heq =>
        cases h
        rw [List.cons_append, ← heq, List.takeWhile_append_dropWhile]
      · cases h
    · cases h

theorem length_lt_of_tag? {text inside after : Text} (h : tag? text = some (inside, after)) :
    after.length < text.length := by
  rw [eq_of_tag? h]
  simp
  omega

-- A piece of marked-up text: a character that opens no tag, or a tag, each with the backslashes
-- right before it, or the backslashes at the end of the text.
inductive Piece
  | plain (slashes : Nat) (c : CodePoint)
  | tag (slashes : Nat) (inside : Text)
  | ending (slashes : Nat)
deriving DecidableEq, Repr

def slashes (n : Nat) : Text :=
  List.replicate n (.char '\\')

def bracketed (inside : Text) : Text :=
  .char '[' :: inside ++ [.char ']']

def Piece.source : Piece → Text
  | plain n c => Markup.slashes n ++ [c]
  | tag n inside => Markup.slashes n ++ bracketed inside
  | ending n => Markup.slashes n

-- Cuts a text into pieces; `n` backslashes have been read before it.
def piecesAfter (n : Nat) (text : Text) : List Piece :=
  match text with
  | [] => [.ending n]
  | c :: rest =>
    if c = '\\' then piecesAfter (n + 1) rest
    else if c = '[' then
      match _h : tag? rest with
      | some (inside, after) => .tag n inside :: piecesAfter 0 after
      | none => .plain n c :: piecesAfter 0 rest
    else .plain n c :: piecesAfter 0 rest
termination_by text.length
decreasing_by
  · simp
  · have := length_lt_of_tag? _h
    simp only [List.length_cons]
    omega
  · simp
  · simp

def pieces (text : Text) : List Piece :=
  piecesAfter 0 text

-- A text that would be taken for a tag is kept from it by a backslash more than twice its own.
def Piece.guarded : Piece → Piece
  | tag n inside => tag (2 * n + 1) inside
  | piece => piece

def endsInOneSlash (text : Text) : Bool :=
  match text.reverse with
  | .char '\\' :: .char '\\' :: _ => false
  | .char '\\' :: _ => true
  | _ => false

-- Text as it is put into marked-up text. A single backslash at its end is doubled, since a tag may
-- follow.
def escape (text : Text) : Text :=
  let guarded := (pieces text).flatMap (·.guarded.source)
  if endsInOneSlash guarded then guarded ++ "\\" else guarded

-- Why marked-up text cannot be shown: a tag is closed that is not open, a handler is handed what is
-- no value, or a style is none. Reading what is handed to a handler may give rise to warnings.
inductive Fault
  | notOpen (name : Text)
  | nothingOpen
  | notHandler (text : Text) (warnings : List Literal.Warning)
  | style (fault : StyleFault)
deriving DecidableEq, Repr

def Fault.warnings : Fault → List Literal.Warning
  | notHandler _ warnings => warnings
  | _ => []

def named (name : Text) : Except Fault Text :=
  (tagName name).mapError .style

-- A tag that has been opened, and the offset of the text behind it. What stands behind an equals
-- sign is its parameter.
structure Tag where
  name : Text
  parameter : Option Text
  start : Nat
deriving DecidableEq, Repr

-- The name in front of the first equals sign, and the parameter behind it.
def Tag.ofInside (inside : Text) (start : Nat) : Tag where
  name := inside.takeWhile (· ≠ .char '=')
  parameter := (inside.dropWhile (· ≠ .char '=')).tail?
  start := start

-- The style that a tag names with its parameter.
def Tag.style (tag : Tag) : Text :=
  tag.name ++ (tag.parameter.map fun text : Text => " " ++ text).getD []

-- The text up to an offset has the style of a tag. What is no style changes nothing, but one with
-- a broken color cannot be shown.
def Tag.runs (tag : Tag) (last : Nat) : List Run :=
  match Style.ofText tag.style with
  | .error .notNumber => [⟨tag.start, last⟩]
  | _ => []

-- What is wrong with a handler. It may be missing.
def handlerFault? (text : Text) : Option Fault :=
  let trimmed := Text.trim text
  if text.isEmpty then none
  else
    match trimmed.chars? with
    | none => some (.notHandler text [])
    | some chars => (Literal.handlerMistake? chars).map (.notHandler text)

-- Closes a tag at an offset. Only then the handler of a tag is looked at.
def Tag.close (tag : Tag) (last : Nat) : Except Fault (List Run) :=
  if tag.name.head? = some (.char '@') then
    match handlerFault? (tag.parameter.getD []) with
    | some fault => .error fault
    | none => .ok []
  else .ok (tag.runs last)

-- The tags that are open after one more, the last one first, and the runs that it ends. A closing
-- tag without a name closes the last, one with a name the last of that name.
def turn (opened : List Tag) (offset : Nat) (inside : Text) :
    Except Fault (List Tag × List Run) := do
  let tag := Tag.ofInside inside offset
  match tag.name with
  | .char '/' :: name =>
    if (Text.trim name).isEmpty then
      match opened with
      | [] => throw .nothingOpen
      | last :: rest => return (rest, ← last.close offset)
    else
      let wanted ← named (Text.trim name)
      match opened.find? (·.name = wanted) with
      | none => throw (.notOpen name)
      | some last => return (opened.erase last, ← last.close offset)
  | name => return ({ tag with name := ← named name } :: opened, [])

-- Marked-up text between tags, a tag that a backslash keeps as text, or a tag.
inductive Chunk
  | plain (text : Text)
  | kept (inside : Text)
  | tag (inside : Text)
deriving DecidableEq, Repr

def addPlain (text : Text) : List Chunk → List Chunk
  | .plain more :: rest => .plain (text ++ more) :: rest
  | chunks => .plain text :: chunks

-- A bracket that opens no tag takes one backslash with it; half of those before a tag are shown,
-- and an odd one keeps the tag.
def chunks : List Piece → List Chunk
  | [] => []
  | .plain n c :: rest => addPlain (slashes (if c = '[' then n - 1 else n) ++ [c]) (chunks rest)
  | .ending n :: rest => addPlain (slashes n) (chunks rest)
  | .tag n inside :: rest =>
    addPlain (slashes (n / 2)) ((if n % 2 = 1 then .kept inside else .tag inside) :: chunks rest)

-- Control characters that move the cursor are not shown.
def isHidden (c : CodePoint) : Bool :=
  let n := c.toNat
  n = 7 || n = 8 || (11 ≤ n && n ≤ 13)

-- What is seen of text between tags.
def shown (text : Text) : Text :=
  (illustrate text).filter (!isHidden ·)

-- What is seen of the chunks behind an offset. The codes of pictures do not reach across tags.
def reveal (opened : List Tag) (offset : Nat) : List Chunk → Except Fault Styled
  | [] => .ok ⟨[], opened.flatMap (·.runs offset)⟩
  | .plain text :: rest =>
    (reveal opened (offset + (shown text).length) rest).map fun s =>
      { s with text := shown text ++ s.text }
  | .kept inside :: rest =>
    let text := shown (bracketed inside)
    (reveal opened (offset + text.length) rest).map fun s => { s with text := text ++ s.text }
  | .tag inside :: rest =>
    match turn opened offset inside with
    | .error fault => .error fault
    | .ok (opened, runs) =>
      (reveal opened offset rest).map fun s => { s with faulty := runs ++ s.faulty }

-- What is seen of marked-up text.
def visible (text : Text) : Except Fault Styled :=
  reveal [] 0 (chunks (pieces text))

-- Text that can be shown.
def Styled.seen (s : Styled) : Except Fault Text :=
  if s.faulty.isEmpty then .ok s.text else .error (.style .notNumber)

theorem source_piecesAfter (n : Nat) (text : Text) :
    (piecesAfter n text).flatMap Piece.source = slashes n ++ text := by
  fun_induction piecesAfter n text with
  | case1 n => simp [Piece.source]
  | case2 n rest ih => simp [ih, slashes, List.replicate_succ']
  | case3 n rest inside after h _ ih =>
    simp [Piece.source, ih, slashes, bracketed, eq_of_tag? h]
  | case4 n rest h _ ih => simp [Piece.source, ih, slashes]
  | case5 n c rest h h' ih => simp [Piece.source, ih, slashes]

-- The pieces of a text make it up.
theorem source_pieces (text : Text) : (pieces text).flatMap Piece.source = text :=
  source_piecesAfter 0 text

end CommandCompletion.Markup
