import CommandCompletion.Text.Hex

namespace CommandCompletion

-- A code point of Unicode: a character, or a half of a UTF-16 pair that stands alone. Halves are
-- no characters, but the escapes of a document can name them; they are counted from the first one.
inductive CodePoint
  | char (c : Char)
  | half (index : Fin 0x800)
deriving DecidableEq, Repr

namespace CodePoint

-- The first of the halves.
def firstHalf : Nat := 0xd800

def toNat : CodePoint → Nat
  | char c => c.toNat
  | half index => firstHalf + index

-- Beyond the code points there is only the replacement character.
def ofNat (n : Nat) : CodePoint :=
  if h : firstHalf ≤ n ∧ n < firstHalf + 0x800 then half ⟨n - firstHalf, by omega⟩
  else if n.isValidChar then char (Char.ofNat n)
  else char '\ufffd'

instance : Coe Char CodePoint := ⟨char⟩

def isHalf : CodePoint → Bool
  | char _ => false
  | half _ => true

-- A half is spelled out by its number where only characters can stand.
def spelled : CodePoint → List Char
  | char c => [c]
  | half index => '\\' :: 'u' :: Text.hex 4 (firstHalf + index)

-- How many bytes a half is encoded in.
def halfBytes : Nat := 3

-- Each byte of a half counts as a broken character.
def whole : CodePoint → List CodePoint
  | char c => [char c]
  | half _ => List.replicate halfBytes '\ufffd'

def char? : CodePoint → Option Char
  | char c => some c
  | half _ => none

end CodePoint

-- Text that comes from data or from the keyboard.
abbrev Text := List CodePoint

namespace Text

def ofChars (chars : List Char) : Text :=
  chars.map .char

def ofString (s : String) : Text :=
  ofChars s.toList

instance : Coe String Text := ⟨ofString⟩

def hasHalf (text : Text) : Bool :=
  text.any (·.isHalf)

-- The characters of a text without halves.
def chars? (text : Text) : Option (List Char) :=
  text.mapM (·.char?)

-- A text as characters; its halves are spelled out.
def spelled (text : Text) : String :=
  String.ofList (text.flatMap (·.spelled))

-- A text without halves.
def whole (text : Text) : Text :=
  text.flatMap (·.whole)

-- Texts in a row, with another one between each two of them.
def join (between : Text) (texts : List Text) : Text :=
  between.intercalate texts

-- The order of texts is that of the numbers of their code points: no text comes before one that it
-- is at most.
def isAtMost (text other : Text) : Bool :=
  !List.lex (other.map (·.toNat)) (text.map (·.toNat)) Nat.blt

-- The small forms of the ASCII capitals.
def asciiLower (text : Text) : Text :=
  text.map fun c =>
    match c with
    | .char c => .char c.toLower
    | half => half

theorem ofChars_eq_nil_iff {chars : List Char} : ofChars chars = [] ↔ chars = [] :=
  List.map_eq_nil_iff

end Text

end CommandCompletion
