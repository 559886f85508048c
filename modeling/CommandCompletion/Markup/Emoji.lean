import CommandCompletion.Markup.EmojiNames
import CommandCompletion.Text.LowerCase
import CommandCompletion.Text.Blank

namespace CommandCompletion.Markup

-- A name between two colons stands for a picture.

def hexValue (digits : Text) : Nat :=
  digits.foldl
    (fun n c => 16 * n + if c.toNat < 58 then c.toNat - 48 else c.toNat - 87) 0

-- Code points with full stops between them.
def codePoints (text : Text) : Text :=
  match text with
  | [] => []
  | c :: rest =>
    if c = '.' then codePoints rest
    else
      let digits := c :: rest.takeWhile (· ≠ .char '.')
      .ofNat (hexValue digits) :: codePoints (rest.dropWhile (· ≠ .char '.'))
termination_by text.length
decreasing_by
  · simp
  · have := (List.dropWhile_sublist (l := rest) (· ≠ .char '.')).length_le
    simp only [List.length_cons]
    omega

-- The picture of a name as the list of names has it.
def listedPicture? (name : Text) : Option Text :=
  (Text.words emojiNames).findSome? fun entry =>
    if (name ++ ":").isPrefixOf entry then some (codePoints (entry.drop (name.length + 1)))
    else none

def skinTones : List (Text × CodePoint) :=
  [("_light_skin_tone", .ofNat 0x1f3fb), ("_medium-light_skin_tone", .ofNat 0x1f3fc),
    ("_medium_skin_tone", .ofNat 0x1f3fd), ("_medium-dark_skin_tone", .ofNat 0x1f3fe),
    ("_dark_skin_tone", .ofNat 0x1f3ff)]

-- Asks for a colored picture.
def emojiSelector : CodePoint := .ofNat 0xfe0f

-- Asks for a picture in the style of text.
def textSelector : CodePoint := .ofNat 0xfe0e

-- A skin tone stands behind the first code point, in place of a selector.
def addTone (tone : CodePoint) : Text → Text
  | [] => []
  | c :: rest => c :: tone :: if rest.head? = some emojiSelector then rest.drop 1 else rest

-- The text in front of an ending.
def beforeEnd? (ending text : Text) : Option Text :=
  if ending.isSuffixOf text then some (text.take (text.length - ending.length)) else none

def tonedPicture? (name : Text) : Option Text :=
  skinTones.findSome? fun (ending, tone) => do
    let plain ← beforeEnd? ending name
    return addTone tone (← listedPicture? (plain ++ "~"))

def picture? (name : Text) : Option Text :=
  if name.contains '~' then none
  else
    (listedPicture? name).orElse fun _ =>
      (listedPicture? (name ++ "~")).orElse fun _ => tonedPicture? name

-- The picture of the text between two colons, in any case. Two endings choose between the styles
-- of a picture.
def coded? (code : Text) : Option Text :=
  match beforeEnd? "-emoji" code, beforeEnd? "-text" code with
  | some name, _ => (picture? name.lowerCase).map (· ++ [emojiSelector])
  | none, some name => (picture? name.lowerCase).map (· ++ [textSelector])
  | none, none => picture? code.lowerCase

def staysInCode (c : CodePoint) : Bool :=
  c ≠ ':' && !Text.isBlank c

-- The text up to the next colon without white space, and the text after that colon.
def code? (text : Text) : Option (Text × Text) :=
  match text.dropWhile staysInCode with
  | .char ':' :: after => some (text.takeWhile staysInCode, after)
  | _ => none

theorem length_lt_of_code? {text code after : Text} (h : code? text = some (code, after)) :
    after.length < text.length := by
  unfold code? at h
  split at h
  · next heq =>
    cases h
    have := (List.dropWhile_sublist (l := text) staysInCode).length_le
    rw [heq, List.length_cons] at this
    omega
  · cases h

-- Puts pictures in the place of their codes. A code that names none remains, and its second colon
-- begins no other.
def illustrate (text : Text) : Text :=
  match text with
  | [] => []
  | c :: rest =>
    if c = ':' then
      match _h : code? rest with
      | none => c :: illustrate rest
      | some (code, after) =>
        (coded? code).getD (":" ++ code ++ ":") ++ illustrate after
    else c :: illustrate rest
termination_by text.length
decreasing_by
  · simp
  · have := length_lt_of_code? _h
    simp only [List.length_cons]
    omega
  · simp

end CommandCompletion.Markup
