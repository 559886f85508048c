import CommandCompletion.Text.Printable

namespace CommandCompletion

namespace Text

-- Text is quoted with an apostrophe, unless it holds one and no double quote.
def quoteMark (text : Text) : CodePoint :=
  if text.contains '\'' && !text.contains '"' then '"' else '\''

-- A number in hexadecimal digits behind a backslash and a letter.
def numbered (letter : Char) (width n : Nat) : Text :=
  ofChars ('\\' :: letter :: hex width n)

-- A code point without a glyph is written by its number.
def quotedPoint (mark c : CodePoint) : Text :=
  if c = mark || c = '\\' then ['\\', c]
  else if c = '\n' then "\\n"
  else if c = '\r' then "\\r"
  else if c = '\t' then "\\t"
  else if isPrintable c then [c]
  else if c.toNat < 0x100 then numbered 'x' 2 c.toNat
  else if c.toNat < 0x10000 then numbered 'u' 4 c.toNat
  else numbered 'U' 8 c.toNat

end Text

-- A name or value as messages quote it.
def quote (text : Text) : Text :=
  let mark := text.quoteMark
  mark :: text.flatMap (Text.quotedPoint mark) ++ [mark]

end CommandCompletion
