import CommandCompletion.Text

namespace CommandCompletion.Text

-- White space is what Unicode calls white space, together with the four ASCII separators.
def isBlank (c : CodePoint) : Bool :=
  let n := c.toNat
  (9 ≤ n && n ≤ 13) || (28 ≤ n && n ≤ 32) || n == 0x85 || n == 0xA0 || n == 0x1680 ||
    (0x2000 ≤ n && n ≤ 0x200A) || n == 0x2028 || n == 0x2029 || n == 0x202F || n == 0x205F ||
    n == 0x3000

-- The text from its first visible character on.
def trimStart (text : Text) : Text :=
  text.dropWhile isBlank

-- The text up to its last visible character.
def trimEnd (text : Text) : Text :=
  (text.reverse.dropWhile isBlank).reverse

def trim (text : Text) : Text :=
  trimEnd (trimStart text)

-- The words of a text are its longest runs without blanks, in order.
def words : Text → List Text
  | [] => []
  | c :: rest =>
    if isBlank c then words rest
    else
      match rest, words rest with
      | next :: _, word :: others =>
        if isBlank next then [c] :: word :: others else (c :: word) :: others
      | _, others => [c] :: others

-- Words written in order, one space between two of them.
def spaced (ws : List Text) : Text :=
  join " " ws

end CommandCompletion.Text
