namespace CommandCompletion.Text

def hexDigits : List Char := "0123456789abcdef".toList

-- The last `width` hexadecimal digits of a number.
def hex : (width : Nat) → Nat → List Char
  | 0, _ => []
  | width + 1, n => hex width (n / 16) ++ [hexDigits.getD (n % 16) '0']

end CommandCompletion.Text
