import Switchboard.Text.Printable

/-! A text shown inside an error message: between quotes, with everything that would not show as
itself escaped, so that the message tells two texts apart whenever they differ. -/
namespace Switchboard.Text

def hexDigits (n : Nat) : List Char := (Nat.toDigits 16 n)

/-- Only the quote in use needs a backslash. -/
def escape (quote c : Char) : List Char :=
  if c == quote || c == '\\' then ['\\', c]
  else if c == '\n' then ['\\', 'n']
  else if c == '\t' then ['\\', 't']
  else if c == '\r' then ['\\', 'r']
  else if c == '\x00' then ['\\', '0']
  else if isPrintable c then [c]
  else ['\\', 'u', '\x7b'] ++ hexDigits c.toNat ++ ['\x7d']

def quoted (s : String) : String :=
  String.ofList (['"'] ++ s.toList.flatMap (escape '"') ++ ['"'])

def quotedChar (c : Char) : String :=
  String.ofList (['\''] ++ escape '\'' c ++ ['\''])

end Switchboard.Text
