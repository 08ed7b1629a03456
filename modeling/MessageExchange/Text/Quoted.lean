import MessageExchange.Text.Printable

/-! Quoted text, as log fields and descriptions show it: the text between double quotes, with
quotes, backslashes and invisible characters escaped. -/

namespace MessageExchange.Text

/-- Lower-case hexadecimal digits without leading zeros. -/
def hex (n : Nat) : String := String.ofList (Nat.toDigits 16 n)

def codePoint (c : Char) : List Char := ("\\u\x7b" ++ hex c.toNat ++ "\x7d").toList

def quotedChar (c : Char) : List Char :=
  match c.toNat with
  | 0 => ['\\', '0']
  | 9 => ['\\', 't']
  | 10 => ['\\', 'n']
  | 13 => ['\\', 'r']
  | 34 => ['\\', c]
  | 92 => ['\\', c]
  | n =>
    if n < 0x20 || n == 0x7F then codePoint c
    else if n < 0x80 || isPlain c then [c]
    else codePoint c

def quoted (s : String) : String :=
  "\"" ++ String.ofList (s.toList.flatMap quotedChar) ++ "\""

def quotedOption : Option String → String
  | none => "None"
  | some s => "Some(" ++ quoted s ++ ")"

end MessageExchange.Text
