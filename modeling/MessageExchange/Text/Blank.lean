/-! Blank text. A text is blank when every character of it has the Unicode property White_Space;
the empty text is blank. -/

namespace MessageExchange.Text

/-- The 25 characters with the property White_Space. -/
def isBlankChar (c : Char) : Bool :=
  (9 ≤ c.toNat && c.toNat ≤ 13) || c.toNat == 0x20 || c.toNat == 0x85 || c.toNat == 0xA0 ||
    c.toNat == 0x1680 || (0x2000 ≤ c.toNat && c.toNat ≤ 0x200A) || c.toNat == 0x2028 ||
    c.toNat == 0x2029 || c.toNat == 0x202F || c.toNat == 0x205F || c.toNat == 0x3000

def isBlank (s : String) : Bool := s.toList.all isBlankChar

end MessageExchange.Text
