import FirstClaim.Unicode.Property

/-!
# Quoted text

`quoted` writes a text between double quotes. Signs that would be misread and characters that do
not show are written as escapes.
-/

set_option autoImplicit false

namespace FirstClaim

/-- Characters that do not show or have no place of their own: controls, formats, unassigned ones,
separators other than the blank, and marks that extend the character before them. -/
def hiddenChars : CharSet :=
  let unseen := Unicode.ofCategories [.control, .format, .privateUse, .unassigned,
    .lineSeparator, .paragraphSeparator, .spaceSeparator]
  (unseen.diff (.singleton ' ')).union (Unicode.binary "graphemeextend")

def hexDigits (n : Nat) : String :=
  String.ofList (Nat.toDigits 16 n)

def quotedChar (c : Char) : String :=
  match c with
  | '\x00' => "\\0"
  | '\t' => "\\t"
  | '\r' => "\\r"
  | '\n' => "\\n"
  | '\\' => "\\\\"
  | '"' => "\\\""
  | c =>
    if 0x20 ≤ c.toNat && c.toNat < 0x7F then c.toString
    else if hiddenChars.contains c then "\\u\x7b" ++ hexDigits c.toNat ++ "\x7d"
    else c.toString

/-- A text between double quotes. -/
def quoted (s : String) : String :=
  "\"" ++ String.join (s.toList.map quotedChar) ++ "\""

end FirstClaim
