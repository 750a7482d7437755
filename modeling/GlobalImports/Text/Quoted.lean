import GlobalImports.Unicode.Latest

/-! Texts between double quotes, with escapes for quotes, backslashes and whatever does not show. -/

namespace GlobalImports.Text

def hexDigits (n : Nat) : List Char := Nat.toDigits 16 n

/-- A character as it stands between quotes. Characters that show nothing, or that would be drawn
on top of their neighbour, are given by code point. -/
def quotedChar (c : Char) : List Char :=
  match c with
  | '"' => ['\\', '"']
  | '\\' => ['\\', '\\']
  | '\n' => ['\\', 'n']
  | '\r' => ['\\', 'r']
  | '\t' => ['\\', 't']
  | '\x00' => ['\\', '0']
  | c =>
    if Unicode.Latest.attaching.contains c || Unicode.Latest.hidden.contains c then
      ['\\', 'u', '{'] ++ hexDigits c.toNat ++ ['}']
    else [c]

def quoted (s : String) : String :=
  String.ofList ('"' :: s.toList.flatMap quotedChar ++ ['"'])

end GlobalImports.Text
