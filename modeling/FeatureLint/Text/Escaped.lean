import FeatureLint.Unicode.Property

namespace FeatureLint.Text

open Unicode (CodeSet)

/-- Characters that show something and stand on their own. -/
def printable : CodeSet :=
  ((Unicode.assigned.diff (Unicode.categories ["cc", "cf", "co", "zl", "zp", "zs"])).diff
    Unicode.graphemeExtend).union (.single 0x20)

def escapeChar (c : Char) : List Char :=
  match c with
  | '\x00' => ['\\', '0']
  | '\t' => ['\\', 't']
  | '\r' => ['\\', 'r']
  | '\n' => ['\\', 'n']
  | '\\' => ['\\', '\\']
  | '"' => ['\\', '"']
  | '\'' => ['\\', '\'']
  | c =>
    if printable.contains c.toNat then [c]
    else ['\\', 'u', '\x7b'] ++ Nat.toDigits 16 c.toNat ++ ['\x7d']

def escaped (s : String) : String := String.ofList ('"' :: s.toList.flatMap escapeChar ++ ['"'])

end FeatureLint.Text
