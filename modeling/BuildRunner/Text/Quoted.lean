import BuildRunner.Text.Visible

/-! The quoted form of a text: between double quotes, with a backslash before a quote or a
backslash, short escapes for the common controls, and the number of any other character that is
not visible. A list of texts is quoted in brackets. -/
namespace BuildRunner.Text.Quoted

def escape (c : Char) : List Char :=
  match c with
  | '\x00' => ['\\', '0']
  | '\t' => ['\\', 't']
  | '\n' => ['\\', 'n']
  | '\r' => ['\\', 'r']
  | '"' => ['\\', '"']
  | '\\' => ['\\', '\\']
  | c =>
    if isVisible c then [c]
    else "\\u\x7b".toList ++ Nat.toDigits 16 c.toNat ++ ['}']

def quote (s : String) : String :=
  String.ofList ('"' :: s.toList.flatMap escape ++ ['"'])

def quoteList (parts : List String) : String :=
  "[" ++ ", ".intercalate (parts.map quote) ++ "]"

end BuildRunner.Text.Quoted
