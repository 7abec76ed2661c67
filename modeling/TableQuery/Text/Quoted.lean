import TableQuery.Text.Hex
import TableQuery.Text.Printable

/-! A text in double quotes, with an escape for each character that could not be told in print:
quotes, backslashes, line breaks and whatever is not printable. -/

namespace TableQuery.Text

def escapePrintable (c : Char) : List Char :=
  match c with
  | '"' => ['\\', '"']
  | '\\' => ['\\', '\\']
  | '\n' => ['\\', 'n']
  | '\r' => ['\\', 'r']
  | '\t' => ['\\', 't']
  | '\x00' => ['\\', '0']
  | c =>
    if isPrintable c then [c]
    else '\\' :: 'u' :: '\x7b' :: hexText c.toNat ++ ['\x7d']

def quoted (s : String) : String :=
  String.ofList ('"' :: s.toList.flatMap escapePrintable ++ ['"'])

def quotedOption : Option String → String
  | none => "None"
  | some s => "Some(" ++ quoted s ++ ")"

end TableQuery.Text
