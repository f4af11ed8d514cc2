import DevServer.Text.Unseen

/-!
# Quoted text

A text in double quotes. A quote and a backslash are marked by a backslash, and what would not be
seen is written by its code.
-/

namespace DevServer.Text

def quoteChar (c : Char) : List Char :=
  match c with
  | '"' => ['\\', '"']
  | '\\' => ['\\', '\\']
  | '\n' => ['\\', 'n']
  | '\r' => ['\\', 'r']
  | '\t' => ['\\', 't']
  | c =>
    if c.toNat = 0 then ['\\', '0']
    else if isUnseen c then ['\\', 'u', '\x7b'] ++ Nat.toDigits 16 c.toNat ++ ['\x7d']
    else [c]

def quoted (s : String) : String := String.ofList (['"'] ++ s.toList.flatMap quoteChar ++ ['"'])

end DevServer.Text
