import ClusterLinks.Text.Hidden

/-!
# Quoted text

Text between double quotes for people to read: quotes, backslashes and line ends are escaped, and
a character that would not be visible is written as its code point.
-/

namespace ClusterLinks.Text

def quotedChar (c : Char) : String :=
  if c.toNat = 0 then "\\0"
  else if c = '\t' then "\\t"
  else if c = '\r' then "\\r"
  else if c = '\n' then "\\n"
  else if c = '"' then "\\\""
  else if c = '\\' then "\\\\"
  else if isHidden c then "\\u\x7b" ++ String.ofList (Nat.toDigits 16 c.toNat) ++ "\x7d"
  else c.toString

/-- The text between double quotes. -/
def quoted (text : String) : String :=
  "\"" ++ text.toList.foldl (fun written c => written ++ quotedChar c) "" ++ "\""

end ClusterLinks.Text
