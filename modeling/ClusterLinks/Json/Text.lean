import ClusterLinks.Json

/-!
# JSON text

`Json.toText` writes a value without blanks.
-/

namespace ClusterLinks.Json

/-- A lower-case hexadecimal digit. -/
def hexCharacter (digit : Nat) : Char :=
  if digit < 10 then Char.ofNat ('0'.toNat + digit) else Char.ofNat ('a'.toNat + digit - 10)

/-- A character as a string holds it. -/
def escaped (c : Char) : String :=
  if c = '"' then "\\\""
  else if c = '\\' then "\\\\"
  else if c = '\n' then "\\n"
  else if c = '\r' then "\\r"
  else if c = '\t' then "\\t"
  else if c = '\x08' then "\\b"
  else if c = '\x0c' then "\\f"
  else if c.toNat < 0x20 then
    String.ofList ['\\', 'u', '0', '0', hexCharacter (c.toNat / 16), hexCharacter (c.toNat % 16)]
  else c.toString

def quoted (value : String) : String :=
  value.foldl (fun text c => text ++ escaped c) "\"" ++ "\""

mutual
/-- Writes a value without blanks. -/
def toText : Json → String
  | .null => "null"
  | .bool true => "true"
  | .bool false => "false"
  | .integer value => toString value
  | .decimal mantissa exponent => toString mantissa ++ "e" ++ toString exponent
  | .string value => quoted value
  | .array [] => "[]"
  | .array (value :: rest) => "[" ++ toText value ++ textOfItems rest ++ "]"
  | .object [] => "\x7b\x7d"
  | .object ((key, value) :: rest) =>
      "\x7b" ++ quoted key ++ ":" ++ toText value ++ textOfEntries rest ++ "\x7d"

/-- The items behind the first one. -/
def textOfItems : List Json → String
  | [] => ""
  | value :: rest => "," ++ toText value ++ textOfItems rest

/-- The entries behind the first one. -/
def textOfEntries : List (String × Json) → String
  | [] => ""
  | (key, value) :: rest => "," ++ quoted key ++ ":" ++ toText value ++ textOfEntries rest
end

end ClusterLinks.Json
