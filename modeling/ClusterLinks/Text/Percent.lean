/-!
# Percent encoding

A byte that may not stand for itself is written as `%` and two upper-case hexadecimal digits;
characters outside ASCII are written as their UTF-8 bytes. `decode` reads every well-formed
escape back and leaves all other bytes alone.

Form encoding writes a blank as `+` and keeps letters, digits and `*-._`.
-/

namespace ClusterLinks.Percent

/-- An upper-case hexadecimal digit. -/
def hexDigit (digit : Nat) : Char :=
  if digit < 10 then Char.ofNat ('0'.toNat + digit) else Char.ofNat ('A'.toNat + digit - 10)

/-- The escape of a byte. -/
def escape (byte : UInt8) : List Char :=
  ['%', hexDigit (byte.toNat / 16), hexDigit (byte.toNat % 16)]

/-- A character that is kept when the test accepts it and escaped byte by byte otherwise. -/
def encodeChar (keep : Char → Bool) (c : Char) : List Char :=
  if keep c then [c] else (String.utf8EncodeChar c).flatMap escape

def encode (keep : Char → Bool) (text : List Char) : List Char :=
  text.flatMap (encodeChar keep)

/-- The value of a hexadecimal digit. -/
def hexValue? (byte : UInt8) : Option Nat :=
  let code := byte.toNat
  if 48 ≤ code ∧ code ≤ 57 then some (code - 48)
  else if 65 ≤ code ∧ code ≤ 70 then some (code - 55)
  else if 97 ≤ code ∧ code ≤ 102 then some (code - 87)
  else none

/-- The bytes that an encoded text stands for. -/
def decode : List UInt8 → List UInt8
  | [] => []
  | 37 :: high :: low :: rest =>
      match hexValue? high, hexValue? low with
      | some high, some low => UInt8.ofNat (high * 16 + low) :: decode rest
      | _, _ => 37 :: decode (high :: low :: rest)
  | byte :: rest => byte :: decode rest
termination_by structural bytes => bytes

/-- The text that an encoded one stands for, none if its bytes are not UTF-8. -/
def decodeText? (text : List Char) : Option String :=
  String.fromUTF8? (ByteArray.mk (decode (text.flatMap String.utf8EncodeChar)).toArray)

/-- Whether a form keeps the character. -/
def isFormSafe (c : Char) : Bool :=
  c.isAlphanum || c == '*' || c == '-' || c == '.' || c == '_'

def formChar (c : Char) : List Char :=
  if c = ' ' then ['+'] else encodeChar isFormSafe c

def formText (text : String) : List Char :=
  text.toList.flatMap formChar

/-- Pairs joined by `=` and `&`. -/
def form (pairs : List (String × String)) : String :=
  "&".intercalate
    (pairs.map fun pair => String.ofList (formText pair.1 ++ '=' :: formText pair.2))

end ClusterLinks.Percent
