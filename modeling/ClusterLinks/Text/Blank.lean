/-!
# Blank characters

The white space of Unicode, and text without the blanks at its ends.
-/

namespace ClusterLinks.Text

/-- White space as Unicode defines it. -/
def isBlank (c : Char) : Bool :=
  let code := c.toNat
  (9 ≤ code && code ≤ 13) || code = 0x20 || code = 0x85 || code = 0xA0 || code = 0x1680 ||
    (0x2000 ≤ code && code ≤ 0x200A) || code = 0x2028 || code = 0x2029 || code = 0x202F ||
    code = 0x205F || code = 0x3000

theorem isBlank_of_isWhitespace {c : Char} (blank : c.isWhitespace = true) :
    isBlank c = true := by
  simp only [Char.isWhitespace, Bool.or_eq_true, decide_eq_true_eq] at blank
  rcases blank with ((rfl | rfl) | rfl) | rfl <;> decide

/-- Drops the characters at the end that a test accepts. -/
def dropEnd (test : Char → Bool) (text : List Char) : List Char :=
  (text.reverse.dropWhile test).reverse

/-- The text without blanks at its ends. -/
def trim (text : String) : String :=
  String.ofList (dropEnd isBlank (text.toList.dropWhile isBlank))

/-- The text without slashes at its end. -/
def withoutFinalSlashes (text : String) : String :=
  String.ofList (dropEnd (· == '/') text.toList)

end ClusterLinks.Text
