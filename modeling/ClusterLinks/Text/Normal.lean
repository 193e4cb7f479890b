import ClusterLinks.Text.Composition

/-!
# Composed text

Normalization form C: `Normal.form` takes every character apart, orders the marks behind each
letter, and puts together again what one character can stand for. Two texts that look the same by
the rules of the standard have the same form.

The marks behind a letter are ordered by insertion, so marks of one class keep their order.
-/

namespace ClusterLinks.Text.Normal

/-- The class of a mark; letters have class zero. -/
def combiningClass (c : Char) : Nat :=
  match combiningClasses.find? c with
  | some range => range.values.headD 0
  | none => 0

/-- How many Hangul syllables share a first letter. -/
def syllablesPerLead : Nat := 588

def syllableCount : Nat := 19 * syllablesPerLead

/-- The number of a Hangul syllable. -/
def syllable? (c : Char) : Option Nat :=
  if 0xAC00 ≤ c.toNat ∧ c.toNat < 0xAC00 + syllableCount then some (c.toNat - 0xAC00) else none

/-- The letters of a Hangul syllable: two or three. -/
def syllableLetters (number : Nat) : List Char :=
  let lead := Char.ofNat (0x1100 + number / syllablesPerLead)
  let vowel := Char.ofNat (0x1161 + number % syllablesPerLead / 28)
  if number % 28 = 0 then [lead, vowel] else [lead, vowel, Char.ofNat (0x11A7 + number % 28)]

/-- The Hangul syllable of two letters, or of a syllable without a final letter and that letter. -/
def joinSyllable? (first second : Char) : Option Char :=
  let (lead, follow) := (first.toNat, second.toNat)
  if 0x1100 ≤ lead ∧ lead < 0x1113 ∧ 0x1161 ≤ follow ∧ follow < 0x1176 then
    some (Char.ofNat (0xAC00 + (lead - 0x1100) * syllablesPerLead + (follow - 0x1161) * 28))
  else
    match syllable? first with
    | some number =>
        if number % 28 = 0 ∧ 0x11A7 < follow ∧ follow < 0x11C3 then
          some (Char.ofNat (lead + (follow - 0x11A7)))
        else none
    | none => none

/-- Takes a character apart. The bound is on how often the first part comes apart again, which no
character does more than three times. -/
def letters : (bound : Nat) → Char → List Char
  | 0, c => [c]
  | bound + 1, c =>
      match syllable? c with
      | some number => syllableLetters number
      | none =>
          match separatedCharacters.find? c, composedCharacters.find? c with
          | some range, _ => range.values.map Char.ofNat
          | none, some ⟨_, _, [first, second]⟩ =>
              letters bound (Char.ofNat first) ++ [Char.ofNat second]
          | none, _ => [c]

/-- The character that two stand for. -/
def join? (first second : Char) : Option Char :=
  match joinSyllable? first second with
  | some c => some c
  | none =>
      (List.find? (·.values = [first.toNat, second.toNat]) composedCharacters).map fun range =>
        Char.ofNat range.first

/-- Puts a mark in front of ordered ones, behind those of smaller classes. -/
def insertMark (c : Char) : List Char → List Char
  | [] => [c]
  | other :: rest =>
      if 0 < combiningClass other ∧ combiningClass other < combiningClass c then
        other :: insertMark c rest
      else c :: other :: rest

/-- Orders the marks behind each letter. -/
def orderMarks (text : List Char) : List Char :=
  text.foldr insertMark []

/-- Puts characters together behind a letter: `marks` are those that stay behind it, the last one
first. A character reaches the letter only across marks of smaller classes. -/
def joinBehind (letter : Char) (marks : List Char) : List Char → List Char
  | [] => letter :: marks.reverse
  | c :: rest =>
      let isReached :=
        match marks with
        | [] => true
        | mark :: _ => combiningClass mark < combiningClass c
      match if isReached then join? letter c else none with
      | some letter => joinBehind letter marks rest
      | none =>
          if combiningClass c = 0 then letter :: marks.reverse ++ joinBehind c [] rest
          else joinBehind letter (c :: marks) rest

/-- Puts together what one character can stand for. -/
def joinAll : List Char → List Char
  | [] => []
  | c :: rest => if combiningClass c = 0 then joinBehind c [] rest else c :: joinAll rest

/-- The normalized text. -/
def form (text : List Char) : List Char :=
  joinAll (orderMarks (text.flatMap (letters 4)))

/-- Whether the text is normalized. -/
def isNormal (text : List Char) : Bool :=
  form text = text

end ClusterLinks.Text.Normal
