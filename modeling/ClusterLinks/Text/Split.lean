/-!
# Splitting text

`splitAt` cuts a text in front of the first separator, `split` at every one. Nothing is lost: the
parts with the separators between them are the text again.
-/

namespace ClusterLinks.Text

/-- Everything in front of the first separator, and the rest with it. -/
def splitAt (separates : Char → Bool) (text : List Char) : List Char × List Char :=
  (text.takeWhile (!separates ·), text.dropWhile (!separates ·))

/-- Puts a character in front of the first part. -/
def intoFirst (c : Char) : List (List Char) → List (List Char)
  | [] => [[c]]
  | part :: parts => (c :: part) :: parts

/-- The parts between separators, at least one. -/
def split (separates : Char → Bool) (text : List Char) : List (List Char) :=
  text.foldr (fun c parts => if separates c then [] :: parts else intoFirst c parts) [[]]

theorem splitAt_append (separates : Char → Bool) (text : List Char) :
    (splitAt separates text).1 ++ (splitAt separates text).2 = text :=
  List.takeWhile_append_dropWhile

theorem split_ne_nil (separates : Char → Bool) (text : List Char) :
    split separates text ≠ [] := by
  cases text with
  | nil => simp [split]
  | cons c rest =>
      simp only [split, List.foldr_cons]
      split
      · simp
      · generalize List.foldr _ _ rest = parts
        cases parts <;> simp [intoFirst]

end ClusterLinks.Text
