import ClusterLinks.Net.Url.Host

/-!
# Paths of URLs

A path that starts at the root is a list of segments. A segment of one dot goes away and one of two
dots takes the segment in front of it along, unless that is the letter of a drive.
-/

namespace ClusterLinks.Url

def keepsInFragment (c : Char) : Bool :=
  isPrintableAscii c && !" \"<>\x60".toList.contains c

def keepsInPath (c : Char) : Bool :=
  keepsInFragment c && !"#?\x7b\x7d".toList.contains c

/-- A dot, plain or escaped. -/
def readDot? : List Char → Option (List Char)
  | '.' :: rest => some rest
  | '%' :: '2' :: 'e' :: rest => some rest
  | '%' :: '2' :: 'E' :: rest => some rest
  | _ => none

def isSingleDot (segment : List Char) : Bool :=
  readDot? segment = some []

def isDoubleDot (segment : List Char) : Bool :=
  (readDot? segment).bind readDot? = some []

/-- Whether the segment is the letter of a drive. -/
def isDrive : List Char → Bool
  | [letter, mark] => letter.isAlpha && (mark == ':' || mark == '|')
  | _ => false

/-- The segments in front of the last one, which a drive is not taken from. -/
def parent : List (List Char) → List (List Char)
  | [] => []
  | last :: front => if isDrive last then last :: front else front

/-- Resolves dot segments; `done` holds the segments in front, the last one first. -/
def resolveSegments (done : List (List Char)) : List (List Char) → List (List Char)
  | [] => done.reverse
  | segment :: rest =>
      if isDoubleDot segment then
        resolveSegments (if rest = [] then [] :: parent done else parent done) rest
      else if isSingleDot segment then
        resolveSegments (if rest = [] then [] :: done else done) rest
      else resolveSegments (segment :: done) rest

/-- The segments of a path, with or without a slash in front; none for an empty path. -/
def segments (special : Bool) (text : List Char) : List (List Char) :=
  let separates (c : Char) : Bool := c == '/' || (special && c == '\\')
  match text with
  | [] => []
  | c :: rest => if separates c then Text.split separates rest else Text.split separates (c :: rest)

/-- A path that starts at the root. -/
def rootedPath (segments : List (List Char)) : String :=
  String.ofList <|
    (resolveSegments [] segments).flatMap fun segment =>
      '/' :: Percent.encode keepsInPath segment

/-- A path that starts with a single slash. -/
def withoutLeadingSlashes (path : String) : String :=
  String.ofList ('/' :: path.toList.dropWhile (· == '/'))

end ClusterLinks.Url
