import ClusterLinks.Net.Url.Text
import ClusterLinks.Proofs.Json.RoundTrip
import ClusterLinks.Proofs.Net.Percent
import ClusterLinks.Text.Blank
import Mathlib.Data.Bool.AllAny
import Mathlib.Data.List.Flatten
import Mathlib.Data.List.Forall2
import Mathlib.Data.List.TakeWhile

/-!
# Paths that are read back

A path is put together from parts, and a URL is read from it: blanks at the end and line breaks go
away, a query and a fragment are cut off, the rest is split into segments, dot segments are resolved
and what a path may not hold is encoded. If every part is plain, the segments of the URL are the
parts again. If the segments are the parts, every part has to be plain: nothing of this makes a path
longer, so a path that loses a single byte on the way cannot come to all of the parts.
-/

namespace ClusterLinks

open Percent (bytes hasEscape decodeText?)

/-! ## Splitting -/

namespace Text

variable {separates : Char → Bool}

theorem split_cons_of_separates {c : Char} (isEnd : separates c = true) (text : List Char) :
    split separates (c :: text) = [] :: split separates text := by
  simp only [split, List.foldr_cons, if_pos isEnd]

theorem split_cons_of_not {c : Char} (inside : separates c = false) (text : List Char) :
    split separates (c :: text) = intoFirst c (split separates text) := by
  simp only [split, List.foldr_cons, inside, Bool.false_eq_true, if_false]

/-- A part in front of a separator is split off. -/
theorem split_append {part : List Char} (inside : ∀ c ∈ part, separates c = false) {mark : Char}
    (isEnd : separates mark = true) (rest : List Char) :
    split separates (part ++ mark :: rest) = part :: split separates rest := by
  induction part with
  | nil => exact split_cons_of_separates isEnd rest
  | cons c part ih =>
      rw [List.forall_mem_cons] at inside
      rw [List.cons_append, split_cons_of_not inside.1, ih inside.2]
      rfl

theorem split_of_not {part : List Char} (inside : ∀ c ∈ part, separates c = false) :
    split separates part = [part] := by
  induction part with
  | nil => rfl
  | cons c part ih =>
      rw [List.forall_mem_cons] at inside
      rw [split_cons_of_not inside.1, ih inside.2]
      rfl

/-- Parts that are joined by a mark are split again. -/
theorem split_flatMap {Part : Type} {mark : Char} (isEnd : separates mark = true)
    (text : Part → List Char) (first : Part) (rest : List Part)
    (inside : ∀ part ∈ first :: rest, ∀ c ∈ text part, separates c = false) :
    split separates (text first ++ rest.flatMap fun part => mark :: text part) =
      (first :: rest).map text := by
  induction rest generalizing first with
  | nil =>
      rw [List.flatMap_nil, List.append_nil, split_of_not (inside first (List.mem_cons_self ..))]
      rfl
  | cons second rest ih =>
      rw [List.forall_mem_cons] at inside
      rw [List.flatMap_cons, List.cons_append, split_append inside.1 isEnd, ih second inside.2]
      rfl

/-- No part holds a separator. -/
theorem separates_of_mem_split {text part : List Char} (member : part ∈ split separates text) :
    ∀ c ∈ part, separates c = false := by
  induction text generalizing part with
  | nil =>
      rw [List.mem_singleton.mp member]
      nofun
  | cons c text ih =>
      cases isEnd : separates c with
      | true =>
          rw [split_cons_of_separates isEnd] at member
          obtain rfl | member := List.mem_cons.mp member
          · nofun
          · exact ih member
      | false =>
          rw [split_cons_of_not isEnd] at member
          obtain ⟨first, others, parts⟩ := List.exists_cons_of_ne_nil (split_ne_nil separates text)
          rw [parts] at member ih
          obtain rfl | member := List.mem_cons.mp member
          · exact List.forall_mem_cons.mpr ⟨isEnd, ih (List.mem_cons_self ..)⟩
          · exact ih (List.mem_cons_of_mem _ member)

end Text

/-! ## Weights -/

namespace Percent

/-- How many bytes segments have with a slash in front of each. -/
def weight : List (List Char) → Nat
  | [] => 0
  | segment :: segments => (bytes segment).length + 1 + weight segments

@[simp] theorem weight_nil : weight [] = 0 := rfl

@[simp] theorem weight_cons (segment : List Char) (segments : List (List Char)) :
    weight (segment :: segments) = (bytes segment).length + 1 + weight segments := rfl

theorem weight_append (front segments : List (List Char)) :
    weight (front ++ segments) = weight front + weight segments := by
  induction front with
  | nil => simp
  | cons segment front ih => simp [ih, Nat.add_assoc]

@[simp] theorem weight_reverse (segments : List (List Char)) :
    weight segments.reverse = weight segments := by
  induction segments with
  | nil => rfl
  | cons segment segments ih => simp [weight_append, ih, Nat.add_comm]

theorem length_bytes_pos {text : List Char} (nonempty : text ≠ []) : 0 < (bytes text).length := by
  cases text with
  | nil => exact absurd rfl nonempty
  | cons c rest =>
      have first := List.length_pos_of_ne_nil (utf8EncodeChar_ne_nil c)
      rw [bytes_cons, List.length_append]
      omega

/-- What is left of a text has fewer bytes, unless all is left. -/
theorem eq_of_length_bytes {text rest : List Char} (part : rest.Sublist text)
    (same : (bytes text).length ≤ (bytes rest).length) : rest = text := by
  induction part with
  | slnil => rfl
  | cons c part ih =>
      have first := List.length_pos_of_ne_nil (utf8EncodeChar_ne_nil c)
      have less := (part.flatMap String.utf8EncodeChar).length_le
      rw [bytes_cons, List.length_append] at same
      simp only [bytes] at same
      omega
  | cons_cons c part ih =>
      rw [bytes_cons, bytes_cons, List.length_append, List.length_append] at same
      rw [ih (by omega)]

/-- Splitting keeps all bytes. -/
theorem weight_split {separates : Char → Bool}
    (narrow : ∀ c, separates c = true → (String.utf8EncodeChar c).length = 1) (text : List Char) :
    weight (Text.split separates text) = (bytes text).length + 1 := by
  induction text with
  | nil => rfl
  | cons c text ih =>
      cases isEnd : separates c with
      | true =>
          rw [Text.split_cons_of_separates isEnd, weight_cons, ih, bytes_cons, List.length_append,
            narrow c isEnd]
          simp only [bytes_nil, List.length_nil]
          omega
      | false =>
          rw [Text.split_cons_of_not isEnd, bytes_cons, List.length_append]
          obtain ⟨first, others, parts⟩ :=
            List.exists_cons_of_ne_nil (Text.split_ne_nil separates text)
          rw [parts, weight_cons] at ih
          rw [parts, Text.intoFirst, weight_cons, bytes_cons, List.length_append]
          omega

end Percent

/-! ## Dot segments -/

namespace Url

/-- Whether a segment goes away when dot segments are resolved. -/
def isDots (segment : List Char) : Bool :=
  isDoubleDot segment || isSingleDot segment

theorem ne_nil_of_isDots {segment : List Char} (dots : isDots segment = true) : segment ≠ [] := by
  rintro rfl
  revert dots
  decide

/-- Where there are no dot segments nothing is resolved. -/
theorem resolveSegments_of_not {segments : List (List Char)}
    (plain : ∀ segment ∈ segments, isDots segment = false) (front : List (List Char)) :
    resolveSegments front segments = front.reverse ++ segments := by
  induction segments generalizing front with
  | nil => rw [resolveSegments, List.append_nil]
  | cons segment rest ih =>
      rw [List.forall_mem_cons, isDots, Bool.or_eq_false_iff] at plain
      rw [resolveSegments, plain.1.1, plain.1.2, if_neg Bool.false_ne_true,
        if_neg Bool.false_ne_true, ih plain.2, List.reverse_cons, List.append_assoc,
        List.singleton_append]

theorem weight_parent_le (front : List (List Char)) :
    Percent.weight (parent front) ≤ Percent.weight front := by
  cases front with
  | nil => exact Nat.le_refl _
  | cons last front =>
      rw [parent]
      split
      · exact Nat.le_refl _
      · rw [Percent.weight_cons]
        omega

/-- One segment is dealt with: `front'` is in front of the rest then. Nothing becomes longer, and
with a dot segment something goes away. -/
theorem exists_resolveSegments (front : List (List Char)) (segment : List Char)
    (rest : List (List Char)) : ∃ front',
      resolveSegments front (segment :: rest) = resolveSegments front' rest ∧
        (Percent.weight front' ≤ Percent.weight front + Percent.weight [segment] ∧
          (isDots segment = true →
            Percent.weight front' < Percent.weight front + Percent.weight [segment])) ∧
        ∀ other ∈ front', other = [] ∨ other = segment ∨ other ∈ front := by
  have size : isDots segment = true → 0 < (bytes segment).length :=
    fun dots => Percent.length_bytes_pos (ne_nil_of_isDots dots)
  have less := weight_parent_le front
  have kept : ∀ other ∈ parent front, other ∈ front := by
    cases front <;> grind [parent]
  rw [resolveSegments]
  cases isDouble : isDoubleDot segment with
  | true =>
      have size := size (by rw [isDots, isDouble, Bool.true_or])
      have lt : Percent.weight (if rest = [] then [] :: parent front else parent front) <
          Percent.weight front + Percent.weight [segment] := by
        split <;> simp only [Percent.weight_cons, Percent.weight_nil, Percent.bytes_nil,
          List.length_nil] <;> omega
      exact ⟨_, if_pos rfl, ⟨Nat.le_of_lt lt, fun _ => lt⟩, by split <;> grind⟩
  | false =>
      cases isSingle : isSingleDot segment with
      | true =>
          have size := size (by rw [isDots, isSingle, Bool.or_true])
          have lt : Percent.weight (if rest = [] then [] :: front else front) <
              Percent.weight front + Percent.weight [segment] := by
            split <;> simp only [Percent.weight_cons, Percent.weight_nil, Percent.bytes_nil,
              List.length_nil] <;> omega
          exact ⟨_, rfl, ⟨Nat.le_of_lt lt, fun _ => lt⟩, by split <;> grind⟩
      | false =>
          refine ⟨_, rfl, ⟨?_, by simp [isDots, isDouble, isSingle]⟩, by grind⟩
          simp only [Percent.weight_cons, Percent.weight_nil]
          omega

theorem weight_resolveSegments_le (front segments : List (List Char)) :
    Percent.weight (resolveSegments front segments) ≤
      Percent.weight front + Percent.weight segments := by
  induction segments generalizing front with
  | nil => simp [resolveSegments]
  | cons segment rest ih =>
      obtain ⟨front', resolved, ⟨le, -⟩, -⟩ := exists_resolveSegments front segment rest
      have le' := ih front'
      rw [resolved, Percent.weight_cons]
      simp only [Percent.weight_cons, Percent.weight_nil] at le
      omega

theorem weight_resolveSegments_lt {segments : List (List Char)}
    (dots : ∃ segment ∈ segments, isDots segment = true) (front : List (List Char)) :
    Percent.weight (resolveSegments front segments) <
      Percent.weight front + Percent.weight segments := by
  induction segments generalizing front with
  | nil => simp at dots
  | cons segment rest ih =>
      obtain ⟨front', resolved, ⟨le, lt⟩, -⟩ := exists_resolveSegments front segment rest
      rw [resolved, Percent.weight_cons]
      simp only [Percent.weight_cons, Percent.weight_nil] at le lt
      cases isDot : isDots segment with
      | true =>
          have le' := weight_resolveSegments_le front' rest
          have lt := lt isDot
          omega
      | false =>
          have lt' := ih (by simpa [isDot] using dots) front'
          omega

theorem mem_resolveSegments {front segments : List (List Char)} {segment : List Char}
    (member : segment ∈ resolveSegments front segments) :
    segment = [] ∨ segment ∈ front ∨ segment ∈ segments := by
  induction segments generalizing front with
  | nil => exact .inr (.inl (List.mem_reverse.mp member))
  | cons first rest ih =>
      obtain ⟨front', resolved, -, kept⟩ := exists_resolveSegments front first rest
      rw [resolved] at member
      grind

/-! ## Reading a path -/

/-- The segments of the path with their escapes read. -/
def segments? (url : Url) : Option (List String) :=
  match url.path.toList with
  | '/' :: rest => (Text.split (· == '/') rest).mapM decodeText?
  | _ => none

theorem keepsInPath_of_lt : ∀ code < 128, Percent.isHexDigit (Char.ofNat code) = true →
    keepsInPath (Char.ofNat code) = true := by
  decide

theorem keepsEscapes : Percent.KeepsEscapes keepsInPath where
  isAscii c kept := by
    simp only [keepsInPath, keepsInFragment, isPrintableAscii, Bool.and_eq_true,
      decide_eq_true_eq] at kept
    omega
  percent := by decide
  digits c isHex := by
    have code := Percent.isHexDigit_iff.mp isHex
    rw [← Char.ofNat_toNat c] at isHex ⊢
    exact keepsInPath_of_lt _ (by omega) isHex

/-- Encoding brings in percent signs and digits only. -/
theorem slash_not_mem_encode {segment : List Char} (plain : '/' ∉ segment) :
    '/' ∉ Percent.encode keepsInPath segment := by
  intro member
  obtain ⟨c, inside, written⟩ := List.mem_flatMap.mp member
  rw [Percent.encodeChar] at written
  split at written
  · rw [List.mem_singleton.mp written] at plain
    exact plain inside
  · obtain ⟨byte, -, written⟩ := List.mem_flatMap.mp written
    exact Percent.slash_not_mem_escape byte written

/-- A path that starts at the root is read segment by segment. -/
theorem segments?_of_rootedPath {url : Url} {segments : List (List Char)}
    (isPath : url.path = rootedPath segments) (plain : ∀ segment ∈ segments, '/' ∉ segment)
    {parts : List String} (nonempty : parts ≠ []) :
    url.segments? = some parts ↔ (resolveSegments [] segments).mapM decodeText? = some parts := by
  have plain' : ∀ segment ∈ resolveSegments [] segments, '/' ∉ segment := by
    intro segment member
    obtain rfl | inFront | inside := mem_resolveSegments member
    · simp
    · simp at inFront
    · exact plain segment inside
  rw [segments?, isPath, rootedPath, String.toList_ofList]
  revert plain'
  generalize resolveSegments [] segments = resolved
  intro plain'
  cases resolved with
  | nil => exact iff_of_false (by simp) (by simp [nonempty.symm])
  | cons first rest =>
      have parted : Text.split (· == '/') (Percent.encode keepsInPath first ++
          rest.flatMap fun segment => '/' :: Percent.encode keepsInPath segment) =
          (first :: rest).map (Percent.encode keepsInPath) :=
        Text.split_flatMap rfl _ first rest fun segment member c inside => by
          rw [beq_eq_false_iff_ne]
          rintro rfl
          exact slash_not_mem_encode (plain' segment member) inside
      rw [List.flatMap_cons, List.cons_append]
      simp only [parted, List.mapM_map]
      rw [show decodeText? ∘ Percent.encode keepsInPath = decodeText? from
        funext (Percent.decodeText?_encode keepsEscapes)]

/-! ## Plain parts -/

/-- Slashes that separate segments, marks of a query and of a fragment, and what is dropped. -/
def delimiters : List Char :=
  "/\\?#\t\n\r".toList

/-- The part of a path stands for itself: it holds no delimiter and no escape, and it is not a dot
segment. -/
structure IsPlain (part : String) : Prop where
  delimiters : ∀ c ∈ part.toList, c ∉ delimiters
  dots : part ≠ "." ∧ part ≠ ".."
  escapes : hasEscape part.toList = false

-- The test runs along the part: there are too many characters to go through them all.
instance (part : String) : Decidable (IsPlain part) :=
  decidable_of_iff (part.toList.all (fun c => c ∉ delimiters) = true ∧
      (part ≠ "." ∧ part ≠ "..") ∧ hasEscape part.toList = false)
    ⟨fun ⟨delimiters, dots, escapes⟩ =>
        ⟨List.all_iff_forall_prop.mp delimiters, dots, escapes⟩,
      fun ⟨delimiters, dots, escapes⟩ =>
        ⟨List.all_iff_forall_prop.mpr delimiters, dots, escapes⟩⟩

/-- Without escapes a dot is a dot. -/
theorem eq_of_readDot? {segment rest : List Char} (plain : hasEscape segment = false)
    (reads : readDot? segment = some rest) : segment = '.' :: rest ∧ hasEscape rest = false := by
  unfold readDot? at reads
  split at reads
  · cases reads
    exact ⟨rfl, by simpa [hasEscape] using plain⟩
  · next tail =>
      have escaped : Percent.beginsHex ('2' :: 'e' :: tail) = true := rfl
      simp [hasEscape, escaped] at plain
  · next tail =>
      have escaped : Percent.beginsHex ('2' :: 'E' :: tail) = true := rfl
      simp [hasEscape, escaped] at plain
  · cases reads

theorem isDots_of_isPlain {part : String} (plain : IsPlain part) : isDots part.toList = false := by
  rw [isDots, Bool.or_eq_false_iff]
  constructor
  · rw [isDoubleDot, decide_eq_false_iff_not]
    intro reads
    obtain ⟨rest, first, second⟩ := Option.bind_eq_some_iff.mp reads
    obtain ⟨isFirst, plain'⟩ := eq_of_readDot? plain.escapes first
    obtain ⟨rfl, -⟩ := eq_of_readDot? plain' second
    exact plain.dots.2 (String.toList_inj.mp isFirst)
  · rw [isSingleDot, decide_eq_false_iff_not]
    intro reads
    exact plain.dots.1 (String.toList_inj.mp (eq_of_readDot? plain.escapes reads).1)

/-! ## From parts to segments -/

def isSlash (c : Char) : Bool :=
  c == '/' || c == '\\'

/-- A character that is dropped at the end of a URL. -/
def isEdge (c : Char) : Bool :=
  c.toNat ≤ 0x20

/-- A character that is dropped anywhere in a URL. -/
def isBreak (c : Char) : Bool :=
  c == '\t' || c == '\n' || c == '\r'

/-- What is no delimiter is not split at, not cut off and not dropped. -/
theorem not_mem_delimiters_iff {c : Char} : c ∉ delimiters ↔
    isSlash c = false ∧ c ≠ '?' ∧ c ≠ '#' ∧ isBreak c = false := by
  have each : delimiters = ['/', '\\', '?', '#', '\t', '\n', '\r'] := by decide
  simp [each, isSlash, isBreak, and_assoc]

/-- What stays of the end of a URL. -/
def trimmed (text : List Char) : List Char :=
  (Text.dropEnd isEdge text).filter (!isBreak ·)

/-- What is in front of a query and a fragment. -/
def beforeSuffixes (text : List Char) : List Char :=
  (Text.splitAt (· == '?') (Text.splitAt (· == '#') text).1).1

/-- The parts of a path with slashes between them. -/
def joined (first : String) (rest : List String) : List Char :=
  first.toList ++ rest.flatMap fun part => '/' :: part.toList

theorem joined_nil (first : String) : joined first [] = first.toList :=
  List.append_nil _

theorem joined_cons (first second : String) (rest : List String) :
    joined first (second :: rest) = first.toList ++ '/' :: joined second rest := rfl

theorem joined_concat (first : String) (rest : List String) (last : String) :
    joined first (rest ++ [last]) = joined first rest ++ '/' :: last.toList := by
  simp [joined]

theorem mem_joined {first : String} {rest : List String} {c : Char} :
    c ∈ joined first rest ↔
      (∃ part ∈ first :: rest, c ∈ part.toList) ∨ rest ≠ [] ∧ c = '/' := by
  induction rest generalizing first with
  | nil => simp [joined]
  | cons second rest ih =>
      rw [joined_cons, List.mem_append, List.mem_cons, ih]
      grind

theorem weight_joined (first : String) (rest : List String) :
    Percent.weight ((first :: rest).map String.toList) =
      (bytes (joined first rest)).length + 1 := by
  induction rest generalizing first with
  | nil => simp [joined]
  | cons second rest ih =>
      have slash : String.utf8EncodeChar '/' = [47] := by decide
      rw [List.map_cons, Percent.weight_cons, ih, joined_cons, Percent.bytes_append,
        Percent.bytes_cons, List.length_append, List.length_append, slash, List.length_singleton]
      omega

theorem dropEnd_sublist (test : Char → Bool) (text : List Char) :
    (Text.dropEnd test text).Sublist text := by
  rw [Text.dropEnd, ← List.reverse_sublist, List.reverse_reverse]
  exact List.dropWhile_sublist _

theorem trimmed_sublist (text : List Char) : (trimmed text).Sublist text :=
  List.filter_sublist.trans (dropEnd_sublist _ _)

theorem beforeSuffixes_sublist (text : List Char) : (beforeSuffixes text).Sublist text :=
  (List.takeWhile_sublist _).trans (List.takeWhile_sublist _)

/-- Nothing is dropped behind a character that stays. -/
theorem dropEnd_of_getLast? {test : Char → Bool} {text : List Char}
    (stays : ∀ c ∈ text.getLast?, test c = false) : Text.dropEnd test text = text := by
  obtain rfl | ⟨front, last, rfl⟩ := text.eq_nil_or_concat'
  · rfl
  · have stays : test last = false := stays last (by simp)
    simp [Text.dropEnd, stays]

/-- A text from which nothing is dropped at its end ends in a character that stays. -/
theorem getLast?_of_dropEnd {test : Char → Bool} {text : List Char}
    (same : Text.dropEnd test text = text) : ∀ c ∈ text.getLast?, test c = false := by
  intro c isLast
  obtain ⟨front, rfl⟩ := List.getLast?_eq_some_iff.mp isLast
  cases stays : test c with
  | false => rfl
  | true =>
      have less := (dropEnd_sublist test front).length_le
      have dropped : Text.dropEnd test (front ++ [c]) = Text.dropEnd test front := by
        simp [Text.dropEnd, stays]
      rw [← dropped, same, List.length_append, List.length_singleton] at less
      omega

/-- Behind a slash a text ends as it does alone, and a slash stays. -/
theorem stays_iff (front text : List Char) :
    (∀ c ∈ (front ++ '/' :: text).getLast?, isEdge c = false) ↔
      ∀ c ∈ text.getLast?, isEdge c = false := by
  obtain rfl | ⟨text, last, rfl⟩ := text.eq_nil_or_concat'
  · simp [isEdge]
  · rw [← List.cons_append, ← List.append_assoc, List.getLast?_concat, List.getLast?_concat]

/-- What is read of segments: either these are the segments, and none of them has escapes, or it is
shorter than they are. -/
theorem of_mapM_decodeText? {segments : List (List Char)} {parts : List String}
    (reads : segments.mapM decodeText? = some parts) :
    (parts.map String.toList = segments ∧ ∀ part ∈ parts, hasEscape part.toList = false) ∨
      Percent.weight (parts.map String.toList) < Percent.weight segments := by
  have each := Codec.forall₂_of_mapM reads
  clear reads
  induction each with
  | nil => exact .inl ⟨rfl, nofun⟩
  | @cons segment part segments parts reads _ ih =>
      have isRead := Percent.decodeText?_eq_some_iff.mp reads
      have size := Percent.length_decode_le (bytes segment)
      rw [isRead] at size
      rw [List.map_cons, Percent.weight_cons, Percent.weight_cons]
      cases escaped : hasEscape segment with
      | true =>
          have shorter := Percent.length_decode_bytes_lt escaped
          rw [isRead] at shorter
          obtain ⟨same, -⟩ | less := ih
          · rw [same]
            omega
          · omega
      | false =>
          have isSegment : part = String.ofList segment := by
            have reads' : decodeText? (String.ofList segment).toList =
                some (String.ofList segment) :=
              Percent.decodeText?_of_not (by rwa [String.toList_ofList])
            rw [String.toList_ofList, reads] at reads'
            exact Option.some.inj reads'
          subst isSegment
          rw [String.toList_ofList]
          obtain ⟨same, plain⟩ | less := ih
          · exact .inl ⟨by rw [same], List.forall_mem_cons.mpr
              ⟨by rwa [String.toList_ofList], plain⟩⟩
          · omega

/-- If nothing is lost in both steps, nothing is lost in the first one. -/
theorem trimmed_of_beforeSuffixes {text : List Char}
    (same : beforeSuffixes (trimmed text) = text) : trimmed text = text := by
  have part := beforeSuffixes_sublist (trimmed text)
  rw [same] at part
  exact (trimmed_sublist text).antisymm part

theorem ne_of_mem_beforeSuffixes {text : List Char} {c : Char}
    (member : c ∈ beforeSuffixes text) : c ≠ '?' ∧ c ≠ '#' := by
  have query := List.mem_takeWhile_imp member
  have fragment := List.mem_takeWhile_imp ((List.takeWhile_sublist _).subset member)
  exact ⟨by simpa using query, by simpa using fragment⟩

/-- Parts without escapes are read as they are. -/
theorem mapM_decodeText?_of_not {parts : List String}
    (plain : ∀ part ∈ parts, hasEscape part.toList = false) :
    (parts.map String.toList).mapM decodeText? = some parts := by
  rw [List.mapM_map]
  induction parts with
  | nil => rfl
  | cons part parts ih =>
      rw [List.forall_mem_cons] at plain
      rw [List.mapM_cons, Function.comp_apply, Percent.decodeText?_of_not plain.1, ih plain.2]
      rfl

section Parts

variable {first : String} {rest : List String}

/-- From plain parts nothing is lost. -/
theorem mapM_of_isPlain (plain : ∀ part ∈ first :: rest, IsPlain part)
    (stays : ∀ c ∈ (joined first rest).getLast?, isEdge c = false) :
    beforeSuffixes (trimmed (joined first rest)) = joined first rest ∧
      (resolveSegments [] (Text.split isSlash (joined first rest))).mapM decodeText? =
        some (first :: rest) := by
  have apart : ∀ c ∈ joined first rest, c ≠ '?' ∧ c ≠ '#' ∧ isBreak c = false := by
    intro c member
    obtain ⟨part, inside, member⟩ | ⟨-, rfl⟩ := mem_joined.mp member
    · exact (not_mem_delimiters_iff.mp ((plain part inside).delimiters c member)).2
    · decide
  have isTrimmed : trimmed (joined first rest) = joined first rest := by
    rw [trimmed, dropEnd_of_getLast? stays, List.filter_eq_self]
    intro c member
    simp [(apart c member).2.2]
  have isPath : beforeSuffixes (joined first rest) = joined first rest := by
    have before (mark : Char) (none : ∀ c ∈ joined first rest, c ≠ mark) :
        (Text.splitAt (· == mark) (joined first rest)).1 = joined first rest :=
      List.takeWhile_eq_self_iff.mpr fun c member => by simpa using none c member
    rw [beforeSuffixes, before '#' fun c member => (apart c member).2.1,
      before '?' fun c member => (apart c member).1]
  have parted : Text.split isSlash (joined first rest) = (first :: rest).map String.toList :=
    Text.split_flatMap rfl String.toList first rest fun part inside c member =>
      (not_mem_delimiters_iff.mp ((plain part inside).delimiters c member)).1
  have kept : ∀ segment ∈ (first :: rest).map String.toList, isDots segment = false := by
    simpa using fun part inside => isDots_of_isPlain (plain part inside)
  refine ⟨by rw [isTrimmed, isPath], ?_⟩
  rw [parted, resolveSegments_of_not kept, List.reverse_nil, List.nil_append]
  exact mapM_decodeText?_of_not fun part inside => (plain part inside).escapes

/-- If all parts are read, nothing was lost. -/
theorem nothing_lost_of_mapM
    (reads : (resolveSegments [] (Text.split isSlash
      (beforeSuffixes (trimmed (joined first rest))))).mapM decodeText? = some (first :: rest)) :
    beforeSuffixes (trimmed (joined first rest)) = joined first rest ∧
      (first :: rest).map String.toList = Text.split isSlash (joined first rest) ∧
      (∀ segment ∈ Text.split isSlash (joined first rest), isDots segment = false) ∧
      ∀ part ∈ first :: rest, hasEscape part.toList = false := by
  have narrow : ∀ c, isSlash c = true → (String.utf8EncodeChar c).length = 1 := by
    intro c slash
    simp only [isSlash, Bool.or_eq_true, beq_iff_eq] at slash
    obtain rfl | rfl := slash <;> rfl
  -- The path has as many bytes as all parts with slashes, and no step makes it longer.
  have whole := weight_joined first rest
  have shorter := (beforeSuffixes_sublist _).trans (trimmed_sublist (joined first rest))
  have le := (shorter.flatMap String.utf8EncodeChar).length_le
  have split := Percent.weight_split narrow (beforeSuffixes (trimmed (joined first rest)))
  have le' := weight_resolveSegments_le []
    (Text.split isSlash (beforeSuffixes (trimmed (joined first rest))))
  rw [Percent.weight_nil, Nat.zero_add, split] at le'
  change (bytes _).length ≤ (bytes _).length at le
  obtain ⟨same, escapes⟩ | less := of_mapM_decodeText? reads
  · rw [← same, whole] at le'
    have isWhole := Percent.eq_of_length_bytes shorter (Nat.le_of_succ_le_succ le')
    rw [isWhole] at same split
    have dots : ∀ segment ∈ Text.split isSlash (joined first rest), isDots segment = false := by
      intro segment member
      rw [← Bool.not_eq_true]
      intro dots
      have less := weight_resolveSegments_lt ⟨segment, member, dots⟩ []
      rw [← same, whole, split, Percent.weight_nil] at less
      omega
    rw [resolveSegments_of_not dots] at same
    exact ⟨isWhole, same, dots, escapes⟩
  · omega

/-- If all parts are read, they are plain. -/
theorem isPlain_of_mapM
    (reads : (resolveSegments [] (Text.split isSlash
      (beforeSuffixes (trimmed (joined first rest))))).mapM decodeText? = some (first :: rest)) :
    (∀ part ∈ first :: rest, IsPlain part) ∧
      ∀ c ∈ (joined first rest).getLast?, isEdge c = false := by
  obtain ⟨isWhole, parted, dots, escapes⟩ := nothing_lost_of_mapM reads
  have isTrimmed := trimmed_of_beforeSuffixes isWhole
  have isKept : Text.dropEnd isEdge (joined first rest) = joined first rest := by
    have part : (trimmed (joined first rest)).Sublist (Text.dropEnd isEdge (joined first rest)) :=
      List.filter_sublist
    rw [isTrimmed] at part
    exact (dropEnd_sublist _ _).antisymm part
  refine ⟨fun part member => ?_, getLast?_of_dropEnd isKept⟩
  have isSegment : part.toList ∈ Text.split isSlash (joined first rest) := by
    rw [← parted]
    exact List.mem_map_of_mem member
  have slashes := Text.separates_of_mem_split isSegment
  refine ⟨fun c inside => ?_, ?_, escapes part member⟩
  · have there : c ∈ joined first rest := mem_joined.mpr (.inl ⟨part, member, inside⟩)
    obtain ⟨query, fragment⟩ := ne_of_mem_beforeSuffixes (isWhole ▸ there)
    have stays : isBreak c = false := by
      simpa using (List.mem_filter.mp (isTrimmed ▸ there : c ∈ trimmed _)).2
    exact not_mem_delimiters_iff.mpr ⟨slashes c inside, query, fragment, stays⟩
  · have dots := dots _ isSegment
    constructor <;> rintro rfl <;> revert dots <;> decide

end Parts

end Url

end ClusterLinks
