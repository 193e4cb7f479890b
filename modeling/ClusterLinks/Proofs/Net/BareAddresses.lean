import ClusterLinks.Http.Message
import ClusterLinks.Proofs.Net.Paths

/-!
# Addresses of hosts

An address that names a host on the web and nothing behind it. Whatever is written behind such an
address, with a slash in front, is the path of the URL that is read: the host does not look at it.
-/

namespace ClusterLinks

namespace Url

/-- Up to slashes at its end the address is a scheme of the web and an authority. -/
structure IsBare (address : String) (scheme authority : List Char) : Prop where
  text : (Text.withoutFinalSlashes address).toList = scheme ++ ':' :: '/' :: '/' :: authority
  isWeb : scheme.map Char.toLower = "http".toList ∨ scheme.map Char.toLower = "https".toList
  nonempty : authority ≠ []
  delimiters : ∀ c ∈ authority, c ∉ delimiters

/-- Nothing in front of a character that stays is dropped at the end. -/
theorem dropEnd_append {test : Char → Bool} {c : Char} (stays : test c = false)
    (front tail : List Char) :
    Text.dropEnd test (front ++ c :: tail) = front ++ c :: Text.dropEnd test tail := by
  rw [Text.dropEnd, List.reverse_append, List.reverse_cons, List.append_assoc,
    List.singleton_append, List.dropWhile_append]
  split
  · next none =>
      rw [List.dropWhile_cons_of_neg (by simp [stays]), Text.dropEnd, List.isEmpty_iff.mp none]
      simp
  · simp [Text.dropEnd]

/-- What is in front of a path stays if it begins visibly and has no breaks. -/
theorem cleaned_append {c : Char} {front : List Char} (begins : isEdge c = false)
    (whole : ∀ c' ∈ c :: front, isBreak c' = false) (tail : List Char) :
    cleaned (String.ofList (c :: front ++ '/' :: tail)) = c :: front ++ '/' :: trimmed tail := by
  have cleanedIs (text : String) : cleaned text =
      (Text.dropEnd isEdge (text.toList.dropWhile isEdge)).filter (!isBreak ·) := rfl
  have kept : (c :: front).filter (!isBreak ·) = c :: front :=
    List.filter_eq_self.mpr fun c' member => by rw [whole c' member]; rfl
  rw [cleanedIs, String.toList_ofList, List.cons_append,
    List.dropWhile_cons_of_neg (by simp [begins]), ← List.cons_append, dropEnd_append (by decide),
    List.filter_append, kept, List.filter_cons_of_pos (by decide), trimmed]

theorem letter_stays {c : Char} (isAlpha : c.isAlpha = true) :
    isEdge c = false ∧ isBreak c = false ∧ c ≠ ':' := by
  have code : 65 ≤ c.toNat := by
    obtain isUpper | isLower := (Bool.or_eq_true ..).mp isAlpha
    · exact UInt32.le_iff_toNat_le.mp (of_decide_eq_true isUpper).1
    · have code : 97 ≤ c.toNat :=
        UInt32.le_iff_toNat_le.mp (of_decide_eq_true ((Bool.and_eq_true ..).mp isLower).1)
      omega
  have apart (other : Char) (low : other.toNat < 65) : c ≠ other := by
    rintro rfl
    omega
  refine ⟨by simp [isEdge]; omega, ?_, apart ':' (by decide)⟩
  simp [isBreak, apart '\t' (by decide), apart '\n' (by decide), apart '\r' (by decide)]

/-- Letters in front of a colon are a scheme. -/
theorem readScheme?_append {first : Char} {others : List Char}
    (letters : ∀ c ∈ first :: others, c.isAlpha = true) (rest : List Char) :
    readScheme? (first :: others ++ ':' :: rest) =
      some (String.ofList ((first :: others).map Char.toLower), rest) := by
  have inside : ∀ c ∈ first :: others, (!(c == ':')) = true := by
    intro c member
    simpa using (letter_stays (letters c member)).2.2
  have split : Text.splitAt (· == ':') (first :: others ++ ':' :: rest) =
      (first :: others, ':' :: rest) := by
    rw [Text.splitAt, List.takeWhile_append_of_pos inside, List.dropWhile_append_of_pos inside,
      List.takeWhile_cons_of_neg (by simp), List.dropWhile_cons_of_neg (by simp), List.append_nil]
  rw [List.forall_mem_cons] at letters
  have others : others.all (fun c => c.isAlphanum || "+-.".toList.contains c) = true := by
    rw [List.all_eq_true]
    intro c member
    rw [Char.isAlphanum, letters.2 c member, Bool.true_or, Bool.true_or]
  simp only [readScheme?, split, letters.1, others, Bool.and_self, if_true]

/-- Nothing is in the address of a host that is not in the authority. -/
theorem mem_of_mem_splitUser {authority : List Char} {c : Char}
    (member : c ∈ (splitUser authority).2) : c ∈ authority := by
  unfold splitUser at member
  split at member
  · exact List.mem_reverse.mp ((List.takeWhile_sublist _).subset (List.mem_reverse.mp member))
  · exact member

theorem mem_of_mem_splitPort {address : List Char} {c : Char}
    (member : c ∈ (splitPort address).2) : c ∈ address := by
  unfold splitPort at member
  split at member
  · change c ∈ (List.dropWhile _ _).drop 1 at member
    exact (List.dropWhile_sublist _).subset (List.mem_of_mem_drop member)
  · exact (List.dropWhile_sublist _).subset member

/-- A port without a backslash behind it goes to the end. -/
theorem behind_of_port? {web : String} {text behind : List Char} {port : Option Nat}
    (plain : '\\' ∉ text) (reads : port? web text = some (port, behind)) : behind = [] := by
  unfold port? at reads
  split at reads
  · cases reads
    rfl
  · next rest =>
      have inside : ∀ c ∈ rest.dropWhile Char.isDigit, c ∈ ':' :: rest :=
        fun c member => List.mem_cons_of_mem _ ((List.dropWhile_sublist _).subset member)
      have isEnd : (rest.dropWhile Char.isDigit).head? ≠ some '\\' := fun backslash =>
        plain (inside _ (List.mem_of_head? backslash))
      dsimp only at reads
      split_ifs at reads with wrong
      all_goals
        cases reads
        rw [not_or, not_not] at wrong
        exact wrong.2.resolve_right isEnd
  · cases reads

/-- Where the path begins, and that there is no query if nothing is cut off. -/
theorem splitSuffixes_slash (tail : List Char) :
    (splitSuffixes true ('/' :: tail)).1 = '/' :: beforeSuffixes tail ∧
      (beforeSuffixes tail = tail → (splitSuffixes true ('/' :: tail)).2.1 = none) := by
  have cut (mark : Char) (other : mark ≠ '/') (text : List Char) :
      Text.splitAt (· == mark) ('/' :: text) =
        ('/' :: (Text.splitAt (· == mark) text).1, (Text.splitAt (· == mark) text).2) := by
    rw [Text.splitAt, List.takeWhile_cons_of_pos (by simpa using other.symm),
      List.dropWhile_cons_of_pos (by simpa using other.symm)]
    rfl
  refine ⟨by simp only [splitSuffixes, cut _ (by decide : '#' ≠ '/'),
    cut _ (by decide : '?' ≠ '/'), beforeSuffixes], fun same => ?_⟩
  have none : (Text.splitAt (· == '?') (Text.splitAt (· == '#') tail).1).2 = [] := by
    refine List.dropWhile_eq_nil_iff.mpr fun c member => ?_
    have inside := (List.takeWhile_sublist _).subset member
    simpa using (ne_of_mem_beforeSuffixes (same.symm ▸ inside)).1
  simp only [splitSuffixes, cut _ (by decide : '#' ≠ '/'), cut _ (by decide : '?' ≠ '/'), none]

section Bare

variable {address : String} {scheme authority : List Char} (bare : IsBare address scheme authority)

include bare

theorem IsBare.isAlpha {c : Char} (member : c ∈ scheme) : c.isAlpha = true := by
  have lowered : c.toLower ∈ scheme.map Char.toLower := List.mem_map_of_mem member
  have isLower : ∀ c' ∈ scheme.map Char.toLower, c'.isAlpha = true := by
    obtain isHttp | isHttps := bare.isWeb
    · rw [isHttp]
      exact List.all_eq_true.mp (by decide)
    · rw [isHttps]
      exact List.all_eq_true.mp (by decide)
  by_cases isUpper : c.isUpper = true
  · exact (Bool.or_eq_true ..).mpr (.inl isUpper)
  · have same : c.toLower = c := dif_neg fun upper => isUpper (decide_eq_true upper)
    exact same ▸ isLower _ lowered

theorem IsBare.exists_cons : ∃ first others, scheme = first :: others := by
  refine List.exists_cons_of_ne_nil ?_
  rintro rfl
  obtain isHttp | isHttps := bare.isWeb
  · cases isHttp
  · cases isHttps

/-- No character of the authority ends it, or goes away. -/
theorem IsBare.stays {c : Char} (member : c ∈ authority) :
    c ≠ '/' ∧ c ≠ '\\' ∧ c ≠ '?' ∧ c ≠ '#' ∧ isBreak c = false := by
  obtain ⟨slash, query, fragment, stays⟩ :=
    not_mem_delimiters_iff.mp (bare.delimiters c member)
  simp only [isSlash, Bool.or_eq_false_iff, beq_eq_false_iff_ne] at slash
  exact ⟨slash.1, slash.2, query, fragment, stays⟩

/-- The scheme of a bare address is read, and what is behind the two slashes is left. -/
theorem IsBare.ofText?_append (tail : List Char) : ∃ web, (web = "http" ∨ web = "https") ∧
    ofText? (String.ofList ((Text.withoutFinalSlashes address).toList ++ '/' :: tail)) =
      withAuthority? web (authority ++ '/' :: trimmed tail) := by
  have letters : ∀ c ∈ scheme, c.isAlpha = true := fun c => bare.isAlpha
  have isWeb := bare.isWeb
  have text := bare.text
  obtain ⟨first, others, rfl⟩ := bare.exists_cons
  have whole : ∀ c ∈ first :: (others ++ ':' :: '/' :: '/' :: authority), isBreak c = false := by
    intro c member
    rw [← List.cons_append] at member
    obtain inScheme | behind := List.mem_append.mp member
    · exact (letter_stays (letters c inScheme)).2.1
    · simp only [List.mem_cons] at behind
      obtain rfl | rfl | rfl | inAuthority := behind
      · rfl
      · rfl
      · rfl
      · exact (bare.stays inAuthority).2.2.2.2
  have begins := (letter_stays (letters first (List.mem_cons_self ..))).1
  have isClean :
      cleaned (String.ofList ((Text.withoutFinalSlashes address).toList ++ '/' :: tail)) =
        first :: others ++ ':' :: '/' :: '/' :: (authority ++ '/' :: trimmed tail) := by
    have kept := cleaned_append begins whole tail
    simp only [text, List.cons_append, List.append_assoc] at kept ⊢
    exact kept
  have behind : ('/' :: '/' :: (authority ++ '/' :: trimmed tail)).dropWhile
      (fun c => c == '/' || c == '\\') = authority ++ '/' :: trimmed tail := by
    obtain ⟨c, authority, rfl⟩ := List.exists_cons_of_ne_nil bare.nonempty
    have stays := bare.stays (List.mem_cons_self ..)
    rw [List.dropWhile_cons_of_pos rfl, List.dropWhile_cons_of_pos rfl, List.cons_append,
      List.dropWhile_cons_of_neg (by simp [stays])]
  have reads (web : String) (isWeb : String.ofList ((first :: others).map Char.toLower) = web)
      (isOther : web ≠ "file") (isSpecial : isSpecial web = true) :
      ofText? (String.ofList ((Text.withoutFinalSlashes address).toList ++ '/' :: tail)) =
        withAuthority? web (authority ++ '/' :: trimmed tail) := by
    rw [ofText?, isClean, readScheme?_append letters, isWeb, Option.bind_eq_bind, Option.bind_some]
    simp only [if_neg isOther, if_pos isSpecial, behind]
  obtain isHttp | isHttps := isWeb
  · refine ⟨"http", .inl rfl, reads _ ?_ (by decide) (by decide)⟩
    rw [isHttp, String.ofList_toList]
  · refine ⟨"https", .inr rfl, reads _ ?_ (by decide) (by decide)⟩
    rw [isHttps, String.ofList_toList]

/-- The path of the URL is what is behind the authority. -/
theorem IsBare.of_withAuthority? {web : String} (isWeb : web = "http" ∨ web = "https")
    {tail : List Char} {url : Url}
    (reads : withAuthority? web (authority ++ '/' :: tail) = some url) :
    url.path = rootedPath (Text.split isSlash (beforeSuffixes tail)) ∧
      (beforeSuffixes tail = tail → url.query = none) := by
  have isSpecial : isSpecial web = true := by
    obtain rfl | rfl := isWeb <;> decide
  have split : Text.splitAt (fun c => c == '/' || c == '?' || c == '#' || (true && c == '\\'))
      (authority ++ '/' :: tail) = (authority, '/' :: tail) := by
    have inside : ∀ c ∈ authority,
        (!(c == '/' || c == '?' || c == '#' || (true && c == '\\'))) = true := by
      intro c member
      have stays := bare.stays member
      simp [stays]
    rw [Text.splitAt, List.takeWhile_append_of_pos inside, List.dropWhile_append_of_pos inside,
      List.takeWhile_cons_of_neg (by simp), List.dropWhile_cons_of_neg (by simp), List.append_nil]
  have plain : '\\' ∉ (splitPort (splitUser authority).2).2 := fun member =>
    (bare.stays (mem_of_mem_splitUser (mem_of_mem_splitPort member))).2.1 rfl
  rw [withAuthority?, isSpecial] at reads
  simp only [split, true_or, and_true] at reads
  split_ifs at reads
  obtain ⟨host, -, reads⟩ := Option.bind_eq_some_iff.mp reads
  obtain ⟨⟨port, behind⟩, isPort, reads⟩ := Option.bind_eq_some_iff.mp reads
  cases behind_of_port? plain isPort
  cases reads
  obtain ⟨isPath, isQuery⟩ := splitSuffixes_slash tail
  refine ⟨?_, isQuery⟩
  simp only [List.nil_append, isPath]
  rfl

/-- Behind a bare address stands a path, and a query if there is a mark of one. -/
theorem IsBare.of_ofText? {tail : List Char} {url : Url}
    (reads : ofText? (String.ofList ((Text.withoutFinalSlashes address).toList ++ '/' :: tail)) =
      some url) :
    url.path = rootedPath (Text.split isSlash (beforeSuffixes (trimmed tail))) ∧
      (beforeSuffixes (trimmed tail) = trimmed tail → url.query = none) := by
  obtain ⟨web, isWeb, same⟩ := bare.ofText?_append tail
  exact bare.of_withAuthority? isWeb (same.symm.trans reads)

/-- The segments of the path are the parts that are written behind the address exactly if all of
them are plain and the last one ends visibly, and then there is no query. -/
theorem IsBare.segments?_iff {first : String} {rest : List String} {url : Url}
    (reads : ofText? (String.ofList ((Text.withoutFinalSlashes address).toList ++
      '/' :: joined first rest)) = some url) :
    (url.segments? = some (first :: rest) ↔ (∀ part ∈ first :: rest, IsPlain part) ∧
      ∀ c ∈ (joined first rest).getLast?, isEdge c = false) ∧
    (url.segments? = some (first :: rest) → url.query = none) := by
  obtain ⟨isPath, isQuery⟩ := bare.of_ofText? reads
  have slashes : ∀ segment ∈ Text.split isSlash (beforeSuffixes (trimmed (joined first rest))),
      '/' ∉ segment := fun segment member slash => by
    cases Text.separates_of_mem_split member '/' slash
  have segments := segments?_of_rootedPath isPath slashes (List.cons_ne_nil first rest)
  refine ⟨segments.trans ⟨isPlain_of_mapM, fun ⟨plain, stays⟩ => ?_⟩, fun found => isQuery ?_⟩
  · obtain ⟨same, found⟩ := mapM_of_isPlain plain stays
    rwa [same]
  · have same := (nothing_lost_of_mapM (segments.mp found)).1
    rw [same, trimmed_of_beforeSuffixes same]

end Bare

end Url

end ClusterLinks
