import ClusterLinks.Json

/-!
# JSON merge patch

RFC 7386: an object in the patch is merged entry by entry, `null` removes an entry, and any
other value replaces what was there.
-/

namespace ClusterLinks.Json

mutual
/-- The document that a patch makes of a target; `null` stands for an absent target. -/
def mergePatch (target : Json) : (patch : Json) → Json
  | .object changes => .object (mergeEntries (target.entries?.getD []) changes)
  | patch => patch

/-- Applies the entries of a patch one after the other. -/
def mergeEntries (target : Entries Json) : (changes : List (String × Json)) → Entries Json
  | [] => target
  | (key, .null) :: rest => mergeEntries (Entries.erase key target) rest
  | (key, change) :: rest =>
      mergeEntries
        (Entries.insert key (mergePatch ((Entries.get? key target).getD .null) change) target)
        rest
end

end ClusterLinks.Json
