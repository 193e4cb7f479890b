import ClusterLinks.Endpoint.Wanted
import ClusterLinks.ResourceId

/-!
# Resource groups as places

Subscriptions and resource groups without slashes are whole segments of an identifier. Among such
groups an identifier belongs to at most one, and the identifier of a link belongs to the group that
it was made for.
-/

namespace ClusterLinks

namespace ResourceId

/-- A text that fits between two slashes. -/
def IsSegment (text : String) : Prop :=
  '/' ∉ text.toList

instance (text : String) : Decidable (IsSegment text) :=
  inferInstanceAs (Decidable ('/' ∉ text.toList))

/-- What may follow a whole segment. -/
def AtSegmentEnd (rest : List Char) : Prop :=
  rest = [] ∨ ∃ more, rest = '/' :: more

/-- The first segment of a path and what follows it are determined by the path. -/
theorem segment_unique {left right rest more : List Char} (leftPlain : '/' ∉ left)
    (rightPlain : '/' ∉ right) (restEnds : AtSegmentEnd rest) (moreEnds : AtSegmentEnd more)
    (equal : left ++ rest = right ++ more) : left = right ∧ rest = more := by
  induction left generalizing right with
  | nil =>
      cases right with
      | nil => exact ⟨rfl, equal⟩
      | cons head tail =>
          rcases restEnds with rfl | ⟨after, rfl⟩
          · simp at equal
          · simp only [List.nil_append, List.cons_append, List.cons.injEq] at equal
            simp [← equal.1] at rightPlain
  | cons head tail ih =>
      cases right with
      | nil =>
          rcases moreEnds with rfl | ⟨after, rfl⟩
          · simp at equal
          · simp only [List.nil_append, List.cons_append, List.cons.injEq] at equal
            simp [equal.1] at leftPlain
      | cons head' tail' =>
          simp only [List.cons_append, List.cons.injEq] at equal
          simp only [List.mem_cons, not_or] at leftPlain rightPlain
          rcases ih leftPlain.2 rightPlain.2 equal.2 with ⟨tails, rests⟩
          exact ⟨by rw [equal.1, tails], rests⟩

private theorem isPrefixOf?_eq_some_iff {start whole rest : List Char} :
    start.isPrefixOf? whole = some rest ↔ whole = start ++ rest := by
  induction start generalizing whole with
  | nil =>
      change some whole = some rest ↔ whole = rest
      exact Option.some_inj
  | cons head tail ih =>
      cases whole with
      | nil =>
          change none = some rest ↔ [] = head :: (tail ++ rest)
          simp
      | cons head' tail' =>
          change (if head == head' then tail.isPrefixOf? tail' else none) = some rest ↔
            head' :: tail' = head :: (tail ++ rest)
          by_cases equal : head = head'
          · simp [equal, ih]
          · simp [equal, Ne.symm equal]

/-- An identifier belongs to a group if the path of the group is followed by its end or by
another segment. -/
theorem isInGroup_iff {id subscription group : String} :
    isInGroup id subscription group = true ↔
      ∃ rest, id.toList = (resourceGroup subscription group).toList ++ rest ∧
        AtSegmentEnd rest := by
  unfold isInGroup
  constructor
  · intro inside
    split at inside
    · next found => exact ⟨[], isPrefixOf?_eq_some_iff.mp found, .inl rfl⟩
    · next found =>
        rw [beq_iff_eq] at inside
        subst inside
        exact ⟨_, isPrefixOf?_eq_some_iff.mp found, .inr ⟨_, rfl⟩⟩
    · simp at inside
  · intro starts
    rcases starts with ⟨rest, shape, rfl | ⟨more, rfl⟩⟩
    · simp [isPrefixOf?_eq_some_iff.mpr shape]
    · simp [isPrefixOf?_eq_some_iff.mpr shape]

private theorem toList_resourceGroup (subscription group : String) :
    (resourceGroup subscription group).toList =
      "/subscriptions/".toList ++
        (subscription.toList ++ ("/resourceGroups/".toList ++ group.toList)) := by
  change ("/subscriptions/" ++ subscription ++ "/resourceGroups/" ++ group).toList = _
  simp only [String.toList_append, List.append_assoc]

/-- Subscription and group can be read off any identifier that belongs to the group. -/
theorem isInGroup_unique {id subscription group subscription' group' : String}
    (plainSubscription : IsSegment subscription) (plainGroup : IsSegment group)
    (plainSubscription' : IsSegment subscription') (plainGroup' : IsSegment group')
    (inside : isInGroup id subscription group = true)
    (inside' : isInGroup id subscription' group' = true) :
    subscription = subscription' ∧ group = group' := by
  rcases isInGroup_iff.mp inside with ⟨rest, shape, ends⟩
  rcases isInGroup_iff.mp inside' with ⟨rest', shape', ends'⟩
  have same := shape.symm.trans shape'
  simp only [toList_resourceGroup, List.append_assoc] at same
  have afterRoot := List.append_cancel_left same
  have groupsFollow (tail : List Char) :
      AtSegmentEnd ("/resourceGroups/".toList ++ tail) := .inr ⟨_, rfl⟩
  obtain ⟨subscriptions, afterSubscription⟩ :=
    segment_unique plainSubscription plainSubscription' (groupsFollow _) (groupsFollow _) afterRoot
  obtain ⟨groups, -⟩ :=
    segment_unique plainGroup plainGroup' ends ends' (List.append_cancel_left afterSubscription)
  exact ⟨String.toList_inj.mp subscriptions, String.toList_inj.mp groups⟩

@[simp] theorem isInGroup_privateLink (subscription group link : String) :
    isInGroup (privateLink subscription group link) subscription group = true := by
  apply isInGroup_iff.mpr
  refine ⟨"/providers/Microsoft.Network/privateLinkServices/".toList ++ link.toList, ?_,
    .inr ⟨_, rfl⟩⟩
  rw [privateLink, String.toList_append, String.toList_append, List.append_assoc]

/-- A link belongs to no other group than its own. -/
theorem isInGroup_privateLink_iff {subscription group subscription' group' link : String}
    (plainSubscription : IsSegment subscription) (plainGroup : IsSegment group)
    (plainSubscription' : IsSegment subscription') (plainGroup' : IsSegment group') :
    isInGroup (privateLink subscription' group' link) subscription group = true ↔
      subscription' = subscription ∧ group' = group := by
  constructor
  · intro inside
    exact isInGroup_unique plainSubscription' plainGroup' plainSubscription plainGroup
      (isInGroup_privateLink ..) inside
  · intro same
    rcases same with ⟨rfl, rfl⟩
    exact isInGroup_privateLink ..

@[simp] theorem privateLink_inj (subscription group link link' : String) :
    privateLink subscription group link = privateLink subscription group link' ↔ link = link' :=
  String.append_right_inj _

end ResourceId

@[simp] theorem PrivateEndpoint.nameFor_inj (link link' : String) :
    nameFor link = nameFor link' ↔ link = link' :=
  String.append_left_inj _

end ClusterLinks
