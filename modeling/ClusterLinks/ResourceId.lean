/-!
# Resource identifiers

Azure names a resource by a path of segments. A resource belongs to a resource group if the path
of the group leads to it, which must end the identifier or be followed by a slash.
-/

namespace ClusterLinks.ResourceId

def resourceGroup (subscription group : String) : String :=
  "/subscriptions/" ++ subscription ++ "/resourceGroups/" ++ group

def privateLink (subscription group link : String) : String :=
  resourceGroup subscription group ++ "/providers/Microsoft.Network/privateLinkServices/" ++ link

/-- Whether the resource is the group itself or something in it. -/
def isInGroup (id subscription group : String) : Bool :=
  match (resourceGroup subscription group).toList.isPrefixOf? id.toList with
  | some [] => true
  | some (c :: _) => c == '/'
  | none => false

end ClusterLinks.ResourceId
