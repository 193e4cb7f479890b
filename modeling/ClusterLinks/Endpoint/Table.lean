import ClusterLinks.Endpoint.Resource

/-!
# Laid down findings

A table of what look-ups find. Every look-up of an endpoint takes the next finding for it; the
last one stays, and an endpoint without findings does not exist.
-/

namespace ClusterLinks

/-- What one look-up comes to. -/
abbrev Finding := Except Error (Option EndpointResource)

structure EndpointTable where
  findings : Dictionary (List Finding) := ∅

namespace EndpointTable

/-- The entry for an endpoint. -/
def key (resourceGroup name : String) : String :=
  resourceGroup ++ "/" ++ name

/-- The next finding for an endpoint, and the table for the look-up behind it. -/
def next (resourceGroup name : String) (table : EndpointTable) : Finding × EndpointTable :=
  let key := key resourceGroup name
  match table.findings.get? key with
  | some (finding :: later :: rest) => (finding, ⟨table.findings.insert key (later :: rest)⟩)
  | some [finding] => (finding, table)
  | _ => (.ok none, table)

/-- Puts new findings in place of those for the same endpoints. -/
def replace (table : EndpointTable) (findings : Dictionary (List Finding)) : EndpointTable :=
  ⟨findings.entries.foldl (fun all entry => all.insert entry.1 entry.2) table.findings⟩

end EndpointTable

end ClusterLinks
