import EdgeSetup.Json.Value

/-!
# Merge patches

A merge patch is itself a document: an object is merged member by member, null removes a member,
and anything else takes the place of what was there.
-/

namespace EdgeSetup.Json.Value

/-- The members of the document that a merge patch is applied to; anything but an object counts
as an empty one. -/
def mergeTarget : Value → List (String × Value)
  | object members => members
  | _ => []

mutual

/-- The document after a merge patch. -/
def merge (target : Value) : Value → Value
  | object patch => object (mergeMembers target.mergeTarget patch)
  | patch => patch

/-- The members after the members of a merge patch. -/
def mergeMembers (target : List (String × Value)) : List (String × Value) → List (String × Value)
  | [] => target
  | (key, null) :: rest => mergeMembers (Members.erase key target) rest
  | (key, patch) :: rest =>
    mergeMembers (Members.insert key (merge ((Members.get? target key).getD null) patch) target)
      rest

end

end EdgeSetup.Json.Value
