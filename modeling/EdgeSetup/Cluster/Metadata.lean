import EdgeSetup.Json.Codec

/-!
# Metadata of cluster objects

The part of an object's metadata that is read or written here.
-/

namespace EdgeSetup

open Json

/-- The names of an object. -/
structure ObjectMeta where
  name : Option String
  /-- The namespace that holds the object. -/
  inNamespace : Option String
  /-- The start of a name that the cluster completes. -/
  generateName : Option String
  deriving DecidableEq, Repr, Inhabited

namespace ObjectMeta

/-- Metadata without any name. -/
def empty : ObjectMeta := ⟨none, none, none⟩

instance : Decode ObjectMeta where
  decode? source := do
    let record ← Record.ofSource? [["name"], ["namespace"], ["generateName"]] source
    some ⟨← record.orElse? 0 none, ← record.orElse? 1 none, ← record.orElse? 2 none⟩

instance : Encode ObjectMeta where
  encode metadata := .object <|
    memberIfSome "name" metadata.name ++ memberIfSome "namespace" metadata.inNamespace ++
      memberIfSome "generateName" metadata.generateName

end ObjectMeta

end EdgeSetup
