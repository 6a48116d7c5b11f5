import EdgeSetup.Json.Codec
import EdgeSetup.Json.Pointer

/-!
# Patches of documents

An ordered list of operations, and its meaning: `add` puts a member or item in place, `replace`
asks that the target is there. An operation whose place does not exist makes the whole patch fail.
-/

namespace EdgeSetup.Json

/-- The kinds of operation that are sent. -/
inductive PatchKind where
  | add
  | replace
  deriving DecidableEq, Repr, Inhabited

/-- One operation of a patch. -/
structure PatchOp where
  op : PatchKind
  /-- The pointer text of the target. -/
  path : String
  value : Value
  deriving Repr, Inhabited

namespace PatchKind

/-- The written name of a kind. -/
def name : PatchKind → String
  | add => "add"
  | replace => "replace"

instance : Decode PatchKind where
  decode? source := (variant? source).bind fun
    | "add" => some add
    | "replace" => some replace
    | _ => none

instance : Encode PatchKind := ⟨fun kind => .string kind.name⟩

end PatchKind

namespace PatchOp

/-- Replaces the target when it is already there, and adds it otherwise. -/
def upsert (targetExists : Bool) (path : String) (value : Value) : PatchOp :=
  ⟨if targetExists then .replace else .add, path, value⟩

instance : Decode PatchOp where
  decode? source := do
    let record ← Record.ofSource? [["op"], ["path"], ["value"]] source
    some ⟨← record.required? 0, ← record.required? 1, ← record.required? 2⟩

instance : Encode PatchOp where
  encode patch :=
    .object [("op", encode patch.op), ("path", encode patch.path), ("value", patch.value)]

/-- Adds a child: a member is set, an item is inserted before the index or, for `-`, at the end. -/
def addChild? (token : String) (value : Value) : Value → Option Value
  | .object members => some (.object (Members.insert token value members))
  | .array items =>
    if token = "-" then some (.array (items ++ [value]))
    else do
      let i ← Pointer.index? token
      if i ≤ items.length then some (.array (items.insertIdx i value)) else none
  | _ => none

/-- Adds a value at a place whose parent exists. -/
def addAt? (value : Value) : List String → Value → Option Value
  | [], _ => some value
  | [token], document => addChild? token value document
  | token :: rest, document => document.updateChild? token (addAt? value rest)

/-- The document after one operation. -/
def applyTo? (patch : PatchOp) (document : Value) : Option Value := do
  let place ← Pointer.parse? patch.path
  match patch.op with
  | .add => addAt? patch.value place document
  | .replace => document.updateAt? (fun _ => some patch.value) place

/-- The document after all operations, in order. -/
def applyAll? (patches : List PatchOp) (document : Value) : Option Value :=
  patches.foldlM (fun document patch => patch.applyTo? document) document

end PatchOp

end EdgeSetup.Json
