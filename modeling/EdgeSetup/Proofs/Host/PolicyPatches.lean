import EdgeSetup.Proofs.Host.DesiredStates
import EdgeSetup.Proofs.Json.Patches
import EdgeSetup.Proofs.Wire.RoundTrips

/-!
# Patches of existing policies

The patch of a policy is sent without a look at the policy. It replaces the node selector and the
desired state, and a replacement asks that its target is there. A document that reads as a policy
always has a desired state, but it need not have a node selector. A patch that adds what is missing
and replaces what is there applies to every such document (`Host.policyUpsert_applyAll?`).

**Main theorem (`Host.policyPatch_exact`)**: the patch that is sent for an accepted host applies to
a document exactly when the document has a node selector, and then it does the same as the upsert.
-/

namespace EdgeSetup

open Json Http

/-! ## Reading policies -/

/-- A document is written with objects: it is one, and so is its `spec`. -/
inductive NodePolicy.Written : Value → Prop where
  | intro {members spec : List (String × Value)} (sorted : Members.Sorted members)
      (inner : Members.get? members "spec" = some (.object spec))
      (sortedSpec : Members.Sorted spec) : Written (.object members)

section

variable {members : List (String × Value)}

theorem NodePolicySpec.decodeValue?_object {read : NodePolicySpec}
    (sorted : Members.Sorted members) :
    decodeValue? NodePolicySpec (.object members) = some read ↔
      Members.readOr? members "nodeSelector" none = some read.nodeSelector ∧
        Members.read? members "desiredState" = some read.desiredState := by
  have hrecord : Record.ofSource? [["nodeSelector"], ["desiredState"]] (.value (.object members)) =
      some (.ofMembers ["nodeSelector", "desiredState"] members) :=
    Record.ofSource?_object sorted.nodup ["nodeSelector", "desiredState"]
  constructor
  · intro h
    obtain ⟨record, hfound, h⟩ := Option.bind_eq_some_iff.1 h
    cases hrecord.symm.trans hfound
    obtain ⟨nodeSelector, hselector, h⟩ := Option.bind_eq_some_iff.1 h
    obtain ⟨desiredState, hstate, h⟩ := Option.bind_eq_some_iff.1 h
    cases h
    exact ⟨(Record.orElse?_ofMembers rfl none).symm.trans hselector,
      (Record.required?_ofMembers rfl).symm.trans hstate⟩
  · rintro ⟨hselector, hstate⟩
    exact Record.reads hrecord <|
      Record.reads ((Record.orElse?_ofMembers rfl none).trans hselector) <|
      Record.reads ((Record.required?_ofMembers rfl).trans hstate) rfl

theorem NodePolicy.decodeValue?_object {policy : NodePolicy} (sorted : Members.Sorted members) :
    decodeValue? NodePolicy (.object members) = some policy ↔
      Members.read? members "apiVersion" = some policy.apiVersion ∧
        Members.read? members "kind" = some policy.kind ∧
        Members.read? members "metadata" = some policy.metadata ∧
        Members.read? members "spec" = some policy.spec := by
  have hrecord : Record.ofSource? [["apiVersion"], ["kind"], ["metadata"], ["spec"]]
      (.value (.object members)) =
        some (.ofMembers ["apiVersion", "kind", "metadata", "spec"] members) :=
    Record.ofSource?_object sorted.nodup ["apiVersion", "kind", "metadata", "spec"]
  constructor
  · intro h
    obtain ⟨record, hfound, h⟩ := Option.bind_eq_some_iff.1 h
    cases hrecord.symm.trans hfound
    obtain ⟨apiVersion, hversion, h⟩ := Option.bind_eq_some_iff.1 h
    obtain ⟨kind, hkind, h⟩ := Option.bind_eq_some_iff.1 h
    obtain ⟨metadata, hmetadata, h⟩ := Option.bind_eq_some_iff.1 h
    obtain ⟨spec, hspec, h⟩ := Option.bind_eq_some_iff.1 h
    cases h
    rw [Record.required?_ofMembers rfl] at hversion hkind hmetadata hspec
    exact ⟨hversion, hkind, hmetadata, hspec⟩
  · rintro ⟨hversion, hkind, hmetadata, hspec⟩
    exact Record.reads hrecord <|
      Record.reads ((Record.required?_ofMembers rfl).trans hversion) <|
      Record.reads ((Record.required?_ofMembers rfl).trans hkind) <|
      Record.reads ((Record.required?_ofMembers rfl).trans hmetadata) <|
      Record.reads ((Record.required?_ofMembers rfl).trans hspec) rfl

end

namespace Host

/-! ## What a patched policy holds -/

/-- The node selector of a patched policy, as it is written. -/
def restingSelector : Value := .object [(hostnameLabel, .string noNode)]

/-- The members of a `spec` with the node selector and the desired state set. -/
def patchedSpec (host : Host) (spec : List (String × Value)) : List (String × Value) :=
  Members.insert "desiredState" (encode host.desiredState)
    (Members.insert "nodeSelector" restingSelector spec)

/-- A document patched for a host: the `spec` asks for the state of the host, of no node, and all
else is as it was. -/
structure PatchedFor (host : Host) (document : Value) (policy : NodePolicy) (patched : Value) :
    Prop where
  state : patched.at? ["spec", "desiredState"] = some (encode host.desiredState)
  selector : patched.at? ["spec", "nodeSelector"] = some restingSelector
  beside : ∀ key, key ≠ "spec" → patched.get? key = document.get? key
  within : ∀ key, key ≠ "nodeSelector" → key ≠ "desiredState" →
    patched.at? ["spec", key] = document.at? ["spec", key]
  reads : decodeValue? NodePolicy patched =
    some { policy with
      spec := ⟨some (Map.ofList [(hostnameLabel, noNode)]), host.desiredState⟩ }

variable {host : Host} {members spec : List (String × Value)} {policy : NodePolicy}

@[simp] theorem get?_patchedSpec_desiredState :
    Members.get? (host.patchedSpec spec) "desiredState" = some (encode host.desiredState) :=
  Members.get?_insert_self ..

@[simp] theorem get?_patchedSpec_nodeSelector :
    Members.get? (host.patchedSpec spec) "nodeSelector" = some restingSelector := by
  rw [patchedSpec, Members.get?_insert_of_ne (by decide), Members.get?_insert_self]

theorem get?_patchedSpec_of_ne {key : String} (hselector : key ≠ "nodeSelector")
    (hstate : key ≠ "desiredState") :
    Members.get? (host.patchedSpec spec) key = Members.get? spec key := by
  rw [patchedSpec, Members.get?_insert_of_ne hstate, Members.get?_insert_of_ne hselector]

theorem sorted_patchedSpec (sorted : Members.Sorted spec) :
    Members.Sorted (host.patchedSpec spec) :=
  (sorted.insert _ _).insert _ _

theorem decodeValue?_patchedSpec (sorted : Members.Sorted spec) :
    decodeValue? NodePolicySpec (.object (host.patchedSpec spec)) =
      some ⟨some (Map.ofList [(hostnameLabel, noNode)]), host.desiredState⟩ := by
  rw [NodePolicySpec.decodeValue?_object (sorted_patchedSpec sorted)]
  constructor
  · rw [Members.readOr?, get?_patchedSpec_nodeSelector]
    exact Reversible.decodeValue?_encode (some (Map.ofList [(hostnameLabel, noNode)]))
  · rw [Members.read?, get?_patchedSpec_desiredState]
    exact Reversible.decodeValue?_encode host.desiredState

theorem patchedFor (sorted : Members.Sorted members)
    (inner : Members.get? members "spec" = some (.object spec)) (sortedSpec : Members.Sorted spec)
    (h : decodeValue? NodePolicy (.object members) = some policy) :
    host.PatchedFor (.object members) policy
      (.object (Members.insert "spec" (.object (host.patchedSpec spec)) members)) := by
  have hspec : Members.get? (Members.insert "spec" (.object (host.patchedSpec spec)) members)
      "spec" = some (.object (host.patchedSpec spec)) := Members.get?_insert_self ..
  obtain ⟨hversion, hkind, hmetadata, -⟩ := (NodePolicy.decodeValue?_object sorted).1 h
  refine ⟨?_, ?_, fun key hkey => Members.get?_insert_of_ne hkey ..,
    fun key hselector hstate => ?_, ?_⟩
  · rw [Value.at?_pair hspec, get?_patchedSpec_desiredState]
  · rw [Value.at?_pair hspec, get?_patchedSpec_nodeSelector]
  · rw [Value.at?_pair hspec, Value.at?_pair inner, get?_patchedSpec_of_ne hselector hstate]
  · rw [NodePolicy.decodeValue?_object (sorted.insert _ _)]
    refine ⟨?_, ?_, ?_, ?_⟩
    · rw [Members.read?_insert_of_ne (by decide), hversion]
    · rw [Members.read?_insert_of_ne (by decide), hkind]
    · rw [Members.read?_insert_of_ne (by decide), hmetadata]
    · rw [Members.read?, hspec]
      exact decodeValue?_patchedSpec sortedSpec

/-! ## Applying the patch -/

theorem selectorPath_parse :
    Pointer.parse? "/spec/nodeSelector" = some ["spec", "nodeSelector"] := by
  decide +kernel

theorem statePath_parse :
    Pointer.parse? "/spec/desiredState" = some ["spec", "desiredState"] := by
  decide +kernel

/-- The patch of a document for a host that adds what is missing and replaces what is there. -/
def policyUpsert (host : Host) (document : Value) : List PatchOp :=
  [ .upsert (document.at? ["spec", "nodeSelector"]).isSome "/spec/nodeSelector" restingSelector,
    .upsert (document.at? ["spec", "desiredState"]).isSome "/spec/desiredState"
      (encode host.desiredState) ]

theorem policyUpsert_applyAll? (inner : Members.get? members "spec" = some (.object spec)) :
    PatchOp.applyAll? (host.policyUpsert (.object members)) (.object members) =
      some (.object (Members.insert "spec" (.object (host.patchedSpec spec)) members)) := by
  rw [policyUpsert, Value.at?_pair inner, Value.at?_pair inner]
  show ((PatchOp.upsert _ "/spec/nodeSelector" _).applyTo? (.object members)).bind
    (fun document =>
      ((PatchOp.upsert _ "/spec/desiredState" _).applyTo? document).bind some) = _
  rw [PatchOp.upsert_applyTo? selectorPath_parse inner id, Option.bind_some,
    PatchOp.upsert_applyTo? statePath_parse (Members.get?_insert_self ..) fun hsome => by
      rw [Members.get?_insert_of_ne (by decide)]
      exact hsome,
    Members.insert_insert]
  rfl

/-- A document that reads as a policy has a desired state. -/
theorem isSome_desiredState (sorted : Members.Sorted members)
    (inner : Members.get? members "spec" = some (.object spec)) (sortedSpec : Members.Sorted spec)
    (h : decodeValue? NodePolicy (.object members) = some policy) :
    (Members.get? spec "desiredState").isSome := by
  obtain ⟨-, -, -, hspec⟩ := (NodePolicy.decodeValue?_object sorted).1 h
  rw [Members.read?, inner, Option.bind_some,
    NodePolicySpec.decodeValue?_object sortedSpec] at hspec
  obtain ⟨value, hvalue, -⟩ := Option.bind_eq_some_iff.1 hspec.2
  rw [hvalue, Option.isSome_some]

/-! ## The patch that is sent -/

/-- **The patch of an existing policy.** It is the first request for an accepted host that names a
policy, and is sent whatever document is there. The patch that adds what is missing applies to each
document that reads as a policy, and leaves it patched for the host. The one that is sent is the
same patch, with the same result, when the document has a node selector, and does not apply when
it has none. -/
theorem policyPatch_exact {document : Value} (accepted : host.validate = .ok ())
    (written : NodePolicy.Written document)
    (h : decodeValue? NodePolicy document = some policy) :
    (∀ (client : Client) (token name : String), name ≠ "" →
      StaticIps.SendsFirst client token { host with policyName := some name }
        (client.patchRequest token (.cluster .nodePolicy name) (.operations host.policyPatch))) ∧
    ∃ patched, host.PatchedFor document policy patched ∧
      PatchOp.applyAll? (host.policyUpsert document) document = some patched ∧
      (host.policyPatch = host.policyUpsert document ↔
        (document.at? ["spec", "nodeSelector"]).isSome) ∧
      PatchOp.applyAll? host.policyPatch document =
        if (document.at? ["spec", "nodeSelector"]).isSome then some patched else none := by
  refine ⟨fun client token name hname => StaticIps.sendsFirst_patch accepted hname, ?_⟩
  cases written with
  | @intro members spec sorted inner sortedSpec =>
    have hupsert : PatchOp.applyAll? (host.policyUpsert (.object members)) (.object members) =
        some _ := policyUpsert_applyAll? inner
    have hstate := isSome_desiredState sorted inner sortedSpec h
    refine ⟨_, patchedFor sorted inner sortedSpec h, hupsert, ?_⟩
    cases hselector : Members.get? spec "nodeSelector" with
    | some selector =>
      have hsame : host.policyPatch = host.policyUpsert (.object members) := by
        rw [policyUpsert, Value.at?_pair inner, Value.at?_pair inner, hselector, hstate]
        rfl
      rw [Value.at?_pair inner, hselector, ← hsame]
      exact ⟨by simp, by rw [hsame, hupsert]; rfl⟩
    | none =>
      have hnone : PatchOp.applyAll? host.policyPatch (.object members) = none := by
        show ((PatchOp.mk .replace "/spec/nodeSelector" _).applyTo? (.object members)).bind _ = none
        rw [PatchOp.replace_applyTo?_eq_none selectorPath_parse inner hselector, Option.bind_none]
      rw [Value.at?_pair inner, hselector]
      refine ⟨⟨fun hsame => ?_, nofun⟩, hnone⟩
      rw [← hsame, hnone] at hupsert
      cases hupsert

/-- A policy of an empty state, with what else its `spec` has. -/
def emptyPolicy (selector : List (String × Value)) : Value :=
  .object
    [ ("apiVersion", .string "nmstate.io/v1"),
      ("kind", .string "NodeNetworkConfigurationPolicy"),
      ("metadata", .object [("name", .string "worker-1-policy")]),
      ("spec", .object (("desiredState", .object [("interfaces", .array [])]) :: selector)) ]

/-- What a policy of an empty state reads as. -/
def emptyPolicyRead (selector : Option (Map String)) : NodePolicy :=
  ⟨"nmstate.io/v1", "NodeNetworkConfigurationPolicy", ⟨some "worker-1-policy", none, none⟩,
    ⟨selector, ⟨[], none, none⟩⟩⟩

theorem policyPatch_exact_selected :
    twoPorts.validate = .ok () ∧
      ∃ patched, twoPorts.PatchedFor
          (emptyPolicy [("nodeSelector", .object [(hostnameLabel, .string "worker-1")])])
          (emptyPolicyRead (some (Map.ofList [(hostnameLabel, "worker-1")]))) patched ∧
        PatchOp.applyAll? twoPorts.policyPatch
          (emptyPolicy [("nodeSelector", .object [(hostnameLabel, .string "worker-1")])]) =
            some patched := by
  have hvalid : twoPorts.validate = .ok () := by decide +kernel
  have hwritten : NodePolicy.Written
      (emptyPolicy [("nodeSelector", .object [(hostnameLabel, .string "worker-1")])]) :=
    .intro (by decide +kernel) rfl (by decide +kernel)
  have hread : decodeValue? NodePolicy
      (emptyPolicy [("nodeSelector", .object [(hostnameLabel, .string "worker-1")])]) =
        some (emptyPolicyRead (some (Map.ofList [(hostnameLabel, "worker-1")]))) := by
    decide +kernel
  obtain ⟨-, patched, hpatched, -, -, happlied⟩ := policyPatch_exact hvalid hwritten hread
  exact ⟨hvalid, patched, hpatched, happlied⟩

/-- The patch of a policy without a node selector does not apply, though the policy is well formed
and the host is accepted. -/
theorem policyPatch_unselected :
    twoPorts.validate = .ok () ∧ NodePolicy.Written (emptyPolicy []) ∧
      decodeValue? NodePolicy (emptyPolicy []) = some (emptyPolicyRead none) ∧
      PatchOp.applyAll? twoPorts.policyPatch (emptyPolicy []) = none :=
  ⟨by decide +kernel, .intro (by decide +kernel) rfl (by decide +kernel), by decide +kernel, by rfl⟩

end Host

end EdgeSetup
