import EdgeSetup.DomainChange.Plan
import EdgeSetup.Proofs.Json.Patches

/-!
# The patch of the ingress configuration

A document is written with objects (`IngressConfig.Written`) when it is an object whose `spec` is
missing, null or an object; its other members are free. The patch that was worked out from such a
document applies to it and sets the two members of its `spec` (`ingressPatch_applyAll?`), and what
it leaves reads as a configuration of the domain and the component routes
(`IngressConfig.decodeValue?_patched`).

A patch may be sent again, to a document that it was applied to already. Whenever it applies, it
leaves such a document all the same (`IngressConfig.Holds.of_applyAll?`).
-/

namespace EdgeSetup

open Json

/-! ## Documents written with objects -/

namespace IngressConfig

/-- The `spec` of a document is missing, null or an object. -/
inductive WrittenSpec : Option Value → Prop where
  | missing : WrittenSpec none
  | null : WrittenSpec (some .null)
  | object {spec : List (String × Value)} (sorted : Members.Sorted spec) :
      WrittenSpec (some (.object spec))

/-- A document is written with objects. -/
inductive Written : Value → Prop where
  | intro {members : List (String × Value)} (sorted : Members.Sorted members)
      (spec : WrittenSpec (Members.get? members "spec")) : Written (.object members)

/-- The members of the `spec` of a document; there are none when it is missing or null. -/
def specMembers : Option Value → List (String × Value)
  | some (.object spec) => spec
  | _ => []

variable {spec : Option Value}

theorem WrittenSpec.ne_array (h : WrittenSpec spec) (items : List Value) :
    spec ≠ some (.array items) := by
  cases h <;> exact nofun

theorem WrittenSpec.sorted (h : WrittenSpec spec) : Members.Sorted (specMembers spec) := by
  cases h with
  | missing | null => exact .nil
  | object sorted => exact sorted

end IngressConfig

/-! ## Reading objects -/

variable {members : List (String × Value)}

theorem IngressSpec.decodeValue?_object (sorted : Members.Sorted members) :
    decodeValue? IngressSpec (.object members) =
      (Members.readOr? members "domain" none).bind fun domain =>
        (Members.readOr? members "componentRoutes" none).bind fun componentRoutes =>
          some ⟨domain, componentRoutes⟩ :=
  Record.bind_pair_object sorted.nodup "domain" "componentRoutes" none none IngressSpec.mk

theorem IngressConfig.decodeValue?_object (sorted : Members.Sorted members) :
    decodeValue? IngressConfig (.object members) =
      (Members.readOr? members "metadata" ObjectMeta.empty).bind fun metadata =>
        (Members.readOr? members "spec" none).bind fun spec => some ⟨metadata, spec⟩ :=
  Record.bind_pair_object sorted.nodup "metadata" "spec" ObjectMeta.empty none IngressConfig.mk

/-- The `spec` of a configuration was read from that of its document. -/
theorem IngressConfig.readOr?_spec {ingress : IngressConfig} (sorted : Members.Sorted members)
    (h : decodeValue? IngressConfig (.object members) = some ingress) :
    Members.readOr? members "spec" none = some ingress.spec := by
  rw [decodeValue?_object sorted] at h
  obtain ⟨metadata, -, hrest⟩ := Option.bind_eq_some_iff.1 h
  obtain ⟨spec, hspec, hingress⟩ := Option.bind_eq_some_iff.1 hrest
  cases hingress
  exact hspec

/-- A component route that was written reads back. -/
theorem ComponentRoute.decodeValue?_encode (route : ComponentRoute) :
    decodeValue? ComponentRoute (encode route) = some route := rfl

/-! ## What the patch leaves -/

/-- The members of a `spec` with the domain and the component routes set. -/
def patchedSpec (domain : String) (routes : List ComponentRoute) (spec : List (String × Value)) :
    List (String × Value) :=
  Members.insert "componentRoutes" (encode routes)
    (Members.insert "domain" (.string domain) spec)

/-- The members of a document under a `spec` with the domain and the component routes set. -/
def patchedMembers (domain : String) (routes : List ComponentRoute)
    (spec members : List (String × Value)) : List (String × Value) :=
  Members.insert "spec" (.object (patchedSpec domain routes spec)) members

section

variable {domain : String} {routes : List ComponentRoute} {spec : List (String × Value)}

theorem sorted_patchedSpec (sorted : Members.Sorted spec) :
    Members.Sorted (patchedSpec domain routes spec) :=
  (sorted.insert _ _).insert _ _

theorem sorted_patchedMembers (sorted : Members.Sorted members) :
    Members.Sorted (patchedMembers domain routes spec members) :=
  sorted.insert _ _

@[simp] theorem get?_patchedMembers_spec :
    Members.get? (patchedMembers domain routes spec members) "spec" =
      some (.object (patchedSpec domain routes spec)) :=
  Members.get?_insert_self ..

theorem get?_patchedMembers_of_ne {key : String} (h : key ≠ "spec") :
    Members.get? (patchedMembers domain routes spec members) key = Members.get? members key :=
  Members.get?_insert_of_ne h ..

@[simp] theorem get?_patchedSpec_componentRoutes :
    Members.get? (patchedSpec domain routes spec) "componentRoutes" = some (encode routes) :=
  Members.get?_insert_self ..

@[simp] theorem get?_patchedSpec_domain :
    Members.get? (patchedSpec domain routes spec) "domain" = some (.string domain) := by
  rw [patchedSpec, Members.get?_insert_of_ne (by decide), Members.get?_insert_self]

theorem get?_patchedSpec_of_ne {key : String} (hdomain : key ≠ "domain")
    (hroutes : key ≠ "componentRoutes") :
    Members.get? (patchedSpec domain routes spec) key = Members.get? spec key := by
  rw [patchedSpec, Members.get?_insert_of_ne hroutes, Members.get?_insert_of_ne hdomain]

theorem decodeValue?_patchedSpec (sorted : Members.Sorted spec) :
    decodeValue? IngressSpec (.object (patchedSpec domain routes spec)) =
      some ⟨some domain, some routes⟩ := by
  have hroutes : decodeValue? (Option (List ComponentRoute)) (encode routes) =
      some (some routes) := by
    rw [decodeValue?_option (show encode routes ≠ .null from nofun),
      decodeValue?_encode_list ComponentRoute.decodeValue?_encode, Option.map_some]
  rw [IngressSpec.decodeValue?_object (sorted_patchedSpec sorted)]
  simp only [Members.readOr?, get?_patchedSpec_domain, get?_patchedSpec_componentRoutes, hroutes]
  rfl

variable (domain routes) in
/-- A patched document reads as a configuration of the domain and the component routes. -/
theorem decodeValue?_patchedMembers {ingress : IngressConfig} (sorted : Members.Sorted members)
    (sortedSpec : Members.Sorted spec)
    (h : decodeValue? IngressConfig (.object members) = some ingress) :
    decodeValue? IngressConfig (.object (patchedMembers domain routes spec members)) =
      some { ingress with spec := some ⟨some domain, some routes⟩ } := by
  rw [IngressConfig.decodeValue?_object sorted] at h
  obtain ⟨metadata, hmetadata, hrest⟩ := Option.bind_eq_some_iff.1 h
  obtain ⟨old, -, hingress⟩ := Option.bind_eq_some_iff.1 hrest
  cases hingress
  have hkept : Members.readOr? (patchedMembers domain routes spec members) "metadata"
      ObjectMeta.empty = some metadata := by
    rw [← hmetadata, Members.readOr?, get?_patchedMembers_of_ne (by decide)]
    rfl
  have hspec : Members.readOr? (patchedMembers domain routes spec members) "spec" none =
      some (some (IngressSpec.mk (some domain) (some routes))) := by
    simp only [Members.readOr?, get?_patchedMembers_spec]
    rw [decodeValue?_option (show Value.object (patchedSpec domain routes spec) ≠ .null by simp),
      decodeValue?_patchedSpec sortedSpec, Option.map_some]
  rw [IngressConfig.decodeValue?_object (sorted_patchedMembers sorted), hkept, hspec]
  rfl

/-- What a configuration with both members of its `spec` is one of. -/
theorem ClusterDomainState.ofIngress_patched (metadata : ObjectMeta) (hdomain : domain ≠ "") :
    ClusterDomainState.ofIngress ⟨metadata, some ⟨some domain, some routes⟩⟩ =
      ⟨some domain, routes⟩ := by
  have hkept : (some domain).filter (fun domain => !domain.isEmpty) = some domain := by
    simpa [Option.filter] using hdomain
  simp only [ofIngress, Option.bind_some, Option.getD_some, hkept]
  rfl

end

/-! ## Applying the patch -/

section

variable {domain : String} {routes : List ComponentRoute} {spec : List (String × Value)}
  {ingress : IngressConfig}

theorem specPath_parse : Pointer.parse? "/spec" = some ["spec"] := by decide +kernel

theorem domainPath_parse : Pointer.parse? "/spec/domain" = some ["spec", "domain"] := by
  decide +kernel

theorem routesPath_parse :
    Pointer.parse? "/spec/componentRoutes" = some ["spec", "componentRoutes"] := by
  decide +kernel

variable (domain routes) in
/-- The patch sets the domain and the component routes of the document that it was worked out
from. -/
theorem ingressPatch_applyAll? (sorted : Members.Sorted members)
    (written : IngressConfig.WrittenSpec (Members.get? members "spec"))
    (h : decodeValue? IngressConfig (.object members) = some ingress) :
    PatchOp.applyAll? (ingressPatch ingress domain routes) (.object members) =
      some (.object (patchedMembers domain routes
        (IngressConfig.specMembers (Members.get? members "spec")) members)) := by
  have hread := IngressConfig.readOr?_spec sorted h
  rw [Members.readOr?] at hread
  obtain ⟨metadata, read⟩ := ingress
  generalize hspec : Members.get? members "spec" = old at *
  cases written with
  | missing | null =>
    cases hread
    show ((PatchOp.mk .add "/spec" _).applyTo? (.object members)).bind _ = _
    rw [PatchOp.add_applyTo? specPath_parse]
    rfl
  | @object spec sortedSpec =>
    replace hread : (decodeValue? IngressSpec (.object spec)).map some = some read := hread
    obtain ⟨read, hobject, rfl⟩ := Option.map_eq_some_iff.1 hread
    rw [IngressSpec.decodeValue?_object sortedSpec] at hobject
    obtain ⟨oldDomain, hdomain, hrest⟩ := Option.bind_eq_some_iff.1 hobject
    obtain ⟨oldRoutes, hroutes, hmk⟩ := Option.bind_eq_some_iff.1 hrest
    cases hmk
    show ((PatchOp.upsert oldDomain.isSome "/spec/domain" _).applyTo? (.object members)).bind
      (fun document =>
        ((PatchOp.upsert oldRoutes.isSome "/spec/componentRoutes" _).applyTo? document).bind some)
      = _
    rw [PatchOp.upsert_applyTo? domainPath_parse hspec (Members.isSome_of_readOr? hdomain),
      Option.bind_some, PatchOp.upsert_applyTo? routesPath_parse (Members.get?_insert_self ..)
        fun hsome => by
          rw [Members.get?_insert_of_ne (by decide)]
          exact Members.isSome_of_readOr? hroutes hsome,
      Members.insert_insert]
    rfl

/-- Whatever document a patch was worked out from: when it applies to a document that is written
with objects, it sets the domain and the component routes of some `spec`. -/
theorem exists_of_ingressPatch_applyAll? {patched : Value}
    (written : IngressConfig.WrittenSpec (Members.get? members "spec"))
    (h : PatchOp.applyAll? (ingressPatch ingress domain routes) (.object members) = some patched) :
    ∃ spec, Members.Sorted spec ∧
      patched = .object (patchedMembers domain routes spec members) := by
  obtain ⟨metadata, read⟩ := ingress
  cases read with
  | none =>
    replace h : ((PatchOp.mk .add "/spec" _).applyTo? (.object members)).bind some =
      some patched := h
    rw [PatchOp.add_applyTo? specPath_parse] at h
    exact ⟨[], .nil, (Option.some.inj h).symm⟩
  | some read =>
    obtain ⟨middle, hdomain, hrest⟩ := Option.bind_eq_some_iff.1 h
    obtain ⟨last, hroutes, hlast⟩ := Option.bind_eq_some_iff.1 hrest
    cases hlast
    obtain ⟨spec, hspec, rfl⟩ :=
      PatchOp.upsert_applyTo?_eq_some domainPath_parse written.ne_array hdomain
    rw [hspec] at written
    obtain ⟨_, hinner, rfl⟩ := PatchOp.upsert_applyTo?_eq_some routesPath_parse
      (by rw [Members.get?_insert_self]; exact nofun) hroutes
    rw [Members.get?_insert_self] at hinner
    cases hinner
    refine ⟨spec, written.sorted, ?_⟩
    rw [Members.insert_insert]
    rfl

end

/-- A document that is written with objects and reads as an ingress configuration. -/
structure IngressConfig.Readable (document : Value) : Prop where
  written : Written document
  reads : ∃ ingress, decodeValue? IngressConfig document = some ingress

/-- A readable document stays so, and names the domain and the component routes of whichever patch
was applied to it last. -/
theorem IngressConfig.Readable.of_applyAll? {document patched : Value} {ingress : IngressConfig}
    {domain : String} {routes : List ComponentRoute} (readable : Readable document)
    (hdomain : domain ≠ "")
    (h : PatchOp.applyAll? (ingressPatch ingress domain routes) document = some patched) :
    Readable patched ∧ ∃ ingress, decodeValue? IngressConfig patched = some ingress ∧
      ClusterDomainState.ofIngress ingress = ⟨some domain, routes⟩ := by
  obtain ⟨⟨sorted, written⟩, old, hold⟩ := readable
  obtain ⟨spec, sortedSpec, rfl⟩ := exists_of_ingressPatch_applyAll? written h
  have hread := decodeValue?_patchedMembers domain routes sorted sortedSpec hold
  refine ⟨⟨⟨sorted_patchedMembers sorted, ?_⟩, _, hread⟩, _, hread,
    ClusterDomainState.ofIngress_patched _ hdomain⟩
  rw [get?_patchedMembers_spec]
  exact .object (sorted_patchedSpec sortedSpec)

/-! ## The round trip -/

/-- A patch of a document is a round trip: it applies, keeps everything else, and what it leaves
reads as the domain and the component routes that were written. -/
structure RoundTrips (document : Value) (patch : List PatchOp) (domain : String)
    (routes : List ComponentRoute) (patched : Value) : Prop where
  applies : PatchOp.applyAll? patch document = some patched
  /-- The members beside `spec` are as they were. -/
  beside : ∀ key, key ≠ "spec" → patched.get? key = document.get? key
  /-- So are the members of a `spec` that was there, but for the two that are written. -/
  within : ∀ spec, document.get? "spec" = some (.object spec) →
    ∃ spec', patched.get? "spec" = some (.object spec') ∧
      ∀ key, key ≠ "domain" → key ≠ "componentRoutes" →
        Members.get? spec' key = Members.get? spec key
  reads : ∃ ingress, decodeValue? IngressConfig patched = some ingress ∧
    ClusterDomainState.ofIngress ingress = ⟨some domain, routes⟩

/-- The patch that was worked out from a document is a round trip of it. -/
theorem ingressPatch_roundTrips {document : Value} {ingress : IngressConfig} {domain : String}
    (written : IngressConfig.Written document)
    (h : decodeValue? IngressConfig document = some ingress) (hdomain : domain ≠ "")
    (routes : List ComponentRoute) :
    ∃ patched, RoundTrips document (ingressPatch ingress domain routes) domain routes patched := by
  cases written with
  | @intro members sorted spec =>
    have happlies := ingressPatch_applyAll? domain routes sorted spec h
    refine ⟨_, happlies, fun key hkey => get?_patchedMembers_of_ne hkey, fun old hold => ?_, _,
      decodeValue?_patchedMembers domain routes sorted spec.sorted h,
      ClusterDomainState.ofIngress_patched _ hdomain⟩
    refine ⟨_, get?_patchedMembers_spec, fun key hdomain hroutes => ?_⟩
    replace hold : Members.get? members "spec" = some (.object old) := hold
    rw [get?_patchedSpec_of_ne hdomain hroutes, hold]
    rfl

end EdgeSetup
