import EdgeSetup.DomainChange.Request
import EdgeSetup.Host.Basic
import EdgeSetup.NodePolicy.Basic
import EdgeSetup.Proofs.DomainChange.IngressPatch
import EdgeSetup.Proofs.Json.Reversible

/-!
# Round trips over the wire

The types that are both written and read are reversible, record by record: each is written with the
keys that it is read by, and what is left out of an object is read as missing.

**Round trip** (`wireTypes_lossless`). A value of any of these types reads back as it was written.
So a value that was read from some other form is read again from its written form.
-/

namespace EdgeSetup

open Json Json.Record

/-! ## Hosts -/

instance : Reversible HostRole where
  decodeValue?_encode role := by cases role <;> rfl

instance : Reversible InterfaceAddress where
  decodeValue?_encode address := by
    have hrecord := ofSource?_written ["ip", "prefixLength", "gateway"]
      [some (encode address.ip), some (encode address.prefixLength), some (encode address.gateway)]
      (by decide) rfl (rfl : encode address = _)
    simp only [decodeValue?, decode?]
    exact reads hrecord <| reads (lenient?_ofValues rfl _) <| reads (lenient?_ofValues rfl _) <|
      reads (lenient?_ofValues rfl _) rfl

instance : NonNull InterfaceAddress := ⟨fun _ => nofun⟩

instance : Reversible InterfaceIpv4 where
  decodeValue?_encode ipv4 := by
    have hwritten : encode ipv4 = .object (Members.ofFields ["dhcp", "address"]
        [ipv4.dhcp.map encode, ipv4.address.map encode]) := by
      obtain ⟨dhcp, address⟩ := ipv4
      cases dhcp <;> cases address <;> rfl
    have hrecord := ofSource?_written _ _ (by decide) rfl hwritten
    simp only [decodeValue?, decode?]
    exact reads hrecord <| reads (lenient?_ofValues_option rfl) <|
      reads (lenient?_ofValues_option rfl) rfl

instance : Reversible Interface where
  decodeValue?_encode interface := by
    have hrecord := ofSource?_written ["name", "ipv4"]
      [some (encode interface.name), some (encode interface.ipv4)]
      (by decide) rfl (rfl : encode interface = _)
    simp only [decodeValue?, decode?]
    exact reads hrecord <| reads (lenient?_ofValues rfl _) <| reads (lenient?_ofValues rfl _) rfl

instance : Reversible Host where
  decodeValue?_encode host := by
    have hwritten : encode host = .object (Members.ofFields
        ["nodeName", "hostname", "nncpName", "role", "dns", "interfaces"]
        [some (encode host.nodeName), some (encode host.hostname), host.policyName.map encode,
          some (encode host.role), some (encode host.dns), some (encode host.interfaces)]) := by
      obtain ⟨nodeName, hostname, policyName, role, dns, interfaces⟩ := host
      cases policyName <;> rfl
    have hrecord := ofSource?_written _ _ (by decide) rfl hwritten
    simp only [decodeValue?, decode?]
    exact reads hrecord <| reads (lenient?_ofValues rfl _) <| reads (lenient?_ofValues rfl _) <|
      reads (lenient?_ofValues_option rfl) <| reads (lenient?_ofValues rfl _) <|
      reads (lenientList?_ofValues rfl _) <| reads (lenientList?_ofValues rfl _) rfl

instance : Reversible StaticIpsRequest where
  decodeValue?_encode request := by
    have hrecord := ofSource?_written ["hosts"] [some (encode request.hosts)] (by decide) rfl
      (rfl : encode request = _)
    simp only [decodeValue?, decode?]
    exact reads hrecord <| reads (lenientList?_ofValues rfl _) rfl

/-! ## Domain changes -/

instance : Reversible TlsCertificate where
  decodeValue?_encode pair := by
    have hrecord := ofSource?_written ["tls.crt", "tls.key"]
      [some (encode pair.crt), some (encode pair.key)] (by decide) rfl (rfl : encode pair = _)
    simp only [decodeValue?, decode?]
    exact reads hrecord <| reads (required?_ofValues rfl) <| reads (required?_ofValues rfl) rfl

instance : Reversible DomainChangeRequest where
  decodeValue?_encode request := by
    -- The domain has a second name to be read by, which is never written.
    have hrecord : ofSource? [["domain", "clusterDomain"], ["customCerts"]]
        (.value (encode request)) =
          some (ofValues [some (encode request.domain), some (encode request.customCerts)]) := rfl
    simp only [decodeValue?, decode?]
    exact reads hrecord <| reads (orElse?_ofValues rfl _) <| reads (orElse?_ofValues rfl _) rfl

instance : Reversible PatchOp := ⟨PatchOp.decodeValue?_encode⟩

/-! ## Cluster objects -/

instance : Reversible ObjectMeta where
  decodeValue?_encode metadata := by
    have hwritten : encode metadata = .object (Members.ofFields
        ["name", "namespace", "generateName"]
        [metadata.name.map encode, metadata.inNamespace.map encode,
          metadata.generateName.map encode]) := by
      obtain ⟨name, inNamespace, generateName⟩ := metadata
      cases name <;> cases inNamespace <;> cases generateName <;> rfl
    have hrecord := ofSource?_written _ _ (by decide) rfl hwritten
    simp only [decodeValue?, decode?]
    exact reads hrecord <| reads (orElse?_ofValues_option rfl) <|
      reads (orElse?_ofValues_option rfl) <| reads (orElse?_ofValues_option rfl) rfl

instance : Reversible ComponentRoute := ⟨ComponentRoute.decodeValue?_encode⟩

instance : Reversible IngressSpec where
  decodeValue?_encode spec := by
    have hwritten : encode spec = .object (Members.ofFields ["domain", "componentRoutes"]
        [spec.domain.map encode, spec.componentRoutes.map encode]) := by
      obtain ⟨domain, componentRoutes⟩ := spec
      cases domain <;> cases componentRoutes <;> rfl
    have hrecord := ofSource?_written _ _ (by decide) rfl hwritten
    simp only [decodeValue?, decode?]
    exact reads hrecord <| reads (orElse?_ofValues_option rfl) <|
      reads (orElse?_ofValues_option rfl) rfl

instance : NonNull IngressSpec := ⟨fun _ => nofun⟩

instance : Reversible IngressConfig where
  decodeValue?_encode ingress := by
    have hwritten : encode ingress = .object (Members.ofFields ["metadata", "spec"]
        [some (encode ingress.metadata), ingress.spec.map encode]) := by
      obtain ⟨metadata, spec⟩ := ingress
      cases spec <;> rfl
    have hrecord := ofSource?_written _ _ (by decide) rfl hwritten
    simp only [decodeValue?, decode?]
    exact reads hrecord <| reads (orElse?_ofValues rfl _) <|
      reads (orElse?_ofValues_option rfl) rfl

instance : Reversible RouteSpec where
  decodeValue?_encode spec := by
    have hwritten : encode spec = .object (Members.ofFields ["host"] [spec.host.map encode]) := by
      obtain ⟨host⟩ := spec
      cases host <;> rfl
    have hrecord := ofSource?_written _ _ (by decide) rfl hwritten
    simp only [decodeValue?, decode?]
    exact reads hrecord <| reads (orElse?_ofValues_option rfl) rfl

instance : NonNull RouteSpec := ⟨fun _ => nofun⟩

instance : Reversible Route where
  decodeValue?_encode route := by
    have hwritten : encode route = .object (Members.ofFields ["metadata", "spec"]
        [some (encode route.metadata), route.spec.map encode]) := by
      obtain ⟨metadata, spec⟩ := route
      cases spec <;> rfl
    have hrecord := ofSource?_written _ _ (by decide) rfl hwritten
    simp only [decodeValue?, decode?]
    exact reads hrecord <| reads (orElse?_ofValues rfl _) <|
      reads (orElse?_ofValues_option rfl) rfl

/-! ## Node policies -/

instance : Reversible PolicyAddress where
  decodeValue?_encode address := by
    have hrecord := ofSource?_written ["ip", "prefix-length"]
      [some (encode address.ip), some (encode address.prefixLength)]
      (by decide) rfl (rfl : encode address = _)
    simp only [decodeValue?, decode?]
    exact reads hrecord <| reads (required?_ofValues rfl) <| reads (required?_ofValues rfl) rfl

instance : Reversible PolicyIpv4 where
  decodeValue?_encode ipv4 := by
    have hrecord := ofSource?_written ["address", "enabled"]
      [some (encode ipv4.address), some (encode ipv4.enabled)]
      (by decide) rfl (rfl : encode ipv4 = _)
    simp only [decodeValue?, decode?]
    exact reads hrecord <| reads (required?_ofValues rfl) <| reads (required?_ofValues rfl) rfl

instance : Reversible PolicyInterface where
  decodeValue?_encode interface := by
    have hrecord := ofSource?_written ["name", "state", "ipv4"]
      [some (encode interface.name), some (encode interface.state), some (encode interface.ipv4)]
      (by decide) rfl (rfl : encode interface = _)
    simp only [decodeValue?, decode?]
    exact reads hrecord <| reads (required?_ofValues rfl) <| reads (required?_ofValues rfl) <|
      reads (required?_ofValues rfl) rfl

instance : Reversible PolicyRoute where
  decodeValue?_encode route := by
    have hrecord := ofSource?_written
      ["destination", "metric", "next-hop-address", "next-hop-interface"]
      [some (encode route.destination), some (encode route.metric),
        some (encode route.nextHopAddress), some (encode route.nextHopInterface)]
      (by decide) rfl (rfl : encode route = _)
    simp only [decodeValue?, decode?]
    exact reads hrecord <| reads (required?_ofValues rfl) <| reads (required?_ofValues rfl) <|
      reads (required?_ofValues rfl) <| reads (required?_ofValues rfl) rfl

instance : Reversible PolicyDns where
  decodeValue?_encode dns :=
    congrArg (Option.map PolicyDns.mk) (unwrap?_wrap ["config", "server"] dns.servers)

instance : NonNull PolicyDns := ⟨fun _ => nofun⟩

instance : Reversible PolicyRoutes where
  decodeValue?_encode table :=
    congrArg (Option.map PolicyRoutes.mk) (unwrap?_wrap ["config"] table.routes)

instance : NonNull PolicyRoutes := ⟨fun _ => nofun⟩

instance : Reversible DesiredState where
  decodeValue?_encode state := by
    have hwritten : encode state = .object (Members.ofFields
        ["interfaces", "dns-resolver", "routes"]
        [some (encode state.interfaces), state.dns.map encode, state.routes.map encode]) := by
      obtain ⟨interfaces, dns, routes⟩ := state
      cases dns <;> cases routes <;> rfl
    have hrecord := ofSource?_written _ _ (by decide) rfl hwritten
    simp only [decodeValue?, decode?]
    exact reads hrecord <| reads (required?_ofValues rfl) <|
      reads (orElse?_ofValues_option rfl) <| reads (orElse?_ofValues_option rfl) rfl

instance : Reversible NodePolicySpec where
  decodeValue?_encode spec := by
    have hwritten : encode spec = .object (Members.ofFields ["nodeSelector", "desiredState"]
        [spec.nodeSelector.map encode, some (encode spec.desiredState)]) := by
      obtain ⟨nodeSelector, desiredState⟩ := spec
      cases nodeSelector <;> rfl
    have hrecord := ofSource?_written _ _ (by decide) rfl hwritten
    simp only [decodeValue?, decode?]
    exact reads hrecord <| reads (orElse?_ofValues_option rfl) <|
      reads (required?_ofValues rfl) rfl

instance : Reversible NodePolicy where
  decodeValue?_encode policy := by
    have hrecord := ofSource?_written ["apiVersion", "kind", "metadata", "spec"]
      [some (encode policy.apiVersion), some (encode policy.kind), some (encode policy.metadata),
        some (encode policy.spec)]
      (by decide) rfl (rfl : encode policy = _)
    simp only [decodeValue?, decode?]
    exact reads hrecord <| reads (required?_ofValues rfl) <| reads (required?_ofValues rfl) <|
      reads (required?_ofValues rfl) <| reads (required?_ofValues rfl) rfl

/-! ## All of them -/

/-- **Nothing is lost over the wire**: hosts with their interfaces and addresses, requests, patches,
component routes, ingress configurations, routes, and node policies with their desired states. -/
theorem wireTypes_lossless :
    Lossless Host ∧ Lossless Interface ∧ Lossless InterfaceAddress ∧ Lossless StaticIpsRequest ∧
      Lossless DomainChangeRequest ∧ Lossless PatchOp ∧ Lossless ComponentRoute ∧
      Lossless IngressConfig ∧ Lossless Route ∧ Lossless NodePolicy ∧ Lossless DesiredState :=
  ⟨Reversible.lossless, Reversible.lossless, Reversible.lossless, Reversible.lossless,
    Reversible.lossless, Reversible.lossless, Reversible.lossless, Reversible.lossless,
    Reversible.lossless, Reversible.lossless, Reversible.lossless⟩

end EdgeSetup
