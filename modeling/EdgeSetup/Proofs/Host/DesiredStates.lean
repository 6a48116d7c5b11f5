import EdgeSetup.Proofs.Cluster.Addresses
import EdgeSetup.Proofs.Host.Violations
import EdgeSetup.Proofs.StaticIps.Batch

/-!
# What a desired state holds

A desired state has two lists for the interfaces of a host: an entry for each interface that has an
address, and a default route for each interface at all. Only validation makes them line up. Each
interface of an accepted host has an address, so neither list leaves one out
(`Host.filterMap_desired?`).

**Main theorem (`Host.desiredState_lossless`)**: the desired state of an accepted host lists its
interfaces and name servers without loss, and the host is written with that state whether its
policy is patched or created.
-/

namespace EdgeSetup

open Json Http

/-! ## Interfaces -/

namespace Interface

/-- The entry of an interface with its address. -/
def entry (interface : Interface) : PolicyInterface :=
  let address := interface.address.getD .empty
  ⟨interface.name, "up", ⟨[⟨address.ip, address.prefixLength⟩], true⟩⟩

/-- An interface is carried by an entry with its name and address, and by a default route with its
name and gateway. The prefix length is in range, and there is a gateway. -/
inductive Carried (interface : Interface) : PolicyInterface → PolicyRoute → Prop where
  | intro {address : InterfaceAddress} (given : interface.address = some address)
      (positive : 1 ≤ address.prefixLength.toNat) (short : address.prefixLength.toNat ≤ 32)
      (gateway : address.gateway ≠ "") :
      Carried interface ⟨interface.name, "up", ⟨[⟨address.ip, address.prefixLength⟩], true⟩⟩
        ⟨"0.0.0.0/0", 1000, address.gateway, interface.name⟩

variable {interface : Interface}

theorem Valid.desired? (h : interface.Valid) : interface.desired? = some interface.entry := by
  obtain ⟨address, given, -⟩ := h.address
  rw [Interface.desired?, entry, given]
  rfl

theorem Valid.carried (h : interface.Valid) :
    interface.Carried interface.entry interface.defaultRoute := by
  obtain ⟨address, complete, -, -, short⟩ := h.complete
  have positive : 1 ≤ address.prefixLength.toNat :=
    Nat.one_le_iff_ne_zero.2 (UInt32.toNat_inj.ne.2 complete.prefixLength)
  have hentry : interface.entry =
      ⟨interface.name, "up", ⟨[⟨address.ip, address.prefixLength⟩], true⟩⟩ := by
    rw [entry, complete.given]
    rfl
  have hroute : interface.defaultRoute = ⟨"0.0.0.0/0", 1000, address.gateway, interface.name⟩ := by
    rw [defaultRoute, complete.given]
    rfl
  rw [hentry, hroute]
  exact .intro complete.given positive short complete.gateway

end Interface

/-! ## Hosts -/

/-- A desired state lists a host without loss, with these routes: one entry and one default route
for each interface, in the order of the interfaces, and the name servers. -/
structure DesiredState.Lists (state : DesiredState) (host : Host) (routes : List PolicyRoute) :
    Prop where
  routed : state.routes = some ⟨routes⟩
  entryCount : state.interfaces.length = host.interfaces.length
  routeCount : routes.length = host.interfaces.length
  carried : ∀ (i : Nat) (interface : Interface), host.interfaces[i]? = some interface →
    ∃ entry route, state.interfaces[i]? = some entry ∧ routes[i]? = some route ∧
      interface.Carried entry route
  /-- The next hop of a route is through the interface of the entry at its place. -/
  nextHop : ∀ (i : Nat) (route : PolicyRoute), routes[i]? = some route →
    ∃ entry, state.interfaces[i]? = some entry ∧ route.nextHopInterface = entry.name
  dns : state.dns = some ⟨host.dns⟩

/-- The request patches a policy to a desired state, which it sets at its place in the policy. -/
structure PatchesState (sent : Request) (state : Value) : Prop where
  method : sent.method = .patch
  body : ∃ changes : List PatchOp, sent.body = some (encode changes) ∧
    changes.filter (fun change => change.path = "/spec/desiredState") =
      [⟨.replace, "/spec/desiredState", state⟩]

/-- The request creates a policy of a desired state. -/
structure CreatesState (sent : Request) (state : Value) : Prop where
  method : sent.method = .post
  body : ∃ body, sent.body = some body ∧ body.at? ["spec", "desiredState"] = some state

/-- The request writes a host: it patches the policy that the host names to the desired state of the
host, or creates a policy of that state in the collection. -/
structure WritesHost (client : Client) (host : Host) (sent : Request) : Prop where
  patches : ∀ name, StaticIps.existingPolicy? host = some name →
    sent.url = client.url ("/apis/nmstate.io/v1/nodenetworkconfigurationpolicies/" ++ name) ∧
      PatchesState sent (encode host.desiredState)
  creates : StaticIps.existingPolicy? host = none →
    sent.url = client.url "/apis/nmstate.io/v1/nodenetworkconfigurationpolicies" ∧
      CreatesState sent (encode host.desiredState)

namespace Host

variable {host : Host}

/-- Where each interface is valid, no entry is left out. -/
theorem filterMap_desired? {interfaces : List Interface}
    (h : ∀ interface ∈ interfaces, interface.Valid) :
    interfaces.filterMap Interface.desired? = interfaces.map Interface.entry :=
  List.filterMap_eq_map_iff_forall_eq_some.2 fun interface hmem => (h interface hmem).desired?

/-- Without an address an interface has a route all the same, and no entry. -/
example :
    [Interface.mk "eth0" .empty].filterMap Interface.desired? = [] ∧
      [Interface.mk "eth0" .empty].map Interface.defaultRoute =
        [⟨"0.0.0.0/0", 1000, "", "eth0"⟩] := by
  decide

theorem Valid.lists (h : host.Valid) :
    host.desiredState.Lists host (host.interfaces.map Interface.defaultRoute) := by
  have hentries : host.desiredState.interfaces = host.interfaces.map Interface.entry :=
    filterMap_desired? h.each
  refine ⟨rfl, ?_, List.length_map _, fun i interface hi => ?_, fun i route hi => ?_, ?_⟩
  · rw [hentries, List.length_map]
  · refine ⟨interface.entry, interface.defaultRoute, ?_, ?_,
      (h.each interface (List.mem_of_getElem? hi)).carried⟩
    · rw [hentries, List.getElem?_map, hi, Option.map_some]
    · rw [List.getElem?_map, hi, Option.map_some]
  · rw [List.getElem?_map] at hi
    obtain ⟨interface, hinterface, rfl⟩ := Option.map_eq_some_iff.1 hi
    exact ⟨interface.entry, by rw [hentries, List.getElem?_map, hinterface, Option.map_some], rfl⟩
  · show (if host.dns.isEmpty then none else some _) = _
    rw [if_neg (by simpa using h.dns)]

/-- The patch of a policy sets its desired state. -/
theorem patchRequest_patchesState (client : Client) (token name : String) :
    PatchesState
      (client.patchRequest token (.cluster .nodePolicy name) (.operations host.policyPatch))
      (encode host.desiredState) :=
  ⟨Client.patchRequest_method .., _, Client.patchRequest_body .., rfl⟩

/-- A policy that is created for a host is one of its desired state. -/
theorem hostWrite_createsState {client : Client} {token : String}
    (hnone : StaticIps.existingPolicy? host = none) :
    CreatesState (StaticIps.hostWrite client token host) (encode host.desiredState) := by
  rw [StaticIps.hostWrite, hnone]
  exact ⟨Client.postRequest_method .., _, Client.postRequest_body .., rfl⟩

/-- The write of a host is addressed to the policy that the host names, or to the collection. -/
theorem hostWrite_writesHost (client : Client) (token : String) (host : Host) :
    WritesHost client host (StaticIps.hostWrite client token host) := by
  refine ⟨fun name hname => ?_, fun hnone => ⟨?_, hostWrite_createsState hnone⟩⟩
  · have hpath : (ResourceRef.cluster .nodePolicy name).path =
        "/apis/nmstate.io/v1/nodenetworkconfigurationpolicies/" ++ name := by
      rw [ResourceRef.cluster_path]
      congr 1
    rw [StaticIps.hostWrite, hname, ← hpath]
    exact ⟨Client.patchRequest_url .., patchRequest_patchesState client token name⟩
  · rw [StaticIps.hostWrite, hnone]
    exact Client.postRequest_url ..

/-- **Nothing of an accepted host is lost**: its desired state lists its interfaces and name
servers, and is what is sent for the host, both when its policy is patched and when it has none, or
one without a name, and a policy is created. -/
theorem desiredState_lossless (h : host.validate = .ok ()) :
    (∃ routes, host.desiredState.Lists host routes) ∧
      ∀ (client : Client) (token : String),
        (∀ name, name ≠ "" → ∃ sent,
          StaticIps.SendsFirst client token { host with policyName := some name } sent ∧
            PatchesState sent (encode host.desiredState)) ∧
        ∀ missing ∈ [none, some ""], ∃ sent,
          StaticIps.SendsFirst client token { host with policyName := missing } sent ∧
            CreatesState sent (encode host.desiredState) := by
  refine ⟨⟨_, (valid_of_validate h).lists⟩, fun client token => ⟨fun name hname => ?_, ?_⟩⟩
  · exact ⟨_, StaticIps.sendsFirst_patch h hname, patchRequest_patchesState client token name⟩
  · intro missing hmissing
    have hnone : StaticIps.existingPolicy? { host with policyName := missing } = none := by
      rcases List.mem_pair.1 hmissing with rfl | rfl <;> rfl
    exact ⟨_, StaticIps.sendsFirst_hostWrite h, hostWrite_createsState hnone⟩

/-- A host of two interfaces. -/
def twoPorts : Host :=
  ⟨"worker-1", "", none, .worker, ["192.168.7.1", "1.1.1.1"],
    [ ⟨"eth0", ⟨none, some ⟨"192.168.7.10", 24, "192.168.7.1"⟩⟩⟩,
      ⟨"eth1", ⟨some false, some ⟨"10.0.0.10", 32, "10.0.0.1"⟩⟩⟩ ]⟩

theorem desiredState_lossless_twoPorts :
    twoPorts.validate = .ok () ∧ (∃ routes, twoPorts.desiredState.Lists twoPorts routes) ∧
      (∃ sent,
        StaticIps.SendsFirst ⟨"c"⟩ "token" { twoPorts with policyName := some "worker-1" } sent ∧
          PatchesState sent (encode twoPorts.desiredState)) ∧
        ∃ sent, StaticIps.SendsFirst ⟨"c"⟩ "token" { twoPorts with policyName := some "" } sent ∧
          CreatesState sent (encode twoPorts.desiredState) := by
  have hvalid : twoPorts.validate = .ok () := by decide +kernel
  obtain ⟨hlists, hsent⟩ := desiredState_lossless hvalid
  obtain ⟨hpatched, hcreated⟩ := hsent ⟨"c"⟩ "token"
  exact ⟨hvalid, hlists, hpatched "worker-1" (by decide), hcreated (some "") (by simp)⟩

end Host

end EdgeSetup
