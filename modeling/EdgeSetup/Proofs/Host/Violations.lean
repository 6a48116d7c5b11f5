import EdgeSetup.Host.Validation
import EdgeSetup.Proofs.Host.Shapes
import EdgeSetup.Proofs.Network.Ipv4

/-!
# What validation turns down

A host is valid (`Host.Valid`) when it has a name, name servers and interfaces, and each interface
has a name and an address of the right form. A host that is not has a first violation
(`Host.Fails`): the checks are in order, and an interface is looked at only when all before it are
valid.

**Main theorem (`Host.validate_exact`)**: validation accepts the valid hosts, and it reports the
first violation of all others.
-/

namespace EdgeSetup

/-! ## Interfaces -/

namespace Interface

/-- The interface has a name, and the address has all of its parts. -/
structure Complete (interface : Interface) (address : InterfaceAddress) : Prop where
  given : interface.address = some address
  name : interface.name ≠ ""
  ip : address.ip ≠ ""
  gateway : address.gateway ≠ ""
  prefixLength : address.prefixLength ≠ 0

/-- The interface has a name, and an address with a prefix length in range. -/
structure Valid (interface : Interface) : Prop where
  name : interface.name ≠ ""
  address : ∃ address, interface.address = some address ∧ Ipv4.IsDottedQuad address.ip ∧
    Ipv4.IsDottedQuad address.gateway ∧ 1 ≤ address.prefixLength.toNat ∧
      address.prefixLength.toNat ≤ 32

/-- The first violation of an interface of a host. -/
inductive Fails (host : String) (interface : Interface) : HostError → Prop where
  | incomplete (missing : ∀ address, ¬ interface.Complete address) :
      Fails host interface (.incompleteInterface host interface.name)
  | ip {address : InterfaceAddress} (complete : interface.Complete address)
      (bad : ¬ Ipv4.IsDottedQuad address.ip) :
      Fails host interface (.invalidAddress host interface.name address.ip)
  | gateway {address : InterfaceAddress} (complete : interface.Complete address)
      (ip : Ipv4.IsDottedQuad address.ip) (bad : ¬ Ipv4.IsDottedQuad address.gateway) :
      Fails host interface (.invalidAddress host interface.name address.gateway)
  | prefixLength {address : InterfaceAddress} (complete : interface.Complete address)
      (ip : Ipv4.IsDottedQuad address.ip) (gateway : Ipv4.IsDottedQuad address.gateway)
      (long : 32 < address.prefixLength.toNat) :
      Fails host interface (.invalidPrefix host interface.name address.prefixLength)

variable {host : String} {interface : Interface} {error : HostError}

theorem complete_iff {address : InterfaceAddress} :
    interface.Complete address ↔ interface.completeAddress? = some address := by
  rw [completeAddress?_eq_some]
  constructor
  · rintro ⟨given, name, ip, gateway, prefixLength⟩
    exact ⟨given, name, ip, gateway, prefixLength⟩
  · rintro ⟨given, name, ip, gateway, prefixLength⟩
    exact ⟨given, name, ip, gateway, prefixLength⟩

theorem not_isDottedQuad_empty : ¬ Ipv4.IsDottedQuad "" := by
  rw [← Ipv4.isSome_parse?_iff]
  decide

/-- A valid interface is complete. -/
theorem Valid.complete (h : interface.Valid) :
    ∃ address, interface.Complete address ∧ Ipv4.IsDottedQuad address.ip ∧
      Ipv4.IsDottedQuad address.gateway ∧ address.prefixLength.toNat ≤ 32 := by
  obtain ⟨name, address, given, ip, gateway, hpos, hshort⟩ := h
  refine ⟨address, ⟨given, name, ?_, ?_, ?_⟩, ip, gateway, hshort⟩
  · intro hempty
    exact not_isDottedQuad_empty (hempty ▸ ip)
  · intro hempty
    exact not_isDottedQuad_empty (hempty ▸ gateway)
  · intro hzero
    rw [hzero] at hpos
    exact absurd hpos (by decide)

theorem Valid.validate (h : interface.Valid) (host : String) :
    interface.validate host = .ok () := by
  obtain ⟨address, complete, ip, gateway, short⟩ := h.complete
  rw [Interface.validate, complete_iff.1 complete]
  simp only [Ipv4.isNone_parse?_iff, ip, gateway, maxPrefixLength, Nat.not_lt.2 short,
    not_true_eq_false, if_false]
  rfl

theorem Fails.validate (h : interface.Fails host error) :
    interface.validate host = .error error := by
  cases h with
  | incomplete missing =>
    have hnone : interface.completeAddress? = none :=
      Option.eq_none_iff_forall_ne_some.2 fun address hsome =>
        missing address (complete_iff.2 hsome)
    rw [Interface.validate, hnone]
    rfl
  | ip complete bad =>
    rw [Interface.validate, complete_iff.1 complete]
    simp only [Ipv4.isNone_parse?_iff, bad, not_false_eq_true, if_true]
    rfl
  | gateway complete ip bad =>
    rw [Interface.validate, complete_iff.1 complete]
    simp only [Ipv4.isNone_parse?_iff, ip, bad, not_true_eq_false, not_false_eq_true, if_false,
      if_true]
    rfl
  | prefixLength complete ip gateway long =>
    rw [Interface.validate, complete_iff.1 complete]
    simp only [Ipv4.isNone_parse?_iff, ip, gateway, maxPrefixLength, long, not_true_eq_false,
      if_false, if_true]
    rfl

/-- An interface that is not valid has a first violation. -/
theorem valid_or_fails (host : String) (interface : Interface) :
    interface.Valid ∨ ∃ error, interface.Fails host error := by
  by_cases hcomplete : ∃ address, interface.Complete address
  · obtain ⟨address, complete⟩ := hcomplete
    by_cases ip : Ipv4.IsDottedQuad address.ip
    · by_cases gateway : Ipv4.IsDottedQuad address.gateway
      · by_cases long : 32 < address.prefixLength.toNat
        · exact .inr ⟨_, .prefixLength complete ip gateway long⟩
        · have hpos : 1 ≤ address.prefixLength.toNat := by
            have hne := complete.prefixLength
            rw [← UInt32.toNat_inj.ne] at hne
            exact Nat.one_le_iff_ne_zero.2 hne
          exact .inl ⟨complete.name, address, complete.given, ip, gateway, hpos, by omega⟩
      · exact .inr ⟨_, .gateway complete ip gateway⟩
    · exact .inr ⟨_, .ip complete ip⟩
  · exact .inr ⟨_, .incomplete fun address complete => hcomplete ⟨address, complete⟩⟩

end Interface

/-! ## Hosts -/

namespace Host

/-- The host has a name, name servers and interfaces, and each interface is valid. -/
structure Valid (host : Host) : Prop where
  nodeName : host.nodeName ≠ ""
  dns : host.dns ≠ []
  interfaces : host.interfaces ≠ []
  each : ∀ interface ∈ host.interfaces, interface.Valid

/-- The first violation of a host. -/
inductive Fails (host : Host) : HostError → Prop where
  | nodeName (unnamed : host.nodeName = "") : Fails host .missingNodeName
  | dns (named : host.nodeName ≠ "") (unserved : host.dns = []) :
      Fails host (.missingDns host.nodeName)
  | interfaces (named : host.nodeName ≠ "") (served : host.dns ≠ [])
      (unwired : host.interfaces = []) : Fails host (.missingInterfaces host.nodeName)
  | interface {earlier later : List Interface} {interface : Interface} {error : HostError}
      (named : host.nodeName ≠ "") (served : host.dns ≠ [])
      (split : host.interfaces = earlier ++ interface :: later)
      (before : ∀ other ∈ earlier, other.Valid)
      (fails : interface.Fails host.nodeName error) : Fails host error

variable {host : Host} {error : HostError}

/-- Checks that pass let the rest be checked. -/
theorem forM_append_of_ok {α ε : Type} {check : α → Except ε Unit} {items : List α}
    (h : ∀ item ∈ items, check item = .ok ()) (rest : List α) :
    (items ++ rest).forM check = rest.forM check := by
  induction items with
  | nil => rfl
  | cons item items ih =>
    have hitem := h item (List.mem_cons_self ..)
    have hitems := ih fun other hother => h other (List.mem_cons_of_mem _ hother)
    rw [List.forM_eq_forM] at hitems ⊢
    rw [List.cons_append, List.forM_cons, hitem]
    exact hitems

/-- A host with a name, name servers and interfaces is checked interface by interface. -/
theorem validate_eq_forM (named : host.nodeName ≠ "") (served : host.dns ≠ [])
    (wired : host.interfaces ≠ []) :
    host.validate = host.interfaces.forM (Interface.validate host.nodeName) := by
  simp only [validate, String.isEmpty_iff, List.isEmpty_iff, named, served, wired, if_false]

theorem Valid.validate (h : host.Valid) : host.validate = .ok () := by
  rw [validate_eq_forM h.nodeName h.dns h.interfaces, ← List.append_nil host.interfaces,
    forM_append_of_ok fun interface hmem => (h.each interface hmem).validate host.nodeName]
  rfl

theorem Fails.validate (h : host.Fails error) : host.validate = .error error := by
  cases h with
  | nodeName unnamed =>
    simp only [Host.validate, String.isEmpty_iff, unnamed, if_true]
    rfl
  | dns named unserved =>
    simp only [Host.validate, String.isEmpty_iff, List.isEmpty_iff, named, unserved, if_false,
      if_true]
    rfl
  | interfaces named served unwired =>
    simp only [Host.validate, String.isEmpty_iff, List.isEmpty_iff, named, served, unwired,
      if_false, if_true]
    rfl
  | interface named served split before fails =>
    rw [validate_eq_forM named served (by simp [split]), split,
      forM_append_of_ok fun other hother => (before other hother).validate host.nodeName,
      List.forM_eq_forM, List.forM_cons, fails.validate]
    rfl

/-- A host that is not valid has a first violation. -/
theorem valid_or_fails (host : Host) : host.Valid ∨ ∃ error, host.Fails error := by
  by_cases named : host.nodeName = ""
  · exact .inr ⟨_, .nodeName named⟩
  by_cases served : host.dns = []
  · exact .inr ⟨_, .dns named served⟩
  by_cases wired : host.interfaces = []
  · exact .inr ⟨_, .interfaces named served wired⟩
  by_cases each : ∀ interface ∈ host.interfaces, interface.Valid
  · exact .inl ⟨named, served, wired, each⟩
  · classical
    have hsome : (host.interfaces.find? fun interface => ¬ interface.Valid).isSome = true := by
      rw [List.find?_isSome]
      simpa using each
    obtain ⟨interface, hfind⟩ := Option.isSome_iff_exists.1 hsome
    obtain ⟨invalid, earlier, later, split, before⟩ := List.find?_eq_some_iff_append.1 hfind
    obtain ⟨error, fails⟩ :=
      (interface.valid_or_fails host.nodeName).resolve_left (by simpa using invalid)
    exact .inr ⟨error, .interface named served split (by simpa using before) fails⟩

/-- An accepted host is valid. -/
theorem valid_of_validate (h : host.validate = .ok ()) : host.Valid := by
  rcases host.valid_or_fails with valid | ⟨error, fails⟩
  · exact valid
  · cases h.symm.trans fails.validate

/-- **Validation is exact**: it accepts the valid hosts, and reports the first violation of all
others. -/
theorem validate_exact (host : Host) :
    (host.validate = .ok () ↔ host.Valid) ∧
      ∀ error, host.validate = .error error ↔ host.Fails error := by
  rcases host.valid_or_fails with valid | ⟨error, fails⟩
  · have hok := valid.validate
    refine ⟨iff_of_true hok valid, fun other => ⟨fun hother => ?_, fun hother => hother.validate⟩⟩
    cases hok.symm.trans hother
  · have herror := fails.validate
    refine ⟨⟨fun hok => ?_, fun valid => valid.validate⟩,
      fun other => ⟨fun hother => ?_, fun hother => hother.validate⟩⟩
    · cases herror.symm.trans hok
    · cases herror.symm.trans hother
      exact fails

/-- A length that a byte would cut to 24 is out of range. -/
example :
    Host.validate ⟨"n0", "", none, .worker, ["10.0.0.2"],
      [⟨"eth0", ⟨none, some ⟨"10.0.0.4", 256 + 24, "10.0.0.1"⟩⟩⟩]⟩ =
        .error (.invalidPrefix "n0" "eth0" 280) := by
  decide +kernel

end Host

end EdgeSetup
