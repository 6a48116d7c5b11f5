import EdgeSetup.Proofs.Json.Parts
import EdgeSetup.Proofs.StaticIps.Batch

/-!
# The shapes of accepted hosts

A host is read leniently, and each part of the wrong shape becomes an empty value. Validation turns
such values down, so an accepted host was written with every part in its shape
(`Host.shape_of_accepted`). The entries of the name servers are the exception: validation asks only
whether there are any, so an entry that is no text passes as an empty one (`Host.odd_dns_accepted`).

**Main theorem (`malformed_refused`)**: a host that is malformed otherwise is turned down, and a
batch does not write it.
-/

namespace EdgeSetup

open Json

/-! ## What accepted hosts have -/

namespace Interface

theorem completeAddress?_eq_some {interface : Interface} {address : InterfaceAddress} :
    interface.completeAddress? = some address ↔
      interface.address = some address ∧ interface.name ≠ "" ∧ address.ip ≠ "" ∧
        address.gateway ≠ "" ∧ address.prefixLength ≠ 0 := by
  simp [completeAddress?, Option.filter_eq_some_iff, and_assoc]

theorem complete_of_accepted {host : String} {interface : Interface}
    (h : interface.validate host = .ok ()) :
    ∃ address, interface.completeAddress? = some address := by
  cases hcomplete : interface.completeAddress? with
  | some address => exact ⟨address, rfl⟩
  | none =>
    rw [validate, hcomplete] at h
    cases h

end Interface

namespace Host

theorem forM_eq_ok {α ε : Type} {check : α → Except ε Unit} {items : List α}
    (h : items.forM check = .ok ()) : ∀ item ∈ items, check item = .ok () := by
  induction items with
  | nil => exact nofun
  | cons item items ih =>
    rw [List.forM_eq_forM, List.forM_cons] at h
    cases hitem : check item with
    | error error =>
      rw [hitem] at h
      cases h
    | ok value =>
      rw [hitem] at h
      intro other hother
      rcases List.mem_cons.1 hother with rfl | hother
      · exact hitem
      · exact ih h other hother

/-- What an accepted host has. -/
structure Accepted (host : Host) : Prop where
  nodeName : host.nodeName ≠ ""
  dns : host.dns ≠ []
  interfaces : host.interfaces ≠ []
  valid : ∀ interface ∈ host.interfaces, interface.validate host.nodeName = .ok ()

/-- A check that is passed lets the rest go on. -/
theorem ok_of_check {fails : Bool} {error : HostError} {rest : Unit → Except HostError Unit}
    (h : (if fails then throw error >>= rest else rest ()) = .ok ()) :
    fails = false ∧ rest () = .ok () := by
  cases fails with
  | true => cases h
  | false => exact ⟨rfl, h⟩

theorem accepted_of_validate {host : Host} (h : host.validate = .ok ()) : Accepted host := by
  unfold validate at h
  obtain ⟨hname, hrest⟩ := ok_of_check h
  obtain ⟨hdns, hrest⟩ := ok_of_check hrest
  obtain ⟨hinterfaces, hrest⟩ := ok_of_check hrest
  exact ⟨by simpa using hname, by simpa using hdns, by simpa using hinterfaces, forM_eq_ok hrest⟩

end Host

/-! ## Shapes -/

/-- The shape of an address: texts and a whole number in range. -/
structure AddressShape (value : Value) : Prop where
  ip : ∃ text, value.part? "ip" 0 = some (.string text)
  prefixLength : ∃ n : Nat, n < UInt32.size ∧
    value.part? "prefixLength" 1 = some (.number (.int n))
  gateway : ∃ text, value.part? "gateway" 2 = some (.string text)

/-- The shape of an interface: a name and an address. Only objects and arrays have parts. -/
structure InterfaceShape (value : Value) : Prop where
  name : ∃ text, value.part? "name" 0 = some (.string text)
  address : ∃ ipv4 address, value.part? "ipv4" 1 = some ipv4 ∧
    ipv4.part? "address" 1 = some address ∧ AddressShape address

/-- The shape of a host: a node name, an array of name servers, and an array of interfaces. -/
structure HostShape (value : Value) : Prop where
  nodeName : ∃ text, value.part? "nodeName" 0 = some (.string text)
  dns : ∃ items, value.part? "dns" 4 = some (.array items)
  interfaces : ∃ items, value.part? "interfaces" 5 = some (.array items) ∧
    ∀ item ∈ items, InterfaceShape item

/-! ## Reading hosts -/

/-- The host that an item of a request is read as. -/
def Host.ofValue (value : Value) : Host := (decodeValue? Host value).getD .empty

theorem decodeValue?_address {value : Value} {address : InterfaceAddress}
    (h : decodeValue? InterfaceAddress value = some address) :
    address.ip = lenientPart "ip" 0 "" value ∧
      address.prefixLength = lenientPart "prefixLength" 1 0 value ∧
        address.gateway = lenientPart "gateway" 2 "" value := by
  obtain ⟨record, hrecord, hfields⟩ := Option.bind_eq_some_iff.1 h
  simp only [Record.lenient?_ofSource? "ip" 0 hrecord rfl,
    Record.lenient?_ofSource? "prefixLength" 1 hrecord rfl,
    Record.lenient?_ofSource? "gateway" 2 hrecord rfl,
    bind, Option.bind_some] at hfields
  cases hfields
  exact ⟨rfl, rfl, rfl⟩

theorem decodeValue?_ipv4 {value : Value} {ipv4 : InterfaceIpv4}
    (h : decodeValue? InterfaceIpv4 value = some ipv4) :
    ipv4.address = lenientPart "address" 1 none value := by
  obtain ⟨record, hrecord, hfields⟩ := Option.bind_eq_some_iff.1 h
  simp only [Record.lenient?_ofSource? "dhcp" 0 hrecord rfl,
    Record.lenient?_ofSource? "address" 1 hrecord rfl,
    bind, Option.bind_some] at hfields
  cases hfields
  rfl

theorem decodeValue?_interface {value : Value} {interface : Interface}
    (h : decodeValue? Interface value = some interface) :
    interface.name = lenientPart "name" 0 "" value ∧
      interface.ipv4 = lenientPart "ipv4" 1 .empty value := by
  obtain ⟨record, hrecord, hfields⟩ := Option.bind_eq_some_iff.1 h
  simp only [Record.lenient?_ofSource? "name" 0 hrecord rfl,
    Record.lenient?_ofSource? "ipv4" 1 hrecord rfl,
    bind, Option.bind_some] at hfields
  cases hfields
  exact ⟨rfl, rfl⟩

theorem decodeValue?_host {value : Value} {host : Host}
    (h : decodeValue? Host value = some host) :
    host.nodeName = lenientPart "nodeName" 0 "" value ∧
      host.policyName = lenientPart "nncpName" 2 none value ∧
        host.dns = lenientListPart "dns" 4 "" value ∧
          host.interfaces = lenientListPart "interfaces" 5 .empty value := by
  obtain ⟨record, hrecord, hfields⟩ := Option.bind_eq_some_iff.1 h
  simp only [Record.lenient?_ofSource? "nodeName" 0 hrecord rfl,
    Record.lenient?_ofSource? "hostname" 1 hrecord rfl,
    Record.lenient?_ofSource? "nncpName" 2 hrecord rfl,
    Record.lenient?_ofSource? "role" 3 hrecord rfl,
    Record.lenientList?_ofSource? "dns" 4 hrecord rfl,
    Record.lenientList?_ofSource? "interfaces" 5 hrecord rfl,
    bind, Option.bind_some] at hfields
  cases hfields
  exact ⟨rfl, rfl, rfl, rfl⟩

/-! ## Accepted hosts have their shape -/

/-- The static address of an interface that was read from a part. -/
theorem exists_address_part {value : Value} {address : InterfaceAddress}
    (h : (lenientPart "ipv4" 1 InterfaceIpv4.empty value).address = some address) :
    ∃ ipv4 part, value.part? "ipv4" 1 = some ipv4 ∧ ipv4.part? "address" 1 = some part ∧
      decodeValue? InterfaceAddress part = some address := by
  have hsome : lenientPart "ipv4" 1 InterfaceIpv4.empty value ≠ InterfaceIpv4.empty := by
    intro hempty
    rw [hempty] at h
    cases h
  obtain ⟨ipv4, hipv4, hsettings⟩ := read_of_lenientPart_ne hsome
  rw [decodeValue?_ipv4 hsettings, lenientPart_eq_some] at h
  obtain ⟨part, hpart, -, hread⟩ := h
  exact ⟨ipv4, part, hipv4, hpart, hread⟩

theorem interfaceShape_of_complete {value : Value} {address : InterfaceAddress}
    (h : ((decodeValue? Interface value).getD .empty).completeAddress? = some address) :
    InterfaceShape value := by
  cases hread : decodeValue? Interface value with
  | none =>
    rw [hread] at h
    cases h
  | some interface =>
    rw [hread, Option.getD_some] at h
    obtain ⟨haddress, hname, hip, hgateway, hprefix⟩ := Interface.completeAddress?_eq_some.1 h
    obtain ⟨hnamePart, hipv4Part⟩ := decodeValue?_interface hread
    rw [hnamePart] at hname
    rw [Interface.address, hipv4Part] at haddress
    obtain ⟨ipv4, part, hipv4, hpart, haddressRead⟩ := exists_address_part haddress
    obtain ⟨hipPart, hprefixPart, hgatewayPart⟩ := decodeValue?_address haddressRead
    rw [hipPart] at hip
    rw [hprefixPart] at hprefix
    rw [hgatewayPart] at hgateway
    exact ⟨part?_of_lenientPart_string hname, ipv4, part, hipv4, hpart,
      part?_of_lenientPart_string hip, part?_of_lenientPart_uint32 hprefix,
      part?_of_lenientPart_string hgateway⟩

/-- **An accepted host was written in its shape.** -/
theorem Host.shape_of_accepted {value : Value} (h : (Host.ofValue value).validate = .ok ()) :
    HostShape value := by
  obtain ⟨hname, hdns, hinterfaces, hvalid⟩ := Host.accepted_of_validate h
  cases hread : decodeValue? Host value with
  | none =>
    rw [Host.ofValue, hread] at hname
    exact absurd rfl hname
  | some host =>
    rw [Host.ofValue, hread, Option.getD_some] at hname hdns hinterfaces hvalid
    obtain ⟨hnamePart, -, hdnsPart, hinterfacesPart⟩ := decodeValue?_host hread
    rw [hnamePart] at hname
    rw [hdnsPart] at hdns
    rw [hinterfacesPart] at hinterfaces hvalid
    obtain ⟨servers, hservers, -⟩ := part?_of_lenientListPart hdns
    obtain ⟨items, hitems, hlist⟩ := part?_of_lenientListPart hinterfaces
    refine ⟨part?_of_lenientPart_string hname, ⟨servers, hservers⟩, items, hitems, ?_⟩
    intro item hitem
    have haccepted := hvalid ((decodeValue? Interface item).getD .empty) (by
      rw [hlist]
      exact List.mem_map_of_mem hitem)
    obtain ⟨address, haddress⟩ := Interface.complete_of_accepted haccepted
    exact interfaceShape_of_complete haddress

/-! ## Malformed hosts -/

/-- **A malformed host is turned down, and nothing is written for it**: a batch does up to it what
the hosts before it make it do, and then fails. -/
theorem malformed_refused {value : Value} (hmalformed : ¬ HostShape value) :
    (∃ error, (Host.ofValue value).validate = .error error) ∧
      ∀ {client : Client} {token : String} {outcome : StaticIpOutcome} {before after : List Host}
        {events : List Event} {result : Except SetupError StaticIpOutcome},
        Attempting.Runs
          (StaticIps.applyAll client token outcome (before ++ Host.ofValue value :: after)) events
          result →
        (∃ error, result = .error error) ∧
          ∃ reached, Attempting.Runs (StaticIps.applyAll client token outcome before) events
            reached := by
  have hrefused : ∃ error, (Host.ofValue value).validate = .error error := by
    cases hvalid : (Host.ofValue value).validate with
    | error error => exact ⟨error, rfl⟩
    | ok accepted => exact absurd (Host.shape_of_accepted hvalid) hmalformed
  refine ⟨hrefused, ?_⟩
  intro client token outcome before after events result hruns
  obtain ⟨error, hrefused⟩ := hrefused
  rw [StaticIps.applyAll_append] at hruns
  rcases Attempting.runs_bind.1 hruns with
    ⟨failure, rfl, hbefore⟩ | ⟨first, rest, written, rfl, hbefore, hrest⟩
  · exact ⟨⟨failure, rfl⟩, _, hbefore⟩
  · obtain ⟨rfl, message, rfl⟩ := StaticIps.applyAll_refused hrefused hrest
    rw [List.append_nil]
    exact ⟨⟨_, rfl⟩, _, hbefore⟩

/-- A host of one interface, with its name servers, its prefix length and what else it has. -/
def hostSample (servers : List Value) (prefixLength : Nat) (others : List (String × Value)) :
    Value :=
  .object <|
    [ ("dns", .array servers),
      ("interfaces", .array
        [ .object
            [ ("ipv4", wrap ["address"] (.object
                [ ("gateway", .string "192.168.7.1"),
                  ("ip", .string "192.168.7.10"),
                  ("prefixLength", .ofNat prefixLength) ])),
              ("name", .string "eth0") ] ]) ] ++
    others ++ [("nodeName", .string "worker-1")]

theorem hostSample_malformed {servers : List Value} {prefixLength : Nat}
    {others : List (String × Value)} (h : UInt32.size ≤ prefixLength) :
    ¬ HostShape (hostSample servers prefixLength others) := by
  rintro ⟨-, -, items, hitems, hshapes⟩
  cases hitems
  obtain ⟨-, ipv4, address, hipv4, haddress, -, ⟨n, hn, hprefix⟩, -⟩ :=
    hshapes _ (List.mem_singleton_self _)
  cases hipv4
  cases haddress
  cases hprefix
  omega

/-- A prefix length of 24 past the range of words is no prefix length of 24. -/
theorem malformed_refused_wide :
    let value := hostSample [.string "192.168.7.1"] (UInt32.size + 24) []
    let good := Host.ofValue (hostSample [.string "192.168.7.1"] 24 [])
    ¬ HostShape value ∧ (∃ error, (Host.ofValue value).validate = .error error) ∧
      ∃ events result,
        Attempting.Runs (StaticIps.applyAll ⟨"c"⟩ "token" ⟨0, 0⟩
          ([good] ++ Host.ofValue value :: [good])) events result ∧
        (∃ error, result = .error error) ∧
          ∃ reached, Attempting.Runs (StaticIps.applyAll ⟨"c"⟩ "token" ⟨0, 0⟩ [good]) events
            reached := by
  intro value good
  have hmalformed : ¬ HostShape value := hostSample_malformed (Nat.le_add_right ..)
  obtain ⟨hrefused, hbatch⟩ := malformed_refused hmalformed
  obtain ⟨events, result, hruns⟩ := Session.exists_runs
    (StaticIps.applyAll ⟨"c"⟩ "token" ⟨0, 0⟩ ([good] ++ Host.ofValue value :: [good])).run
  exact ⟨hmalformed, hrefused, events, result, hruns, hbatch hruns⟩

/-! ## Name servers -/

/-- A host whose one name server is a number is accepted, with an empty text in its place. -/
theorem Host.odd_dns_accepted :
    let value := hostSample [.ofNat 7] 24 []
    value.part? "dns" 4 = some (.array [.ofNat 7]) ∧
      (Host.ofValue value).validate = .ok () ∧ (Host.ofValue value).dns = [""] := by
  refine ⟨rfl, ?_, ?_⟩ <;> decide +kernel

end EdgeSetup
