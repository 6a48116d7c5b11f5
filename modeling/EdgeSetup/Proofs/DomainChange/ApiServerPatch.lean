import EdgeSetup.Proofs.DomainChange.Storage
import EdgeSetup.Proofs.Json.MergePatch

/-!
# The patch of the API server

A domain change points the API server at one certificate by a merge patch. The patch names a single
place, and its value there is an array, so what was at the place is replaced and never merged with.

**Main theorem (`apiServerPatch_exact`).** In a configuration whose sections are objects, the patch
changes the named certificates and nothing beside them, at any depth; a repetition changes nothing,
and of two domain changes the last one alone counts.
-/

namespace EdgeSetup

open Json

/-- The place of the named certificates in the API server's configuration. -/
def certificatesPlace : List String := ["spec", "servingCerts", "namedCertificates"]

/-- The entry of a certificate for one host. -/
def namedCertificate (host secret : String) : Value :=
  .object
    [ ("names", .array [.string host]),
      ("servingCertificate", .object [("name", .string secret)]) ]

theorem apiServerPatch_eq_wrap (apiDomain secret : String) :
    apiServerPatch apiDomain secret =
      wrap certificatesPlace (.array [namedCertificate apiDomain secret]) := rfl

/-- What the patch makes of a configuration. -/
structure PointsAtCertificate (document : Value) (apiDomain secret : String) (patched : Value) :
    Prop where
  single : namedCertificates? patched = some (.array [namedCertificate apiDomain secret])
  /-- Every member that does not lead to the certificates, at any depth, is what it was: none has
  come, none has gone, and none has changed. -/
  elsewhere : ∀ place, ¬ certificatesPlace <+: place → ¬ place <+: certificatesPlace →
    patched.at? place = document.at? place
  again : patched.merge (apiServerPatch apiDomain secret) = patched
  /-- After the patch of an earlier change it does what it does without it. -/
  last : ∀ earlierDomain earlierSecret,
    (document.merge (apiServerPatch earlierDomain earlierSecret)).merge
      (apiServerPatch apiDomain secret) = patched

section Sections

variable {members : List (String × Value)}

/-- A configuration whose sections are objects has no array above the certificates. -/
theorem noArrayAbove_certificates
    (hspec : ∀ spec, (Value.object members).at? ["spec"] = some spec →
      ∃ inner, spec = .object inner)
    (hcerts : ∀ certs, (Value.object members).at? ["spec", "servingCerts"] = some certs →
      ∃ inner, certs = .object inner) :
    (Value.object members).NoArrayAbove certificatesPlace := by
  intro above habove hne items hat
  rcases List.prefix_cons_iff.1 habove with rfl | ⟨inSpec, rfl, hinSpec⟩
  · cases hat
  rcases List.prefix_cons_iff.1 hinSpec with rfl | ⟨inCerts, rfl, hinCerts⟩
  · obtain ⟨inner, hinner⟩ := hspec _ hat
    cases hinner
  rcases List.prefix_cons_iff.1 hinCerts with rfl | ⟨rest, rfl, hrest⟩
  · obtain ⟨inner, hinner⟩ := hcerts _ hat
    cases hinner
  · rw [List.prefix_nil.1 hrest] at hne
    exact hne rfl

/-- **The patch replaces the named certificates and nothing else.** The request that a domain change
sends has just this effect. -/
theorem apiServerPatch_exact
    (hspec : ∀ spec, (Value.object members).at? ["spec"] = some spec →
      ∃ inner, spec = .object inner)
    (hcerts : ∀ certs, (Value.object members).at? ["spec", "servingCerts"] = some certs →
      ∃ inner, certs = .object inner)
    (apiDomain secret : String) :
    PointsAtCertificate (.object members) apiDomain secret
        ((Value.object members).merge (apiServerPatch apiDomain secret)) ∧
      ∀ (change : DomainChange) (token : String),
        patched? (change.apiServerWrite token (apiServerPatch apiDomain secret))
            (.object members) =
          some ((Value.object members).merge (apiServerPatch apiDomain secret)) := by
  refine ⟨?_, fun change token => patched?_apiServerWrite change token _ _⟩
  simp only [apiServerPatch_eq_wrap]
  constructor
  case single => exact Value.merge_wrap_at ..
  case elsewhere =>
    intro place hbelow habove
    exact Value.merge_wrap_elsewhere _ (noArrayAbove_certificates hspec hcerts) hbelow habove
  case again => exact Value.merge_wrap_again ..
  case last =>
    intro earlierDomain earlierSecret
    exact Value.merge_wrap_again ..

end Sections

/-- A configuration that names two certificates, with other members on every level. -/
def guardedApiServer : List (String × Value) :=
  [ ("metadata", .object [("name", .string "cluster")]),
    ("spec", .object
      [ ("audit", .object [("profile", .string "Default")]),
        ("servingCerts", .object
          [ ("namedCertificates", .array
              [namedCertificate "api.old.io" "old", namedCertificate "api.old.net" "older"]),
            ("note", .null) ]) ]) ]

/-- Both certificates make way for the new one, also after a change that came in between, and the
other members stay. -/
theorem apiServerPatch_exact_guarded :
    let document := Value.object guardedApiServer
    let patched := document.merge (apiServerPatch "api.new.io" "new")
    namedCertificates? patched = some (.array [namedCertificate "api.new.io" "new"]) ∧
      patched.at? ["spec", "audit", "profile"] = some (.string "Default") ∧
      patched.at? ["spec", "servingCerts", "note"] = some .null ∧
      (document.merge (apiServerPatch "api.mid.io" "mid")).merge
        (apiServerPatch "api.new.io" "new") = patched := by
  obtain ⟨hpoints, -⟩ := @apiServerPatch_exact guardedApiServer
    (fun spec h => ⟨_, (Option.some.inj h).symm⟩) (fun certs h => ⟨_, (Option.some.inj h).symm⟩)
    "api.new.io" "new"
  refine ⟨hpoints.single, (hpoints.elsewhere _ ?_ ?_).trans rfl,
    (hpoints.elsewhere _ ?_ ?_).trans rfl, hpoints.last "api.mid.io" "mid"⟩
  all_goals decide

end EdgeSetup
