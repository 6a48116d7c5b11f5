import EdgeSetup.Health.Probe
import EdgeSetup.Proofs.Dns.HostNames
import EdgeSetup.Proofs.Text.Pieces
import EdgeSetup.Proofs.Text.Replacements

/-!
# The OAuth host beside the setup UI

The OAuth server of a cluster has a host name of its own (`ClusterDomains.oauth`), and the probes
derive its endpoints from the URL of the setup UI, by putting one route name in place of the other.

**The two agree** (`OAuthEndpoints.ofFrontendUrl_setupUi_iff`) exactly when the name of the setup
UI's route does not occur in the suffix: what occurs there is replaced as well
(`OAuthEndpoints.ofFrontendUrl_setupUi`).
-/

namespace EdgeSetup

open Text

/-! ## Suffixes -/

namespace Dns

variable {suffix : String}

/-- There is no slash in a domain name. -/
theorem slash_not_mem (h : isValidName suffix = true) : '/' ∉ suffix.toList :=
  (isValidName_iff.1 h).2.not_mem (by decide)

theorem ne_nil_of_isValidName (h : isValidName suffix = true) : suffix.toList ≠ [] := by
  intro hnil
  have hmatches := (isValidName_iff.1 h).2
  rw [hnil, ← Pattern.acceptsEmpty_iff] at hmatches
  exact absurd hmatches (by decide)

end Dns

namespace OAuthEndpoints

/-- The endpoints of the OAuth server of a host. -/
def ofHost (host : String) : OAuthEndpoints :=
  ⟨"https://" ++ host ++ "/oauth/authorize", "https://" ++ host ++ "/oauth/token"⟩

theorem ofHost_inj {host other : String} : ofHost host = ofHost other ↔ host = other := by
  constructor
  · intro h
    have htoken : "https://" ++ host ++ "/oauth/token" = "https://" ++ other ++ "/oauth/token" :=
      congrArg token h
    exact (String.append_right_inj _).1 ((String.append_left_inj _).1 htoken)
  · rintro rfl
    rfl

/-- The URL of the setup UI under a suffix, with some slashes at its end. -/
def setupUiUrl (suffix : String) (slashes : Nat) : String :=
  "https://" ++ (Dns.ClusterDomains.ofSuffix suffix).setupUi ++
    String.ofList (List.replicate slashes '/')

/-- The suffix with the route of the OAuth server in place of that of the setup UI. -/
def oauthSuffix (suffix : String) : String :=
  String.ofList (replaceAll Dns.setupUiRoute.toList Dns.oauthRoute.toList suffix.toList)

variable {suffix : String}

theorem toList_oauthSuffix : (oauthSuffix suffix).toList =
    replaceAll Dns.setupUiRoute.toList Dns.oauthRoute.toList suffix.toList :=
  String.toList_ofList

/-- **The derived endpoints** are those of the OAuth server under a suffix in which the route was
replaced, too. -/
theorem ofFrontendUrl_setupUi (hvalid : Dns.isValidName suffix = true) (slashes : Nat) :
    ofFrontendUrl (setupUiUrl suffix slashes) =
      ofHost (Dns.ClusterDomains.ofSuffix (oauthSuffix suffix)).oauth := by
  have hurl : (setupUiUrl suffix slashes).toList =
      "https://".toList ++ (Dns.setupUiRoute.toList ++ (".apps.".toList ++ suffix.toList)) ++
        List.replicate slashes '/' := by
    simp [setupUiUrl, Dns.ClusterDomains.ofSuffix, Dns.routeHost, Dns.ingressDomain]
  have hroute : Dns.setupUiRoute.toList ≠ [] := by decide
  have hnonempty : suffix.toList ≠ [] := Dns.ne_nil_of_isValidName hvalid
  have htrim : trimEndWhile (· == '/') (setupUiUrl suffix slashes).toList =
      "https://".toList ++ (Dns.setupUiRoute.toList ++ (".apps.".toList ++ suffix.toList)) := by
    rw [hurl]
    refine trimEndWhile_append (fun c hc => ?_) (fun c hc => ?_)
    · simp [List.eq_of_mem_replicate hc]
    · rw [← List.append_assoc, ← List.append_assoc, List.getLast?_append,
        Option.or_of_isSome (List.getLast?_isSome.2 hnonempty)] at hc
      have hmem : c ∈ suffix.toList := List.mem_of_getLast? hc
      simpa using fun heq : c = '/' => Dns.slash_not_mem hvalid (heq ▸ hmem)
  have hreplaced : replaceAll Dns.setupUiRoute.toList Dns.oauthRoute.toList
      ("https://".toList ++ (Dns.setupUiRoute.toList ++ (".apps.".toList ++ suffix.toList))) =
        "https://".toList ++ (Dns.oauthRoute.toList ++ (".apps.".toList ++
          (oauthSuffix suffix).toList)) := by
    have hskip {start rest : List Char} (h : 'e' ∉ start) :
        replaceAll Dns.setupUiRoute.toList Dns.oauthRoute.toList (start ++ rest) =
          start ++ replaceAll Dns.setupUiRoute.toList Dns.oauthRoute.toList rest :=
      replaceAll_skip "dge-cluster-setup".toList h
    rw [hskip (by decide), replaceAll_append hroute, hskip (by decide), toList_oauthSuffix]
  have hserver : String.ofList ("https://".toList ++ (Dns.oauthRoute.toList ++ (".apps.".toList ++
      (oauthSuffix suffix).toList))) =
        "https://" ++ (Dns.ClusterDomains.ofSuffix (oauthSuffix suffix)).oauth := by
    rw [← String.toList_inj, String.toList_ofList]
    simp [Dns.ClusterDomains.ofSuffix, Dns.routeHost, Dns.ingressDomain]
  simp only [ofFrontendUrl]
  rw [htrim, hreplaced, hserver]
  rfl

/-- **The two derivations of the OAuth host agree** exactly when the route of the setup UI does not
occur in the suffix. -/
theorem ofFrontendUrl_setupUi_iff (hvalid : Dns.isValidName suffix = true) (slashes : Nat) :
    ofFrontendUrl (setupUiUrl suffix slashes) =
        ofHost (Dns.ClusterDomains.ofSuffix suffix).oauth ↔
      ¬ Dns.setupUiRoute.toList <:+: suffix.toList := by
  have hshort : Dns.oauthRoute.toList.length < Dns.setupUiRoute.toList.length := by decide
  rw [ofFrontendUrl_setupUi hvalid, ofHost_inj, ← replaceAll_eq_self_iff hshort,
    ← toList_oauthSuffix, String.toList_inj]
  simp only [Dns.ClusterDomains.ofSuffix, Dns.routeHost, Dns.ingressDomain,
    String.append_right_inj]

/-- A suffix that does not hold the route's name, with two slashes after the URL. -/
theorem ofFrontendUrl_setupUi_plain :
    Dns.isValidName "edge.example.com" = true ∧
      ¬ Dns.setupUiRoute.toList <:+: "edge.example.com".toList ∧
      ofFrontendUrl (setupUiUrl "edge.example.com" 2) =
        ofHost (Dns.ClusterDomains.ofSuffix "edge.example.com").oauth := by
  have hvalid : Dns.isValidName "edge.example.com" = true := by decide +kernel
  have hplain : ¬ Dns.setupUiRoute.toList <:+: "edge.example.com".toList := by decide +kernel
  exact ⟨hvalid, hplain, (ofFrontendUrl_setupUi_iff hvalid 2).2 hplain⟩

/-- A suffix that holds the route's name: the derived host is under another suffix. -/
theorem ofFrontendUrl_setupUi_repeated :
    Dns.isValidName "edge-cluster-setup.io" = true ∧
      ofFrontendUrl (setupUiUrl "edge-cluster-setup.io" 0) =
        ofHost "oauth-openshift.apps.oauth-openshift.io" ∧
      ofFrontendUrl (setupUiUrl "edge-cluster-setup.io" 0) ≠
        ofHost (Dns.ClusterDomains.ofSuffix "edge-cluster-setup.io").oauth := by
  decide +kernel

end OAuthEndpoints

end EdgeSetup
