import EdgeSetup.Dns.ClusterDomains
import EdgeSetup.Dns.Name
import EdgeSetup.Proofs.Text.Patterns

/-!
# Host names under a suffix

The host names of a cluster put one or two labels before its suffix
(`ClusterDomains.hosts_ofSuffix`). The pattern of domain names allows that
(`namePattern_prepend`), so such a name can only be too long (`isValidName_under`).
-/

namespace EdgeSetup.Dns

open Text

theorem isValidName_iff {name : String} :
    isValidName name = true ↔
      name.utf8ByteSize ≤ maxNameLength ∧ namePattern.Matches name.toList := by
  rw [isValidName, Bool.and_eq_true, decide_eq_true_iff, Pattern.matches?_iff]

/-- The pattern of names allows one more label in front. -/
theorem namePattern_prepend {label name : List Char}
    (hlabel : (labelPattern isLooseInner).Matches label) (h : namePattern.Matches name) :
    namePattern.Matches (label ++ '.' :: name) := by
  obtain ⟨earlier, rest, rfl, hearlier, hrest⟩ := Pattern.matches_seq.1 h
  have hdotted : Pattern.Matches (.seq (labelPattern isLooseInner) (.one (· == '.')))
      (label ++ ['.']) := .seq hlabel (.one rfl)
  have hall : namePattern.Matches (label ++ ['.'] ++ earlier ++ rest) :=
    .seq (.manyCons hdotted hearlier) hrest
  rwa [List.append_assoc, List.append_assoc] at hall

/-! ## Labels before a suffix -/

/-- The name under a suffix that begins with the labels. -/
def under (labels : List String) (suffix : String) : String :=
  labels.foldr (fun label name => label ++ "." ++ name) suffix

/-- The bytes that labels take before a suffix, dots included. -/
def labelBytes (labels : List String) : Nat :=
  labels.foldr (fun label bytes => label.utf8ByteSize + 1 + bytes) 0

variable {labels : List String} {suffix : String}

theorem utf8ByteSize_under :
    (under labels suffix).utf8ByteSize = labelBytes labels + suffix.utf8ByteSize := by
  induction labels with
  | nil => exact (Nat.zero_add _).symm
  | cons label labels ih =>
    simp only [under, labelBytes, List.foldr_cons, String.utf8ByteSize_append] at ih ⊢
    rw [ih, ← Nat.add_assoc]
    rfl

theorem namePattern_under
    (hlabels : ∀ label ∈ labels, (labelPattern isLooseInner).Matches label.toList)
    (h : namePattern.Matches suffix.toList) :
    namePattern.Matches (under labels suffix).toList := by
  induction labels with
  | nil => exact h
  | cons label labels ih =>
    have hrest := ih fun other hother => hlabels other (List.mem_cons_of_mem _ hother)
    have hall := namePattern_prepend (hlabels label (List.mem_cons_self ..)) hrest
    simpa [under] using hall

/-- A name under a valid suffix is valid unless it is too long. -/
theorem isValidName_under
    (hlabels : ∀ label ∈ labels, (labelPattern isLooseInner).Matches label.toList)
    (h : isValidName suffix = true) :
    isValidName (under labels suffix) = true ↔
      (under labels suffix).utf8ByteSize ≤ maxNameLength := by
  rw [isValidName_iff]
  exact and_iff_left (namePattern_under hlabels (isValidName_iff.1 h).2)

/-- A valid suffix with as many labels of one letter as wanted. -/
def deepSuffix (depth : Nat) : String := under (List.replicate depth "a") "b.io"

theorem isValidName_deepSuffix {depth : Nat} (h : 2 * depth + 4 ≤ maxNameLength) :
    isValidName (deepSuffix depth) = true := by
  have hbytes : labelBytes (List.replicate depth "a") = 2 * depth := by
    induction depth with
    | zero => rfl
    | succ depth ih =>
      rw [List.replicate_succ, labelBytes, List.foldr_cons, ← labelBytes, ih (by omega)]
      show 1 + 1 + 2 * depth = 2 * (depth + 1)
      omega
  refine (isValidName_under (fun label hlabel => ?_) (by decide +kernel)).2 ?_
  · rw [List.eq_of_mem_replicate hlabel]
    exact Pattern.matches?_iff.1 (by decide +kernel)
  · rw [utf8ByteSize_under, hbytes]
    exact h

/-! ## The host names of a cluster -/

namespace ClusterDomains

/-- The host names, the API's first. -/
def hosts (domains : ClusterDomains) : List String :=
  [domains.api, domains.ingress, domains.console, domains.oauth, domains.setupUi]

/-- The labels before the suffix in each of the host names. -/
def hostLabels : List (List String) :=
  [["api"], ["apps"], [consoleRoute, "apps"], [oauthRoute, "apps"], [setupUiRoute, "apps"]]

theorem hosts_ofSuffix (suffix : String) :
    (ofSuffix suffix).hosts = hostLabels.map (under · suffix) := by
  have hapi : "api." = "api" ++ "." := by decide
  have happs : "apps." = "apps" ++ "." := by decide
  simp only [hosts, ofSuffix, apiDomain, ingressDomain, routeHost, hapi, happs, hostLabels, under,
    List.map_cons, List.map_nil, List.foldr_cons, List.foldr_nil]

theorem hostLabels_pattern {labels : List String} (hlabels : labels ∈ hostLabels) :
    ∀ label ∈ labels, (labelPattern isLooseInner).Matches label.toList := by
  have hall : ∀ labels ∈ hostLabels, ∀ label ∈ labels,
      (labelPattern isLooseInner).matches? label.toList = true := by decide +kernel
  exact fun label hlabel => Pattern.matches?_iff.1 (hall labels hlabels label hlabel)

/-- The bytes before the suffix in the longest of the host names, the console's. -/
def longestStart : Nat := 31

theorem labelBytes_hostLabels :
    (∀ labels ∈ hostLabels, labelBytes labels ≤ longestStart) ∧
      ∃ labels ∈ hostLabels, labelBytes labels = longestStart := by
  decide +kernel

/-- The host names of a valid suffix are valid unless they are too long. -/
theorem isValidName_host (h : isValidName suffix = true) {host : String}
    (hhost : host ∈ (ofSuffix suffix).hosts) :
    isValidName host = true ↔ host.utf8ByteSize ≤ maxNameLength := by
  rw [hosts_ofSuffix] at hhost
  obtain ⟨labels, hlabels, rfl⟩ := List.mem_map.1 hhost
  exact isValidName_under (hostLabels_pattern hlabels) h

/-- The host names of a valid suffix are all valid when the console's is short enough. -/
theorem hosts_valid_iff (h : isValidName suffix = true) :
    (∀ host ∈ (ofSuffix suffix).hosts, isValidName host = true) ↔
      longestStart + suffix.utf8ByteSize ≤ maxNameLength := by
  obtain ⟨hbound, longest, hlongest, hbytes⟩ := labelBytes_hostLabels
  constructor
  · intro hvalid
    have hhost : under longest suffix ∈ (ofSuffix suffix).hosts := by
      rw [hosts_ofSuffix]
      exact List.mem_map_of_mem hlongest
    have hshort := (isValidName_host h hhost).1 (hvalid _ hhost)
    rwa [utf8ByteSize_under, hbytes] at hshort
  · intro hshort host hhost
    refine (isValidName_host h hhost).2 ?_
    rw [hosts_ofSuffix] at hhost
    obtain ⟨labels, hlabels, rfl⟩ := List.mem_map.1 hhost
    rw [utf8ByteSize_under]
    exact Nat.le_trans (Nat.add_le_add_right (hbound labels hlabels) _) hshort

end ClusterDomains

end EdgeSetup.Dns
