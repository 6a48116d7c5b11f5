import EdgeSetup.Proofs.Host.DesiredStates

/-!
# Names of existing policies

The name of an existing policy comes with the request. A host is not checked for it, and it is put
behind the path of the policies as it is. Nothing in it is escaped, so a name of several segments
makes a path of several segments.

**Main theorem (`Host.policyName_appended`)**: an accepted host stays accepted under any other name,
and it is patched at the URL of the policies, a slash and the name. That is one plain segment below
the policies exactly when the name is one.
-/

namespace EdgeSetup

open Json Http

/-- A text without a character that ends or divides a path, and that is not a segment of dots. -/
structure PlainSegment (text : String) : Prop where
  slash : '/' ∉ text.toList
  query : '?' ∉ text.toList
  fragment : '#' ∉ text.toList
  stays : text ≠ "."
  ascends : text ≠ ".."

namespace Host

variable {host : Host}

/-- What stands below the policies in the URL of a named policy is the name. -/
theorem url_policy_eq_iff {client : Client} {name part : String} :
    client.url (ResourceRef.cluster .nodePolicy name).path =
      client.url StaticIps.policies.path ++ "/" ++ part ↔ part = name := by
  have hpath : client.url (ResourceRef.cluster .nodePolicy name).path =
      client.url StaticIps.policies.path ++ "/" ++ name := by
    rw [ResourceRef.cluster_path, Client.url, ← String.append_assoc, ← String.append_assoc]
    rfl
  rw [hpath, String.append_right_inj]
  exact eq_comm

/-- **The name of a policy goes into the URL as it is.** A host is accepted whatever name it has,
and its patch is sent to the URL of the policies, a slash and the name. What follows the slash has
no slash, question mark or number sign and is not one or two dots exactly when this is so for the
name. -/
theorem policyName_appended {name : String} (accepted : host.validate = .ok ())
    (named : host.policyName = some name) (hname : name ≠ "") :
    (∀ other, ({ host with policyName := other } : Host).validate = .ok ()) ∧
      ∀ (client : Client) (token : String), ∃ sent, StaticIps.SendsFirst client token host sent ∧
        PatchesState sent (encode host.desiredState) ∧
        (∀ part, sent.url = client.url StaticIps.policies.path ++ "/" ++ part ↔ part = name) ∧
        ((∃ part, sent.url = client.url StaticIps.policies.path ++ "/" ++ part ∧
          PlainSegment part) ↔ PlainSegment name) := by
  have hhost : { host with policyName := some name } = host := named ▸ rfl
  refine ⟨fun other => accepted, fun client token => ?_⟩
  have hfirst : StaticIps.SendsFirst client token { host with policyName := some name } _ :=
    StaticIps.sendsFirst_patch accepted hname
  rw [hhost] at hfirst
  refine ⟨_, hfirst, patchRequest_patchesState client token name, ?_⟩
  rw [Client.patchRequest_url]
  refine ⟨fun part => url_policy_eq_iff, ?_⟩
  simp only [url_policy_eq_iff, exists_eq_left]

/-- A host with the name of an existing policy. -/
def withPolicy (name : String) : Host := { twoPorts with policyName := some name }

theorem policyName_appended_worker :
    (withPolicy "worker-1-policy").validate = .ok () ∧
      ∃ sent, StaticIps.SendsFirst ⟨"c"⟩ "token" (withPolicy "worker-1-policy") sent ∧
        sent.method = .patch ∧
        sent.url = "c/apis/nmstate.io/v1/nodenetworkconfigurationpolicies/worker-1-policy" ∧
        PlainSegment "worker-1-policy" := by
  have hvalid : (withPolicy "worker-1-policy").validate = .ok () := by decide +kernel
  have hpolicy : (withPolicy "worker-1-policy").policyName = some "worker-1-policy" := rfl
  have hplain : PlainSegment "worker-1-policy" := by
    constructor <;> decide +kernel
  obtain ⟨-, hsends⟩ := policyName_appended hvalid hpolicy (by decide)
  obtain ⟨sent, hfirst, hpatches, hurl, -⟩ := hsends ⟨"c"⟩ "token"
  exact ⟨hvalid, sent, hfirst, hpatches.method, (hurl _).2 rfl, hplain⟩

/-- A name that leads up to the API groups and down to the ingress configuration. -/
def ingressName : String := "../../../config.openshift.io/v1/ingresses/cluster"

/-- An accepted host with such a name is patched at a URL that goes on with more than one segment
below the policies. -/
theorem policyName_climbing :
    (withPolicy ingressName).validate = .ok () ∧
      (withPolicy ingressName).policyName = some ingressName ∧ ingressName ≠ "" ∧
      ∃ sent, StaticIps.SendsFirst ⟨"c"⟩ "token" (withPolicy ingressName) sent ∧
        sent.method = .patch ∧
        sent.url = "c/apis/nmstate.io/v1/nodenetworkconfigurationpolicies/" ++ ingressName ∧
        ¬ ∃ part, sent.url = Client.url ⟨"c"⟩ StaticIps.policies.path ++ "/" ++ part ∧
          PlainSegment part := by
  have hvalid : (withPolicy ingressName).validate = .ok () := by decide +kernel
  have hfirst : StaticIps.SendsFirst ⟨"c"⟩ "token" (withPolicy ingressName) _ :=
    StaticIps.sendsFirst_patch hvalid (by decide)
  refine ⟨hvalid, rfl, by decide, _, hfirst, Client.patchRequest_method .., ?_, ?_⟩
  · rw [Client.patchRequest_url]
    exact url_policy_eq_iff.2 rfl
  · rw [Client.patchRequest_url]
    rintro ⟨part, hpart, hplain⟩
    rw [url_policy_eq_iff] at hpart
    exact hplain.slash (hpart ▸ by decide +kernel)

end Host

end EdgeSetup
