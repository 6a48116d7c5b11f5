import EdgeSetup.Proofs.Cluster.Scripts
import EdgeSetup.Proofs.DomainChange.Steps
import EdgeSetup.Proofs.Json.Evaluation
import EdgeSetup.Proofs.Json.Patches

/-!
# The deployment of the setup UI

A refresh rewrites the whole array of containers to change two values in it, in a document whose
shape nothing has checked. What it may change is stated by places: the variables are set in the
first entry of each name and every other place is as it was (`SetsVariables`), and likewise for the
member of the first container (`SetsMember`).

**No panic.** A member of an entry is assigned by index, which panics on anything but an object or
null (`Value.assign?`). An entry that has a name is an object, so it never does
(`assignVariables?_eq_some`).

**Same again.** What was written is there to read after the patch was applied, and writing the
variables again changes nothing (`SetsVariables.again`).

Main theorem: `DomainChange.updateDeployment_rewrites`, for every document that the cluster may
answer with.
-/

namespace EdgeSetup

open Json Http

/-! ## Members -/

/-- Assigns a member by index: null becomes an object first, and any other value panics. -/
def Json.Value.assign? (value : Value) (key : String) (item : Value) : Option Value :=
  match value with
  | .object members => some (.object (Members.insert key item members))
  | .null => some (.object [(key, item)])
  | _ => none

/-- An object in which one member was set, and all others are as they were. -/
structure SetsMember (key : String) (item before after : Value) : Prop where
  objects : ∃ members, before = .object members ∧ after = .object (Members.insert key item members)
  set : after.get? key = some item
  kept : ∀ other, other ≠ key → after.get? other = before.get? other

theorem setsMember_insert (key : String) (item : Value) (members : List (String × Value)) :
    SetsMember key item (.object members) (.object (Members.insert key item members)) where
  objects := ⟨members, rfl, rfl⟩
  set := Members.get?_insert_self key item members
  kept _ hne := Members.get?_insert_of_ne hne item members

/-- Setting a member to what it is changes nothing. -/
theorem SetsMember.again {key : String} {item a b c : Value} (first : SetsMember key item a b)
    (second : SetsMember key item b c) : c = b := by
  obtain ⟨members, rfl, rfl⟩ := first.objects
  obtain ⟨_, ⟨⟩, rfl⟩ := second.objects
  rw [Members.insert_insert]

/-! ## One variable -/

theorem exists_object_of_isNamed {name : String} {entry : Value} (h : isNamed name entry = true) :
    ∃ members, entry = .object members := by
  cases entry with
  | object members => exact ⟨members, rfl⟩
  | _ => simp [isNamed, Value.get?] at h

/-- An entry has at most one name. -/
theorem eq_of_isNamed {name other : String} {entry : Value} (h : isNamed name entry = true)
    (hother : isNamed other entry = true) : name = other := by
  rw [isNamed, beq_iff_eq] at h hother
  exact Option.some.inj (h.symm.trans hother)

@[simp] theorem isNamed_withValue (name value : String) (entry : Value) :
    isNamed name (withValue value entry) = isNamed name entry := by
  cases entry with
  | object members =>
    have hkey : ("name" : String) ≠ "value" := by decide
    rw [isNamed, isNamed, withValue, Value.get?, Value.get?, Members.get?_insert_of_ne hkey]
  | _ => rfl

/-- An entry that has a name gets its value as a member. -/
theorem setsMember_withValue {name : String} {entry : Value} (h : isNamed name entry = true)
    (value : String) : SetsMember "value" (.string value) entry (withValue value entry) := by
  obtain ⟨members, rfl⟩ := exists_object_of_isNamed h
  exact setsMember_insert "value" (.string value) members

section

variable (name value : String)

@[simp] theorem length_setVariable (entries : List Value) :
    (setVariable name value entries).length = entries.length := by
  induction entries with
  | nil => rfl
  | cons entry entries ih =>
    rw [setVariable]
    split <;> simp [ih]

/-- Setting a variable leaves the names of all entries. -/
@[simp] theorem findIdx?_setVariable (other : String) (entries : List Value) :
    (setVariable name value entries).findIdx? (isNamed other) =
      entries.findIdx? (isNamed other) := by
  induction entries with
  | nil => rfl
  | cons entry entries ih =>
    rw [setVariable]
    split <;> simp [List.findIdx?_cons, ih]

/-- Only the first entry of the name is changed. -/
theorem getElem?_setVariable (entries : List Value) (i : Nat) :
    (setVariable name value entries)[i]? =
      if entries.findIdx? (isNamed name) = some i then entries[i]?.map (withValue value)
      else entries[i]? := by
  induction entries generalizing i with
  | nil => rfl
  | cons entry entries ih =>
    rw [setVariable, List.findIdx?_cons]
    by_cases hname : isNamed name entry = true
    · cases i <;> simp [hname]
    · cases i <;> simp [hname, ih]

end

/-- The first entry of a name is there, and has it. -/
theorem exists_of_findIdx? {name : String} {entries : List Value} {i : Nat}
    (h : entries.findIdx? (isNamed name) = some i) :
    ∃ entry, entries[i]? = some entry ∧ isNamed name entry = true := by
  obtain ⟨hlt, hname, -⟩ := List.findIdx?_eq_some_iff_getElem.1 h
  exact ⟨entries[i], List.getElem?_eq_getElem hlt, hname⟩

/-- First entries of two names are at two places. -/
theorem findIdx?_ne_of_ne {name other : String} (hne : name ≠ other) {entries : List Value}
    {i : Nat} (h : entries.findIdx? (isNamed name) = some i) :
    entries.findIdx? (isNamed other) ≠ some i := by
  intro hother
  obtain ⟨entry, hentry, hname⟩ := exists_of_findIdx? h
  obtain ⟨entry', hentry', hname'⟩ := exists_of_findIdx? hother
  obtain rfl := Option.some.inj (hentry.symm.trans hentry')
  exact hne (eq_of_isNamed hname hname')

/-! ## All variables -/

/-- Sets variables one after the other. -/
def setVariables (vars : List (String × String)) (entries : List Value) : List Value :=
  vars.foldl (fun entries var => setVariable var.1 var.2 entries) entries

/-- Sets a variable by assigning the value of the first entry of its name by index; `none` when
that panics. -/
def assignVariable? (name value : String) : List Value → Option (List Value)
  | [] => some []
  | entry :: entries =>
    if isNamed name entry then (entry.assign? "value" (.string value)).map (· :: entries)
    else (assignVariable? name value entries).map (entry :: ·)

/-- Sets variables one after the other by index; `none` when one of them panics. -/
def assignVariables? (vars : List (String × String)) (entries : List Value) :
    Option (List Value) :=
  vars.foldlM (fun entries var => assignVariable? var.1 var.2 entries) entries

theorem assignVariable?_eq_some (name value : String) (entries : List Value) :
    assignVariable? name value entries = some (setVariable name value entries) := by
  induction entries with
  | nil => rfl
  | cons entry entries ih =>
    rw [assignVariable?, setVariable]
    by_cases hname : isNamed name entry = true
    · obtain ⟨members, rfl⟩ := exists_object_of_isNamed hname
      simp [hname, Value.assign?, withValue]
    · simp [hname, ih]

/-- Assignment by index never panics, whatever the entries are. -/
theorem assignVariables?_eq_some (vars : List (String × String)) (entries : List Value) :
    assignVariables? vars entries = some (setVariables vars entries) := by
  induction vars generalizing entries with
  | nil => rfl
  | cons var vars ih =>
    rw [assignVariables?, List.foldlM_cons, assignVariable?_eq_some]
    exact ih (setVariable var.1 var.2 entries)

/-- Entries in which variables were set: each in the first entry of its name, if there is one, and
in no other. -/
structure SetsVariables (vars : List (String × String)) (before after : List Value) :
    Prop where
  length : after.length = before.length
  names : ∀ name, after.findIdx? (isNamed name) = before.findIdx? (isNamed name)
  set : ∀ var ∈ vars, ∀ i, before.findIdx? (isNamed var.1) = some i →
    ∃ entry next, before[i]? = some entry ∧ after[i]? = some next ∧
      SetsMember "value" (.string var.2) entry next
  kept : ∀ i, (∀ var ∈ vars, before.findIdx? (isNamed var.1) ≠ some i) →
    after[i]? = before[i]?

/-- Variables of different names are all set. -/
theorem setsVariables_setVariables {vars : List (String × String)}
    (hdistinct : (vars.map Prod.fst).Nodup) (entries : List Value) :
    SetsVariables vars entries (setVariables vars entries) := by
  induction vars generalizing entries with
  | nil => exact ⟨rfl, fun _ => rfl, nofun, fun _ _ => rfl⟩
  | cons var vars ih =>
    obtain ⟨name, value⟩ := var
    obtain ⟨hfresh, hdistinct⟩ := List.nodup_cons.1 hdistinct
    have hne : ∀ later ∈ vars, later.1 ≠ name :=
      fun later hlater heq => hfresh (List.mem_map.2 ⟨later, hlater, heq⟩)
    have hrest := ih hdistinct (setVariable name value entries)
    refine ⟨?_, fun other => ?_, fun var hvariable i hi => ?_, fun i hi => ?_⟩
    · exact hrest.length.trans (length_setVariable name value entries)
    · exact (hrest.names other).trans (findIdx?_setVariable name value other entries)
    · rcases List.mem_cons.1 hvariable with rfl | hlater
      · -- later variables have other names, so they leave the entry of this one
        have hkept := hrest.kept i fun later hlater => by
          rw [findIdx?_setVariable]
          exact findIdx?_ne_of_ne (hne later hlater).symm hi
        obtain ⟨entry, hentry, hname⟩ := exists_of_findIdx? hi
        refine ⟨entry, withValue value entry, hentry, ?_, setsMember_withValue hname value⟩
        refine hkept.trans ?_
        rw [getElem?_setVariable, if_pos hi, hentry, Option.map_some]
      · obtain ⟨entry, next, hentry, hnext, hset⟩ := hrest.set var hlater i
          ((findIdx?_setVariable name value var.1 entries).trans hi)
        refine ⟨entry, next, ?_, hnext, hset⟩
        rwa [getElem?_setVariable, if_neg (findIdx?_ne_of_ne (hne var hlater) hi)] at hentry
    · have hkept := hrest.kept i fun later hlater => by
        rw [findIdx?_setVariable]
        exact hi later (List.mem_cons_of_mem _ hlater)
      refine hkept.trans ?_
      rw [getElem?_setVariable, if_neg (hi (name, value) List.mem_cons_self)]

/-- Setting the same variables again changes nothing. -/
theorem SetsVariables.again {vars : List (String × String)} {a b c : List Value}
    (first : SetsVariables vars a b) (second : SetsVariables vars b c) : c = b := by
  refine List.ext_getElem? fun i => ?_
  by_cases h : ∃ var ∈ vars, b.findIdx? (isNamed var.1) = some i
  · obtain ⟨var, hvariable, hi⟩ := h
    obtain ⟨entry, next, -, hnext, hset⟩ :=
      first.set var hvariable i ((first.names var.1).symm.trans hi)
    obtain ⟨entry', next', hentry', hnext', hset'⟩ := second.set var hvariable i hi
    obtain rfl := Option.some.inj (hnext.symm.trans hentry')
    rw [hnext, hnext', hset.again hset']
  · exact second.kept i fun var hvariable hi => h ⟨var, hvariable, hi⟩

/-! ## The containers -/

/-- The variables of the setup UI under a host. -/
def setupUiVariables (host : String) : List (String × String) :=
  [("FRONTEND_URL", frontendUrl host), ("OAUTH2_REDIRECT_URL", redirectUri host)]

/-- A deployment that lists containers, the first of which has an environment. -/
structure HasEnvironment (deployment first : Value) (others entries : List Value) : Prop where
  containers : deployment.at? containersPlace = some (.array (first :: others))
  environment : first.get? "env" = some (.array entries)

/-- How the first container and its environment become another container and environment that
point at a host. -/
structure PointsAt (host : String) (first : Value) (entries : List Value) (container : Value)
    (environment : List Value) : Prop where
  assigned : assignVariables? (setupUiVariables host) entries = some environment
  set : SetsVariables (setupUiVariables host) entries environment
  container : SetsMember "env" (.array environment) first container

theorem setsVariables_setupUi (host : String) (entries : List Value) :
    SetsVariables (setupUiVariables host) entries (setupUiEnvironment host entries) :=
  have hdistinct : ((setupUiVariables host).map Prod.fst).Nodup :=
    show ["FRONTEND_URL", "OAUTH2_REDIRECT_URL"].Nodup by decide
  setsVariables_setVariables hdistinct entries

theorem containers?_eq_some {deployment containers : Value} :
    containers? deployment = some containers ↔
      ∃ items, containers = .array items ∧
        deployment.at? containersPlace = some (.array items) := by
  rw [containers?, Option.filter_eq_some_iff]
  constructor
  · rintro ⟨hat, harray⟩
    cases containers with
    | array items => exact ⟨items, rfl, hat⟩
    | _ => cases harray
  · rintro ⟨items, rfl, hat⟩
    exact ⟨hat, rfl⟩

theorem index?_zero : Pointer.index? "0" = some 0 := by decide +kernel

/-- The environment of the first container is its member. -/
theorem at?_environment (first : Value) (others : List Value) :
    (Value.array (first :: others)).at? ["0", "env"] = first.child? "env" := by
  rw [Value.at?, Value.child?, index?_zero]
  exact Option.bind_fun_some _

/-- The containers of a deployment that has an environment, refreshed. -/
theorem refreshContainers?_object {members : List (String × Value)} {entries : List Value}
    (h : Members.get? members "env" = some (.array entries)) (host : String)
    (others : List Value) :
    refreshContainers? host (.array (.object members :: others)) =
      some (.array (.object (Members.insert "env" (.array (setupUiEnvironment host entries))
        members) :: others)) := by
  simp [refreshContainers?, Value.updateAt?, Value.updateChild?, index?_zero, h, Value.items?]

/-- Where a deployment has an environment, its containers are refreshed. -/
theorem HasEnvironment.refreshes {deployment first : Value} {others entries : List Value}
    (h : HasEnvironment deployment first others entries) (host : String) :
    ∃ container environment, PointsAt host first entries container environment ∧
      (containers? deployment).bind (refreshContainers? host) =
        some (.array (container :: others)) := by
  cases first with
  | object members =>
    refine ⟨_, _, ⟨assignVariables?_eq_some _ entries, setsVariables_setupUi host entries,
      setsMember_insert "env" _ members⟩, ?_⟩
    rw [containers?_eq_some.2 ⟨_, rfl, h.containers⟩, Option.bind_some]
    exact refreshContainers?_object h.environment host others
  | _ => cases h.environment

/-- Where the containers of a deployment are refreshed, it has an environment. -/
theorem hasEnvironment_of_refreshes {host : String} {deployment refreshed : Value}
    (h : (containers? deployment).bind (refreshContainers? host) = some refreshed) :
    ∃ first others entries, HasEnvironment deployment first others entries := by
  obtain ⟨_, hcontainers, hrefresh⟩ := Option.bind_eq_some_iff.1 h
  obtain ⟨containers, rfl, hat⟩ := containers?_eq_some.1 hcontainers
  obtain ⟨environment, _, hplace, hitems⟩ := Value.exists_at?_of_updateAt? hrefresh
  cases containers with
  | nil => simp [Value.at?, Value.child?, index?_zero] at hplace
  | cons first others =>
    rw [at?_environment] at hplace
    cases environment with
    | array entries =>
      refine ⟨first, others, entries, hat, ?_⟩
      cases first with
      | object members => exact hplace
      | array items =>
        have hindex : Pointer.index? "env" = none := by decide +kernel
        simp [Value.child?, hindex] at hplace
      | _ => cases hplace
    | _ => cases hitems

/-! ## The refresh -/

namespace DomainChange

variable {change : DomainChange} {token host : String} {events : List Event}

/-- The patch that replaces the containers of a deployment. -/
def containersPatch (containers : List Value) : List PatchOp :=
  [{ op := .replace, path := containersPath, value := .array containers }]

/-- The path of the deployment of the setup UI. -/
def deploymentPath (change : DomainChange) : String :=
  "/apis/apps/v1/namespaces/" ++ change.setupUi.inNamespace ++ "/deployments/" ++
    change.setupUi.deployment

/-- The patch of the containers goes to the deployment of the setup UI. -/
theorem deploymentWrite_patches (change : DomainChange) (token : String)
    (containers : List Value) :
    change.client.Patches change.deploymentPath
      [⟨.replace, "/spec/template/spec/containers", .array containers⟩]
      (change.deploymentWrite token (containersPatch containers)) := by
  have hpatches := change.client.patchRequest_patches token change.deploymentRef
    (containersPatch containers)
  rwa [deploymentRef, ResourceRef.deployment_path] at hpatches

/-- What a refresh of the setup UI's deployment does once it has read the deployment. -/
inductive RewritesDeployment (change : DomainChange) (token host : String) (deployment : Value) :
    List Event → Prop where
  /-- There is no environment to refresh, and nothing is sent. -/
  | unfit (missing : ∀ first others entries, ¬ HasEnvironment deployment first others entries) :
      RewritesDeployment change token host deployment []
  /-- The containers are replaced by the same ones except for two values; the patch applies, and
  a refresh of the patched deployment writes the same containers. -/
  | rewritten {first container patched : Value} {others entries environment : List Value}
      {written : Outcome} (fits : HasEnvironment deployment first others entries)
      (points : PointsAt host first entries container environment)
      (patches : change.client.Patches change.deploymentPath
        [⟨.replace, "/spec/template/spec/containers", .array (container :: others)⟩]
        (change.deploymentWrite token (containersPatch (container :: others))))
      (applies : PatchOp.applyAll? (containersPatch (container :: others)) deployment =
        some patched)
      (again : ∀ {token' : String} {outcome : Outcome} {rest : List Event}
        {result : Except SetupError Unit},
        Attempting.Runs (change.updateDeployment token' host)
          (.called (change.deploymentRead token') outcome :: rest) result →
        Reads outcome patched →
        ∃ written', rest =
          [.called (change.deploymentWrite token' (containersPatch (container :: others)))
            written']) :
      RewritesDeployment change token host deployment
        [.called (change.deploymentWrite token (containersPatch (container :: others))) written]

/-- Whatever the read of the deployment is answered with, the refresh goes on to an end. -/
theorem updateDeployment_ends (change : DomainChange) (token host : String) (outcome : Outcome) :
    ∃ rest result, Attempting.Runs (change.updateDeployment token host)
      (.called (change.deploymentRead token) outcome :: rest) result :=
  Session.exists_runs_send rfl outcome

/-- A refresh reads the deployment first. -/
theorem UpdatesDeployment.starts {result : Except SetupError Unit}
    (h : UpdatesDeployment change token host events result) :
    ∃ outcome rest, events = .called (change.deploymentRead token) outcome :: rest := by
  cases h with
  | unread _ => exact ⟨_, [], rfl⟩
  | unfit _ _ => exact ⟨_, [], rfl⟩
  | patched _ _ _ => exact ⟨_, _, rfl⟩

theorem UpdatesDeployment.unread_unsent {result : Except SetupError Unit} {outcome : Outcome}
    (h : UpdatesDeployment change token host
      (.called (change.deploymentRead token) outcome :: events) result)
    (hunread : ∀ deployment : Value, ¬ Reads outcome deployment) : events = [] := by
  cases h with
  | unread _ => rfl
  | unfit _ _ => rfl
  | patched reads _ _ => exact absurd reads (hunread _)

/-- A refresh that reads a deployment with an environment replaces the containers by ones that
point at the host. -/
theorem UpdatesDeployment.patch {result : Except SetupError Unit} {outcome : Outcome}
    {deployment first : Value} {others entries : List Value}
    (h : UpdatesDeployment change token host
      (.called (change.deploymentRead token) outcome :: events) result)
    (hreads : Reads outcome deployment) (hfits : HasEnvironment deployment first others entries) :
    ∃ container environment written, PointsAt host first entries container environment ∧
      events = [.called (change.deploymentWrite token (containersPatch (container :: others)))
        written] := by
  obtain ⟨container, environment, hpoints, hrefreshed⟩ := hfits.refreshes host
  cases h with
  | unread unreadable => exact absurd hreads (unreadable deployment)
  | unfit reads nothing =>
    rw [reads.unique hreads, hrefreshed] at nothing
    cases nothing
  | patched reads fits _ =>
    rw [reads.unique hreads, hrefreshed] at fits
    cases fits
    exact ⟨container, environment, _, hpoints, rfl⟩

/-- A refresh that reads a deployment without an environment sends nothing more. -/
theorem UpdatesDeployment.unsent {result : Except SetupError Unit} {outcome : Outcome}
    {deployment : Value}
    (h : UpdatesDeployment change token host
      (.called (change.deploymentRead token) outcome :: events) result)
    (hreads : Reads outcome deployment)
    (hmissing : ∀ first others entries, ¬ HasEnvironment deployment first others entries) :
    events = [] := by
  cases h with
  | unread _ => rfl
  | unfit _ _ => rfl
  | patched reads fits _ =>
    rw [reads.unique hreads] at fits
    obtain ⟨first, others, entries, hfits⟩ := hasEnvironment_of_refreshes fits
    exact absurd hfits (hmissing first others entries)

end DomainChange

/-- A container that points at a host already is not changed by pointing it there again. -/
theorem PointsAt.again {host : String} {a b c : Value}
    {entries environment environment' : List Value} (first : PointsAt host a entries b environment)
    (second : PointsAt host b environment c environment') : c = b := by
  obtain rfl := first.set.again second.set
  exact first.container.again second.container

namespace DomainChange

variable {change : DomainChange} {token host : String} {events : List Event}

/-- The patch of a deployment applies to it, and what is then read has the new containers. -/
theorem containersPatch_applies {deployment first container : Value}
    {others entries environment : List Value}
    (hfits : HasEnvironment deployment first others entries)
    (hpoints : PointsAt host first entries container environment) :
    ∃ patched, PatchOp.applyAll? (containersPatch (container :: others)) deployment =
        some patched ∧ HasEnvironment patched container others environment := by
  have hpath : Pointer.parse? containersPath = some containersPlace := by decide +kernel
  obtain ⟨patched, hpatched, hat⟩ :=
    PatchOp.replace_applyTo?_of_at? (.array (container :: others)) hpath hfits.containers
  refine ⟨patched, ?_, hat, hpoints.container.set⟩
  rw [containersPatch, PatchOp.applyAll?, List.foldlM_cons, hpatched]
  rfl

/-- **A refresh of the deployment changes two values and nothing else.** Whatever the read is
answered with, the refresh goes on to an end; it sends nothing where no deployment could be read,
and rewrites the one that it read. -/
theorem updateDeployment_rewrites (change : DomainChange) (token host : String) :
    (∀ outcome, ∃ rest result, Attempting.Runs (change.updateDeployment token host)
      (.called (change.deploymentRead token) outcome :: rest) result) ∧
    ∀ {events : List Event} {result : Except SetupError Unit},
      Attempting.Runs (change.updateDeployment token host) events result →
      ∃ outcome rest, events = .called (change.deploymentRead token) outcome :: rest ∧
        ((∀ deployment : Value, ¬ Reads outcome deployment) → rest = []) ∧
        ∀ deployment : Value, Reads outcome deployment →
          RewritesDeployment change token host deployment rest := by
  refine ⟨updateDeployment_ends change token host, fun {events result} hruns => ?_⟩
  have hupdates := updateDeployment_runs hruns
  obtain ⟨outcome, rest, rfl⟩ := hupdates.starts
  refine ⟨outcome, rest, rfl, hupdates.unread_unsent, fun deployment hreads => ?_⟩
  by_cases hfits : ∃ first others entries, HasEnvironment deployment first others entries
  · obtain ⟨first, others, entries, hfits⟩ := hfits
    obtain ⟨container, environment, written, hpoints, rfl⟩ := hupdates.patch hreads hfits
    obtain ⟨patched, hpatched, hfits'⟩ := containersPatch_applies hfits hpoints
    have hpatches := change.deploymentWrite_patches token (container :: others)
    refine .rewritten hfits hpoints hpatches hpatched fun {_ _ _ _} hagain hreads' => ?_
    obtain ⟨container', environment', written', hpoints', rfl⟩ :=
      (updateDeployment_runs hagain).patch hreads' hfits'
    exact ⟨written', by rw [hpoints.again hpoints']⟩
  · have hmissing : ∀ first others entries, ¬ HasEnvironment deployment first others entries :=
      fun first others entries h => hfits ⟨first, others, entries, h⟩
    obtain rfl := hupdates.unsent hreads hmissing
    exact .unfit hmissing

/-- Two containers. The first has both variables, one of them twice, and the second has one that is
not to be touched. -/
def twoContainers : List Value :=
  [ .object
      [ ("env", .array
          [ .object [("name", .string "FRONTEND_URL"), ("value", .string "https://old.io")],
            .object [("name", .string "OAUTH2_REDIRECT_URL")],
            .object [("name", .string "FRONTEND_URL"), ("value", .string "https://old.io")] ]),
        ("image", .string "ui") ],
    wrap ["env"] (.array [.object [("name", .string "FRONTEND_URL")]]) ]

/-- The same containers under the host `new.io`. -/
def twoContainersRefreshed : List Value :=
  [ .object
      [ ("env", .array
          [ .object [("name", .string "FRONTEND_URL"), ("value", .string "https://new.io")],
            .object
              [ ("name", .string "OAUTH2_REDIRECT_URL"),
                ("value", .string "https://new.io/login/callback") ],
            .object [("name", .string "FRONTEND_URL"), ("value", .string "https://old.io")] ]),
        ("image", .string "ui") ],
    wrap ["env"] (.array [.object [("name", .string "FRONTEND_URL")]]) ]

theorem updateDeployment_rewrites_twoContainers :
    ∃ outcome written, Reads outcome (wrap containersPlace (.array twoContainers)) ∧
      RewritesDeployment sample "token" "new.io" (wrap containersPlace (.array twoContainers))
        [.called (sample.deploymentWrite "token" (containersPatch twoContainersRefreshed))
          written] := by
  have hread : Reads (.ok ⟨200, [], (wrap containersPlace (.array twoContainers)).render⟩)
      (wrap containersPlace (.array twoContainers)) := by
    refine ⟨_, rfl, by decide, ?_⟩
    rw [Response.json?, decodeText?_render]
    decide +kernel
  have hrefreshed : (containers? (wrap containersPlace (.array twoContainers))).bind
      (refreshContainers? "new.io") = some (.array twoContainersRefreshed) := by decide +kernel
  obtain ⟨hends, hrewrites⟩ := updateDeployment_rewrites sample "token" "new.io"
  obtain ⟨rest, result, hruns⟩ := hends (.ok _)
  obtain ⟨outcome, _, ⟨⟩, -, hdocument⟩ := hrewrites hruns
  have hrewritten := hdocument _ hread
  cases updateDeployment_runs hruns with
  | unread unreadable => exact absurd hread (unreadable _)
  | unfit reads nothing =>
    rw [reads.unique hread, hrefreshed] at nothing
    cases nothing
  | patched reads fits _ =>
    rw [reads.unique hread, hrefreshed] at fits
    cases fits
    exact ⟨_, _, hread, hrewritten⟩

end DomainChange

end EdgeSetup
