/-!
# Metrics

The counters of the service, their labels and their descriptions.
-/

namespace EdgeSetup

/-- The outcome of a domain change, as a label. -/
inductive ChangeLabel where
  | migrated
  | unchanged
  | failed
  deriving DecidableEq, Repr

/-- What was done with the policy of a host, as a label. -/
inductive HostLabel where
  | patched
  | created
  deriving DecidableEq, Repr

/-- A counter. -/
inductive Counter where
  | attempts
  | retries
  | domainChanges (outcome : ChangeLabel)
  | staticIpHosts (action : HostLabel)
  | rehostFailures
  deriving DecidableEq, Repr

namespace Counter

/-- All counters, in the order of their descriptions. -/
def all : List Counter :=
  [attempts, retries, domainChanges .migrated, domainChanges .unchanged, domainChanges .failed,
    staticIpHosts .patched, staticIpHosts .created, rehostFailures]

/-- The name of the metric that a counter belongs to. -/
def metric : Counter → String
  | attempts => "setup_transport_attempts_total"
  | retries => "setup_transport_retries_total"
  | domainChanges _ => "setup_domain_changes_total"
  | staticIpHosts _ => "setup_static_ip_hosts_total"
  | rehostFailures => "setup_route_rehost_failures_total"

/-- The label of a counter: its name and value. -/
def label? : Counter → Option (String × String)
  | attempts | retries | rehostFailures => none
  | domainChanges .migrated => some ("outcome", "migrated")
  | domainChanges .unchanged => some ("outcome", "unchanged")
  | domainChanges .failed => some ("outcome", "failed")
  | staticIpHosts .patched => some ("action", "patched")
  | staticIpHosts .created => some ("action", "created")

end Counter

/-- The metrics and what they mean, in order of registration. -/
def metricDescriptions : List (String × String) :=
  [ (Counter.attempts.metric, "Requests sent to the cluster API, retries included"),
    (Counter.retries.metric, "Cluster API requests repeated after a transient failure"),
    ((Counter.domainChanges .migrated).metric, "Domain change requests by outcome"),
    ((Counter.staticIpHosts .patched).metric, "Hosts whose network policy was patched or created"),
    (Counter.rehostFailures.metric,
      "Routes that could not be moved to the new ingress domain") ]

/-- How far each counter has grown. -/
abbrev Counts := Counter → Nat

namespace Counts

/-- Nothing counted yet. -/
def zero : Counts := fun _ => 0

/-- One counter grown by an amount. -/
def add (counts : Counts) (counter : Counter) (amount : Nat) : Counts :=
  fun other => if other = counter then counts other + amount else counts other

@[simp] theorem add_self (counts : Counts) (counter : Counter) (amount : Nat) :
    counts.add counter amount counter = counts counter + amount := by simp [add]

theorem add_of_ne (counts : Counts) {counter other : Counter} (h : other ≠ counter)
    (amount : Nat) : counts.add counter amount other = counts other := by simp [add, h]

end Counts

end EdgeSetup
