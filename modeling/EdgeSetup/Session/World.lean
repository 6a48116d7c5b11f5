import EdgeSetup.Retry.Group
import EdgeSetup.Session.Basic

/-!
# Playing a session

A world has a clock, a log, counters and a cluster; the cluster is a state and a function that
answers each attempt. Playing a session in a world gives its value and the world afterwards, or
nothing when a call hangs for ever.
-/

namespace EdgeSetup

open Http

/-- An entry of the log: what was done, and when. -/
inductive LogEntry where
  | sent (time : Nat) (request : Request)
  | issued (time : Nat) (domain : String)

/-- A clock in milliseconds, what happened so far, and the state of the cluster. -/
structure World (σ : Type) where
  now : Nat
  log : List LogEntry
  counts : Counts
  cluster : σ

/-- How the outside answers. -/
structure Outside (σ : Type) where
  /-- What the cluster does with an attempt. -/
  respond : Request → σ → Answer × σ
  issuer : String → Except SetupError CertificateBundle
  /-- The policy of all calls. -/
  policy : RetryPolicy

namespace World

variable {σ : Type}

/-- A world at the start of time. -/
def start (cluster : σ) : World σ := ⟨0, [], Counts.zero, cluster⟩

/-- The world with a counter grown. -/
def count (world : World σ) (counter : Counter) (amount : Nat) : World σ :=
  { world with counts := world.counts.add counter amount }

/-- The world as the network of a request: every attempt is logged. -/
def network (outside : Outside σ) (request : Request) : Network (World σ) := fun now world =>
  let (answer, cluster) := outside.respond request world.cluster
  (answer, { world with cluster, log := world.log ++ [.sent now request] })

/-- Makes a call. -/
def call (outside : Outside σ) (request : Request) (world : World σ) :
    Option (Outcome × World σ) :=
  let (trace, world) :=
    outside.policy.run none (network outside request) request.method world.now world
  match trace.ending with
  | .never => none
  | .at time outcome =>
    let counted := (world.count .attempts trace.attempts.length).count .retries trace.retries
    some (outcome, { counted with now := time })

/-- The time and outcome of a call that ended. -/
def outcome? : Ending → Option (Nat × Outcome)
  | .never => none
  | .at time outcome => some (time, outcome)

/-- Makes calls side by side; the clock then stands at the end of the last one. -/
def callAll (outside : Outside σ) (requests : List Request) (world : World σ) :
    Option (List Outcome × World σ) :=
  let calls := requests.map (fun request => (network outside request, request.method))
  let start := world.now
  let (trace, world) := outside.policy.runAll calls start world
  let counted := (world.count .attempts trace.attempts).count .retries trace.retries
  (trace.endings.mapM outcome?).map fun ends =>
    (ends.map Prod.snd, { counted with now := (ends.map Prod.fst).foldl max start })

end World

/-- Plays a session in a world. -/
def Session.run {σ α : Type} (outside : Outside σ) : Session α → World σ → Option (α × World σ)
  | .done value, world => some (value, world)
  | .send request next, world =>
    (world.call outside request).bind fun (outcome, world) => (next outcome).run outside world
  | .sendAll requests next, world =>
    (world.callAll outside requests).bind fun (outcomes, world) =>
      (next outcomes).run outside world
  | .issue domain next, world =>
    (next (outside.issuer domain)).run outside
      { world with log := world.log ++ [.issued world.now domain] }
  | .count counter amount next, world => next.run outside (world.count counter amount)

end EdgeSetup
