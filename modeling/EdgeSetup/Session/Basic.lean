import EdgeSetup.Certificate.Bundle
import EdgeSetup.Metrics
import EdgeSetup.Retry.Policy

/-!
# Sessions

A session is a conversation with the world outside: it sends requests to the cluster API, asks for
certificates and counts, and goes on with whatever comes back. A request stands for a whole call,
retries included; `sendAll` stands for calls that are made side by side.

A session says nothing of time or of who answers. `Runs` relates it to every history that some
world could give it, and `Session.run` (in `EdgeSetup.Session.World`) plays it in one world.
-/

namespace EdgeSetup

open Http

/-- A conversation with the cluster and the certificate issuer that ends in a value. -/
inductive Session (α : Type) where
  | done (value : α)
  | send (request : Request) (next : Outcome → Session α)
  | sendAll (requests : List Request) (next : List Outcome → Session α)
  | issue (domain : String) (next : Except SetupError CertificateBundle → Session α)
  | count (counter : Counter) (amount : Nat) (next : Session α)

namespace Session

variable {α β : Type}

/-- Goes on with another session. -/
def bind : Session α → (α → Session β) → Session β
  | done value, next => next value
  | send request rest, next => send request (fun outcome => (rest outcome).bind next)
  | sendAll requests rest, next => sendAll requests (fun outcomes => (rest outcomes).bind next)
  | issue domain rest, next => issue domain (fun result => (rest result).bind next)
  | count counter amount rest, next => count counter amount (rest.bind next)

instance : Monad Session where
  pure := done
  bind := bind

@[simp] theorem pure_eq (value : α) : (pure value : Session α) = done value := rfl

@[simp] theorem bind_eq (session : Session α) (next : α → Session β) :
    session >>= next = session.bind next := rfl

@[simp] theorem bind_done (session : Session α) : session.bind done = session := by
  induction session with
  | done value => rfl
  | send request rest ih => simp [bind, ih]
  | sendAll requests rest ih => simp [bind, ih]
  | issue domain rest ih => simp [bind, ih]
  | count counter amount rest ih => simp [bind, ih]

theorem bind_assoc {γ : Type} (session : Session α) (next : α → Session β)
    (last : β → Session γ) :
    (session.bind next).bind last = session.bind (fun value => (next value).bind last) := by
  induction session with
  | done value => rfl
  | send request rest ih => simp [bind, ih]
  | sendAll requests rest ih => simp [bind, ih]
  | issue domain rest ih => simp [bind, ih]
  | count counter amount rest ih => simp [bind, ih]

instance : LawfulMonad Session :=
  LawfulMonad.mk' Session (fun session => bind_done session) (fun _ _ => rfl)
    (fun session next last => bind_assoc session next last)

/-! ## Single steps -/

/-- Makes one call. -/
def call (request : Request) : Session Outcome := send request done

/-- Makes calls side by side; the outcomes are in the order of the requests. -/
def callAll (requests : List Request) : Session (List Outcome) := sendAll requests done

/-- Asks the issuer for a certificate. -/
def certificate (domain : String) : Session (Except SetupError CertificateBundle) :=
  issue domain done

/-- Counts. -/
def tally (counter : Counter) (amount : Nat) : Session Unit := count counter amount (done ())

end Session

/-- A session that may fail. -/
abbrev Attempting := ExceptT SetupError Session

/-! ## Histories -/

/-- What a session did and what it met. -/
inductive Event where
  | called (request : Request) (outcome : Outcome)
  | calledAll (exchanges : List (Request × Outcome))
  | issued (domain : String) (result : Except SetupError CertificateBundle)
  | counted (counter : Counter) (amount : Nat)

/-- The session can meet the events, in order, and then ends with the value. -/
inductive Session.Runs {α : Type} : Session α → List Event → α → Prop where
  | done (value : α) : Runs (.done value) [] value
  | send {request : Request} {next : Outcome → Session α} {outcome : Outcome}
      {events : List Event} {value : α} (rest : Runs (next outcome) events value) :
      Runs (.send request next) (.called request outcome :: events) value
  | sendAll {requests : List Request} {next : List Outcome → Session α} {outcomes : List Outcome}
      {events : List Event} {value : α} (same : outcomes.length = requests.length)
      (rest : Runs (next outcomes) events value) :
      Runs (.sendAll requests next) (.calledAll (requests.zip outcomes) :: events) value
  | issue {domain : String} {next : Except SetupError CertificateBundle → Session α}
      {result : Except SetupError CertificateBundle} {events : List Event} {value : α}
      (rest : Runs (next result) events value) :
      Runs (.issue domain next) (.issued domain result :: events) value
  | count {counter : Counter} {amount : Nat} {next : Session α} {events : List Event} {value : α}
      (rest : Runs next events value) :
      Runs (.count counter amount next) (.counted counter amount :: events) value

end EdgeSetup
