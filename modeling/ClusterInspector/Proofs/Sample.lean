import ClusterInspector.Calendar
import ClusterInspector.Store

/-!
# A crowded store

A store with everything that no one promises to leave out: a namespace stored twice, pods that share
a key or only a name, a pod whose namespace has no record, an age that begins before the calendar.
Two watchers look on, and the second cancels the first when it is told.
-/
namespace ClusterInspector

/-- The tenth of January 2024, noon. -/
def noon : Nat := (⟨⟨2024, 1, 10⟩, 12, 0, 0⟩ : Calendar.DateTime).toSeconds

def crowdedPod (name home age : String) : Pod where
  name := name
  home := home
  status := .running
  ready := "1/2"
  restarts := 3
  age := age
  node := some "node-1"
  problem := none
  problemMessage := none

def crowded : Store where
  cluster := {
    namespaces := [⟨"blue", "Active", "9d"⟩, ⟨"green", "Active", "1h"⟩, ⟨"blue", "Active", "2m"⟩]
    pods := [crowdedPod "web" "blue" "5d", crowdedPod "web" "green" "1d", crowdedPod "web" "blue" "7m",
      crowdedPod "job" "green" "1000000d", crowdedPod "old" "lost" "4h"]
    deployments := [⟨"api", "blue", "1/2", 2, 1, "3d"⟩, ⟨"api", "green", "2/2", 2, 2, "3d"⟩]
    daemonsets := [⟨"agent", "green", 3, 3, 2, 3, 2, "8d"⟩] }
  watchers := {
    active := [.observer { id := "first" }, .observer { id := "second", cancels := some 0 }]
    issued := [.observer { id := "first" }, .observer { id := "second", cancels := some 0 }] }

end ClusterInspector
