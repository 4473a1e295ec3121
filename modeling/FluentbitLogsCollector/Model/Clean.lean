import FluentbitLogsCollector.Model.Wait
/-!
# `Clean`

The cleanup of the checkpoint databases: list the pods of the daemon set and record their
nodes, patch the daemon set with a node selector no node matches, wait for each pod to
terminate, remove the checkpoint directory on each recorded node, fetch the daemon set again,
patch its node selectors back to empty, and wait for a ready pod. Each failure returns at once.
When the daemon set has no pods, the listing's nil error is handed to `Propagate`, which
panics.
-/

namespace FluentbitLogsCollector

open Program

/-- The node selector no node matches. -/
def evictNodeSelectors : GoMap String := [("non-existent-label", "true")]

/-- The shape of the two loops of `Clean`: for each `x` of `xs` in turn, make the call
`send x`, and return its error wrapped by `wrap x` as soon as one fails. -/
def forEachUntilError {α : Type} (send : α → Collector (Except GoError Unit))
    (wrap : α → GoError → GoError) : List α → Collector (Option GoError)
  | [] => return none
  | x :: xs => do
    match ← send x with
    | .error e => return some (wrap x e)
    | .ok () => forEachUntilError send wrap xs

/-- The loop `for _, pod := range pods { … WaitForPodTermination … }`. -/
def waitForPodsTermination (pods : List Pod) : Collector (Option GoError) :=
  forEachUntilError (fun pod => KubernetesManager.waitForPodTermination pod.«namespace» pod.name)
    (fun pod e => .propagated e "An error occurred waiting for pod '%v' in namespace '%v'."
      [.str pod.name, .str pod.«namespace»])
    pods

/-- The loop `for _, node := range nodeNames { … RemoveDirPathFromNode … }`, removing `dirPath`
through a pod in `namespaceName`. -/
def removeDirPathFromNodes (namespaceName dirPath : String) (nodeNames : List String) :
    Collector (Option GoError) :=
  forEachUntilError (fun node => KubernetesManager.removeDirPathFromNode namespaceName node dirPath)
    (fun node e => .propagated e
      "An error occurred removing dir path '%v' from node '%v' via a pod in namespace '%v'."
      [.str dirPath, .str node, .str namespaceName])
    nodeNames

/-- The end of `Clean`: fetch the daemon set again, patch its node selectors back to empty, and
wait for a ready pod. -/
def restoreNodeSelectors (logsCollectorName : String) (logsCollectorDaemonSet : ObjectMeta) :
    Collector (Option GoError) := do
  match ← KubernetesManager.getDaemonSet logsCollectorDaemonSet.«namespace» logsCollectorName with
  | .error e => return some (.propagated e "An error occurred getting latest" [])
  | .ok latestLogsCollectorDaemonSet =>
  match ← KubernetesManager.updateDaemonSetWithNodeSelectors latestLogsCollectorDaemonSet [] with
  | .error e =>
    return some (.propagated e "An error occurred updating daemon set '%v' with node selectors '%v'"
      [.str logsCollectorName, .stringMap evictNodeSelectors])
  | .ok logsCollectorDaemonSet =>
  match ← waitForAtLeastOneActivePodManagedByDaemonSet logsCollectorDaemonSet with
  | some e =>
    return some (.propagated e
      "An error occurred waiting for at least one pod managed by daemon set '%v' has become available."
      [.str logsCollectorName])
  | none =>
  logf .info "Successfully cleaned logs collector." []
  return none

/-- The part of `Clean` after the eviction patch: wait for every pod to terminate, remove the
checkpoint directory on every node, then restore the node selectors. -/
def cleanAfterEviction (c : PackageConstants) (logsCollectorName : String) (pods : List Pod)
    (nodeNames : List String) (logsCollectorDaemonSet : ObjectMeta) :
    Collector (Option GoError) := do
  match ← waitForPodsTermination pods with
  | some e => return some e
  | none =>
  match ← removeDirPathFromNodes logsCollectorDaemonSet.«namespace»
      c.fluentBitCheckpointDbMountPath nodeNames with
  | some e => return some e
  | none => restoreNodeSelectors logsCollectorName logsCollectorDaemonSet

def clean (c : PackageConstants) (logsCollectorDaemonSet : ObjectMeta) :
    Collector (Option GoError) := do
  let listing ← KubernetesManager.getPodsManagedByDaemonSet logsCollectorDaemonSet
  match listing with
  | .error e =>
    return some (← propagate (some e)
      "An error occurred getting pods managed by daemon set '%v' in namespace '%v'."
      [.str logsCollectorDaemonSet.name, .str logsCollectorDaemonSet.«namespace»])
  | .ok pods =>
  -- `err` is the error of the listing, nil on this path
  let err : Option GoError := none
  if pods.length = 0 then
    return some (← propagate err
      "No pods found for logs collector daemon set '%v' in namespace '%v'."
      [.str logsCollectorDaemonSet.name, .str logsCollectorDaemonSet.«namespace»])
  let nodeNames := pods.map Pod.nodeName
  logf .info "Cleaning the fluent bit logs collector daemon set..." []
  let logsCollectorName := logsCollectorDaemonSet.name
  match ← KubernetesManager.updateDaemonSetWithNodeSelectors logsCollectorDaemonSet
      evictNodeSelectors with
  | .error e =>
    return some (.propagated e "An error occurred updating daemon set '%v' with node selectors '%v'"
      [.str logsCollectorName, .stringMap evictNodeSelectors])
  | .ok logsCollectorDaemonSet =>
  cleanAfterEviction c logsCollectorName pods nodeNames logsCollectorDaemonSet

end FluentbitLogsCollector
