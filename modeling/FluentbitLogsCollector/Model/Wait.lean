import FluentbitLogsCollector.Model.Requests
/-!
# The readiness waiter

`waitForAtLeastOneActivePodManagedByDaemonSet` polls the pods of a daemon set on each tick of
a ticker, for at most `maxRetries` attempts, and gives up when its deadline fires first. The
runtime's choice between the two ready channels is a call (`selectTickOrTimeout`), so every
interleaving of ticks and the deadline is one of the program's runs.
-/

namespace FluentbitLogsCollector

open Program

/-- `len(pods) > 0 && len(pods[0].Status.ContainerStatuses) > 0 &&
pods[0].Status.ContainerStatuses[0].Ready`. -/
def firstPodReady : List Pod → Bool
  | pod :: _ =>
    match pod.containerStatuses with
    | status :: _ => status.ready
    | [] => false
  | [] => false

/-- The error when the deadline fires before a pod is ready. -/
def waitTimeoutError (daemonSet : ObjectMeta) : GoError :=
  .new "Timeout waiting for a pod managed by logs collector daemon set '%s' to come online"
    [.str daemonSet.name]

/-- The error when every attempt found no ready pod. -/
def waitExceededMaxRetriesError (daemonSet : ObjectMeta) : GoError :=
  .new "Exceeded max retries (%d) waiting for a pod managed by daemon set '%s' to come online"
    [.num maxRetries, .str daemonSet.name]

/-- `stacktrace.Propagate` of the error of a failed query of the pods. -/
def waitQueryError (daemonSet : ObjectMeta) (e : GoError) : GoError :=
  .propagated e "An error occurred getting pods managed by logs collector daemon set '%v'"
    [.str daemonSet.name]

/-- The loop `for attempt := 0; attempt < maxRetries; attempt++`, with `remaining` attempts
left. -/
def waitAttempts (daemonSet : ObjectMeta) : Nat → Collector (Option GoError)
  | 0 => return some (waitExceededMaxRetriesError daemonSet)
  | remaining + 1 => do
    match ← selectTickOrTimeout with
    | .timeout => return some (waitTimeoutError daemonSet)
    | .tick =>
      match ← KubernetesManager.getPodsManagedByDaemonSet daemonSet with
      | .error e => return some (waitQueryError daemonSet e)
      | .ok pods => if firstPodReady pods then return none else waitAttempts daemonSet remaining

def waitForAtLeastOneActivePodManagedByDaemonSet (logsCollectorDaemonSet : ObjectMeta) :
    Collector (Option GoError) :=
  waitAttempts logsCollectorDaemonSet maxRetries

end FluentbitLogsCollector
