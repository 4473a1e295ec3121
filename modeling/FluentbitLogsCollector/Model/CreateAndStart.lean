import FluentbitLogsCollector.Model.Resources
import FluentbitLogsCollector.Model.Wait
/-!
# `CreateAndStart`

The provisioning saga. After each object is created, `CreateAndStart` sets a
`shouldRemoveLogsCollector…` flag and defers a closure that removes the object when the flag
is still set; Go runs the deferred closures, most recent first, at every return. Only once the
readiness waiter has succeeded are the six flags cleared, and the function returns the objects
with a closure that removes all six.

`Frame` keeps the deferred closures and the flags, and `Frame.ret` is Go's `return`: the
deferred closures run, then the function returns.
-/

namespace FluentbitLogsCollector

open Program

/-- The body the six `remove…Func` closures share: call the removal, and when it fails log the
error and which object needs removing by hand. -/
def removeObjectFunc (removal : RemoveCall) (what actionRequired : String)
    (actionArgs : List FmtArg) : Collector Unit := do
  match ← KubernetesManager.remove removal with
  | .ok () => return ()
  | .error e =>
    logf .error ("Launching the logs collector daemon set with name '%v' didn't complete " ++
      "successfully so we tried to remove the " ++ what ++
      " we started, but doing so exited with an error:\n%v") [.val (.str removal.object.name), .err e]
    logf .error actionRequired (actionArgs.map .val)

def removeNamespaceFunc (ns : ObjectMeta) : Collector Unit :=
  removeObjectFunc (.removeNamespace ns) "namespace"
    "ACTION REQUIRED: You'll need to manually remove the logs collector namespace with Kubernetes name '%v'!!!!!!"
    [.str ns.name]

def removeServiceAccountFunc (serviceAccount : ObjectMeta) : Collector Unit :=
  removeObjectFunc (.removeServiceAccount serviceAccount) "service account"
    "ACTION REQUIRED: You'll need to manually remove the logs collector service account with Kubernetes name '%v' in namespace '%v'!!!!!!"
    [.str serviceAccount.name, .str serviceAccount.«namespace»]

def removeClusterRoleFunc (clusterRole : ObjectMeta) : Collector Unit :=
  removeObjectFunc (.removeClusterRole clusterRole) "cluster role"
    "ACTION REQUIRED: You'll need to manually remove the logs collector cluster role with Kubernetes name '%v' in namespace '%v'!!!!!!"
    [.str clusterRole.name, .str clusterRole.«namespace»]

def removeClusterRoleBindingFunc (clusterRoleBinding : ObjectMeta) : Collector Unit :=
  removeObjectFunc (.removeClusterRoleBindings clusterRoleBinding) "cluster role binding"
    "ACTION REQUIRED: You'll need to manually remove the logs collector cluster role binding with Kubernetes name '%v' in namespace '%v'!!!!!!"
    [.str clusterRoleBinding.name, .str clusterRoleBinding.«namespace»]

def removeConfigMapFunc (namespaceName : String) (configMap : ObjectMeta) : Collector Unit :=
  removeObjectFunc (.removeConfigMap namespaceName configMap) "config map"
    "ACTION REQUIRED: You'll need to manually remove the logs collector config map with Kubernetes name '%v' in namespace '%v'!!!!!!"
    [.str configMap.name, .str configMap.«namespace»]

def removeDaemonSetFunc (namespaceName : String) (daemonSet : ObjectMeta) : Collector Unit :=
  removeObjectFunc (.removeDaemonSet namespaceName daemonSet) "daemon set"
    "ACTION REQUIRED: You'll need to manually remove the logs collector daemon set with Kubernetes name '%v' in namespace '%v'!!!!!!"
    [.str daemonSet.name, .str daemonSet.«namespace»]

/-- The `remove…Func` closure that makes a removal call. -/
def RemoveCall.func : RemoveCall → Collector Unit
  | .removeNamespace ns => removeNamespaceFunc ns
  | .removeServiceAccount sa => removeServiceAccountFunc sa
  | .removeClusterRole cr => removeClusterRoleFunc cr
  | .removeClusterRoleBindings crb => removeClusterRoleBindingFunc crb
  | .removeConfigMap nsName cm => removeConfigMapFunc nsName cm
  | .removeDaemonSet nsName ds => removeDaemonSetFunc nsName ds

/-- The closures `CreateAndStart` has deferred, most recent first, each removing the object
of its removal call, and the `shouldRemoveLogsCollector…` flags they read when they run. -/
structure Frame where
  deferred : List RemoveCall
  shouldRemove : ResourceKind → Bool

namespace Frame

/-- Nothing deferred yet. -/
def empty : Frame := ⟨[], fun _ => false⟩

/-- `shouldRemove… := true; defer func() { if shouldRemove… { remove…Func() } }()`. -/
def deferRemoval (fr : Frame) (removal : RemoveCall) : Frame :=
  ⟨removal :: fr.deferred, fun k => decide (k = removal.resource.1) || fr.shouldRemove k⟩

/-- `shouldRemove… = false` for the object of kind `k`. -/
def disarm (fr : Frame) (k : ResourceKind) : Frame :=
  ⟨fr.deferred, fun k' => !decide (k' = k) && fr.shouldRemove k'⟩

/-- The deferred closures running at return, most recent first. -/
def runDeferred (shouldRemove : ResourceKind → Bool) : List RemoveCall → Collector Unit
  | [] => return ()
  | removal :: rest => do
    if shouldRemove removal.resource.1 then removal.func
    runDeferred shouldRemove rest

/-- Go's `return result`: the deferred closures run, then the function returns. -/
def ret {α : Type} (fr : Frame) (result : α) : Collector α := do
  runDeferred fr.shouldRemove fr.deferred
  return result

/-- `v, err := step; if err != nil { return …, stacktrace.Propagate(err, msg, args...) }`,
and otherwise go on with `v`. -/
def check {α β : Type} (fr : Frame) (step : Collector (Except GoError α)) (msg : String)
    (args : List FmtArg) (k : α → Collector (Except GoError β)) : Collector (Except GoError β) := do
  match ← step with
  | .error e => fr.ret (.error (.propagated e msg args))
  | .ok v => k v

end Frame

/-- What `CreateAndStart` returns on success: the six objects and `removeLogsCollectorFunc`. -/
structure LogsCollectorObjects where
  daemonSet : ObjectMeta
  configMap : ObjectMeta
  ns : ObjectMeta
  serviceAccount : ObjectMeta
  clusterRole : ObjectMeta
  clusterRoleBinding : ObjectMeta
  removeLogsCollectorFunc : Collector Unit

/-- The closure `removeLogsCollectorFunc` that `CreateAndStart` returns: the six removal
closures, daemon set first. -/
def removeLogsCollectorFunc (ns serviceAccount clusterRole clusterRoleBinding configMap
    daemonSet : ObjectMeta) : Collector Unit := do
  removeDaemonSetFunc ns.name daemonSet
  removeConfigMapFunc ns.name configMap
  removeClusterRoleBindingFunc clusterRoleBinding
  removeClusterRoleFunc clusterRole
  removeServiceAccountFunc serviceAccount
  removeNamespaceFunc ns

/-- The tail of `CreateAndStart` after the daemon set: wait for a ready pod, then clear the six
flags and return the objects with the closure that removes them. -/
def waitThenCommit (fr : Frame) (ns serviceAccount clusterRole clusterRoleBinding configMap
    daemonSet : ObjectMeta) : Collector (Except GoError LogsCollectorObjects) := do
  match ← waitForAtLeastOneActivePodManagedByDaemonSet daemonSet with
  | some e => fr.ret (.error (.propagated e
      "An error occurred waiting for at least one active pod managed by logs collector daemon set '%v'"
      [.str daemonSet.name]))
  | none =>
    let fr := ((((((fr.disarm .clusterRoleBinding).disarm .clusterRole).disarm .serviceAccount).disarm
      .«namespace»).disarm .configMap).disarm .daemonSet)
    fr.ret (.ok ⟨daemonSet, configMap, ns, serviceAccount, clusterRole, clusterRoleBinding,
      removeLogsCollectorFunc ns serviceAccount clusterRole clusterRoleBinding configMap daemonSet⟩)

def createAndStart (c : PackageConstants) (logsAggregatorHost : String)
    (logsAggregatorPort tcpPortNumber httpPortNumber : UInt16)
    (logsCollectorTcpPortId logsCollectorHttpPortId : String)
    (logsCollectorFilters : List Filter) (logsCollectorParsers : List Parser) :
    Collector (Except GoError LogsCollectorObjects) :=
  let fr := Frame.empty
  fr.check UuidGenerator.generateUUIDString
    "An error occurred creating uuid for logs collector." [] fun guid =>
  fr.check (createLogsCollectorNamespace guid)
    "An error occurred creating namespace for logs collector." [] fun ns =>
  let fr := fr.deferRemoval (.removeNamespace ns)
  fr.check (createLogsCollectorServiceAccount guid ns.name)
    "An error occurred while trying to create service account for fluent bit log collector."
    [] fun serviceAccount =>
  let fr := fr.deferRemoval (.removeServiceAccount serviceAccount)
  fr.check (createLogsCollectorClusterRole guid)
    "An error occurred while trying to create cluster role for fluent bit log collector."
    [] fun clusterRole =>
  let fr := fr.deferRemoval (.removeClusterRole clusterRole)
  fr.check (createLogsCollectorClusterRoleBinding guid serviceAccount.name clusterRole.name ns.name)
    "An error occurred while trying to create cluster role binding for fluent bit log collector."
    [] fun clusterRoleBinding =>
  let fr := fr.deferRemoval (.removeClusterRoleBindings clusterRoleBinding)
  fr.check (createLogsCollectorConfigMap c guid ns.name httpPortNumber logsAggregatorHost
      logsAggregatorPort logsCollectorFilters logsCollectorParsers)
    "An error occurred while trying to create config map for fluent bit log collector."
    [] fun configMap =>
  let fr := fr.deferRemoval (.removeConfigMap ns.name configMap)
  fr.check (PortSpecs.newPortSpec httpPortNumber .tcp httpProtocolStr emptyUrl)
    "An error occurred creating the log collectors HTTP port spec object using number '%v' and protocol '%v'"
    [.num httpPortNumber.toNat, .str httpProtocolStr] fun httpPortSpec =>
  fr.check (PortSpecs.newPortSpec tcpPortNumber .tcp httpProtocolStr emptyUrl)
    "An error occurred creating the log collectors TCP port spec object using number '%v' and protocol '%v'"
    [.num tcpPortNumber.toNat, .protocol .tcp] fun tcpPortSpec =>
  let privatePorts := GoMap.insert (GoMap.insert [] logsCollectorTcpPortId tcpPortSpec)
    logsCollectorHttpPortId httpPortSpec
  fr.check (SharedHelpers.getKubernetesContainerPortsFromPrivatePortSpecs privatePorts)
    "An error occurred getting the logs collector fluent bit container ports from the port specs"
    [] fun containerPorts =>
  fr.check (createLogsCollectorDaemonSet c guid ns.name configMap.name serviceAccount.name
      containerPorts)
    "An error occurred while trying to create daemon set for fluent bit logs collector."
    [] fun daemonSet =>
  let fr := fr.deferRemoval (.removeDaemonSet ns.name daemonSet)
  waitThenCommit fr ns serviceAccount clusterRole clusterRoleBinding configMap daemonSet

/-- `GetHttpHealthCheckEndpoint`. -/
def getHttpHealthCheckEndpoint (c : PackageConstants) : String := c.healthCheckEndpointPath

end FluentbitLogsCollector
