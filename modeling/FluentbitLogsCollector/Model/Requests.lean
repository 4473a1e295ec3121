import FluentbitLogsCollector.Program.Basic
import FluentbitLogsCollector.Model.Objects
/-!
# Errors, and the calls the collector makes out of its file

Errors follow `github.com/kurtosis-tech/stacktrace`: `NewError` makes an error from a format
and its arguments, and `Propagate` wraps a cause, and panics when the cause is nil. Every
call the file makes to a collaborator is a `Request`, answered by a `Request.Reply`: a Go
`(value, error)` pair is an `Except GoError`, the runtime's `select` answers with the case it
took, and a log call answers with nothing.

A config map and a daemon set are addressed by the namespace the creation or removal call
names; the other objects by the handle the call is given (`CreateCall.resource`,
`RemoveCall.resource`).
-/

namespace FluentbitLogsCollector

/-- A value passed to a `%v`, `%s` or `%d` verb of an error message or a log line. -/
inductive FmtArg
  | str (s : String)
  | num (n : Nat)
  | protocol (p : TransportProtocol)
  | stringMap (m : GoMap String)
  | templateData (d : TemplateData)
  deriving DecidableEq, Repr

/-- A Go `error` value that is not nil. -/
inductive GoError
  /-- An error a collaborator returned. -/
  | external (text : String)
  /-- `stacktrace.NewError(format, args...)`. -/
  | new (format : String) (args : List FmtArg)
  /-- `stacktrace.Propagate(cause, format, args...)` of a cause that is not nil. -/
  | propagated (cause : GoError) (format : String) (args : List FmtArg)
  deriving DecidableEq, Repr

/-- The `logrus` functions the file calls. -/
inductive LogLevel
  | debug
  | info
  | error
  deriving DecidableEq, Repr

/-- An argument of a log line: a value, or an error. -/
inductive LogArg
  | val (a : FmtArg)
  | err (e : GoError)
  deriving DecidableEq, Repr

/-- A creation call of the Kubernetes manager, with the arguments the collector passes. -/
inductive CreateCall
  | createNamespace (name : String) (labels annotations : GoMap String)
  | createServiceAccount (name namespaceName : String) (labels : GoMap String)
  | createClusterRoles (name : String) (rules : List PolicyRule) (labels : GoMap String)
  | createClusterRoleBindings (name : String) (subjects : List Subject) (roleRef : RoleRef)
      (labels : GoMap String)
  | createConfigMap (namespaceName name : String) (labels annotations : GoMap String)
      (data : GoMap String)
  | createDaemonSet (namespaceName name : String) (labels annotations : GoMap String)
      (serviceAccountName : String) (initContainers containers : List Container)
      (volumes : List Volume)
  deriving DecidableEq, Repr

/-- A removal call of the Kubernetes manager. -/
inductive RemoveCall
  | removeNamespace (ns : ObjectMeta)
  | removeServiceAccount (serviceAccount : ObjectMeta)
  | removeClusterRole (clusterRole : ObjectMeta)
  | removeClusterRoleBindings (clusterRoleBinding : ObjectMeta)
  | removeConfigMap (namespaceName : String) (configMap : ObjectMeta)
  | removeDaemonSet (namespaceName : String) (daemonSet : ObjectMeta)
  deriving DecidableEq, Repr

/-- A resource of the cluster: its kind and identity. -/
abbrev Resource := ResourceKind × ObjectMeta

/-- The kind of object a creation call makes. -/
def CreateCall.kind : CreateCall → ResourceKind
  | .createNamespace .. => .«namespace»
  | .createServiceAccount .. => .serviceAccount
  | .createClusterRoles .. => .clusterRole
  | .createClusterRoleBindings .. => .clusterRoleBinding
  | .createConfigMap .. => .configMap
  | .createDaemonSet .. => .daemonSet

/-- The resource a creation call made, from the object the manager replied with: a config map or
a daemon set is the one of that name in the namespace the call names. -/
def CreateCall.resource : CreateCall → ObjectMeta → Resource
  | .createConfigMap namespaceName .., m => (.configMap, ⟨m.name, namespaceName⟩)
  | .createDaemonSet namespaceName .., m => (.daemonSet, ⟨m.name, namespaceName⟩)
  | c, m => (c.kind, m)

/-- The object handle a removal call is given. -/
def RemoveCall.object : RemoveCall → ObjectMeta
  | .removeNamespace obj | .removeServiceAccount obj | .removeClusterRole obj
  | .removeClusterRoleBindings obj | .removeConfigMap _ obj | .removeDaemonSet _ obj => obj

/-- The resource a removal call removes: a config map or a daemon set of the handle's name in
the namespace the call names, any other object the handle itself. -/
def RemoveCall.resource : RemoveCall → Resource
  | .removeNamespace ns => (.«namespace», ns)
  | .removeServiceAccount sa => (.serviceAccount, sa)
  | .removeClusterRole cr => (.clusterRole, cr)
  | .removeClusterRoleBindings crb => (.clusterRoleBinding, crb)
  | .removeConfigMap namespaceName cm => (.configMap, ⟨cm.name, namespaceName⟩)
  | .removeDaemonSet namespaceName ds => (.daemonSet, ⟨ds.name, namespaceName⟩)

/-- The case the `select` of the readiness waiter takes. -/
inductive SelectCase
  /-- `<-timeoutCtx.Done()`. -/
  | timeout
  /-- `<-ticker.C`. -/
  | tick
  deriving DecidableEq, Repr

/-- A call out of the file. -/
inductive Request
  | generateUUIDString
  /-- `objAttrsProvider.ForLogsCollector(guid).ForLogsCollector…()` for the object `kind`. -/
  | objectAttributes (guid : String) (kind : ResourceKind)
  | create (call : CreateCall)
  | remove (call : RemoveCall)
  | getPodsManagedByDaemonSet (daemonSet : ObjectMeta)
  | updateDaemonSetWithNodeSelectors (daemonSet : ObjectMeta) (nodeSelectors : GoMap String)
  | waitForPodTermination (namespaceName podName : String)
  | removeDirPathFromNode (namespaceName nodeName dirPath : String)
  | getDaemonSet (namespaceName name : String)
  /-- `port_spec.NewPortSpec(number, protocol, applicationProtocol, noWait, url)`. -/
  | newPortSpec (number : UInt16) (protocol : TransportProtocol) (applicationProtocol url : String)
  | getKubernetesContainerPortsFromPrivatePortSpecs (privatePorts : GoMap PortSpec)
  /-- `template.New(name).Parse(text)`. -/
  | parseTemplate (name text : String)
  /-- `tmpl.Execute(&buf, data)` on the template `name` parsed from `text`. -/
  | executeTemplate (name text : String) (data : TemplateData)
  | selectTickOrTimeout
  | log (level : LogLevel) (format : String) (args : List LogArg)
  deriving DecidableEq, Repr

/-- What each call returns. -/
def Request.Reply : Request → Type
  | .generateUUIDString => Except GoError String
  | .objectAttributes .. => Except GoError ObjectAttributes
  | .create _ => Except GoError ObjectMeta
  | .remove _ => Except GoError Unit
  | .getPodsManagedByDaemonSet _ => Except GoError (List Pod)
  | .updateDaemonSetWithNodeSelectors .. => Except GoError ObjectMeta
  | .waitForPodTermination .. => Except GoError Unit
  | .removeDirPathFromNode .. => Except GoError Unit
  | .getDaemonSet .. => Except GoError ObjectMeta
  | .newPortSpec .. => Except GoError PortSpec
  | .getKubernetesContainerPortsFromPrivatePortSpecs _ => Except GoError (List ContainerPort)
  | .parseTemplate .. => Except GoError Unit
  | .executeTemplate .. => Except GoError String
  | .selectTickOrTimeout => SelectCase
  | .log .. => Unit

/-- The collector's functions, as programs over its calls. -/
abbrev Collector := Program Request Request.Reply

/-- One call of a run of the collector, with its reply. -/
abbrev Event := Exchange Request Request.Reply

/-- The value `stacktrace.Propagate` panics with when its cause is nil. -/
def propagateNilCausePanic : String := "Propagate must be provided with a cause"

/-- `stacktrace.Propagate` on Go's nilable `error`: it wraps a cause that is not nil, and panics
on a nil one. -/
def propagate : Option GoError → String → List FmtArg → Collector GoError
  | none, _, _ => .panic propagateNilCausePanic
  | some cause, format, args => .pure (.propagated cause format args)

@[simp] theorem propagate_none (format : String) (args : List FmtArg) :
    propagate none format args = .panic propagateNilCausePanic := rfl

@[simp] theorem propagate_some (cause : GoError) (format : String) (args : List FmtArg) :
    propagate (some cause) format args = .pure (.propagated cause format args) := rfl

/-- The error a reply carries, if any. -/
def Request.replyError : (r : Request) → r.Reply → Option GoError
  | .generateUUIDString, v | .objectAttributes .., v | .create _, v | .remove _, v
  | .getPodsManagedByDaemonSet _, v | .updateDaemonSetWithNodeSelectors .., v
  | .waitForPodTermination .., v | .removeDirPathFromNode .., v | .getDaemonSet .., v
  | .newPortSpec .., v | .getKubernetesContainerPortsFromPrivatePortSpecs _, v
  | .parseTemplate .., v | .executeTemplate .., v =>
    match v with
    | .error e => some e
    | .ok _ => none
  | .selectTickOrTimeout, _ | .log .., _ => none

namespace Event

/-- The call got an error back. -/
def Failed (e : Event) : Prop := (e.1.replyError e.2).isSome

/-- The resource a successful creation call made. -/
def created? : Event → Option Resource
  | ⟨.create c, .ok m⟩ => some (c.resource m)
  | _ => none

/-- The resource a removal call targets, whatever its outcome. -/
def removed? : Event → Option Resource
  | ⟨.remove c, _⟩ => some c.resource
  | _ => none

end Event

/-- The resources the successful creation calls of a trace made, in order. -/
def created (t : List Event) : List Resource := t.filterMap Event.created?

/-- The resources the removal calls of a trace target, in order. -/
def removals (t : List Event) : List Resource := t.filterMap Event.removed?

@[simp] theorem created_nil : created [] = [] := rfl

@[simp] theorem removals_nil : removals [] = [] := rfl

@[simp] theorem created_append (t₁ t₂ : List Event) :
    created (t₁ ++ t₂) = created t₁ ++ created t₂ := List.filterMap_append _ _ _

@[simp] theorem removals_append (t₁ t₂ : List Event) :
    removals (t₁ ++ t₂) = removals t₁ ++ removals t₂ := List.filterMap_append _ _ _

@[simp] theorem created_cons (e : Event) (t : List Event) :
    created (e :: t) = (e.created?).toList ++ created t := by
  cases h : e.created? <;> simp [created, List.filterMap_cons, h]

@[simp] theorem removals_cons (e : Event) (t : List Event) :
    removals (e :: t) = (e.removed?).toList ++ removals t := by
  cases h : e.removed? <;> simp [removals, List.filterMap_cons, h]

/-! ## Sending calls

One function per call, under the package and name the Go code calls it by. Each is tagged
`@[simp]`, so that a run of a function of the collector unfolds to its calls.
-/

@[simp] def UuidGenerator.generateUUIDString : Collector (Except GoError String) :=
  .call .generateUUIDString .pure

/-- `objAttrsProvider.ForLogsCollector(guid).ForLogsCollector…()` for the object `kind`. -/
@[simp] def ObjAttrsProvider.forLogsCollectorObject (guid : String) (kind : ResourceKind) :
    Collector (Except GoError ObjectAttributes) :=
  .call (.objectAttributes guid kind) .pure

namespace KubernetesManager

@[simp] def create (c : CreateCall) : Collector (Except GoError ObjectMeta) :=
  .call (.create c) .pure

@[simp] def remove (c : RemoveCall) : Collector (Except GoError Unit) :=
  .call (.remove c) .pure

@[simp] def getPodsManagedByDaemonSet (daemonSet : ObjectMeta) :
    Collector (Except GoError (List Pod)) :=
  .call (.getPodsManagedByDaemonSet daemonSet) .pure

@[simp] def updateDaemonSetWithNodeSelectors (daemonSet : ObjectMeta)
    (nodeSelectors : GoMap String) : Collector (Except GoError ObjectMeta) :=
  .call (.updateDaemonSetWithNodeSelectors daemonSet nodeSelectors) .pure

@[simp] def waitForPodTermination (namespaceName podName : String) :
    Collector (Except GoError Unit) :=
  .call (.waitForPodTermination namespaceName podName) .pure

@[simp] def removeDirPathFromNode (namespaceName nodeName dirPath : String) :
    Collector (Except GoError Unit) :=
  .call (.removeDirPathFromNode namespaceName nodeName dirPath) .pure

@[simp] def getDaemonSet (namespaceName name : String) : Collector (Except GoError ObjectMeta) :=
  .call (.getDaemonSet namespaceName name) .pure

end KubernetesManager

@[simp] def PortSpecs.newPortSpec (number : UInt16) (protocol : TransportProtocol)
    (applicationProtocol url : String) : Collector (Except GoError PortSpec) :=
  .call (.newPortSpec number protocol applicationProtocol url) .pure

@[simp] def SharedHelpers.getKubernetesContainerPortsFromPrivatePortSpecs
    (privatePorts : GoMap PortSpec) : Collector (Except GoError (List ContainerPort)) :=
  .call (.getKubernetesContainerPortsFromPrivatePortSpecs privatePorts) .pure

@[simp] def Template.parse (name text : String) : Collector (Except GoError Unit) :=
  .call (.parseTemplate name text) .pure

@[simp] def Template.execute (name text : String) (data : TemplateData) :
    Collector (Except GoError String) :=
  .call (.executeTemplate name text data) .pure

/-- The `select` between `timeoutCtx.Done()` and `ticker.C`. -/
@[simp] def selectTickOrTimeout : Collector SelectCase :=
  .call .selectTickOrTimeout .pure

/-- `logrus.Errorf`, `Infof` or `Debugf`. -/
@[simp] def logf (level : LogLevel) (format : String) (args : List LogArg) : Collector Unit :=
  .call (.log level format args) .pure

end FluentbitLogsCollector
