import Mathlib.Data.List.Basic
/-!
# Kubernetes objects, port specs and the package's constants

The parts of the API objects that `fluentbit_logs_collector_daemonset.go` reads or builds, the
values it hands to the port-spec and template collaborators, and the constants of package
`fluentbit` (and of the label packages) that the file uses but does not declare.
-/

namespace FluentbitLogsCollector

/-- The six kinds of object `CreateAndStart` creates, in the order it creates them. -/
inductive ResourceKind
  | «namespace»
  | serviceAccount
  | clusterRole
  | clusterRoleBinding
  | configMap
  | daemonSet
  deriving DecidableEq, Repr

/-- A Go `map[string]V`, as its bindings. -/
abbrev GoMap (V : Type) := List (String × V)

/-- `m[k] = v`: a later binding of a key replaces the earlier one, as in a Go map literal whose
keys are variables. -/
def GoMap.insert {V : Type} (m : GoMap V) (k : String) (v : V) : GoMap V :=
  (k, v) :: m.filter (fun b => b.1 != k)

/-- An object's identity in the cluster: the `Name` and `Namespace` of its metadata. -/
structure ObjectMeta where
  name : String
  «namespace» : String
  deriving DecidableEq, Repr

/-- What the object attributes provider gives for one object: its name, labels and
annotations, already turned into string maps by `shared_helpers`. -/
structure ObjectAttributes where
  name : String
  labels : GoMap String
  annotations : GoMap String
  deriving Repr

/-- The `Ready` field of a container status, the only one the collector reads. -/
structure ContainerStatus where
  ready : Bool
  deriving DecidableEq, Repr

/-- A pod as the collector reads it: `Name`, `Namespace`, `Spec.NodeName` and
`Status.ContainerStatuses`. -/
structure Pod where
  name : String
  «namespace» : String
  nodeName : String
  containerStatuses : List ContainerStatus
  deriving DecidableEq, Repr

/-- `port_spec.TransportProtocol`, of which the file uses `TransportProtocol_TCP` only. -/
inductive TransportProtocol
  | tcp
  deriving DecidableEq, Repr

/-- A `port_spec.PortSpec`, as `NewPortSpec` builds it. -/
structure PortSpec where
  number : UInt16
  transportProtocol : TransportProtocol
  applicationProtocol : String
  deriving DecidableEq, Repr

/-- An `apiv1.ContainerPort`, as `shared_helpers` translates a port spec. -/
structure ContainerPort where
  name : String
  containerPort : Nat
  protocol : String
  deriving DecidableEq, Repr

/-- A `logs_collector.Filter`, declared outside this file and only handed to the template. -/
structure Filter where
  fields : GoMap String
  deriving DecidableEq, Repr

/-- A `logs_collector.Parser`, declared outside this file and only handed to the template. -/
structure Parser where
  fields : GoMap String
  deriving DecidableEq, Repr

/-- `FluentBitConfigData`, the value `generateFluentBitConfigStr` executes its template on. -/
structure FluentBitConfigData where
  httpPort : UInt16
  kurtosisParsersConfigFilepath : String
  userServiceResourceStr : String
  checkpointDbMountPath : String
  logsEnclaveUUIDLabel : String
  logsServiceUUIDLabel : String
  logsServiceNameLabel : String
  k8sApiServerURL : String
  logsAggregatorHost : String
  logsAggregatorPortNum : UInt16
  filters : List Filter
  deriving DecidableEq, Repr

/-- The value a template is executed on. -/
inductive TemplateData
  | fluentBitConfigData (data : FluentBitConfigData)
  | fluentBitParserConfigData (parsers : List Parser)
  deriving DecidableEq, Repr

/-- An `apiv1.VolumeMount`: `SubPath`, `MountPropagation` and `SubPathExpr` are always empty. -/
structure VolumeMount where
  name : String
  readOnly : Bool
  mountPath : String
  deriving DecidableEq, Repr

/-- Modelled from the spec: the volume sources `GetVolumeSourceForHostPath` and
`GetVolumeSourceForConfigMap` of the Kubernetes manager build ("host-path, config-payload"). -/
inductive VolumeSource
  | hostPath (path : String)
  | configMap (name : String)
  deriving DecidableEq, Repr

/-- An `apiv1.Volume`. -/
structure Volume where
  name : String
  volumeSource : VolumeSource
  deriving DecidableEq, Repr

/-- An `apiv1.Container` with the fields the collector sets to something other than empty;
`preStopCommand` is `Lifecycle.PreStop.Exec.Command`. -/
structure Container where
  name : String
  image : String
  command : List String
  args : List String
  ports : List ContainerPort
  preStopCommand : List String
  volumeMounts : List VolumeMount
  deriving DecidableEq, Repr

/-- An `rbacv1.PolicyRule`; `ResourceNames` and `NonResourceURLs` are always nil. -/
structure PolicyRule where
  verbs : List String
  apiGroups : List String
  resources : List String
  deriving DecidableEq, Repr

/-- An `rbacv1.Subject`. -/
structure Subject where
  kind : String
  name : String
  «namespace» : String
  apiGroup : String
  deriving DecidableEq, Repr

/-- An `rbacv1.RoleRef`. -/
structure RoleRef where
  kind : String
  name : String
  apiGroup : String
  deriving DecidableEq, Repr

/-- The constants the file uses and the rest of its package (and the label packages) declare. -/
structure PackageConstants where
  fluentBitContainerName : String
  fluentBitImage : String
  fluentBitConfigFileName : String
  parsersFileName : String
  fluentBitConfigMountPath : String
  fluentBitCheckpointDbMountPath : String
  fluentBitConfigVolumeName : String
  fluentBitHostLogsVolumeName : String
  fluentBitHostLogsMountPath : String
  fluentBitCheckpointDbVolumeName : String
  varLogVolumeName : String
  varLogMountPath : String
  varLibDockerContainersVolumeName : String
  varLibDockerContainersMountPath : String
  varLogDockerContainersVolumeName : String
  varLogDockerContainersMountPath : String
  fluentBitConfigTemplate : String
  parserConfigFileTemplate : String
  k8sApiServerUrl : String
  healthCheckEndpointPath : String
  userServiceKurtosisResourceTypeKubernetesLabelValue : String
  logsEnclaveUUIDKubernetesLabelKey : String
  logsServiceUUIDKubernetesLabelKey : String
  logsServiceNameKubernetesLabelKey : String
  deriving Repr, Inhabited

/-! ## Constants of this file -/

def httpProtocolStr : String := "http"

def emptyUrl : String := ""

def maxRetries : Nat := 30

end FluentbitLogsCollector
