import FluentbitLogsCollector.Model.Requests
/-!
# Creating the six objects

`createLogsCollectorNamespace`, `…ServiceAccount`, `…ClusterRole`, `…ClusterRoleBinding`,
`…ConfigMap` and `…DaemonSet`, with the config rendering and the pod template they build. Each
returns the created object or the error, wrapped with its own message, that stopped it.
-/

namespace FluentbitLogsCollector

open Program

/-- The shape five of the creation helpers share: look up the object's attributes, then create
it, each error wrapped with the helper's own message. -/
def createFromAttributes (guid : String) (kind : ResourceKind) (attributesMsg : String)
    (createCall : ObjectAttributes → CreateCall) (createMsg : String)
    (createArgs : ObjectAttributes → List FmtArg) : Collector (Except GoError ObjectMeta) := do
  match ← ObjAttrsProvider.forLogsCollectorObject guid kind with
  | .error e => return .error (.propagated e attributesMsg [])
  | .ok attrs =>
    match ← KubernetesManager.create (createCall attrs) with
    | .error e => return .error (.propagated e createMsg (createArgs attrs))
    | .ok obj => return .ok obj

def createLogsCollectorNamespace (guid : String) : Collector (Except GoError ObjectMeta) :=
  createFromAttributes guid .«namespace»
    "An error occurred while getting logs collector namespace attributes provider."
    (fun a => .createNamespace a.name a.labels a.annotations)
    "An error occurred creating namespace for logs collector with name '%s'"
    (fun a => [.str a.name])

def createLogsCollectorServiceAccount (guid namespaceName : String) :
    Collector (Except GoError ObjectMeta) :=
  createFromAttributes guid .serviceAccount
    "An error occurred while getting logs collector service account attributes provider."
    (fun a => .createServiceAccount a.name namespaceName a.labels)
    "An error occurred creating service account for logs collector with name '%s'"
    (fun a => [.str a.name])

/-- The one rule of the cluster role: read-only verbs on pods and their logs. -/
def logsCollectorClusterRoleRules : List PolicyRule :=
  [{ verbs := ["get", "list"], apiGroups := [""], resources := ["pods", "pods/logs"] }]

def createLogsCollectorClusterRole (guid : String) : Collector (Except GoError ObjectMeta) :=
  createFromAttributes guid .clusterRole
    "An error occurred while getting logs collector cluster role attributes provider."
    (fun a => .createClusterRoles a.name logsCollectorClusterRoleRules a.labels)
    "An error occurred creating cluster role for logs collector with name '%s'"
    (fun a => [.str a.name])

def createLogsCollectorClusterRoleBinding (guid serviceAccountName clusterRoleName
    namespaceName : String) : Collector (Except GoError ObjectMeta) :=
  createFromAttributes guid .clusterRoleBinding
    "An error occurred while getting logs collector cluster role binding attributes provider."
    (fun a => .createClusterRoleBindings a.name
      [{ kind := "ServiceAccount", name := serviceAccountName, «namespace» := namespaceName,
         apiGroup := "" }]
      { kind := "ClusterRole", name := clusterRoleName, apiGroup := "rbac.authorization.k8s.io" }
      a.labels)
    "An error occurred creating cluster role binding for logs collector with name '%s'"
    (fun a => [.str a.name])

/-! ## The config map -/

/-- The shape of the two config renderers: parse a template, execute it on `data`, log the
text at debug level and return it. -/
def renderTemplate (name text parseMsg : String) (parseArgs : List FmtArg) (data : TemplateData)
    (executeMsg debugMsg : String) : Collector (Except GoError String) := do
  match ← Template.parse name text with
  | .error e => return .error (.propagated e parseMsg parseArgs)
  | .ok () =>
    match ← Template.execute name text data with
    | .error e => return .error (.propagated e executeMsg [.templateData data])
    | .ok buf =>
      logf .debug debugMsg [.val (.str buf)]
      return .ok buf

/-- The data of the main config template; the parsers file path joins the config mount path
and the parsers file name. -/
def fluentBitConfigData (c : PackageConstants) (logsCollectorHttpPort : UInt16)
    (logsAggregatorHost : String) (logsAggregatorPortNun : UInt16)
    (logsCollectorFilters : List Filter) : FluentBitConfigData where
  httpPort := logsCollectorHttpPort
  userServiceResourceStr := c.userServiceKurtosisResourceTypeKubernetesLabelValue
  checkpointDbMountPath := c.fluentBitCheckpointDbMountPath
  logsEnclaveUUIDLabel := c.logsEnclaveUUIDKubernetesLabelKey
  logsServiceUUIDLabel := c.logsServiceUUIDKubernetesLabelKey
  logsServiceNameLabel := c.logsServiceNameKubernetesLabelKey
  k8sApiServerURL := c.k8sApiServerUrl
  logsAggregatorPortNum := logsAggregatorPortNun
  logsAggregatorHost := logsAggregatorHost
  filters := logsCollectorFilters
  kurtosisParsersConfigFilepath := c.fluentBitConfigMountPath ++ "/" ++ c.parsersFileName

def generateFluentBitConfigStr (c : PackageConstants) (logsCollectorHttpPort : UInt16)
    (logsAggregatorHost : String) (logsAggregatorPortNun : UInt16)
    (logsCollectorFilters : List Filter) : Collector (Except GoError String) :=
  renderTemplate "fluentBitConfig" c.fluentBitConfigTemplate
    "An error occurred parsing fluent bit config template: %v" [.str c.fluentBitConfigTemplate]
    (.fluentBitConfigData (fluentBitConfigData c logsCollectorHttpPort logsAggregatorHost
      logsAggregatorPortNun logsCollectorFilters))
    "An error occurred generating fluent bit config string from fluent bit config data: %v"
    "Generated fluent bit config string: %v"

/-- Its parse error names the main config template, not the parser one it parsed. -/
def generateFluentBitParserConfigStr (c : PackageConstants) (logsCollectorParsers : List Parser) :
    Collector (Except GoError String) :=
  renderTemplate "fluentBitParserConfig" c.parserConfigFileTemplate
    "An error occurred parsing fluent bit config template: %v" [.str c.fluentBitConfigTemplate]
    (.fluentBitParserConfigData logsCollectorParsers)
    "An error occurred generating fluent bit parser config string from fluent bit parser config data: %v."
    "Generated fluent bit parser config string: %v"

/-- The payload of the config map: the two rendered files under their file names. -/
def configMapData (c : PackageConstants) (fluentBitConfigStr fluentBitParserConfigStr : String) :
    GoMap String :=
  GoMap.insert (GoMap.insert [] c.fluentBitConfigFileName fluentBitConfigStr)
    c.parsersFileName fluentBitParserConfigStr

/-- Unlike its siblings it returns the attributes error unwrapped ("already wrapped"), and it
renders both config files before creating the map. -/
def createLogsCollectorConfigMap (c : PackageConstants) (guid namespaceName : String)
    (logsCollectorHttpPortNum : UInt16) (logsAggregatorHost : String)
    (logsAggregatorPortNum : UInt16) (logsCollectorFilters : List Filter)
    (logsCollectorParsers : List Parser) : Collector (Except GoError ObjectMeta) := do
  match ← ObjAttrsProvider.forLogsCollectorObject guid .configMap with
  | .error e => return .error e
  | .ok attrs =>
    match ← generateFluentBitConfigStr c logsCollectorHttpPortNum logsAggregatorHost
        logsAggregatorPortNum logsCollectorFilters with
    | .error e =>
      return .error (.propagated e "An error occurred generating fluent bit config string." [])
    | .ok fluentBitConfigStr =>
      match ← generateFluentBitParserConfigStr c logsCollectorParsers with
      | .error e => return .error (.propagated e
          "An error occurred generating fluent bit parser config string." [])
      | .ok fluentBitParserConfigStr =>
        match ← KubernetesManager.create (.createConfigMap namespaceName attrs.name attrs.labels
            attrs.annotations (configMapData c fluentBitConfigStr fluentBitParserConfigStr)) with
        | .error e => return .error (.propagated e
            "An error occurred while creating config map for fluent bit log collector config." [])
        | .ok configMap => return .ok configMap

/-! ## The daemon set -/

/-- The one container of the pod template, with the six volume mounts of the node's log
directories, the rendered config, the host logs and the checkpoint database. -/
def fluentBitContainers (c : PackageConstants) (ports : List ContainerPort) : List Container :=
  [{ name := c.fluentBitContainerName
     image := c.fluentBitImage
     command := ["/fluent-bit/bin/fluent-bit"]
     args := ["--workdir=/fluent-bit/etc", "--config=" ++ c.fluentBitConfigMountPath ++ "/fluent-bit.conf"]
     ports := ports
     preStopCommand := ["sh", "-c", "rm -rf " ++ c.fluentBitCheckpointDbMountPath ++ "/*"]
     volumeMounts :=
      [⟨c.varLogVolumeName, false, c.varLogMountPath⟩,
       ⟨c.varLibDockerContainersVolumeName, false, c.varLibDockerContainersMountPath⟩,
       ⟨c.varLogDockerContainersVolumeName, false, c.varLogDockerContainersMountPath⟩,
       ⟨c.fluentBitConfigVolumeName, false, c.fluentBitConfigMountPath⟩,
       ⟨c.fluentBitHostLogsVolumeName, false, c.fluentBitHostLogsMountPath⟩,
       ⟨c.fluentBitCheckpointDbVolumeName, false, c.fluentBitCheckpointDbMountPath⟩] }]

/-- The six volumes the mounts refer to: host paths, and the config map `fluentBitCfgConfigMapName`. -/
def fluentBitVolumes (c : PackageConstants) (fluentBitCfgConfigMapName : String) : List Volume :=
  [⟨c.varLogVolumeName, .hostPath c.varLogMountPath⟩,
   ⟨c.varLibDockerContainersVolumeName, .hostPath c.varLibDockerContainersMountPath⟩,
   ⟨c.varLogDockerContainersVolumeName, .hostPath c.varLogDockerContainersMountPath⟩,
   ⟨c.fluentBitConfigVolumeName, .configMap fluentBitCfgConfigMapName⟩,
   ⟨c.fluentBitHostLogsVolumeName, .hostPath c.fluentBitHostLogsMountPath⟩,
   ⟨c.fluentBitCheckpointDbVolumeName, .hostPath c.fluentBitCheckpointDbMountPath⟩]

def createLogsCollectorDaemonSet (c : PackageConstants) (guid namespaceName
    fluentBitCfgConfigMapName serviceAccountName : String) (ports : List ContainerPort) :
    Collector (Except GoError ObjectMeta) :=
  createFromAttributes guid .daemonSet
    "An error occurred getting logs collector daemon set attributes provider."
    (fun a => .createDaemonSet namespaceName a.name a.labels a.annotations serviceAccountName []
      (fluentBitContainers c ports) (fluentBitVolumes c fluentBitCfgConfigMapName))
    "An error occurred creating daemon set for fluent bit logs collector."
    (fun _ => [])

end FluentbitLogsCollector
