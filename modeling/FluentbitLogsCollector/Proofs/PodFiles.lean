import FluentbitLogsCollector.Proofs.CreateAndStart
import FluentbitLogsCollector.Proofs.Eviction
/-!
# What the collector's pod reads

A successful `CreateAndStart` renders the fluent bit config and the parser config, stores both in
the config map, and creates the daemon set whose pod template mounts that config map and the
node's checkpoint directory. Kubernetes shows a config map volume as one file per key of the
map's data, under the mount path, and a host path volume as the node's directory.

* `runs_createAndStart_ok`: what every successful run did: the two renderings, the creation of
  the config map holding the rendered texts, and the creation of the daemon set with the
  collector's pod template, both in the returned namespace;
* `createAndStart_pod_reads_rendered_config`: in every successful run, when the six volumes of
  the pod template have distinct names, the container reads the rendered parser config at the
  path the rendered config names, the rendered config at its `--config` path when the constants
  name it `fluent-bit.conf`, and keeps its checkpoints, at the path the rendered config names,
  on the node directory that every run of `Clean` removes.
-/

namespace FluentbitLogsCollector

open Program

/-! ## Volumes and the files they show -/

/-- The source of the pod's volume `name`. The API server rejects a pod with two volumes of one
name, so in a pod it accepts this is the one volume of that name. -/
def volumeSource? (vols : List Volume) (name : String) : Option VolumeSource :=
  (vols.find? fun v => v.name = name).map Volume.volumeSource

/-- The container `ctr`, in a pod with the volumes `vols`, finds `content` at `path` in the
config map `configMap` holding `data`: one of its mounts shows a volume of that config map, and
`path` joins the mount path and a key that `data` maps to `content`. -/
def ReadsConfigMapFile (vols : List Volume) (ctr : Container) (configMap : String)
    (data : GoMap String) (path content : String) : Prop :=
  ∃ m ∈ ctr.volumeMounts, volumeSource? vols m.name = some (.configMap configMap) ∧
    ∃ key, path = m.mountPath ++ "/" ++ key ∧ data.lookup key = some content

/-- The directory `path` of the container `ctr`, in a pod with the volumes `vols`, is the node's
directory `hostDir`: a mount at `path` shows a host path volume of that directory. -/
def MountsHostDir (vols : List Volume) (ctr : Container) (path hostDir : String) : Prop :=
  ∃ m ∈ ctr.volumeMounts, m.mountPath = path ∧ volumeSource? vols m.name = some (.hostPath hostDir)

/-- The six volumes of the pod template have distinct names, as the API server requires. -/
def DistinctVolumeNames (c : PackageConstants) : Prop :=
  [c.varLogVolumeName, c.varLibDockerContainersVolumeName, c.varLogDockerContainersVolumeName,
    c.fluentBitConfigVolumeName, c.fluentBitHostLogsVolumeName,
    c.fluentBitCheckpointDbVolumeName].Nodup

instance (c : PackageConstants) : Decidable (DistinctVolumeNames c) :=
  inferInstanceAs (Decidable (List.Nodup _))

/-- The node directory a call removes. -/
def Event.removedDir? : Event → Option String
  | ⟨.removeDirPathFromNode _ _ dirPath, _⟩ => some dirPath
  | _ => none

theorem Event.removedDir?_eq_none {e : Event} (h : e.removesDir = false) : e.removedDir? = none := by
  obtain ⟨r, v⟩ := e
  cases r <;> simp_all [Event.removesDir, Event.removedDir?]

/-! ## The pod template and the config map -/

section PodTemplate

variable {c : PackageConstants} (hc : DistinctVolumeNames c) (name : String)
include hc

theorem volumeSource?_fluentBitConfig :
    volumeSource? (fluentBitVolumes c name) c.fluentBitConfigVolumeName = some (.configMap name) := by
  simp only [DistinctVolumeNames, List.nodup_cons, List.mem_cons, List.mem_singleton, not_or] at hc
  simp [volumeSource?, fluentBitVolumes, List.find?, hc]

theorem volumeSource?_fluentBitCheckpointDb :
    volumeSource? (fluentBitVolumes c name) c.fluentBitCheckpointDbVolumeName =
      some (.hostPath c.fluentBitCheckpointDbMountPath) := by
  simp only [DistinctVolumeNames, List.nodup_cons, List.mem_cons, List.mem_singleton, not_or] at hc
  simp [volumeSource?, fluentBitVolumes, List.find?, hc, Ne.symm]

variable {ports : List ContainerPort} {ctr : Container} (hctr : ctr ∈ fluentBitContainers c ports)
include hctr

/-- The container reads every key of the config map its config volume names, under the config
mount path. -/
theorem readsConfigMapFile_fluentBitContainers {data : GoMap String} {key content : String}
    (h : data.lookup key = some content) :
    ReadsConfigMapFile (fluentBitVolumes c name) ctr name data
      (c.fluentBitConfigMountPath ++ "/" ++ key) content := by
  simp only [fluentBitContainers, List.mem_singleton] at hctr
  subst hctr
  exact ⟨⟨c.fluentBitConfigVolumeName, false, c.fluentBitConfigMountPath⟩, by simp,
    volumeSource?_fluentBitConfig hc name, key, rfl, h⟩

theorem mountsHostDir_fluentBitContainers :
    MountsHostDir (fluentBitVolumes c name) ctr c.fluentBitCheckpointDbMountPath
      c.fluentBitCheckpointDbMountPath := by
  simp only [fluentBitContainers, List.mem_singleton] at hctr
  subst hctr
  exact ⟨⟨c.fluentBitCheckpointDbVolumeName, false, c.fluentBitCheckpointDbMountPath⟩, by simp,
    rfl, volumeSource?_fluentBitCheckpointDb hc name⟩

end PodTemplate

@[simp] theorem lookup_configMapData_parsers (c : PackageConstants) (cfg parserCfg : String) :
    (configMapData c cfg parserCfg).lookup c.parsersFileName = some parserCfg := by
  simp [configMapData, GoMap.insert]

/-- The rendered config is kept under its file name, unless the parsers file has the same. -/
theorem lookup_configMapData_config {c : PackageConstants} (cfg parserCfg : String)
    (h : c.fluentBitConfigFileName ≠ c.parsersFileName) :
    (configMapData c cfg parserCfg).lookup c.fluentBitConfigFileName = some cfg := by
  simp [configMapData, GoMap.insert, List.lookup_cons, List.filter, bne, beq_eq_false_iff_ne.mpr h]

/-- The one `--config` argument of the container names `fluent-bit.conf` in the config mount. -/
theorem config_arg_fluentBitContainers {c : PackageConstants} {ports : List ContainerPort}
    {ctr : Container} (hctr : ctr ∈ fluentBitContainers c ports) {path : String}
    (h : "--config=" ++ path ∈ ctr.args) :
    path = c.fluentBitConfigMountPath ++ "/" ++ "fluent-bit.conf" := by
  simp only [fluentBitContainers, List.mem_singleton] at hctr
  subst hctr
  simp only [List.mem_cons, List.mem_singleton, List.not_mem_nil, or_false] at h
  rcases h with h | h
  · have := congrArg String.data h
    simp at this
  · have := congrArg String.data h
    simp only [String.data_append, List.append_assoc, List.append_cancel_left_eq] at this
    exact String.ext (by simpa using this)

/-! ## What a successful run did -/

section Successful

variable {α β : Type} {t : List Event}

/-- A run of `check` that returns a value went on past its step, which returned a value. -/
theorem Frame.runs_check_ok {fr : Frame} {step : Collector (Except GoError α)} {msg : String}
    {args : List FmtArg} {k : α → Collector (Except GoError β)} {b : β}
    (h : Runs (fr.check step msg args k) t (.ok b)) :
    ∃ t₁ a t₂, Runs step t₁ (.ok a) ∧ Runs (k a) t₂ (.ok b) ∧ t = t₁ ++ t₂ := by
  obtain ⟨t₁, v, t₂, h₁, h₂, rfl⟩ := runs_bind_iff.mp h
  rcases v with e | a
  · cases Frame.result_of_runs_ret h₂
  · exact ⟨t₁, a, t₂, h₁, h₂, rfl⟩

theorem runs_renderTemplate_ok {name text parseMsg executeMsg debugMsg : String}
    {parseArgs : List FmtArg} {data : TemplateData} {buf : String}
    (h : Runs (renderTemplate name text parseMsg parseArgs data executeMsg debugMsg) t (.ok buf)) :
    (⟨.executeTemplate name text data, .ok buf⟩ : Event) ∈ t := by
  simp only [renderTemplate, Template.parse, Template.execute, logf, call_bind,
    pure_bind_eq] at h
  obtain ⟨v, t₁, rfl, h₁⟩ := runs_call_iff.mp h
  rcases v with e | ⟨⟩
  · simp at h₁
  obtain ⟨v, t₂, rfl, h₂⟩ := runs_call_iff.mp h₁
  rcases v with e | buf'
  · simp at h₂
  obtain ⟨⟨⟩, t₃, rfl, h₃⟩ := runs_call_iff.mp h₂
  obtain ⟨rfl, h₄⟩ := runs_pure_iff.mp h₃
  cases h₄
  simp

theorem runs_createFromAttributes_ok {guid : String} {kind : ResourceKind}
    {attributesMsg createMsg : String} {createCall : ObjectAttributes → CreateCall}
    {createArgs : ObjectAttributes → List FmtArg} {obj : ObjectMeta}
    (h : Runs (createFromAttributes guid kind attributesMsg createCall createMsg createArgs) t
      (.ok obj)) :
    ∃ attrs, (⟨.create (createCall attrs), .ok obj⟩ : Event) ∈ t := by
  simp only [createFromAttributes, ObjAttrsProvider.forLogsCollectorObject,
    KubernetesManager.create, call_bind, pure_bind_eq] at h
  obtain ⟨v, t₁, rfl, h₁⟩ := runs_call_iff.mp h
  rcases v with e | attrs
  · simp at h₁
  obtain ⟨v, t₂, rfl, h₂⟩ := runs_call_iff.mp h₁
  rcases v with e | obj'
  · simp at h₂
  obtain ⟨rfl, h₃⟩ := runs_pure_iff.mp h₂
  cases h₃
  exact ⟨attrs, by simp⟩

/-- A successful run of the config map helper rendered both configs and created the map holding
them. -/
theorem runs_createLogsCollectorConfigMap_ok {c : PackageConstants}
    {guid namespaceName host : String} {httpPort port : UInt16} {filters : List Filter}
    {parsers : List Parser} {configMap : ObjectMeta}
    (h : Runs (createLogsCollectorConfigMap c guid namespaceName httpPort host port filters
      parsers) t (.ok configMap)) :
    ∃ (attrs : ObjectAttributes) (cfg parserCfg : String),
      (⟨.executeTemplate "fluentBitConfig" c.fluentBitConfigTemplate
        (.fluentBitConfigData (fluentBitConfigData c httpPort host port filters)), .ok cfg⟩ :
          Event) ∈ t ∧
      (⟨.executeTemplate "fluentBitParserConfig" c.parserConfigFileTemplate
        (.fluentBitParserConfigData parsers), .ok parserCfg⟩ : Event) ∈ t ∧
      (⟨.create (.createConfigMap namespaceName attrs.name attrs.labels attrs.annotations
        (configMapData c cfg parserCfg)), .ok configMap⟩ : Event) ∈ t := by
  simp only [createLogsCollectorConfigMap, ObjAttrsProvider.forLogsCollectorObject,
    call_bind, pure_bind_eq] at h
  obtain ⟨v, t₁, rfl, h₁⟩ := runs_call_iff.mp h
  rcases v with e | attrs
  · simp at h₁
  obtain ⟨tc, v, t₂, hcfg, h₂, rfl⟩ := runs_bind_iff.mp h₁
  rcases v with e | cfg
  · simp at h₂
  obtain ⟨tp, v, t₃, hparser, h₃, rfl⟩ := runs_bind_iff.mp h₂
  rcases v with e | parserCfg
  · simp at h₃
  simp only [KubernetesManager.create, call_bind, pure_bind_eq] at h₃
  obtain ⟨v, t₄, rfl, h₄⟩ := runs_call_iff.mp h₃
  rcases v with e | configMap'
  · simp at h₄
  obtain ⟨rfl, h₅⟩ := runs_pure_iff.mp h₄
  cases h₅
  exact ⟨attrs, cfg, parserCfg, by simp [runs_renderTemplate_ok hcfg],
    by simp [runs_renderTemplate_ok hparser], by simp⟩

/-- A successful run of the tail returns the objects it was given. -/
theorem runs_waitThenCommit_ok {fr : Frame} {ns serviceAccount clusterRole clusterRoleBinding
    configMap daemonSet : ObjectMeta} {objs : LogsCollectorObjects}
    (h : Runs (waitThenCommit fr ns serviceAccount clusterRole clusterRoleBinding configMap
      daemonSet) t (.ok objs)) :
    objs.ns = ns ∧ objs.serviceAccount = serviceAccount ∧ objs.configMap = configMap ∧
      objs.daemonSet = daemonSet := by
  obtain ⟨_, w, _, -, hret, -⟩ := runs_bind_iff.mp h
  rcases w with _ | e
  · cases Frame.result_of_runs_ret hret
    exact ⟨rfl, rfl, rfl, rfl⟩
  · cases Frame.result_of_runs_ret hret

/-- What every successful run of `CreateAndStart` did: it rendered the two configs, created the
config map holding them, and created the daemon set of the collector's pod template, its config
volume naming that config map, both in the returned namespace and the daemon set under the
returned service account. -/
theorem runs_createAndStart_ok {c : PackageConstants} {logsAggregatorHost : String}
    {logsAggregatorPort tcpPortNumber httpPortNumber : UInt16}
    {logsCollectorTcpPortId logsCollectorHttpPortId : String}
    {logsCollectorFilters : List Filter} {logsCollectorParsers : List Parser}
    {objs : LogsCollectorObjects}
    (h : Runs (createAndStart c logsAggregatorHost logsAggregatorPort tcpPortNumber
      httpPortNumber logsCollectorTcpPortId logsCollectorHttpPortId logsCollectorFilters
      logsCollectorParsers) t (.ok objs)) :
    ∃ (cfg parserCfg : String) (configMapAttrs daemonSetAttrs : ObjectAttributes)
      (ports : List ContainerPort),
      (⟨.executeTemplate "fluentBitConfig" c.fluentBitConfigTemplate
        (.fluentBitConfigData (fluentBitConfigData c httpPortNumber logsAggregatorHost
          logsAggregatorPort logsCollectorFilters)), .ok cfg⟩ : Event) ∈ t ∧
      (⟨.executeTemplate "fluentBitParserConfig" c.parserConfigFileTemplate
        (.fluentBitParserConfigData logsCollectorParsers), .ok parserCfg⟩ : Event) ∈ t ∧
      (⟨.create (.createConfigMap objs.ns.name configMapAttrs.name configMapAttrs.labels
        configMapAttrs.annotations (configMapData c cfg parserCfg)), .ok objs.configMap⟩ :
          Event) ∈ t ∧
      (⟨.create (.createDaemonSet objs.ns.name daemonSetAttrs.name daemonSetAttrs.labels
        daemonSetAttrs.annotations objs.serviceAccount.name [] (fluentBitContainers c ports)
        (fluentBitVolumes c objs.configMap.name)), .ok objs.daemonSet⟩ : Event) ∈ t := by
  -- the eleven checks, each of whose steps returned a value
  obtain ⟨_, _, _, -, h₁, rfl⟩ := Frame.runs_check_ok h
  obtain ⟨_, ns, _, -, h₂, rfl⟩ := Frame.runs_check_ok h₁
  obtain ⟨_, serviceAccount, _, -, h₃, rfl⟩ := Frame.runs_check_ok h₂
  obtain ⟨_, _, _, -, h₄, rfl⟩ := Frame.runs_check_ok h₃
  obtain ⟨_, _, _, -, h₅, rfl⟩ := Frame.runs_check_ok h₄
  obtain ⟨_, configMap, _, hc, h₆, rfl⟩ := Frame.runs_check_ok h₅
  obtain ⟨_, _, _, -, h₇, rfl⟩ := Frame.runs_check_ok h₆
  obtain ⟨_, _, _, -, h₈, rfl⟩ := Frame.runs_check_ok h₇
  obtain ⟨_, ports, _, -, h₉, rfl⟩ := Frame.runs_check_ok h₈
  obtain ⟨_, daemonSet, _, hd, h₁₀, rfl⟩ := Frame.runs_check_ok h₉
  obtain ⟨rfl, rfl, rfl, rfl⟩ := runs_waitThenCommit_ok h₁₀
  obtain ⟨configMapAttrs, cfg, parserCfg, hcfg, hparser, hcreated⟩ :=
    runs_createLogsCollectorConfigMap_ok hc
  obtain ⟨daemonSetAttrs, hds⟩ := runs_createFromAttributes_ok hd
  exact ⟨cfg, parserCfg, configMapAttrs, daemonSetAttrs, ports, by simp [hcfg],
    by simp [hparser], by simp [hcreated], by simp [hds]⟩

end Successful

/-! ## The directory `Clean` removes -/

/-- Every directory a run of `Clean` removes from a node is the checkpoint directory. -/
theorem clean_removedDir {c : PackageConstants} {daemonSet : ObjectMeta} {t : List Event}
    {r : Option GoError} (h : Runs (clean c daemonSet) t r) :
    ∀ e ∈ t, ∀ dir, e.removedDir? = some dir → dir = c.fluentBitCheckpointDbMountPath := by
  have of_none : ∀ e : Event, e.removedDir? = none →
      ∀ dir, e.removedDir? = some dir → dir = c.fluentBitCheckpointDbMountPath := by
    intro e he dir hdir
    simp [he] at hdir
  have hterminated : ∀ pod, (podTerminatedEvent pod).removedDir? = none := fun _ => rfl
  rcases runs_clean h with ⟨_, rfl, -⟩ | ⟨pods, -, v, t', rfl, hfail, hok⟩
  · exact List.forall_mem_singleton.mpr (of_none _ rfl)
  refine List.forall_mem_append.mpr ⟨by simpa using ⟨of_none _ rfl, of_none _ rfl, of_none _ rfl⟩, ?_⟩
  rcases v with e' | evicted
  · obtain ⟨rfl, -⟩ := hfail e' rfl
    simp
  -- after the eviction: termination waits, directory removals, then the restore
  rcases runs_cleanAfterEviction_cases (hok evicted rfl) with ⟨_, hw, -⟩ | ⟨td, _, hd, rfl, -⟩ |
    ⟨t'', hr, rfl⟩
  · intro e he
    obtain ⟨pod, -, _, rfl⟩ := (runs_waitForPodsTermination hw).1 e he
    exact of_none _ rfl
  · refine List.forall_mem_append.mpr ⟨by simpa using fun pod _ => of_none _ (hterminated pod), ?_⟩
    intro e he
    obtain ⟨node, -, _, rfl⟩ := (runs_removeDirPathFromNodes hd).1 e he
    simp [Event.removedDir?, eq_comm]
  · simp only [List.forall_mem_append, List.forall_mem_map]
    refine ⟨fun pod _ => of_none _ (hterminated pod), fun node _ => ?_, fun e he =>
      of_none e (Event.removedDir?_eq_none (restoreNodeSelectors_removesDir_false hr e he))⟩
    simp [dirRemovedEvent, Event.removedDir?, eq_comm]

/-! ## What the pod reads -/

/-- What the pod of the daemon set of a successful run `t` reads, when the run returned `objs`
and rendered the fluent bit config from `cfgData` and the parser config from `parsers`: the run
created, in the returned namespace, the config map holding `data` and the daemon set whose one
container `ctr` has the volumes `vols`; the container reads the rendered parser config at the
path the rendered config names, and the rendered config at its `--config` path when the
constants name the config file, and not the parsers file, `fluent-bit.conf`; and every
directory a run of `Clean` removes from a node is the one behind the checkpoint path the
rendered config names. -/
def PodReadsRenderedConfig (c : PackageConstants) (cfgData : FluentBitConfigData)
    (parsers : List Parser) (t : List Event) (objs : LogsCollectorObjects) : Prop :=
  ∃ cfg parserCfg data ctr vols,
    (⟨.executeTemplate "fluentBitConfig" c.fluentBitConfigTemplate (.fluentBitConfigData cfgData),
      .ok cfg⟩ : Event) ∈ t ∧
    (⟨.executeTemplate "fluentBitParserConfig" c.parserConfigFileTemplate
      (.fluentBitParserConfigData parsers), .ok parserCfg⟩ : Event) ∈ t ∧
    (∃ name labels annotations, (⟨.create (.createConfigMap objs.ns.name name labels annotations
      data), .ok objs.configMap⟩ : Event) ∈ t) ∧
    (∃ name labels annotations, (⟨.create (.createDaemonSet objs.ns.name name labels annotations
      objs.serviceAccount.name [] [ctr] vols), .ok objs.daemonSet⟩ : Event) ∈ t) ∧
    ReadsConfigMapFile vols ctr objs.configMap.name data cfgData.kurtosisParsersConfigFilepath
      parserCfg ∧
    (∀ path, "--config=" ++ path ∈ ctr.args → c.fluentBitConfigFileName = "fluent-bit.conf" →
      c.parsersFileName ≠ "fluent-bit.conf" →
      ReadsConfigMapFile vols ctr objs.configMap.name data path cfg) ∧
    ∀ daemonSet t' r, Runs (clean c daemonSet) t' r → ∀ e ∈ t', ∀ dir,
      Event.removedDir? e = some dir →
      MountsHostDir vols ctr cfgData.checkpointDbMountPath dir

/-- In every successful run of `CreateAndStart`, when the six volumes of the pod template have
distinct names, the collector's pod reads the configs the run rendered and keeps its
checkpoints on the node directory that `Clean` removes. -/
theorem createAndStart_pod_reads_rendered_config (c : PackageConstants)
    (logsAggregatorHost : String) (logsAggregatorPort tcpPortNumber httpPortNumber : UInt16)
    (logsCollectorTcpPortId logsCollectorHttpPortId : String)
    (logsCollectorFilters : List Filter) (logsCollectorParsers : List Parser)
    {t : List Event} {objs : LogsCollectorObjects}
    (h : Runs (createAndStart c logsAggregatorHost logsAggregatorPort tcpPortNumber
      httpPortNumber logsCollectorTcpPortId logsCollectorHttpPortId logsCollectorFilters
      logsCollectorParsers) t (.ok objs)) (hc : DistinctVolumeNames c) :
    PodReadsRenderedConfig c (fluentBitConfigData c httpPortNumber logsAggregatorHost
      logsAggregatorPort logsCollectorFilters) logsCollectorParsers t objs := by
  obtain ⟨cfg, parserCfg, configMapAttrs, daemonSetAttrs, ports, hcfg, hparser, hcm, hds⟩ :=
    runs_createAndStart_ok h
  have hctr : _ ∈ fluentBitContainers c ports := List.mem_singleton_self _
  refine ⟨cfg, parserCfg, _, _, _, hcfg, hparser, ⟨_, _, _, hcm⟩, ⟨_, _, _, hds⟩,
    readsConfigMapFile_fluentBitContainers hc _ hctr (lookup_configMapData_parsers c _ _),
    fun path harg hname hparsers => ?_, fun _ _ _ hclean e he dir hdir => ?_⟩
  · -- the argument names `fluent-bit.conf`, the key of the rendered config
    rw [config_arg_fluentBitContainers hctr harg, ← hname]
    exact readsConfigMapFile_fluentBitContainers hc _ hctr
      (lookup_configMapData_config _ _ (hname ▸ Ne.symm hparsers))
  · rw [clean_removedDir hclean e he dir hdir]
    exact mountsHostDir_fluentBitContainers hc _ hctr

/-- Constants whose six volumes have distinct names and whose config file is `fluent-bit.conf`. -/
def distinctVolumeConstants : PackageConstants :=
  { (default : PackageConstants) with
    fluentBitConfigFileName := "fluent-bit.conf"
    parsersFileName := "parsers.conf"
    varLogVolumeName := "varlog"
    varLibDockerContainersVolumeName := "varlibdockercontainers"
    varLogDockerContainersVolumeName := "varlogdockercontainers"
    fluentBitConfigVolumeName := "fluent-bit-config"
    fluentBitHostLogsVolumeName := "fluent-bit-host-logs"
    fluentBitCheckpointDbVolumeName := "fluent-bit-db" }

theorem createAndStart_pod_reads_rendered_config_started :
    Runs (createAndStart distinctVolumeConstants "agg.local" 9000 24224 2020 "tcp" "http" [] [])
      (collectorStartedWith distinctVolumeConstants) (.ok collectorStartedObjects) ∧
    DistinctVolumeNames distinctVolumeConstants ∧
    PodReadsRenderedConfig distinctVolumeConstants
      (fluentBitConfigData distinctVolumeConstants 2020 "agg.local" 9000 []) []
      (collectorStartedWith distinctVolumeConstants) collectorStartedObjects :=
  ⟨runs_collectorStartedWith _, by decide,
    createAndStart_pod_reads_rendered_config distinctVolumeConstants "agg.local" 9000 24224 2020
      "tcp" "http" [] [] (runs_collectorStartedWith _) (by decide)⟩

end FluentbitLogsCollector
