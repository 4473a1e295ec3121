import Mathlib.Data.List.Nodup
import FluentbitLogsCollector.Proofs.Saga
/-!
# What every run of `CreateAndStart` does

Each statement is read off `createAndStart_safe`, over every reply of every call:

* `createAndStart_unwinds_or_commits`: a failed run removes exactly the objects it created, each
  once and most recent first; a successful one removes nothing and returns a closure that
  removes the six in reverse creation order;
* `createAndStart_error_names_stage`: the error is wrapped with the message of the step that
  failed, which lies after the last object created;
* `createAndStart_names_created_objects`: every object a creation call names was created
  earlier in the run;
* `createAndStart_reports_failed_removals`: every failed removal call, in the unwind or in the
  returned closure, is followed by an "ACTION REQUIRED" line naming the object, and no object
  is the target of two removal calls;
* `createAndStart_ok_after_ready`: a successful run ends with a query that found a ready pod of
  the daemon set it created.
-/

namespace FluentbitLogsCollector

open Program

/-- `CreateAndStart` either fails, having removed exactly the objects it created in the run,
each once and most recent first; or succeeds without removing anything, having created the six
objects in `creationOrder`, and returns them with a closure that removes the six in reverse,
the order a failure after the daemon set removes them in. -/
theorem createAndStart_unwinds_or_commits (c : PackageConstants) (logsAggregatorHost : String)
    (logsAggregatorPort tcpPortNumber httpPortNumber : UInt16)
    (logsCollectorTcpPortId logsCollectorHttpPortId : String)
    (logsCollectorFilters : List Filter) (logsCollectorParsers : List Parser)
    {t : List Event} {r : Except GoError LogsCollectorObjects}
    (h : Runs (createAndStart c logsAggregatorHost logsAggregatorPort tcpPortNumber
      httpPortNumber logsCollectorTcpPortId logsCollectorHttpPortId logsCollectorFilters
      logsCollectorParsers) t r) :
    (∀ e, r = .error e →
      (created t).map Prod.fst <+: creationOrder ∧ removals t = (created t).reverse) ∧
    (∀ objs, r = .ok objs → (created t).map Prod.fst = creationOrder ∧ removals t = [] ∧
      objs.resources = (created t).reverse ∧ objs.TearsDown) := by
  obtain ⟨hout, -, -⟩ := createAndStart_safe c logsAggregatorHost logsAggregatorPort tcpPortNumber
    httpPortNumber logsCollectorTcpPortId logsCollectorHttpPortId logsCollectorFilters
    logsCollectorParsers t r h
  cases r with
  | error e =>
    obtain ⟨hpre, hrem, -⟩ := hout
    exact ⟨fun _ _ => ⟨hpre, by simpa using hrem⟩, fun _ h => (by cases h)⟩
  | ok objs =>
    obtain ⟨hkinds, hrem, hres, htd, -, -⟩ := hout
    refine ⟨fun _ h => (by cases h), fun _ h => ?_⟩
    cases h
    exact ⟨hkinds, hrem, by simpa using hres, htd⟩

/-! ## No object is removed twice -/

theorem creationOrder_nodup : creationOrder.Nodup := by decide

/-- Resources of distinct kinds of `creationOrder`, such as those a run creates, are distinct. -/
theorem nodup_of_kinds_prefix {rs : List Resource} (h : rs.map Prod.fst <+: creationOrder) :
    rs.Nodup :=
  (creationOrder_nodup.sublist h.sublist).of_map _

/-- The six objects are of six kinds. -/
theorem LogsCollectorObjects.resources_nodup (objs : LogsCollectorObjects) :
    objs.resources.Nodup :=
  List.Nodup.of_map Prod.fst (by simp [LogsCollectorObjects.resources])

/-- A run that creates the namespace and is refused the service account. -/
def serviceAccountRefused : List Event :=
  [⟨.generateUUIDString, .ok "1"⟩,
    ⟨.objectAttributes "1" .«namespace», .ok ⟨"kurtosis-logs", [], []⟩⟩,
    ⟨.create (.createNamespace "kurtosis-logs" [] []), .ok ⟨"kurtosis-logs", ""⟩⟩,
    ⟨.objectAttributes "1" .serviceAccount, .ok ⟨"kurtosis-logs", [], []⟩⟩,
    ⟨.create (.createServiceAccount "kurtosis-logs" "kurtosis-logs" []),
      .error (.external "forbidden")⟩,
    ⟨.remove (.removeNamespace ⟨"kurtosis-logs", ""⟩), .ok ()⟩]

theorem runs_serviceAccountRefused :
    Runs (createAndStart default "" 0 0 0 "" "" [] []) serviceAccountRefused
      (.error (.propagated (.propagated (.external "forbidden")
        "An error occurred creating service account for logs collector with name '%s'"
        [.str "kurtosis-logs"])
        "An error occurred while trying to create service account for fluent bit log collector."
        [])) :=
  .call _ <| .call _ <| .call _ <| .call _ <| .call _ <| .call _ <| .pure _

theorem createAndStart_unwinds_refused_service_account :
    Runs (createAndStart default "" 0 0 0 "" "" [] []) serviceAccountRefused
      (.error (.propagated (.propagated (.external "forbidden")
        "An error occurred creating service account for logs collector with name '%s'"
        [.str "kurtosis-logs"])
        "An error occurred while trying to create service account for fluent bit log collector."
        [])) ∧
    removals serviceAccountRefused = (created serviceAccountRefused).reverse :=
  ⟨runs_serviceAccountRefused,
    ((createAndStart_unwinds_or_commits default "" 0 0 0 "" "" [] []
      runs_serviceAccountRefused).1 _ rfl).2⟩

/-- When `CreateAndStart` fails, it returns the error of its failed step wrapped with that
step's message, and the step is one after the last object the run created and before the next
kind of `creationOrder`: the message tells how far the run got. -/
theorem createAndStart_error_names_stage (c : PackageConstants) (logsAggregatorHost : String)
    (logsAggregatorPort tcpPortNumber httpPortNumber : UInt16)
    (logsCollectorTcpPortId logsCollectorHttpPortId : String)
    (logsCollectorFilters : List Filter) (logsCollectorParsers : List Parser)
    {t : List Event} {e : GoError}
    (h : Runs (createAndStart c logsAggregatorHost logsAggregatorPort tcpPortNumber
      httpPortNumber logsCollectorTcpPortId logsCollectorHttpPortId logsCollectorFilters
      logsCollectorParsers) t (.error e)) :
    ∃ cause msg args, e = .propagated cause msg args ∧
      msg ∈ failureMessages (creationOrder.drop (created t).length) := by
  obtain ⟨⟨-, -, -, hmsg⟩, -, -⟩ := createAndStart_safe c logsAggregatorHost logsAggregatorPort
    tcpPortNumber httpPortNumber logsCollectorTcpPortId logsCollectorHttpPortId
    logsCollectorFilters logsCollectorParsers t _ h
  exact hmsg

theorem createAndStart_error_names_stage_refused_service_account :
    Runs (createAndStart default "" 0 0 0 "" "" [] []) serviceAccountRefused
      (.error (.propagated (.propagated (.external "forbidden")
        "An error occurred creating service account for logs collector with name '%s'"
        [.str "kurtosis-logs"])
        "An error occurred while trying to create service account for fluent bit log collector."
        [])) ∧
    ∃ cause msg args, GoError.propagated (.propagated (.external "forbidden")
        "An error occurred creating service account for logs collector with name '%s'"
        [.str "kurtosis-logs"])
        "An error occurred while trying to create service account for fluent bit log collector."
        [] = .propagated cause msg args ∧
      msg ∈ failureMessages (creationOrder.drop (created serviceAccountRefused).length) :=
  ⟨runs_serviceAccountRefused,
    createAndStart_error_names_stage default "" 0 0 0 "" "" [] [] runs_serviceAccountRefused⟩

/-- Every object a creation call of `CreateAndStart` names was created earlier in the same run:
the namespace of the service account, the config map and the daemon set; the service account,
its namespace and the cluster role of the binding; the service account and the config map of
the daemon set. -/
theorem createAndStart_names_created_objects (c : PackageConstants) (logsAggregatorHost : String)
    (logsAggregatorPort tcpPortNumber httpPortNumber : UInt16)
    (logsCollectorTcpPortId logsCollectorHttpPortId : String)
    (logsCollectorFilters : List Filter) (logsCollectorParsers : List Parser)
    {t : List Event} {r : Except GoError LogsCollectorObjects}
    (h : Runs (createAndStart c logsAggregatorHost logsAggregatorPort tcpPortNumber
      httpPortNumber logsCollectorTcpPortId logsCollectorHttpPortId logsCollectorFilters
      logsCollectorParsers) t r) :
    Guarded (NamesCreated []) [] t :=
  (createAndStart_safe c logsAggregatorHost logsAggregatorPort tcpPortNumber httpPortNumber
    logsCollectorTcpPortId logsCollectorHttpPortId logsCollectorFilters logsCollectorParsers
    t r h).2.1

theorem createAndStart_names_created_objects_refused_service_account :
    Runs (createAndStart default "" 0 0 0 "" "" [] []) serviceAccountRefused
      (.error (.propagated (.propagated (.external "forbidden")
        "An error occurred creating service account for logs collector with name '%s'"
        [.str "kurtosis-logs"])
        "An error occurred while trying to create service account for fluent bit log collector."
        [])) ∧
    Guarded (NamesCreated []) [] serviceAccountRefused :=
  ⟨runs_serviceAccountRefused,
    createAndStart_names_created_objects default "" 0 0 0 "" "" [] [] runs_serviceAccountRefused⟩

/-- Every removal call that fails in a run of `CreateAndStart`, or in a run of the closure it
returns, is followed at once by two error lines, the second of which asks for the object, by
kind, name and namespace, to be removed by hand; and no object is the target of two removal
calls of such a run, so that a failed removal is not retried. -/
theorem createAndStart_reports_failed_removals (c : PackageConstants)
    (logsAggregatorHost : String) (logsAggregatorPort tcpPortNumber httpPortNumber : UInt16)
    (logsCollectorTcpPortId logsCollectorHttpPortId : String)
    (logsCollectorFilters : List Filter) (logsCollectorParsers : List Parser)
    {t : List Event} {r : Except GoError LogsCollectorObjects}
    (h : Runs (createAndStart c logsAggregatorHost logsAggregatorPort tcpPortNumber
      httpPortNumber logsCollectorTcpPortId logsCollectorHttpPortId logsCollectorFilters
      logsCollectorParsers) t r) :
    FailedRemovalsReported t ∧ (removals t).Nodup ∧
      ∀ objs, r = .ok objs → ReportsFailures objs.removeLogsCollectorFunc ∧
        ∀ t' u, Runs objs.removeLogsCollectorFunc t' u → (removals t').Nodup := by
  obtain ⟨hout, -, hrep⟩ := createAndStart_safe c logsAggregatorHost logsAggregatorPort
    tcpPortNumber httpPortNumber logsCollectorTcpPortId logsCollectorHttpPortId
    logsCollectorFilters logsCollectorParsers t r h
  cases r with
  | error e =>
    obtain ⟨hpre, hrem, -⟩ := hout
    -- the unwind removes what was created, one object of each kind
    have hunwind : removals t = (created t).reverse := by simpa using hrem
    refine ⟨hrep, ?_, fun _ h => (by cases h)⟩
    rw [hunwind, List.nodup_reverse]
    exact nodup_of_kinds_prefix hpre
  | ok objs =>
    obtain ⟨-, hrem, -, htd, hclosure, -⟩ := hout
    refine ⟨hrep, hrem ▸ List.nodup_nil, fun _ h => ?_⟩
    cases h
    exact ⟨hclosure, fun t' u h' => (htd t' u h').1 ▸ objs.resources_nodup⟩

/-- The run `serviceAccountRefused`, with the removal of the namespace failing as well. -/
def namespaceRemovalFailed : List Event :=
  serviceAccountRefused.dropLast ++
    [⟨.remove (.removeNamespace ⟨"kurtosis-logs", ""⟩), .error (.external "namespace terminating")⟩,
      ⟨.log .error ("Launching the logs collector daemon set with name '%v' didn't complete " ++
        "successfully so we tried to remove the " ++ "namespace" ++
        " we started, but doing so exited with an error:\n%v")
        [.val (.str "kurtosis-logs"), .err (.external "namespace terminating")], ()⟩,
      ⟨.log .error "ACTION REQUIRED: You'll need to manually remove the logs collector namespace with Kubernetes name '%v'!!!!!!"
        [.val (.str "kurtosis-logs")], ()⟩]

theorem createAndStart_reports_failed_removals_namespace :
    Runs (createAndStart default "" 0 0 0 "" "" [] []) namespaceRemovalFailed
      (.error (.propagated (.propagated (.external "forbidden")
        "An error occurred creating service account for logs collector with name '%s'"
        [.str "kurtosis-logs"])
        "An error occurred while trying to create service account for fluent bit log collector."
        [])) ∧
    FailedRemovalsReported namespaceRemovalFailed ∧ (removals namespaceRemovalFailed).Nodup := by
  have h : Runs (createAndStart default "" 0 0 0 "" "" [] []) namespaceRemovalFailed
      (.error (.propagated (.propagated (.external "forbidden")
        "An error occurred creating service account for logs collector with name '%s'"
        [.str "kurtosis-logs"])
        "An error occurred while trying to create service account for fluent bit log collector."
        [])) :=
    .call _ <| .call _ <| .call _ <| .call _ <| .call _ <| .call _ <| .call _ <| .call _ <|
    .pure _
  have hreport := createAndStart_reports_failed_removals default "" 0 0 0 "" "" [] [] h
  exact ⟨h, hreport.1, hreport.2.1⟩

/-! ## Readiness before success -/

/-- A successful `CreateAndStart` returns right after a query of the pods of the daemon set it
returns, its last call, found the first container of the first pod ready; a daemon set of that
name was created in the returned namespace earlier in the run. -/
theorem createAndStart_ok_after_ready (c : PackageConstants) (logsAggregatorHost : String)
    (logsAggregatorPort tcpPortNumber httpPortNumber : UInt16)
    (logsCollectorTcpPortId logsCollectorHttpPortId : String)
    (logsCollectorFilters : List Filter) (logsCollectorParsers : List Parser)
    {t : List Event} {objs : LogsCollectorObjects}
    (h : Runs (createAndStart c logsAggregatorHost logsAggregatorPort tcpPortNumber
      httpPortNumber logsCollectorTcpPortId logsCollectorHttpPortId logsCollectorFilters
      logsCollectorParsers) t (.ok objs)) :
    ∃ pre pods, t = pre ++ [podQueryEvent objs.daemonSet (.ok pods)] ∧
      firstPodReady pods = true ∧
      (.daemonSet, ⟨objs.daemonSet.name, objs.ns.name⟩) ∈ created pre := by
  obtain ⟨⟨-, -, hres, -, -, t₁, t₂, rfl, hw⟩, -, -⟩ := createAndStart_safe c logsAggregatorHost
    logsAggregatorPort tcpPortNumber httpPortNumber logsCollectorTcpPortId
    logsCollectorHttpPortId logsCollectorFilters logsCollectorParsers _ _ h
  obtain ⟨pre, pods, rfl, hready, -⟩ := (runs_waitAttempts hw).ready_of_none rfl
  -- the daemon set heads the returned objects, which are the created ones, most recent first
  have hmem : (ResourceKind.daemonSet, ⟨objs.daemonSet.name, objs.ns.name⟩) ∈ objs.resources :=
    List.mem_cons_self _ _
  refine ⟨t₁ ++ pre, pods, by simp, hready, ?_⟩
  simpa [hres, podQueryEvent, Event.created?, or_comm] using hmem

/-- The run of the end-to-end scenario with the constants `c`: every call succeeds, and the first
pod of the daemon set is ready at the first tick. -/
def collectorStartedWith (c : PackageConstants) : List Event :=
  let ns : ObjectMeta := ⟨"kurtosis-logs", ""⟩
  let serviceAccount : ObjectMeta := ⟨"kurtosis-logs-collector", "kurtosis-logs"⟩
  let clusterRole : ObjectMeta := ⟨"kurtosis-logs-collector", ""⟩
  let configMap : ObjectMeta := ⟨"kurtosis-logs-collector-config", "kurtosis-logs"⟩
  let httpPortSpec : PortSpec := ⟨2020, .tcp, httpProtocolStr⟩
  let tcpPortSpec : PortSpec := ⟨24224, .tcp, httpProtocolStr⟩
  let ports : List ContainerPort := [⟨"http", 2020, "TCP"⟩, ⟨"tcp", 24224, "TCP"⟩]
  [⟨.generateUUIDString, .ok "1"⟩,
    ⟨.objectAttributes "1" .«namespace», .ok ⟨"kurtosis-logs", [], []⟩⟩,
    ⟨.create (.createNamespace "kurtosis-logs" [] []), .ok ns⟩,
    ⟨.objectAttributes "1" .serviceAccount, .ok ⟨"kurtosis-logs-collector", [], []⟩⟩,
    ⟨.create (.createServiceAccount "kurtosis-logs-collector" "kurtosis-logs" []),
      .ok serviceAccount⟩,
    ⟨.objectAttributes "1" .clusterRole, .ok ⟨"kurtosis-logs-collector", [], []⟩⟩,
    ⟨.create (.createClusterRoles "kurtosis-logs-collector" logsCollectorClusterRoleRules []),
      .ok clusterRole⟩,
    ⟨.objectAttributes "1" .clusterRoleBinding, .ok ⟨"kurtosis-logs-collector", [], []⟩⟩,
    ⟨.create (.createClusterRoleBindings "kurtosis-logs-collector"
      [{ kind := "ServiceAccount", name := "kurtosis-logs-collector",
         «namespace» := "kurtosis-logs", apiGroup := "" }]
      { kind := "ClusterRole", name := "kurtosis-logs-collector",
        apiGroup := "rbac.authorization.k8s.io" } []), .ok clusterRole⟩,
    ⟨.objectAttributes "1" .configMap, .ok ⟨"kurtosis-logs-collector-config", [], []⟩⟩,
    ⟨.parseTemplate "fluentBitConfig" c.fluentBitConfigTemplate, .ok ()⟩,
    ⟨.executeTemplate "fluentBitConfig" c.fluentBitConfigTemplate
      (.fluentBitConfigData (fluentBitConfigData c 2020 "agg.local" 9000 [])),
      .ok "[SERVICE]"⟩,
    ⟨.log .debug "Generated fluent bit config string: %v" [.val (.str "[SERVICE]")], ()⟩,
    ⟨.parseTemplate "fluentBitParserConfig" c.parserConfigFileTemplate, .ok ()⟩,
    ⟨.executeTemplate "fluentBitParserConfig" c.parserConfigFileTemplate
      (.fluentBitParserConfigData []), .ok ""⟩,
    ⟨.log .debug "Generated fluent bit parser config string: %v" [.val (.str "")], ()⟩,
    ⟨.create (.createConfigMap "kurtosis-logs" "kurtosis-logs-collector-config" [] []
      (configMapData c "[SERVICE]" "")), .ok configMap⟩,
    ⟨.newPortSpec 2020 .tcp httpProtocolStr emptyUrl, .ok httpPortSpec⟩,
    ⟨.newPortSpec 24224 .tcp httpProtocolStr emptyUrl, .ok tcpPortSpec⟩,
    ⟨.getKubernetesContainerPortsFromPrivatePortSpecs
      (GoMap.insert (GoMap.insert [] "tcp" tcpPortSpec) "http" httpPortSpec), .ok ports⟩,
    ⟨.objectAttributes "1" .daemonSet, .ok ⟨"kurtosis-logs-collector", [], []⟩⟩,
    ⟨.create (.createDaemonSet "kurtosis-logs" "kurtosis-logs-collector" [] []
      "kurtosis-logs-collector" [] (fluentBitContainers c ports)
      (fluentBitVolumes c "kurtosis-logs-collector-config")), .ok fluentBitDaemonSet⟩,
    tickEvent,
    podQueryEvent fluentBitDaemonSet (.ok [fluentBitPod])]

/-- The scenario with the default constants. -/
def collectorStarted : List Event := collectorStartedWith default

/-- The objects the run `collectorStarted` returns. -/
def collectorStartedObjects : LogsCollectorObjects :=
  let ns : ObjectMeta := ⟨"kurtosis-logs", ""⟩
  let serviceAccount : ObjectMeta := ⟨"kurtosis-logs-collector", "kurtosis-logs"⟩
  let clusterRole : ObjectMeta := ⟨"kurtosis-logs-collector", ""⟩
  let configMap : ObjectMeta := ⟨"kurtosis-logs-collector-config", "kurtosis-logs"⟩
  ⟨fluentBitDaemonSet, configMap, ns, serviceAccount, clusterRole, clusterRole,
    removeLogsCollectorFunc ns serviceAccount clusterRole clusterRole configMap fluentBitDaemonSet⟩

theorem runs_collectorStartedWith (c : PackageConstants) :
    Runs (createAndStart c "agg.local" 9000 24224 2020 "tcp" "http" [] [])
      (collectorStartedWith c) (.ok collectorStartedObjects) :=
  .call _ <| .call _ <| .call _ <| .call _ <| .call _ <| .call _ <| .call _ <| .call _ <|
  .call _ <| .call _ <| .call _ <| .call _ <| .call _ <| .call _ <| .call _ <| .call _ <|
  .call _ <| .call _ <| .call _ <| .call _ <| .call _ <| .call _ <| .call _ <| .call _ <|
  .pure _

theorem runs_collectorStarted :
    Runs (createAndStart default "agg.local" 9000 24224 2020 "tcp" "http" [] [])
      collectorStarted (.ok collectorStartedObjects) :=
  runs_collectorStartedWith default

theorem createAndStart_ok_after_ready_started :
    Runs (createAndStart default "agg.local" 9000 24224 2020 "tcp" "http" [] [])
      collectorStarted (.ok collectorStartedObjects) ∧
    ∃ pre pods, collectorStarted = pre ++ [podQueryEvent fluentBitDaemonSet (.ok pods)] ∧
      firstPodReady pods = true ∧ (.daemonSet, fluentBitDaemonSet) ∈ created pre :=
  ⟨runs_collectorStarted,
    createAndStart_ok_after_ready default "agg.local" 9000 24224 2020 "tcp" "http" [] []
      runs_collectorStarted⟩

end FluentbitLogsCollector
