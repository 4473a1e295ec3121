import FluentbitLogsCollector.Proofs.Cluster
import FluentbitLogsCollector.Proofs.Clean
/-!
# The collector's lifecycle

The backend provisions the collector with `CreateAndStart`, may then `Clean` its daemon set any
number of times, and tears it down with the closure `CreateAndStart` returned. `Clean` only
reads and patches the daemon set, waits for pods and removes a directory on nodes: none of its
calls creates or removes an object (`runs_clean_changes_no_objects`), whatever they reply.

`collector_lifecycle_leaves_failed_removals`: after a successful provisioning, calls of runs of
`Clean` leave the six objects it added on top of what was; and whatever calls of runs of `Clean`
are interleaved with the teardown, before, during or after it, the teardown leaves what was and
exactly the objects whose removal call failed.
-/

namespace FluentbitLogsCollector

open Program

/-- Whether a call creates or removes an object of the cluster. -/
def Request.changesObjects : Request → Bool
  | .create _ | .remove _ => true
  | _ => false

/-- A call that neither creates nor removes an object leaves the live objects as they are. -/
theorem Event.apply_of_changesObjects_false {e : Event} (h : e.1.changesObjects = false)
    (live : List Resource) : e.apply live = live := by
  obtain ⟨r, v⟩ := e
  cases r <;> first | rfl | cases h

theorem replay_of_changesObjects_false {t : List Event} (h : ∀ x ∈ t, x.1.changesObjects = false)
    (live : List Resource) : replay live t = live := by
  induction t with
  | nil => rfl
  | cons e t ih =>
    rw [List.forall_mem_cons] at h
    rw [replay_cons, Event.apply_of_changesObjects_false h.1, ih h.2]

/-- No call of `t` creates or removes an object, read off a computation over `t`; for calls
written out this closes by `rfl`. -/
theorem changesObjects_false_of_all {t : List Event}
    (h : (t.all fun x => !x.1.changesObjects) = true) : ∀ x ∈ t, x.1.changesObjects = false :=
  fun x hx => by simpa using List.all_eq_true.mp h x hx

/-! ## The calls of `Clean` -/

theorem WaitRun.changesObjects_false {daemonSet : ObjectMeta} {n : Nat} {t : List Event}
    {r : Option GoError} (h : WaitRun daemonSet n t r) : ∀ x ∈ t, x.1.changesObjects = false := by
  induction h with
  | notReady pods _ _ ih => exact List.forall_mem_cons.mpr ⟨rfl, List.forall_mem_cons.mpr ⟨rfl, ih⟩⟩
  | _ => exact changesObjects_false_of_all rfl

section Clean

variable {c : PackageConstants} {daemonSet : ObjectMeta} {t : List Event} {r : Option GoError}

theorem runs_restoreNodeSelectors_changes_no_objects {logsCollectorName : String}
    {evicted : ObjectMeta} (h : Runs (restoreNodeSelectors logsCollectorName evicted) t r) :
    ∀ x ∈ t, x.1.changesObjects = false := by
  rcases runs_restoreNodeSelectors_cases h with ⟨e, rfl, -⟩ | ⟨latest, e, rfl, -⟩ |
    ⟨latest, restored, tw, w, hw, hfailed, hdone⟩
  · exact changesObjects_false_of_all rfl
  · exact changesObjects_false_of_all rfl
  have htw := hw.changesObjects_false
  rcases w with _ | e
  · obtain ⟨rfl, -⟩ := hdone rfl
    exact List.forall_mem_cons.mpr ⟨rfl, List.forall_mem_cons.mpr ⟨rfl,
      List.forall_mem_append.mpr ⟨htw, changesObjects_false_of_all rfl⟩⟩⟩
  · obtain ⟨rfl, -⟩ := hfailed e rfl
    exact List.forall_mem_cons.mpr ⟨rfl, List.forall_mem_cons.mpr ⟨rfl, htw⟩⟩

/-- No call of a run of `Clean` creates or removes an object. -/
theorem runs_clean_changes_no_objects (h : Runs (clean c daemonSet) t r) :
    ∀ x ∈ t, x.1.changesObjects = false := by
  rcases runs_clean h with ⟨e, rfl, -⟩ | ⟨pods, -, v, t', rfl, hfailed, hevicted⟩
  · exact changesObjects_false_of_all rfl
  refine List.forall_mem_append.mpr ⟨changesObjects_false_of_all rfl, ?_⟩
  rcases v with e | evicted
  · obtain ⟨rfl, -⟩ := hfailed e rfl
    exact fun _ hx => absurd hx (List.not_mem_nil _)
  -- after the eviction: the termination waits, the directory removals, then the restore
  have hwait : ∀ {tw rw}, Runs (waitForPodsTermination pods) tw rw →
      ∀ x ∈ tw, x.1.changesObjects = false := fun hw x hx => by
    obtain ⟨_, -, _, rfl⟩ := (runs_waitForPodsTermination hw).1 x hx
    rfl
  have hdirs : ∀ {td rd}, Runs (removeDirPathFromNodes evicted.«namespace»
      c.fluentBitCheckpointDbMountPath (pods.map Pod.nodeName)) td rd →
      ∀ x ∈ td, x.1.changesObjects = false := fun hd x hx => by
    obtain ⟨_, -, _, rfl⟩ := (runs_removeDirPathFromNodes hd).1 x hx
    rfl
  have hterminated : ∀ x ∈ pods.map podTerminatedEvent, x.1.changesObjects = false :=
    List.forall_mem_map.mpr fun _ _ => rfl
  rcases runs_cleanAfterEviction_cases (hevicted evicted rfl) with ⟨e, hw, -⟩ |
    ⟨td, e, hd, rfl, -⟩ | ⟨t'', hr, rfl⟩
  · exact hwait hw
  · exact List.forall_mem_append.mpr ⟨hterminated, hdirs hd⟩
  · refine List.forall_mem_append.mpr ⟨hterminated, List.forall_mem_append.mpr ⟨?_,
      runs_restoreNodeSelectors_changes_no_objects hr⟩⟩
    exact List.forall_mem_map.mpr fun _ _ => rfl

end Clean

/-! ## Interleaved calls -/

/-- `merged` interleaves `t₁` and `t₂`: it holds the elements of both, each list's in its order. -/
inductive Interleaves {E : Type} : List E → List E → List E → Prop
  | nil : Interleaves [] [] []
  | left {x : E} {t₁ t₂ merged : List E} :
      Interleaves t₁ t₂ merged → Interleaves (x :: t₁) t₂ (x :: merged)
  | right {x : E} {t₁ t₂ merged : List E} :
      Interleaves t₁ t₂ merged → Interleaves t₁ (x :: t₂) (x :: merged)

namespace Interleaves

variable {E : Type}

theorem nil_left : ∀ t : List E, Interleaves [] t t
  | [] => .nil
  | _ :: t => .right (nil_left t)

/-- The elements of `t₁`, then those of `t₂`. -/
theorem append : ∀ t₁ t₂ : List E, Interleaves t₁ t₂ (t₁ ++ t₂)
  | [], t₂ => nil_left t₂
  | _ :: t₁, t₂ => .left (append t₁ t₂)

/-- Calls that create and remove nothing, interleaved with `t₁`, leave the live objects `t₁`
leaves. -/
theorem replay_eq {t₁ t₂ merged : List Event} (h : Interleaves t₁ t₂ merged)
    (h₂ : ∀ x ∈ t₂, x.1.changesObjects = false) (live : List Resource) :
    replay live merged = replay live t₁ := by
  induction h generalizing live with
  | nil => rfl
  | left _ ih => exact ih h₂ _
  | right _ ih =>
    rw [List.forall_mem_cons] at h₂
    rw [replay_cons, Event.apply_of_changesObjects_false h₂.1, ih h₂.2]

end Interleaves

/-! ## From provisioning to teardown -/

/-- A successful `CreateAndStart` in `t`, calls `tc` each of which is a call of some run of
`Clean`, and a run `t'` of the closure `CreateAndStart` returned: the calls `tc` after the
provisioning leave the six objects on top of those it started from, and with the calls `tc`
interleaved in any way with the teardown `t'`, the live objects at the end are those the
provisioning started from and exactly the objects whose removal call failed. -/
theorem collector_lifecycle_leaves_failed_removals (c : PackageConstants)
    (logsAggregatorHost : String) (logsAggregatorPort tcpPortNumber httpPortNumber : UInt16)
    (logsCollectorTcpPortId logsCollectorHttpPortId : String)
    (logsCollectorFilters : List Filter) (logsCollectorParsers : List Parser)
    {t : List Event} {objs : LogsCollectorObjects}
    (h : Runs (createAndStart c logsAggregatorHost logsAggregatorPort tcpPortNumber
      httpPortNumber logsCollectorTcpPortId logsCollectorHttpPortId logsCollectorFilters
      logsCollectorParsers) t (.ok objs))
    {tc : List Event}
    (hclean : ∀ x ∈ tc, ∃ c' daemonSet tr r, Runs (clean c' daemonSet) tr r ∧ x ∈ tr)
    {t' : List Event} {u : Unit} (h' : Runs objs.removeLogsCollectorFunc t' u)
    (live : List Resource) :
    replay live (t ++ tc) = objs.resources ++ live ∧
    ∀ merged, Interleaves t' tc merged → replay live (t ++ merged) = failedRemovals t' ++ live := by
  obtain ⟨hlive, hdown⟩ := replay_createAndStart_ok c logsAggregatorHost logsAggregatorPort
    tcpPortNumber httpPortNumber logsCollectorTcpPortId logsCollectorHttpPortId
    logsCollectorFilters logsCollectorParsers h live
  have hcalls : ∀ x ∈ tc, x.1.changesObjects = false := fun x hx => by
    obtain ⟨_, _, _, _, hr, hx'⟩ := hclean x hx
    exact runs_clean_changes_no_objects hr x hx'
  refine ⟨by rw [replay_append, hlive, replay_of_changesObjects_false hcalls], fun merged hm => ?_⟩
  rw [replay_append, hm.replay_eq hcalls, hlive]
  exact (hdown t' u h').2

/-- A run of the closure `collectorStartedObjects` holds in which the removal of the daemon set
fails and the other five removals succeed. -/
def daemonSetRemovalFailed : List Event :=
  [⟨.remove (.removeDaemonSet "kurtosis-logs" fluentBitDaemonSet), .error (.external "conflict")⟩,
    ⟨.log .error ("Launching the logs collector daemon set with name '%v' didn't complete " ++
      "successfully so we tried to remove the " ++ "daemon set" ++
      " we started, but doing so exited with an error:\n%v")
      [.val (.str "kurtosis-logs-collector"), .err (.external "conflict")], ()⟩,
    ⟨.log .error "ACTION REQUIRED: You'll need to manually remove the logs collector daemon set with Kubernetes name '%v' in namespace '%v'!!!!!!"
      [.val (.str "kurtosis-logs-collector"), .val (.str "kurtosis-logs")], ()⟩,
    ⟨.remove (.removeConfigMap "kurtosis-logs" ⟨"kurtosis-logs-collector-config", "kurtosis-logs"⟩),
      .ok ()⟩,
    ⟨.remove (.removeClusterRoleBindings ⟨"kurtosis-logs-collector", ""⟩), .ok ()⟩,
    ⟨.remove (.removeClusterRole ⟨"kurtosis-logs-collector", ""⟩), .ok ()⟩,
    ⟨.remove (.removeServiceAccount ⟨"kurtosis-logs-collector", "kurtosis-logs"⟩), .ok ()⟩,
    ⟨.remove (.removeNamespace ⟨"kurtosis-logs", ""⟩), .ok ()⟩]

theorem runs_daemonSetRemovalFailed :
    Runs collectorStartedObjects.removeLogsCollectorFunc daemonSetRemovalFailed () :=
  .call _ <| .call _ <| .call _ <| .call _ <| .call _ <| .call _ <| .call _ <| .call _ <| .pure _

theorem collector_lifecycle_leaves_failed_removals_daemon_set :
    Runs (createAndStart default "agg.local" 9000 24224 2020 "tcp" "http" [] [])
      collectorStarted (.ok collectorStartedObjects) ∧
    Runs collectorStartedObjects.removeLogsCollectorFunc daemonSetRemovalFailed () ∧
    replay [] (collectorStarted ++ oneNodeCleanup) = collectorStartedObjects.resources ∧
    replay [] (collectorStarted ++ (daemonSetRemovalFailed ++ oneNodeCleanup)) =
      [(.daemonSet, fluentBitDaemonSet)] := by
  obtain ⟨hmid, hend⟩ := collector_lifecycle_leaves_failed_removals default "agg.local" 9000 24224
    2020 "tcp" "http" [] [] runs_collectorStarted
    (fun _ hx => ⟨default, fluentBitDaemonSet, oneNodeCleanup, none, runs_oneNodeCleanup, hx⟩)
    runs_daemonSetRemovalFailed []
  exact ⟨runs_collectorStarted, runs_daemonSetRemovalFailed, hmid.trans (List.append_nil _),
    (hend _ (Interleaves.append _ _)).trans rfl⟩

end FluentbitLogsCollector
