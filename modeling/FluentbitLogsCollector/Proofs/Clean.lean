import FluentbitLogsCollector.Model.Clean
import FluentbitLogsCollector.Proofs.Wait
/-!
# The calls of `Clean`

`runs_forEachUntilError` says once what a run of the loop shape of `Clean` does, and the two
loops are its instances; `runs_restoreNodeSelectors` does the same for the end of `Clean`. From
them:

* `clean_calls_in_order`: in every run, the termination waits follow the successful eviction
  patch, the directory removals follow a successful termination wait of every discovered pod,
  the re-fetch and the restore patch follow a successful removal of the checkpoint directory on
  the node of every discovered pod, and no call follows a failed one;
* `clean_panics_on_no_pods`: a run whose discovery finds no pod panics after that one call, in
  `Propagate`, and never returns;
* `clean_nil_after_cleanup`: a nil return comes at the end of the whole cleanup.
-/

namespace FluentbitLogsCollector

open Program

/-- A termination wait of `pod` that succeeded. -/
def podTerminatedEvent (pod : Pod) : Event :=
  ⟨.waitForPodTermination pod.«namespace» pod.name, .ok ()⟩

/-- A removal of `dirPath` from `node`, through a pod in `namespaceName`, that succeeded. -/
def dirRemovedEvent (namespaceName dirPath node : String) : Event :=
  ⟨.removeDirPathFromNode namespaceName node dirPath, .ok ()⟩

/-! ## The loops -/

section Loop

variable {α : Type} {send : α → Collector (Except GoError Unit)} {wrap : α → GoError → GoError}
  {ev : α → Except GoError Unit → Event} {xs : List α} {t : List Event} {r : Option GoError}

/-- A run of `forEachUntilError`, when each `send x` is the single call `ev x`: calls for the
items of `xs` in order, none after a failed one, and a nil return only once every call of the
list succeeded. -/
theorem runs_forEachUntilError (hsend : ∀ x t v, Runs (send x) t v ↔ t = [ev x v])
    (hok : ∀ x, ¬ (ev x (.ok ())).Failed) (h : Runs (forEachUntilError send wrap xs) t r) :
    (∀ e ∈ t, ∃ x ∈ xs, ∃ v, e = ev x v) ∧ FailsLast Event.Failed t ∧
      (r = none → t = xs.map (ev · (.ok ()))) := by
  induction xs generalizing t with
  | nil =>
    obtain ⟨rfl, rfl⟩ := runs_pure_iff.mp h
    simp
  | cons x xs ih =>
    simp only [forEachUntilError] at h
    obtain ⟨t₁, v, t₂, h₁, h₂, rfl⟩ := runs_bind_iff.mp h
    obtain rfl := (hsend x t₁ v).mp h₁
    rcases v with e | ⟨⟩
    · obtain ⟨rfl, rfl⟩ := runs_pure_iff.mp h₂
      simp
    · obtain ⟨hcalls, hfails, hnone⟩ := ih h₂
      refine ⟨?_, ⟨fun hf => absurd hf (hok x), hfails⟩, fun hr => by simp [hnone hr]⟩
      simp only [List.singleton_append, List.mem_cons, forall_eq_or_imp]
      exact ⟨⟨x, .inl rfl, _, rfl⟩, fun e he =>
        let ⟨y, hy, w, hw⟩ := hcalls e he
        ⟨y, .inr hy, w, hw⟩⟩

end Loop

theorem runs_waitForPodsTermination {pods : List Pod} {t : List Event} {r : Option GoError}
    (h : Runs (waitForPodsTermination pods) t r) :
    (∀ e ∈ t, ∃ pod ∈ pods, ∃ v, e = ⟨.waitForPodTermination pod.«namespace» pod.name, v⟩) ∧
    FailsLast Event.Failed t ∧ (r = none → t = pods.map podTerminatedEvent) :=
  runs_forEachUntilError (fun _ _ _ => runs_request_iff)
    (fun _ => by simp [Event.Failed, Request.replyError]) h

theorem runs_removeDirPathFromNodes {namespaceName dirPath : String} {nodeNames : List String}
    {t : List Event} {r : Option GoError}
    (h : Runs (removeDirPathFromNodes namespaceName dirPath nodeNames) t r) :
    (∀ e ∈ t, ∃ node ∈ nodeNames, ∃ v, e = ⟨.removeDirPathFromNode namespaceName node dirPath, v⟩) ∧
    FailsLast Event.Failed t ∧
    (r = none → t = nodeNames.map (dirRemovedEvent namespaceName dirPath)) :=
  runs_forEachUntilError (fun _ _ _ => runs_request_iff)
    (fun _ => by simp [Event.Failed, Request.replyError]) h

/-! ## The ways a run can go -/

section Cases

variable {c : PackageConstants} {daemonSet : ObjectMeta} {pods : List Pod}
  {logsCollectorName : String} {evicted : ObjectMeta} {t : List Event} {r : Option GoError}

/-- The ways a run of `restoreNodeSelectors` can go: the re-fetch of the daemon set fails, or
the patch back to no node selector fails, and the error is returned wrapped; or both succeed and
the waiter runs on the patched daemon set, and either its error is returned wrapped or it
returns nil and the closing line is logged. -/
theorem runs_restoreNodeSelectors_cases
    (h : Runs (restoreNodeSelectors logsCollectorName evicted) t r) :
    (∃ e, t = [⟨.getDaemonSet evicted.«namespace» logsCollectorName, .error e⟩] ∧
      r = some (.propagated e "An error occurred getting latest" [])) ∨
    (∃ latest e, t = [⟨.getDaemonSet evicted.«namespace» logsCollectorName, .ok latest⟩,
        ⟨.updateDaemonSetWithNodeSelectors latest [], .error e⟩] ∧
      r = some (.propagated e "An error occurred updating daemon set '%v' with node selectors '%v'"
        [.str logsCollectorName, .stringMap evictNodeSelectors])) ∨
    ∃ latest restored tw w, WaitRun restored maxRetries tw w ∧
      (∀ e, w = some e →
        t = ⟨.getDaemonSet evicted.«namespace» logsCollectorName, .ok latest⟩ ::
          ⟨.updateDaemonSetWithNodeSelectors latest [], .ok restored⟩ :: tw ∧
        r = some (.propagated e
          "An error occurred waiting for at least one pod managed by daemon set '%v' has become available."
          [.str logsCollectorName])) ∧
      (w = none →
        t = ⟨.getDaemonSet evicted.«namespace» logsCollectorName, .ok latest⟩ ::
          ⟨.updateDaemonSetWithNodeSelectors latest [], .ok restored⟩ ::
          (tw ++ [⟨.log .info "Successfully cleaned logs collector." [], ()⟩]) ∧ r = none) := by
  simp only [restoreNodeSelectors, KubernetesManager.getDaemonSet,
    KubernetesManager.updateDaemonSetWithNodeSelectors, call_bind, pure_bind_eq] at h
  obtain ⟨v, t₁, rfl, h₁⟩ := runs_call_iff.mp h
  rcases v with e | latest
  · obtain ⟨rfl, rfl⟩ := runs_pure_iff.mp h₁
    exact .inl ⟨e, rfl, rfl⟩
  obtain ⟨v, t₂, rfl, h₂⟩ := runs_call_iff.mp h₁
  rcases v with e | restored
  · obtain ⟨rfl, rfl⟩ := runs_pure_iff.mp h₂
    exact .inr (.inl ⟨latest, e, rfl, rfl⟩)
  obtain ⟨tw, w, t₃, hw, h₃, rfl⟩ := runs_bind_iff.mp h₂
  refine .inr (.inr ⟨latest, restored, tw, w, runs_waitAttempts hw, fun e he => ?_, fun he => ?_⟩)
  · subst he
    obtain ⟨rfl, rfl⟩ := runs_pure_iff.mp h₃
    simp
  · subst he
    simp only [logf, call_bind, pure_bind_eq] at h₃
    obtain ⟨⟨⟩, t₄, rfl, h₄⟩ := runs_call_iff.mp h₃
    obtain ⟨rfl, rfl⟩ := runs_pure_iff.mp h₄
    simp

/-- The ways a run of `cleanAfterEviction` can go: a termination wait fails; or every pod was
seen terminated and a directory removal fails; or every pod was seen terminated, the checkpoint
directory was removed on every node, and the restore runs. An error is returned as it is. -/
theorem runs_cleanAfterEviction_cases {nodeNames : List String}
    (h : Runs (cleanAfterEviction c logsCollectorName pods nodeNames evicted) t r) :
    (∃ e, Runs (waitForPodsTermination pods) t (some e) ∧ r = some e) ∨
    (∃ td e, Runs (removeDirPathFromNodes evicted.«namespace» c.fluentBitCheckpointDbMountPath
        nodeNames) td (some e) ∧ t = pods.map podTerminatedEvent ++ td ∧ r = some e) ∨
    ∃ t', Runs (restoreNodeSelectors logsCollectorName evicted) t' r ∧
      t = pods.map podTerminatedEvent ++
        (nodeNames.map (dirRemovedEvent evicted.«namespace» c.fluentBitCheckpointDbMountPath) ++ t') := by
  simp only [cleanAfterEviction] at h
  obtain ⟨tw, w, t₁, hw, h₁, rfl⟩ := runs_bind_iff.mp h
  rcases w with _ | e
  swap
  · obtain ⟨rfl, rfl⟩ := runs_pure_iff.mp h₁
    exact .inl ⟨e, by simpa using hw, rfl⟩
  obtain rfl := (runs_waitForPodsTermination hw).2.2 rfl
  obtain ⟨td, d, t₂, hd, h₂, rfl⟩ := runs_bind_iff.mp h₁
  rcases d with _ | e
  swap
  · obtain ⟨rfl, rfl⟩ := runs_pure_iff.mp h₂
    exact .inr (.inl ⟨td, e, hd, by simp, rfl⟩)
  obtain rfl := (runs_removeDirPathFromNodes hd).2.2 rfl
  exact .inr (.inr ⟨t₂, h₂, rfl⟩)

/-- The ways a run of `Clean` can go: the listing fails, and its error is returned wrapped; or it
finds pods, logs, and patches the daemon set with the evicting node selector, which either
fails, and its error is returned wrapped, or is followed by a run of `cleanAfterEviction` on the
patched daemon set. A listing that finds no pod ends in a panic, which is no run. -/
theorem runs_clean (h : Runs (clean c daemonSet) t r) :
    (∃ e, t = [podQueryEvent daemonSet (.error e)] ∧
      r = some (.propagated e
        "An error occurred getting pods managed by daemon set '%v' in namespace '%v'."
        [.str daemonSet.name, .str daemonSet.«namespace»])) ∨
    ∃ pods, pods ≠ [] ∧ ∃ v t', t = [podQueryEvent daemonSet (.ok pods),
        ⟨.log .info "Cleaning the fluent bit logs collector daemon set..." [], ()⟩,
        ⟨.updateDaemonSetWithNodeSelectors daemonSet evictNodeSelectors, v⟩] ++ t' ∧
      (∀ e, v = .error e → t' = [] ∧ r = some (.propagated e
        "An error occurred updating daemon set '%v' with node selectors '%v'"
        [.str daemonSet.name, .stringMap evictNodeSelectors])) ∧
      (∀ evicted, v = .ok evicted →
        Runs (cleanAfterEviction c daemonSet.name pods (pods.map Pod.nodeName) evicted) t' r) := by
  simp only [clean, KubernetesManager.getPodsManagedByDaemonSet, call_bind, pure_bind_eq,
    propagate_some, propagate_none, panic_bind] at h
  obtain ⟨v, t₁, rfl, h₁⟩ := runs_call_iff.mp h
  rcases v with e | pods
  · obtain ⟨rfl, rfl⟩ := runs_pure_iff.mp h₁
    exact .inl ⟨e, rfl, rfl⟩
  -- with no pod, `Propagate` panics and the run does not return
  by_cases hpods : pods.length = 0
  · simp [hpods] at h₁
  simp only [hpods, if_false, logf, KubernetesManager.updateDaemonSetWithNodeSelectors, call_bind,
    pure_bind_eq] at h₁
  obtain ⟨u, t₂, rfl, h₂⟩ := runs_call_iff.mp h₁
  obtain ⟨v, t₃, rfl, h₃⟩ := runs_call_iff.mp h₂
  refine .inr ⟨pods, fun hnil => hpods (by simp [hnil]), v, t₃, rfl, fun e he => ?_,
    fun evicted he => ?_⟩
  · subst he
    exact runs_pure_iff.mp h₃
  · subst he
    exact h₃

end Cases

/-! ## The order of the calls -/

section Order

variable (c : PackageConstants) (daemonSet : ObjectMeta) (pods : List Pod)

/-- The checkpoint directory was removed, with success, on the node of every pod of `pods`. -/
def CheckpointsRemoved (hist : List Event) : Prop :=
  ∀ pod ∈ pods, ∃ namespaceName,
    dirRemovedEvent namespaceName c.fluentBitCheckpointDbMountPath pod.nodeName ∈ hist

/-- Whether `Clean`, having discovered `pods`, may make the call `e` after the calls `hist`: a
termination wait only once the daemon set was patched with the evicting node selector; a
directory removal only once every discovered pod was seen terminated; the re-fetch of the
daemon set and the patch back to no node selector only once the checkpoint directory was
removed on the node of every discovered pod. -/
def cleanOrder (hist : List Event) : Event → Prop
  | ⟨.waitForPodTermination .., _⟩ => ∃ evicted,
    (⟨.updateDaemonSetWithNodeSelectors daemonSet evictNodeSelectors, .ok evicted⟩ : Event) ∈ hist
  | ⟨.removeDirPathFromNode .., _⟩ => ∀ pod ∈ pods, podTerminatedEvent pod ∈ hist
  | ⟨.getDaemonSet .., _⟩ | ⟨.updateDaemonSetWithNodeSelectors _ [], _⟩ =>
    CheckpointsRemoved c pods hist
  | _ => True

theorem CheckpointsRemoved.append {hist : List Event} (h : CheckpointsRemoved c pods hist)
    (more : List Event) : CheckpointsRemoved c pods (hist ++ more) :=
  fun pod hpod => let ⟨ns, hns⟩ := h pod hpod; ⟨ns, List.mem_append_left _ hns⟩

/-- Each call of a run of `restoreNodeSelectors` is in order once the checkpoints are removed,
and no call follows a failed one. -/
theorem runs_restoreNodeSelectors {logsCollectorName : String} {evicted : ObjectMeta}
    {t : List Event} {r : Option GoError}
    (h : Runs (restoreNodeSelectors logsCollectorName evicted) t r) :
    (∀ e ∈ t, ∀ hist, CheckpointsRemoved c pods hist → cleanOrder c daemonSet pods hist e) ∧
    FailsLast Event.Failed t := by
  rcases runs_restoreNodeSelectors_cases h with ⟨e, rfl, -⟩ | ⟨latest, e, rfl, -⟩ |
    ⟨latest, restored, tw, w, hw, hfailed, hdone⟩
  · exact ⟨by simp [cleanOrder], by simp⟩
  · exact ⟨by simp [cleanOrder], by simp [Event.Failed, Request.replyError]⟩
  -- the waiter's calls need nothing before them
  have hwOrder : ∀ e ∈ tw, ∀ hist, cleanOrder c daemonSet pods hist e := fun e he hist => by
    obtain ⟨q, v⟩ := e
    rcases hw.calls _ he with rfl | rfl <;> simp [cleanOrder]
  have hok : ¬ Event.Failed ⟨.getDaemonSet evicted.«namespace» logsCollectorName, .ok latest⟩ ∧
      ¬ Event.Failed ⟨.updateDaemonSetWithNodeSelectors latest [], .ok restored⟩ := by
    simp [Event.Failed, Request.replyError]
  rcases w with _ | e
  · obtain ⟨rfl, -⟩ := hdone rfl
    refine ⟨?_, fun hf => absurd hf hok.1, fun hf => absurd hf hok.2,
      FailsLast.append (hw.not_failed_of_none rfl) (by simp)⟩
    simp only [List.mem_cons, List.mem_append, List.not_mem_nil, or_false]
    rintro e (rfl | rfl | he | rfl) hist hremoved
    · exact hremoved
    · exact hremoved
    · exact hwOrder e he hist
    · simp [cleanOrder]
  · obtain ⟨rfl, -⟩ := hfailed e rfl
    refine ⟨?_, fun hf => absurd hf hok.1, fun hf => absurd hf hok.2, hw.failsLast⟩
    simp only [List.mem_cons]
    rintro e (rfl | rfl | he) hist hremoved
    · exact hremoved
    · exact hremoved
    · exact hwOrder e he hist

end Order

variable {c : PackageConstants} {daemonSet : ObjectMeta} {pods : List Pod}
  {logsCollectorName : String} {t : List Event} {r : Option GoError}

/-- A run of `cleanAfterEviction` after the calls `hist`, which include a successful eviction
patch: its calls are in order, and no call follows a failed one. -/
theorem runs_cleanAfterEviction {evicted : ObjectMeta} (hist : List Event)
    (hevict : ∃ d, (⟨.updateDaemonSetWithNodeSelectors daemonSet evictNodeSelectors, .ok d⟩ :
      Event) ∈ hist)
    (h : Runs (cleanAfterEviction c logsCollectorName pods (pods.map Pod.nodeName) evicted) t r) :
    Guarded (cleanOrder c daemonSet pods) hist t ∧ FailsLast Event.Failed t := by
  -- every termination wait follows the eviction patch
  have hwOrder : ∀ tw, (∀ e ∈ tw, ∃ pod ∈ pods, ∃ v,
      e = ⟨.waitForPodTermination pod.«namespace» pod.name, v⟩) →
      Guarded (cleanOrder c daemonSet pods) hist tw := fun tw hcalls =>
    Guarded.of_forall fun e he pre => by
      obtain ⟨pod, -, v, rfl⟩ := hcalls e he
      obtain ⟨d, hd⟩ := hevict
      exact ⟨d, List.mem_append_left _ hd⟩
  -- every directory removal follows the termination of every pod
  have hdOrder : ∀ td, (∀ e ∈ td, ∃ node ∈ pods.map Pod.nodeName, ∃ v,
      e = ⟨.removeDirPathFromNode evicted.«namespace» node c.fluentBitCheckpointDbMountPath, v⟩) →
      Guarded (cleanOrder c daemonSet pods) (hist ++ pods.map podTerminatedEvent) td :=
    fun td hcalls => Guarded.of_forall fun e he pre => by
      obtain ⟨node, -, v, rfl⟩ := hcalls e he
      exact fun pod hpod =>
        List.mem_append_left _ (List.mem_append_right _ (List.mem_map_of_mem _ hpod))
  have hterminated := hwOrder (pods.map podTerminatedEvent) fun e he => by
    obtain ⟨pod, hpod, rfl⟩ := List.mem_map.mp he
    exact ⟨pod, hpod, _, rfl⟩
  have hwOk : ∀ e ∈ pods.map podTerminatedEvent, ¬ e.Failed := by
    simp [podTerminatedEvent, Event.Failed, Request.replyError]
  rcases runs_cleanAfterEviction_cases h with ⟨e, hw, -⟩ | ⟨td, e, hd, rfl, -⟩ | ⟨t', hr, rfl⟩
  · obtain ⟨hwCalls, hwFails, -⟩ := runs_waitForPodsTermination hw
    exact ⟨hwOrder t hwCalls, hwFails⟩
  · obtain ⟨hdCalls, hdFails, -⟩ := runs_removeDirPathFromNodes hd
    exact ⟨Guarded.append_iff.mpr ⟨hterminated, hdOrder td hdCalls⟩, FailsLast.append hwOk hdFails⟩
  obtain ⟨hrOrder, hrFails⟩ := runs_restoreNodeSelectors c daemonSet pods hr
  -- the restore follows the removal of the checkpoint directory on every node
  have hremoved : CheckpointsRemoved c pods (hist ++ pods.map podTerminatedEvent ++
      (pods.map Pod.nodeName).map
        (dirRemovedEvent evicted.«namespace» c.fluentBitCheckpointDbMountPath)) :=
    fun pod hpod => ⟨evicted.«namespace», by simp; exact .inr (.inr ⟨pod, hpod, rfl⟩)⟩
  have hdOk : ∀ e ∈ (pods.map Pod.nodeName).map
      (dirRemovedEvent evicted.«namespace» c.fluentBitCheckpointDbMountPath), ¬ e.Failed := by
    simp [dirRemovedEvent, Event.Failed, Request.replyError]
  refine ⟨?_, FailsLast.append hwOk (FailsLast.append hdOk hrFails)⟩
  rw [Guarded.append_iff, Guarded.append_iff]
  refine ⟨hterminated, hdOrder _ fun e he => ?_,
    Guarded.of_forall fun e he pre => hrOrder e he _ (hremoved.append c pods pre)⟩
  obtain ⟨node, hnode, rfl⟩ := List.mem_map.mp he
  exact ⟨node, hnode, _, rfl⟩

/-- A cleanup of `fluentBitDaemonSet` with the one pod `fluentBitPod`, in which every call
succeeds. -/
def oneNodeCleanup : List Event :=
  [podQueryEvent fluentBitDaemonSet (.ok [fluentBitPod]),
    ⟨.log .info "Cleaning the fluent bit logs collector daemon set..." [], ()⟩,
    ⟨.updateDaemonSetWithNodeSelectors fluentBitDaemonSet evictNodeSelectors,
      .ok fluentBitDaemonSet⟩,
    podTerminatedEvent fluentBitPod,
    dirRemovedEvent "kurtosis-logs" "" "node-0",
    ⟨.getDaemonSet "kurtosis-logs" "kurtosis-logs-collector", .ok fluentBitDaemonSet⟩,
    ⟨.updateDaemonSetWithNodeSelectors fluentBitDaemonSet [], .ok fluentBitDaemonSet⟩,
    tickEvent,
    podQueryEvent fluentBitDaemonSet (.ok [fluentBitPod]),
    ⟨.log .info "Successfully cleaned logs collector." [], ()⟩]

theorem runs_oneNodeCleanup : Runs (clean default fluentBitDaemonSet) oneNodeCleanup none :=
  .call _ <| .call _ <| .call _ <| .call _ <| .call _ <| .call _ <| .call _ <| .call _ <|
    .call _ <| .call _ <| .pure _

/-- `Clean` over every reply of every call: no call follows a failed one, and, once discovery
has returned `pods`, each termination wait follows the successful eviction patch of the daemon
set, each directory removal follows a successful termination wait of every discovered pod, and
the re-fetch and the restore patch follow a successful removal of the checkpoint directory on
the node of every discovered pod. -/
theorem clean_calls_in_order (c : PackageConstants) (daemonSet : ObjectMeta)
    (h : Runs (clean c daemonSet) t r) :
    FailsLast Event.Failed t ∧
    ∀ pods, t.head? = some (podQueryEvent daemonSet (.ok pods)) →
      Guarded (cleanOrder c daemonSet pods) [] t := by
  rcases runs_clean h with ⟨e, rfl, -⟩ | ⟨pods, -, v, t', rfl, hfailed, hevicted⟩
  · simp [podQueryEvent]
  rcases v with e | evicted
  · obtain ⟨rfl, -⟩ := hfailed e rfl
    simp [podQueryEvent, cleanOrder, evictNodeSelectors, Event.Failed, Request.replyError]
  obtain ⟨hOrder, hFails⟩ := runs_cleanAfterEviction
    [podQueryEvent daemonSet (.ok pods),
      ⟨.log .info "Cleaning the fluent bit logs collector daemon set..." [], ()⟩,
      ⟨.updateDaemonSetWithNodeSelectors daemonSet evictNodeSelectors, .ok evicted⟩]
    ⟨evicted, .tail _ (.tail _ (.head _))⟩ (hevicted evicted rfl)
  refine ⟨by simpa [podQueryEvent, Event.Failed, Request.replyError] using hFails,
    fun pods' hhead => ?_⟩
  obtain rfl : pods = pods' := by simpa using hhead
  simpa [podQueryEvent, cleanOrder, evictNodeSelectors] using hOrder

theorem clean_calls_in_order_one_node :
    Runs (clean default fluentBitDaemonSet) oneNodeCleanup none ∧
    FailsLast Event.Failed oneNodeCleanup ∧
    ∀ pods, oneNodeCleanup.head? = some (podQueryEvent fluentBitDaemonSet (.ok pods)) →
      Guarded (cleanOrder default fluentBitDaemonSet pods) [] oneNodeCleanup :=
  ⟨runs_oneNodeCleanup, clean_calls_in_order default fluentBitDaemonSet runs_oneNodeCleanup⟩

/-- When discovery finds no pod, `Clean` hands the nil error of the successful listing to
`Propagate`, which panics: the run panics right after that one call, and no run that starts with
it returns. -/
theorem clean_panics_on_no_pods (c : PackageConstants) (daemonSet : ObjectMeta) :
    Panics (clean c daemonSet) [podQueryEvent daemonSet (.ok [])] propagateNilCausePanic ∧
    ∀ t r, ¬ Runs (clean c daemonSet) (podQueryEvent daemonSet (.ok []) :: t) r :=
  ⟨.call _ (.panic _), fun _ _ h => not_runs_panic (runs_call_cons_iff.mp h)⟩

/-- A nil return of `Clean` after discovering a nonempty list of pods comes at the end of the
whole cleanup: the eviction patch succeeded, every discovered pod was seen terminated, the
checkpoint directory was removed once on the node of each pod, in discovery order, the daemon
set was fetched again and patched back to no node selector, and the waiter returned nil. -/
theorem clean_nil_after_cleanup (c : PackageConstants) (daemonSet : ObjectMeta)
    {pods : List Pod} (h : Runs (clean c daemonSet) t none) (hpods : pods ≠ [])
    (hhead : t.head? = some (podQueryEvent daemonSet (.ok pods))) :
    ∃ evicted latest restored tw,
      t = [podQueryEvent daemonSet (.ok pods),
          ⟨.log .info "Cleaning the fluent bit logs collector daemon set..." [], ()⟩,
          ⟨.updateDaemonSetWithNodeSelectors daemonSet evictNodeSelectors, .ok evicted⟩] ++
        pods.map podTerminatedEvent ++
        (pods.map Pod.nodeName).map
          (dirRemovedEvent evicted.«namespace» c.fluentBitCheckpointDbMountPath) ++
        [⟨.getDaemonSet evicted.«namespace» daemonSet.name, .ok latest⟩,
          ⟨.updateDaemonSetWithNodeSelectors latest [], .ok restored⟩] ++
        tw ++ [⟨.log .info "Successfully cleaned logs collector." [], ()⟩] ∧
      WaitRun restored maxRetries tw none := by
  rcases runs_clean h with ⟨e, rfl, -⟩ | ⟨pods', -, v, t', rfl, hfailed, hevicted⟩
  · simp at hhead
  obtain rfl : pods' = pods := by simpa using hhead
  rcases v with e | evicted
  · cases (hfailed e rfl).2
  rcases runs_cleanAfterEviction_cases (hevicted evicted rfl) with ⟨e, -, he⟩ | ⟨td, e, -, -, he⟩ |
    ⟨t'', hrestore, rfl⟩
  · cases he
  · cases he
  rcases runs_restoreNodeSelectors_cases hrestore with ⟨e, -, he⟩ | ⟨latest, e, -, he⟩ |
    ⟨latest, restored, tw, w, hw, hfailed, hdone⟩
  · cases he
  · cases he
  rcases w with _ | e
  · obtain ⟨rfl, -⟩ := hdone rfl
    exact ⟨evicted, latest, restored, tw, by simp, hw⟩
  · cases (hfailed e rfl).2

theorem clean_nil_after_cleanup_one_node :
    Runs (clean default fluentBitDaemonSet) oneNodeCleanup none ∧ [fluentBitPod] ≠ [] ∧
    oneNodeCleanup.head? = some (podQueryEvent fluentBitDaemonSet (.ok [fluentBitPod])) ∧
    ∃ restored tw, WaitRun restored maxRetries tw none := by
  obtain ⟨_, _, restored, tw, -, hw⟩ :=
    clean_nil_after_cleanup default fluentBitDaemonSet runs_oneNodeCleanup
      (List.cons_ne_nil _ _) rfl
  exact ⟨runs_oneNodeCleanup, List.cons_ne_nil _ _, rfl, restored, tw, hw⟩

end FluentbitLogsCollector
