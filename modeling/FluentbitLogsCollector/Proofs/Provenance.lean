import FluentbitLogsCollector.Proofs.CreateAndStart
import FluentbitLogsCollector.Proofs.Eviction
/-!
# The error a run returns carries the failure that stopped it

`stacktrace.Propagate` wraps a cause; `GoError.causes` lists the chain from an error down to its
root. A run is `StoppedBy` an error when its last call is its first failed call and that call's
error is in the chain, or when no call failed and the chain holds the error of the readiness
waiter giving up. One lemma per shape of step (`StopsAtFailure.send`, `StopsAtFailure.bind`)
gives it for each helper, and from them:

* `createAndStart_error_carries_failure`: a run of `CreateAndStart` that returns an error is
  stopped by it, after which it only removes objects and logs; a run that returns the objects
  had no failed call. No failure is swallowed, and no failure of the rollback is returned in
  place of the one that stopped the run;
* `clean_error_carries_failure`: a run of `Clean` that returns an error is stopped by it, and a
  run that returns nil had no failed call.
-/

namespace FluentbitLogsCollector

open Program

variable {α β : Type}

/-! ## Chains of errors -/

/-- The chain of errors `err` wraps, from `err` itself down to its root. -/
def GoError.causes : GoError → List GoError
  | err@(.propagated cause _ _) => err :: cause.causes
  | err => [err]

@[simp] theorem GoError.causes_propagated (cause : GoError) (format : String)
    (args : List FmtArg) :
    (GoError.propagated cause format args).causes = .propagated cause format args :: cause.causes :=
  rfl

@[simp] theorem GoError.mem_causes_self (err : GoError) : err ∈ err.causes := by
  cases err <;> simp [GoError.causes]

theorem GoError.causes_subset_propagated (cause : GoError) (format : String)
    (args : List FmtArg) : cause.causes ⊆ (GoError.propagated cause format args).causes := by
  simp

/-- The readiness waiter gave up: its deadline fired, or its attempts ran out. -/
def WaiterGaveUp (err : GoError) : Prop :=
  ∃ daemonSet, err = waitTimeoutError daemonSet ∨ err = waitExceededMaxRetriesError daemonSet

/-- The run `t` was stopped by the error `err`: its last call is its first failed call, and that
call's error is in the chain of `err`; or no call of `t` failed, and the chain of `err` holds the
error of the readiness waiter giving up. -/
def StoppedBy (t : List Event) (err : GoError) : Prop :=
  (∃ pre e cause, t = pre ++ [e] ∧ (∀ x ∈ pre, ¬ Event.Failed x) ∧
    e.1.replyError e.2 = some cause ∧ cause ∈ err.causes) ∨
  ((∀ x ∈ t, ¬ Event.Failed x) ∧ ∃ gaveUp ∈ err.causes, WaiterGaveUp gaveUp)

/-- No call of `t` failed, read off a computation over `t`; for calls written out, with their
replies, this closes by `rfl`. -/
theorem not_failed_of_all {t : List Event}
    (h : (t.all fun x => !(x.1.replyError x.2).isSome) = true) : ∀ x ∈ t, ¬ Event.Failed x :=
  fun x hx => by simpa [Event.Failed] using List.all_eq_true.mp h x hx

namespace StoppedBy

variable {t : List Event} {err : GoError}

/-- An error whose chain holds that of `err`. -/
theorem wrap (h : StoppedBy t err) {err' : GoError} (hsub : err.causes ⊆ err'.causes) :
    StoppedBy t err' := by
  rcases h with ⟨pre, e, cause, rfl, hpre, he, hc⟩ | ⟨hnone, gaveUp, hg, hw⟩
  · exact .inl ⟨pre, e, cause, rfl, hpre, he, hsub hc⟩
  · exact .inr ⟨hnone, gaveUp, hsub hg, hw⟩

/-- After calls that did not fail. -/
theorem prepend (h : StoppedBy t err) (t₁ : List Event) (h₁ : ∀ x ∈ t₁, ¬ Event.Failed x) :
    StoppedBy (t₁ ++ t) err := by
  rcases h with ⟨pre, e, cause, rfl, hpre, he, hc⟩ | ⟨hnone, hg⟩
  · exact .inl ⟨t₁ ++ pre, e, cause, by simp, List.forall_mem_append.mpr ⟨h₁, hpre⟩, he, hc⟩
  · exact .inr ⟨List.forall_mem_append.mpr ⟨h₁, hnone⟩, hg⟩

end StoppedBy

/-! ## Steps that return early on an error -/

/-- Every run of `p` that returns a value had no failed call, and every run that returns an
error was stopped by it. -/
def StopsAtFailure (p : Collector (Except GoError α)) : Prop :=
  ∀ t r, Runs p t r → (∀ a, r = .ok a → ∀ x ∈ t, ¬ Event.Failed x) ∧
    ∀ e, r = .error e → StoppedBy t e

namespace StopsAtFailure

theorem pure_ok (a : α) : StopsAtFailure (Program.pure (.ok a) : Collector (Except GoError α)) := by
  intro t r h
  obtain ⟨rfl, rfl⟩ := runs_pure_iff.mp h
  exact ⟨fun _ _ _ hx => absurd hx (List.not_mem_nil _), fun _ h => (by cases h)⟩

/-- A call whose reply the step returns: a value when the call succeeded, its error
otherwise. -/
theorem send {r : Request} (k : r.Reply → Except GoError α)
    (hk : ∀ v, (∀ a, k v = .ok a → r.replyError v = none) ∧
      ∀ e, k v = .error e → r.replyError v = some e) :
    StopsAtFailure (.call r fun v => .pure (k v)) := by
  intro t x h
  obtain ⟨v, t', rfl, hv⟩ := runs_call_iff.mp h
  obtain ⟨rfl, rfl⟩ := runs_pure_iff.mp hv
  refine ⟨fun a ha => ?_, fun e he =>
    .inl ⟨[], ⟨r, v⟩, e, rfl, by simp, (hk v).2 e he, e.mem_causes_self⟩⟩
  simp [Event.Failed, (hk v).1 a ha]

/-- A step that returns the error of its first part, its chain kept, and otherwise goes on. -/
theorem bind {p : Collector (Except GoError β)} {f : Except GoError β → Collector (Except GoError α)}
    (hp : StopsAtFailure p) (hok : ∀ b, StopsAtFailure (f (.ok b)))
    (herr : ∀ e, ∃ e', f (.error e) = .pure (.error e') ∧ e.causes ⊆ e'.causes) :
    StopsAtFailure (p >>= f) := by
  intro t r h
  obtain ⟨t₁, v, t₂, h₁, h₂, rfl⟩ := runs_bind_iff.mp h
  rcases v with e | b
  · obtain ⟨e', hf, hsub⟩ := herr e
    rw [hf] at h₂
    obtain ⟨rfl, rfl⟩ := runs_pure_iff.mp h₂
    refine ⟨fun _ h => (by cases h), fun _ h => ?_⟩
    cases h
    simpa using ((hp t₁ _ h₁).2 e rfl).wrap hsub
  · have hnone := (hp t₁ _ h₁).1 b rfl
    obtain ⟨hk₁, hk₂⟩ := hok b t₂ r h₂
    exact ⟨fun a ha => List.forall_mem_append.mpr ⟨hnone, hk₁ a ha⟩,
      fun e he => (hk₂ e he).prepend t₁ hnone⟩

end StopsAtFailure

/-! ## The steps of `CreateAndStart` -/

/-! Each call whose reply a step returns as it is. -/

theorem stopsAtFailure_generateUUIDString : StopsAtFailure UuidGenerator.generateUUIDString :=
  @StopsAtFailure.send _ .generateUUIDString id fun v => by cases v <;> simp [Request.replyError]

theorem stopsAtFailure_forLogsCollectorObject (guid : String) (kind : ResourceKind) :
    StopsAtFailure (ObjAttrsProvider.forLogsCollectorObject guid kind) :=
  @StopsAtFailure.send _ (.objectAttributes guid kind) id fun v => by
    cases v <;> simp [Request.replyError]

theorem stopsAtFailure_create (c : CreateCall) : StopsAtFailure (KubernetesManager.create c) :=
  @StopsAtFailure.send _ (.create c) id fun v => by cases v <;> simp [Request.replyError]

theorem stopsAtFailure_newPortSpec (number : UInt16) (protocol : TransportProtocol)
    (applicationProtocol url : String) :
    StopsAtFailure (PortSpecs.newPortSpec number protocol applicationProtocol url) :=
  @StopsAtFailure.send _ (.newPortSpec number protocol applicationProtocol url) id fun v => by
    cases v <;> simp [Request.replyError]

theorem stopsAtFailure_getKubernetesContainerPortsFromPrivatePortSpecs
    (privatePorts : GoMap PortSpec) :
    StopsAtFailure (SharedHelpers.getKubernetesContainerPortsFromPrivatePortSpecs privatePorts) :=
  @StopsAtFailure.send _ (.getKubernetesContainerPortsFromPrivatePortSpecs privatePorts) id
    fun v => by cases v <;> simp [Request.replyError]

theorem stopsAtFailure_createFromAttributes (guid : String) (kind : ResourceKind)
    (attributesMsg : String) (createCall : ObjectAttributes → CreateCall) (createMsg : String)
    (createArgs : ObjectAttributes → List FmtArg) :
    StopsAtFailure (createFromAttributes guid kind attributesMsg createCall createMsg createArgs) :=
  .bind (stopsAtFailure_forLogsCollectorObject guid kind)
    (fun _ => .bind (stopsAtFailure_create _) (fun obj => .pure_ok obj)
      fun _ => ⟨_, rfl, GoError.causes_subset_propagated _ _ _⟩)
    fun _ => ⟨_, rfl, GoError.causes_subset_propagated _ _ _⟩

theorem stopsAtFailure_renderTemplate (name text parseMsg : String) (parseArgs : List FmtArg)
    (data : TemplateData) (executeMsg debugMsg : String) :
    StopsAtFailure (renderTemplate name text parseMsg parseArgs data executeMsg debugMsg) :=
  .bind (@StopsAtFailure.send _ (.parseTemplate name text) id fun v => by
      cases v <;> simp [Request.replyError])
    (fun () => .bind (@StopsAtFailure.send _ (.executeTemplate name text data) id fun v => by
        cases v <;> simp [Request.replyError])
      (fun buf => @StopsAtFailure.send _ (.log .debug debugMsg [.val (.str buf)]) (fun _ => .ok buf)
        fun _ => by simp [Request.replyError])
      fun _ => ⟨_, rfl, GoError.causes_subset_propagated _ _ _⟩)
    fun _ => ⟨_, rfl, GoError.causes_subset_propagated _ _ _⟩

/-- The config map helper returns the error of the attributes lookup as it is, the others
wrapped. -/
theorem stopsAtFailure_createLogsCollectorConfigMap (c : PackageConstants)
    (guid namespaceName : String) (httpPort : UInt16) (host : String) (port : UInt16)
    (filters : List Filter) (parsers : List Parser) :
    StopsAtFailure (createLogsCollectorConfigMap c guid namespaceName httpPort host port filters
      parsers) :=
  .bind (stopsAtFailure_forLogsCollectorObject guid .configMap)
    (fun _ => .bind (stopsAtFailure_renderTemplate _ _ _ _ _ _ _)
      (fun _ => .bind (stopsAtFailure_renderTemplate _ _ _ _ _ _ _)
        (fun _ => .bind (stopsAtFailure_create _) (fun configMap => .pure_ok configMap)
          fun _ => ⟨_, rfl, GoError.causes_subset_propagated _ _ _⟩)
        fun _ => ⟨_, rfl, GoError.causes_subset_propagated _ _ _⟩)
      fun _ => ⟨_, rfl, GoError.causes_subset_propagated _ _ _⟩)
    fun _ => ⟨_, rfl, List.Subset.refl _⟩

/-! ## The rollback -/

/-- A call the rollback makes: a removal, or a log line. -/
def Event.IsRollback : Event → Bool
  | ⟨.remove _, _⟩ | ⟨.log .., _⟩ => true
  | _ => false

/-- Every call of every run of `p` is a removal or a log line. -/
def RollsBack (p : Collector α) : Prop := ∀ t a, Runs p t a → ∀ x ∈ t, Event.IsRollback x = true

namespace RollsBack

theorem pure (a : α) : RollsBack (Program.pure a : Collector α) := by
  intro t b h x hx
  rw [(runs_pure_iff.mp h).1] at hx
  cases hx

theorem call {r : Request} {k : r.Reply → Collector α} (hr : ∀ v, Event.IsRollback ⟨r, v⟩ = true)
    (hk : ∀ v, RollsBack (k v)) : RollsBack (.call r k) := by
  intro t b h
  obtain ⟨v, t', rfl, hrest⟩ := runs_call_iff.mp h
  exact List.forall_mem_cons.mpr ⟨hr v, hk v t' b hrest⟩

theorem bind {p : Collector β} {f : β → Collector α} (hp : RollsBack p) (hf : ∀ b, RollsBack (f b)) :
    RollsBack (p >>= f) := by
  intro t a h
  obtain ⟨t₁, b, t₂, h₁, h₂, rfl⟩ := runs_bind_iff.mp h
  exact List.forall_mem_append.mpr ⟨hp t₁ b h₁, hf b t₂ a h₂⟩

end RollsBack

theorem rollsBack_func (removal : RemoveCall) : RollsBack removal.func := by
  cases removal <;>
  · simp only [RemoveCall.func, removeNamespaceFunc, removeServiceAccountFunc,
      removeClusterRoleFunc, removeClusterRoleBindingFunc, removeConfigMapFunc,
      removeDaemonSetFunc, removeObjectFunc, KubernetesManager.remove, logf, call_bind,
      pure_bind_eq]
    refine RollsBack.call (fun _ => rfl) fun v => ?_
    rcases v with e | ⟨⟩
    · exact .call (fun _ => rfl) fun _ => .call (fun _ => rfl) fun _ => .pure _
    · exact .pure _

/-- Go's `return` runs the deferred closures, which only remove objects and log. -/
theorem Frame.rollsBack_ret (fr : Frame) (res : α) : RollsBack (fr.ret res) := by
  refine RollsBack.bind ?_ fun _ => .pure _
  induction fr.deferred with
  | nil => exact .pure _
  | cons c cs ih =>
    rw [Frame.runDeferred]
    split
    · exact (rollsBack_func c).bind fun _ => ih
    · exact (RollsBack.pure _).bind fun _ => ih

/-! ## The saga -/

/-- Every run of `p` that returns the objects had no failed call; every run that returns an
error is a run stopped by it, followed by calls of the rollback. -/
def SagaStops (p : Collector (Except GoError LogsCollectorObjects)) : Prop :=
  ∀ t r, Runs p t r → (∀ objs, r = .ok objs → ∀ x ∈ t, ¬ Event.Failed x) ∧
    ∀ e, r = .error e → ∃ pre post, t = pre ++ post ∧ StoppedBy pre e ∧
      ∀ x ∈ post, Event.IsRollback x = true

/-- One step of the saga: a failed step is rolled back and its error returned wrapped; a step
that returned a value had no failed call. -/
theorem Frame.check_stops (fr : Frame) {step : Collector (Except GoError α)}
    (hstep : StopsAtFailure step) (msg : String) (args : List FmtArg)
    {k : α → Collector (Except GoError LogsCollectorObjects)} (hk : ∀ a, SagaStops (k a)) :
    SagaStops (fr.check step msg args k) := by
  intro t r h
  obtain ⟨t₁, v, t₂, h₁, h₂, rfl⟩ := runs_bind_iff.mp h
  rcases v with e | a
  · obtain rfl := Frame.result_of_runs_ret h₂
    refine ⟨fun _ h => (by cases h), fun _ h => ?_⟩
    cases h
    exact ⟨t₁, t₂, rfl, ((hstep t₁ _ h₁).2 e rfl).wrap (GoError.causes_subset_propagated _ _ _),
      fr.rollsBack_ret _ t₂ _ h₂⟩
  · have hnone := (hstep t₁ _ h₁).1 a rfl
    obtain ⟨hk₁, hk₂⟩ := hk a t₂ r h₂
    refine ⟨fun objs hr => List.forall_mem_append.mpr ⟨hnone, hk₁ objs hr⟩, fun e he => ?_⟩
    obtain ⟨pre, post, rfl, hpre, hpost⟩ := hk₂ e he
    exact ⟨t₁ ++ pre, post, by simp, hpre.prepend t₁ hnone, hpost⟩

/-- A run of the waiter that returned an error was stopped by it. -/
theorem WaitRun.stoppedBy {daemonSet : ObjectMeta} {n : Nat} {t : List Event}
    {r : Option GoError} (h : WaitRun daemonSet n t r) {e : GoError} (he : r = some e) :
    StoppedBy t e := by
  induction h with
  | exhausted =>
    cases he
    exact .inr ⟨by simp, _, GoError.mem_causes_self _, _, .inr rfl⟩
  | timeout =>
    cases he
    exact .inr ⟨not_failed_of_all rfl, _, GoError.mem_causes_self _, _, .inl rfl⟩
  | queryError n e' =>
    cases he
    exact .inl ⟨[tickEvent], _, e', rfl, not_failed_of_all rfl, rfl, by simp [waitQueryError]⟩
  | ready => cases he
  | notReady pods _ _ ih =>
    exact (ih he).prepend [tickEvent, podQueryEvent daemonSet (.ok pods)] (not_failed_of_all rfl)

theorem waitThenCommit_stops (fr : Frame) (ns serviceAccount clusterRole clusterRoleBinding
    configMap daemonSet : ObjectMeta) :
    SagaStops (waitThenCommit fr ns serviceAccount clusterRole clusterRoleBinding configMap
      daemonSet) := by
  intro t r h
  obtain ⟨tw, w, t₂, hw, h₂, rfl⟩ := runs_bind_iff.mp h
  have hwr := runs_waitAttempts hw
  rcases w with _ | e
  · -- the six flags are cleared, so the return runs no closure
    obtain ⟨rfl, rfl⟩ := Frame.ret_disarmed (Frame.disarm_six _) h₂
    exact ⟨fun _ _ => by simpa using hwr.not_failed_of_none rfl, fun _ h => (by cases h)⟩
  · obtain rfl := Frame.result_of_runs_ret h₂
    refine ⟨fun _ h => (by cases h), fun _ h => ?_⟩
    cases h
    exact ⟨tw, t₂, rfl, (hwr.stoppedBy rfl).wrap (GoError.causes_subset_propagated _ _ _),
      Frame.rollsBack_ret _ _ t₂ _ h₂⟩

theorem createAndStart_stops (c : PackageConstants) (logsAggregatorHost : String)
    (logsAggregatorPort tcpPortNumber httpPortNumber : UInt16)
    (logsCollectorTcpPortId logsCollectorHttpPortId : String)
    (logsCollectorFilters : List Filter) (logsCollectorParsers : List Parser) :
    SagaStops (createAndStart c logsAggregatorHost logsAggregatorPort tcpPortNumber
      httpPortNumber logsCollectorTcpPortId logsCollectorHttpPortId logsCollectorFilters
      logsCollectorParsers) := by
  unfold createAndStart
  refine Frame.check_stops _ stopsAtFailure_generateUUIDString _ _ fun guid => ?_
  refine Frame.check_stops _ (stopsAtFailure_createFromAttributes _ _ _ _ _ _) _ _ fun ns => ?_
  refine Frame.check_stops _ (stopsAtFailure_createFromAttributes _ _ _ _ _ _) _ _
    fun serviceAccount => ?_
  refine Frame.check_stops _ (stopsAtFailure_createFromAttributes _ _ _ _ _ _) _ _
    fun clusterRole => ?_
  refine Frame.check_stops _ (stopsAtFailure_createFromAttributes _ _ _ _ _ _) _ _
    fun clusterRoleBinding => ?_
  refine Frame.check_stops _ (stopsAtFailure_createLogsCollectorConfigMap _ _ _ _ _ _ _ _) _ _
    fun configMap => ?_
  refine Frame.check_stops _ (stopsAtFailure_newPortSpec _ _ _ _) _ _ fun httpPortSpec => ?_
  refine Frame.check_stops _ (stopsAtFailure_newPortSpec _ _ _ _) _ _ fun tcpPortSpec => ?_
  refine Frame.check_stops _ (stopsAtFailure_getKubernetesContainerPortsFromPrivatePortSpecs _)
    _ _ fun containerPorts => ?_
  refine Frame.check_stops _ (stopsAtFailure_createFromAttributes _ _ _ _ _ _) _ _
    fun daemonSet => ?_
  exact waitThenCommit_stops _ _ _ _ _ _ _

/-- A run of `CreateAndStart` that returns an error is stopped by it: its first failed call comes
last before the rollback and its error is in the chain of the returned error, or no call failed
and the chain holds the error of the readiness waiter giving up; after that point the run only
removes objects and logs. A run that returns the objects had no failed call. -/
theorem createAndStart_error_carries_failure (c : PackageConstants) (logsAggregatorHost : String)
    (logsAggregatorPort tcpPortNumber httpPortNumber : UInt16)
    (logsCollectorTcpPortId logsCollectorHttpPortId : String)
    (logsCollectorFilters : List Filter) (logsCollectorParsers : List Parser)
    {t : List Event} {r : Except GoError LogsCollectorObjects}
    (h : Runs (createAndStart c logsAggregatorHost logsAggregatorPort tcpPortNumber
      httpPortNumber logsCollectorTcpPortId logsCollectorHttpPortId logsCollectorFilters
      logsCollectorParsers) t r) :
    (∀ objs, r = .ok objs → ∀ x ∈ t, ¬ Event.Failed x) ∧
    ∀ e, r = .error e → ∃ pre post, t = pre ++ post ∧ StoppedBy pre e ∧
      ∀ x ∈ post, Event.IsRollback x = true :=
  createAndStart_stops c logsAggregatorHost logsAggregatorPort tcpPortNumber httpPortNumber
    logsCollectorTcpPortId logsCollectorHttpPortId logsCollectorFilters logsCollectorParsers t r h

theorem createAndStart_error_carries_failure_refused_service_account :
    Runs (createAndStart default "" 0 0 0 "" "" [] []) serviceAccountRefused
      (.error (.propagated (.propagated (.external "forbidden")
        "An error occurred creating service account for logs collector with name '%s'"
        [.str "kurtosis-logs"])
        "An error occurred while trying to create service account for fluent bit log collector."
        [])) ∧
    ∃ pre post, serviceAccountRefused = pre ++ post ∧
      StoppedBy pre (.propagated (.propagated (.external "forbidden")
        "An error occurred creating service account for logs collector with name '%s'"
        [.str "kurtosis-logs"])
        "An error occurred while trying to create service account for fluent bit log collector."
        []) ∧
      ∀ x ∈ post, Event.IsRollback x = true :=
  ⟨runs_serviceAccountRefused, (createAndStart_error_carries_failure default "" 0 0 0 "" "" [] []
    runs_serviceAccountRefused).2 _ rfl⟩

/-! ## `Clean` -/

/-- A run `t` of a function that returns nil or an error `r`: a nil return had no failed call,
and an error stopped the run. -/
def StopsWith (t : List Event) (r : Option GoError) : Prop :=
  (r = none → ∀ x ∈ t, ¬ Event.Failed x) ∧ ∀ e, r = some e → StoppedBy t e

namespace StopsWith

variable {t : List Event} {r : Option GoError}

/-- After calls that did not fail. -/
theorem prepend (h : StopsWith t r) (t₁ : List Event) (h₁ : ∀ x ∈ t₁, ¬ Event.Failed x) :
    StopsWith (t₁ ++ t) r :=
  ⟨fun hr => List.forall_mem_append.mpr ⟨h₁, h.1 hr⟩, fun e he => (h.2 e he).prepend t₁ h₁⟩

/-- A run ended by a failed call, whose error the run returns in the chain of its own. -/
theorem failed (pre : List Event) (hpre : ∀ x ∈ pre, ¬ Event.Failed x) {e : Event}
    {cause err : GoError} (he : e.1.replyError e.2 = some cause) (hc : cause ∈ err.causes) :
    StopsWith (pre ++ [e]) (some err) :=
  ⟨fun h => (by cases h), fun _ h => by cases h; exact .inl ⟨pre, e, cause, rfl, hpre, he, hc⟩⟩

end StopsWith

section Loop

variable {α : Type} {send : α → Collector (Except GoError Unit)} {wrap : α → GoError → GoError}
  {ev : α → Except GoError Unit → Event} {xs : List α} {t : List Event} {r : Option GoError}

/-- The loop shape of `Clean`, when each `send x` is the single call `ev x`: a nil return had no
failed call, and an error wraps that of the failed call that ended the loop. -/
theorem forEachUntilError_stopsWith (hsend : ∀ x t v, Runs (send x) t v ↔ t = [ev x v])
    (hfail : ∀ x e, (ev x (.error e)).1.replyError (ev x (.error e)).2 = some e)
    (hok : ∀ x, ¬ (ev x (.ok ())).Failed) (hwrap : ∀ x e, e ∈ (wrap x e).causes)
    (h : Runs (forEachUntilError send wrap xs) t r) : StopsWith t r := by
  induction xs generalizing t with
  | nil =>
    obtain ⟨rfl, rfl⟩ := runs_pure_iff.mp h
    exact ⟨fun _ _ hx => absurd hx (List.not_mem_nil _), fun _ h => (by cases h)⟩
  | cons x xs ih =>
    simp only [forEachUntilError] at h
    obtain ⟨t₁, v, t₂, h₁, h₂, rfl⟩ := runs_bind_iff.mp h
    obtain rfl := (hsend x t₁ v).mp h₁
    rcases v with e | ⟨⟩
    · obtain ⟨rfl, rfl⟩ := runs_pure_iff.mp h₂
      exact StopsWith.failed [] (fun _ hx => absurd hx (List.not_mem_nil _)) (hfail x e)
        (hwrap x e)
    · exact (ih h₂).prepend [ev x (.ok ())] (by simpa using hok x)

end Loop

theorem waitForPodsTermination_stopsWith {pods : List Pod} {t : List Event} {r : Option GoError}
    (h : Runs (waitForPodsTermination pods) t r) : StopsWith t r :=
  @forEachUntilError_stopsWith _ _ _ (fun pod v => ⟨.waitForPodTermination pod.«namespace» pod.name, v⟩)
    pods t r (fun _ _ _ => runs_request_iff) (fun _ _ => rfl)
    (fun _ => Bool.false_ne_true) (fun _ _ => by simp) h

theorem removeDirPathFromNodes_stopsWith {namespaceName dirPath : String}
    {nodeNames : List String} {t : List Event} {r : Option GoError}
    (h : Runs (removeDirPathFromNodes namespaceName dirPath nodeNames) t r) : StopsWith t r :=
  @forEachUntilError_stopsWith _ _ _
    (fun node v => ⟨.removeDirPathFromNode namespaceName node dirPath, v⟩) nodeNames t r
    (fun _ _ _ => runs_request_iff) (fun _ _ => rfl)
    (fun _ => Bool.false_ne_true) (fun _ _ => by simp) h

theorem restoreNodeSelectors_stopsWith {logsCollectorName : String} {evicted : ObjectMeta}
    {t : List Event} {r : Option GoError}
    (h : Runs (restoreNodeSelectors logsCollectorName evicted) t r) : StopsWith t r := by
  rcases runs_restoreNodeSelectors_cases h with ⟨e, rfl, rfl⟩ | ⟨latest, e, rfl, rfl⟩ |
    ⟨latest, restored, tw, w, hw, hfailed, hdone⟩
  · exact StopsWith.failed [] (fun _ hx => absurd hx (List.not_mem_nil _)) rfl (by simp)
  · refine StopsWith.failed [_] ?_ rfl (by simp)
    exact not_failed_of_all rfl
  -- the re-fetch and the patch back succeeded; the waiter decides
  have hok : ∀ x ∈ [(⟨.getDaemonSet evicted.«namespace» logsCollectorName, .ok latest⟩ : Event),
      ⟨.updateDaemonSetWithNodeSelectors latest [], .ok restored⟩], ¬ Event.Failed x :=
    not_failed_of_all rfl
  rcases w with _ | e
  · obtain ⟨rfl, rfl⟩ := hdone rfl
    refine StopsWith.prepend ⟨fun _ => ?_, fun _ h => (by cases h)⟩ _ hok
    exact List.forall_mem_append.mpr ⟨hw.not_failed_of_none rfl, not_failed_of_all rfl⟩
  · obtain ⟨rfl, rfl⟩ := hfailed e rfl
    refine StopsWith.prepend ⟨fun h => (by cases h), fun _ h => ?_⟩ _ hok
    cases h
    exact (hw.stoppedBy rfl).wrap (GoError.causes_subset_propagated _ _ _)

/-- A run of `Clean` that returns an error is stopped by it: its last call is its one failed call
and that call's error is in the chain of the returned error, or no call failed and the chain
holds the error of the readiness waiter giving up. A run that returns nil had no failed call. -/
theorem clean_error_carries_failure (c : PackageConstants) (daemonSet : ObjectMeta)
    {t : List Event} {r : Option GoError} (h : Runs (clean c daemonSet) t r) :
    (r = none → ∀ x ∈ t, ¬ Event.Failed x) ∧ ∀ e, r = some e → StoppedBy t e := by
  rcases runs_clean h with ⟨e, rfl, rfl⟩ | ⟨pods, -, v, t', rfl, hfail, hok⟩
  · exact StopsWith.failed [] (fun _ hx => absurd hx (List.not_mem_nil _)) rfl (by simp)
  rcases v with e | evicted
  · obtain ⟨rfl, rfl⟩ := hfail e rfl
    rw [List.append_nil]
    refine StopsWith.failed [_, _] ?_ rfl (by simp)
    exact not_failed_of_all rfl
  -- after the eviction: the termination waits, the directory removals, then the restore
  have hterminated : ∀ x ∈ pods.map podTerminatedEvent, ¬ Event.Failed x :=
    List.forall_mem_map.mpr fun _ _ => Bool.false_ne_true
  refine StopsWith.prepend ?_ _ (not_failed_of_all rfl)
  rcases runs_cleanAfterEviction_cases (hok evicted rfl) with ⟨e, hw, rfl⟩ |
    ⟨td, e, hd, rfl, rfl⟩ | ⟨t'', hr, rfl⟩
  · exact waitForPodsTermination_stopsWith hw
  · exact (removeDirPathFromNodes_stopsWith hd).prepend _ hterminated
  · refine ((restoreNodeSelectors_stopsWith hr).prepend _ ?_).prepend _ hterminated
    exact List.forall_mem_map.mpr fun _ _ => Bool.false_ne_true

theorem clean_error_carries_failure_termination_failed :
    Runs (clean default fluentBitDaemonSet) terminationFailed
      (some (.propagated (.external "timed out")
        "An error occurred waiting for pod '%v' in namespace '%v'."
        [.str "fluent-bit-0", .str "kurtosis-logs"])) ∧
    StoppedBy terminationFailed (.propagated (.external "timed out")
      "An error occurred waiting for pod '%v' in namespace '%v'."
      [.str "fluent-bit-0", .str "kurtosis-logs"]) := by
  have h : Runs (clean default fluentBitDaemonSet) terminationFailed
      (some (.propagated (.external "timed out")
        "An error occurred waiting for pod '%v' in namespace '%v'."
        [.str "fluent-bit-0", .str "kurtosis-logs"])) :=
    .call _ <| .call _ <| .call _ <| .call _ <| .pure _
  exact ⟨h, (clean_error_carries_failure default fluentBitDaemonSet h).2 _ rfl⟩

end FluentbitLogsCollector
