import FluentbitLogsCollector.Proofs.Report
/-!
# The invariant of the provisioning saga

`SagaOutcome` says how a run of the rest of `CreateAndStart` ends, given the removals deferred so
far and the kinds still to be created: a failure unwinds what was created, most recent first,
and returns the error of a step before the next kind; a success removes nothing, returns the
six objects and a closure that removes them, and comes after a ready pod. `SagaSafe` adds that
each call names only objects created before it (`NamesCreated`) and that each failed removal is
reported (`FailedRemovalsReported`).

`Frame.check_safe` says what one step of the saga preserves, `waitThenCommit_safe` handles the
readiness gate and the commit, and `createAndStart_safe` chains them over the whole function.
-/

namespace FluentbitLogsCollector

open Program

variable {α : Type}

/-! ## The saga -/

/-- The kinds of the six objects, in the order `CreateAndStart` creates them. -/
def creationOrder : List ResourceKind :=
  [.«namespace», .serviceAccount, .clusterRole, .clusterRoleBinding, .configMap, .daemonSet]

namespace LogsCollectorObjects

/-- The six objects, in the order `removeLogsCollectorFunc` removes them: the daemon set and the
config map of their names in the namespace `objs.ns`. -/
def resources (objs : LogsCollectorObjects) : List Resource :=
  [(.daemonSet, ⟨objs.daemonSet.name, objs.ns.name⟩),
    (.configMap, ⟨objs.configMap.name, objs.ns.name⟩),
    (.clusterRoleBinding, objs.clusterRoleBinding), (.clusterRole, objs.clusterRole),
    (.serviceAccount, objs.serviceAccount), (.«namespace», objs.ns)]

/-- Every run of the returned closure removes the six objects, in the order of `resources`. -/
def TearsDown (objs : LogsCollectorObjects) : Prop :=
  Removes objs.resources objs.removeLogsCollectorFunc

end LogsCollectorObjects

/-- The messages `CreateAndStart` wraps the error of a failed step with, by the kind it creates
next: the UUID and the namespace before the namespace, one per creation helper, the two port
specs, the container ports and the daemon set before the daemon set, and the readiness wait once
all six are created. -/
def failureMessages : List ResourceKind → List String
  | .«namespace» :: _ =>
    ["An error occurred creating uuid for logs collector.",
      "An error occurred creating namespace for logs collector."]
  | .serviceAccount :: _ =>
    ["An error occurred while trying to create service account for fluent bit log collector."]
  | .clusterRole :: _ =>
    ["An error occurred while trying to create cluster role for fluent bit log collector."]
  | .clusterRoleBinding :: _ =>
    ["An error occurred while trying to create cluster role binding for fluent bit log collector."]
  | .configMap :: _ =>
    ["An error occurred while trying to create config map for fluent bit log collector."]
  | .daemonSet :: _ =>
    ["An error occurred creating the log collectors HTTP port spec object using number '%v' and protocol '%v'",
      "An error occurred creating the log collectors TCP port spec object using number '%v' and protocol '%v'",
      "An error occurred getting the logs collector fluent bit container ports from the port specs",
      "An error occurred while trying to create daemon set for fluent bit logs collector."]
  | [] =>
    ["An error occurred waiting for at least one active pod managed by logs collector daemon set '%v'"]

/-- How a run of the rest of the saga ends, when the removal of `deferred` (most recent first)
is deferred and `kinds` are still to be created: a failed run has created a prefix of `kinds`
and then, after its last creation, removed what it created, most recent first, and `deferred`,
and returns an error wrapped with the message of a step before the next kind to create;
a successful run has created all of `kinds`, removed nothing, returned objects whose closure
removes the same list and reports its failed removals, and ends with a run of the readiness
waiter on the returned daemon set that found a ready pod. -/
def SagaOutcome (deferred : List Resource) (kinds : List ResourceKind) (t : List Event) :
    Except GoError LogsCollectorObjects → Prop
  | .error e => (created t).map Prod.fst <+: kinds ∧ removals t = (created t).reverse ++ deferred ∧
      (∃ t₁ t₂, t = t₁ ++ t₂ ∧ removals t₁ = [] ∧ created t₂ = []) ∧
      ∃ cause msg args, e = .propagated cause msg args ∧
        msg ∈ failureMessages (kinds.drop (created t).length)
  | .ok objs => (created t).map Prod.fst = kinds ∧ removals t = [] ∧
      objs.resources = (created t).reverse ++ deferred ∧ objs.TearsDown ∧
      ReportsFailures objs.removeLogsCollectorFunc ∧ ∃ t₁ t₂, t = t₁ ++ t₂ ∧ Runs (waitForAtLeastOneActivePodManagedByDaemonSet objs.daemonSet) t₂ none

namespace SagaOutcome

variable {deferred : List Resource} {kinds : List ResourceKind} {t₁ t₂ : List Event}

/-- A run that failed after creating nothing, its deferred closures removing `deferred`, and
returns the error of a step before `kinds`. -/
theorem of_unwind {cause : GoError} {msg : String} {args : List FmtArg}
    (hr₁ : removals t₁ = []) (hc₁ : created t₁ = []) (hr₂ : removals t₂ = deferred)
    (hc₂ : created t₂ = []) (hmsg : msg ∈ failureMessages kinds) :
    SagaOutcome deferred kinds (t₁ ++ t₂) (.error (.propagated cause msg args)) :=
  ⟨by simp [hc₁, hc₂], by simp [hr₁, hc₁, hr₂, hc₂], ⟨t₁, t₂, rfl, hr₁, hc₂⟩,
    cause, msg, args, rfl, by simpa [hc₁, hc₂] using hmsg⟩

/-- A step that removed nothing and created `made`, then the rest of the saga with the removal
of `made` deferred. -/
theorem prepend {made : List Resource} {rest : List ResourceKind}
    {r : Except GoError LogsCollectorObjects} (hr₁ : removals t₁ = []) (hc₁ : created t₁ = made)
    (h : SagaOutcome (made.reverse ++ deferred) rest t₂ r) :
    SagaOutcome deferred (made.map Prod.fst ++ rest) (t₁ ++ t₂) r := by
  cases r with
  | error e =>
    obtain ⟨hpre, hr₂, ⟨u₁, u₂, rfl, hru₁, hcu₂⟩, cause, msg, args, rfl, hmsg⟩ := h
    refine ⟨by simpa [hc₁] using hpre, by simp [hr₁, hc₁, hr₂],
      ⟨t₁ ++ u₁, u₂, by simp, by simp [hr₁, hru₁], hcu₂⟩, cause, msg, args, rfl, ?_⟩
    -- the next kind to create is the same, counted after the step's objects
    rwa [created_append, hc₁, List.length_append, ← List.length_map made Prod.fst,
      List.drop_append]
  | ok objs =>
    obtain ⟨hkinds, hr₂, hres, htd, hrep, u₁, u₂, rfl, hw⟩ := h
    refine ⟨?_, ?_, ?_, htd, hrep, t₁ ++ u₁, u₂, by simp, hw⟩ <;>
      simp [hr₁, hc₁, hr₂, ← hkinds, hres]

end SagaOutcome

/-- Every object the call `e` names is one of `known`, or was created by a call of `hist`. -/
def NamesCreated (known : List Resource) (hist : List Event) (e : Event) : Prop :=
  ∀ n ∈ e.refs, ∃ m, (n.1, m) ∈ known ++ created hist ∧ m.name = n.2

namespace NamesCreated

variable {known : List Resource} {hist t : List Event}

/-- Calls that name nothing. -/
theorem of_refs_nil (h : ∀ e ∈ t, e.refs = []) : Guarded (NamesCreated known) hist t :=
  Guarded.of_forall fun e he _ n hn => by simp [h e he] at hn

/-- Calls that name only objects of `names`, each of them one of `known`. -/
theorem of_names {names : List (ResourceKind × String)} (h : ∀ e ∈ t, ∀ n ∈ e.refs, n ∈ names)
    (hnames : ∀ n ∈ names, ∃ m, (n.1, m) ∈ known ∧ m.name = n.2) :
    Guarded (NamesCreated known) hist t :=
  Guarded.of_forall fun e he _ n hn =>
    let ⟨m, hm, hname⟩ := hnames n (h e he n hn)
    ⟨m, List.mem_append_left _ hm, hname⟩

/-- Calls that name only objects of `known'` or created before them keep doing so after `hist`,
when `hist` created what `known'` has beyond `known`. -/
theorem shift {known' : List Resource} (hknown : ∀ x ∈ known', x ∈ known ++ created hist)
    (h : Guarded (NamesCreated known') [] t) : Guarded (NamesCreated known) hist t :=
  Guarded.iff_forall.mpr fun pre e post hsplit n hn => by
    obtain ⟨m, hm, hname⟩ := Guarded.iff_forall.mp h pre e post hsplit n hn
    refine ⟨m, ?_, hname⟩
    rw [created_append, ← List.append_assoc]
    rcases List.mem_append.mp hm with hm | hm
    · exact List.mem_append_left _ (hknown _ hm)
    · exact List.mem_append_right _ hm

end NamesCreated

/-- Every run of `p`, started in frame `fr` with `kinds` still to be created, ends as
`SagaOutcome` says, each of its calls names only objects of the frame or created before it,
and each of its failed removal calls is reported. -/
def SagaSafe (fr : Frame) (kinds : List ResourceKind)
    (p : Collector (Except GoError LogsCollectorObjects)) : Prop :=
  ∀ t r, Runs p t r → SagaOutcome fr.resources kinds t r ∧
    Guarded (NamesCreated fr.resources) [] t ∧ FailedRemovalsReported t

namespace Frame

variable {fr : Frame} {kinds : List ResourceKind} {msg : String} {args : List FmtArg}
  {k : α → Collector (Except GoError LogsCollectorObjects)}

/-- One step of the saga, `fr.check step …`: a step that makes `made v` when it returns `v` and
names only objects of the frame, then a continuation in a frame `next v` that has deferred the
removal of what the step made. -/
theorem check_safe (hfr : fr.Armed) (hmsg : msg ∈ failureMessages kinds)
    {made : α → List Resource} {names : List (ResourceKind × String)}
    {step : Collector (Except GoError α)} (hstep : Makes made names step)
    (hnames : ∀ n ∈ names, ∃ m, (n.1, m) ∈ fr.resources ∧ m.name = n.2)
    {rest : List ResourceKind} (hkinds : ∀ v, (made v).map Prod.fst ++ rest = kinds)
    {next : α → Frame} (hnext : ∀ v, (next v).resources = (made v).reverse ++ fr.resources)
    (hk : ∀ v, SagaSafe (next v) rest (k v)) :
    SagaSafe fr kinds (fr.check step msg args k) := by
  intro t r h
  simp only [check] at h
  obtain ⟨t₁, v, t₂, h₁, h₂, rfl⟩ := runs_bind_iff.mp h
  obtain ⟨hr₁, hc₁, hn₁⟩ := hstep t₁ v h₁
  have hg₁ : Guarded (NamesCreated fr.resources) [] t₁ := NamesCreated.of_names hn₁ hnames
  have hrep₁ : FailedRemovalsReported t₁ := ReportsFailures.of_makes hstep t₁ v h₁
  cases v with
  | error e =>
    have hrep₂ := reportsFailures_ret fr _ t₂ r h₂
    obtain ⟨rfl, hr₂, hc₂, hn₂⟩ := ret_armed hfr h₂
    exact ⟨.of_unwind hr₁ hc₁ hr₂ hc₂ hmsg,
      Guarded.append_iff.mpr ⟨hg₁, NamesCreated.of_refs_nil hn₂⟩,
      hrep₁.append hrep₂⟩
  | ok v =>
    obtain ⟨hout, hg₂, hrep₂⟩ := hk v t₂ r h₂
    -- the continuation's frame knows what the step made
    have hknown : ∀ x ∈ (next v).resources, x ∈ fr.resources ++ created t₁ := fun x hx => by
      rw [hnext, List.mem_append, List.mem_reverse] at hx
      rw [hc₁, madeOn_ok, List.mem_append]
      exact hx.symm
    rw [hnext] at hout
    rw [← hkinds v]
    exact ⟨.prepend hr₁ hc₁ hout, Guarded.append_iff.mpr ⟨hg₁, NamesCreated.shift hknown hg₂⟩,
      hrep₁.append hrep₂⟩

/-- A step that creates nothing and names nothing. -/
theorem check_safe_quiet (hfr : fr.Armed) (hmsg : msg ∈ failureMessages kinds)
    {step : Collector (Except GoError α)} (hstep : Makes (fun _ => []) [] step)
    (hk : ∀ v, SagaSafe fr kinds (k v)) : SagaSafe fr kinds (fr.check step msg args k) :=
  check_safe hfr hmsg hstep (fun _ hn => absurd hn (List.not_mem_nil _)) (fun _ => rfl) (fun _ => rfl)
    hk

/-- A step that creates an object of kind `kind`, naming only objects of the frame, whose
removal `removal m` is deferred next and removes what the step created. -/
theorem check_safe_create (hfr : fr.Armed) {kind : ResourceKind}
    (hmsg : msg ∈ failureMessages (kind :: kinds))
    {names : List (ResourceKind × String)} {step : Collector (Except GoError ObjectMeta)}
    {place : ObjectMeta → ObjectMeta} (hstep : Makes (fun m => [(kind, place m)]) names step)
    (removal : ObjectMeta → RemoveCall) (hremoval : ∀ m, (removal m).resource = (kind, place m))
    (hnames : ∀ n ∈ names, ∃ m, (n.1, m) ∈ fr.resources ∧ m.name = n.2)
    {k : ObjectMeta → Collector (Except GoError LogsCollectorObjects)}
    (hk : ∀ m, (fr.deferRemoval (removal m)).Armed →
      SagaSafe (fr.deferRemoval (removal m)) kinds (k m)) :
    SagaSafe fr (kind :: kinds) (fr.check step msg args k) :=
  check_safe hfr hmsg hstep hnames (fun _ => rfl) (fun m => by simp [hremoval m])
    fun m => hk m (hfr.deferRemoval _)

end Frame

/-- The closure `CreateAndStart` returns removes the six objects, daemon set first. -/
theorem removes_removeLogsCollectorFunc (ns serviceAccount clusterRole clusterRoleBinding
    configMap daemonSet : ObjectMeta) :
    Removes [(.daemonSet, ⟨daemonSet.name, ns.name⟩), (.configMap, ⟨configMap.name, ns.name⟩),
        (.clusterRoleBinding, clusterRoleBinding), (.clusterRole, clusterRole),
        (.serviceAccount, serviceAccount), (.«namespace», ns)]
      (removeLogsCollectorFunc ns serviceAccount clusterRole clusterRoleBinding configMap
        daemonSet) :=
  (removes_func (.removeDaemonSet ns.name daemonSet)).bind fun _ =>
  (removes_func (.removeConfigMap ns.name configMap)).bind fun _ =>
  (removes_func (.removeClusterRoleBindings clusterRoleBinding)).bind fun _ =>
  (removes_func (.removeClusterRole clusterRole)).bind fun _ =>
  (removes_func (.removeServiceAccount serviceAccount)).bind fun _ =>
  removes_func (.removeNamespace ns)

/-- The closure `CreateAndStart` returns reports each of its failed removals. -/
theorem reportsFailures_removeLogsCollectorFunc (ns serviceAccount clusterRole
    clusterRoleBinding configMap daemonSet : ObjectMeta) :
    ReportsFailures (removeLogsCollectorFunc ns serviceAccount clusterRole clusterRoleBinding
      configMap daemonSet) :=
  (reportsFailures_func (.removeDaemonSet ns.name daemonSet)).bind fun _ =>
  (reportsFailures_func (.removeConfigMap ns.name configMap)).bind fun _ =>
  (reportsFailures_func (.removeClusterRoleBindings clusterRoleBinding)).bind fun _ =>
  (reportsFailures_func (.removeClusterRole clusterRole)).bind fun _ =>
  (reportsFailures_func (.removeServiceAccount serviceAccount)).bind fun _ =>
  reportsFailures_func (.removeNamespace ns)

/-- The readiness gate and the commit: a failed wait runs the six armed closures, a successful
one clears the flags and returns the objects. -/
theorem waitThenCommit_safe {fr : Frame} (hfr : fr.Armed) {ns serviceAccount clusterRole
    clusterRoleBinding configMap daemonSet : ObjectMeta}
    (hres : fr.resources = [(.daemonSet, ⟨daemonSet.name, ns.name⟩),
      (.configMap, ⟨configMap.name, ns.name⟩),
      (.clusterRoleBinding, clusterRoleBinding), (.clusterRole, clusterRole),
      (.serviceAccount, serviceAccount), (.«namespace», ns)]) :
    SagaSafe fr []
      (waitThenCommit fr ns serviceAccount clusterRole clusterRoleBinding configMap daemonSet) := by
  intro t r h
  simp only [waitThenCommit] at h
  obtain ⟨t₁, w, t₂, h₁, h₂, rfl⟩ := runs_bind_iff.mp h
  have hw := removes_nothing_waitFor daemonSet
  obtain ⟨hr₁, hc₁, hn₁⟩ := hw t₁ w h₁
  have hrep₁ : FailedRemovalsReported t₁ := ReportsFailures.of_removes hw t₁ w h₁
  cases w with
  | some e =>
    have hrep₂ := Frame.reportsFailures_ret fr _ t₂ r h₂
    obtain ⟨rfl, hr₂, hc₂, hn₂⟩ := Frame.ret_armed hfr h₂
    exact ⟨.of_unwind hr₁ hc₁ hr₂ hc₂ (List.mem_singleton_self _),
      NamesCreated.of_refs_nil fun e he => (List.mem_append.mp he).elim (hn₁ e) (hn₂ e),
      hrep₁.append hrep₂⟩
  | none =>
    obtain ⟨rfl, rfl⟩ := Frame.ret_disarmed (Frame.disarm_six fr) h₂
    exact ⟨⟨by simp [hc₁], by simp [hr₁], by simp [hc₁, hres, LogsCollectorObjects.resources],
      removes_removeLogsCollectorFunc _ _ _ _ _ _, reportsFailures_removeLogsCollectorFunc _ _ _ _ _ _,
      [], t₁, by simp, h₁⟩,
      NamesCreated.of_refs_nil (by simpa using hn₁), by simpa using hrep₁⟩

/-- The whole saga, from the empty frame. -/
theorem createAndStart_safe (c : PackageConstants) (logsAggregatorHost : String)
    (logsAggregatorPort tcpPortNumber httpPortNumber : UInt16)
    (logsCollectorTcpPortId logsCollectorHttpPortId : String)
    (logsCollectorFilters : List Filter) (logsCollectorParsers : List Parser) :
    SagaSafe Frame.empty creationOrder (createAndStart c logsAggregatorHost logsAggregatorPort
      tcpPortNumber httpPortNumber logsCollectorTcpPortId logsCollectorHttpPortId
      logsCollectorFilters logsCollectorParsers) := by
  unfold createAndStart
  refine Frame.check_safe_quiet Frame.armed_empty (by simp [creationOrder, failureMessages])
    (makes_nothing_call fun _ => ⟨rfl, rfl, rfl⟩) fun guid => ?_
  refine Frame.check_safe_create Frame.armed_empty (by simp [failureMessages])
    (makes_createLogsCollectorNamespace guid) RemoveCall.removeNamespace (fun _ => rfl) (by simp)
    fun ns hfr => ?_
  refine Frame.check_safe_create hfr (by simp [failureMessages])
    (makes_createLogsCollectorServiceAccount guid ns.name) RemoveCall.removeServiceAccount
    (fun _ => rfl) (by simp [RemoveCall.resource]) fun serviceAccount hfr => ?_
  refine Frame.check_safe_create hfr (by simp [failureMessages])
    (makes_createLogsCollectorClusterRole guid) RemoveCall.removeClusterRole (fun _ => rfl)
    (by simp) fun clusterRole hfr => ?_
  refine Frame.check_safe_create hfr (by simp [failureMessages])
    (makes_createLogsCollectorClusterRoleBinding guid serviceAccount.name clusterRole.name ns.name)
    RemoveCall.removeClusterRoleBindings (fun _ => rfl) (by simp [RemoveCall.resource])
    fun clusterRoleBinding hfr => ?_
  refine Frame.check_safe_create hfr (by simp [failureMessages])
    (makes_createLogsCollectorConfigMap _ _ _ _ _ _ _ _) (RemoveCall.removeConfigMap ns.name)
    (fun _ => rfl) (by simp [RemoveCall.resource]) fun configMap hfr => ?_
  refine Frame.check_safe_quiet hfr (by simp [failureMessages])
    (makes_nothing_call fun _ => ⟨rfl, rfl, rfl⟩) fun httpPortSpec => ?_
  refine Frame.check_safe_quiet hfr (by simp [failureMessages])
    (makes_nothing_call fun _ => ⟨rfl, rfl, rfl⟩) fun tcpPortSpec => ?_
  refine Frame.check_safe_quiet hfr (by simp [failureMessages])
    (makes_nothing_call fun _ => ⟨rfl, rfl, rfl⟩) fun containerPorts => ?_
  refine Frame.check_safe_create hfr (by simp [failureMessages])
    (makes_createLogsCollectorDaemonSet _ _ _ _ _ _) (RemoveCall.removeDaemonSet ns.name)
    (fun _ => rfl) (by simp [RemoveCall.resource]) fun daemonSet hfr => ?_
  exact waitThenCommit_safe hfr rfl

end FluentbitLogsCollector
