import FluentbitLogsCollector.Model.CreateAndStart
import FluentbitLogsCollector.Proofs.Wait
/-!
# What each step of `CreateAndStart` does

One spec lemma per step of the saga, about every run of the step: which object it creates
(`Makes`), which objects it removes (`Removes`), and which objects its creation call names
(`CreateCall.refs`): the namespace of a namespaced object, the service account and cluster role
of the binding, the service account and config map of the daemon set. The lemmas about the
frame of deferred closures say what Go's `return` runs.
-/

namespace FluentbitLogsCollector

open Program

variable {α : Type}

/-! ## The objects a call names -/

/-- The objects a creation call names, by kind and name: the namespace of a namespaced object,
the service accounts (with their namespaces) and the cluster role a binding binds, and the
service account and the config maps a daemon set runs with and mounts. -/
def CreateCall.refs : CreateCall → List (ResourceKind × String)
  | .createNamespace .. | .createClusterRoles .. => []
  | .createServiceAccount _ namespaceName _ | .createConfigMap namespaceName .. =>
    [(.«namespace», namespaceName)]
  | .createClusterRoleBindings _ subjects roleRef _ =>
    subjects.flatMap (fun s => [(.serviceAccount, s.name), (.«namespace», s.«namespace»)]) ++
      [(.clusterRole, roleRef.name)]
  | .createDaemonSet namespaceName _ _ _ serviceAccountName _ _ volumes =>
    (.«namespace», namespaceName) :: (.serviceAccount, serviceAccountName) ::
      volumes.filterMap fun v =>
        match v.volumeSource with
        | .configMap name => some (.configMap, name)
        | .hostPath _ => none

/-- The objects a call names: those of a creation call, none for any other call. -/
def Event.refs : Event → List (ResourceKind × String)
  | ⟨.create c, _⟩ => c.refs
  | _ => []

/-! ## Steps that create at most one object -/

/-- What a step that returned `r` has created: `made a` when it returned `a`, nothing when it
failed. -/
def madeOn (made : α → List Resource) : Except GoError α → List Resource
  | .ok a => made a
  | .error _ => []

@[simp] theorem madeOn_ok (made : α → List Resource) (a : α) : madeOn made (.ok a) = made a := rfl

@[simp] theorem madeOn_error (made : α → List Resource) (e : GoError) :
    madeOn made (.error e) = [] := rfl

/-- Every run of `p` removes nothing, creates what `madeOn made` says of its result, and names
no object but those of `names`. -/
def Makes (made : α → List Resource) (names : List (ResourceKind × String))
    (p : Collector (Except GoError α)) : Prop :=
  ∀ (t : List Event) r, Runs p t r → removals t = [] ∧ created t = madeOn made r ∧
    ∀ e ∈ t, ∀ n ∈ e.refs, n ∈ names

/-- Every run of `p` removes the objects `rs`, in this order, and makes no creation call. -/
def Removes (rs : List Resource) (p : Collector α) : Prop :=
  ∀ (t : List Event) a, Runs p t a → removals t = rs ∧ created t = [] ∧ ∀ e ∈ t, e.refs = []

namespace Removes

variable {β : Type} {rs rs' : List Resource} {p : Collector α}

theorem pure (a : α) : Removes [] (Program.pure a : Collector α) := by
  rintro t b h
  obtain ⟨rfl, -⟩ := runs_pure_iff.mp h
  simp

/-- A call that neither creates nor removes, followed by what its reply selects. -/
theorem call {r : Request} {k : r.Reply → Collector α}
    (hr : ∀ v, Event.created? ⟨r, v⟩ = none ∧ Event.removed? ⟨r, v⟩ = none ∧
      Event.refs ⟨r, v⟩ = [])
    (hk : ∀ v, Removes rs (k v)) : Removes rs (.call r k) := by
  rintro t b h
  obtain ⟨v, t', rfl, hrest⟩ := runs_call_iff.mp h
  obtain ⟨hc, hr', hn⟩ := hr v
  simpa [hc, hr', hn] using hk v t' b hrest

theorem bind {f : α → Collector β} (hp : Removes rs p) (hf : ∀ a, Removes rs' (f a)) :
    Removes (rs ++ rs') (p >>= f) := by
  rintro t b h
  obtain ⟨t₁, a, t₂, h₁, h₂, rfl⟩ := runs_bind_iff.mp h
  obtain ⟨hr₁, hc₁, hn₁⟩ := hp t₁ a h₁
  obtain ⟨hr₂, hc₂, hn₂⟩ := hf a t₂ b h₂
  exact ⟨by simp [hr₁, hr₂], by simp [hc₁, hc₂],
    fun e he => (List.mem_append.mp he).elim (hn₁ e) (hn₂ e)⟩

/-- A step that neither creates nor removes makes nothing and names nothing. -/
theorem makes {p : Collector (Except GoError α)} (hp : Removes [] p) :
    Makes (fun _ => []) [] p := by
  rintro t r h
  obtain ⟨h₁, h₂, h₃⟩ := hp t r h
  refine ⟨h₁, by cases r <;> simp [h₂], fun e he n hn => ?_⟩
  simp [h₃ e he] at hn

end Removes

namespace Makes

variable {β : Type} {made : α → List Resource} {names : List (ResourceKind × String)}

/-- A step that fails at once makes nothing. -/
theorem pure_error (e : GoError) :
    Makes made names (Program.pure (.error e) : Collector (Except GoError α)) := by
  rintro t r h
  obtain ⟨rfl, rfl⟩ := runs_pure_iff.mp h
  simp

/-- A call that neither creates nor removes, followed by a step. -/
theorem call {r : Request} {k : r.Reply → Collector (Except GoError α)}
    (hr : ∀ v, Event.created? ⟨r, v⟩ = none ∧ Event.removed? ⟨r, v⟩ = none ∧
      Event.refs ⟨r, v⟩ = [])
    (hk : ∀ v, Makes made names (k v)) : Makes made names (.call r k) := by
  rintro t b h
  obtain ⟨v, t', rfl, hrest⟩ := runs_call_iff.mp h
  obtain ⟨hc, hr', hn⟩ := hr v
  simpa [hc, hr', hn] using hk v t' b hrest

/-- A part that neither creates nor removes, followed by a step. -/
theorem bind_removes {p : Collector β} {f : β → Collector (Except GoError α)}
    (hp : Removes [] p) (hf : ∀ a, Makes made names (f a)) : Makes made names (p >>= f) := by
  rintro t r h
  obtain ⟨t₁, a, t₂, h₁, h₂, rfl⟩ := runs_bind_iff.mp h
  obtain ⟨hr₁, hc₁, hn₁⟩ := hp t₁ a h₁
  obtain ⟨hr₂, hc₂, hn₂⟩ := hf a t₂ r h₂
  refine ⟨by simp [hr₁, hr₂], by simp [hc₁, hc₂], ?_⟩
  simp only [List.mem_append]
  rintro e (he | he) n hn
  · simp [hn₁ e he] at hn
  · exact hn₂ e he n hn

end Makes

theorem WaitRun.removes_nothing {daemonSet : ObjectMeta} {n : Nat} {t : List Event}
    {r : Option GoError} (h : WaitRun daemonSet n t r) :
    removals t = [] ∧ created t = [] ∧ ∀ e ∈ t, e.refs = [] := by
  induction h with
  | exhausted => simp
  | timeout => simp [timeoutEvent, Event.removed?, Event.created?, Event.refs]
  | queryError | ready =>
    simp [tickEvent, podQueryEvent, Event.removed?, Event.created?, Event.refs]
  | notReady _ _ _ ih =>
    simpa [tickEvent, podQueryEvent, Event.removed?, Event.created?, Event.refs] using ih

theorem removes_nothing_waitFor (daemonSet : ObjectMeta) :
    Removes [] (waitForAtLeastOneActivePodManagedByDaemonSet daemonSet) :=
  fun _ _ h => (runs_waitAttempts h).removes_nothing

theorem removes_nothing_renderTemplate (name text parseMsg : String) (parseArgs : List FmtArg)
    (data : TemplateData) (executeMsg debugMsg : String) :
    Removes [] (renderTemplate name text parseMsg parseArgs data executeMsg debugMsg) := by
  simp only [renderTemplate, Template.parse, Template.execute, logf, call_bind, pure_bind_eq]
  refine Removes.call (fun _ => ⟨rfl, rfl, rfl⟩) fun v => ?_
  cases v with
  | error e => exact Removes.pure _
  | ok =>
    refine Removes.call (fun _ => ⟨rfl, rfl, rfl⟩) fun v => ?_
    cases v with
    | error e => exact Removes.pure _
    | ok buf => exact Removes.call (fun _ => ⟨rfl, rfl, rfl⟩) fun _ => Removes.pure _

/-- A single call that neither creates nor removes, such as the UUID generator or a port spec
constructor. -/
theorem makes_nothing_call {r : Request} {α : Type} {k : r.Reply → Except GoError α}
    (hr : ∀ v, Event.created? ⟨r, v⟩ = none ∧ Event.removed? ⟨r, v⟩ = none ∧
      Event.refs ⟨r, v⟩ = []) :
    Makes (fun _ => []) [] (.call r (fun v => .pure (k v)) : Collector (Except GoError α)) :=
  (Removes.call hr fun _ => Removes.pure _).makes

/-- The creation call at the end of a creation helper. -/
theorem makes_create (c : CreateCall) (wrap : GoError → GoError) :
    Makes (fun m => [c.resource m]) c.refs (do
      match ← KubernetesManager.create c with
      | .error e => return .error (wrap e)
      | .ok obj => return .ok obj) := by
  rintro t r h
  simp only [KubernetesManager.create, call_bind, pure_bind_eq, runs_call_iff] at h
  obtain ⟨v, t', rfl, h⟩ := h
  cases v <;> obtain ⟨rfl, rfl⟩ := runs_pure_iff.mp h <;>
    simp [Event.removed?, Event.created?, Event.refs]

/-- The shape of five of the creation helpers, whose creation call makes `made m` from the
reply `m` and names `names`, whatever the attributes. -/
theorem makes_createFromAttributes (guid : String) (kind : ResourceKind) (attributesMsg : String)
    (createCall : ObjectAttributes → CreateCall) (createMsg : String)
    (createArgs : ObjectAttributes → List FmtArg) {made : ObjectMeta → Resource}
    {names : List (ResourceKind × String)} (hmade : ∀ a m, (createCall a).resource m = made m)
    (hrefs : ∀ a, (createCall a).refs = names) :
    Makes (fun m => [made m]) names
      (createFromAttributes guid kind attributesMsg createCall createMsg createArgs) := by
  simp only [createFromAttributes, ObjAttrsProvider.forLogsCollectorObject, call_bind,
    pure_bind_eq]
  refine Makes.call (fun _ => ⟨rfl, rfl, rfl⟩) fun v => ?_
  rcases v with e | attrs
  · exact Makes.pure_error _
  · simpa only [hmade, hrefs] using makes_create (createCall attrs) _

theorem makes_createLogsCollectorNamespace (guid : String) :
    Makes (fun m => [(.«namespace», m)]) [] (createLogsCollectorNamespace guid) :=
  makes_createFromAttributes _ _ _ _ _ _ (fun _ _ => rfl) fun _ => rfl

theorem makes_createLogsCollectorServiceAccount (guid namespaceName : String) :
    Makes (fun m => [(.serviceAccount, m)]) [(.«namespace», namespaceName)]
      (createLogsCollectorServiceAccount guid namespaceName) :=
  makes_createFromAttributes _ _ _ _ _ _ (fun _ _ => rfl) fun _ => rfl

theorem makes_createLogsCollectorClusterRole (guid : String) :
    Makes (fun m => [(.clusterRole, m)]) [] (createLogsCollectorClusterRole guid) :=
  makes_createFromAttributes _ _ _ _ _ _ (fun _ _ => rfl) fun _ => rfl

theorem makes_createLogsCollectorClusterRoleBinding (guid serviceAccountName clusterRoleName
    namespaceName : String) :
    Makes (fun m => [(.clusterRoleBinding, m)])
      [(.serviceAccount, serviceAccountName), (.«namespace», namespaceName),
        (.clusterRole, clusterRoleName)]
      (createLogsCollectorClusterRoleBinding guid serviceAccountName clusterRoleName
        namespaceName) :=
  makes_createFromAttributes _ _ _ _ _ _ (fun _ _ => rfl) fun _ => rfl

theorem makes_createLogsCollectorDaemonSet (c : PackageConstants) (guid namespaceName
    fluentBitCfgConfigMapName serviceAccountName : String) (ports : List ContainerPort) :
    Makes (fun m => [(.daemonSet, ⟨m.name, namespaceName⟩)])
      [(.«namespace», namespaceName), (.serviceAccount, serviceAccountName),
        (.configMap, fluentBitCfgConfigMapName)]
      (createLogsCollectorDaemonSet c guid namespaceName fluentBitCfgConfigMapName
        serviceAccountName ports) :=
  makes_createFromAttributes _ _ _ _ _ _ (fun _ _ => rfl) fun _ => rfl

theorem makes_createLogsCollectorConfigMap (c : PackageConstants) (guid namespaceName : String)
    (httpPort : UInt16) (host : String) (port : UInt16) (filters : List Filter)
    (parsers : List Parser) :
    Makes (fun m => [(.configMap, ⟨m.name, namespaceName⟩)]) [(.«namespace», namespaceName)]
      (createLogsCollectorConfigMap c guid namespaceName httpPort host port filters parsers) := by
  simp only [createLogsCollectorConfigMap, ObjAttrsProvider.forLogsCollectorObject, call_bind,
    pure_bind_eq]
  refine Makes.call (fun _ => ⟨rfl, rfl, rfl⟩) fun v => ?_
  rcases v with e | attrs
  · exact Makes.pure_error _
  -- the two renderings make no creation call; the creation call ends the helper
  refine Makes.bind_removes (removes_nothing_renderTemplate _ _ _ _ _ _ _) fun cfg => ?_
  rcases cfg with e | cfg
  · exact Makes.pure_error _
  refine Makes.bind_removes (removes_nothing_renderTemplate _ _ _ _ _ _ _) fun parser => ?_
  rcases parser with e | parser
  · exact Makes.pure_error _
  · exact makes_create _ _

/-! ## Where the helpers differ -/

section Differences

variable {guid : String} {e : GoError} {t : List Event}

/-- The five helpers of the shared shape wrap a failed attributes lookup with their own
message. -/
theorem runs_createFromAttributes_attributes_error {kind : ResourceKind}
    {attributesMsg createMsg : String} {createCall : ObjectAttributes → CreateCall}
    {createArgs : ObjectAttributes → List FmtArg} {r : Except GoError ObjectMeta}
    (h : Runs (createFromAttributes guid kind attributesMsg createCall createMsg createArgs)
      (⟨.objectAttributes guid kind, .error e⟩ :: t) r) :
    t = [] ∧ r = .error (.propagated e attributesMsg []) := by
  simpa [createFromAttributes] using h

/-- The config map helper returns the error of a failed attributes lookup as it is. -/
theorem runs_createLogsCollectorConfigMap_attributes_error {c : PackageConstants}
    {namespaceName host : String} {httpPort port : UInt16} {filters : List Filter}
    {parsers : List Parser} {r : Except GoError ObjectMeta}
    (h : Runs (createLogsCollectorConfigMap c guid namespaceName httpPort host port filters
      parsers) (⟨.objectAttributes guid .configMap, .error e⟩ :: t) r) :
    t = [] ∧ r = .error e := by
  simpa [createLogsCollectorConfigMap] using h

/-- A renderer that fails to parse its template returns the error with `parseMsg` and
`parseArgs`, whichever template it parsed. -/
theorem runs_renderTemplate_parse_error {name text parseMsg executeMsg debugMsg : String}
    {parseArgs : List FmtArg} {data : TemplateData} {r : Except GoError String}
    (h : Runs (renderTemplate name text parseMsg parseArgs data executeMsg debugMsg)
      (⟨.parseTemplate name text, .error e⟩ :: t) r) :
    t = [] ∧ r = .error (.propagated e parseMsg parseArgs) := by
  simpa [renderTemplate] using h

/-- So a parse failure of the parser config template is reported with the text of the main
config template. -/
theorem runs_generateFluentBitParserConfigStr_parse_error {c : PackageConstants}
    {parsers : List Parser} {r : Except GoError String}
    (h : Runs (generateFluentBitParserConfigStr c parsers)
      (⟨.parseTemplate "fluentBitParserConfig" c.parserConfigFileTemplate, .error e⟩ :: t) r) :
    t = [] ∧ r = .error (.propagated e "An error occurred parsing fluent bit config template: %v"
      [.str c.fluentBitConfigTemplate]) :=
  runs_renderTemplate_parse_error h

end Differences

/-! ## The removal closures -/

/-- A `remove…Func` closure makes its removal call, whatever it replies, and creates nothing. -/
theorem removes_removeObjectFunc (removal : RemoveCall) (what actionRequired : String)
    (actionArgs : List FmtArg) :
    Removes [removal.resource] (removeObjectFunc removal what actionRequired actionArgs) := by
  intro t u h
  simp only [removeObjectFunc, KubernetesManager.remove, call_bind, pure_bind_eq,
    runs_call_iff] at h
  obtain ⟨v, t', rfl, h⟩ := h
  have hlogs : removals t' = [] ∧ created t' = [] ∧ ∀ e ∈ t', Event.refs e = [] := by
    cases v with
    | ok => exact Removes.pure _ t' u h
    | error e =>
      simp only [logf, call_bind, pure_bind_eq] at h
      exact Removes.call (fun _ => by exact ⟨rfl, rfl, rfl⟩)
        (fun _ => Removes.call (fun _ => by exact ⟨rfl, rfl, rfl⟩) fun _ => Removes.pure _) t' u h
  obtain ⟨hr, hc, hn⟩ := hlogs
  exact ⟨by simp [Event.removed?, hr], by simp [Event.created?, hc],
    List.forall_mem_cons.mpr ⟨rfl, hn⟩⟩

theorem removes_func (removal : RemoveCall) : Removes [removal.resource] removal.func := by
  cases removal <;> exact removes_removeObjectFunc _ _ _ _

/-! ## The frame of deferred closures -/

namespace Frame

/-- The objects the deferred closures remove, most recent first. -/
def resources (fr : Frame) : List Resource := fr.deferred.map RemoveCall.resource

/-- Every deferred closure still has its flag set. -/
def Armed (fr : Frame) : Prop := ∀ c ∈ fr.deferred, fr.shouldRemove c.resource.1 = true

@[simp] theorem resources_empty : empty.resources = [] := rfl

@[simp] theorem resources_deferRemoval (fr : Frame) (c : RemoveCall) :
    (fr.deferRemoval c).resources = c.resource :: fr.resources := rfl

theorem armed_empty : empty.Armed := by simp [Armed, empty]

theorem Armed.deferRemoval {fr : Frame} (hfr : fr.Armed) (c : RemoveCall) :
    (fr.deferRemoval c).Armed := by
  intro c' hc'
  rcases List.mem_cons.mp hc' with rfl | hc'
  · simp [Frame.deferRemoval]
  · simp [Frame.deferRemoval, hfr c' hc']

theorem removes_runDeferred_armed {flags : ResourceKind → Bool} {cs : List RemoveCall}
    (hflags : ∀ c ∈ cs, flags c.resource.1 = true) :
    Removes (cs.map RemoveCall.resource) (runDeferred flags cs) := by
  induction cs with
  | nil => exact Removes.pure _
  | cons c cs ih =>
    simp only [List.mem_cons, forall_eq_or_imp] at hflags
    simp only [runDeferred, if_pos hflags.1]
    exact (removes_func c).bind fun _ => ih hflags.2

theorem runDeferred_disarmed {flags : ResourceKind → Bool} {cs : List RemoveCall}
    {t : List Event} {u : Unit} (hflags : ∀ k, flags k = false)
    (h : Runs (runDeferred flags cs) t u) : t = [] := by
  induction cs generalizing t with
  | nil => exact (runs_pure_iff.mp h).1
  | cons c cs ih =>
    simp only [runDeferred, hflags, pure_eq, pure_bind_eq] at h
    exact ih (by simpa using h)

/-- Go's `return res` returns `res`, whatever the deferred closures do. -/
theorem result_of_runs_ret {fr : Frame} {res r : α} {t : List Event} (h : Runs (fr.ret res) t r) :
    r = res := by
  obtain ⟨_, _, _, -, h₂, -⟩ := runs_bind_iff.mp h
  exact (runs_pure_iff.mp h₂).2

theorem ret_armed {fr : Frame} (hfr : fr.Armed) {res : α} {t : List Event} {r : α}
    (h : Runs (fr.ret res) t r) :
    r = res ∧ removals t = fr.resources ∧ created t = [] ∧ ∀ e ∈ t, e.refs = [] := by
  obtain ⟨t₁, _, t₂, h₁, h₂, rfl⟩ := runs_bind_iff.mp h
  obtain ⟨rfl, rfl⟩ := runs_pure_iff.mp h₂
  simpa using removes_runDeferred_armed hfr t₁ _ h₁

theorem ret_disarmed {fr : Frame} (hfr : ∀ k, fr.shouldRemove k = false) {res : α}
    {t : List Event} {r : α} (h : Runs (fr.ret res) t r) : r = res ∧ t = [] := by
  obtain ⟨t₁, _, t₂, h₁, h₂, rfl⟩ := runs_bind_iff.mp h
  obtain ⟨rfl, rfl⟩ := runs_pure_iff.mp h₂
  simpa using runDeferred_disarmed hfr h₁

/-- Clearing the six flags leaves none set. -/
theorem disarm_six (fr : Frame) (k : ResourceKind) :
    ((((((fr.disarm .clusterRoleBinding).disarm .clusterRole).disarm .serviceAccount).disarm
      .«namespace»).disarm .configMap).disarm .daemonSet).shouldRemove k = false := by
  cases k <;> simp [disarm]

end Frame

end FluentbitLogsCollector
