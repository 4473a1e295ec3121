import FluentbitLogsCollector.Proofs.CreateAndStart
/-!
# What `CreateAndStart` leaves in the cluster

The calls of a run read as operations on the cluster's live objects: a successful creation adds
its object, a successful removal takes one copy of its object out, and every other call, a
failed creation or removal among them, leaves the live objects as they are. `replay live t` is
what is live after the calls `t`, from `live`.

`createAndStart_cluster_effect` reads `SagaOutcome` on the cluster: a failed run whose removal
calls succeed leaves every cluster as it found it, and a successful run adds exactly the six
objects, which a run of the returned closure whose removal calls succeed takes out again.

`createAndStart_leaves_failed_removals` drops the assumption on the removal calls: what a failed
run, or a run of the returned closure, leaves behind is exactly the objects whose removal call
failed, each of them reported.
-/

namespace FluentbitLogsCollector

open Program

/-- The live objects after the call `e`. -/
def Event.apply (live : List Resource) : Event → List Resource
  | ⟨.create c, .ok m⟩ => c.resource m :: live
  | ⟨.remove c, .ok ()⟩ => live.erase c.resource
  | _ => live

/-- The live objects after the calls `t`, from `live`. -/
def replay (live : List Resource) (t : List Event) : List Resource := t.foldl Event.apply live

@[simp] theorem replay_nil (live : List Resource) : replay live [] = live := rfl

@[simp] theorem replay_cons (live : List Resource) (e : Event) (t : List Event) :
    replay live (e :: t) = replay (e.apply live) t := rfl

@[simp] theorem replay_append (live : List Resource) (t₁ t₂ : List Event) :
    replay live (t₁ ++ t₂) = replay (replay live t₁) t₂ := List.foldl_append _ _ _ _

/-- Every removal call of `t` succeeded. -/
def RemovalsSucceed (t : List Event) : Prop := ∀ e ∈ t, e.removed?.isSome → ¬ e.Failed

theorem RemovalsSucceed.of_append_right {t₁ t₂ : List Event} (h : RemovalsSucceed (t₁ ++ t₂)) :
    RemovalsSucceed t₂ :=
  fun e he => h e (List.mem_append_right _ he)

/-- A call that is not a removal adds what it created. -/
theorem Event.apply_of_removed_none {e : Event} (he : e.removed? = none) (live : List Resource) :
    e.apply live = e.created?.toList ++ live := by
  obtain ⟨r, v⟩ := e
  cases r <;> (try cases v) <;> simp_all [Event.apply, Event.removed?, Event.created?]

/-- A removal that succeeded takes its object out. -/
theorem Event.apply_of_removed_some {e : Event} {res : Resource} (he : e.removed? = some res)
    (hf : ¬ e.Failed) (live : List Resource) : e.apply live = live.erase res := by
  obtain ⟨r, v⟩ := e
  cases r <;> simp only [Event.removed?, reduceCtorEq, Option.some.injEq] at he
  rcases v with e | ⟨⟩
  · simp [Event.Failed, Request.replyError] at hf
  · simp [Event.apply, he]

/-- Calls that remove nothing add, in order, what they created. -/
theorem replay_of_removals_nil {t : List Event} (h : removals t = []) (live : List Resource) :
    replay live t = (created t).reverse ++ live := by
  induction t generalizing live with
  | nil => rfl
  | cons e t ih =>
    cases he : e.removed? with
    | some res => simp [he] at h
    | none =>
      simp only [removals_cons, he, Option.toList_none, List.nil_append] at h
      rw [replay_cons, e.apply_of_removed_none he, ih h]
      cases hc : e.created? <;> simp [hc]

/-- Calls that create nothing and whose removals succeed take out what they remove, from the
front. -/
theorem replay_unwind {t : List Event} (hc : created t = []) (hok : RemovalsSucceed t)
    (live : List Resource) : replay (removals t ++ live) t = live := by
  induction t with
  | nil => rfl
  | cons e t ih =>
    have hce : e.created? = none := by
      cases h : e.created? with
      | none => rfl
      | some res => simp [h] at hc
    simp only [created_cons, hce, Option.toList_none, List.nil_append] at hc
    have hrest : RemovalsSucceed t := fun e' he' => hok e' (List.mem_cons_of_mem _ he')
    cases hr : e.removed? with
    | none => simpa [hr, e.apply_of_removed_none hr, hce] using ih hc hrest
    | some res =>
      have hf := hok e (List.mem_cons_self _ _) (by simp [hr])
      simpa [hr, e.apply_of_removed_some hr hf] using ih hc hrest

/-- On the live objects of a cluster, with the removal calls succeeding: a failed
`CreateAndStart` leaves the cluster as it found it, and a successful one adds the six objects,
which a run of the returned closure takes out again. -/
theorem createAndStart_cluster_effect (c : PackageConstants) (logsAggregatorHost : String)
    (logsAggregatorPort tcpPortNumber httpPortNumber : UInt16)
    (logsCollectorTcpPortId logsCollectorHttpPortId : String)
    (logsCollectorFilters : List Filter) (logsCollectorParsers : List Parser)
    {t : List Event} {r : Except GoError LogsCollectorObjects}
    (h : Runs (createAndStart c logsAggregatorHost logsAggregatorPort tcpPortNumber
      httpPortNumber logsCollectorTcpPortId logsCollectorHttpPortId logsCollectorFilters
      logsCollectorParsers) t r)
    (hok : RemovalsSucceed t) (live : List Resource) :
    (∀ e, r = .error e → replay live t = live) ∧
    (∀ objs, r = .ok objs → replay live t = objs.resources ++ live ∧
      ∀ t' u, Runs objs.removeLogsCollectorFunc t' u → RemovalsSucceed t' →
        replay (replay live t) t' = live) := by
  obtain ⟨hout, -, -⟩ := createAndStart_safe c logsAggregatorHost logsAggregatorPort tcpPortNumber
    httpPortNumber logsCollectorTcpPortId logsCollectorHttpPortId logsCollectorFilters
    logsCollectorParsers t r h
  cases r with
  | error e =>
    obtain ⟨-, hrem, ⟨t₁, t₂, rfl, hr₁, hc₂⟩, -⟩ := hout
    refine ⟨fun _ _ => ?_, fun _ h => (by cases h)⟩
    -- the unwind removes, from the front, what the creation phase added
    have hunwind : removals t₂ = (created t₁).reverse := by simpa [hr₁, hc₂] using hrem
    rw [replay_append, replay_of_removals_nil hr₁, ← hunwind,
      replay_unwind hc₂ hok.of_append_right]
  | ok objs =>
    obtain ⟨-, hrem, hres, htd, -, -⟩ := hout
    refine ⟨fun _ h => (by cases h), fun _ h => ?_⟩
    cases h
    have hlive : replay live t = objs.resources ++ live := by
      simpa [hres] using replay_of_removals_nil hrem live
    refine ⟨hlive, fun t' u h' hok' => ?_⟩
    obtain ⟨hrem', hc', -⟩ := htd t' u h'
    rw [hlive, ← hrem', replay_unwind hc' hok']

theorem createAndStart_cluster_effect_refused_service_account :
    Runs (createAndStart default "" 0 0 0 "" "" [] []) serviceAccountRefused
      (.error (.propagated (.propagated (.external "forbidden")
        "An error occurred creating service account for logs collector with name '%s'"
        [.str "kurtosis-logs"])
        "An error occurred while trying to create service account for fluent bit log collector."
        [])) ∧
    RemovalsSucceed serviceAccountRefused ∧ replay [] serviceAccountRefused = [] := by
  have hok : RemovalsSucceed serviceAccountRefused := by
    simp [RemovalsSucceed, serviceAccountRefused, Event.removed?, Event.Failed, Request.replyError]
  exact ⟨runs_serviceAccountRefused, hok,
    (createAndStart_cluster_effect default "" 0 0 0 "" "" [] [] runs_serviceAccountRefused hok
      []).1 _ rfl⟩


/-! ## What a rollback leaves behind -/

/-- The objects whose removal call failed, in the order of the calls. -/
def failedRemovals (t : List Event) : List Resource :=
  t.filterMap fun e => e.failedRemoval?.map fun f => f.1.resource

@[simp] theorem failedRemovals_append (t₁ t₂ : List Event) :
    failedRemovals (t₁ ++ t₂) = failedRemovals t₁ ++ failedRemovals t₂ := List.filterMap_append _ _ _

/-- A call that removes nothing is no failed removal. -/
theorem Event.failedRemoval?_eq_none {e : Event} (h : e.removed? = none) :
    e.failedRemoval? = none := by
  cases hf : e.failedRemoval? with
  | none => rfl
  | some f => simp [Event.removed?_of_failedRemoval? hf] at h

theorem failedRemovals_of_removals_nil {t : List Event} (h : removals t = []) :
    failedRemovals t = [] :=
  List.filterMap_eq_nil_iff.mpr fun e he => by
    rw [Event.failedRemoval?_eq_none (List.filterMap_eq_nil_iff.mp h e he)]
    rfl

theorem created_cons_eq_nil {e : Event} {t : List Event} :
    created (e :: t) = [] ↔ e.created? = none ∧ created t = [] := by
  cases h : e.created? <;> simp [h]

/-- A removal call takes its object out when it succeeds; when it fails it leaves the live
objects as they are, and is a failed removal of that object. -/
theorem Event.removal_cases {e : Event} {x : Resource} (he : e.removed? = some x) :
    ((∀ live, e.apply live = live.erase x) ∧ e.failedRemoval? = none) ∨
    ((∀ live, e.apply live = live) ∧ (e.failedRemoval?.map fun f => f.1.resource) = some x) := by
  obtain ⟨r, v⟩ := e
  cases r <;> simp only [Event.removed?, reduceCtorEq, Option.some.injEq] at he
  rcases v with err | ⟨⟩
  · exact .inr ⟨fun _ => rfl, by simp [Event.failedRemoval?, he]⟩
  · exact .inl ⟨fun _ => by simp [Event.apply, he], rfl⟩

/-- Calls that create nothing, from the live objects `kept ++ removals t ++ live`: each removal
that succeeds takes its object out, each that fails leaves it, so that what stays in front of
`live` is `kept` and the objects whose removal failed. -/
theorem replay_leaks {t : List Event} (hc : created t = []) (hnodup : (removals t).Nodup)
    (kept live : List Resource) (hkept : ∀ x ∈ kept, x ∉ removals t) :
    replay (kept ++ removals t ++ live) t = kept ++ failedRemovals t ++ live := by
  induction t generalizing kept with
  | nil => simp [failedRemovals]
  | cons e t ih =>
    obtain ⟨hce, hc⟩ := created_cons_eq_nil.mp hc
    cases hr : e.removed? with
    | none =>
      simp only [removals_cons, hr, Option.toList_none, List.nil_append] at hnodup hkept ⊢
      rw [replay_cons, e.apply_of_removed_none hr, hce, Option.toList_none, List.nil_append,
        ih hc hnodup kept hkept]
      simp [failedRemovals, Event.failedRemoval?_eq_none hr]
    | some x =>
      simp only [removals_cons, hr, Option.toList_some, List.singleton_append,
        List.nodup_cons, List.mem_cons, not_or] at hnodup hkept ⊢
      have hx : x ∉ kept := fun hx => (hkept x hx).1 rfl
      rcases Event.removal_cases hr with ⟨happly, hf⟩ | ⟨happly, hf⟩
      · -- the object is taken out of the front part, where it stands once
        rw [replay_cons, happly, List.append_assoc, List.erase_append_right _ hx,
          List.cons_append, List.erase_cons_head, ← List.append_assoc,
          ih hc hnodup.2 kept fun y hy => (hkept y hy).2]
        simp [failedRemovals, hf]
      · -- the object stays, after the ones kept before it
        have ih' := ih hc hnodup.2 (kept ++ [x]) fun y hy => by
          rcases List.mem_append.mp hy with hy | hy
          · exact (hkept y hy).2
          · rw [List.mem_singleton.mp hy]; exact hnodup.1
        rw [replay_cons, happly]
        simpa [failedRemovals, hf] using ih'

/-- After a successful `CreateAndStart`, the six objects it returns are live on top of what was,
and a run of the returned closure, from the six on top of any `live`, leaves `live` and exactly
the objects whose removal call failed, each reported. -/
theorem replay_createAndStart_ok (c : PackageConstants) (logsAggregatorHost : String)
    (logsAggregatorPort tcpPortNumber httpPortNumber : UInt16)
    (logsCollectorTcpPortId logsCollectorHttpPortId : String)
    (logsCollectorFilters : List Filter) (logsCollectorParsers : List Parser)
    {t : List Event} {objs : LogsCollectorObjects}
    (h : Runs (createAndStart c logsAggregatorHost logsAggregatorPort tcpPortNumber
      httpPortNumber logsCollectorTcpPortId logsCollectorHttpPortId logsCollectorFilters
      logsCollectorParsers) t (.ok objs)) (live : List Resource) :
    replay live t = objs.resources ++ live ∧
    ∀ t' u, Runs objs.removeLogsCollectorFunc t' u →
      FailedRemovalsReported t' ∧ replay (objs.resources ++ live) t' = failedRemovals t' ++ live := by
  obtain ⟨⟨-, hrem, hres, htd, hrepf, -⟩, -, -⟩ := createAndStart_safe c logsAggregatorHost
    logsAggregatorPort tcpPortNumber httpPortNumber logsCollectorTcpPortId logsCollectorHttpPortId
    logsCollectorFilters logsCollectorParsers t _ h
  refine ⟨by simpa [hres] using replay_of_removals_nil hrem live, fun t' u h' => ?_⟩
  obtain ⟨hrem', hc', -⟩ := htd t' u h'
  refine ⟨hrepf t' u h', ?_⟩
  rw [← hrem']
  simpa using replay_leaks hc' (hrem' ▸ objs.resources_nodup) [] live
    (fun _ h => (List.not_mem_nil _ h).elim)

/-- On the live objects of a cluster, whatever the removal calls reply: a failed
`CreateAndStart` leaves the objects it started from and, on top, exactly the objects whose
removal call failed, and a run of the closure a successful one returns leaves the objects the
run started from and exactly the objects whose removal call failed; each failed removal is
reported. -/
theorem createAndStart_leaves_failed_removals (c : PackageConstants) (logsAggregatorHost : String)
    (logsAggregatorPort tcpPortNumber httpPortNumber : UInt16)
    (logsCollectorTcpPortId logsCollectorHttpPortId : String)
    (logsCollectorFilters : List Filter) (logsCollectorParsers : List Parser)
    {t : List Event} {r : Except GoError LogsCollectorObjects}
    (h : Runs (createAndStart c logsAggregatorHost logsAggregatorPort tcpPortNumber
      httpPortNumber logsCollectorTcpPortId logsCollectorHttpPortId logsCollectorFilters
      logsCollectorParsers) t r) (live : List Resource) :
    FailedRemovalsReported t ∧
    (∀ e, r = .error e → replay live t = failedRemovals t ++ live) ∧
    (∀ objs, r = .ok objs → ∀ t' u, Runs objs.removeLogsCollectorFunc t' u →
      FailedRemovalsReported t' ∧ replay (replay live t) t' = failedRemovals t' ++ live) := by
  obtain ⟨hout, -, hrep⟩ := createAndStart_safe c logsAggregatorHost logsAggregatorPort
    tcpPortNumber httpPortNumber logsCollectorTcpPortId logsCollectorHttpPortId
    logsCollectorFilters logsCollectorParsers t r h
  refine ⟨hrep, ?_⟩
  cases r with
  | error e =>
    obtain ⟨hpre, hrem, ⟨t₁, t₂, rfl, hr₁, hc₂⟩, -⟩ := hout
    refine ⟨fun _ _ => ?_, fun _ h => (by cases h)⟩
    have hunwind : removals t₂ = (created t₁).reverse := by simpa [hr₁, hc₂] using hrem
    -- one object of each kind is created, so each is removed once
    have hnodup : (removals t₂).Nodup := by
      rw [hunwind, List.nodup_reverse]
      exact nodup_of_kinds_prefix (by simpa [hc₂] using hpre)
    have := replay_leaks hc₂ hnodup [] live (fun _ h => (List.not_mem_nil _ h).elim)
    rw [replay_append, replay_of_removals_nil hr₁, failedRemovals_append,
      failedRemovals_of_removals_nil hr₁, ← hunwind]
    simpa using this
  | ok objs =>
    refine ⟨fun _ h => (by cases h), fun _ hr => ?_⟩
    cases hr
    obtain ⟨hlive, hdown⟩ := replay_createAndStart_ok c logsAggregatorHost logsAggregatorPort
      tcpPortNumber httpPortNumber logsCollectorTcpPortId logsCollectorHttpPortId
      logsCollectorFilters logsCollectorParsers h live
    rw [hlive]
    exact hdown

theorem runs_namespaceRemovalFailed :
    Runs (createAndStart default "" 0 0 0 "" "" [] []) namespaceRemovalFailed
      (.error (.propagated (.propagated (.external "forbidden")
        "An error occurred creating service account for logs collector with name '%s'"
        [.str "kurtosis-logs"])
        "An error occurred while trying to create service account for fluent bit log collector."
        [])) :=
  .call _ <| .call _ <| .call _ <| .call _ <| .call _ <| .call _ <| .call _ <| .call _ <| .pure _

theorem createAndStart_leaves_failed_removals_namespace :
    Runs (createAndStart default "" 0 0 0 "" "" [] []) namespaceRemovalFailed
      (.error (.propagated (.propagated (.external "forbidden")
        "An error occurred creating service account for logs collector with name '%s'"
        [.str "kurtosis-logs"])
        "An error occurred while trying to create service account for fluent bit log collector."
        [])) ∧
    replay [] namespaceRemovalFailed = [(.«namespace», ⟨"kurtosis-logs", ""⟩)] := by
  refine ⟨runs_namespaceRemovalFailed, ?_⟩
  rw [(createAndStart_leaves_failed_removals default "" 0 0 0 "" "" [] []
    runs_namespaceRemovalFailed []).2.1 _ rfl]
  rfl

end FluentbitLogsCollector
