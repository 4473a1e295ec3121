import FluentbitLogsCollector.Proofs.Clean
/-!
# The node selectors `Clean` leaves

`Clean` evicts the daemon's pods by patching the daemon set with a node selector no node matches,
and patches it back to no node selector at the end. There is no rollback in between: a failure
after the eviction returns at once and leaves the daemon set unschedulable. Reading each
successful patch as setting the daemon set's node selectors (`nodeSelectorsAfter`):

* `clean_never_leaves_evicted_silently`: a run of `Clean` leaves the node selectors as it found
  them, or empty, or evicting, and in the last case it returns an error;
* `clean_removes_checkpoints_while_evicted`: every removal of a checkpoint directory comes while
  the node selectors are the evicting ones, so no replica can be scheduled on the node then.
-/

namespace FluentbitLogsCollector

open Program

/-- The node selectors a successful patch sets. -/
def Event.nodeSelectors? : Event → Option (GoMap String)
  | ⟨.updateDaemonSetWithNodeSelectors _ nodeSelectors, .ok _⟩ => some nodeSelectors
  | _ => none

/-- The daemon set's node selectors after the calls `t`, from `nodeSelectors`. -/
def nodeSelectorsAfter (nodeSelectors : GoMap String) (t : List Event) : GoMap String :=
  t.foldl (fun s e => e.nodeSelectors?.getD s) nodeSelectors

@[simp] theorem nodeSelectorsAfter_nil (s : GoMap String) : nodeSelectorsAfter s [] = s := rfl

@[simp] theorem nodeSelectorsAfter_cons (s : GoMap String) (e : Event) (t : List Event) :
    nodeSelectorsAfter s (e :: t) = nodeSelectorsAfter (e.nodeSelectors?.getD s) t := rfl

@[simp] theorem nodeSelectorsAfter_append (s : GoMap String) (t₁ t₂ : List Event) :
    nodeSelectorsAfter s (t₁ ++ t₂) = nodeSelectorsAfter (nodeSelectorsAfter s t₁) t₂ :=
  List.foldl_append _ _ _ _

/-- Calls that patch nothing leave the node selectors as they are. -/
theorem nodeSelectorsAfter_of_forall {t : List Event} (h : ∀ e ∈ t, e.nodeSelectors? = none)
    (s : GoMap String) : nodeSelectorsAfter s t = s := by
  induction t with
  | nil => rfl
  | cons e t ih =>
    rw [nodeSelectorsAfter_cons, h e (List.mem_cons_self _ _), Option.getD_none]
    exact ih fun e he => h e (List.mem_cons_of_mem _ he)

theorem WaitRun.nodeSelectors_none {daemonSet : ObjectMeta} {n : Nat} {t : List Event}
    {r : Option GoError} (h : WaitRun daemonSet n t r) : ∀ e ∈ t, e.nodeSelectors? = none := by
  intro ⟨q, v⟩ he
  rcases h.calls _ he with rfl | rfl <;> rfl

variable {c : PackageConstants} {daemonSet : ObjectMeta} {pods : List Pod}
  {logsCollectorName : String} {evicted : ObjectMeta} {t : List Event} {r : Option GoError}

theorem nodeSelectors_waitForPodsTermination (h : Runs (waitForPodsTermination pods) t r) :
    ∀ e ∈ t, e.nodeSelectors? = none := fun e he => by
  obtain ⟨pod, -, v, rfl⟩ := (runs_waitForPodsTermination h).1 e he
  rfl

theorem nodeSelectors_removeDirPathFromNodes {namespaceName dirPath : String}
    {nodeNames : List String} (h : Runs (removeDirPathFromNodes namespaceName dirPath nodeNames) t r) :
    ∀ e ∈ t, e.nodeSelectors? = none := fun e he => by
  obtain ⟨node, -, v, rfl⟩ := (runs_removeDirPathFromNodes h).1 e he
  rfl

/-- The restore leaves the node selectors as they were, and returns an error, or empties them. -/
theorem restoreNodeSelectors_nodeSelectors
    (h : Runs (restoreNodeSelectors logsCollectorName evicted) t r) (s : GoMap String) :
    (nodeSelectorsAfter s t = s ∧ r.isSome) ∨ nodeSelectorsAfter s t = [] := by
  rcases runs_restoreNodeSelectors_cases h with ⟨e, rfl, rfl⟩ | ⟨latest, e, rfl, rfl⟩ |
    ⟨latest, restored, tw, w, hw, hfailed, hdone⟩
  · exact .inl ⟨rfl, rfl⟩
  · exact .inl ⟨rfl, rfl⟩
  -- after the patch back, the waiter and the closing line patch nothing
  have htw := nodeSelectorsAfter_of_forall hw.nodeSelectors_none
  rcases w with _ | e
  · obtain ⟨rfl, -⟩ := hdone rfl
    simp [htw, Event.nodeSelectors?]
  · obtain ⟨rfl, -⟩ := hfailed e rfl
    simp [htw, Event.nodeSelectors?]

/-- A run of `cleanAfterEviction` is calls that patch nothing, the termination waits and the
directory removals, then, unless one of them failed, a run of the restore. -/
theorem cleanAfterEviction_until_restore {nodeNames : List String}
    (h : Runs (cleanAfterEviction c logsCollectorName pods nodeNames evicted) t r) :
    ∃ pre post, t = pre ++ post ∧ (∀ e ∈ pre, e.nodeSelectors? = none) ∧
      ((post = [] ∧ r.isSome) ∨ Runs (restoreNodeSelectors logsCollectorName evicted) post r) := by
  have hterminated : ∀ e ∈ pods.map podTerminatedEvent, e.nodeSelectors? = none := fun e he => by
    obtain ⟨pod, -, rfl⟩ := List.mem_map.mp he
    rfl
  rcases runs_cleanAfterEviction_cases h with ⟨e, hw, rfl⟩ | ⟨td, e, hd, rfl, rfl⟩ |
    ⟨t', hr, rfl⟩
  · exact ⟨t, [], (List.append_nil t).symm, nodeSelectors_waitForPodsTermination hw,
      .inl ⟨rfl, rfl⟩⟩
  · exact ⟨_, [], (List.append_nil _).symm,
      List.forall_mem_append.mpr ⟨hterminated, nodeSelectors_removeDirPathFromNodes hd⟩,
      .inl ⟨rfl, rfl⟩⟩
  refine ⟨_, t', (List.append_assoc _ _ _).symm,
    List.forall_mem_append.mpr ⟨hterminated, fun e he => ?_⟩, .inr hr⟩
  obtain ⟨node, -, rfl⟩ := List.mem_map.mp he
  rfl

/-- The part after the eviction leaves the node selectors as they were, and returns an error,
or empties them. -/
theorem cleanAfterEviction_nodeSelectors {nodeNames : List String}
    (h : Runs (cleanAfterEviction c logsCollectorName pods nodeNames evicted) t r)
    (s : GoMap String) : (nodeSelectorsAfter s t = s ∧ r.isSome) ∨ nodeSelectorsAfter s t = [] := by
  obtain ⟨pre, post, rfl, hpre, hpost⟩ := cleanAfterEviction_until_restore h
  rw [nodeSelectorsAfter_append, nodeSelectorsAfter_of_forall hpre]
  rcases hpost with ⟨rfl, hr⟩ | hr
  · exact .inl ⟨rfl, hr⟩
  · exact restoreNodeSelectors_nodeSelectors hr s

/-- A run of `Clean` from a daemon set with node selectors `s` leaves them as they were, or
empty, or evicting; in the last case, the eviction succeeded and a later call failed, and
`Clean` returns an error: it never returns nil with the daemon set left unschedulable. -/
theorem clean_never_leaves_evicted_silently (c : PackageConstants) (daemonSet : ObjectMeta)
    (h : Runs (clean c daemonSet) t r) (s : GoMap String) :
    nodeSelectorsAfter s t = s ∨ nodeSelectorsAfter s t = [] ∨
      (nodeSelectorsAfter s t = evictNodeSelectors ∧ r.isSome) := by
  rcases runs_clean h with ⟨e, rfl, -⟩ | ⟨pods, -, v, t', rfl, hfailed, hevicted⟩
  · exact .inl rfl
  rcases v with e | evicted
  · obtain ⟨rfl, -⟩ := hfailed e rfl
    exact .inl rfl
  rcases cleanAfterEviction_nodeSelectors (hevicted evicted rfl) evictNodeSelectors with h' | h'
  · exact .inr (.inr (by simpa using h'))
  · exact .inr (.inl (by simpa using h'))

/-! ## Checkpoints are removed while the daemon set is evicted -/

/-- The call removes a directory from a node. -/
def Event.removesDir : Event → Bool
  | ⟨.removeDirPathFromNode .., _⟩ => true
  | _ => false

theorem WaitRun.removesDir_false {daemonSet : ObjectMeta} {n : Nat} {t : List Event}
    {r : Option GoError} (h : WaitRun daemonSet n t r) : ∀ e ∈ t, e.removesDir = false := by
  intro ⟨q, v⟩ he
  rcases h.calls _ he with rfl | rfl <;> rfl

theorem restoreNodeSelectors_removesDir_false
    (h : Runs (restoreNodeSelectors logsCollectorName evicted) t r) :
    ∀ e ∈ t, e.removesDir = false := by
  rcases runs_restoreNodeSelectors_cases h with ⟨e, rfl, -⟩ | ⟨latest, e, rfl, -⟩ |
    ⟨latest, restored, tw, w, hw, hfailed, hdone⟩
  · simp [Event.removesDir]
  · simp [Event.removesDir]
  rcases w with _ | e
  · obtain ⟨rfl, -⟩ := hdone rfl
    simp only [List.forall_mem_cons, List.forall_mem_append]
    exact ⟨rfl, rfl, hw.removesDir_false, rfl, fun _ h => absurd h (List.not_mem_nil _)⟩
  · obtain ⟨rfl, -⟩ := hfailed e rfl
    simp only [List.forall_mem_cons]
    exact ⟨rfl, rfl, hw.removesDir_false⟩

/-- A directory removal comes, after the calls `hist`, while the node selectors set from `s`
are the evicting ones. -/
def RemovesWhileEvicted (s : GoMap String) (hist : List Event) (e : Event) : Prop :=
  e.removesDir = true → nodeSelectorsAfter s hist = evictNodeSelectors

namespace RemovesWhileEvicted

variable {s : GoMap String} {hist : List Event}

/-- Calls that remove no directory. -/
theorem of_forall (h : ∀ e ∈ t, e.removesDir = false) : Guarded (RemovesWhileEvicted s) hist t :=
  Guarded.of_forall fun e he _ hdir => absurd hdir (by simp [h e he])

/-- Calls that patch nothing, after the evicting node selectors were set. -/
theorem of_evicted (hhist : nodeSelectorsAfter s hist = evictNodeSelectors)
    (h : ∀ e ∈ t, e.nodeSelectors? = none) : Guarded (RemovesWhileEvicted s) hist t :=
  Guarded.iff_forall.mpr fun pre e post hsplit _ => by
    rw [nodeSelectorsAfter_append, hhist]
    exact nodeSelectorsAfter_of_forall (fun x hx => h x (by simp [hsplit, hx])) _

end RemovesWhileEvicted

/-- In every run of `Clean`, each removal of a checkpoint directory comes while the daemon set
has the evicting node selector, set by the eviction patch and not yet patched back: no replica
can be scheduled on a node while its checkpoint database is removed. -/
theorem clean_removes_checkpoints_while_evicted (c : PackageConstants) (daemonSet : ObjectMeta)
    (h : Runs (clean c daemonSet) t r) (s : GoMap String) :
    Guarded (RemovesWhileEvicted s) [] t := by
  rcases runs_clean h with ⟨e, rfl, -⟩ | ⟨pods, -, v, t', rfl, hfailed, hevicted⟩
  · exact RemovesWhileEvicted.of_forall (by simp [podQueryEvent, Event.removesDir])
  refine Guarded.append_iff.mpr
    ⟨RemovesWhileEvicted.of_forall (by simp [podQueryEvent, Event.removesDir]), ?_⟩
  rcases v with e | evicted
  · obtain ⟨rfl, -⟩ := hfailed e rfl
    exact Guarded.nil
  -- from the eviction patch to the restore, no call patches the node selectors
  have hevict : nodeSelectorsAfter s ([] ++ [podQueryEvent daemonSet (.ok pods),
      ⟨.log .info "Cleaning the fluent bit logs collector daemon set..." [], ()⟩,
      ⟨.updateDaemonSetWithNodeSelectors daemonSet evictNodeSelectors, .ok evicted⟩]) =
      evictNodeSelectors := rfl
  obtain ⟨pre, post, rfl, hpre, hpost⟩ := cleanAfterEviction_until_restore (hevicted evicted rfl)
  rw [Guarded.append_iff]
  refine ⟨RemovesWhileEvicted.of_evicted hevict hpre, RemovesWhileEvicted.of_forall ?_⟩
  rcases hpost with ⟨rfl, -⟩ | hr
  · exact fun _ h => absurd h (List.not_mem_nil _)
  · exact restoreNodeSelectors_removesDir_false hr

theorem clean_removes_checkpoints_while_evicted_one_node :
    Runs (clean default fluentBitDaemonSet) oneNodeCleanup none ∧
    Guarded (RemovesWhileEvicted []) [] oneNodeCleanup :=
  ⟨runs_oneNodeCleanup,
    clean_removes_checkpoints_while_evicted default fluentBitDaemonSet runs_oneNodeCleanup []⟩

/-- A cleanup of `fluentBitDaemonSet` whose termination wait of `fluentBitPod` fails after the
eviction. -/
def terminationFailed : List Event :=
  [podQueryEvent fluentBitDaemonSet (.ok [fluentBitPod]),
    ⟨.log .info "Cleaning the fluent bit logs collector daemon set..." [], ()⟩,
    ⟨.updateDaemonSetWithNodeSelectors fluentBitDaemonSet evictNodeSelectors,
      .ok fluentBitDaemonSet⟩,
    ⟨.waitForPodTermination "kurtosis-logs" "fluent-bit-0", .error (.external "timed out")⟩]

theorem clean_never_leaves_evicted_silently_termination_failed :
    Runs (clean default fluentBitDaemonSet) terminationFailed
      (some (.propagated (.external "timed out")
        "An error occurred waiting for pod '%v' in namespace '%v'."
        [.str "fluent-bit-0", .str "kurtosis-logs"])) ∧
    nodeSelectorsAfter [("kubernetes.io/os", "linux")] terminationFailed = evictNodeSelectors ∧
    (nodeSelectorsAfter [("kubernetes.io/os", "linux")] terminationFailed =
        [("kubernetes.io/os", "linux")] ∨
      nodeSelectorsAfter [("kubernetes.io/os", "linux")] terminationFailed = [] ∨
      (nodeSelectorsAfter [("kubernetes.io/os", "linux")] terminationFailed = evictNodeSelectors ∧
        (some (GoError.propagated (.external "timed out")
          "An error occurred waiting for pod '%v' in namespace '%v'."
          [.str "fluent-bit-0", .str "kurtosis-logs"])).isSome)) := by
  have h : Runs (clean default fluentBitDaemonSet) terminationFailed
      (some (.propagated (.external "timed out")
        "An error occurred waiting for pod '%v' in namespace '%v'."
        [.str "fluent-bit-0", .str "kurtosis-logs"])) :=
    .call _ <| .call _ <| .call _ <| .call _ <| .pure _
  exact ⟨h, rfl,
    clean_never_leaves_evicted_silently default fluentBitDaemonSet h [("kubernetes.io/os", "linux")]⟩

end FluentbitLogsCollector
