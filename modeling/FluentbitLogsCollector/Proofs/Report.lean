import Mathlib.Data.List.Infix
import FluentbitLogsCollector.Proofs.Steps
/-!
# Reporting a failed removal

A `remove…Func` closure does not retry a removal call that fails: it logs two error lines, the
second an "ACTION REQUIRED" line that names the object's kind, and the name and namespace its
handle carries, so that an operator can remove the object by hand.

* `FailedRemovalsReported t`: every failed removal call of `t` is followed at once by these two
  lines. It is closed under `++` (`FailedRemovalsReported.append`), so it holds of a run when it
  holds of each of its parts;
* `ReportsFailures p`: every run of `p` has it. `reportsFailures_func` proves it of the six
  closures, and `Frame.reportsFailures_ret` of Go's `return`, whatever flags are set.
-/

namespace FluentbitLogsCollector

open Program

variable {α : Type}

/-- How the messages of the removal closures name an object's kind. -/
def ResourceKind.noun : ResourceKind → String
  | .«namespace» => "namespace"
  | .serviceAccount => "service account"
  | .clusterRole => "cluster role"
  | .clusterRoleBinding => "cluster role binding"
  | .configMap => "config map"
  | .daemonSet => "daemon set"

/-- A removal call that failed, with the error it got back. -/
def Event.failedRemoval? : Event → Option (RemoveCall × GoError)
  | ⟨.remove c, .error err⟩ => some (c, err)
  | _ => none

theorem Event.removed?_of_failedRemoval? {e : Event} {removal : RemoveCall} {err : GoError}
    (h : e.failedRemoval? = some (removal, err)) : e.removed? = some removal.resource := by
  unfold Event.failedRemoval? at h
  split at h
  · cases h; rfl
  · cases h

/-- `t` starts with the two lines that report the failed call `removal` with the error `err`:
an error line with the name of the call's handle and the error, then an error line that starts
with "ACTION REQUIRED", names the object's kind, and has among its arguments the handle's name
and, but for a namespace, its namespace. -/
def ReportsFailedRemoval (removal : RemoveCall) (err : GoError) (t : List Event) : Prop :=
  ∃ msg actionRequired args rest,
    t = ⟨.log .error msg [.val (.str removal.object.name), .err err], ()⟩ ::
      ⟨.log .error actionRequired args, ()⟩ :: rest ∧
    "ACTION REQUIRED".data <+: actionRequired.data ∧
    ("logs collector " ++ removal.resource.1.noun ++ " with").data <:+: actionRequired.data ∧
    .val (.str removal.object.name) ∈ args ∧
    (removal.resource.1 ≠ .«namespace» → .val (.str removal.object.«namespace») ∈ args)

theorem ReportsFailedRemoval.append {removal : RemoveCall} {err : GoError} {t : List Event}
    (h : ReportsFailedRemoval removal err t) (t' : List Event) :
    ReportsFailedRemoval removal err (t ++ t') :=
  let ⟨msg, actionRequired, args, rest, ht, hlines⟩ := h
  ⟨msg, actionRequired, args, rest ++ t', by simp [ht], hlines⟩

/-- Every failed removal call of a trace is followed at once by the two lines reporting it. -/
def FailedRemovalsReported : List Event → Prop
  | [] => True
  | e :: t => (∀ removal err, e.failedRemoval? = some (removal, err) →
      ReportsFailedRemoval removal err t) ∧ FailedRemovalsReported t

namespace FailedRemovalsReported

@[simp] theorem nil : FailedRemovalsReported [] := trivial

@[simp] theorem cons_iff {e : Event} {t : List Event} :
    FailedRemovalsReported (e :: t) ↔
      (∀ removal err, e.failedRemoval? = some (removal, err) →
        ReportsFailedRemoval removal err t) ∧ FailedRemovalsReported t := Iff.rfl

theorem append {t₁ t₂ : List Event} (h₁ : FailedRemovalsReported t₁)
    (h₂ : FailedRemovalsReported t₂) : FailedRemovalsReported (t₁ ++ t₂) := by
  induction t₁ with
  | nil => exact h₂
  | cons e t₁ ih =>
    obtain ⟨he, ht⟩ := h₁
    exact ⟨fun removal err hf => (he removal err hf).append t₂, ih ht⟩

/-- A trace without removal calls. -/
theorem of_removals_nil {t : List Event} (h : removals t = []) : FailedRemovalsReported t := by
  induction t with
  | nil => trivial
  | cons e t ih =>
    rw [removals_cons, List.append_eq_nil] at h
    refine ⟨fun removal err hf => ?_, ih h.2⟩
    simp [Event.removed?_of_failedRemoval? hf] at h

end FailedRemovalsReported

/-- Every run of `p` reports each of its removal calls that fails. -/
def ReportsFailures (p : Collector α) : Prop := ∀ t a, Runs p t a → FailedRemovalsReported t

namespace ReportsFailures

variable {β : Type} {p : Collector α}

theorem pure (a : α) : ReportsFailures (Program.pure a : Collector α) := by
  rintro t b h
  obtain ⟨rfl, -⟩ := runs_pure_iff.mp h
  trivial

theorem bind {f : α → Collector β} (hp : ReportsFailures p) (hf : ∀ a, ReportsFailures (f a)) :
    ReportsFailures (p >>= f) := by
  rintro t b h
  obtain ⟨t₁, a, t₂, h₁, h₂, rfl⟩ := runs_bind_iff.mp h
  exact (hp t₁ a h₁).append (hf a t₂ b h₂)

/-- A program that removes nothing. -/
theorem of_removes (hp : Removes [] p) : ReportsFailures p :=
  fun t a h => FailedRemovalsReported.of_removals_nil (hp t a h).1

/-- A step of the saga, which removes nothing. -/
theorem of_makes {made : α → List Resource} {names : List (ResourceKind × String)}
    {p : Collector (Except GoError α)} (hp : Makes made names p) : ReportsFailures p :=
  fun t a h => FailedRemovalsReported.of_removals_nil (hp t a h).1

end ReportsFailures

/-- A `remove…Func` closure reports its failed removal when its ACTION REQUIRED line names the
object: it starts with "ACTION REQUIRED", names the kind, and has the handle's name and, but for
a namespace, its namespace among its arguments. -/
theorem reportsFailures_removeObjectFunc (removal : RemoveCall) (what actionRequired : String)
    (actionArgs : List FmtArg) (hstart : "ACTION REQUIRED".data <+: actionRequired.data)
    (hkind : ("logs collector " ++ removal.resource.1.noun ++ " with").data <:+:
      actionRequired.data)
    (hname : .str removal.object.name ∈ actionArgs)
    (hns : removal.resource.1 ≠ .«namespace» → .str removal.object.«namespace» ∈ actionArgs) :
    ReportsFailures (removeObjectFunc removal what actionRequired actionArgs) := by
  intro t u h
  simp only [removeObjectFunc, KubernetesManager.remove, call_bind, pure_bind_eq,
    runs_call_iff] at h
  obtain ⟨v, t', rfl, h⟩ := h
  rcases v with e | ⟨⟩
  · simp only [logf, call_bind, pure_bind_eq, runs_call_iff, runs_pure_iff] at h
    obtain ⟨_, _, rfl, _, _, rfl, rfl, -⟩ := h
    refine ⟨fun removal' err hf => ?_, by simp [Event.failedRemoval?]⟩
    simp only [Event.failedRemoval?, Option.some.injEq, Prod.mk.injEq] at hf
    obtain ⟨rfl, rfl⟩ := hf
    exact ⟨_, _, _, [], rfl, hstart, hkind, List.mem_map_of_mem _ hname,
      fun h => List.mem_map_of_mem _ (hns h)⟩
  · obtain ⟨rfl, -⟩ := runs_pure_iff.mp h
    simp [Event.failedRemoval?]

/-- The ACTION REQUIRED line of each of the six closures names its object. -/
theorem reportsFailures_func (removal : RemoveCall) : ReportsFailures removal.func := by
  cases removal <;>
    exact reportsFailures_removeObjectFunc _ _ _ _ (by decide)
      (by simp only [RemoveCall.resource, ResourceKind.noun]; decide)
      (List.mem_cons_self _ _) (by simp [RemoveCall.resource, RemoveCall.object])

theorem reportsFailures_runDeferred (flags : ResourceKind → Bool) (cs : List RemoveCall) :
    ReportsFailures (Frame.runDeferred flags cs) := by
  induction cs with
  | nil => exact ReportsFailures.pure _
  | cons c cs ih =>
    rw [Frame.runDeferred]
    split
    · exact (reportsFailures_func c).bind fun _ => ih
    · exact (ReportsFailures.pure _).bind fun _ => ih

/-- Go's `return` reports the failed removals of the closures it runs, whatever flags are set. -/
theorem Frame.reportsFailures_ret (fr : Frame) (res : α) : ReportsFailures (fr.ret res) :=
  (reportsFailures_runDeferred _ _).bind fun _ => ReportsFailures.pure _

end FluentbitLogsCollector
