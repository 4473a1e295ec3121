import FluentbitLogsCollector.Program.Basic
/-!
# Properties of call traces

Two shapes of statement about the calls of a run:

* `Guarded allowed hist t`: each call of `t` is allowed by the calls made before it, after a
  history `hist`. `Guarded.iff_forall` reads it as a statement about every split
  `t = pre ++ e :: post`, and `Guarded.append_iff` splits it along a sequence of programs;
* `FailsLast failed t`: no call follows a failed one;
* `FollowedBy first next t`: each call that is `first` is followed at once by one that is
  `next`.
-/

namespace FluentbitLogsCollector

variable {E : Type}

/-- Every element of a trace is `allowed` after `hist` and the elements before it. -/
def Guarded (allowed : List E → E → Prop) : List E → List E → Prop
  | _, [] => True
  | hist, e :: t => allowed hist e ∧ Guarded allowed (hist ++ [e]) t

namespace Guarded

variable {allowed : List E → E → Prop} {hist t t₁ t₂ : List E}

@[simp] theorem nil : Guarded allowed hist [] := trivial

@[simp] theorem cons_iff {e : E} :
    Guarded allowed hist (e :: t) ↔ allowed hist e ∧ Guarded allowed (hist ++ [e]) t := Iff.rfl

theorem append_iff :
    Guarded allowed hist (t₁ ++ t₂) ↔ Guarded allowed hist t₁ ∧ Guarded allowed (hist ++ t₁) t₂ := by
  induction t₁ generalizing hist with
  | nil => simp
  | cons e t₁ ih => simp [ih, and_assoc]

theorem iff_forall :
    Guarded allowed hist t ↔ ∀ pre e post, t = pre ++ e :: post → allowed (hist ++ pre) e := by
  induction t generalizing hist with
  | nil => simp
  | cons e t ih =>
    simp only [cons_iff, ih]
    constructor
    · rintro ⟨he, ht⟩ (_ | ⟨f, pre⟩) e' post h
      · cases h; simpa using he
      · cases h; simpa using ht pre e' post rfl
    · intro h
      exact ⟨by simpa using h [] e t rfl,
        fun pre e' post hsplit => by simpa using h (e :: pre) e' post (by simp [hsplit])⟩

/-- A segment whose every call is allowed after any extension of `hist`. -/
theorem of_forall (h : ∀ e ∈ t, ∀ pre, allowed (hist ++ pre) e) : Guarded allowed hist t :=
  iff_forall.mpr fun pre e post hsplit => h e (by simp [hsplit]) pre

end Guarded

/-- No element of a trace follows one that `failed`. -/
def FailsLast (failed : E → Prop) : List E → Prop
  | [] => True
  | e :: t => (failed e → t = []) ∧ FailsLast failed t

namespace FailsLast

variable {failed : E → Prop} {t t₁ t₂ : List E}

@[simp] theorem nil : FailsLast failed ([] : List E) := trivial

@[simp] theorem cons_iff {e : E} : FailsLast failed (e :: t) ↔ (failed e → t = []) ∧ FailsLast failed t :=
  Iff.rfl

theorem iff_forall :
    FailsLast failed t ↔ ∀ pre e post, t = pre ++ e :: post → failed e → post = [] := by
  induction t with
  | nil => simp
  | cons e t ih =>
    simp only [cons_iff, ih]
    constructor
    · rintro ⟨he, ht⟩ (_ | ⟨f, pre⟩) e' post h
      · cases h; exact he
      · cases h; exact ht pre e' post rfl
    · intro h
      exact ⟨h [] e t rfl, fun pre e' post hsplit => h (e :: pre) e' post (by simp [hsplit])⟩

/-- A trace with no failure, then one in which no call follows a failure. -/
theorem append (h₁ : ∀ e ∈ t₁, ¬ failed e) (h₂ : FailsLast failed t₂) :
    FailsLast failed (t₁ ++ t₂) := by
  induction t₁ with
  | nil => exact h₂
  | cons e t₁ ih =>
    simp only [List.mem_cons, forall_eq_or_imp] at h₁
    exact ⟨fun he => absurd he h₁.1, ih h₁.2⟩

end FailsLast

/-- Every element of a trace that is `first` is followed at once by one that is `next`. -/
def FollowedBy (first next : E → Prop) : List E → Prop
  | [] => True
  | e :: t => (first e → ∃ e' ∈ t.head?, next e') ∧ FollowedBy first next t

namespace FollowedBy

variable {first next : E → Prop} {t : List E}

@[simp] theorem nil : FollowedBy first next ([] : List E) := trivial

@[simp] theorem cons_iff {e : E} :
    FollowedBy first next (e :: t) ↔ (first e → ∃ e' ∈ t.head?, next e') ∧ FollowedBy first next t :=
  Iff.rfl

theorem iff_forall :
    FollowedBy first next t ↔
      ∀ pre e post, t = pre ++ e :: post → first e → ∃ e' ∈ post.head?, next e' := by
  induction t with
  | nil => simp
  | cons e t ih =>
    simp only [cons_iff, ih]
    constructor
    · rintro ⟨he, ht⟩ (_ | ⟨f, pre⟩) e' post h
      · cases h; exact he
      · cases h; exact ht pre e' post rfl
    · intro h
      exact ⟨h [] e t rfl, fun pre e' post hsplit => h (e :: pre) e' post (by simp [hsplit])⟩

end FollowedBy

end FluentbitLogsCollector
