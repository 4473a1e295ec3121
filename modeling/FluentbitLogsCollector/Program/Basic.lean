import Mathlib.Data.List.Basic
/-!
# Programs that call out of their file

Most lines of the logs collector call collaborators that this file does not contain:
the Kubernetes manager, the UUID generator, the object attributes provider, the port-spec
helpers, the template engine, the logger, and the Go runtime choosing between a ticker and a
deadline. A `Program` keeps each such call as a request together with a continuation for
every reply the collaborator could give, so that a statement about every run is a statement
about every outcome of every call.

A program can also `panic`, as Go does: it then does not return, and no call follows.

* `Runs p t a`: `p` can make exactly the calls of `t`, each answered by the reply recorded in
  `t`, and then return `a`;
* `Panics p t v`: `p` can make exactly the calls of `t` and then panic with the value `v`;
* `runs_bind_iff`, `panics_bind_iff`: the runs of `p >>= f` are a run of `p` followed by a run of
  `f`, and it panics when `p` does, or when `p` returns and `f` then panics;
* `runFrom_runs`: executing `p` against any `Oracle` is one of its runs, or panics as it does.
-/

namespace FluentbitLogsCollector

/-- A program whose calls out of the file are requests `r : Req`, answered by a `Reply r`. -/
inductive Program (Req : Type) (Reply : Req → Type) (α : Type) : Type where
  | pure (a : α)
  | call (r : Req) (k : Reply r → Program Req Reply α)
  /-- Go's `panic(value)`: the function does not return. -/
  | panic (value : String)

/-- One call of a run: the request and the reply it got. -/
abbrev Exchange (Req : Type) (Reply : Req → Type) := (r : Req) × Reply r

namespace Program

variable {Req : Type} {Reply : Req → Type} {α β γ : Type}

/-- Run `p`, then `f` on its result. -/
def bind : Program Req Reply α → (α → Program Req Reply β) → Program Req Reply β
  | .pure a, f => f a
  | .call r k, f => .call r (fun v => (k v).bind f)
  | .panic value, _ => .panic value

instance : Monad (Program Req Reply) where
  pure := .pure
  bind := bind

theorem bind_assoc' (p : Program Req Reply α) (f : α → Program Req Reply β)
    (g : β → Program Req Reply γ) : (p.bind f).bind g = p.bind (fun a => (f a).bind g) := by
  induction p with
  | pure a => rfl
  | call r k ih => simp only [bind, ih]
  | panic value => rfl

theorem bind_pure' (p : Program Req Reply α) : p.bind .pure = p := by
  induction p with
  | pure a => rfl
  | call r k ih => simp only [bind, ih]
  | panic value => rfl

instance : LawfulMonad (Program Req Reply) :=
  LawfulMonad.mk' _ bind_pure' (fun _ _ => rfl) bind_assoc'

/-- Send one request and return its reply. -/
def request (r : Req) : Program Req Reply (Reply r) := .call r .pure

@[simp] theorem pure_eq (a : α) : (Pure.pure a : Program Req Reply α) = .pure a := rfl

@[simp] theorem pure_bind_eq (a : α) (f : α → Program Req Reply β) :
    Program.pure a >>= f = f a := rfl

@[simp] theorem request_bind (r : Req) (f : Reply r → Program Req Reply β) :
    request r >>= f = .call r f := rfl

@[simp] theorem call_bind (r : Req) (k : Reply r → Program Req Reply α)
    (f : α → Program Req Reply β) : Program.call r k >>= f = .call r (fun v => k v >>= f) := rfl

@[simp] theorem panic_bind (value : String) (f : α → Program Req Reply β) :
    Program.panic value >>= f = .panic value := rfl

@[simp] theorem exchange_eq_iff {r : Req} {a b : Reply r} :
    (⟨r, a⟩ : Exchange Req Reply) = ⟨r, b⟩ ↔ a = b :=
  ⟨fun h => by cases h; rfl, fun h => h ▸ rfl⟩

/-- `p` can make the calls of `t`, each answered as `t` records, and then return `a`. -/
inductive Runs : Program Req Reply α → List (Exchange Req Reply) → α → Prop
  | pure (a : α) : Runs (.pure a) [] a
  | call {r : Req} {k : Reply r → Program Req Reply α} {t : List (Exchange Req Reply)} {a : α}
      (v : Reply r) : Runs (k v) t a → Runs (.call r k) (⟨r, v⟩ :: t) a

variable {p : Program Req Reply α} {t : List (Exchange Req Reply)}

/-- A panic is no return. -/
@[simp] theorem not_runs_panic {value : String} {a : α} :
    ¬ Runs (.panic value : Program Req Reply α) t a := nofun

@[simp] theorem runs_pure_iff {a b : α} : Runs (.pure a : Program Req Reply α) t b ↔ t = [] ∧ b = a := by
  constructor
  · rintro ⟨⟩; exact ⟨rfl, rfl⟩
  · rintro ⟨rfl, rfl⟩; exact .pure _

theorem runs_call_iff {r : Req} {k : Reply r → Program Req Reply α} {b : α} :
    Runs (.call r k) t b ↔ ∃ v t', t = ⟨r, v⟩ :: t' ∧ Runs (k v) t' b := by
  constructor
  · rintro ⟨⟩; exact ⟨_, _, rfl, ‹_›⟩
  · rintro ⟨v, t', rfl, h⟩; exact .call v h

@[simp] theorem runs_call_cons_iff {r : Req} {k : Reply r → Program Req Reply α} {v : Reply r}
    {b : α} : Runs (.call r k) (⟨r, v⟩ :: t) b ↔ Runs (k v) t b := by
  rw [runs_call_iff]
  constructor
  · rintro ⟨v', t', h, hk⟩
    obtain ⟨h₁, rfl⟩ := List.cons.inj h
    cases (exchange_eq_iff.mp h₁)
    exact hk
  · intro hk
    exact ⟨v, t, rfl, hk⟩

theorem runs_request_iff {r : Req} {v : Reply r} : Runs (request r) t v ↔ t = [⟨r, v⟩] := by
  simp only [request, runs_call_iff, runs_pure_iff]
  constructor
  · rintro ⟨v, _, rfl, rfl, rfl⟩; rfl
  · rintro rfl; exact ⟨v, _, rfl, rfl, rfl⟩

/-- The runs of `p >>= f` are a run of `p` followed by a run of `f` on what it returned. -/
theorem runs_bind_iff {f : α → Program Req Reply β} {b : β} :
    Runs (p >>= f) t b ↔ ∃ t₁ a t₂, Runs p t₁ a ∧ Runs (f a) t₂ b ∧ t = t₁ ++ t₂ := by
  induction p generalizing t with
  | pure a =>
    constructor
    · intro h; exact ⟨[], a, t, .pure a, h, rfl⟩
    · rintro ⟨t₁, a', t₂, h₁, h₂, rfl⟩
      obtain ⟨rfl, rfl⟩ := runs_pure_iff.mp h₁
      exact h₂
  | call r k ih =>
    simp only [call_bind, runs_call_iff, ih]
    constructor
    · rintro ⟨v, t', rfl, t₁, a, t₂, h₁, h₂, rfl⟩
      exact ⟨_, a, t₂, ⟨v, t₁, rfl, h₁⟩, h₂, rfl⟩
    · rintro ⟨_, a, t₂, ⟨v, t₁, rfl, h₁⟩, h₂, rfl⟩
      exact ⟨v, _, rfl, t₁, a, t₂, h₁, h₂, rfl⟩
  | panic value => simp

/-- `p` can make the calls of `t`, each answered as `t` records, and then panic with `value`. -/
inductive Panics : Program Req Reply α → List (Exchange Req Reply) → String → Prop
  | panic (value : String) : Panics (.panic value) [] value
  | call {r : Req} {k : Reply r → Program Req Reply α} {t : List (Exchange Req Reply)}
      {value : String} (v : Reply r) : Panics (k v) t value → Panics (.call r k) (⟨r, v⟩ :: t) value

@[simp] theorem not_panics_pure {a : α} {value : String} :
    ¬ Panics (.pure a : Program Req Reply α) t value := nofun

@[simp] theorem panics_panic_iff {value value' : String} :
    Panics (.panic value : Program Req Reply α) t value' ↔ t = [] ∧ value' = value := by
  constructor
  · rintro ⟨⟩; exact ⟨rfl, rfl⟩
  · rintro ⟨rfl, rfl⟩; exact .panic _

theorem panics_call_iff {r : Req} {k : Reply r → Program Req Reply α} {value : String} :
    Panics (.call r k) t value ↔ ∃ v t', t = ⟨r, v⟩ :: t' ∧ Panics (k v) t' value := by
  constructor
  · rintro ⟨⟩; exact ⟨_, _, rfl, ‹_›⟩
  · rintro ⟨v, t', rfl, h⟩; exact .call v h

/-- `p >>= f` panics when `p` panics, or when `p` returns and `f` then panics. -/
theorem panics_bind_iff {f : α → Program Req Reply β} {value : String} :
    Panics (p >>= f) t value ↔
      Panics p t value ∨ ∃ t₁ a t₂, Runs p t₁ a ∧ Panics (f a) t₂ value ∧ t = t₁ ++ t₂ := by
  induction p generalizing t with
  | pure a =>
    constructor
    · intro h; exact .inr ⟨[], a, t, .pure a, h, rfl⟩
    · rintro (h | ⟨t₁, a', t₂, h₁, h₂, rfl⟩)
      · cases h
      · obtain ⟨rfl, rfl⟩ := runs_pure_iff.mp h₁
        exact h₂
  | call r k ih =>
    simp only [call_bind, panics_call_iff, runs_call_iff, ih]
    constructor
    · rintro ⟨v, t', rfl, h | ⟨t₁, a, t₂, h₁, h₂, rfl⟩⟩
      · exact .inl ⟨v, t', rfl, h⟩
      · exact .inr ⟨_, a, t₂, ⟨v, t₁, rfl, h₁⟩, h₂, rfl⟩
    · rintro (⟨v, t', rfl, h⟩ | ⟨_, a, t₂, ⟨v, t₁, rfl, h₁⟩, h₂, rfl⟩)
      · exact ⟨v, t', rfl, .inl h⟩
      · exact ⟨v, _, rfl, .inr ⟨t₁, a, t₂, h₁, h₂, rfl⟩⟩
  | panic value' => simp

/-- An environment: the reply to each request, given every call made before it. -/
def Oracle (Req : Type) (Reply : Req → Type) : Type :=
  List (Exchange Req Reply) → (r : Req) → Reply r

/-- Execute `p` against `o`, after the calls `past`: the calls made, and the value returned or,
as an error, the value of the panic. -/
def runFrom (o : Oracle Req Reply) :
    List (Exchange Req Reply) → Program Req Reply α → List (Exchange Req Reply) × Except String α
  | _, .pure a => ([], .ok a)
  | _, .panic value => ([], .error value)
  | past, .call r k =>
    let v := o past r
    let rest := runFrom o (past ++ [⟨r, v⟩]) (k v)
    (⟨r, v⟩ :: rest.1, rest.2)

/-- Execute `p` against `o` from the start. -/
def run (o : Oracle Req Reply) (p : Program Req Reply α) :
    List (Exchange Req Reply) × Except String α :=
  runFrom o [] p

/-- Whatever the environment answers, the execution is one of the runs of the program, or
panics as the program does. -/
theorem runFrom_runs (o : Oracle Req Reply) (past : List (Exchange Req Reply))
    (p : Program Req Reply α) :
    (∀ a, (runFrom o past p).2 = .ok a → Runs p (runFrom o past p).1 a) ∧
    ∀ value, (runFrom o past p).2 = .error value → Panics p (runFrom o past p).1 value := by
  induction p generalizing past with
  | pure a => exact ⟨fun _ h => by cases h; exact .pure a, fun _ h => (by cases h)⟩
  | call r k ih =>
    exact ⟨fun a h => .call _ ((ih _ _).1 a h), fun v h => .call _ ((ih _ _).2 v h)⟩
  | panic value => exact ⟨fun _ h => (by cases h), fun _ h => by cases h; exact .panic value⟩

end Program

end FluentbitLogsCollector
