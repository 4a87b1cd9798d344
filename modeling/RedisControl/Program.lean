/-!
# Programs over calls

A program is what the controller would do as long as nobody has answered it: it either is done
with a result, or makes a call and goes on in a way that depends on the answer. An interface says
which calls there are and what their answers are. Whoever answers is a handler with a state of its
own; nothing is assumed about it, so a statement about all runs of a program is a statement about
every cluster, however it behaves between two calls.

* `Program.bind` : one program after another.
* `Program.run` : a program with a handler.
* `Program.Runs` : the calls and answers of a run, and its result.
* `Program.lower` : each call replaced by a program over another interface.
* `Program.runs_bind_iff` : the runs of one program after another.
-/

namespace RedisControl

/-- The calls that a program can make, and the answers to them. -/
structure Interface where
  Call : Type
  Answer : Call → Type

/-- A program over the calls of an interface. -/
inductive Program (I : Interface) (α : Type) where
  | done (a : α)
  | call (c : I.Call) (next : I.Answer c → Program I α)

/-- A call with its answer. -/
structure Event (I : Interface) where
  call : I.Call
  answer : I.Answer call

/-- Whoever answers the calls of an interface, from a state of its own. -/
def Handler (I : Interface) (σ : Type) : Type := (c : I.Call) → σ → I.Answer c × σ

namespace Program

variable {I J : Interface} {α β σ : Type}

/-- One program after another. -/
def bind : Program I α → (α → Program I β) → Program I β
  | .done a, f => f a
  | .call c next, f => .call c fun x => (next x).bind f

instance : Monad (Program I) where
  pure := .done
  bind := bind

/-- The program that makes a call and is done with the answer. -/
def ask (c : I.Call) : Program I (I.Answer c) := .call c .done

@[simp] theorem pure_eq (a : α) : (pure a : Program I α) = .done a := rfl

@[simp] theorem bind_eq (p : Program I α) (f : α → Program I β) : p >>= f = p.bind f := rfl

@[simp] theorem done_bind (a : α) (f : α → Program I β) : (done a).bind f = f a := rfl

@[simp] theorem call_bind (c : I.Call) (next : I.Answer c → Program I α) (f : α → Program I β) :
    (call c next).bind f = .call c fun x => (next x).bind f := rfl

@[simp] theorem bind_done (p : Program I α) : p.bind .done = p := by
  induction p with
  | done a => rfl
  | call c next ih => simp [ih]

/-- A program for each item of a list, one after the other. -/
def forEach (f : α → Program I β) : List α → Program I (List β)
  | [] => .done []
  | a :: as => (f a).bind fun b => (forEach f as).bind fun bs => .done (b :: bs)

/-! ## Running -/

/-- Run a program with a handler from a state: its result and the state afterwards. -/
def run (h : Handler I σ) : Program I α → σ → α × σ
  | .done a, s => (a, s)
  | .call c next, s => (next (h c s).1).run h (h c s).2

@[simp] theorem run_done (h : Handler I σ) (a : α) (s : σ) : (done a).run h s = (a, s) := rfl

@[simp] theorem run_call (h : Handler I σ) (c : I.Call) (next : I.Answer c → Program I α) (s : σ) :
    (call c next).run h s = (next (h c s).1).run h (h c s).2 := rfl

theorem run_bind (h : Handler I σ) (p : Program I α) (f : α → Program I β) (s : σ) :
    (p.bind f).run h s = (f (p.run h s).1).run h (p.run h s).2 := by
  induction p generalizing s with
  | done a => rfl
  | call c next ih => simp [ih]

/-! ## Runs -/

/-- The program can go through these calls with these answers and be done with this result. -/
inductive Runs : Program I α → List (Event I) → α → Prop where
  | done (a : α) : Runs (.done a) [] a
  | call {c : I.Call} {next : I.Answer c → Program I α} {x : I.Answer c} {t : List (Event I)}
      {a : α} (h : Runs (next x) t a) : Runs (.call c next) (⟨c, x⟩ :: t) a

@[simp] theorem runs_done_iff {a b : α} {t : List (Event I)} :
    Runs (.done a) t b ↔ t = [] ∧ b = a := by
  constructor
  · rintro ⟨⟩; exact ⟨rfl, rfl⟩
  · rintro ⟨rfl, rfl⟩; exact .done _

theorem runs_call_iff {c : I.Call} {next : I.Answer c → Program I α} {t : List (Event I)} {a : α} :
    Runs (.call c next) t a ↔ ∃ x t', t = ⟨c, x⟩ :: t' ∧ Runs (next x) t' a := by
  constructor
  · rintro ⟨⟩; exact ⟨_, _, rfl, ‹_›⟩
  · rintro ⟨x, t', rfl, h⟩; exact .call h

/-- A run of one program after another is a run of the first and then a run of the second. -/
theorem runs_bind_iff {p : Program I α} {f : α → Program I β} {t : List (Event I)} {b : β} :
    Runs (p.bind f) t b ↔ ∃ t₁ t₂ a, t = t₁ ++ t₂ ∧ Runs p t₁ a ∧ Runs (f a) t₂ b := by
  induction p generalizing t with
  | done a =>
    constructor
    · exact fun h => ⟨[], t, a, rfl, .done a, h⟩
    · rintro ⟨t₁, t₂, a', rfl, h₁, h₂⟩
      obtain ⟨rfl, rfl⟩ := runs_done_iff.1 h₁
      exact h₂
  | call c next ih =>
    simp only [call_bind, runs_call_iff, ih]
    constructor
    · rintro ⟨x, _, rfl, t₁, t₂, a, rfl, h₁, h₂⟩
      exact ⟨⟨c, x⟩ :: t₁, t₂, a, rfl, ⟨x, t₁, rfl, h₁⟩, h₂⟩
    · rintro ⟨_, t₂, a, rfl, ⟨x, t₁, rfl, h₁⟩, h₂⟩
      exact ⟨x, t₁ ++ t₂, rfl, t₁, t₂, a, rfl, h₁, h₂⟩

/-! ## Lowering -/

/-- Replace each call by a program over another interface. -/
def lower (f : (c : I.Call) → Program J (I.Answer c)) : Program I α → Program J α
  | .done a => .done a
  | .call c next => (f c).bind fun x => (next x).lower f

end Program

end RedisControl
