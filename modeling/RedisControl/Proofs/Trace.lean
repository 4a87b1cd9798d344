import RedisControl.Pass

/-!
# What a run over the cluster shows

A run is seen from outside as the list of its calls with their answers. Everything that is said
about a run later on is said through what can be read off this list: which objects were applied
and what came of it, what the reads of secrets gave, which statuses were written, what the clock
showed. The clock decides nothing but the times in the ledger, so the rest of the list, the
exchange, is what two runs are compared by.

* `Trace.exchange` : the calls of a run with their answers, the readings of the clock aside.
* `Trace.answers` : what came of applying the objects of a kind.
* `Program.runs_transcript` : the calls that a handler answers make up a run.
-/

namespace RedisControl

/-- The calls of a run over the cluster, with their answers. -/
abbrev Trace := List (Event Cluster)

/-! ## One event -/

namespace Event

/-- The object that an event applies, with the answer. -/
def application? : Event Cluster → Option (SubResource × Except ControlError Applied)
  | ⟨.apply o, x⟩ => some (o, x)
  | _ => none

/-- The answer of an event that reads a secret. -/
def secretAnswer? : Event Cluster → Option (Except ControlError (Option Secret))
  | ⟨.getSecret _ _, x⟩ => some x
  | _ => none

/-- The instance that an event gives. -/
def redis? : Event Cluster → Option Redis
  | ⟨.getRedis _ _, .ok (some r)⟩ => some r
  | _ => none

/-- The instance whose status an event writes, with the answer. -/
def statusWrite? : Event Cluster → Option (Redis × Except ControlError Unit)
  | ⟨.patchStatus r, x⟩ => some (r, x)
  | _ => none

/-- The time that an event tells. -/
def time? : Event Cluster → Option Time
  | ⟨.now, τ⟩ => some τ
  | _ => none

theorem eq_now_of_isSome_time? {e : Event Cluster} (h : e.time?.isSome) :
    ∃ τ, e = ⟨.now, τ⟩ := by
  rcases e with ⟨c, x⟩
  cases c with
  | now => exact ⟨x, rfl⟩
  | _ => cases h

end Event

/-! ## A whole run -/

namespace Trace

/-- The objects that were applied, each with what came of it. -/
def applications (t : Trace) : List (SubResource × Except ControlError Applied) :=
  t.filterMap Event.application?

/-- The answers to the reads of secrets, in order. -/
def secretAnswers (t : Trace) : List (Except ControlError (Option Secret)) :=
  t.filterMap Event.secretAnswer?

/-- The instances that a trace gives. -/
def redises (t : Trace) : List Redis := t.filterMap Event.redis?

/-- The statuses that were to be written, each with what came of it. -/
def statusWrites (t : Trace) : List (Redis × Except ControlError Unit) :=
  t.filterMap Event.statusWrite?

/-- The times that a trace tells, in order. -/
def times (t : Trace) : List Time := t.filterMap Event.time?

/-- The calls with their answers, the readings of the clock aside. -/
def exchange (t : Trace) : Trace := t.filter fun e => e.time?.isNone

/-- The objects of a kind that were applied, each with what came of it. -/
def applicationsOf (k : Kind) (t : Trace) : List (SubResource × Except ControlError Applied) :=
  (applications t).filter fun a => a.1.kind == k

/-- What came of applying the objects of a kind. -/
def answers (k : Kind) (t : Trace) : List (Except ControlError Applied) :=
  (applicationsOf k t).map (·.2)

def secrets (t : Trace) : List Secret :=
  (secretAnswers t).filterMap fun
    | .ok s => s
    | .error _ => none

@[simp] theorem times_append (t u : Trace) : times (t ++ u) = times t ++ times u :=
  List.filterMap_append

@[simp] theorem exchange_append (t u : Trace) : exchange (t ++ u) = exchange t ++ exchange u :=
  List.filter_append ..

@[simp] theorem applications_append (t u : Trace) :
    applications (t ++ u) = applications t ++ applications u :=
  List.filterMap_append

@[simp] theorem secretAnswers_append (t u : Trace) :
    secretAnswers (t ++ u) = secretAnswers t ++ secretAnswers u :=
  List.filterMap_append

@[simp] theorem secrets_append (t u : Trace) : secrets (t ++ u) = secrets t ++ secrets u := by
  rw [secrets, secretAnswers_append, List.filterMap_append, secrets, secrets]

@[simp] theorem redises_append (t u : Trace) : redises (t ++ u) = redises t ++ redises u :=
  List.filterMap_append

@[simp] theorem statusWrites_append (t u : Trace) :
    statusWrites (t ++ u) = statusWrites t ++ statusWrites u :=
  List.filterMap_append

/-- What an observation that overlooks the clock picks out of a run, it picks out of the
exchange. -/
theorem filterMap_exchange {α : Type} (f : Event Cluster → Option α)
    (hf : ∀ e, e.time?.isSome → f e = none) (t : Trace) :
    (exchange t).filterMap f = t.filterMap f := by
  rw [exchange, List.filterMap_filter]
  congr 1
  funext e
  by_cases he : e.time?.isSome
  · rw [hf e he, ite_self]
  · rw [if_pos (by simpa using he)]

theorem applications_exchange (t : Trace) : applications (exchange t) = applications t :=
  filterMap_exchange _ (fun e he => by obtain ⟨τ, rfl⟩ := Event.eq_now_of_isSome_time? he; rfl) t

theorem mem_applications {t : Trace} {o : SubResource} {a : Except ControlError Applied} :
    (o, a) ∈ applications t ↔ ⟨.apply o, a⟩ ∈ t := by
  rw [applications, List.mem_filterMap]
  constructor
  · rintro ⟨⟨c, x⟩, he, happ⟩
    cases c <;> cases happ
    exact he
  · intro he
    exact ⟨_, he, rfl⟩

theorem mem_statusWrites {t : Trace} {r : Redis} {a : Except ControlError Unit} :
    (r, a) ∈ statusWrites t ↔ ⟨.patchStatus r, a⟩ ∈ t := by
  rw [statusWrites, List.mem_filterMap]
  constructor
  · rintro ⟨⟨c, x⟩, he, hwrite⟩
    cases c <;> cases hwrite
    exact he
  · intro he
    exact ⟨_, he, rfl⟩

theorem secretAnswers_exchange (t : Trace) : secretAnswers (exchange t) = secretAnswers t :=
  filterMap_exchange _ (fun e he => by obtain ⟨τ, rfl⟩ := Event.eq_now_of_isSome_time? he; rfl) t

theorem redises_exchange (t : Trace) : redises (exchange t) = redises t :=
  filterMap_exchange _ (fun e he => by obtain ⟨τ, rfl⟩ := Event.eq_now_of_isSome_time? he; rfl) t

theorem statusWrites_exchange (t : Trace) : statusWrites (exchange t) = statusWrites t :=
  filterMap_exchange _ (fun e he => by obtain ⟨τ, rfl⟩ := Event.eq_now_of_isSome_time? he; rfl) t

end Trace

/-! ## The run that a handler brings about -/

namespace Program

variable {I : Interface} {α σ : Type}

/-- The calls of a program with the answers that a handler gives. -/
def transcript (h : Handler I σ) : Program I α → σ → List (Event I)
  | .done _, _ => []
  | .call c next, s => ⟨c, (h c s).1⟩ :: (next (h c s).1).transcript h (h c s).2

theorem runs_transcript (h : Handler I σ) (p : Program I α) (s : σ) :
    Runs p (p.transcript h s) (p.run h s).1 := by
  induction p generalizing s with
  | done a => exact .done a
  | call c next ih => exact .call (ih (h c s).1 (h c s).2)

theorem transcript_bind {β : Type} (h : Handler I σ) (p : Program I α) (f : α → Program I β)
    (s : σ) : (p.bind f).transcript h s =
      p.transcript h s ++ (f (p.run h s).1).transcript h (p.run h s).2 := by
  induction p generalizing s with
  | done a => rfl
  | call c next ih => exact congrArg _ (ih (h c s).1 (h c s).2)

theorem exists_of_mem_transcript {h : Handler I σ} {p : Program I α} {s : σ} {e : Event I}
    (he : e ∈ p.transcript h s) : ∃ s', e.answer = (h e.call s').1 := by
  induction p generalizing s with
  | done a => cases he
  | call c next ih =>
    rcases List.mem_cons.1 he with rfl | he
    · exact ⟨s, rfl⟩
    · exact ih _ he

/-- Handlers that answer the calls of a run alike, from states that correspond, bring about the
same run. -/
theorem run_congr_of_rel {τ : Type} {h : Handler I σ} {h' : Handler I τ} {R : σ → τ → Prop}
    {p : Program I α} {s : σ} {s' : τ} (hs : R s s')
    (agree : ∀ e ∈ p.transcript h s, ∀ s s', R s s' →
      (h e.call s).1 = (h' e.call s').1 ∧ R (h e.call s).2 (h' e.call s').2) :
    (p.run h s).1 = (p.run h' s').1 ∧ R (p.run h s).2 (p.run h' s').2 ∧
      p.transcript h s = p.transcript h' s' := by
  induction p generalizing s s' with
  | done a => exact ⟨rfl, hs, rfl⟩
  | call c next ih =>
    rw [transcript, List.forall_mem_cons] at agree
    obtain ⟨hanswer, hnext⟩ := agree.1 s s' hs
    obtain ⟨hresult, hstates, htranscript⟩ := ih (h c s).1 hnext agree.2
    rw [run_call, run_call, transcript, transcript, ← hanswer]
    exact ⟨hresult, hstates, congrArg _ htranscript⟩

theorem runs_ask {c : I.Call} {t : List (Event I)} {a : I.Answer c} :
    Runs (ask c) t a ↔ t = [⟨c, a⟩] := by
  unfold ask
  rw [runs_call_iff]
  constructor
  · rintro ⟨x, t', rfl, h⟩
    obtain ⟨rfl, rfl⟩ := runs_done_iff.1 h
    rfl
  · rintro rfl
    exact ⟨a, [], rfl, .done a⟩

end Program

end RedisControl
