import RedisControl.Api.Client
import RedisControl.Proofs.Trace

/-!
# The requests behind the calls of a run

Over the API server a program runs call by call: behind each call stand some requests, and their
replies decide on its answer. So a run divides into the calls of a run over the cluster, each with
a run of what it is lowered to. To apply an object takes two requests, and there are three ways in
which that can go.

* `Program.runs_lower_iff` : every run of a lowered program divides into calls.
* `Api.runs_patchStatus` : the request behind the write of a status.
* `Api.Applying` : the requests behind an application, and its answer.
* `Api.Applying.failures_cases` : an object was applied, or one request failed and was the last.
-/

namespace RedisControl

/-! ## Dividing a run into calls -/

namespace Program

variable {I J : Interface} {α : Type}

/-- A run of a lowered program, divided: the calls of a run of the program, each with a run of
what it is lowered to. -/
structure Division (f : (c : I.Call) → Program J (I.Answer c)) (p : Program I α)
    (t : List (Event J)) (a : α) where
  calls : List (Event I × List (Event J))
  behind : ∀ c ∈ calls, Runs (f c.1.call) c.2 c.1.answer
  trace_eq : t = calls.flatMap (·.2)
  runs : Runs p (calls.map (·.1)) a

/-- Every run of a lowered program divides into calls, and every division makes up a run. -/
theorem runs_lower_iff {f : (c : I.Call) → Program J (I.Answer c)} {p : Program I α}
    {t : List (Event J)} {a : α} : Runs (p.lower f) t a ↔ Nonempty (Division f p t a) := by
  constructor
  · intro run
    induction p generalizing t with
    | done b =>
      obtain ⟨rfl, rfl⟩ := runs_done_iff.1 run
      exact ⟨⟨[], nofun, rfl, .done _⟩⟩
    | call c next ih =>
      rw [lower, runs_bind_iff] at run
      obtain ⟨t₁, t₂, x, rfl, h₁, h₂⟩ := run
      -- What the call is lowered to comes first in the trace, and `d` divides the rest.
      obtain ⟨d⟩ := ih x h₂
      refine ⟨⟨(⟨c, x⟩, t₁) :: d.calls, List.forall_mem_cons.2 ⟨h₁, d.behind⟩, ?_, .call d.runs⟩⟩
      rw [List.flatMap_cons, ← d.trace_eq]
  · rintro ⟨calls, behind, rfl, run⟩
    induction p generalizing calls with
    | done b =>
      obtain ⟨hcalls, rfl⟩ := runs_done_iff.1 run
      rw [List.map_eq_nil_iff.1 hcalls]
      exact .done _
    | call c next ih =>
      obtain ⟨x, t', hcalls, run⟩ := runs_call_iff.1 run
      obtain ⟨⟨e, s⟩, calls, rfl, rfl, rfl⟩ := List.map_eq_cons_iff.1 hcalls
      rw [List.forall_mem_cons] at behind
      rw [lower, List.flatMap_cons, runs_bind_iff]
      exact ⟨s, _, x, rfl, behind.1, ih x calls behind.2 run⟩

/-- The calls of a program that a handler answers through what they are lowered to. -/
def divided {σ : Type} (f : (c : I.Call) → Program J (I.Answer c)) (h : Handler J σ) :
    Program I α → σ → List (Event I × List (Event J))
  | .done _, _ => []
  | .call c next, s => (⟨c, ((f c).run h s).1⟩, (f c).transcript h s) ::
      divided f h (next ((f c).run h s).1) ((f c).run h s).2

/-- The run that a handler brings about, divided into calls. -/
def Division.ofHandler {σ : Type} (f : (c : I.Call) → Program J (I.Answer c)) (h : Handler J σ)
    (p : Program I α) (s : σ) :
    Division f p ((p.lower f).transcript h s) ((p.lower f).run h s).1 where
  calls := p.divided f h s
  behind := by
    induction p generalizing s with
    | done a => nofun
    | call c next ih => exact List.forall_mem_cons.2 ⟨runs_transcript h (f c) s, ih _ _⟩
  trace_eq := by
    induction p generalizing s with
    | done a => rfl
    | call c next ih => rw [lower, transcript_bind, ih, divided, List.flatMap_cons]
  runs := by
    induction p generalizing s with
    | done a => exact .done a
    | call c next ih =>
      rw [lower, run_bind]
      exact .call (ih _ _)

end Program

/-- The request of an event, with its reply. -/
def Event.request? : Event Api → Option (Api.Request × Api.Reply)
  | ⟨.send request, reply⟩ => some (request, reply)
  | ⟨.now, _⟩ => none

namespace Api

open Program

/-- The requests among some events, each with its reply. -/
def requests (t : List (Event Api)) : List (Request × Reply) := t.filterMap Event.request?

/-- The requests of a run that is divided into calls, each with the call behind which it stands. -/
def requestsBehind (calls : List (Event Cluster × List (Event Api))) :
    List (Cluster.Call × Request × Reply) :=
  calls.flatMap fun c => (requests c.2).map fun e => (c.1.call, e)

theorem mem_requestsBehind {calls : List (Event Cluster × List (Event Api))} {c : Cluster.Call}
    {e : Request × Reply} :
    (c, e) ∈ requestsBehind calls ↔ ∃ d ∈ calls, d.1.call = c ∧ e ∈ requests d.2 := by
  constructor
  · intro h
    obtain ⟨d, hd, he⟩ := List.mem_flatMap.1 h
    obtain ⟨e', he', heq⟩ := List.mem_map.1 he
    obtain ⟨rfl, rfl⟩ := Prod.mk.inj heq
    exact ⟨d, hd, rfl, he'⟩
  · rintro ⟨d, hd, rfl, he⟩
    exact List.mem_flatMap.2 ⟨d, hd, List.mem_map_of_mem he⟩

/-! ## Single requests -/

theorem runs_fetch {α : Type} {read : Json → Option α} {q : Request} {t : List (Event Api)}
    {a : Except ClientError α} :
    Runs (fetch read (.ok q)) t a ↔ ∃ x : Reply, t = [⟨.send q, x⟩] ∧ a = x.decode read := by
  rw [fetch, runs_bind_iff]
  constructor
  · rintro ⟨t₁, t₂, x, rfl, h₁, h₂⟩
    obtain rfl := (runs_ask (I := Api) (c := .send q)).1 h₁
    obtain ⟨rfl, rfl⟩ := runs_done_iff.1 h₂
    exact ⟨x, rfl, rfl⟩
  · rintro ⟨x, rfl, rfl⟩
    exact ⟨_, [], x, rfl, (runs_ask (I := Api) (c := .send q)).2 rfl, .done _⟩

theorem runs_patchStatus {r : Redis} {ns : String} (hns : r.metadata.ns = some ns) {q : Request}
    (hq : Request.patch? .redises ns r.name "/status" (statusBody r.status) = .ok q)
    {t : List (Event Api)} {a : Except ControlError Unit} (run : Runs (patchStatus r) t a) :
    ∃ x : Reply, t = [⟨.send q, x⟩] ∧ a = statusWritten (x.decode Redis.read?) := by
  unfold patchStatus at run
  rw [hns] at run
  obtain ⟨t₁, t₂, answer, rfl, h₁, h₂⟩ := runs_bind_iff.1 run
  rw [hq] at h₁
  obtain ⟨x, rfl, rfl⟩ := runs_fetch.1 h₁
  obtain ⟨rfl, rfl⟩ := runs_done_iff.1 h₂
  exact ⟨x, rfl, rfl⟩

/-! ## Applying an object -/

/-- The requests behind the application of an object, and its answer. -/
inductive Applying (timeout : Duration) (o : SubResource) (q q' : Request) :
    List (Event Api) → Except ControlError Applied → Prop where
  | unread {x : Reply} {e : ClientError}
      (failed : absentOr (x.decode (SubResource.read? o.kind)) = .error e) :
      Applying timeout o q q' [⟨.send q, x⟩] (postponed timeout (.client e))
  | refused {x y : Reply} {before : Option SubResource} {e : ClientError}
      (read : absentOr (x.decode (SubResource.read? o.kind)) = .ok before)
      (failed : y.decode (SubResource.read? o.kind) = .error e) :
      Applying timeout o q q' [⟨.send q, x⟩, ⟨.send q', y⟩] (postponed timeout (.client e))
  | written {x y : Reply} {before : Option SubResource} {after : SubResource}
      (read : absentOr (x.decode (SubResource.read? o.kind)) = .ok before)
      (written : y.decode (SubResource.read? o.kind) = .ok after) :
      Applying timeout o q q' [⟨.send q, x⟩, ⟨.send q', y⟩]
        (.ok (.converged (changeBetween before after) after.readyReplicas?))

theorem applying_of_runs {timeout : Duration} {o : SubResource} {ns name : String}
    (hname : o.metadata.name = some name) (hns : o.metadata.ns = some ns) {q q' : Request}
    (hq : Request.read? (.ofKind o.kind) ns name = .ok q)
    (hq' : Request.patch? (.ofKind o.kind) ns name "" o.write = .ok q') {t : List (Event Api)}
    {a : Except ControlError Applied} (run : Runs (applyObject timeout o) t a) :
    Applying timeout o q q' t a := by
  unfold applyObject at run
  rw [hname, hns] at run
  obtain ⟨t₁, t₂, before, rfl, h₁, h₂⟩ := runs_bind_iff.1 run
  obtain ⟨t₁, u, answer, rfl, h₁, hdone⟩ := runs_bind_iff.1 h₁
  rw [hq] at h₁
  obtain ⟨x, rfl, rfl⟩ := runs_fetch.1 h₁
  obtain ⟨rfl, rfl⟩ := runs_done_iff.1 hdone
  cases hx : absentOr (x.decode (SubResource.read? o.kind)) with
  | error e =>
    rw [hx] at h₂
    obtain ⟨rfl, rfl⟩ := runs_done_iff.1 h₂
    exact .unread hx
  | ok before =>
    rw [hx] at h₂
    obtain ⟨t₁, t₂, after, rfl, h₁, h₂⟩ := runs_bind_iff.1 h₂
    rw [patch, hq'] at h₁
    obtain ⟨y, rfl, rfl⟩ := runs_fetch.1 h₁
    cases hy : y.decode (SubResource.read? o.kind) with
    | error e =>
      rw [hy] at h₂
      obtain ⟨rfl, rfl⟩ := runs_done_iff.1 h₂
      exact .refused hx hy
    | ok after =>
      rw [hy] at h₂
      obtain ⟨rfl, rfl⟩ := runs_done_iff.1 h₂
      exact .written hx hy

/-! ## Failures -/

/-- The error in a result. -/
def errorOf {ε α : Type} : Except ε α → Option ε
  | .ok _ => none
  | .error e => some e

theorem errorOf_eq_some_iff {ε α : Type} {x : Except ε α} {e : ε} :
    errorOf x = some e ↔ x = .error e := by
  cases x with
  | ok a => exact iff_of_false nofun nofun
  | error e' => simp [errorOf]

/-- How a request about an object of a kind failed. A read that is told that there is no such
object has not failed. -/
def Request.failure? (k : Kind) : Request → Reply → Option ClientError
  | .read _, x => errorOf (absentOr (x.decode (SubResource.read? k)))
  | .patch _ _, x => errorOf (x.decode (SubResource.read? k))

/-- The failures among requests about an object of a kind. -/
def failures (k : Kind) (t : List (Event Api)) : List ClientError :=
  (requests t).filterMap fun e => e.1.failure? k e.2

/-- No request failed and the object is in place, or one failed, and what that means for a write
is the answer. -/
theorem Applying.failures_cases {timeout : Duration} {o : SubResource} {q q' : Target} {body : Json}
    {t : List (Event Api)} {a : Except ControlError Applied}
    (h : Applying timeout o (.read q) (.patch q' body) t a) :
    (failures o.kind t = [] ∧ ∃ change ready, a = .ok (.converged change ready)) ∨
      ∃ e, failures o.kind t = [e] ∧ a = postponed timeout (.client e) := by
  cases h with
  | unread failed =>
    refine Or.inr ⟨_, ?_, rfl⟩
    simp only [failures, requests, Event.request?, Request.failure?, failed, errorOf,
      List.filterMap_cons, List.filterMap_nil]
  | refused read failed =>
    refine Or.inr ⟨_, ?_, rfl⟩
    simp only [failures, requests, Event.request?, Request.failure?, read, failed, errorOf,
      List.filterMap_cons, List.filterMap_nil]
  | written read written =>
    refine Or.inl ⟨?_, _, _, rfl⟩
    simp only [failures, requests, Event.request?, Request.failure?, read, written, errorOf,
      List.filterMap_cons, List.filterMap_nil]

end Api

end RedisControl
