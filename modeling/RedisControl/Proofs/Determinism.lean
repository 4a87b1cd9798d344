import RedisControl.Proofs.SteadyCluster

/-!
# A steady cluster determines the course of a pass

What the steps of a pass do is determined by the answers. In a cluster that gives the same answer
whenever it is asked the same, two passes that start from the same recorded hashes therefore enter
the same marks, record the same and end alike, whatever their ledgers show and whatever the clock
says. The stored status is part of the instance that is read, but nothing is built from it.

* `ApplyRun.unique`, `runs_unique` : objects applied in order, and secrets read.
* `Gathering.unique`, `WorkCourse.unique` : the steps.
* `Owned.unique` : objects are built in one way only.
-/

namespace RedisControl

open Program

variable {c : SteadyCluster}

/-! ## Answers -/

namespace SteadyCluster

theorem Answers.apply {o : SubResource} {a : Except ControlError Applied}
    (h : c.Answers ⟨.apply o, a⟩) : a = c.applied o := by
  obtain ⟨s, τ, h⟩ := h
  exact h

theorem Answers.getSecret {ns name : String} {a : Except ControlError (Option Secret)}
    (h : c.Answers ⟨.getSecret ns name, a⟩) : a = c.secret ns name := by
  obtain ⟨s, τ, h⟩ := h
  exact h

end SteadyCluster

theorem ApplyRun.unique {os : List SubResource} {as as' : List (Except ControlError Applied)}
    {stop stop' : Option Ending} (h : ApplyRun os as stop) (h' : ApplyRun os as' stop')
    (hc : ∀ e ∈ applyEvents os as, c.Answers e) (hc' : ∀ e ∈ applyEvents os as', c.Answers e) :
    as = as' ∧ stop = stop' := by
  -- The induction is on the first run; the two can part only where one goes on and one stops, and
  -- there they have the same answer.
  induction h generalizing as' stop' with
  | done =>
    cases h'
    exact ⟨rfl, rfl⟩
  | next here _ ih =>
    rw [applyEvents_cons, List.forall_mem_cons] at hc
    obtain rfl := hc.1.apply
    cases h' with
    | next here' rest' =>
      rw [applyEvents_cons, List.forall_mem_cons] at hc'
      obtain rfl := hc'.1.apply
      obtain ⟨rfl, rfl⟩ := ih rest' hc.2 hc'.2
      exact ⟨rfl, rfl⟩
    | stop here' =>
      rw [applyEvents_cons, List.forall_mem_cons] at hc'
      obtain rfl := hc'.1.apply
      rw [here] at here'
      cases here'
  | stop here =>
    rw [applyEvents_cons, List.forall_mem_cons] at hc
    obtain rfl := hc.1.apply
    cases h' with
    | next here' rest' =>
      rw [applyEvents_cons, List.forall_mem_cons] at hc'
      obtain rfl := hc'.1.apply
      rw [here] at here'
      cases here'
    | stop here' =>
      rw [applyEvents_cons, List.forall_mem_cons] at hc'
      obtain rfl := hc'.1.apply
      rw [here] at here'
      exact ⟨rfl, here'⟩

/-- Two runs of a program that reads nothing but secrets. -/
theorem runs_unique {α : Type} {p : Program Cluster α} {t t' : Trace} {a a' : α} (h : Runs p t a)
    (h' : Runs p t' a') (hr : ∀ e ∈ t, e.IsSecretRead) (hc : ∀ e ∈ t, c.Answers e)
    (hc' : ∀ e ∈ t', c.Answers e) : t = t' ∧ a = a' := by
  induction h generalizing t' with
  | done a =>
    obtain ⟨rfl, rfl⟩ := runs_done_iff.1 h'
    exact ⟨rfl, rfl⟩
  | @call call next x t a _ ih =>
    obtain ⟨x', t', rfl, rest'⟩ := runs_call_iff.1 h'
    rw [List.forall_mem_cons] at hr hc hc'
    cases call with
    | getSecret ns name =>
      obtain rfl := hc.1.getSecret
      obtain rfl := hc'.1.getSecret
      obtain ⟨rfl, rfl⟩ := ih rest' hr.2 hc.2 hc'.2
      exact ⟨rfl, rfl⟩
    | _ => cases hr.1

/-! ## The steps -/

section Unique

variable {settings : Settings} {r : Redis} {w : Owned r} {recorded : StringMap String}

theorem Gathering.unique {events events' : Trace} {ms ms' : List Mark}
    {x x' : Progress InputHashes} (h : Gathering w events ms x) (h' : Gathering w events' ms' x')
    (hc : ∀ e ∈ events, c.Answers e) (hc' : ∀ e ∈ events', c.Answers e) :
    events = events' ∧ ms = ms' ∧ x = x' := by
  -- The permissions come first, so both passes agree on them; then on the reads, and so on.
  cases h with
  | permissions hp =>
    cases h' with
    | permissions hp' =>
      obtain ⟨rfl, h⟩ := hp.unique hp' hc hc'
      obtain rfl := Option.some.inj h
      exact ⟨rfl, rfl, rfl⟩
    | tlsInputs hp' _ | configMaps hp' _ _ =>
      rw [List.forall_mem_append] at hc'
      obtain ⟨-, h⟩ := hp.unique hp' hc hc'.1
      cases h
  | tlsInputs hp ht =>
    rw [List.forall_mem_append] at hc
    cases h' with
    | permissions hp' =>
      obtain ⟨-, h⟩ := hp.unique hp' hc.1 hc'
      cases h
    | tlsInputs hp' ht' =>
      rw [List.forall_mem_append] at hc'
      obtain ⟨rfl, -⟩ := hp.unique hp' hc.1 hc'.1
      obtain ⟨rfl, h⟩ := runs_unique ht ht' (runs_tlsInputHashes_reads ht) hc.2 hc'.2
      obtain rfl := Except.error.inj h
      exact ⟨rfl, rfl, rfl⟩
    | configMaps hp' ht' _ =>
      rw [List.forall_mem_append, List.forall_mem_append] at hc'
      obtain ⟨-, h⟩ := runs_unique ht ht' (runs_tlsInputHashes_reads ht) hc.2 hc'.2.1
      cases h
  -- Where one pass came to the config maps, the other cannot have ended before them.
  | configMaps hp ht hm =>
    rw [List.forall_mem_append, List.forall_mem_append] at hc
    cases h' with
    | permissions hp' =>
      obtain ⟨-, h⟩ := hp.unique hp' hc.1 hc'
      cases h
    | tlsInputs hp' ht' =>
      rw [List.forall_mem_append] at hc'
      obtain ⟨-, h⟩ := runs_unique ht ht' (runs_tlsInputHashes_reads ht) hc.2.1 hc'.2
      cases h
    | configMaps hp' ht' hm' =>
      rw [List.forall_mem_append, List.forall_mem_append] at hc'
      obtain ⟨rfl, -⟩ := hp.unique hp' hc.1 hc'.1
      obtain ⟨rfl, h⟩ := runs_unique ht ht' (runs_tlsInputHashes_reads ht) hc.2.1 hc'.2.1
      obtain rfl := Except.ok.inj h
      obtain ⟨rfl, rfl⟩ := hm.unique hm' hc.2.2 hc'.2.2
      exact ⟨rfl, rfl, rfl⟩

theorem Gathering.unique_inputs {events events' : Trace} {ms ms' : List Mark}
    {inputs inputs' : InputHashes} (h : Gathering w events ms (.proceed inputs))
    (h' : Gathering w events' ms' (.proceed inputs')) (hc : ∀ e ∈ events, c.Answers e)
    (hc' : ∀ e ∈ events', c.Answers e) : events = events' ∧ ms = ms' ∧ inputs = inputs' := by
  obtain ⟨hevents, hms, hx⟩ := h.unique h' hc hc'
  exact ⟨hevents, hms, Progress.proceed.inj hx⟩

theorem Gathering.not_both {events events' : Trace} {ms ms' : List Mark} {e : Ending}
    {inputs : InputHashes} (h : Gathering w events ms (.finish e))
    (h' : Gathering w events' ms' (.proceed inputs)) (hc : ∀ e ∈ events, c.Answers e)
    (hc' : ∀ e ∈ events', c.Answers e) : False := by
  obtain ⟨-, -, hx⟩ := h.unique h' hc hc'
  cases hx

/-- Inputs that were gathered in two passes cannot differ from the record in one of them only. -/
theorem Gathering.not_differs {events events' : Trace} {ms ms' : List Mark}
    {inputs inputs' : InputHashes} {updated : StringMap String}
    (h : Gathering w events ms (.proceed inputs)) (h' : Gathering w events' ms' (.proceed inputs'))
    (hc : ∀ e ∈ events, c.Answers e) (hc' : ∀ e ∈ events', c.Answers e)
    (differs : inputs.compare recorded inputs.aggregate = some updated)
    (agrees : inputs'.compare recorded inputs'.aggregate = none) : False := by
  obtain ⟨-, -, rfl⟩ := h.unique_inputs h' hc hc'
  rw [differs] at agrees
  cases agrees

/-- **Two passes from the same recorded hashes do the same.** -/
theorem WorkCourse.unique {events events' : Trace} {ms ms' : List Mark}
    {hash hash' : StringMap String} {x x' : Progress Outcome}
    (h : WorkCourse settings w recorded events ms hash x)
    (h' : WorkCourse settings w recorded events' ms' hash' x')
    (hc : ∀ e ∈ events, c.Answers e) (hc' : ∀ e ∈ events', c.Answers e) :
    ms = ms' ∧ hash = hash' ∧ x = x' := by
  -- Courses are told apart by how gathering the inputs ended, whether the record agreed, and how
  -- the services ended. Of all three both passes say the same, which rules out the mixed cases.
  cases h with
  | stopped hg =>
    cases h' with
    | stopped hg' =>
      obtain ⟨-, rfl, h⟩ := hg.unique hg' hc hc'
      exact ⟨rfl, rfl, congrArg Progress.finish (Progress.finish.inj h)⟩
    | recorded hg' _ => exact (hg.not_both hg' hc hc').elim
    | services hg' _ _ | workload hg' _ _ =>
      rw [List.forall_mem_append] at hc'
      exact (hg.not_both hg' hc hc'.1).elim
  | recorded hg differs =>
    cases h' with
    | stopped hg' => exact (hg'.not_both hg hc' hc).elim
    | recorded hg' differs' =>
      obtain ⟨-, rfl, rfl⟩ := hg.unique_inputs hg' hc hc'
      rw [differs] at differs'
      exact ⟨rfl, Option.some.inj differs', rfl⟩
    | services hg' agrees' _ | workload hg' agrees' _ =>
      rw [List.forall_mem_append] at hc'
      exact (hg.not_differs hg' hc hc'.1 differs agrees').elim
  | services hg agrees hs =>
    rw [List.forall_mem_append] at hc
    cases h' with
    | stopped hg' => exact (hg'.not_both hg hc' hc.1).elim
    | recorded hg' differs' => exact (hg'.not_differs hg hc' hc.1 differs' agrees).elim
    | services hg' _ hs' =>
      rw [List.forall_mem_append] at hc'
      obtain ⟨-, rfl, -⟩ := hg.unique_inputs hg' hc.1 hc'.1
      obtain ⟨-, h⟩ := hs.unique hs' hc.2 hc'.2
      obtain rfl := Option.some.inj h
      exact ⟨rfl, rfl, rfl⟩
    | workload hg' _ hs' =>
      rw [List.forall_mem_append, List.forall_mem_append] at hc'
      obtain ⟨-, h⟩ := hs.unique hs' hc.2 hc'.2.1
      cases h
  | workload hg agrees hs =>
    rw [List.forall_mem_append, List.forall_mem_append] at hc
    cases h' with
    | stopped hg' => exact (hg'.not_both hg hc' hc.1).elim
    | recorded hg' differs' => exact (hg'.not_differs hg hc' hc.1 differs' agrees).elim
    | services hg' _ hs' =>
      rw [List.forall_mem_append] at hc'
      obtain ⟨-, h⟩ := hs.unique hs' hc.2.1 hc'.2
      cases h
    | workload hg' _ hs' =>
      rw [List.forall_mem_append, List.forall_mem_append] at hc'
      obtain ⟨-, rfl, rfl⟩ := hg.unique_inputs hg' hc.1 hc'.1
      rw [List.forall_mem_singleton] at hc hc'
      obtain rfl := hc.2.2.apply
      obtain rfl := hc'.2.2.apply
      exact ⟨rfl, rfl, rfl⟩

end Unique

/-! ## Instances that differ in their status -/

namespace Owned

variable {r : Redis}

theorem unique (w w' : Owned r) : w = w' := by
  obtain ⟨metadata, scripts, config, hm, hn, hs, hc⟩ := w
  obtain ⟨metadata', scripts', config', hm', hn', hs', hc'⟩ := w'
  obtain rfl : metadata = metadata' := by
    funext name
    have h := (hm name).symm.trans (hm' name)
    exact Except.ok.inj h
  obtain rfl := Except.ok.inj (hs.symm.trans hs')
  obtain rfl := Except.ok.inj (hc.symm.trans hc')
  rfl

/-- What is built for an instance with one status is built for it with another. -/
def restatus (w : Owned r) (status : Option Status) : Owned { r with status } where
  metadata := w.metadata
  scriptsData := w.scriptsData
  configData := w.configData
  metadata_eq := w.metadata_eq
  name_metadata := w.name_metadata
  scriptsData_eq := w.scriptsData_eq
  configData_eq := w.configData_eq

end Owned

theorem Gathering.restatus {r : Redis} {w : Owned r} {events : Trace} {ms : List Mark}
    {x : Progress InputHashes} (h : Gathering w events ms x) (status : Option Status) :
    Gathering (w.restatus status) events ms x := by
  cases h with
  | permissions hp => exact .permissions hp
  | tlsInputs hp ht => exact .tlsInputs hp ht
  | configMaps hp ht hm => exact .configMaps hp ht hm

theorem WorkCourse.restatus {settings : Settings} {r : Redis} {w : Owned r}
    {recorded hash : StringMap String} {events : Trace} {ms : List Mark} {x : Progress Outcome}
    (h : WorkCourse settings w recorded events ms hash x) (status : Option Status) :
    WorkCourse settings (w.restatus status) recorded events ms hash x := by
  cases h with
  | stopped hg => exact .stopped (hg.restatus status)
  | recorded hg differs => exact .recorded (hg.restatus status) differs
  | services hg agrees hs => exact .services (hg.restatus status) agrees hs
  | workload hg agrees hs => exact .workload (hg.restatus status) agrees hs

end RedisControl
