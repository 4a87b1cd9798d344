import RedisControl.Proofs.SecretInputs

/-!
# Plans

A plan is a list of calls that are to be made one after the other, up to the first whose answer is
not good. An application is good if the object is in place, the read of a secret if the secret is
there and valid. A call that is not good ends the pass: with the error, or, where an object is not
in place yet, with the delay that the cluster asked for.

* `Stage.Meets` : an event is the call of a stage, and what its answer comes to.
* `Follows` : the calls of a run are those of a plan, and how the last one ends the pass.
* `Follows.append` : one plan after another.
* `Follows.asks_isPrefix` : what was asked is the beginning of what was planned.
* `Follows.unique` : where a plan is cut is determined by the events.
-/

namespace RedisControl

open Program

/-! ## Calls -/

/-- What a call asks of the cluster: the read of a secret, or that an object be in place. -/
inductive Ask where
  | read (ns name : String)
  | apply (h : Handle)
  deriving DecidableEq

/-- A call that a pass plans to make. A secret that is read has to be there and is then hashed. -/
inductive Stage where
  | read (ns name : String) (hash : Secret → Except SecretProblem String)
  | apply (h : Handle)

/-- The call that a stage makes. -/
def Stage.ask : Stage → Ask
  | .read ns name _ => .read ns name
  | .apply h => .apply h

/-- The call of an event that reads a secret or applies an object. -/
def Event.ask? : Event Cluster → Option Ask
  | ⟨.getSecret ns name, _⟩ => some (.read ns name)
  | ⟨.apply o, _⟩ => some (.apply o.handle)
  | _ => none

/-- What the calls of a run ask of the cluster, other than to read or write the instance. -/
def Trace.asks (t : Trace) : List Ask := t.filterMap Event.ask?

/-- How the hash of a secret ends the pass; not at all where there is one. -/
def stopOfResult {α : Type} : Except ControlError α → Option Ending
  | .ok _ => none
  | .error e => some (.error e)

/-- The event is the call of a stage, and its answer ends the pass so, or is good. -/
inductive Stage.Meets : Stage → Event Cluster → Option Ending → Prop where
  | read {ns name : String} {hash : Secret → Except SecretProblem String}
      {a : Except ControlError (Option Secret)} :
      Meets (.read ns name hash) ⟨.getSecret ns name, a⟩ (stopOfResult (secretHashOf ns name hash a))
  | apply {h : Handle} {o : SubResource} {a : Except ControlError Applied}
      (handle : o.handle = h) : Meets (.apply h) ⟨.apply o, a⟩ (Applied.stop? a)

theorem Stage.Meets.ask_eq {stage : Stage} {e : Event Cluster} {stop : Option Ending}
    (h : stage.Meets e stop) : e.ask? = some stage.ask := by
  cases h with
  | read => rfl
  | apply handle => exact congrArg (fun h => some (Ask.apply h)) handle

theorem Stage.Meets.of_stop? {o : SubResource} {a : Except ControlError Applied}
    {stop : Option Ending} (h : Applied.stop? a = stop) :
    (Stage.apply o.handle).Meets ⟨.apply o, a⟩ stop := by
  rw [← h]
  exact .apply rfl

theorem Stage.Meets.stop_eq {stage : Stage} {o : SubResource} {a : Except ControlError Applied}
    {stop : Option Ending} (h : stage.Meets ⟨.apply o, a⟩ stop) : stop = Applied.stop? a := by
  cases h
  rfl

theorem Stage.Meets.exists_answer {ns name : String} {hash : Secret → Except SecretProblem String}
    {e : Event Cluster} {stop : Option Ending} (h : (Stage.read ns name hash).Meets e stop) :
    ∃ a, e = ⟨.getSecret ns name, a⟩ ∧ stop = stopOfResult (secretHashOf ns name hash a) := by
  cases h with
  | read => exact ⟨_, rfl, rfl⟩

theorem Stage.Meets.unique {stage : Stage} {e : Event Cluster} {stop stop' : Option Ending}
    (h : stage.Meets e stop) (h' : stage.Meets e stop') : stop = stop' := by
  cases h with
  | read =>
    cases h'
    rfl
  | apply handle =>
    cases h'
    rfl

/-- An answer that is not good ends the pass with an error or with a delay, which is that of an
application. -/
theorem Stage.Meets.ending_cases {stage : Stage} {e : Event Cluster} {ending : Ending}
    (h : stage.Meets e (some ending)) : (∃ error, ending = .error error) ∨
      ∃ o d, e = ⟨.apply o, .ok (.pending d)⟩ ∧ ending = .ok (.requeueAfter d) := by
  generalize hs : some ending = stop at h
  cases h with
  | @read ns name hash a =>
    left
    cases ha : secretHashOf ns name hash a with
    | ok digest =>
      rw [ha] at hs
      cases hs
    | error error =>
      rw [ha] at hs
      exact ⟨error, Option.some.inj hs⟩
  | @apply _ o a _ =>
    match a, hs with
    | .ok (.pending d), hs => exact Or.inr ⟨o, d, rfl, Option.some.inj hs⟩
    | .error error, hs => exact Or.inl ⟨error, Option.some.inj hs⟩

/-! ## Following a plan -/

/-- The events are the calls of a plan, one after the other up to the first whose answer is not
good. The last argument says how that ends the pass. -/
inductive Follows : List Stage → Trace → Option Ending → Prop where
  | done : Follows [] [] none
  | next {stage : Stage} {stages : List Stage} {e : Event Cluster} {t : Trace}
      {stop : Option Ending} (here : stage.Meets e none) (rest : Follows stages t stop) :
      Follows (stage :: stages) (e :: t) stop
  | stop {stage : Stage} {stages : List Stage} {e : Event Cluster} {ending : Ending}
      (here : stage.Meets e (some ending)) : Follows (stage :: stages) [e] (some ending)

namespace Follows

variable {p q : List Stage} {t u : Trace} {stop stop' : Option Ending} {ending : Ending}

theorem append (h : Follows p t none) (h' : Follows q u stop) : Follows (p ++ q) (t ++ u) stop := by
  generalize hs : (none : Option Ending) = s at h
  induction h with
  | done => exact h'
  | next here _ ih => exact .next here (ih hs)
  | stop _ => cases hs

theorem append_of_stop (h : Follows p t (some ending)) (q : List Stage) :
    Follows (p ++ q) t (some ending) := by
  generalize hs : some ending = s at h
  induction h with
  | done => cases hs
  | next here _ ih => exact .next here (ih hs)
  | stop here =>
    obtain rfl := Option.some.inj hs
    exact .stop here

theorem asks_isPrefix (h : Follows p t stop) : Trace.asks t <+: p.map Stage.ask := by
  induction h with
  | done => exact List.prefix_rfl
  | next here _ ih =>
    rw [Trace.asks, List.filterMap_cons_some here.ask_eq, List.map_cons]
    exact (List.prefix_cons_inj _).2 ih
  | stop here =>
    rw [Trace.asks, List.filterMap_cons_some here.ask_eq, List.map_cons]
    exact (List.prefix_cons_inj _).2 List.nil_prefix

theorem length_eq (h : Follows p t none) : t.length = p.length := by
  generalize hs : (none : Option Ending) = s at h
  induction h with
  | done => rfl
  | next _ _ ih => rw [List.length_cons, List.length_cons, ih hs]
  | stop _ => cases hs

/-- Where no call stops the run, everything that was planned is asked. -/
theorem asks_eq (h : Follows p t none) : Trace.asks t = p.map Stage.ask := by
  generalize hs : (none : Option Ending) = s at h
  induction h with
  | done => rfl
  | next here _ ih =>
    rw [Trace.asks, List.filterMap_cons_some here.ask_eq, List.map_cons]
    exact congrArg _ (ih hs)
  | stop _ => cases hs

theorem exists_meets (h : Follows p t stop) (hstop : stop = none) {stage : Stage}
    (hs : stage ∈ p) : ∃ e ∈ t, stage.Meets e none := by
  induction h with
  | done => cases hs
  | next here _ ih =>
    rcases List.mem_cons.1 hs with rfl | hs
    · exact ⟨_, List.mem_cons_self, here⟩
    · obtain ⟨e, he, hmeets⟩ := ih hstop hs
      exact ⟨e, List.mem_cons_of_mem _ he, hmeets⟩
  | stop _ => cases hstop

theorem stop_of_apply_mem (h : Follows p t stop) {o : SubResource}
    {a : Except ControlError Applied} (hm : ⟨.apply o, a⟩ ∈ t) :
    Applied.stop? a = none ∨ Applied.stop? a = stop := by
  induction h with
  | done => cases hm
  | next here _ ih =>
    rcases List.mem_cons.1 hm with rfl | hm
    · exact Or.inl here.stop_eq.symm
    · exact ih hm
  | stop here =>
    obtain rfl := List.mem_singleton.1 hm
    exact Or.inr here.stop_eq.symm

theorem eq_nil_of_nil (h : Follows p [] stop) : p = [] := by
  cases h
  rfl

theorem unique (h : Follows p t stop) (h' : Follows p t stop') : stop = stop' := by
  induction h with
  | done =>
    cases h'
    rfl
  | next here _ ih =>
    cases h' with
    | next _ rest' => exact ih rest'
    | stop here' => cases here.unique here'
  | stop here =>
    cases h' with
    | next here' _ => cases here.unique here'
    | stop here' => exact here.unique here'

theorem getLast?_of_stop (h : Follows p t (some ending)) :
    ∃ stage e, (p.zip t).getLast? = some (stage, e) ∧ stage.Meets e (some ending) := by
  generalize hs : some ending = s at h
  induction h with
  | done => cases hs
  | next _ _ ih =>
    obtain ⟨stage, e, hlast, here⟩ := ih hs
    refine ⟨stage, e, ?_, here⟩
    rw [List.zip_cons_cons, List.getLast?_cons, hlast]
    rfl
  | @stop stage _ e _ here =>
    refine ⟨stage, e, ?_, hs ▸ here⟩
    rw [List.zip_cons_cons, List.zip_nil_right]
    rfl

theorem ending_cases (h : Follows p t (some ending)) :
    (∃ error, ending = .error error) ∨ ∃ d, ending = .ok (.requeueAfter d) := by
  obtain ⟨stage, e, -, here⟩ := h.getLast?_of_stop
  rcases here.ending_cases with herror | ⟨o, d, -, he⟩
  · exact Or.inl herror
  · exact Or.inr ⟨d, he⟩

/-- Every call of a plan that is not cut has a good answer. -/
theorem meets_of_mem_zip (h : Follows p t stop) (hs : stop = none) {stage : Stage}
    {e : Event Cluster} (hm : (stage, e) ∈ p.zip t) : stage.Meets e none := by
  induction h with
  | done => cases hm
  | next here _ ih =>
    rw [List.zip_cons_cons] at hm
    rcases List.mem_cons.1 hm with heq | hm
    · obtain ⟨rfl, rfl⟩ := Prod.mk.inj heq
      exact here
    · exact ih hs hm
  | stop _ => cases hs

/-- What stands in a plan after the calls that were made does not matter to them. -/
theorem zip_append (h : Follows p t none) (q : List Stage) : (p ++ q).zip t = p.zip t := by
  have hzip : (p ++ q).zip (t ++ []) = p.zip t ++ q.zip [] := List.zip_append h.length_eq.symm
  rw [List.append_nil, List.zip_nil_right, List.append_nil] at hzip
  exact hzip

end Follows

end RedisControl
