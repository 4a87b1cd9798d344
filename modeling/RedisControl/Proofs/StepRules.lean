import RedisControl.Proofs.Marks
import RedisControl.Proofs.Trace

/-!
# Runs of steps

What a step of a pass does is told by three things: the exchange with the cluster, the marks that
it enters, and whether it goes on.

**Effects.** The first two are the effect of a run (`Effect`). A step reads the clock exactly once
for each mark, so the readings of a run and the marks stand side by side.

**Applying in order.** Permissions, config maps and services are all applied one after the other
until one is not in place (`ApplyRun`). They differ in what they note of it.

**Rules.** One rule for each way in which steps are put together says what the runs of the whole
are (`Step.runs_bind`, `Step.runs_apply_bind`, `Step.runs_enter_bind`).
-/

namespace RedisControl

open Program

variable {α β : Type}

/-! ## Effects -/

/-- The status with marks entered in its ledger. -/
def Status.noted (marks : List (Time × Mark)) (s : Status) : Status :=
  { s with conditions := s.conditions.enterAll marks }

/-- What a run does: the exchange that it has with the cluster, and the marks that it enters in
the ledger, one at each reading of the clock. -/
structure Effect (t events : Trace) (ms : List Mark) (s s' : Status) : Prop where
  exchange : Trace.exchange t = events
  length_times : (Trace.times t).length = ms.length
  noted : s' = s.noted ((Trace.times t).zip ms)

namespace Effect

variable {t u events more : Trace} {ms ns : List Mark} {s s₁ s' : Status}

theorem nil (s : Status) : Effect [] [] [] s s := ⟨rfl, rfl, rfl⟩

theorem append (h₁ : Effect t events ms s s₁) (h₂ : Effect u more ns s₁ s') :
    Effect (t ++ u) (events ++ more) (ms ++ ns) s s' := by
  obtain ⟨he₁, hl₁, rfl⟩ := h₁
  obtain ⟨he₂, hl₂, rfl⟩ := h₂
  refine ⟨?_, ?_, ?_⟩
  · rw [Trace.exchange_append, he₁, he₂]
  · rw [Trace.times_append, List.length_append, List.length_append, hl₁, hl₂]
  · rw [Trace.times_append, List.zip_append hl₁]
    simp only [Status.noted, Ledger.enterAll_append]

theorem apply (o : SubResource) (a : Except ControlError Applied) (h : Effect t events ms s s') :
    Effect (⟨.apply o, a⟩ :: t) (⟨.apply o, a⟩ :: events) ms s s' :=
  ⟨congrArg (_ :: ·) h.exchange, h.length_times, h.noted⟩

theorem enter {τ : Time} {m : Mark} (h : Effect t events ms (s.noted [(τ, m)]) s') :
    Effect (⟨.now, τ⟩ :: t) events (m :: ms) s s' :=
  ⟨h.exchange, congrArg Nat.succ h.length_times, h.noted⟩

theorem hash (h : Effect t events ms s s') : s'.hash = s.hash := by
  rw [h.noted]
  rfl

end Effect

/-! ## Going on and stopping -/

/-- How a part of a pass goes on that may have been stopped. -/
def Progress.ofStop (a : α) : Option Ending → Progress α
  | none => .proceed a
  | some e => .finish e

theorem Progress.ofStop_eq_proceed {a b : α} {stop : Option Ending}
    (h : ofStop a stop = .proceed b) : stop = none ∧ a = b := by
  cases stop with
  | none => exact ⟨rfl, Progress.proceed.inj h⟩
  | some e => cases h

theorem Progress.ofStop_eq_finish {a : α} {e : Ending} {stop : Option Ending}
    (h : ofStop a stop = .finish e) : stop = some e := by
  cases stop with
  | none => cases h
  | some e' => rw [Progress.finish.inj h]

/-- How an answer to an application ends the pass; not at all if the object is in place. -/
def Applied.stop? : Except ControlError Applied → Option Ending
  | .ok (.converged _ _) => none
  | .ok (.pending after) => some (.ok (.requeueAfter after))
  | .error e => some (.error e)

/-- Objects are applied one after the other, with these answers, up to the first that is not in
place. The last argument says how that ends the pass. -/
inductive ApplyRun :
    List SubResource → List (Except ControlError Applied) → Option Ending → Prop where
  | done : ApplyRun [] [] none
  | next {o : SubResource} {os : List SubResource} {a : Except ControlError Applied}
      {as : List (Except ControlError Applied)} {stop : Option Ending}
      (here : Applied.stop? a = none) (rest : ApplyRun os as stop) :
      ApplyRun (o :: os) (a :: as) stop
  | stop {o : SubResource} {os : List SubResource} {a : Except ControlError Applied} {e : Ending}
      (here : Applied.stop? a = some e) : ApplyRun (o :: os) [a] (some e)

/-- The applications of objects, with their answers. -/
def applyEvents (os : List SubResource) (as : List (Except ControlError Applied)) : Trace :=
  List.zipWith (fun o a => ⟨.apply o, a⟩) os as

@[simp] theorem applyEvents_cons (o : SubResource) (os : List SubResource)
    (a : Except ControlError Applied) (as : List (Except ControlError Applied)) :
    applyEvents (o :: os) (a :: as) = ⟨.apply o, a⟩ :: applyEvents os as := rfl

@[simp] theorem applyEvents_nil (os : List SubResource) : applyEvents os [] = [] :=
  List.zipWith_nil_right

namespace ApplyRun

variable {os : List SubResource} {as : List (Except ControlError Applied)} {stop : Option Ending}

theorem length_le (h : ApplyRun os as stop) : as.length ≤ os.length := by
  induction h with
  | done => exact Nat.le_refl 0
  | next _ _ ih => exact Nat.succ_le_succ ih
  | stop _ => exact Nat.succ_le_succ (Nat.zero_le _)

/-- Where nothing stops the pass, all objects have been applied. -/
theorem length_eq (h : ApplyRun os as none) : as.length = os.length := by
  generalize hs : (none : Option Ending) = stop at h
  induction h with
  | done => rfl
  | next _ _ ih => rw [List.length_cons, List.length_cons, ih hs]
  | stop _ => cases hs

/-- What stopped the pass is an answer. -/
theorem exists_of_stop {ending : Ending} (h : ApplyRun os as (some ending)) :
    ∃ o a, ⟨.apply o, a⟩ ∈ applyEvents os as ∧ Applied.stop? a = some ending := by
  generalize hs : some ending = stop at h
  induction h with
  | done => cases hs
  | next _ _ ih =>
    obtain ⟨o, a, hm, ha⟩ := ih hs
    exact ⟨o, a, List.mem_cons_of_mem _ hm, ha⟩
  | stop here => exact ⟨_, _, List.mem_cons_self, here⟩

end ApplyRun

theorem applications_applyEvents (os : List SubResource)
    (as : List (Except ControlError Applied)) :
    Trace.applications (applyEvents os as) = os.zip as := by
  induction os generalizing as with
  | nil => rfl
  | cons o os ih =>
    cases as with
    | nil => rfl
    | cons a as => exact congrArg ((o, a) :: ·) (ih as)

theorem secretAnswers_applyEvents (os : List SubResource)
    (as : List (Except ControlError Applied)) :
    Trace.secretAnswers (applyEvents os as) = [] := by
  induction os generalizing as with
  | nil => rfl
  | cons o os ih =>
    cases as with
    | nil => rfl
    | cons a as => exact ih as

/-! ## Rules for the parts of a step -/

namespace Step

def enter (m : Mark) : Step Unit := modifyLedger fun τ l => l.enter τ m

theorem runs_proceed {a : α} {s s' : Status} {t : Trace} {x : Progress α} :
    Runs (proceed a s) t (x, s') ↔ t = [] ∧ x = .proceed a ∧ s' = s := by
  rw [show proceed a s = .done (.proceed a, s) from rfl, runs_done_iff, Prod.mk.injEq]

theorem runs_finish {e : Ending} {s s' : Status} {t : Trace} {x : Progress α} :
    Runs (finish e s) t (x, s') ↔ t = [] ∧ x = .finish e ∧ s' = s := by
  rw [show (finish e : Step α) s = .done (.finish e, s) from rfl, runs_done_iff, Prod.mk.injEq]

theorem ofExcept_ok_bind (a : α) (f : α → Step β) : ofExcept (.ok a) >>= f = f a := rfl

theorem ofExcept_error_bind (e : ControlError) (f : α → Step β) :
    ofExcept (.error e) >>= f = finish (.error e) := rfl

/-- A run of two steps is a run of the first that goes on with a run of the second, or a run of
the first that ends the pass. -/
theorem runs_bind {p : Step α} {f : α → Step β} {s s' : Status} {t : Trace} {x : Progress β} :
    Runs ((p >>= f) s) t (x, s') ↔
      (∃ t₁ t₂ a s₁, t = t₁ ++ t₂ ∧ Runs (p s) t₁ (.proceed a, s₁) ∧
        Runs (f a s₁) t₂ (x, s')) ∨
      ∃ e, x = .finish e ∧ Runs (p s) t (.finish e, s') := by
  show Runs ((p s).bind _) t (x, s') ↔ _
  rw [runs_bind_iff]
  constructor
  · rintro ⟨t₁, t₂, ⟨y, s₁⟩, rfl, h₁, h₂⟩
    cases y with
    | proceed a => exact Or.inl ⟨t₁, t₂, a, s₁, rfl, h₁, h₂⟩
    | finish e =>
      obtain ⟨rfl, h⟩ := runs_done_iff.1 h₂
      obtain ⟨rfl, rfl⟩ := Prod.mk.inj h
      exact Or.inr ⟨e, rfl, by rw [List.append_nil]; exact h₁⟩
  · rintro (⟨t₁, t₂, a, s₁, rfl, h₁, h₂⟩ | ⟨e, rfl, h⟩)
    · exact ⟨t₁, t₂, (.proceed a, s₁), rfl, h₁, h₂⟩
    · exact ⟨t, [], (.finish e, s'), (List.append_nil t).symm, h, .done _⟩

theorem runs_lift {p : Program Cluster α} {s s' : Status} {t : Trace} {x : Progress α} :
    Runs (lift p s) t (x, s') ↔ ∃ a, Runs p t a ∧ x = .proceed a ∧ s' = s := by
  show Runs (p.bind _) t (x, s') ↔ _
  rw [runs_bind_iff]
  constructor
  · rintro ⟨t₁, t₂, a, rfl, h₁, h₂⟩
    obtain ⟨rfl, h⟩ := runs_done_iff.1 h₂
    obtain ⟨rfl, rfl⟩ := Prod.mk.inj h
    exact ⟨a, by rw [List.append_nil]; exact h₁, rfl, rfl⟩
  · rintro ⟨a, h, rfl, rfl⟩
    exact ⟨t, [], a, (List.append_nil t).symm, h, .done _⟩

theorem runs_lift_bind {p : Program Cluster α} {f : α → Step β} {s s' : Status} {t : Trace}
    {x : Progress β} :
    Runs ((lift p >>= f) s) t (x, s') ↔
      ∃ t₁ t₂ a, t = t₁ ++ t₂ ∧ Runs p t₁ a ∧ Runs (f a s) t₂ (x, s') := by
  rw [runs_bind]
  simp only [runs_lift]
  constructor
  · rintro (⟨t₁, t₂, a, s₁, rfl, ⟨b, h₁, hab, rfl⟩, h₂⟩ | ⟨e, -, b, -, he, -⟩)
    · obtain rfl := Progress.proceed.inj hab
      exact ⟨t₁, t₂, a, rfl, h₁, h₂⟩
    · cases he
  · rintro ⟨t₁, t₂, a, rfl, h₁, h₂⟩
    exact Or.inl ⟨t₁, t₂, a, s, rfl, ⟨a, h₁, rfl, rfl⟩, h₂⟩

theorem runs_apply_bind {o : SubResource} {f : Except ControlError Applied → Step β}
    {s s' : Status} {t : Trace} {x : Progress β} :
    Runs ((lift (Cluster.apply o) >>= f) s) t (x, s') ↔
      ∃ a t', t = ⟨.apply o, a⟩ :: t' ∧ Runs (f a s) t' (x, s') := by
  rw [runs_lift_bind]
  constructor
  · rintro ⟨t₁, t₂, a, rfl, h₁, h₂⟩
    obtain rfl := (runs_ask (I := Cluster) (c := .apply o)).1 h₁
    exact ⟨a, t₂, rfl, h₂⟩
  · rintro ⟨a, t', rfl, h⟩
    exact ⟨[⟨.apply o, a⟩], t', a, rfl, (runs_ask (I := Cluster) (c := .apply o)).2 rfl, h⟩

theorem runs_enter {m : Mark} {s s' : Status} {t : Trace} {x : Progress Unit} :
    Runs (enter m s) t (x, s') ↔
      ∃ τ, t = [⟨.now, τ⟩] ∧ x = .proceed () ∧ s' = s.noted [(τ, m)] := by
  show Runs (Cluster.now.bind _) t (x, s') ↔ _
  rw [runs_bind_iff]
  constructor
  · rintro ⟨t₁, t₂, τ, rfl, h₁, h₂⟩
    obtain rfl := (runs_ask (I := Cluster) (c := .now)).1 h₁
    obtain ⟨rfl, h⟩ := runs_done_iff.1 h₂
    obtain ⟨rfl, rfl⟩ := Prod.mk.inj h
    exact ⟨τ, rfl, rfl, rfl⟩
  · rintro ⟨τ, rfl, rfl, rfl⟩
    exact ⟨_, [], τ, rfl, (runs_ask (I := Cluster) (c := .now)).2 rfl, .done _⟩

theorem runs_enter_bind {m : Mark} {f : Unit → Step β} {s s' : Status} {t : Trace}
    {x : Progress β} :
    Runs ((enter m >>= f) s) t (x, s') ↔
      ∃ τ t', t = ⟨.now, τ⟩ :: t' ∧ Runs (f () (s.noted [(τ, m)])) t' (x, s') := by
  rw [runs_bind]
  simp only [runs_enter]
  constructor
  · rintro (⟨t₁, t₂, a, s₁, rfl, ⟨τ, rfl, -, rfl⟩, h₂⟩ | ⟨e, -, τ, -, he, -⟩)
    · exact ⟨τ, t₂, rfl, h₂⟩
    · cases he
  · rintro ⟨τ, t', rfl, h⟩
    exact Or.inl ⟨[⟨.now, τ⟩], t', (), _, rfl, ⟨τ, rfl, trivial, rfl⟩, h⟩

end Step

end RedisControl
