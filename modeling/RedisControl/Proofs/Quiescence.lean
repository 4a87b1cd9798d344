import Mathlib.Algebra.GroupWithZero.Nat
import RedisControl.Proofs.Determinism
import RedisControl.Proofs.Verdicts

/-!
# Passes over a steady cluster settle

**Theorem (`steady_rounds_settle`).** Let passes follow one another over a steady cluster, from any
stored status. They write the status at most three times. From the third pass on all end alike,
and from the fourth on none writes and the stored status stays what it is. Where nothing stands in
the way, the third pass ends with `done`, and so do all after it.

A pass over a status is looked at as a turn, from what is stored to what will be. The proof follows
the status through the first turns:

* after the first turn the ledger has entries,
* a turn that finds entries and leaves the recorded hashes alone leaves a settled status: another
  turn finds its marks there already, so it changes nothing and ends in the same way, and
* a turn that finds entries and records new hashes has compared the inputs with the old record;
  the next one gathers the same inputs, and so it leaves the record alone.
-/

namespace RedisControl

open Program

/-! ## Turns -/

/-- One pass over a steady cluster: from what is stored to the status afterwards, with the end and
the number of writes. -/
inductive SteadyCluster.Turn (c : SteadyCluster) (settings : Settings) (stored : Option Status) :
    Status → Ending → Nat → Prop where
  | intro {s : Status} {events : Trace} {e : Ending} {now : Time}
      (steps : ConvergeRun settings (c.redis stored) (stored.getD .empty) events s e)
      (answers : ∀ event ∈ events, c.Answers event) :
      c.Turn settings stored (s.finished now) e
        (if s.finished now = stored.getD .empty then 0 else 1)

namespace SteadyCluster

variable {c : SteadyCluster} {clock : Nat → Time} {settings : Settings} {ns name : String}
  {first : Option Status}

theorem Answers.getRedis {r : Redis} (h : c.Answers ⟨.getRedis ns name, .ok (some r)⟩) :
    r = c.redis r.status := by
  obtain ⟨s, τ, h⟩ := h
  have hr : some r = some (c.redis s.1) := Except.ok.inj h
  rw [Option.some.inj hr]
  rfl

theorem Answers.write {w : Redis × Except ControlError Unit} (h : c.Answers (writeEvent w)) :
    w.2 = .ok () := by
  obtain ⟨s, τ, h⟩ := h
  exact h

variable (c clock settings ns name first) in
theorem turn_round (n : Nat) :
    ∃ s, (c.round clock settings ns name first (n + 1)).stored = some s ∧
      c.Turn settings (c.round clock settings ns name first n).stored s
        (c.round clock settings ns name first n).ending
        (Trace.statusWrites (c.round clock settings ns name first n).trace).length := by
  rw [stored_succ]
  have hanswers : ∀ e ∈ Trace.exchange (c.round clock settings ns name first n).trace,
      c.Answers e := fun e he => answers_of_mem (List.mem_filter.1 he).1
  have hread : Trace.redises (c.round clock settings ns name first n).trace ≠ [] := by
    intro h
    cases h
  have hpass : (c.round clock settings ns name first n).IsPass ns name := isPass_round n
  cases hpass.did with
  | nothing redises _ _ _ => exact absurd redises hread
  | @work r s e events _ stored steps finalized exchange =>
    rw [exchange, List.forall_mem_cons, List.forall_mem_append] at hanswers
    obtain ⟨hredis, hevents, hwrites⟩ := hanswers
    have hr : r.statusOrEmpty = (c.round clock settings ns name first n).stored.getD .empty := by
      rw [Redis.statusOrEmpty, stored]
    rw [hr, hredis.getRedis, stored] at steps
    -- The end and the writes are set apart from the round, so that finalizing can be looked at by
    -- cases.
    generalize hend : (c.round clock settings ns name first n).ending = e' at finalized
    generalize hw : Trace.statusWrites (c.round clock settings ns name first n).trace = writes
      at finalized hwrites
    rw [PassRecord.storedAfter, hw]
    cases finalized with
    | @unchanged now same =>
      rw [hr] at same
      have hturn : c.Turn settings _ (s.finished now) e _ := .intro steps hevents
      rw [if_pos same] at hturn
      cases hst : (c.round clock settings ns name first n).stored with
      | none =>
        rw [hst] at same
        exact absurd same (Status.finished_ne_empty steps.isEmpty_eq_false now)
      | some st =>
        rw [hst] at same hturn
        obtain rfl : s.finished now = st := same
        exact ⟨_, rfl, hturn⟩
    | @written now a differs =>
      rw [hr] at differs
      have hturn : c.Turn settings _ (s.finished now) e _ := .intro steps hevents
      rw [if_neg differs] at hturn
      have ha : a = .ok () := (hwrites _ (List.mem_singleton_self _)).write
      subst ha
      exact ⟨s.finished now, rfl, hturn⟩

theorem Turn.isEmpty_eq_false {stored : Option Status} {s : Status} {e : Ending} {writes : Nat}
    (h : c.Turn settings stored s e writes) : s.conditions.isEmpty = false := by
  cases h with
  | intro steps _ => exact Ledger.isEmpty_recomputeReady steps.isEmpty_eq_false _

theorem Turn.writes_le_one {stored : Option Status} {s : Status} {e : Ending} {writes : Nat}
    (h : c.Turn settings stored s e writes) : writes ≤ 1 := by
  cases h with
  | intro _ _ =>
    split
    · exact Nat.zero_le 1
    · exact Nat.le_refl 1

/-! ## Turns that find entries -/

/-- What a turn comes to that finds entries in the ledger. The objects are those of the instance
without a status, for they do not depend on it. -/
inductive FullTurn (c : SteadyCluster) (settings : Settings) (s : Status) :
    Status → Ending → Prop where
  | unowned {err : ControlError} {now : Time}
      (unowned : (c.redis none).permissionObjects policyRules = .error err) :
      c.FullTurn settings s (s.finished now) (.error err)
  | worked {w : Owned (c.redis none)} {events : Trace} {ms : List Mark}
      {hash : StringMap String} {x : Progress Outcome} {times : List Time} {now : Time}
      (course : WorkCourse settings w s.hash events ms hash x)
      (answers : ∀ event ∈ events, c.Answers event) (length : times.length = ms.length) :
      c.FullTurn settings s (Status.finished now { s.noted (times.zip ms) with hash }) x.ending

theorem Turn.full {s s' : Status} {e : Ending} {writes : Nat}
    (h : c.Turn settings (some s) s' e writes) (hs : s.conditions.isEmpty = false) :
    c.FullTurn settings s s' e ∧ writes = if s' = s then 0 else 1 := by
  cases h with
  | intro steps answers =>
    refine ⟨?_, rfl⟩
    cases steps with
    | filled empty _ =>
      rw [show s.conditions.isEmpty = true from empty] at hs
      cases hs
    | unowned _ unowned => exact .unowned unowned
    | @worked w _ _ _ _ _ _ course length =>
      exact .worked (w := w.restatus none) (course.restatus none) answers length

/-- Marks that a turn has entered are there when the next one comes to enter them. -/
theorem noted_finished {s : Status} {times later : List Time} {ms : List Mark} {now : Time}
    {hash : StringMap String} (hl : times.length = ms.length) (hlater : later.length = ms.length)
    (hdiff : (ms.map (·.goal)).Nodup) (hready : Goal.ready ∉ ms.map (·.goal)) :
    (Status.finished now { s.noted (times.zip ms) with hash }).noted (later.zip ms) =
      Status.finished now { s.noted (times.zip ms) with hash } := by
  have hshows : ((s.conditions.enterAll (times.zip ms)).recomputeReady now).enterAll
      (later.zip ms) = (s.conditions.enterAll (times.zip ms)).recomputeReady now := by
    refine Ledger.enterAll_eq_self ?_
    intro m hm
    rw [Ledger.marks_zip hlater] at hm
    have hgoal : m.goal ≠ .ready := fun he => hready (he ▸ List.mem_map_of_mem hm)
    rw [← Ledger.marks_zip hl] at hm
    exact (Ledger.shows_enterAll (by rw [Ledger.goals_zip hl]; exact hdiff) hm _).recomputeReady
      hgoal now
  exact congrArg (fun l => Status.mk l hash) hshows

/-- A turn after one that left the recorded hashes alone does the same once more, to no effect. -/
theorem FullTurn.again {s s' s'' : Status} {e e' : Ending} (h : c.FullTurn settings s s' e)
    (hhash : s'.hash = s.hash) (h' : c.FullTurn settings s' s'' e') : s'' = s' ∧ e' = e := by
  cases h with
  | unowned unowned =>
    cases h' with
    | unowned unowned' =>
      rw [unowned] at unowned'
      exact ⟨Status.finished_finished _ _ _, by rw [Except.error.inj unowned']⟩
    | @worked w _ _ _ _ _ _ _ _ _ =>
      rw [w.permissionObjects_eq] at unowned
      cases unowned
  | @worked w events ms hash x times now course answers length =>
    cases h' with
    | unowned unowned' =>
      rw [w.permissionObjects_eq] at unowned'
      cases unowned'
    | @worked w' events' ms' hash' x' times' now' course' answers' length' =>
      obtain rfl := w.unique w'
      rw [hhash] at course'
      obtain ⟨rfl, rfl, rfl⟩ := course.unique course' answers answers'
      rw [noted_finished length length' course.nodup_goals course.ready_not_mem]
      exact ⟨Status.finished_finished _ _ _, rfl⟩

theorem FullTurn.hash_eq {s s' s'' : Status} {e e' : Ending} (h : c.FullTurn settings s s' e)
    (hhash : s'.hash ≠ s.hash) (h' : c.FullTurn settings s' s'' e') : s''.hash = s'.hash := by
  cases h with
  | unowned _ => exact absurd rfl hhash
  | @worked w events ms hash x times now course answers length =>
    cases course with
    | stopped _ | services _ _ _ | workload _ _ _ => exact absurd rfl hhash
    | recorded gathered differs =>
      cases h' with
      | unowned _ => rfl
      | @worked w' events' ms' hash' x' times' now' course' answers' length' =>
        obtain rfl := w.unique w'
        cases course' with
        | stopped _ | services _ _ _ | workload _ _ _ => rfl
        | recorded gathered' differs' =>
          obtain ⟨-, -, h⟩ := gathered.unique gathered' answers answers'
          obtain rfl := Progress.proceed.inj h
          cases (InputHashes.compare_updated differs).symm.trans differs'

/-! ## Settled statuses -/

/-- A status that a turn leaves as it is, without a write and with this end. -/
def Settled (c : SteadyCluster) (settings : Settings) (s : Status) (e : Ending) : Prop :=
  ∀ s' e' writes, c.Turn settings (some s) s' e' writes → s' = s ∧ e' = e ∧ writes = 0

theorem Turn.settled {s s' : Status} {e : Ending} {writes : Nat}
    (h : c.Turn settings (some s) s' e writes) (hs : s.conditions.isEmpty = false)
    (hhash : s'.hash = s.hash) : c.Settled settings s' e := by
  intro s'' e' writes' h'
  obtain ⟨hfull', hwrites'⟩ := h'.full h.isEmpty_eq_false
  obtain ⟨rfl, rfl⟩ := (h.full hs).1.again hhash hfull'
  exact ⟨rfl, rfl, by rw [hwrites', if_pos rfl]⟩

/-- **After three turns the status is settled**, with the end of the third. -/
theorem settled_of_turns {stored : Option Status} {s₁ s₂ s₃ : Status} {e₁ e₂ e₃ : Ending}
    {n₁ n₂ n₃ : Nat} (h₁ : c.Turn settings stored s₁ e₁ n₁)
    (h₂ : c.Turn settings (some s₁) s₂ e₂ n₂) (h₃ : c.Turn settings (some s₂) s₃ e₃ n₃) :
    c.Settled settings s₃ e₃ := by
  have hs₁ := h₁.isEmpty_eq_false
  have hs₂ := h₂.isEmpty_eq_false
  by_cases hhash : s₂.hash = s₁.hash
  · -- The second turn has settled it already.
    have hsettled := h₂.settled hs₁ hhash
    obtain ⟨rfl, rfl, -⟩ := hsettled _ _ _ h₃
    exact hsettled
  -- The second turn recorded other hashes; the third finds them there and leaves them.
  · exact h₃.settled hs₂ ((h₂.full hs₁).1.hash_eq hhash (h₃.full hs₂).1)

/-! ## Where nothing stands in the way -/

/-- A secret that is referred to is there and valid. -/
def HasSecret (c : SteadyCluster) (ref : Option String)
    (hash : Secret → Except SecretProblem String) : Prop :=
  ∀ secretName ∈ ref, ∃ s h,
    c.secret (c.metadata.ns.getD "") secretName = .ok (some s) ∧ hash s = .ok h

/-- The instance is complete, its secrets are valid, and all objects come to be in place. -/
structure GoesAlong (c : SteadyCluster) : Prop where
  complete : (c.redis none).IsComplete
  certificate : c.HasSecret c.spec.tls.certificate?
    (·.certificateHash c.spec.tls.caBundle?.isNone)
  caBundle : c.HasSecret c.spec.tls.caBundle? Secret.caBundleHash
  applied : ∀ o, Applied.inPlace (c.applied o) = true

theorem GoesAlong.stop_eq_none (hc : c.GoesAlong) {os : List SubResource}
    {as : List (Except ControlError Applied)} {stop : Option Ending} (h : ApplyRun os as stop)
    (answers : ∀ e ∈ applyEvents os as, c.Answers e) : stop = none := by
  refine h.stop_eq_none ?_
  intro o _ a ha
  rw [(answers _ ha).apply]
  exact hc.applied o

theorem HasSecret.addSecretHash {ref : Option String} {input : String}
    {hash : Secret → Except SecretProblem String} (hc : c.HasSecret ref hash)
    {inputs : InputHashes} {t : Trace} {x : Except ControlError InputHashes}
    (run : Runs (addSecretHash (c.metadata.ns.getD "") ref input hash inputs) t x)
    (answers : ∀ e ∈ t, c.Answers e) : ∃ inputs', x = .ok inputs' := by
  cases ref with
  | none =>
    obtain ⟨-, rfl⟩ := runs_done_iff.1 run
    exact ⟨inputs, rfl⟩
  | some secretName =>
    obtain ⟨s, h, hs, hh⟩ := hc secretName rfl
    obtain ⟨a, rfl, rfl⟩ := runs_addSecretHash_some.1 run
    obtain rfl := (answers _ (List.mem_singleton_self _)).getSecret
    rw [hs, secretHashOf, hh]
    exact ⟨inputs.insert input h, rfl⟩

theorem GoesAlong.tlsInputHashes (hc : c.GoesAlong) {reads : Trace}
    {x : Except ControlError InputHashes} (run : Runs (tlsInputHashes (c.redis none)) reads x)
    (answers : ∀ e ∈ reads, c.Answers e) : ∃ inputs, x = .ok inputs := by
  obtain ⟨t, u, y, rfl, hcert, h⟩ := runs_tlsInputHashes.1 run
  rw [List.forall_mem_append] at answers
  obtain ⟨inputs, rfl⟩ := hc.certificate.addSecretHash hcert answers.1
  rcases h with ⟨e, he, -, -⟩ | ⟨inputs', -, hbundle⟩
  · cases he
  · exact hc.caBundle.addSecretHash hbundle answers.2

/-- Where nothing stands in the way, a turn that finds its inputs recorded ends with `done`. -/
theorem FullTurn.done (hc : c.GoesAlong) {s s' : Status} {e : Ending}
    (h : c.FullTurn settings s s' e) (hhash : s'.hash = s.hash) : e = .ok .done := by
  cases h with
  | unowned unowned =>
    obtain ⟨w⟩ := Redis.owned_of_isComplete hc.complete
    rw [w.permissionObjects_eq] at unowned
    cases unowned
  | @worked w events ms hash x times now course answers length =>
    -- Whatever would stop the course is an answer that the cluster does not give.
    cases course with
    | stopped gathering =>
      generalize hx : Progress.finish _ = x at gathering
      cases gathering with
      | permissions hp => cases hc.stop_eq_none hp answers
      | tlsInputs _ ht =>
        rw [List.forall_mem_append] at answers
        obtain ⟨_, he⟩ := hc.tlsInputHashes ht answers.2
        cases he
      | configMaps _ _ hm =>
        rw [List.forall_mem_append, List.forall_mem_append] at answers
        obtain rfl := hc.stop_eq_none hm answers.2.2
        cases hx
    | recorded _ differs =>
      -- It has recorded other hashes, but they are those that it found.
      obtain rfl : hash = s.hash := hhash
      cases (InputHashes.compare_updated differs).symm.trans differs
    | services _ _ hs =>
      rw [List.forall_mem_append] at answers
      cases hc.stop_eq_none hs answers.2
    | @workload _ _ inputs as a _ _ _ =>
      rw [List.forall_mem_append, List.forall_mem_append, List.forall_mem_singleton] at answers
      have hplace := hc.applied (w.workload settings inputs.aggregate)
      rw [← answers.2.2.apply, ← Applied.stop?_isNone] at hplace
      rw [Option.isNone_iff_eq_none.1 hplace]
      rfl

/-! ## The theorem -/

variable (c clock settings ns name first)

/-- The number of times that a round writes the status. -/
def writes (n : Nat) : Nat :=
  (Trace.statusWrites (c.round clock settings ns name first n).trace).length

theorem exists_settled : ∃ s, (c.round clock settings ns name first 3).stored = some s ∧
    s.conditions.isEmpty = false ∧
    c.Settled settings s (c.round clock settings ns name first 2).ending := by
  obtain ⟨s₁, hs₁, h₁⟩ := c.turn_round clock settings ns name first 0
  obtain ⟨s₂, hs₂, h₂⟩ := c.turn_round clock settings ns name first 1
  obtain ⟨s₃, hs₃, h₃⟩ := c.turn_round clock settings ns name first 2
  rw [hs₁] at h₂
  rw [hs₂] at h₃
  exact ⟨s₃, hs₃, h₃.isEmpty_eq_false, settled_of_turns h₁ h₂ h₃⟩

theorem writes_le_one (n : Nat) : c.writes clock settings ns name first n ≤ 1 := by
  obtain ⟨s, -, hturn⟩ := c.turn_round clock settings ns name first n
  exact hturn.writes_le_one

variable {c clock settings ns name first}

theorem settled_rounds {s : Status} {e : Ending} {k : Nat}
    (hs : (c.round clock settings ns name first k).stored = some s)
    (hsettled : c.Settled settings s e) (n : Nat) :
    (c.round clock settings ns name first (k + n)).stored = some s ∧
      (c.round clock settings ns name first (k + n)).ending = e ∧
      c.writes clock settings ns name first (k + n) = 0 := by
  have hstep : ∀ n, (c.round clock settings ns name first n).stored = some s →
      (c.round clock settings ns name first (n + 1)).stored = some s ∧
        (c.round clock settings ns name first n).ending = e ∧
        c.writes clock settings ns name first n = 0 := by
    intro n hn
    obtain ⟨s', hs', hturn⟩ := c.turn_round clock settings ns name first n
    rw [hn] at hturn
    obtain ⟨rfl, hend, hwrites⟩ := hsettled _ _ _ hturn
    exact ⟨hs', hend, hwrites⟩
  have hstored : (c.round clock settings ns name first (k + n)).stored = some s := by
    induction n with
    | zero => exact hs
    | succ n ih => exact (hstep _ ih).1
  exact ⟨hstored, (hstep _ hstored).2⟩

end SteadyCluster

theorem SteadyCluster.GoesAlong.ending_eq_done {c : SteadyCluster} (hc : c.GoesAlong)
    {clock : Nat → Time} {settings : Settings} {ns name : String} {first : Option Status} {n : Nat}
    (hn : 2 ≤ n) : (c.round clock settings ns name first n).ending = .ok .done := by
  obtain ⟨s, hs, hne, hsettled⟩ := c.exists_settled clock settings ns name first
  -- The fourth turn finds its inputs recorded, since it changes nothing at all.
  obtain ⟨s', -, hturn⟩ := c.turn_round clock settings ns name first 3
  rw [hs] at hturn
  obtain ⟨rfl, he, -⟩ := hsettled _ _ _ hturn
  have hdone : (c.round clock settings ns name first 2).ending = .ok .done := by
    rw [← he]
    exact (hturn.full hne).1.done hc rfl
  by_cases h : n = 2
  · rw [h, hdone]
  · obtain ⟨m, rfl⟩ := Nat.exists_eq_add_of_le (show 3 ≤ n by omega)
    rw [(SteadyCluster.settled_rounds hs hsettled m).2.1, hdone]

/-- **Passes over a steady cluster settle**, from any stored status and with any clock: three
writes at most, one and the same end from the third pass on, and no change from the fourth on. A
cluster that goes along with everything brings the third pass and all later ones to `done`. -/
theorem steady_rounds_settle (c : SteadyCluster) (clock : Nat → Time) (settings : Settings)
    (ns name : String) (first : Option Status) :
    let round := c.round clock settings ns name first
    (∀ n, ((List.range n).map (c.writes clock settings ns name first)).sum ≤ 3) ∧
    (∀ n, 2 ≤ n → (round n).ending = (round 2).ending) ∧
    (∀ n, 3 ≤ n → Trace.statusWrites (round n).trace = [] ∧
      (round n).stored = (round 3).stored) ∧
    (c.GoesAlong → ∃ k < 3, ∀ n, k ≤ n → (round n).ending = .ok .done) := by
  intro round
  obtain ⟨s, hs, -, hsettled⟩ := c.exists_settled clock settings ns name first
  have hlater : ∀ n, 3 ≤ n → (round n).stored = some s ∧ (round n).ending = (round 2).ending ∧
      c.writes clock settings ns name first n = 0 := by
    intro n hn
    obtain ⟨m, rfl⟩ := Nat.exists_eq_add_of_le hn
    exact SteadyCluster.settled_rounds hs hsettled m
  have hend : ∀ n, 2 ≤ n → (round n).ending = (round 2).ending := by
    intro n hn
    by_cases h : n = 2
    · rw [h]
    · exact (hlater n (by omega)).2.1
  -- A round writes once at most, and none after the third writes at all.
  have hsum : ∀ n, ((List.range n).map (c.writes clock settings ns name first)).sum ≤ min n 3 := by
    intro n
    induction n with
    | zero => exact Nat.le_refl 0
    | succ n ih =>
      rw [List.range_succ, List.map_append, List.sum_append, List.map_singleton,
        List.sum_singleton]
      have hone := c.writes_le_one clock settings ns name first n
      by_cases h : n < 3
      · omega
      · have hzero := (hlater n (by omega)).2.2
        omega
  refine ⟨fun n => ?_, hend, fun n hn => ⟨?_, ?_⟩,
    fun hc => ⟨2, by decide, fun n hn => hc.ending_eq_done hn⟩⟩
  · have h := hsum n
    omega
  · exact List.eq_nil_of_length_eq_zero (hlater n hn).2.2
  · rw [(hlater n hn).1, hs]

theorem SteadyCluster.plain_goesAlong :
    (SteadyCluster.plain fun _ => .ok (.converged .created none)).GoesAlong where
  complete := ⟨rfl, rfl, rfl⟩
  certificate := fun _ h => by cases h
  caBundle := fun _ h => by cases h
  applied := fun _ => rfl

/-- A new instance in a cluster that goes along with everything. -/
theorem steady_rounds_settle_plain :
    let c := SteadyCluster.plain fun _ => .ok (.converged .created none)
    let round := c.round toString .default "demo" "cache" none
    (∀ n, ((List.range n).map (c.writes toString .default "demo" "cache" none)).sum ≤ 3) ∧
      ∃ k < 3, ∀ n, k ≤ n → (round n).ending = .ok .done := by
  intro c round
  have h := steady_rounds_settle c toString .default "demo" "cache" none
  exact ⟨h.1, h.2.2.2 SteadyCluster.plain_goesAlong⟩

end RedisControl
