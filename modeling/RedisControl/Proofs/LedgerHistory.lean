import RedisControl.Proofs.SteadyCluster
import RedisControl.Proofs.Verdicts

/-!
# The ledger over a history

**Theorem (`ledger_shows_last_verdicts`).** Start from an instance without a status. Once a status
has been written, the stored ledger holds the eight declared types, each once and in the declared
order, and shows for every goal but `ready` the last verdict of a pass whose write did not fail.

The proof is an induction over the history with the invariant `Tracks`:

* while nothing is stored, no pass has decided anything, because a pass over an empty ledger only
  fills it, and
* once something is stored, types and verdicts are as the theorem says.

A pass over a ledger with entries keeps its types, since all types of its marks are there, and its
marks are what its answers imply. Deriving `Ready` touches no other entry.
-/

namespace RedisControl

/-- The verdict of a pass on a goal, if it decided it. -/
def PassRecord.verdict (p : PassRecord) (g : Goal) : Option Truth :=
  (Trace.redises p.trace).head?.bind fun r => Trace.verdict r p.trace g

/-- The verdict of the most recent pass that decided a goal, among those whose write did not fail;
unknown if there is none. -/
def lastVerdict (g : Goal) (ps : List PassRecord) : Truth :=
  ((ps.filter fun p => !p.writeFailed).filterMap fun p => p.verdict g).getLast?.getD .unknown

/-! ## One pass -/

theorem Ledger.status?_enterAll {times : List Time} {ms : List Mark}
    (h : times.length = ms.length) (hdiff : (ms.map (·.goal)).Nodup) (l : Ledger) (g : Goal) :
    (l.enterAll (times.zip ms)).status? g.type = (Mark.decided ms g).or (l.status? g.type) := by
  cases hfind : ms.find? fun m => m.goal == g with
  | none =>
    have hmem : g ∉ (times.zip ms).map (·.2.goal) := by
      rw [goals_zip h]
      intro hmem
      obtain ⟨m, hm, rfl⟩ := List.mem_map.1 hmem
      exact List.find?_eq_none.1 hfind m hm (beq_self_eq_true m.goal)
    rw [status?, get?_enterAll_of_not_mem hmem, Mark.decided, hfind]
    rfl
  | some m =>
    obtain rfl : m.goal = g := by simpa using List.find?_some hfind
    have hm : m ∈ (times.zip ms).map (·.2) := by
      rw [marks_zip h]
      exact List.mem_of_find?_eq_some hfind
    obtain ⟨time, hshow⟩ := shows_enterAll (by rw [goals_zip h]; exact hdiff) hm l
    rw [status?, hshow, Mark.decided, hfind]
    rfl

namespace ConvergeRun

variable {settings : Settings} {r : Redis} {s s' : Status} {events : Trace} {e : Ending}

/-- Over a ledger with entries, a pass enters its verdicts. -/
theorem status?_eq (h : ConvergeRun settings r s events s' e) (hs : s.conditions.isEmpty = false)
    (g : Goal) :
    s'.conditions.status? g.type =
      (Trace.verdict r events g).or (s.conditions.status? g.type) := by
  cases h with
  | filled empty _ =>
    rw [hs] at empty
    cases empty
  | unowned _ _ => rw [Trace.verdict_eq_none fun _ _ => rfl, Option.none_or]
  | worked _ course length =>
    rw [← course.decided_eq_verdict g]
    exact Ledger.status?_enterAll length course.nodup_goals s.conditions g

theorem types_eq (h : ConvergeRun settings r s events s' e)
    (hs : s.conditions.types = Goal.all.map Goal.type) :
    s'.conditions.types = Goal.all.map Goal.type := by
  cases h with
  | filled _ length => exact Ledger.types_initial length
  | unowned _ _ => exact hs
  | @worked _ _ ms _ _ times _ course length =>
    refine (Ledger.types_enterAll fun m _ => ?_).trans hs
    rw [hs]
    exact List.mem_map_of_mem m.goal.mem_all

end ConvergeRun

theorem Ledger.isEmpty_of_types {l : Ledger} (h : l.types = Goal.all.map Goal.type) :
    l.isEmpty = false := by
  obtain ⟨_ | ⟨c, cs⟩⟩ := l
  · cases h
  · rfl

/-! ## One more pass -/

theorem PassRecord.verdict_of_exchange {ns name : String} {p : PassRecord} {r : Redis}
    {events : Trace} {writes : List (Redis × Except ControlError Unit)}
    (hr : Trace.redises p.trace = [r])
    (h : Trace.exchange p.trace =
      ⟨.getRedis ns name, .ok (some r)⟩ :: (events ++ writes.map writeEvent)) (g : Goal) :
    p.verdict g = Trace.verdict r events g := by
  have happlied : ∀ k, Trace.answers k p.trace = Trace.answers k events := by
    intro k
    rw [Trace.answers, Trace.applicationsOf, Trace.applications_of_exchange h]
    rfl
  rw [verdict, hr]
  exact Trace.verdict_congr (fun k _ => happlied k) fun _ => Trace.secretAnswers_of_exchange h

theorem lastVerdict_snoc (g : Goal) (ps : List PassRecord) (p : PassRecord) :
    lastVerdict g (ps ++ [p]) =
      if p.writeFailed then lastVerdict g ps else (p.verdict g).getD (lastVerdict g ps) := by
  unfold lastVerdict
  rw [List.filter_append, List.filterMap_append]
  by_cases hf : p.writeFailed
  · simp [hf]
  · cases hv : p.verdict g with
    | none => simp [hf, hv]
    | some v => simp [hf, hv]

theorem lastVerdict_eq_unknown {g : Goal} {ps : List PassRecord}
    (h : ∀ p ∈ ps, p.verdict g = none) : lastVerdict g ps = .unknown := by
  have hnil : ((ps.filter fun p => !p.writeFailed).filterMap fun p => p.verdict g) = [] :=
    List.filterMap_eq_nil_iff.2 fun p hp => h p (List.mem_filter.1 hp).1
  rw [lastVerdict, hnil]
  rfl

theorem Status.types_finished {s : Status} (h : s.conditions.types = Goal.all.map Goal.type)
    (now : Time) : (s.finished now).conditions.types = Goal.all.map Goal.type := by
  have hready : Goal.ready.type ∈ s.conditions.types := by
    rw [h]
    exact List.mem_map_of_mem Goal.ready.mem_all
  exact (Ledger.types_recomputeReady hready now).trans h

theorem Status.status?_finished {g : Goal} (hg : g ≠ .ready) (s : Status) (now : Time) :
    (s.finished now).conditions.status? g.type = s.conditions.status? g.type := by
  have hget := Ledger.get?_recomputeReady_of_ne (fun he => hg (Goal.type_injective he))
    s.conditions now
  rw [Ledger.status?, Status.finished, hget]
  rfl

/-- The invariant of a history that starts without a status. -/
def Tracks (ps : List PassRecord) : Option Status → Prop
  | none => ∀ p ∈ ps, p.wrote = false ∧ ∀ g, p.verdict g = none
  | some s => s.conditions.types = Goal.all.map Goal.type ∧
      ∀ g ≠ .ready, s.conditions.status? g.type = some (lastVerdict g ps)

/-- What the steps of one more pass make of the ledger. -/
theorem Tracks.finished {ps : List PassRecord} {p : PassRecord} {r : Redis} {s : Status}
    {events : Trace} {e : Ending} (h : Tracks ps p.stored) (stored : r.status = p.stored)
    (steps : ConvergeRun p.settings r r.statusOrEmpty events s e)
    (hverdict : ∀ g, p.verdict g = Trace.verdict r events g) (now : Time) :
    (s.finished now).conditions.types = Goal.all.map Goal.type ∧
      ∀ g ≠ .ready, (s.finished now).conditions.status? g.type =
        some ((p.verdict g).getD (lastVerdict g ps)) := by
  rw [Redis.statusOrEmpty, stored] at steps
  cases hst : p.stored with
  | none =>
    rw [hst] at h steps
    cases steps with
    -- The first pass with a write: it decides nothing, and the goals it fills in are unknown.
    | filled _ length =>
      refine ⟨Status.types_finished (Ledger.types_initial length) now, ?_⟩
      intro g hg
      have hnone : p.verdict g = none := by
        rw [hverdict, Trace.verdict_eq_none fun _ _ => rfl]
      rw [Status.status?_finished hg, hnone, lastVerdict_eq_unknown fun q hq => (h q hq).2 g]
      exact Ledger.status?_initial length g
    | unowned nonempty _ | worked nonempty _ _ => cases nonempty
  | some st =>
    rw [hst] at h steps
    obtain ⟨htypes, hstatus⟩ := h
    refine ⟨Status.types_finished (steps.types_eq htypes) now, ?_⟩
    intro g hg
    rw [Status.status?_finished hg, steps.status?_eq (Ledger.isEmpty_of_types htypes) g]
    show (Trace.verdict r events g).or (st.conditions.status? g.type) = _
    rw [hstatus g hg, hverdict]
    cases Trace.verdict r events g <;> rfl

/-- A pass that leaves what is stored as it is and decides nothing. -/
theorem Tracks.idle {ps : List PassRecord} {p : PassRecord} (h : Tracks ps p.stored)
    (hwrote : p.wrote = false) (hnone : ∀ g, p.verdict g = none) :
    Tracks (ps ++ [p]) p.stored := by
  cases hst : p.stored with
  | none =>
    rw [hst] at h
    intro q hq
    rcases List.mem_append.1 hq with hq | hq
    · exact h q hq
    · rw [List.mem_singleton.1 hq]
      exact ⟨hwrote, hnone⟩
  | some st =>
    rw [hst] at h
    refine ⟨h.1, ?_⟩
    intro g hg
    rw [h.2 g hg, lastVerdict_snoc, hnone g, Option.getD_none, ite_self]

/-- A pass that could not write counts for nothing. -/
theorem Tracks.failed {ps : List PassRecord} {p : PassRecord} {st : Status}
    (h : Tracks ps (some st)) (hfailed : p.writeFailed = true) :
    Tracks (ps ++ [p]) (some st) := by
  refine ⟨h.1, ?_⟩
  intro g hg
  rw [lastVerdict_snoc, hfailed, if_pos rfl]
  exact h.2 g hg

theorem Tracks.snoc {ns name : String} {ps : List PassRecord} {p : PassRecord}
    (h : Tracks ps p.stored) (hp : p.IsPass ns name) : Tracks (ps ++ [p]) p.storedAfter := by
  -- By what the pass did, and where it has worked, by what became of its write.
  cases hp.did with
  | nothing redises _ writes _ =>
    have hstored : p.storedAfter = p.stored := by
      rw [PassRecord.storedAfter, writes]
      rfl
    rw [hstored]
    refine h.idle ?_ ?_
    · rw [PassRecord.wrote, writes]
      rfl
    · intro g
      rw [PassRecord.verdict, redises]
      rfl
  | @work r s e events redises stored steps finalized exchange =>
    have hverdict := PassRecord.verdict_of_exchange redises exchange
    -- If the ledger that the steps left is stored, written or not, the pass counts.
    have hentered : p.writeFailed = false → ∀ now, Tracks (ps ++ [p]) (some (s.finished now)) := by
      intro hwritten now
      have hfinished := Tracks.finished h stored steps hverdict now
      refine ⟨hfinished.1, ?_⟩
      intro g hg
      rw [lastVerdict_snoc, hwritten, if_neg Bool.false_ne_true]
      exact hfinished.2 g hg
    cases finalized.kept with
    | @unchanged now same after _ writeFailed _ =>
      rw [after]
      cases hst : p.stored with
      | none =>
        -- Without a status there is something to write, as no ledger is left without entries.
        have hne := Status.finished_ne_empty steps.isEmpty_eq_false now
        rw [Redis.statusOrEmpty, stored, hst] at same
        exact absurd same hne
      | some st =>
        have hr : s.finished now = st := by
          rw [same, Redis.statusOrEmpty, stored, hst, Option.getD_some]
        rw [← hr]
        exact hentered writeFailed now
    | @written now _ after _ writeFailed _ =>
      rw [after]
      exact hentered writeFailed now
    | failed after wrote writeFailed _ =>
      rw [after]
      cases hst : p.stored with
      | none =>
        -- The first pass only fills its ledger, so its write may fail without a verdict being lost.
        rw [← hst]
        refine h.idle wrote ?_
        intro g
        rw [hverdict, steps.events_of_none (stored.trans hst)]
        exact Trace.verdict_eq_none fun _ _ => rfl
      | some st =>
        rw [hst] at h
        exact h.failed writeFailed

theorem History.tracks {ns name : String} {ps : List PassRecord} {last : Option Status}
    (h : History ns name none ps last) : Tracks ps last := by
  induction h with
  | nil =>
    intro p hp
    cases hp
  | snoc _ isPass ih => exact ih.snoc isPass

/-! ## The theorem -/

/-- **The ledger shows the last verdicts.** Whatever happens over a history that starts without a
status: from the first successful write on, the stored ledger holds exactly the declared types, in
their order, and the status of every goal but `ready` is its last verdict. -/
theorem ledger_shows_last_verdicts {ns name : String} {ps : List PassRecord} {last : Option Status}
    (h : History ns name none ps last) (hwrote : ∃ p ∈ ps, p.wrote) :
    ∃ s, last = some s ∧ s.conditions.types = Goal.all.map Goal.type ∧
      ∀ g ≠ .ready, s.conditions.status? g.type = some (lastVerdict g ps) := by
  have htracks := h.tracks
  cases last with
  | none =>
    obtain ⟨p, hp, hwrote⟩ := hwrote
    rw [(htracks p hp).1] at hwrote
    cases hwrote
  | some s => exact ⟨s, rfl, htracks⟩

/-- Two passes over a new instance in a cluster that refuses everything. -/
theorem ledger_shows_last_verdicts_refused :
    let c := SteadyCluster.plain fun _ => .error (.missingKey "permission")
    let round := c.round (fun _ => "now") .default "demo" "cache" none
    ∃ s, (round 2).stored = some s ∧ s.conditions.types = Goal.all.map Goal.type ∧
      s.conditions.status? "ServiceAccountReady" = some .false ∧
      s.conditions.status? "RoleReady" = some .unknown := by
  intro c round
  have hwrote : (round 0).wrote = true := by decide +kernel
  obtain ⟨s, hs, htypes, hstatus⟩ :=
    ledger_shows_last_verdicts (SteadyCluster.history_rounds 2) ⟨round 0, List.mem_cons_self, hwrote⟩
  refine ⟨s, hs, htypes, ?_, ?_⟩
  · rw [show "ServiceAccountReady" = Goal.serviceAccount.type from rfl, hstatus _ (by decide)]
    decide +kernel
  · rw [show "RoleReady" = Goal.role.type from rfl, hstatus _ (by decide)]
    decide +kernel

end RedisControl
