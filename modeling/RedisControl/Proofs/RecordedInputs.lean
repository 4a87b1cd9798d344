import RedisControl.Proofs.ContentHash
import RedisControl.Proofs.WriteAhead

/-!
# What is recorded about the inputs

**Theorem (`recorded_inputs_exact`).** Over any history that starts without recorded hashes, the
record is empty or it is what one of the passes has seen: an entry for every input of the instance
as that pass read it, and the aggregate. When a pass is done, the entries are those of the inputs
that this same pass has seen.

A pass compares with the aggregate only. That the entries agree as well follows from the history:
the entries and their aggregate were recorded together, and entries with one aggregate are the
same, unless their texts collide.

* `Redis.nodup_inputNames` : no two entries share a name, whatever the instance is called.
* `History.recorded` : the invariant.
-/

namespace RedisControl

open Program Sha256

/-! ## Maps built from lists -/

namespace StringMap

variable {α : Type} {l : List (String × α)} {k : String}

theorem find?_of_mem (h : (l.map (·.1)).Nodup) {v : α} (hm : (k, v) ∈ l) : find? k l = some v := by
  induction l with
  | nil => cases hm
  | cons e l ih =>
    obtain ⟨hfresh, hnodup⟩ := List.nodup_cons.1 h
    rcases List.mem_cons.1 hm with rfl | hm
    · exact if_pos rfl
    · have hne : e.1 ≠ k := by
        intro he
        exact hfresh (List.mem_map.2 ⟨(k, v), hm, he.symm⟩)
      exact (if_neg hne).trans (ih hnodup hm)

theorem get?_ofList_of_mem (h : (l.map (·.1)).Nodup) {v : α} (hm : (k, v) ∈ l) :
    (ofList l).get? k = some v := by
  rw [get?_ofList]
  refine find?_of_mem ?_ (List.mem_reverse.2 hm)
  rw [List.map_reverse]
  exact List.pairwise_reverse.2 (h.imp Ne.symm)

theorem contains_ofList : (ofList l).contains k = true ↔ k ∈ l.map (·.1) := by
  rw [contains, get?_ofList, isSome_find?_iff, List.map_reverse, List.mem_reverse]

end StringMap

/-! ## The names of the inputs -/

namespace Redis

variable (r : Redis)

/-- The names of the inputs of an instance: the secrets, then the config maps. -/
def inputNames : List String := r.secretInputNames ++ r.configTemplates.map (·.name)

theorem secretInputNames_eq : r.secretInputNames =
    (if r.spec.tls.enabled then [InputName.certificate] else []) ++
      (if r.spec.tls.caBundle?.isSome then [InputName.caBundle] else []) := by
  rw [secretInputNames, Tls.enabled]
  cases r.spec.tls.certificate? <;> cases r.spec.tls.caBundle? <;> rfl

theorem mem_inputNames {k : String} : k ∈ r.inputNames ↔
    k = r.scriptsName ∨ k = r.configDataName ∨
      (k = InputName.certificate ∧ r.spec.tls.enabled = true) ∨
      (k = InputName.caBundle ∧ r.spec.tls.caBundle?.isSome = true) := by
  have hconfig : k ∈ r.configTemplates.map (·.name) ↔ k = r.scriptsName ∨ k = r.configDataName := by
    show k ∈ [r.scriptsName, r.configDataName] ↔ _
    rw [List.mem_cons, List.mem_singleton]
  have hsecrets : k ∈ r.secretInputNames ↔
      (k = InputName.certificate ∧ r.spec.tls.enabled = true) ∨
        (k = InputName.caBundle ∧ r.spec.tls.caBundle?.isSome = true) := by
    rw [secretInputNames_eq, List.mem_append]
    cases r.spec.tls.enabled <;> cases r.spec.tls.caBundle?.isSome <;> simp
  -- The names stand with the secrets first, and are told with the config maps first.
  rw [inputNames, List.mem_append, hconfig, hsecrets, or_comm, or_assoc]

/-- The last two characters of a name, in reverse. -/
def nameEnd (s : String) : List Char := s.toList.reverse.take 2

theorem nameEnd_scriptsName : nameEnd r.scriptsName = ['s', 't'] := by
  rw [nameEnd, scriptsName, String.toList_append, List.reverse_append]
  rfl

theorem nameEnd_configDataName : nameEnd r.configDataName = ['a', 't'] := by
  rw [nameEnd, configDataName, String.toList_append, List.reverse_append]
  rfl

/-- Names that do not end as those of config maps do can be names of secrets only. -/
theorem mem_inputNames_of_nameEnd {k : String} (hscripts : nameEnd k ≠ ['s', 't'])
    (hconfig : nameEnd k ≠ ['a', 't']) : k ∈ r.inputNames ↔
      (k = InputName.certificate ∧ r.spec.tls.enabled = true) ∨
        (k = InputName.caBundle ∧ r.spec.tls.caBundle?.isSome = true) := by
  have hs : k ≠ r.scriptsName := fun he => hscripts (he ▸ r.nameEnd_scriptsName)
  have hc : k ≠ r.configDataName := fun he => hconfig (he ▸ r.nameEnd_configDataName)
  rw [mem_inputNames]
  simp [hs, hc]

theorem certificate_mem_inputNames :
    InputName.certificate ∈ r.inputNames ↔ r.spec.tls.enabled = true := by
  have hne : InputName.certificate ≠ InputName.caBundle := by decide
  rw [r.mem_inputNames_of_nameEnd (by decide) (by decide)]
  simp [hne]

theorem caBundle_mem_inputNames :
    InputName.caBundle ∈ r.inputNames ↔ r.spec.tls.caBundle?.isSome = true := by
  have hne : InputName.caBundle ≠ InputName.certificate := by decide
  rw [r.mem_inputNames_of_nameEnd (by decide) (by decide)]
  simp [hne]

/-- All inputs have names of their own, which the aggregate does not have either: they differ in
how they end, however the instance is called. -/
theorem nodup_inputNames : (InputName.aggregate :: r.inputNames).Nodup := by
  -- Only the ends are compared, as the names of config maps depend on the instance.
  have hends : ((InputName.aggregate :: r.inputNames).map nameEnd).Nodup := by
    show (nameEnd InputName.aggregate :: (r.secretInputNames ++
      [r.scriptsName, r.configDataName]).map nameEnd).Nodup
    rw [List.map_append, List.map_cons, List.map_cons, nameEnd_scriptsName, nameEnd_configDataName,
      secretInputNames_eq]
    cases r.spec.tls.enabled <;> cases r.spec.tls.caBundle?.isSome <;> decide
  exact List.Pairwise.of_map nameEnd (fun _ _ hne he => hne (congrArg nameEnd he)) hends

end Redis

/-! ## What one pass records -/

/-- What is recorded of inputs: every entry, and the aggregate beside them. -/
def InputHashes.recorded (m : InputHashes) : StringMap String :=
  m.byName.insert InputName.aggregate m.aggregate

theorem InputHashes.compare_eq_some {inputs : InputHashes} {recorded updated : StringMap String}
    (h : inputs.compare recorded inputs.aggregate = some updated) : updated = inputs.recorded := by
  rw [compare] at h
  split at h
  · cases h
  · exact (Option.some.inj h).symm

/-- The pass has recorded the inputs of the instance: all of them, as it has seen them, each under
its own name, and nothing else. -/
structure PassRecord.Records (p : PassRecord) (r : Redis) (m : InputHashes) : Prop where
  read : Trace.redises p.trace = [r]
  wrote : p.wrote = true
  complete : Trace.HasInputs r p.trace
  names : ∀ k, m.byName.contains k = true ↔ k = r.scriptsName ∨ k = r.configDataName ∨
    (k = InputName.certificate ∧ r.spec.tls.enabled = true) ∨
    (k = InputName.caBundle ∧ r.spec.tls.caBundle?.isSome = true)
  free : m.byName.contains InputName.aggregate = false
  seen : m = Trace.inputs r p.trace
  kept : ∀ e ∈ Trace.secretInputs r p.trace ++ Trace.configInputs p.trace,
    m.recorded.get? e.1 = some e.2

namespace Trace

variable {r : Redis} {t : Trace}

theorem HasInputs.names_eq (h : HasInputs r t) :
    (secretInputs r t ++ configInputs t).map (·.1) = r.inputNames := by
  have hl : r.secretInputNames.length ≤ ((secrets t).map Secret.dataHash).length :=
    Nat.le_of_eq (by rw [List.length_map, h.1])
  rw [List.map_append, h.2, secretInputs, List.map_fst_zip hl]
  rfl

theorem HasInputs.contains_inputs (h : HasInputs r t) {k : String} :
    (inputs r t).byName.contains k = true ↔ k ∈ r.inputNames := by
  rw [inputs, InputHashes.ofList, StringMap.contains_ofList, h.names_eq]

theorem HasInputs.get?_recorded (h : HasInputs r t) {e : String × String}
    (he : e ∈ secretInputs r t ++ configInputs t) :
    (inputs r t).recorded.get? e.1 = some e.2 := by
  obtain ⟨hfree, hnodup⟩ := List.nodup_cons.1 r.nodup_inputNames
  rw [← h.names_eq] at hfree hnodup
  have hne : InputName.aggregate ≠ e.1 := fun heq => hfree (heq ▸ List.mem_map_of_mem he)
  rw [InputHashes.recorded, StringMap.get?_insert, if_neg hne]
  exact StringMap.get?_ofList_of_mem hnodup he

end Trace

theorem PassRecord.records_of_hasInputs {p : PassRecord} {r : Redis}
    (read : Trace.redises p.trace = [r]) (wrote : p.wrote = true)
    (complete : Trace.HasInputs r p.trace) : p.Records r (Trace.inputs r p.trace) where
  read := read
  wrote := wrote
  complete := complete
  names := fun _ => complete.contains_inputs.trans r.mem_inputNames
  free := by
    rw [← Bool.not_eq_true, complete.contains_inputs]
    exact (List.nodup_cons.1 r.nodup_inputNames).1
  seen := rfl
  kept := fun _ he => complete.get?_recorded he

/-- The recorded hashes of a stored status, none where there is no status. -/
def hashOf (stored : Option Status) : StringMap String := (stored.getD .empty).hash

/-- The steps of a pass leave the record as it is, unless they have seen all inputs. -/
theorem ConvergeRun.hash_eq_or {settings : Settings} {r : Redis} {s s' : Status} {events : Trace}
    {e : Ending} (h : ConvergeRun settings r s events s' e) :
    s'.hash = s.hash ∨
      (Trace.HasInputs r events ∧ s'.hash = (Trace.inputs r events).recorded) := by
  cases h with
  | filled _ _ | unowned _ _ => exact Or.inl rfl
  | worked _ course _ =>
    cases course with
    | stopped _ | services _ _ _ | workload _ _ _ => exact Or.inl rfl
    | recorded gathered differs =>
      obtain ⟨rfl, hall⟩ := gathered.inputs_eq
      exact Or.inr ⟨hall, InputHashes.compare_eq_some differs⟩

theorem PassRecord.Kept.hash_eq_or {p : PassRecord} {r : Redis} {s : Status} {e : Ending}
    (h : p.Kept r s e) :
    hashOf p.storedAfter = hashOf p.stored ∨
      (p.wrote = true ∧ hashOf p.storedAfter = s.hash) := by
  cases h with
  | unchanged _ after _ _ _ | failed after _ _ _ => exact Or.inl (congrArg hashOf after)
  | written _ after wrote _ _ => exact Or.inr ⟨wrote, congrArg hashOf after⟩

theorem hash_statusOrEmpty {r : Redis} {stored : Option Status} (h : r.status = stored) :
    r.statusOrEmpty.hash = hashOf stored := by
  rw [Redis.statusOrEmpty, h]
  rfl

/-- A pass leaves the stored record as it is, or it records what it has seen. -/
theorem PassRecord.IsPass.hash_eq_or {ns name : String} {p : PassRecord} (h : p.IsPass ns name) :
    hashOf p.storedAfter = hashOf p.stored ∨
      ∃ r m, p.Records r m ∧ hashOf p.storedAfter = m.recorded := by
  cases h.did with
  | nothing _ _ writes _ =>
    left
    rw [storedAfter, writes]
    rfl
  | @work r s e events redises stored steps finalized exchange =>
    rcases finalized.kept.hash_eq_or with hkept | ⟨wrote, hafter⟩
    · exact Or.inl hkept
    · rw [hafter, ← hash_statusOrEmpty stored]
      rcases steps.hash_eq_or with hsteps | ⟨hall, hrecorded⟩
      · exact Or.inl hsteps
      · refine Or.inr ⟨r, _, records_of_hasInputs redises wrote
          (Trace.hasInputs_of_exchange exchange hall), ?_⟩
        rw [hrecorded, Trace.inputs_of_exchange exchange]

/-! ## What a pass that is done agrees with -/

theorem WorkCourse.agrees_of_done {settings : Settings} {r : Redis} {w : Owned r}
    {recorded hash : StringMap String} {events : Trace} {ms : List Mark} {x : Progress Outcome}
    (h : WorkCourse settings w recorded events ms hash x) (hx : x.ending = .ok .done) :
    hash = recorded ∧ Trace.HasInputs r events ∧
      recorded.get? InputName.aggregate = some (Trace.inputs r events).aggregate := by
  obtain ⟨o, a, ho, hk⟩ := h.exists_workload hx
  obtain ⟨-, hagrees, hall⟩ := h.inputHash_of_mem ho hk
  refine ⟨?_, hall, hagrees⟩
  -- Had it recorded other hashes, no workload would have been applied.
  by_cases hne : hash = recorded
  · exact hne
  · have hnone := h.answers_of_hash_ne hne (k := .statefulSet) (by decide)
    exact absurd hk (Trace.kind_ne_of_answers hnone ho)

/-- A pass that is done has seen inputs that agree with the record, which it leaves as it is. -/
theorem PassRecord.IsPass.agrees_of_done {ns name : String} {p : PassRecord}
    (h : p.IsPass ns name) (hdone : p.ending = .ok .done) :
    ∃ r, Trace.redises p.trace = [r] ∧ Trace.HasInputs r p.trace ∧
      (hashOf p.stored).get? InputName.aggregate = some (Trace.inputs r p.trace).aggregate ∧
      hashOf p.storedAfter = hashOf p.stored := by
  cases h.did with
  | nothing _ _ _ ending =>
    rw [hdone] at ending
    rcases ending with h | ⟨e, h⟩ <;> cases h
  | @work r s e events redises stored steps finalized exchange =>
    have he : e = .ok .done := finalized.kept.ending_eq_done hdone
    cases steps with
    | filled _ _ | unowned _ _ => cases he
    | worked _ course _ =>
      obtain ⟨rfl, hall, hagrees⟩ := course.agrees_of_done he
      rw [hash_statusOrEmpty stored] at hagrees
      refine ⟨r, redises, Trace.hasInputs_of_exchange exchange hall, ?_, ?_⟩
      · rw [hagrees, Trace.inputs_of_exchange exchange]
      · rcases finalized.kept.hash_eq_or with hkept | ⟨-, hafter⟩
        · exact hkept
        · exact hafter.trans (hash_statusOrEmpty stored)

/-! ## Every moment of a history -/

/-- What the passes of a history so far have recorded: nothing, or what one of them has seen. -/
def Recorded (ps : List PassRecord) (hash : StringMap String) : Prop :=
  hash = .empty ∨ ∃ p ∈ ps, ∃ r m, p.Records r m ∧ hash = m.recorded

theorem Recorded.mono {ps qs : List PassRecord} {hash : StringMap String} (h : Recorded ps hash)
    (hsub : ∀ p ∈ ps, p ∈ qs) : Recorded qs hash := by
  rcases h with h | ⟨p, hp, h⟩
  · exact Or.inl h
  · exact Or.inr ⟨p, hsub p hp, h⟩

/-- The invariant of a history that starts without recorded hashes. -/
theorem History.recorded {ns name : String} {first last : Option Status} {ps : List PassRecord}
    (h : History ns name first ps last) (hfirst : hashOf first = .empty) :
    Recorded ps (hashOf last) := by
  induction h with
  | nil => exact Or.inl hfirst
  | @snoc ps p _ isPass ih =>
    -- The last pass left the record alone, or recorded what it has seen itself.
    rcases isPass.hash_eq_or with hkept | ⟨r, m, hrecords, hafter⟩
    · rw [hkept]
      exact ih.mono fun q hq => List.mem_append_left _ hq
    · exact Or.inr ⟨p, List.mem_append_right _ (List.mem_singleton_self p), r, m, hrecords, hafter⟩

/-- Before each of its passes a history was a history. -/
theorem History.before_of_mem {ns name : String} {first last : Option Status}
    {ps : List PassRecord} (h : History ns name first ps last) {p : PassRecord} (hp : p ∈ ps) :
    ∃ qs, (∀ q ∈ qs, q ∈ ps) ∧ History ns name first qs p.stored := by
  induction h with
  | nil => cases hp
  | @snoc ps q before _ ih =>
    rcases List.mem_append.1 hp with hp | hp
    · obtain ⟨qs, hsub, hqs⟩ := ih hp
      exact ⟨qs, fun q' hq' => List.mem_append_left _ (hsub q' hq'), hqs⟩
    · rw [List.mem_singleton.1 hp]
      exact ⟨ps, fun q' hq' => List.mem_append_left _ hq', before⟩

/-- **What is recorded about the inputs is exact.** At the end of a history that starts without
recorded hashes, and so at every moment of one, what is recorded is nothing, or what one of the
passes has seen. When a pass is done, what is recorded are the inputs that it has itself seen, or
two texts that differ have one digest. -/
theorem recorded_inputs_exact {ns name : String} {first last : Option Status}
    {ps : List PassRecord} (h : History ns name first ps last)
    (hfirst : (first.getD .empty).hash = .empty) :
    ((last.getD .empty).hash = .empty ∨
      ∃ p ∈ ps, ∃ r m, p.Records r m ∧ (last.getD .empty).hash = m.recorded) ∧
    ∀ p ∈ ps, p.ending = .ok .done →
      ∃ r m, Trace.redises p.trace = [r] ∧ Trace.HasInputs r p.trace ∧
        (∃ q ∈ ps, ∃ r', q.Records r' m) ∧
        (p.stored.getD .empty).hash = m.recorded ∧
        (p.storedAfter.getD .empty).hash = m.recorded ∧
        (m = Trace.inputs r p.trace ∨
          Collision (Json.ofStrings m.byName).bytes
            (Json.ofStrings (Trace.inputs r p.trace).byName).bytes) := by
  refine ⟨h.recorded hfirst, ?_⟩
  intro p hp hdone
  obtain ⟨qs, hsub, hbefore⟩ := h.before_of_mem hp
  obtain ⟨r, hread, hall, hagrees, hafter⟩ := (h.isPass_of_mem hp).agrees_of_done hdone
  rcases (hbefore.recorded hfirst).mono hsub with hempty | ⟨q, hq, r', m, hrecords, hstored⟩
  · rw [hempty] at hagrees
    cases hagrees
  · rw [hstored, InputHashes.recorded, StringMap.get?_insert, if_pos rfl] at hagrees
    exact ⟨r, m, hread, hall, ⟨q, hq, r', hrecords⟩, hstored, hafter.trans hstored,
      InputHashes.aggregate_eq (Option.some.inj hagrees)⟩

/-- Three passes over a new instance in a cluster that goes along with everything. -/
theorem recorded_inputs_exact_plain :
    let c := SteadyCluster.plain fun _ => .ok (.converged .created none)
    let round := c.round toString .default "demo" "cache" none
    ∃ q ∈ (List.range 3).map round, ∃ r m, q.Records r m ∧
      ((round 2).stored.getD .empty).hash = m.recorded ∧
      ((round 3).stored.getD .empty).hash = m.recorded := by
  intro c round
  have hdone : (round 2).ending = .ok .done :=
    SteadyCluster.plain_goesAlong.ending_eq_done (Nat.le_refl 2)
  have hmem : round 2 ∈ (List.range 3).map round :=
    List.mem_map_of_mem (List.mem_range.2 (by decide))
  obtain ⟨_, m, -, -, ⟨q, hq, r, hrecords⟩, hbefore, hafter, -⟩ :=
    (recorded_inputs_exact (SteadyCluster.history_rounds 3) rfl).2 (round 2) hmem hdone
  rw [← SteadyCluster.stored_succ] at hafter
  exact ⟨q, hq, r, m, hrecords, hbefore, hafter⟩

end RedisControl
