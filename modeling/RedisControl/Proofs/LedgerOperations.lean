import Mathlib.Data.List.Induction
import RedisControl.Proofs.Marks

/-!
# What any sequence of operations makes of a ledger

A ledger starts empty and is changed by five operations: it is filled, a condition is entered, a
type is marked true or false, and `Ready` is derived. Nothing is assumed of the conditions, of
their types and of the clock.

**Theorem (`ledger_after`).** After any sequence of operations the types are distinct. One more
operation only appends types, at most one unless it fills an empty ledger; filling does nothing to
any other ledger and leaves every entry unknown and without severity. Every entry has a transition
time: the reading of the clock at the last operation that changed its status, or if none did, the
time that its first condition came with or was stamped with.

The time of an entry is a statement on the whole sequence, and operations treat times in four
ways. An entry of a new type keeps the time it came with or is stamped; an entry whose status
changes is stamped whatever it came with; and an entry whose status stays keeps the old time. One
operation on one type is told by `Operation.Dates`, in which these cases are apart, and the
sequence is followed from its end with it. Filling an empty ledger may enter a type several times.
All of it happens in one operation and with one status, so the first item of the type decides.

* `Operation.perform_cases` : an operation does nothing, fills the empty ledger or enters one
  condition.
* `Operation.dates_perform` : the time of an entry after one operation.
* `exists_lastChange` : the time of an entry after a sequence of operations.
-/

namespace RedisControl.Ledger

/-! ## Operations -/

/-- What is done to a ledger, with the readings of the clock. An item that the ledger is filled
with has the reading at which it is entered. -/
inductive Operation
  | init (initial : List (Time × Condition))
  | set (now : Time) (c : Condition)
  | markTrue (now : Time) (type message : String)
  | markFalse (now : Time) (type reason : String) (severity : Severity) (message : String)
  | recomputeReady (now : Time)

namespace Operation

def perform : Operation → Ledger → Ledger
  | .init initial => Ledger.init initial
  | .set now c => Ledger.set now c
  | .markTrue now type message => Ledger.markTrue now type message
  | .markFalse now type reason severity message =>
    Ledger.markFalse now type reason severity message
  | .recomputeReady now => Ledger.recomputeReady now

/-- The reading of the clock, for operations that may change the status of an entry. -/
def clock? : Operation → Option Time
  | .init _ => none
  | .set now _ | .markTrue now _ _ | .markFalse now _ _ _ _ | .recomputeReady now => some now

/-- The time that an entry of a new type is inserted with: the time that its condition came with,
and if there is none, the reading of the clock. -/
def insertionTime? (type : String) : Operation → Option Time
  | .init initial =>
    (initial.find? fun e => e.2.type == type).map fun e => e.2.lastTransitionTime.getD e.1
  | .set now c => if c.type = type then some (c.lastTransitionTime.getD now) else none
  | .markTrue now marked _ | .markFalse now marked _ _ _ =>
    if marked = type then some now else none
  | .recomputeReady now => if Goal.ready.type = type then some now else none

end Operation

/-- The ledger after a sequence of operations on the empty one. -/
def after (ops : List Operation) : Ledger := ops.foldl (fun l op => op.perform l) .empty

theorem after_concat (ops : List Operation) (op : Operation) :
    after (ops ++ [op]) = op.perform (after ops) := List.foldl_append

/-! ## Filling the empty ledger -/

/-- A condition as the empty ledger is filled with it. -/
def asUnknown (c : Condition) : Condition := { c with status := .unknown, severity := none }

theorem type_asUnknown (c : Condition) : (asUnknown c).type = c.type := rfl

/-- Enter the items of a list as unknown. -/
def fill (initial : List (Time × Condition)) : Ledger :=
  initial.foldl (fun l e => l.set e.1 (asUnknown e.2)) .empty

theorem fill_concat (initial : List (Time × Condition)) (e : Time × Condition) :
    fill (initial ++ [e]) = (fill initial).set e.1 (asUnknown e.2) := List.foldl_append

theorem unknown_of_mem_fill {initial : List (Time × Condition)} {c : Condition}
    (h : c ∈ (fill initial).entries) : c.status = .unknown ∧ c.severity = none := by
  induction initial using List.reverseRecOn generalizing c with
  | nil => cases h
  | append_singleton initial e ih =>
    rw [fill_concat] at h
    rcases mem_setEntry h with h | ⟨before, rfl⟩
    · exact ih h
    · cases before <;> exact ⟨rfl, rfl⟩

/-- The types stand in the order in which they first occur. -/
theorem types_fill (initial : List (Time × Condition)) :
    (fill initial).types = (initial.map (·.2.type)).eraseDups := by
  induction initial using List.reverseRecOn with
  | nil => rfl
  | append_singleton initial e ih =>
    rw [fill_concat, types_set, ih, List.map_append, List.eraseDups_append, type_asUnknown]
    by_cases hmem : e.2.type ∈ initial.map (·.2.type)
    · rw [if_pos (List.mem_eraseDups.2 hmem)]
      simp [List.removeAll, hmem]
    · rw [if_neg fun h => hmem (List.mem_eraseDups.1 h)]
      simp [List.removeAll, hmem, List.eraseDups_cons]

theorem nodup_types_fill (initial : List (Time × Condition)) : (fill initial).types.Nodup := by
  induction initial using List.reverseRecOn with
  | nil => exact .nil
  | append_singleton initial e ih =>
    rw [fill_concat]
    exact nodup_types_set _ ih

theorem insertionTime?_init_append {initial : List (Time × Condition)} {type : String} {τ : Time}
    (h : (Operation.init initial).insertionTime? type = some τ)
    (more : List (Time × Condition)) :
    (Operation.init (initial ++ more)).insertionTime? type = some τ := by
  obtain ⟨e, hfind, hτ⟩ := Option.map_eq_some_iff.1 h
  rw [Operation.insertionTime?, List.find?_append, hfind, Option.some_or, Option.map_some, hτ]

/-- An entry that the empty ledger is filled with has the time of the first item of its type. -/
theorem lastTransitionTime_of_get?_fill {initial : List (Time × Condition)} {type : String}
    {c : Condition} (h : (fill initial).get? type = some c) :
    ∃ τ, (Operation.init initial).insertionTime? type = some τ ∧ c.lastTransitionTime = some τ := by
  induction initial using List.reverseRecOn generalizing c with
  | nil => cases h
  | append_singleton initial e ih =>
    rw [fill_concat] at h
    -- The last item enters its type anew, finds it with the same status, or is about another type.
    by_cases htype : type = e.2.type
    · subst htype
      rw [← type_asUnknown e.2, get?_set_self] at h
      obtain rfl := Option.some.inj h
      cases hold : (fill initial).get? (asUnknown e.2).type with
      | none =>
        refine ⟨e.2.lastTransitionTime.getD e.1, ?_, Condition.lastTransitionTime_fresh ..⟩
        have hnew : initial.find? (fun d => d.2.type == e.2.type) = none := by
          refine List.find?_eq_none.2 fun d hd heq => ?_
          have hmem : e.2.type ∈ (fill initial).types := by
            rw [types_fill, List.mem_eraseDups]
            exact List.mem_map.2 ⟨d, hd, beq_iff_eq.1 heq⟩
          exact absurd hold (Option.isSome_iff_ne_none.1 (isSome_get?_iff.2 hmem))
        have hfirst : [e].find? (fun d => d.2.type == e.2.type) = some e :=
          List.find?_cons_of_pos (beq_self_eq_true _)
        rw [Operation.insertionTime?, List.find?_append, hnew, Option.none_or, hfirst,
          Option.map_some]
      | some old =>
        obtain ⟨τ, hτ, htime⟩ := ih hold
        have hstatus : old.status = (asUnknown e.2).status :=
          (unknown_of_mem_fill (mem_of_get? hold).1).1
        refine ⟨τ, insertionTime?_init_append hτ _, ?_⟩
        rw [Condition.lastTransitionTime_entered_of_eq hstatus, htime]
    · rw [get?_set_of_ne (by exact htype)] at h
      obtain ⟨τ, hτ, hc⟩ := ih h
      exact ⟨τ, insertionTime?_init_append hτ _, hc⟩

/-! ## One operation -/

/-- What an operation does to a ledger: nothing, fill it, or enter one condition. -/
inductive Operation.Course (op : Operation) (l : Ledger) : Ledger → Prop
  | idle : op.Course l l
  | filled (initial : List (Time × Condition)) (init : op = .init initial)
      (empty : l.isEmpty = true) : op.Course l (fill initial)
  | entered {now : Time} {c : Condition} (clock : op.clock? = some now)
      (inserted : op.insertionTime? c.type = some (c.lastTransitionTime.getD now)) :
      op.Course l (l.set now c)

theorem eq_empty_of_isEmpty {l : Ledger} (h : l.isEmpty = true) : l = .empty :=
  congrArg mk (List.isEmpty_iff.1 h)

namespace Operation

variable {op : Operation} {l : Ledger} {type : String} {c : Condition}

theorem perform_init_of_isEmpty (h : l.isEmpty = true) (initial : List (Time × Condition)) :
    (Operation.init initial).perform l = fill initial := by
  rw [eq_empty_of_isEmpty h]
  rfl

theorem perform_init_of_not_isEmpty (h : l.isEmpty = false) (initial : List (Time × Condition)) :
    (Operation.init initial).perform l = l :=
  if_neg (by rw [h]; exact Bool.false_ne_true)

theorem perform_cases (op : Operation) (l : Ledger) : op.Course l (op.perform l) := by
  cases op with
  | init initial =>
    cases h : l.isEmpty with
    | true =>
      rw [perform_init_of_isEmpty h]
      exact .filled initial rfl h
    | false =>
      rw [perform_init_of_not_isEmpty h]
      exact .idle
  | set now c => exact .entered rfl (if_pos rfl)
  | markTrue now type message => exact .entered rfl (if_pos rfl)
  | markFalse now type reason severity message => exact .entered rfl (if_pos rfl)
  | recomputeReady now =>
    cases h : l.isEmpty with
    | true =>
      rw [perform, recomputeReady_of_isEmpty h]
      exact .idle
    | false =>
      obtain ⟨c, hc, hset⟩ := recomputeReady_eq h now
      rw [perform, hset]
      refine .entered rfl ?_
      rw [lastTransitionTime_derivedReady hc]
      exact if_pos (type_derivedReady hc).symm

theorem nodup_types_perform (op : Operation) (h : l.types.Nodup) :
    (op.perform l).types.Nodup := by
  have hcourse := op.perform_cases l
  generalize op.perform l = l' at hcourse ⊢
  cases hcourse with
  | idle => exact h
  | filled initial _ _ => exact nodup_types_fill initial
  | entered _ _ => exact nodup_types_set _ h

/-- Types are appended, one of them unless the operation fills the empty ledger. -/
theorem types_perform (op : Operation) (l : Ledger) :
    ∃ new, (op.perform l).types = l.types ++ new ∧
      (new.length ≤ 1 ∨ ∃ initial, op = .init initial ∧ l.isEmpty = true ∧
        new = (initial.map (·.2.type)).eraseDups) := by
  have hcourse := op.perform_cases l
  generalize op.perform l = l' at hcourse ⊢
  cases hcourse with
  | idle => exact ⟨[], (List.append_nil _).symm, .inl (Nat.zero_le 1)⟩
  | filled initial init empty =>
    refine ⟨_, ?_, .inr ⟨initial, init, empty, rfl⟩⟩
    rw [types_fill, eq_empty_of_isEmpty empty]
    rfl
  | @entered now c _ _ =>
    rw [types_set]
    by_cases hmem : c.type ∈ l.types
    · exact ⟨[], by rw [if_pos hmem, List.append_nil], .inl (Nat.zero_le 1)⟩
    · exact ⟨[c.type], if_neg hmem, .inl (Nat.le_refl 1)⟩

/-- What an operation does to the time of an entry, given the entry as it was. -/
inductive Dates (op : Operation) (type : String) : Option Condition → Condition → Prop
  | inserted {c : Condition} {τ : Time} (time : op.insertionTime? type = some τ)
      (dated : c.lastTransitionTime = some τ) : op.Dates type none c
  | changed {old c : Condition} {now : Time} (status : old.status ≠ c.status)
      (clock : op.clock? = some now) (dated : c.lastTransitionTime = some now) :
      op.Dates type (some old) c
  | kept {old c : Condition} (status : old.status = c.status)
      (dated : c.lastTransitionTime = old.lastTransitionTime) : op.Dates type (some old) c

/-- A condition that is entered is dated by the reading of the clock or by the time that it came
with. -/
theorem dates_entered {now : Time} {c : Condition} (hclock : op.clock? = some now)
    (hinserted : op.insertionTime? c.type = some (c.lastTransitionTime.getD now))
    (before : Option Condition) : op.Dates c.type before (c.entered now before) := by
  cases before with
  | none => exact .inserted hinserted (Condition.lastTransitionTime_fresh now c)
  | some old =>
    by_cases hstatus : old.status = c.status
    · exact .kept hstatus (Condition.lastTransitionTime_entered_of_eq hstatus)
    · exact .changed hstatus hclock (Condition.lastTransitionTime_entered_of_ne hstatus)

theorem dates_perform (op : Operation) (h : (op.perform l).get? type = some c) :
    op.Dates type (l.get? type) c := by
  have hcourse := op.perform_cases l
  generalize op.perform l = l' at hcourse h
  cases hcourse with
  | idle =>
    rw [h]
    exact .kept rfl rfl
  | filled initial init empty =>
    obtain ⟨τ, hτ, hc⟩ := lastTransitionTime_of_get?_fill h
    rw [eq_empty_of_isEmpty empty]
    exact .inserted (by rw [init, hτ]) hc
  | @entered now new clock inserted =>
    by_cases htype : type = new.type
    · subst htype
      rw [get?_set_self] at h
      obtain rfl := Option.some.inj h
      exact dates_entered clock inserted _
    · rw [get?_set_of_ne htype] at h
      rw [h]
      exact .kept rfl rfl

end Operation

/-! ## Sequences of operations -/

theorem nodup_types_after (ops : List Operation) : (after ops).types.Nodup := by
  induction ops using List.reverseRecOn with
  | nil => exact .nil
  | append_singleton ops op ih =>
    rw [after_concat]
    exact op.nodup_types_perform ih

/-- The last operation of a sequence that gave the entry of a type its status, with the operations
before and after it. -/
structure LastChange (type : String) (ops before : List Operation) (op : Operation)
    (rest : List Operation) : Prop where
  split : ops = before ++ op :: rest
  changed : (after (before ++ [op])).status? type ≠ (after before).status? type
  kept : ∀ later, later <+: rest →
    (after (before ++ op :: later)).status? type = (after (before ++ [op])).status? type

namespace LastChange

variable {type : String} {ops before rest : List Operation} {op next : Operation}

/-- The operation that comes last has changed the status. -/
theorem last (h : (after (ops ++ [op])).status? type ≠ (after ops).status? type) :
    LastChange type (ops ++ [op]) ops op [] := by
  refine ⟨rfl, h, fun later hlater => ?_⟩
  rw [List.prefix_nil.1 hlater]

/-- An operation that leaves the status is added to those that come after the change. -/
theorem concat (h : LastChange type ops before op rest)
    (hkept : (after (ops ++ [next])).status? type = (after ops).status? type) :
    LastChange type (ops ++ [next]) before op (rest ++ [next]) := by
  have hsplit : ops ++ [next] = before ++ op :: (rest ++ [next]) := by
    rw [h.split, List.append_assoc, List.cons_append]
  refine ⟨hsplit, h.changed, fun later hlater => ?_⟩
  rcases List.prefix_concat_iff.1 hlater with rfl | hlater
  · rw [← hsplit, hkept, h.split]
    exact h.kept rest List.prefix_rfl
  · exact h.kept later hlater

end LastChange

/-- The time of an entry is that of its last change of status. -/
theorem exists_lastChange {ops : List Operation} {type : String} {c : Condition}
    (h : (after ops).get? type = some c) :
    ∃ before op rest τ, LastChange type ops before op rest ∧ c.lastTransitionTime = some τ ∧
      (if type ∈ (after before).types then op.clock? else op.insertionTime? type) = some τ := by
  induction ops using List.reverseRecOn generalizing c with
  | nil => cases h
  | append_singleton ops op ih =>
    have hstatus : (after (ops ++ [op])).status? type = some c.status := by
      rw [status?, h, Option.map_some]
    have hmem : ((after ops).get? type).isSome = true ↔ type ∈ (after ops).types := isSome_get?_iff
    rw [after_concat] at h
    have hdates := op.dates_perform h
    -- The last operation inserted the entry, changed its status, or kept its time; in the last case
    -- the change came earlier.
    cases hold : (after ops).get? type with
    | none =>
      have hbefore : (after ops).status? type = none := by rw [status?, hold, Option.map_none]
      rw [hold] at hdates hmem
      cases hdates with
      | @inserted _ τ time dated =>
        refine ⟨ops, op, [], τ, .last ?_, dated, ?_⟩
        · rw [hstatus, hbefore]
          exact Option.some_ne_none _
        · rw [if_neg fun hin => absurd (hmem.2 hin) Bool.false_ne_true, time]
    | some old =>
      have hbefore : (after ops).status? type = some old.status := by
        rw [status?, hold, Option.map_some]
      rw [hold] at hdates hmem
      cases hdates with
      | @changed _ _ now status clock dated =>
        refine ⟨ops, op, [], now, .last ?_, dated, ?_⟩
        · rw [hstatus, hbefore]
          exact fun heq => status (Option.some.inj heq).symm
        · rw [if_pos (hmem.1 rfl), clock]
      | kept status dated =>
        obtain ⟨before, changing, rest, τ, hlast, hτ, htime⟩ := ih hold
        refine ⟨before, changing, rest ++ [op], τ, hlast.concat ?_, dated.trans hτ, htime⟩
        rw [hstatus, hbefore, status]

/-- Types stay distinct and are only appended, the ledger is filled once, and every entry has the
time of its last change of status. -/
theorem ledger_after (ops : List Operation) :
    (after ops).types.Nodup ∧
      (∀ op, ∃ new, (after (ops ++ [op])).types = (after ops).types ++ new ∧
        (new.length ≤ 1 ∨ ∃ initial, op = .init initial ∧ (after ops).isEmpty = true ∧
          new = (initial.map (·.2.type)).eraseDups)) ∧
      (∀ initial, (after ops).isEmpty = false → after (ops ++ [.init initial]) = after ops) ∧
      (∀ initial, (after ops).isEmpty = true → ∀ c ∈ (after (ops ++ [.init initial])).entries,
        c.status = .unknown ∧ c.severity = none) ∧
      (∀ c ∈ (after ops).entries, ∃ before op rest τ, LastChange c.type ops before op rest ∧
        c.lastTransitionTime = some τ ∧
        (if c.type ∈ (after before).types then op.clock? else op.insertionTime? c.type) =
          some τ) := by
  have htypes := nodup_types_after ops
  refine ⟨htypes, fun op => ?_, fun initial hfull => ?_, fun initial hempty c hc => ?_,
    fun c hc => exists_lastChange (get?_of_mem htypes hc)⟩
  · rw [after_concat]
    exact op.types_perform (after ops)
  · rw [after_concat]
    exact Operation.perform_init_of_not_isEmpty hfull initial
  · rw [after_concat, Operation.perform_init_of_isEmpty hempty] at hc
    exact unknown_of_mem_fill hc

/-- The second item of a type overwrites the first and keeps its time, a status that stays keeps
the time that was stamped, and `Ready` is stamped when it is first derived. -/
example :
    after [.init [("1", ⟨"a", .true, "", none, "", none⟩),
        ("2", ⟨"b", .true, "", none, "", some "0"⟩), ("3", ⟨"a", .false, "", none, "", some "0"⟩)],
      .markTrue "4" "a" "", .recomputeReady "5", .markTrue "6" "a" "", .markTrue "7" "b" "",
      .recomputeReady "8"] =
    ⟨[⟨"a", .true, "Ready", none, "", some "4"⟩, ⟨"b", .true, "Ready", none, "", some "7"⟩,
      ⟨"Ready", .true, "Ready", none, "Setup complete", some "8"⟩]⟩ := by
  decide

end RedisControl.Ledger
