import RedisControl.Ledger

/-!
# Marks in the ledger

A mark is what a step of a pass says of a goal. Entering a mark touches the entry of its goal and
no other, keeps the entries in their order, and changes nothing at all when the ledger shows the
mark already. Deriving `Ready` touches the entry of `Ready` only and is idempotent. So a ledger
into which several marks were entered, each for another goal, does not change when the same marks
are entered once more.

* `Ledger.initial` : the ledger that an empty one is filled with.
* `Ledger.enterAll` : marks entered one after the other, each with a reading of the clock.
* `Condition.entered` : a condition as it is entered over what stands under its type.
* `Ledger.get?_set_self` : it is then what stands there.
* `Ledger.types_enterAll` : entering marks for types that are there keeps the types.
* `Ledger.shows_enterAll` : the ledger shows every mark of a list with different goals.
* `Ledger.enterAll_eq_self` : entering marks that the ledger shows changes nothing.
* `Ledger.recomputeReady_recomputeReady` : deriving `Ready` twice is deriving it once.
-/

namespace RedisControl

/-! ## Marks -/

/-- What a step of a pass says of a goal. -/
structure Mark where
  goal : Goal
  status : Truth
  reason : String
  severity : Option Severity
  message : String
  deriving DecidableEq

namespace Mark

/-- A goal is reached. -/
def reached (g : Goal) : Mark := ⟨g, .true, Reason.ready, none, g.readyMessage⟩

/-- The cluster has not gone along yet with a goal. -/
def underWay (g : Goal) (message : String) : Mark :=
  ⟨g, .false, Reason.requested, some .info, message⟩

/-- The way to a goal is blocked. -/
def failed (g : Goal) (message : String) : Mark :=
  ⟨g, .false, Reason.error, some .warning, message⟩

/-- What a mark says, before it is given a time. -/
def condition (m : Mark) : Condition :=
  ⟨m.goal.type, m.status, m.reason, m.severity, m.message, none⟩

@[simp] theorem type_condition (m : Mark) : m.condition.type = m.goal.type := rfl

end Mark

/-! ## Entering one condition -/

namespace Condition

/-- The condition as it is entered over what stands under its type. -/
def entered (now : Time) (new : Condition) : Option Condition → Condition
  | some old => new.replacing now old
  | none => new.fresh now

variable {now : Time} {c old : Condition}

theorem status_entered (now : Time) (c : Condition) (before : Option Condition) :
    (c.entered now before).status = c.status := by
  cases before <;> rfl

theorem type_entered (now : Time) (c : Condition) (before : Option Condition) :
    (c.entered now before).type = c.type := by
  cases before <;> rfl

/-- Entering a condition once more changes nothing. -/
theorem replacing_entered (now later : Time) (c : Condition) (before : Option Condition) :
    c.replacing later (c.entered now before) = c.entered now before := by
  cases before <;> simp [entered, replacing, fresh]

theorem lastTransitionTime_fresh (now : Time) (c : Condition) :
    (c.fresh now).lastTransitionTime = some (c.lastTransitionTime.getD now) := by
  rw [fresh]
  cases c.lastTransitionTime <;> rfl

theorem lastTransitionTime_entered_of_eq (h : old.status = c.status) :
    (c.entered now (some old)).lastTransitionTime = old.lastTransitionTime := if_pos h

theorem lastTransitionTime_entered_of_ne (h : old.status ≠ c.status) :
    (c.entered now (some old)).lastTransitionTime = some now := if_neg h

theorem lastTransitionTime_entered_none (h : c.lastTransitionTime = none) :
    (c.entered now none).lastTransitionTime = some now := by
  rw [entered, lastTransitionTime_fresh, h, Option.getD_none]

end Condition

namespace Ledger

/-- The types of the entries, in order. -/
def types (l : Ledger) : List String := l.entries.map (·.type)

/-- The status of the condition of a type. -/
def status? (l : Ledger) (type : String) : Option Truth := (l.get? type).map (·.status)

theorem mem_of_get? {l : Ledger} {type : String} {c : Condition} (h : l.get? type = some c) :
    c ∈ l.entries ∧ c.type = type := by
  refine ⟨List.mem_of_find?_eq_some h, ?_⟩
  simpa using List.find?_some h

theorem isSome_get?_iff {l : Ledger} {type : String} :
    (l.get? type).isSome = true ↔ type ∈ l.types := by
  refine ⟨fun h => ?_, fun h => ?_⟩
  · obtain ⟨c, hc⟩ := Option.isSome_iff_exists.1 h
    obtain ⟨hmem, htype⟩ := mem_of_get? hc
    exact List.mem_map.2 ⟨c, hmem, htype⟩
  · obtain ⟨c, hmem, htype⟩ := List.mem_map.1 h
    exact List.find?_isSome.2 ⟨c, hmem, beq_iff_eq.2 htype⟩

theorem get?_eq_none {l : Ledger} {type : String} (h : type ∉ l.types) : l.get? type = none :=
  Option.not_isSome_iff_eq_none.1 fun hsome => h (isSome_get?_iff.1 hsome)

/-- In a ledger with distinct types the entry of a type is found under its type. -/
theorem get?_of_mem {l : Ledger} (h : l.types.Nodup) {c : Condition} (hc : c ∈ l.entries) :
    l.get? c.type = some c := by
  obtain ⟨entries⟩ := l
  simp only [types, get?] at h hc ⊢
  induction entries with
  | nil => cases hc
  | cons first rest ih =>
    rw [List.map_cons, List.nodup_cons] at h
    rcases List.mem_cons.1 hc with rfl | hc
    · exact List.find?_cons_of_pos (by simp)
    · have hne : first.type ≠ c.type := fun he => h.1 (he ▸ List.mem_map_of_mem hc)
      rw [List.find?_cons_of_neg (by simpa using hne), ih h.2 hc]

theorem mem_setEntry {now : Time} {new c : Condition} {entries : List Condition}
    (h : c ∈ setEntry now new entries) :
    c ∈ entries ∨ ∃ before, c = new.entered now before := by
  induction entries with
  | nil => exact .inr ⟨none, List.mem_singleton.1 h⟩
  | cons old rest ih =>
    rw [setEntry] at h
    by_cases htype : old.type = new.type
    · rw [if_pos htype] at h
      rcases List.mem_cons.1 h with rfl | h
      · exact .inr ⟨some old, rfl⟩
      · exact .inl (List.mem_cons_of_mem _ h)
    · rw [if_neg htype] at h
      rcases List.mem_cons.1 h with rfl | h
      · exact .inl List.mem_cons_self
      · exact (ih h).imp_left (List.mem_cons_of_mem _)

theorem types_set_of_mem {now : Time} {c : Condition} {l : Ledger} (h : c.type ∈ l.types) :
    (l.set now c).types = l.types := by
  obtain ⟨entries⟩ := l
  simp only [types, set] at h ⊢
  induction entries with
  | nil => simp at h
  | cons old rest ih =>
    by_cases ht : old.type = c.type
    · rw [setEntry, if_pos ht, List.map_cons, List.map_cons, ht]
      rfl
    · have hr : c.type ∈ rest.map (·.type) := by
        rcases List.mem_cons.1 h with h | h
        · exact absurd h.symm ht
        · exact h
      rw [setEntry, if_neg ht, List.map_cons, List.map_cons, ih hr]

/-- A condition of a new type comes to stand at the end. -/
theorem set_of_not_mem {now : Time} {c : Condition} {l : Ledger} (h : c.type ∉ l.types) :
    l.set now c = ⟨l.entries ++ [c.fresh now]⟩ := by
  obtain ⟨entries⟩ := l
  simp only [types, set, mk.injEq] at h ⊢
  induction entries with
  | nil => rfl
  | cons old rest ih =>
    rw [List.map_cons, List.mem_cons, not_or] at h
    rw [setEntry, if_neg (Ne.symm h.1), ih h.2, List.cons_append]

theorem types_set (now : Time) (c : Condition) (l : Ledger) :
    (l.set now c).types = if c.type ∈ l.types then l.types else l.types ++ [c.type] := by
  by_cases hmem : c.type ∈ l.types
  · rw [if_pos hmem, types_set_of_mem hmem]
  · rw [if_neg hmem, set_of_not_mem hmem, types, List.map_append]
    rfl

theorem nodup_types_set {now : Time} {l : Ledger} (c : Condition) (h : l.types.Nodup) :
    (l.set now c).types.Nodup := by
  rw [types_set]
  by_cases hmem : c.type ∈ l.types
  · rw [if_pos hmem]
    exact h
  · rw [if_neg hmem, List.nodup_append]
    refine ⟨h, by simp, fun a ha b hb hab => hmem ?_⟩
    rwa [hab, List.mem_singleton.1 hb] at ha

theorem get?_set_of_ne {now : Time} {c : Condition} {type : String} (h : type ≠ c.type)
    (l : Ledger) : (l.set now c).get? type = l.get? type := by
  obtain ⟨entries⟩ := l
  simp only [get?, set]
  induction entries with
  | nil =>
    rw [setEntry, List.find?_cons_of_neg (by simpa [Condition.fresh] using Ne.symm h)]
  | cons old rest ih =>
    by_cases ht : old.type = c.type
    · rw [setEntry, if_pos ht,
        List.find?_cons_of_neg (by simpa [Condition.replacing] using Ne.symm h),
        List.find?_cons_of_neg (by simpa [ht] using Ne.symm h)]
    · rw [setEntry, if_neg ht, List.find?_cons, List.find?_cons, ih]

/-- A condition is entered over what stands under its type. -/
theorem get?_set_self (now : Time) (c : Condition) (l : Ledger) :
    (l.set now c).get? c.type = some (c.entered now (l.get? c.type)) := by
  obtain ⟨entries⟩ := l
  simp only [get?, set]
  induction entries with
  | nil => simp [setEntry, Condition.entered, Condition.fresh]
  | cons old rest ih =>
    by_cases ht : old.type = c.type
    · rw [setEntry, if_pos ht, List.find?_cons_of_pos (by simp [Condition.replacing]),
        List.find?_cons_of_pos (by simp [ht]), Condition.entered]
    · rw [setEntry, if_neg ht, List.find?_cons_of_neg (by simpa using ht), ih,
        List.find?_cons_of_neg (by simpa using ht)]

/-- A condition that is there but for its time, with the same status, can be entered without any
change. -/
theorem set_eq_self {now : Time} {c old : Condition} {l : Ledger}
    (h : l.get? c.type = some old) (hold : c.replacing now old = old) : l.set now c = l := by
  obtain ⟨entries⟩ := l
  simp only [get?, set, mk.injEq] at h ⊢
  induction entries with
  | nil => simp at h
  | cons first rest ih =>
    by_cases ht : first.type = c.type
    · rw [List.find?_cons_of_pos (by simp [ht])] at h
      obtain rfl := Option.some.inj h
      rw [setEntry, if_pos ht, hold]
    · rw [List.find?_cons_of_neg (by simpa using ht)] at h
      rw [setEntry, if_neg ht, ih h]

@[simp] theorem isEmpty_set (now : Time) (c : Condition) (l : Ledger) :
    (l.set now c).isEmpty = false := by
  obtain ⟨_ | ⟨old, rest⟩⟩ := l
  · rfl
  · by_cases ht : old.type = c.type <;> simp [set, isEmpty, setEntry, ht]

/-- Entering `Ready` leaves the entries that it is derived from as they are. -/
theorem subConditions_set_ready {now : Time} {c : Condition} (h : c.type = Goal.ready.type)
    (l : Ledger) : (l.set now c).subConditions = l.subConditions := by
  obtain ⟨entries⟩ := l
  simp only [subConditions, set]
  induction entries with
  | nil => rw [setEntry, List.filter_cons_of_neg (by simp [Condition.fresh, h])]
  | cons old rest ih =>
    by_cases ht : old.type = c.type
    · rw [setEntry, if_pos ht, List.filter_cons_of_neg (by simp [Condition.replacing, h]),
        List.filter_cons_of_neg (by simp [ht, h])]
    · rw [setEntry, if_neg ht, List.filter_cons, List.filter_cons, ih]

/-! ## Filling an empty ledger -/

/-- The ledger that an empty one is filled with at given times: nothing is known of any goal. -/
def initial (times : List Time) : Ledger := ⟨List.zipWith initialCondition times Goal.all⟩

theorem types_zipWith_initialCondition {times : List Time} {gs : List Goal}
    (h : times.length = gs.length) :
    (List.zipWith initialCondition times gs).map (·.type) = gs.map Goal.type := by
  induction gs generalizing times with
  | nil => rw [List.zipWith_nil_right]; rfl
  | cons g gs ih =>
    cases times with
    | nil => cases h
    | cons τ times => exact congrArg (g.type :: ·) (ih (Nat.succ.inj h))

theorem types_initial {times : List Time} (h : times.length = Goal.all.length) :
    (initial times).types = Goal.all.map Goal.type := types_zipWith_initialCondition h

theorem find?_zipWith_initialCondition {times : List Time} {gs : List Goal}
    (h : times.length = gs.length) {g : Goal} (hg : g ∈ gs) :
    ∃ τ, (List.zipWith initialCondition times gs).find? (fun c => c.type == g.type) =
      some (initialCondition τ g) := by
  induction gs generalizing times with
  | nil => cases hg
  | cons g' gs ih =>
    cases times with
    | nil => cases h
    | cons τ times =>
      by_cases hgg : g' = g
      · subst hgg
        exact ⟨τ, List.find?_cons_of_pos (by simp [initialCondition, Condition.unknown])⟩
      · have ht : ¬ g'.type = g.type := fun he => hgg (Goal.type_injective he)
        obtain ⟨τ', hτ'⟩ := ih (Nat.succ.inj h) ((List.mem_cons.1 hg).resolve_left (Ne.symm hgg))
        refine ⟨τ', ?_⟩
        rw [List.zipWith_cons_cons, List.find?_cons_of_neg, hτ']
        simpa [initialCondition, Condition.unknown] using ht

/-- Nothing is known of any goal in the initial ledger. -/
theorem status?_initial {times : List Time} (h : times.length = Goal.all.length) (g : Goal) :
    (initial times).status? g.type = some .unknown := by
  obtain ⟨τ, hτ⟩ := find?_zipWith_initialCondition h g.mem_all
  rw [status?, get?, initial, hτ]
  rfl

/-- Conditions for goals that are not there yet come to stand at the end, in their order. -/
theorem foldl_set_initialCondition {times later : List Time} {gs : List Goal} {l : Ledger}
    (h : times.length = gs.length) (hlater : later.length = gs.length)
    (hdiff : (l.types ++ gs.map Goal.type).Nodup) :
    (List.zipWith Prod.mk later (List.zipWith initialCondition times gs)).foldl
        (fun l e => l.set e.1 { e.2 with status := .unknown, severity := none }) l =
      ⟨l.entries ++ List.zipWith initialCondition times gs⟩ := by
  induction gs generalizing times later l with
  | nil => rw [List.zipWith_nil_right, List.zipWith_nil_right, List.foldl_nil, List.append_nil]
  | cons g gs ih =>
    obtain _ | ⟨τ, times⟩ := times
    · cases h
    obtain _ | ⟨τ', later⟩ := later
    · cases hlater
    have hnew : g.type ∉ l.types := fun hmem =>
      (List.nodup_append.1 hdiff).2.2 _ hmem _ List.mem_cons_self rfl
    have hset : l.set τ' { initialCondition τ g with status := .unknown, severity := none } =
        ⟨l.entries ++ [initialCondition τ g]⟩ := set_of_not_mem hnew
    rw [List.zipWith_cons_cons, List.zipWith_cons_cons, List.foldl_cons, hset,
      ih (Nat.succ.inj h) (Nat.succ.inj hlater) ?_, List.append_assoc]
    · rfl
    · rw [types, List.map_append, List.append_assoc]
      exact hdiff

theorem init_of_isEmpty {l : Ledger} (hl : l.isEmpty = true) {times later : List Time}
    (h : times.length = Goal.all.length) (hlater : later.length = Goal.all.length) :
    l.init (List.zipWith Prod.mk later (List.zipWith initialCondition times Goal.all)) =
      initial times := by
  have hnil : l.entries = [] := List.isEmpty_iff.1 hl
  rw [init, if_pos hl, foldl_set_initialCondition h hlater, hnil]
  · rfl
  · rw [types, hnil]
    decide

theorem isEmpty_initial {times : List Time} (h : times.length = Goal.all.length) :
    (initial times).isEmpty = false := by
  cases times with
  | nil => cases h
  | cons τ times => rfl

/-! ## Entering marks -/

/-- Enter a mark in a ledger. -/
def enter (now : Time) (m : Mark) (l : Ledger) : Ledger := l.set now m.condition

/-- Enter marks one after the other, each with a reading of the clock. -/
def enterAll (marks : List (Time × Mark)) (l : Ledger) : Ledger :=
  marks.foldl (fun l e => l.enter e.1 e.2) l

@[simp] theorem enterAll_nil (l : Ledger) : l.enterAll [] = l := rfl

@[simp] theorem enterAll_cons (e : Time × Mark) (marks : List (Time × Mark)) (l : Ledger) :
    l.enterAll (e :: marks) = (l.enter e.1 e.2).enterAll marks := rfl

theorem enterAll_append (marks more : List (Time × Mark)) (l : Ledger) :
    l.enterAll (marks ++ more) = (l.enterAll marks).enterAll more := List.foldl_append

theorem marks_zip {times : List Time} {ms : List Mark} (h : times.length = ms.length) :
    (times.zip ms).map (·.2) = ms := List.map_snd_zip (Nat.le_of_eq h.symm)

theorem goals_zip {times : List Time} {ms : List Mark} (h : times.length = ms.length) :
    (times.zip ms).map (·.2.goal) = ms.map (·.goal) := by
  have hms := marks_zip h
  rw [← hms, List.map_map, hms]
  rfl

theorem isEmpty_enterAll {marks : List (Time × Mark)} {l : Ledger} (h : l.isEmpty = false) :
    (l.enterAll marks).isEmpty = false := by
  induction marks generalizing l with
  | nil => exact h
  | cons e marks ih => exact ih (isEmpty_set e.1 e.2.condition l)

/-- The ledger shows a mark: the first entry of its goal says the same, whatever its time. -/
def Shows (l : Ledger) (m : Mark) : Prop :=
  ∃ time, l.get? m.goal.type = some { m.condition with lastTransitionTime := time }

theorem shows_enter (now : Time) (m : Mark) (l : Ledger) : (l.enter now m).Shows m := by
  have h := get?_set_self now m.condition l
  cases hl : l.get? m.condition.type with
  | none => exact ⟨some now, by rw [enter, ← Mark.type_condition, h, hl]; rfl⟩
  | some old => exact ⟨_, by rw [enter, ← Mark.type_condition, h, hl]; rfl⟩

theorem get?_enter_of_ne {now : Time} {m : Mark} {type : String} (h : type ≠ m.goal.type)
    (l : Ledger) : (l.enter now m).get? type = l.get? type := get?_set_of_ne h l

theorem enter_eq_self {now : Time} {m : Mark} {l : Ledger} (h : l.Shows m) :
    l.enter now m = l := by
  obtain ⟨time, h⟩ := h
  refine set_eq_self h ?_
  simp [Condition.replacing]

/-- Marks leave entries of other types as they are. -/
theorem get?_enterAll_of_ne {marks : List (Time × Mark)} {type : String}
    (h : ∀ e ∈ marks, type ≠ e.2.goal.type) (l : Ledger) :
    (l.enterAll marks).get? type = l.get? type := by
  induction marks generalizing l with
  | nil => rfl
  | cons e marks ih =>
    rw [List.forall_mem_cons] at h
    rw [enterAll_cons, ih h.2, get?_enter_of_ne h.1]

theorem get?_enterAll_of_not_mem {marks : List (Time × Mark)} {g : Goal}
    (h : g ∉ marks.map (·.2.goal)) (l : Ledger) :
    (l.enterAll marks).get? g.type = l.get? g.type :=
  get?_enterAll_of_ne
    (fun _ he hg => h (List.mem_map.2 ⟨_, he, (Goal.type_injective hg).symm⟩)) l

/-- Marks for different goals are all there in the end. -/
theorem shows_enterAll {marks : List (Time × Mark)} (h : (marks.map (·.2.goal)).Nodup)
    {m : Mark} (hm : m ∈ marks.map (·.2)) (l : Ledger) : (l.enterAll marks).Shows m := by
  induction marks generalizing l with
  | nil => simp at hm
  | cons e marks ih =>
    rw [List.map_cons, List.nodup_cons] at h
    rw [List.map_cons, List.mem_cons] at hm
    rcases hm with rfl | hm
    · obtain ⟨time, ht⟩ := shows_enter e.1 e.2 l
      exact ⟨time, by rw [enterAll_cons, get?_enterAll_of_not_mem h.1, ht]⟩
    · exact ih h.2 hm _

theorem enterAll_eq_self {marks : List (Time × Mark)} {l : Ledger}
    (h : ∀ m ∈ marks.map (·.2), l.Shows m) : l.enterAll marks = l := by
  induction marks with
  | nil => rfl
  | cons e marks ih =>
    rw [List.map_cons, List.forall_mem_cons] at h
    rw [enterAll_cons, enter_eq_self h.1, ih h.2]

theorem types_enterAll {marks : List (Time × Mark)} {l : Ledger}
    (h : ∀ m ∈ marks.map (·.2), m.goal.type ∈ l.types) :
    (l.enterAll marks).types = l.types := by
  induction marks generalizing l with
  | nil => rfl
  | cons e marks ih =>
    rw [List.map_cons, List.forall_mem_cons] at h
    have hs : (l.enter e.1 e.2).types = l.types := types_set_of_mem h.1
    rw [enterAll_cons, ih (by rw [hs]; exact h.2), hs]

/-! ## Deriving `Ready` -/

/-- What `Ready` says of a ledger that is not empty. -/
def derivedReady (l : Ledger) : Option Condition :=
  if l.allSubConditionsTrue then
    some ⟨Goal.ready.type, .true, Reason.ready, none, Goal.ready.readyMessage, none⟩
  else l.worstAs Goal.ready.type

/-- `Ready` depends on the other entries only. -/
theorem derivedReady_congr {l l' : Ledger} (h : l.subConditions = l'.subConditions) :
    l.derivedReady = l'.derivedReady := by
  have ha : l.allSubConditionsTrue = l'.allSubConditionsTrue := by
    rw [allSubConditionsTrue, h, ← allSubConditionsTrue]
  have hw : l.worst? = l'.worst? := by
    unfold worst?
    rw [h]
  rw [derivedReady, derivedReady, worstAs, worstAs, ha, hw]

theorem type_derivedReady {l : Ledger} {c : Condition} (h : l.derivedReady = some c) :
    c.type = Goal.ready.type := by
  unfold derivedReady at h
  split at h
  · rw [← Option.some.inj h]
  · obtain ⟨d, -, rfl⟩ := Option.map_eq_some_iff.1 h
    rfl

theorem lastTransitionTime_derivedReady {l : Ledger} {c : Condition} (h : l.derivedReady = some c) :
    c.lastTransitionTime = none := by
  unfold derivedReady at h
  split at h
  · rw [← Option.some.inj h]
  · obtain ⟨d, -, rfl⟩ := Option.map_eq_some_iff.1 h
    rfl

theorem recomputeReady_eq {l : Ledger} (h : l.isEmpty = false) (now : Time) :
    ∃ c, l.derivedReady = some c ∧ l.recomputeReady now = l.set now c := by
  have he : ¬ l.isEmpty = true := by rw [h]; exact Bool.false_ne_true
  rw [recomputeReady, if_neg he, derivedReady]
  by_cases ht : l.allSubConditionsTrue = true
  · simp only [if_pos ht]
    exact ⟨_, rfl, rfl⟩
  · simp only [if_neg ht]
    cases hw : l.worstAs Goal.ready.type with
    | some c => exact ⟨c, rfl, rfl⟩
    | none =>
      -- Without other entries they would all be true.
      refine absurd ?_ ht
      cases hs : l.subConditions with
      | nil => simp [allSubConditionsTrue, hs]
      | cons c rest => simp [worstAs, worst?, hs] at hw

theorem recomputeReady_of_isEmpty {l : Ledger} (h : l.isEmpty = true) (now : Time) :
    l.recomputeReady now = l := by
  rw [recomputeReady, if_pos h]

theorem isEmpty_recomputeReady {l : Ledger} (h : l.isEmpty = false) (now : Time) :
    (l.recomputeReady now).isEmpty = false := by
  obtain ⟨c, -, hr⟩ := recomputeReady_eq h now
  rw [hr, isEmpty_set]

theorem get?_recomputeReady_of_ne {type : String} (h : type ≠ Goal.ready.type) (l : Ledger)
    (now : Time) : (l.recomputeReady now).get? type = l.get? type := by
  cases he : l.isEmpty with
  | true => rw [recomputeReady_of_isEmpty he]
  | false =>
    obtain ⟨c, hc, hr⟩ := recomputeReady_eq he now
    rw [hr, get?_set_of_ne (by rw [type_derivedReady hc]; exact h)]

theorem Shows.recomputeReady {l : Ledger} {m : Mark} (h : l.Shows m) (hm : m.goal ≠ .ready)
    (now : Time) : (l.recomputeReady now).Shows m := by
  obtain ⟨time, h⟩ := h
  refine ⟨time, ?_⟩
  rw [get?_recomputeReady_of_ne (fun he => hm (Goal.type_injective he)), h]

theorem types_recomputeReady {l : Ledger} (h : Goal.ready.type ∈ l.types) (now : Time) :
    (l.recomputeReady now).types = l.types := by
  cases he : l.isEmpty with
  | true => rw [recomputeReady_of_isEmpty he]
  | false =>
    obtain ⟨c, hc, hr⟩ := recomputeReady_eq he now
    rw [hr, types_set_of_mem (by rw [type_derivedReady hc]; exact h)]

theorem subConditions_recomputeReady (l : Ledger) (now : Time) :
    (l.recomputeReady now).subConditions = l.subConditions := by
  cases he : l.isEmpty with
  | true => rw [recomputeReady_of_isEmpty he]
  | false =>
    obtain ⟨c, hc, hr⟩ := recomputeReady_eq he now
    rw [hr, subConditions_set_ready (type_derivedReady hc)]

/-- **Deriving `Ready` is idempotent**, at any two readings of the clock. -/
theorem recomputeReady_recomputeReady (l : Ledger) (now later : Time) :
    (l.recomputeReady now).recomputeReady later = l.recomputeReady now := by
  cases he : l.isEmpty with
  | true => rw [recomputeReady_of_isEmpty he, recomputeReady_of_isEmpty he]
  | false =>
    obtain ⟨c, hc, hr⟩ := recomputeReady_eq he now
    obtain ⟨d, hd, hr'⟩ := recomputeReady_eq (isEmpty_recomputeReady he now) later
    obtain rfl : c = d := by
      rw [derivedReady_congr (subConditions_recomputeReady l now), hc] at hd
      exact Option.some.inj hd
    rw [hr', hr]
    exact set_eq_self (get?_set_self now c l) (Condition.replacing_entered now later c _)

end Ledger

end RedisControl
