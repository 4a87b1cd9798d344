import RedisControl.Proofs.Marks

/-!
# Deriving `Ready` is a local update

**Theorem (`ready_update_local`).** Deriving `Ready` touches the first entry of that type and no
other, and adds one at the end where there is none. Doing it twice is doing it once, at any two
readings of the clock. And it may wait: whether `Ready` is derived after each of several marks or
only after the last one, the ledgers are the same but for the time of `Ready`, and for its place if
it was missing at first.

The third part compares two runs. While they go on, one has a `Ready` of which the other knows
nothing yet, so their ledgers are not equal at any time. The invariant (`Aligned`) says that they
are equal around the first entry of `Ready`, which the second ledger may lack. A mark for another
type keeps this, wherever its entry stands, and so does deriving `Ready` in the first ledger alone.
At the end both derive it from the same entries.
-/

namespace RedisControl

namespace Ledger

/-! ## Around the first entry of `Ready` -/

/-- No entry is of the type `Ready`. -/
def ReadyFree (entries : List Condition) : Prop := ∀ c ∈ entries, c.type ≠ Goal.ready.type

/-- Entries before and after an update of the first entry of `Ready`. -/
inductive ReadyEntered : List Condition → List Condition → Prop where
  | nothing : ReadyEntered [] []
  | replaced {before after : List Condition} {old new : Condition} (free : ReadyFree before)
      (type_old : old.type = Goal.ready.type) (type_new : new.type = Goal.ready.type) :
      ReadyEntered (before ++ old :: after) (before ++ new :: after)
  | appended {entries : List Condition} {new : Condition} (some_entry : entries ≠ [])
      (free : ReadyFree entries) (type_new : new.type = Goal.ready.type) :
      ReadyEntered entries (entries ++ [new])

/-- The same entries but for the time of the first `Ready`, and if it was missing for its place,
which is then the last one in the second list. -/
inductive SameUpToReady (missing : Prop) : List Condition → List Condition → Prop where
  | inPlace {before after : List Condition} {ready : Condition} (time : Option Time)
      (there : ¬ missing) (free : ReadyFree before) (type_ready : ready.type = Goal.ready.type) :
      SameUpToReady missing (before ++ ready :: after)
        (before ++ { ready with lastTransitionTime := time } :: after)
  | atEnd {before after : List Condition} {ready : Condition} (time : Option Time)
      (absent : missing) (free : ReadyFree (before ++ after))
      (type_ready : ready.type = Goal.ready.type) :
      SameUpToReady missing (before ++ ready :: after)
        (before ++ after ++ [{ ready with lastTransitionTime := time }])

variable {now : Time} {c : Condition} {before after : List Condition}

/-! ## Entering one condition -/

theorem ReadyFree.setEntry (h : ReadyFree before) (hc : c.type ≠ Goal.ready.type) :
    ReadyFree (setEntry now c before) := by
  intro d hd
  rcases mem_setEntry hd with hd | ⟨old, rfl⟩
  · exact h d hd
  · rw [Condition.type_entered]
    exact hc

theorem setEntry_append_of_mem (h : ∃ old ∈ before, old.type = c.type) :
    setEntry now c (before ++ after) = setEntry now c before ++ after := by
  induction before with
  | nil =>
    obtain ⟨old, hold, -⟩ := h
    cases hold
  | cons first rest ih =>
    by_cases ht : first.type = c.type
    · rw [List.cons_append, setEntry, setEntry, if_pos ht, if_pos ht, List.cons_append]
    · have hrest : ∃ old ∈ rest, old.type = c.type := by
        obtain ⟨old, hold, htype⟩ := h
        rcases List.mem_cons.1 hold with rfl | hold
        · exact absurd htype ht
        · exact ⟨old, hold, htype⟩
      rw [List.cons_append, setEntry, setEntry, if_neg ht, if_neg ht, ih hrest, List.cons_append]

theorem setEntry_append_of_ne (h : ∀ old ∈ before, old.type ≠ c.type) :
    setEntry now c (before ++ after) = before ++ setEntry now c after := by
  induction before with
  | nil => rfl
  | cons first rest ih =>
    obtain ⟨hfirst, hrest⟩ := List.forall_mem_cons.1 h
    rw [List.cons_append, setEntry, if_neg hfirst, ih hrest, List.cons_append]

/-- A condition of another type is entered before or after the entries of `Ready`, whatever these
are. -/
theorem exists_setEntry_around (now : Time) (hc : c.type ≠ Goal.ready.type)
    (before after : List Condition) :
    ∃ before' after', (ReadyFree before → ReadyFree before') ∧
      (ReadyFree after → ReadyFree after') ∧
      ∀ middle : List Condition, (∀ r ∈ middle, r.type = Goal.ready.type) →
        setEntry now c (before ++ (middle ++ after)) = before' ++ (middle ++ after') := by
  -- Entries of type Ready are passed over, so it only matters whether the type stands before them.
  by_cases hmem : ∃ old ∈ before, old.type = c.type
  · refine ⟨setEntry now c before, after, fun h => h.setEntry hc, id, ?_⟩
    intro middle _
    exact setEntry_append_of_mem hmem
  · have hpass : ∀ old ∈ before, old.type ≠ c.type := fun old hold htype => hmem ⟨old, hold, htype⟩
    refine ⟨before, setEntry now c after, id, fun h => h.setEntry hc, ?_⟩
    intro middle hmiddle
    rw [setEntry_append_of_ne hpass, setEntry_append_of_ne]
    intro r hr
    rw [hmiddle r hr]
    exact Ne.symm hc

theorem setEntry_ready {old : Condition} (hc : c.type = Goal.ready.type) (h : ReadyFree before)
    (hold : old.type = Goal.ready.type) (after : List Condition) :
    setEntry now c (before ++ old :: after) = before ++ c.replacing now old :: after := by
  have hpass : ∀ d ∈ before, d.type ≠ c.type := by
    rw [hc]
    exact h
  rw [setEntry_append_of_ne hpass, setEntry, if_pos (hold.trans hc.symm)]

theorem setEntry_ready_of_free (hc : c.type = Goal.ready.type) (h : ReadyFree before) :
    setEntry now c before = before ++ [c.fresh now] := by
  have habsent : c.type ∉ (mk before).types := by
    rw [hc]
    intro hmem
    obtain ⟨d, hd, htype⟩ := List.mem_map.1 hmem
    exact h d hd htype
  exact congrArg Ledger.entries (set_of_not_mem habsent)

theorem exists_first_ready {entries : List Condition} (h : ¬ ReadyFree entries) :
    ∃ before ready after, entries = before ++ ready :: after ∧ ReadyFree before ∧
      ready.type = Goal.ready.type := by
  induction entries with
  | nil => exact absurd (List.forall_mem_nil _) h
  | cons first rest ih =>
    by_cases ht : first.type = Goal.ready.type
    · exact ⟨[], first, rest, rfl, List.forall_mem_nil _, ht⟩
    · have hrest : ¬ ReadyFree rest := fun hfree => h (List.forall_mem_cons.2 ⟨ht, hfree⟩)
      obtain ⟨before, ready, after, rfl, hbefore, hready⟩ := ih hrest
      exact ⟨first :: before, ready, after, rfl, List.forall_mem_cons.2 ⟨ht, hbefore⟩, hready⟩

theorem readyEntered_setEntry {entries : List Condition} (hc : c.type = Goal.ready.type)
    (hne : entries ≠ []) (now : Time) : ReadyEntered entries (setEntry now c entries) := by
  by_cases hfree : ReadyFree entries
  · rw [setEntry_ready_of_free hc hfree]
    exact .appended hne hfree hc
  · obtain ⟨before, old, after, rfl, hbefore, hold⟩ := exists_first_ready hfree
    rw [setEntry_ready hc hbefore hold]
    exact .replaced hbefore hold hc

theorem readyEntered_recomputeReady (l : Ledger) (now : Time) :
    ReadyEntered l.entries (l.recomputeReady now).entries := by
  cases he : l.isEmpty with
  | true =>
    rw [recomputeReady_of_isEmpty he, List.isEmpty_iff.1 he]
    exact .nothing
  | false =>
    obtain ⟨c, hc, hr⟩ := recomputeReady_eq he now
    rw [hr]
    exact readyEntered_setEntry (type_derivedReady hc) (by simpa [isEmpty] using he) now

/-! ## Two ledgers, one with a newer `Ready` -/

/-- Two lists that are equal around the first entry of `Ready`, whatever it says. If it was missing
at first, the second list still lacks it. -/
inductive Aligned (missing : Prop) : List Condition → List Condition → Prop where
  | inPlace {before after : List Condition} {ready old : Condition} (there : ¬ missing)
      (free : ReadyFree before) (type_ready : ready.type = Goal.ready.type)
      (type_old : old.type = Goal.ready.type) :
      Aligned missing (before ++ ready :: after) (before ++ old :: after)
  | ahead {before after : List Condition} {ready : Condition} (absent : missing)
      (free : ReadyFree before) (free_after : ReadyFree after)
      (type_ready : ready.type = Goal.ready.type) :
      Aligned missing (before ++ ready :: after) (before ++ after)

namespace Aligned

variable {missing : Prop} {eager lazy : List Condition}

theorem mark (h : Aligned missing eager lazy) (hc : c.type ≠ Goal.ready.type) (now : Time) :
    Aligned missing (setEntry now c eager) (setEntry now c lazy) := by
  cases h with
  | @inPlace before after ready old there free type_ready type_old =>
    obtain ⟨before', after', hbefore, -, henter⟩ :=
      exists_setEntry_around now hc before after
    -- One split serves both lists: it does not depend on what stands between its parts.
    have hready := henter [ready] (List.forall_mem_singleton.2 type_ready)
    have hold := henter [old] (List.forall_mem_singleton.2 type_old)
    rw [List.singleton_append] at hready hold
    rw [hready, hold]
    exact .inPlace there (hbefore free) type_ready type_old
  | @ahead before after ready absent free free_after type_ready =>
    obtain ⟨before', after', hbefore, hafter, henter⟩ :=
      exists_setEntry_around now hc before after
    have hready := henter [ready] (List.forall_mem_singleton.2 type_ready)
    have hnone := henter [] (List.forall_mem_nil _)
    rw [List.singleton_append] at hready
    rw [List.nil_append] at hnone
    rw [hready, hnone]
    exact .ahead absent (hbefore free) (hafter free_after) type_ready

theorem derive (h : Aligned missing eager lazy) (hc : c.type = Goal.ready.type) (now : Time) :
    Aligned missing (setEntry now c eager) lazy := by
  cases h with
  | inPlace there free type_ready type_old =>
    rw [setEntry_ready hc free type_ready]
    exact .inPlace there free hc type_old
  | ahead absent free free_after type_ready =>
    rw [setEntry_ready hc free type_ready]
    exact .ahead absent free free_after hc

theorem finish (h : Aligned missing eager lazy) (hc : c.type = Goal.ready.type) (now : Time) :
    SameUpToReady missing (setEntry now c eager) (setEntry now c lazy) := by
  cases h with
  | inPlace there free type_ready type_old =>
    rw [setEntry_ready hc free type_ready, setEntry_ready hc free type_old]
    exact .inPlace _ there free hc
  | @ahead before after ready absent free free_after type_ready =>
    have hfree : ReadyFree (before ++ after) := List.forall_mem_append.2 ⟨free, free_after⟩
    rw [setEntry_ready hc free type_ready, setEntry_ready_of_free hc hfree]
    exact .atEnd _ absent hfree hc

theorem filter_eq (h : Aligned missing eager lazy) :
    eager.filter (fun c => c.type != Goal.ready.type) =
      lazy.filter fun c => c.type != Goal.ready.type := by
  cases h with
  | inPlace _ _ type_ready type_old => simp [type_ready, type_old]
  | ahead _ _ _ type_ready => simp [type_ready]

theorem ne_nil (h : Aligned missing eager lazy) : eager ≠ [] := by
  cases h <;> simp

end Aligned

/-! ## Marks for conditions of any type -/

/-- A mark for a condition of any type. -/
inductive TypedMark where
  | reached (type message : String)
  | failed (type reason : String) (severity : Severity) (message : String)
  deriving DecidableEq

namespace TypedMark

def type : TypedMark → String
  | .reached type _ => type
  | .failed type _ _ _ => type

/-- The ledger in which a mark has been entered. -/
def enter (now : Time) (l : Ledger) : TypedMark → Ledger
  | .reached type message => l.markTrue now type message
  | .failed type reason severity message => l.markFalse now type reason severity message

theorem exists_enter_eq (m : TypedMark) :
    ∃ c : Condition, c.type = m.type ∧ ∀ now l, m.enter now l = l.set now c := by
  cases m with
  | reached type message => exact ⟨_, rfl, fun _ _ => rfl⟩
  | failed type reason severity message => exact ⟨_, rfl, fun _ _ => rfl⟩

theorem isEmpty_enter (now : Time) (l : Ledger) (m : TypedMark) :
    (m.enter now l).isEmpty = false := by
  obtain ⟨c, -, henter⟩ := m.exists_enter_eq
  rw [henter, isEmpty_set]

end TypedMark

/-- A mark, with the readings of the clock when it is entered and when `Ready` is derived next. -/
structure TimedMark where
  markedAt : Time
  mark : TypedMark
  derivedAt : Time

/-- Enter marks one after the other. -/
def markAll (marks : List TimedMark) (l : Ledger) : Ledger :=
  marks.foldl (fun l e => e.mark.enter e.markedAt l) l

/-- Enter marks one after the other and derive `Ready` after each. -/
def markAllDeriving (marks : List TimedMark) (l : Ledger) : Ledger :=
  marks.foldl (fun l e => (e.mark.enter e.markedAt l).recomputeReady e.derivedAt) l

theorem Aligned.step {missing : Prop} {eager lazy : Ledger}
    (h : Aligned missing eager.entries lazy.entries) {e : TimedMark}
    (he : e.mark.type ≠ Goal.ready.type) :
    Aligned missing ((e.mark.enter e.markedAt eager).recomputeReady e.derivedAt).entries
      (e.mark.enter e.markedAt lazy).entries := by
  obtain ⟨c, hc, henter⟩ := e.mark.exists_enter_eq
  rw [← hc] at he
  obtain ⟨d, hd, hr⟩ := recomputeReady_eq (isEmpty_set e.markedAt c eager) e.derivedAt
  rw [henter, henter, hr]
  exact (h.mark he e.markedAt).derive (type_derivedReady hd) e.derivedAt

theorem aligned_first (l : Ledger) {e : TimedMark} (he : e.mark.type ≠ Goal.ready.type) :
    Aligned (ReadyFree l.entries)
      ((e.mark.enter e.markedAt l).recomputeReady e.derivedAt).entries
      (e.mark.enter e.markedAt l).entries := by
  by_cases hfree : ReadyFree l.entries
  · obtain ⟨c, hc, henter⟩ := e.mark.exists_enter_eq
    rw [← hc] at he
    obtain ⟨d, hd, hr⟩ := recomputeReady_eq (isEmpty_set e.markedAt c l) e.derivedAt
    have hmarked : ReadyFree (l.set e.markedAt c).entries := hfree.setEntry he
    have htype := type_derivedReady hd
    have hahead : Aligned (ReadyFree l.entries)
        ((l.set e.markedAt c).entries ++ d.fresh e.derivedAt :: [])
        ((l.set e.markedAt c).entries ++ []) :=
      .ahead hfree hmarked (List.forall_mem_nil _) htype
    rw [List.append_nil, ← setEntry_ready_of_free htype hmarked] at hahead
    rw [henter, hr]
    exact hahead
  · obtain ⟨before, ready, after, hl, hbefore, hready⟩ := exists_first_ready hfree
    have hself : Aligned (ReadyFree l.entries) l.entries l.entries := by
      rw [hl] at hfree ⊢
      exact .inPlace hfree hbefore hready hready
    exact hself.step he

theorem aligned_markAll {missing : Prop} {marks : List TimedMark} {eager lazy : Ledger}
    (h : Aligned missing eager.entries lazy.entries)
    (hmarks : ∀ e ∈ marks, e.mark.type ≠ Goal.ready.type) :
    Aligned missing (eager.markAllDeriving marks).entries (lazy.markAll marks).entries := by
  induction marks generalizing eager lazy with
  | nil => exact h
  | cons e marks ih =>
    obtain ⟨he, hmarks⟩ := List.forall_mem_cons.1 hmarks
    exact ih (h.step he) hmarks

/-- Where `Ready` has been derived, it stays so after each mark. -/
theorem recomputeReady_markAllDeriving (marks : List TimedMark) {l : Ledger} {later : Time}
    (h : l.recomputeReady later = l) :
    (l.markAllDeriving marks).recomputeReady later = l.markAllDeriving marks := by
  induction marks generalizing l with
  | nil => exact h
  | cons e marks ih => exact ih (recomputeReady_recomputeReady _ e.derivedAt later)

theorem isEmpty_markAll {marks : List TimedMark} {l : Ledger} (h : l.isEmpty = false) :
    (l.markAll marks).isEmpty = false := by
  induction marks generalizing l with
  | nil => exact h
  | cons e marks ih => exact ih (e.mark.isEmpty_enter e.markedAt l)

/-- Of two aligned ledgers the first may have `Ready` derived already: it is what the second has
after deriving it. -/
theorem Aligned.sameUpToReady {missing : Prop} {eager lazy : Ledger} {later : Time}
    (h : Aligned missing eager.entries lazy.entries) (hstays : eager.recomputeReady later = eager)
    (hlazy : lazy.isEmpty = false) :
    SameUpToReady missing eager.entries (lazy.recomputeReady later).entries := by
  have heager : eager.isEmpty = false := by simpa [isEmpty] using h.ne_nil
  obtain ⟨c, hc, hr⟩ := recomputeReady_eq heager later
  obtain ⟨d, hd, hr'⟩ := recomputeReady_eq hlazy later
  -- Both derive one condition, as they have the same other entries.
  obtain rfl : c = d := by
    rw [derivedReady_congr h.filter_eq, hd] at hc
    exact (Option.some.inj hc).symm
  rw [← hstays, hr, hr']
  exact h.finish (type_derivedReady hc) later

/-- **Deriving `Ready` is a local update**, which may wait for the last of several marks. -/
theorem ready_update_local (l : Ledger) (now later : Time) :
    ReadyEntered l.entries (l.recomputeReady now).entries ∧
      (l.recomputeReady now).recomputeReady later = l.recomputeReady now ∧
      ∀ marks : List TimedMark, marks ≠ [] →
        (∀ e ∈ marks, e.mark.type ≠ Goal.ready.type) →
        SameUpToReady (ReadyFree l.entries) (l.markAllDeriving marks).entries
          ((l.markAll marks).recomputeReady later).entries := by
  refine ⟨readyEntered_recomputeReady l now, recomputeReady_recomputeReady l now later, ?_⟩
  intro marks hne hmarks
  cases marks with
  | nil => exact absurd rfl hne
  | cons e rest =>
    obtain ⟨he, hrest⟩ := List.forall_mem_cons.1 hmarks
    -- The first mark aligns the two ways, and all others keep them so.
    have haligned := aligned_markAll (aligned_first l he) hrest
    have hstays := recomputeReady_markAllDeriving rest
      (recomputeReady_recomputeReady (e.mark.enter e.markedAt l) e.derivedAt later)
    exact haligned.sameUpToReady hstays
      (isEmpty_markAll (e.mark.isEmpty_enter e.markedAt l))

/-- Two marks for types that are new in an empty ledger: derived after the first one, `Ready` comes
to stand between them. -/
theorem ready_update_local_empty :
    let marks : List TimedMark := [⟨"1", .reached "RoleReady" "", "2"⟩,
      ⟨"3", .failed "Disk" "Full" .error "no space", "4"⟩]
    marks ≠ [] ∧ (∀ e ∈ marks, e.mark.type ≠ Goal.ready.type) ∧
      SameUpToReady (ReadyFree empty.entries) (empty.markAllDeriving marks).entries
        ((empty.markAll marks).recomputeReady "5").entries ∧
      (empty.markAllDeriving marks).types = ["RoleReady", "Ready", "Disk"] ∧
      ((empty.markAll marks).recomputeReady "5").types = ["RoleReady", "Disk", "Ready"] := by
  intro marks
  have hne : marks ≠ [] := List.cons_ne_nil _ _
  have htypes : ∀ e ∈ marks, e.mark.type ≠ Goal.ready.type := by decide
  exact ⟨hne, htypes, (ready_update_local empty "0" "5").2.2 marks hne htypes, by decide,
    by decide⟩

end Ledger

end RedisControl
