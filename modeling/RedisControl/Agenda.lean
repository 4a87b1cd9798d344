import RedisControl.Duration

/-!
# What is due when

An agenda says for some keys when they are due, counted from a common start. Each key has at most
one entry: a new one takes the place of the old one. Of several keys that are due at the same
moment the one that was entered first comes first.

* `Agenda.enter` : make a key due.
* `Agenda.next?` : the earliest entry.
* `Agenda.next?_mem`, `Agenda.next?_le` : it is an entry, and none is earlier.
-/

namespace RedisControl

/-- What is due when. -/
structure Agenda (κ : Type) where
  /-- The entries in the order in which they were made. -/
  entries : List (Duration × κ)
  distinct : entries.Pairwise fun d e => d.2 ≠ e.2

namespace Agenda

variable {κ : Type} [DecidableEq κ]

/-- The agenda without entries. -/
def empty : Agenda κ := ⟨[], .nil⟩

/-- The agenda without a key. -/
def strike (a : Agenda κ) (key : κ) : Agenda κ :=
  ⟨a.entries.filter fun e => e.2 ≠ key, a.distinct.filter _⟩

/-- Enter a key for a time, over the time that it had. -/
def enter (a : Agenda κ) (time : Duration) (key : κ) : Agenda κ :=
  ⟨(a.strike key).entries ++ [(time, key)], by
    refine List.pairwise_append.2 ⟨(a.strike key).distinct, by simp, fun d hd e he => ?_⟩
    simp_all [strike]⟩

/-- The one of two entries that is due first; the one entered first if both are due together. -/
def earlier (d e : Duration × κ) : Duration × κ := if e.1.millis < d.1.millis then e else d

/-- The entry that is due first, out of one and some more. -/
def earliest : Duration × κ → List (Duration × κ) → Duration × κ
  | d, [] => d
  | d, e :: rest => earliest (earlier d e) rest

/-- The earliest entry. -/
def next? (a : Agenda κ) : Option (Duration × κ) :=
  match a.entries with
  | [] => none
  | e :: rest => some (earliest e rest)

omit [DecidableEq κ] in
theorem earliest_mem (d : Duration × κ) (l : List (Duration × κ)) : earliest d l ∈ d :: l := by
  induction l generalizing d with
  | nil => simp [earliest]
  | cons c l ih => have := ih (earlier d c); grind [earliest, earlier]

omit [DecidableEq κ] in
theorem earliest_le (d : Duration × κ) (l : List (Duration × κ)) :
    ∀ e ∈ d :: l, (earliest d l).1.millis ≤ e.1.millis := by
  induction l generalizing d with
  | nil => simp [earliest]
  | cons c l ih => have := ih (earlier d c); grind [earliest, earlier]

omit [DecidableEq κ] in
theorem next?_mem {a : Agenda κ} {d : Duration × κ} (h : a.next? = some d) : d ∈ a.entries := by
  unfold next? at h
  split at h
  · simp at h
  · rename_i e rest heq
    obtain rfl := Option.some.inj h
    rw [heq]
    exact earliest_mem e rest

omit [DecidableEq κ] in
/-- No entry is earlier than the earliest one. -/
theorem next?_le {a : Agenda κ} {d : Duration × κ} (h : a.next? = some d) :
    ∀ e ∈ a.entries, d.1.millis ≤ e.1.millis := by
  unfold next? at h
  split at h
  · simp at h
  · rename_i e rest heq
    obtain rfl := Option.some.inj h
    rw [heq]
    exact earliest_le e rest

end Agenda

end RedisControl
