import Mathlib.Algebra.Group.Nat.Defs
import RedisControl.Proofs.DecimalNumbers
import RedisControl.Settings

/-!
# Which environments are accepted

**Theorem (`environments_accepted`).** An environment is accepted exactly when each of the three
variables for durations is unset or writes a number below `2 ^ 64`: ASCII digits, at least one, with
a plus sign in front or without. Every duration is then that number of seconds, or its default.
Otherwise the error tells the first variable that is wrong, in the order in which they are read,
with its text and its fault.

So a number of 64 bits is read back from its decimal digits, however many zeros stand in front, and
a larger one is refused and not taken modulo `2 ^ 64`.

The three variables are read by one rule (`duration_eq_ok_iff`, `duration_eq_error_iff`). What is
left is their order: a later variable counts only where the earlier ones are accepted.
-/

namespace RedisControl.Settings

open Text.Decimal

variable {lookup : String → Option String} {key : String} {unset d : Duration}
  {s : Settings} {e : SettingsError}

/-! ## What an environment says -/

/-- The variables for durations, in the order in which they are read. -/
def durationKeys : List String := [resyncKey, errorKey, timeoutKey]

/-- A variable is unset, or writes a number of 64 bits. -/
def Acceptable (lookup : String → Option String) (key : String) : Prop :=
  ∀ text, lookup key = some text → ∃ n, Writes n text.toList ∧ n < 2 ^ 64

/-- The duration that a variable gives, with the default where it is unset. -/
inductive Gives (lookup : String → Option String) (key : String) (unset : Duration) :
    Duration → Prop
  | default (absent : lookup key = none) : Gives lookup key unset unset
  | seconds {text : String} {n : Nat} (present : lookup key = some text)
      (writes : Writes n text.toList) (fits : n < 2 ^ 64) :
      Gives lookup key unset (.ofSeconds n)

/-- The settings that an environment gives. -/
structure Given (lookup : String → Option String) (s : Settings) : Prop where
  watchNamespace : ∀ ns, s.watchNamespace = some ns ↔ lookup namespaceKey = some ns ∧ ns ≠ ""
  defaultImage : (lookup imageKey = some s.defaultImage ∧ s.defaultImage ≠ "") ∨
    ((∀ image, lookup imageKey = some image → image = "") ∧
      s.defaultImage = default.defaultImage)
  resyncInterval : Gives lookup resyncKey default.resyncInterval s.resyncInterval
  errorRequeue : Gives lookup errorKey default.errorRequeue s.errorRequeue
  subresourceTimeout : Gives lookup timeoutKey default.subresourceTimeout s.subresourceTimeout

/-- An error tells what is wrong with a variable. -/
structure Tells (lookup : String → Option String) (key : String) (e : SettingsError) : Prop where
  key_eq : e.key = key
  present : lookup key = some e.text
  flawed : Flawed (2 ^ 64) e.text.toList e.fault

/-- An error tells what is wrong with the first of some variables that is not acceptable. -/
def TellsFirst (lookup : String → Option String) (keys : List String) (e : SettingsError) : Prop :=
  ∃ before key after, keys = before ++ key :: after ∧
    (∀ earlier ∈ before, Acceptable lookup earlier) ∧ Tells lookup key e

/-! ## One variable -/

theorem duration_eq_ok_iff : duration lookup key unset = .ok d ↔ Gives lookup key unset d := by
  constructor
  · intro h
    unfold duration at h
    split at h
    case h_1 absent =>
      cases h
      exact .default absent
    case h_2 text present =>
      split at h
      case h_1 n hread =>
        cases h
        obtain ⟨hwrites, hfits⟩ := (read_eq_ok_iff (by decide)).1 hread
        exact .seconds present hwrites hfits
      case h_2 => cases h
  · intro h
    cases h with
    | default absent => rw [duration, absent]
    | @seconds text n present writes fits =>
      have hread : read bound64 text.toList = .ok n :=
        (read_eq_ok_iff (by decide)).2 ⟨writes, fits⟩
      simp only [duration, present, hread]

theorem duration_eq_error_iff (unset : Duration) :
    duration lookup key unset = .error e ↔ Tells lookup key e := by
  constructor
  · intro h
    unfold duration at h
    split at h
    case h_1 => cases h
    case h_2 text present =>
      split at h
      case h_1 => cases h
      case h_2 fault hread =>
        cases h
        exact ⟨rfl, present, (read_eq_error_iff (by decide)).1 hread⟩
  · rintro ⟨rfl, present, flawed⟩
    have hread : read bound64 e.text.toList = .error e.fault :=
      (read_eq_error_iff (by decide)).2 flawed
    simp only [duration, present, hread]

/-- A variable gives a duration exactly where it is acceptable. -/
theorem acceptable_iff (unset : Duration) :
    Acceptable lookup key ↔ ∃ d, Gives lookup key unset d := by
  constructor
  · intro h
    cases hlookup : lookup key with
    | none => exact ⟨unset, .default hlookup⟩
    | some text =>
      obtain ⟨n, hwrites, hfits⟩ := h text hlookup
      exact ⟨_, .seconds hlookup hwrites hfits⟩
  · rintro ⟨d, hgives⟩ text htext
    cases hgives with
    | default absent =>
      rw [htext] at absent
      cases absent
    | seconds present writes fits =>
      rw [htext] at present
      cases present
      exact ⟨_, writes, fits⟩

theorem gives_of_writes_iff {text : String} {n : Nat} (h : lookup key = some text)
    (hwrites : Writes n text.toList) (hfits : n < 2 ^ 64) :
    Gives lookup key unset d ↔ d = .ofSeconds n := by
  constructor
  · intro hgives
    cases hgives with
    | default absent =>
      rw [h] at absent
      cases absent
    | seconds present writes _ =>
      rw [h] at present
      cases present
      rw [hwrites.unique writes]
  · rintro rfl
    exact .seconds h hwrites hfits

/-- Of a variable that is acceptable no error is told. -/
theorem Tells.not_acceptable (h : Tells lookup key e) : ¬ Acceptable lookup key := by
  intro hacceptable
  obtain ⟨d, hgives⟩ := (acceptable_iff default.errorRequeue).1 hacceptable
  have hread := duration_eq_ok_iff.2 hgives
  rw [(duration_eq_error_iff _).2 h] at hread
  cases hread

/-! ## The whole environment -/

theorem ofLookup_eq (lookup : String → Option String) :
    ofLookup lookup = (duration lookup resyncKey default.resyncInterval).bind fun resync =>
      (duration lookup errorKey default.errorRequeue).bind fun error =>
        (duration lookup timeoutKey default.subresourceTimeout).bind fun timeout =>
          .ok ⟨nonEmpty lookup namespaceKey, (nonEmpty lookup imageKey).getD default.defaultImage,
            resync, error, timeout⟩ := rfl

theorem nonEmpty_eq_some_iff {text : String} :
    nonEmpty lookup key = some text ↔ lookup key = some text ∧ text ≠ "" := by
  rw [nonEmpty, Option.filter_eq_some_iff, bne_iff_ne]

theorem nonEmpty_eq_none_iff :
    nonEmpty lookup key = none ↔ ∀ text, lookup key = some text → text = "" := by
  rw [nonEmpty, Option.filter_eq_none_iff]
  simp

theorem nonEmpty_eq_iff {text : Option String} :
    nonEmpty lookup key = text ↔ ∀ t, text = some t ↔ lookup key = some t ∧ t ≠ "" := by
  constructor
  · rintro rfl t
    exact nonEmpty_eq_some_iff
  · intro h
    exact Option.ext fun t => nonEmpty_eq_some_iff.trans (h t).symm

theorem getD_nonEmpty_eq_iff {unset text : String} :
    (nonEmpty lookup key).getD unset = text ↔
      (lookup key = some text ∧ text ≠ "") ∨
        ((∀ t, lookup key = some t → t = "") ∧ text = unset) := by
  rw [← nonEmpty_eq_some_iff, ← nonEmpty_eq_none_iff]
  cases nonEmpty lookup key with
  | none => simp [eq_comm]
  | some t => simp

theorem bind_eq_ok_iff {ε α β : Type} {x : Except ε α} {f : α → Except ε β} {b : β} :
    x.bind f = .ok b ↔ ∃ a, x = .ok a ∧ f a = .ok b := by
  cases x with
  | error e => exact iff_of_false nofun nofun
  | ok a => simp [Except.bind]

theorem ofLookup_eq_ok_iff : ofLookup lookup = .ok s ↔ Given lookup s := by
  simp only [ofLookup_eq, bind_eq_ok_iff, duration_eq_ok_iff]
  constructor
  · rintro ⟨resync, hresync, error, herror, timeout, htimeout, hs⟩
    cases hs
    exact ⟨nonEmpty_eq_iff.1 rfl, getD_nonEmpty_eq_iff.1 rfl, hresync, herror, htimeout⟩
  · intro h
    refine ⟨_, h.resyncInterval, _, h.errorRequeue, _, h.subresourceTimeout, ?_⟩
    rw [nonEmpty_eq_iff.2 h.watchNamespace, getD_nonEmpty_eq_iff.2 h.defaultImage]

theorem not_tellsFirst_nil : ¬ TellsFirst lookup [] e := by
  rintro ⟨before, key, after, hsplit, -⟩
  cases before <;> cases hsplit

theorem tellsFirst_cons_iff {keys : List String} :
    TellsFirst lookup (key :: keys) e ↔
      Tells lookup key e ∨ Acceptable lookup key ∧ TellsFirst lookup keys e := by
  constructor
  · rintro ⟨before, found, after, hsplit, hbefore, htells⟩
    cases before with
    | nil =>
      cases hsplit
      exact .inl htells
    | cons first before =>
      cases hsplit
      obtain ⟨hfirst, hbefore⟩ := List.forall_mem_cons.1 hbefore
      exact .inr ⟨hfirst, before, found, after, rfl, hbefore, htells⟩
  · rintro (htells | ⟨hkey, before, found, after, rfl, hbefore, htells⟩)
    · exact ⟨[], key, keys, rfl, nofun, htells⟩
    · exact ⟨key :: before, found, after, rfl, List.forall_mem_cons.2 ⟨hkey, hbefore⟩, htells⟩

/-- Going on after a variable, with some variables left that may be wrong. -/
theorem duration_bind_eq_error_iff {keys : List String}
    {rest : Duration → Except SettingsError Settings}
    (hrest : ∀ d, rest d = .error e ↔ TellsFirst lookup keys e) :
    (duration lookup key unset).bind rest = .error e ↔ TellsFirst lookup (key :: keys) e := by
  rw [tellsFirst_cons_iff, acceptable_iff unset, ← duration_eq_error_iff unset]
  simp only [← duration_eq_ok_iff]
  cases duration lookup key unset with
  | error found => simp [Except.bind]
  | ok d => simpa [Except.bind] using hrest d

theorem ofLookup_eq_error_iff : ofLookup lookup = .error e ↔ TellsFirst lookup durationKeys e := by
  rw [ofLookup_eq, durationKeys]
  refine duration_bind_eq_error_iff fun resync => duration_bind_eq_error_iff fun error =>
    duration_bind_eq_error_iff fun timeout => ?_
  exact iff_of_false nofun not_tellsFirst_nil

theorem exists_ofLookup_eq_ok_iff :
    (∃ s, ofLookup lookup = .ok s) ↔ ∀ key ∈ durationKeys, Acceptable lookup key := by
  constructor
  · rintro ⟨s, hs⟩
    have hgiven := ofLookup_eq_ok_iff.1 hs
    simp only [durationKeys, List.forall_mem_cons]
    exact ⟨(acceptable_iff _).2 ⟨_, hgiven.resyncInterval⟩,
      (acceptable_iff _).2 ⟨_, hgiven.errorRequeue⟩,
      (acceptable_iff _).2 ⟨_, hgiven.subresourceTimeout⟩, nofun⟩
  · intro h
    cases hs : ofLookup lookup with
    | ok s => exact ⟨s, rfl⟩
    | error e =>
      obtain ⟨before, key, after, hsplit, -, htells⟩ := ofLookup_eq_error_iff.1 hs
      exact absurd (h key (by rw [hsplit]; simp)) htells.not_acceptable

/-- **Which environments are accepted.** -/
theorem environments_accepted (lookup : String → Option String) :
    ((∃ s, ofLookup lookup = .ok s) ↔ ∀ key ∈ durationKeys, Acceptable lookup key) ∧
    (∀ s, ofLookup lookup = .ok s ↔ Given lookup s) ∧
    (∀ e, ofLookup lookup = .error e ↔ TellsFirst lookup durationKeys e) ∧
    (∀ e : SettingsError, e.message =
      e.key ++ " must be a number of seconds, got '" ++ e.text ++ "': " ++ e.fault.message) ∧
    (∀ n zeros, Writes n (List.replicate zeros '0' ++ Nat.toDigits 10 n) ∧
      Writes n ('+' :: (List.replicate zeros '0' ++ Nat.toDigits 10 n))) ∧
    ∀ key ∈ durationKeys, ∀ text n, lookup key = some text → Writes n text.toList →
      (n < 2 ^ 64 → ∀ unset d, Gives lookup key unset d ↔ d = .ofSeconds n) ∧
        (2 ^ 64 ≤ n → ∃ e, ofLookup lookup = .error e) := by
  refine ⟨exists_ofLookup_eq_ok_iff, fun s => ofLookup_eq_ok_iff, fun e => ofLookup_eq_error_iff,
    fun e => rfl, fun n zeros => writes_toDigits zeros n, ?_⟩
  intro key hkey text n htext hwrites
  refine ⟨fun hfits unset d => gives_of_writes_iff htext hwrites hfits, fun hlarge => ?_⟩
  cases hs : ofLookup lookup with
  | error e => exact ⟨e, rfl⟩
  | ok s =>
    obtain ⟨m, hm, hfits⟩ := exists_ofLookup_eq_ok_iff.1 ⟨s, hs⟩ key hkey text htext
    have hsame : n = m := hwrites.unique hm
    omega

/-- The largest number of 64 bits, signed and with zeros in front, is read back, and the number
after it is refused. -/
theorem environments_accepted_largest :
    let largest := "+00018446744073709551615"
    let next := "18446744073709551616"
    let lookup : String → Option String := fun key =>
      if key = resyncKey then some largest else if key = timeoutKey then some next else none
    Writes 18446744073709551615 largest.toList ∧ Writes 18446744073709551616 next.toList ∧
      (∀ unset d, Gives lookup resyncKey unset d ↔ d = .ofSeconds 18446744073709551615) ∧
      ofLookup lookup = .error ⟨timeoutKey, next, .tooLarge⟩ := by
  intro largest next lookup
  obtain ⟨-, -, herrors, -, hspelled, hnumbers⟩ := environments_accepted lookup
  have hlargest : Writes 18446744073709551615 largest.toList := by
    have hchars : largest.toList =
        '+' :: (List.replicate 3 '0' ++ Nat.toDigits 10 18446744073709551615) := by decide +kernel
    rw [hchars]
    exact (hspelled _ 3).2
  have hnext : Writes 18446744073709551616 next.toList := by
    have hchars : next.toList =
        List.replicate 0 '0' ++ Nat.toDigits 10 18446744073709551616 := by decide +kernel
    rw [hchars]
    exact (hspelled _ 0).1
  have hresync := (hnumbers resyncKey (by decide) largest _ rfl hlargest).1 (by decide)
  have hearlier : ∀ key ∈ [resyncKey, errorKey], Acceptable lookup key := by
    refine List.forall_mem_cons.2 ⟨?_, List.forall_mem_singleton.2 nofun⟩
    intro text htext
    cases htext
    exact ⟨_, hlargest, by decide⟩
  have htells : Tells lookup timeoutKey ⟨timeoutKey, next, .tooLarge⟩ :=
    ⟨rfl, rfl, hnext.flawed (by decide)⟩
  exact ⟨hlargest, hnext, hresync,
    (herrors _).2 ⟨[resyncKey, errorKey], timeoutKey, [], rfl, hearlier, htells⟩⟩

end RedisControl.Settings
