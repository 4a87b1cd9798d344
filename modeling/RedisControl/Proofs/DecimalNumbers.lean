import RedisControl.Text.Decimal

/-!
# Which texts write a number

A text writes a number if it consists of ASCII digits, at least one, with a plus sign in front or
without. The number is the decimal value of the digits, and so zeros in front change nothing.

* `Text.Decimal.read_eq_ok_iff` : reading below a bound accepts exactly the texts that write a
  number below it, and returns that number.
* `Text.Decimal.read_eq_error_iff` : what is wrong with every other text. The first fault from the
  left counts, and so a text may be too large before its first character that is no digit.

Reading compares with the bound after every digit. Nothing is lost by that, because the value of
digits is never less than that of the first ones among them (`le_ofDigitChars`).
-/

namespace RedisControl.Text.Decimal

variable {bound n m : Nat} {cs digits rest : List Char} {fault : Fault}

/-! ## Texts and their numbers -/

def AllDigits (cs : List Char) : Prop := ∀ c ∈ cs, c.isDigit = true

/-- The decimal value of digits. -/
def value (digits : List Char) : Nat := Nat.ofDigitChars 10 digits 0

/-- A text writes a number: digits, at least one, with a plus sign in front or without. -/
def Writes (n : Nat) (cs : List Char) : Prop :=
  ∃ digits, (cs = digits ∨ cs = '+' :: digits) ∧ digits ≠ [] ∧ AllDigits digits ∧
    value digits = n

/-- A text without its plus sign, if it starts with one. -/
def unsigned : List Char → List Char
  | '+' :: cs => cs
  | cs => cs

/-- What is wrong with a text that has to consist of digits, where numbers have to stay below a
bound. -/
inductive DigitsFlawed (bound : Nat) : List Char → Fault → Prop
  | invalidDigit {digits rest : List Char} {c : Char} (leading : AllDigits digits)
      (small : value digits < bound) (wrong : c.isDigit = false) :
      DigitsFlawed bound (digits ++ c :: rest) .invalidDigit
  | tooLarge {digits rest : List Char} (leading : AllDigits digits) (large : bound ≤ value digits) :
      DigitsFlawed bound (digits ++ rest) .tooLarge

/-- What is wrong with a text that has to write a number. -/
inductive Flawed (bound : Nat) : List Char → Fault → Prop
  | empty : Flawed bound [] .empty
  | loneSign : Flawed bound ['+'] .invalidDigit
  | digits {cs : List Char} {fault : Fault} (behind : DigitsFlawed bound (unsigned cs) fault) :
      Flawed bound cs fault

theorem unsigned_of_ne {c : Char} (h : c ≠ '+') (cs : List Char) :
    unsigned (c :: cs) = c :: cs := by
  rw [unsigned]
  intro _ heq
  exact h (List.cons.inj heq).1

theorem unsigned_of_allDigits (h : AllDigits cs) : unsigned cs = cs := by
  cases cs with
  | nil => rfl
  | cons c cs =>
    refine unsigned_of_ne ?_ cs
    rintro rfl
    cases h '+' List.mem_cons_self

theorem writes_iff :
    Writes n cs ↔ unsigned cs ≠ [] ∧ AllDigits (unsigned cs) ∧ value (unsigned cs) = n := by
  constructor
  · rintro ⟨digits, rfl | rfl, hne, hdigits, hvalue⟩
    · rw [unsigned_of_allDigits hdigits]
      exact ⟨hne, hdigits, hvalue⟩
    · exact ⟨hne, hdigits, hvalue⟩
  · rintro ⟨hne, hdigits, hvalue⟩
    refine ⟨unsigned cs, ?_, hne, hdigits, hvalue⟩
    unfold unsigned
    split
    · exact .inr rfl
    · exact .inl rfl

theorem Writes.unique (hn : Writes n cs) (hm : Writes m cs) : n = m :=
  (writes_iff.1 hn).2.2.symm.trans (writes_iff.1 hm).2.2

theorem allDigits_toDigits (zeros n : Nat) :
    AllDigits (List.replicate zeros '0' ++ Nat.toDigits 10 n) := by
  intro c hc
  rcases List.mem_append.1 hc with hc | hc
  · rw [List.eq_of_mem_replicate hc]
    rfl
  · exact Nat.isDigit_of_mem_toDigits (by decide) (by decide) hc

theorem value_toDigits (zeros n : Nat) :
    value (List.replicate zeros '0' ++ Nat.toDigits 10 n) = n := by
  rw [value, Nat.ofDigitChars_append, Nat.ofDigitChars_replicate_zero, Nat.mul_zero,
    Nat.ofDigitChars_ten_toDigits]

/-- Every number is written by its decimal digits, with zeros in front as well. -/
theorem writes_toDigits (zeros n : Nat) :
    Writes n (List.replicate zeros '0' ++ Nat.toDigits 10 n) ∧
      Writes n ('+' :: (List.replicate zeros '0' ++ Nat.toDigits 10 n)) := by
  have hne : List.replicate zeros '0' ++ Nat.toDigits 10 n ≠ [] := fun h =>
    Nat.toDigits_ne_nil (List.append_eq_nil_iff.1 h).2
  have hdigits := allDigits_toDigits zeros n
  have hvalue := value_toDigits zeros n
  exact ⟨⟨_, .inl rfl, hne, hdigits, hvalue⟩, ⟨_, .inr rfl, hne, hdigits, hvalue⟩⟩

/-! ## Reading digits -/

theorem le_ofDigitChars (digits : List Char) (n : Nat) : n ≤ Nat.ofDigitChars 10 digits n := by
  induction digits generalizing n with
  | nil => exact Nat.le_of_eq Nat.ofDigitChars_nil.symm
  | cons c digits ih =>
    rw [Nat.ofDigitChars_cons]
    have hlater := ih (10 * n + (c.toNat - '0'.toNat))
    omega

/-- Reading goes through digits as long as it stays below the bound. -/
theorem readDigits_append (hn : n < bound) (hdigits : AllDigits digits) (rest : List Char) :
    readDigits bound n (digits ++ rest) =
      if Nat.ofDigitChars 10 digits n < bound then
        readDigits bound (Nat.ofDigitChars 10 digits n) rest
      else .error .tooLarge := by
  induction digits generalizing n with
  | nil => rw [List.nil_append, Nat.ofDigitChars_nil, if_pos hn]
  | cons c digits ih =>
    obtain ⟨hc, hrest⟩ := List.forall_mem_cons.1 hdigits
    rw [List.cons_append, readDigits, if_pos hc, Nat.ofDigitChars_cons]
    by_cases hnext : 10 * n + (c.toNat - '0'.toNat) < bound
    · rw [if_pos hnext, ih hnext hrest]
    · have hlarge := le_ofDigitChars digits (10 * n + (c.toNat - '0'.toNat))
      rw [if_neg hnext, if_neg (by omega)]

theorem readDigits_of_lt (hdigits : AllDigits digits) (h : value digits < bound)
    (rest : List Char) :
    readDigits bound 0 (digits ++ rest) = readDigits bound (value digits) rest := by
  rw [readDigits_append (Nat.zero_lt_of_lt h) hdigits, ← value, if_pos h]

theorem readDigits_of_allDigits (hdigits : AllDigits cs) (h : value cs < bound) :
    readDigits bound 0 cs = .ok (value cs) := by
  have hread := readDigits_of_lt hdigits h []
  rwa [List.append_nil] at hread

theorem readDigits_of_flawed (hbound : 0 < bound) (h : DigitsFlawed bound cs fault) :
    readDigits bound 0 cs = .error fault := by
  cases h with
  | invalidDigit leading small wrong =>
    rw [readDigits_of_lt leading small, readDigits, if_neg (by simp [wrong])]
  | tooLarge leading large =>
    rw [readDigits_append hbound leading, ← value, if_neg (Nat.not_lt.2 large)]

/-- What is wrong with digits is found at the first character that is none, or at the end. -/
theorem digitsFlawed_or (bound : Nat) (cs : List Char) :
    (AllDigits cs ∧ value cs < bound) ∨ ∃ fault, DigitsFlawed bound cs fault := by
  have hsplit : cs = cs.takeWhile Char.isDigit ++ cs.dropWhile Char.isDigit :=
    List.takeWhile_append_dropWhile.symm
  have hleading : AllDigits (cs.takeWhile Char.isDigit) := fun c hc =>
    List.all_eq_true.1 List.all_takeWhile c hc
  by_cases hsmall : value (cs.takeWhile Char.isDigit) < bound
  · cases hrest : cs.dropWhile Char.isDigit with
    | nil =>
      rw [hrest, List.append_nil] at hsplit
      rw [← hsplit] at hleading hsmall
      exact .inl ⟨hleading, hsmall⟩
    | cons c rest =>
      have hwrong : c.isDigit = false := by
        have hhead := List.head?_dropWhile_not Char.isDigit cs
        rw [hrest] at hhead
        simpa using hhead
      rw [hrest] at hsplit
      exact .inr ⟨.invalidDigit, hsplit ▸ .invalidDigit hleading hsmall hwrong⟩
  · exact .inr ⟨.tooLarge, hsplit ▸ .tooLarge hleading (Nat.not_lt.1 hsmall)⟩

/-! ## Reading texts -/

theorem read_eq_readDigits (h : unsigned cs ≠ []) :
    read bound cs = readDigits bound 0 (unsigned cs) := by
  cases cs with
  | nil => exact absurd rfl h
  | cons c cs =>
    by_cases hc : c = '+'
    · subst hc
      cases cs with
      | nil => exact absurd rfl h
      | cons d cs => rfl
    · rw [unsigned_of_ne hc, read]
      · exact nofun
      · exact fun heq => hc (List.cons.inj heq).1
      · exact fun _ heq => hc (List.cons.inj heq).1

theorem read_of_writes (h : Writes n cs) (hn : n < bound) : read bound cs = .ok n := by
  obtain ⟨hne, hdigits, rfl⟩ := writes_iff.1 h
  rw [read_eq_readDigits hne, readDigits_of_allDigits hdigits hn]

theorem read_of_flawed (hbound : 0 < bound) (h : Flawed bound cs fault) :
    read bound cs = .error fault := by
  cases h with
  | empty | loneSign => rfl
  | digits behind =>
    have hread := readDigits_of_flawed hbound behind
    have hne : unsigned cs ≠ [] := by
      intro hnil
      rw [hnil] at hread
      cases hread
    rw [read_eq_readDigits hne, hread]

/-- A text writes a number below the bound, or something is wrong with it. -/
theorem writes_or_flawed (bound : Nat) (cs : List Char) :
    (∃ n, n < bound ∧ Writes n cs) ∨ ∃ fault, Flawed bound cs fault := by
  rcases digitsFlawed_or bound (unsigned cs) with ⟨hdigits, hsmall⟩ | ⟨fault, hflaw⟩
  · by_cases hne : unsigned cs = []
    · cases cs with
      | nil => exact .inr ⟨.empty, .empty⟩
      | cons c cs =>
        by_cases hc : c = '+'
        · subst hc
          obtain rfl : cs = [] := hne
          exact .inr ⟨.invalidDigit, .loneSign⟩
        · rw [unsigned_of_ne hc] at hne
          cases hne
    · exact .inl ⟨_, hsmall, writes_iff.2 ⟨hne, hdigits, rfl⟩⟩
  · exact .inr ⟨fault, .digits hflaw⟩

/-- **Reading accepts exactly the texts that write a number below the bound.** -/
theorem read_eq_ok_iff (hbound : 0 < bound) :
    read bound cs = .ok n ↔ Writes n cs ∧ n < bound := by
  constructor
  · intro h
    rcases writes_or_flawed bound cs with ⟨m, hm, hwrites⟩ | ⟨fault, hflaw⟩
    · rw [read_of_writes hwrites hm] at h
      cases h
      exact ⟨hwrites, hm⟩
    · rw [read_of_flawed hbound hflaw] at h
      cases h
  · rintro ⟨hwrites, hn⟩
    exact read_of_writes hwrites hn

/-- **Reading tells what is wrong with every other text.** -/
theorem read_eq_error_iff (hbound : 0 < bound) :
    read bound cs = .error fault ↔ Flawed bound cs fault := by
  constructor
  · intro h
    rcases writes_or_flawed bound cs with ⟨m, hm, hwrites⟩ | ⟨found, hflaw⟩
    · rw [read_of_writes hwrites hm] at h
      cases h
    · rw [read_of_flawed hbound hflaw] at h
      cases h
      exact hflaw
  · exact read_of_flawed hbound

theorem Writes.flawed (h : Writes n cs) (hn : bound ≤ n) : Flawed bound cs .tooLarge := by
  obtain ⟨-, hdigits, rfl⟩ := writes_iff.1 h
  have hflaw : DigitsFlawed bound (unsigned cs ++ []) .tooLarge := .tooLarge hdigits hn
  rw [List.append_nil] at hflaw
  exact .digits hflaw

end RedisControl.Text.Decimal
