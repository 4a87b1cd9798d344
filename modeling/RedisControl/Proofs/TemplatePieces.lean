import RedisControl.Template

/-!
# Well-formed templates

A well-formed text is a sequence of pieces: text without braces, and placeholders the inside of
which is without braces. Because no piece holds a brace but those of its own, a pass finds the
pieces again, whatever they stand next to. The value of a placeholder is again a sequence of
pieces, so a pass turns a sequence of pieces into one.

* `Template.Piece` : a piece of a well-formed text.
* `Template.unfolded` : the pieces after one pass.
* `Template.substitute_chars` : a pass over the text of pieces is a pass over the pieces.
* `Template.hasOpening_chars` : there is an opening where there is a placeholder.
-/

namespace RedisControl.Template

/-- Text without braces. -/
structure Plain where
  chars : List Char
  plain : ∀ c ∈ chars, c ≠ '{' ∧ c ≠ '}'

/-- A piece of a well-formed text. What stands inside of a placeholder is a key, with blanks around
it. -/
inductive Piece where
  | literal (text : Plain)
  | placeholder (inside : Plain)

namespace Piece

/-- The characters of a piece, with the marks around a placeholder. -/
def chars : Piece → List Char
  | literal text => text.chars
  | placeholder inside => '{' :: '{' :: (inside.chars ++ ['}', '}'])

/-- The key of a placeholder. -/
def key? : Piece → Option String
  | literal _ => none
  | placeholder inside => some (keyOf inside.chars)

end Piece

/-- The characters of a sequence of pieces. -/
def chars (pieces : List Piece) : List Char := pieces.flatMap Piece.chars

def text (pieces : List Piece) : String := String.ofList (chars pieces)

/-- A text that is a sequence of pieces. -/
def WellFormed (s : String) : Prop := ∃ pieces, text pieces = s

/-- The keys of the placeholders, from left to right. -/
def keys (pieces : List Piece) : List String := pieces.filterMap Piece.key?

@[simp] theorem chars_nil : chars [] = [] := rfl

@[simp] theorem chars_cons (p : Piece) (pieces : List Piece) :
    chars (p :: pieces) = p.chars ++ chars pieces := rfl

@[simp] theorem chars_append (pieces more : List Piece) :
    chars (pieces ++ more) = chars pieces ++ chars more := List.flatMap_append

@[simp] theorem keys_literal (t : Plain) (pieces : List Piece) :
    keys (.literal t :: pieces) = keys pieces := rfl

@[simp] theorem keys_placeholder (inside : Plain) (pieces : List Piece) :
    keys (.placeholder inside :: pieces) = keyOf inside.chars :: keys pieces := rfl

@[simp] theorem keys_append (pieces more : List Piece) :
    keys (pieces ++ more) = keys pieces ++ keys more := List.filterMap_append

/-- A map of well-formed texts is a map of sequences of pieces. -/
theorem exists_map_text {params : StringMap String} (h : ∀ e ∈ params.entries, WellFormed e.2) :
    ∃ values : StringMap (List Piece), values.map text = params := by
  have hentries : ∀ entries : List (String × String), (∀ e ∈ entries, WellFormed e.2) →
      ∃ pieces : List (String × List Piece),
        pieces.map (fun e => (e.1, text e.2)) = entries := by
    intro entries hwell
    induction entries with
    | nil => exact ⟨[], rfl⟩
    | cons e rest ih =>
      obtain ⟨⟨pieces, hpieces⟩, hrest⟩ := List.forall_mem_cons.1 hwell
      obtain ⟨more, hmore⟩ := ih hrest
      exact ⟨(e.1, pieces) :: more, by rw [List.map_cons, hpieces, hmore]⟩
  obtain ⟨entries, sorted⟩ := params
  obtain ⟨pieces, rfl⟩ := hentries entries h
  have hsorted : pieces.Pairwise fun a b => a.1 < b.1 := by
    simpa [List.pairwise_map] using sorted
  exact ⟨⟨pieces, hsorted⟩, rfl⟩

/-! ## Reading a text of pieces -/

section Reading

variable {c : Char}

theorem not_isPrefix_of_ne {mark : Char} (h : c ≠ mark) (more text : List Char) :
    ¬ mark :: more <+: c :: text :=
  fun hprefix => h (List.cons_prefix_cons.1 hprefix).1.symm

theorem substituteFrom_plain (params : StringMap String) {cs : List Char}
    (h : ∀ c ∈ cs, c ≠ '{' ∧ c ≠ '}') (rest : List Char) :
    substituteFrom params none (cs ++ rest) = (substituteFrom params none rest).map (cs ++ ·) := by
  induction cs with
  | nil =>
    rw [List.nil_append]
    cases substituteFrom params none rest <;> rfl
  | cons c cs ih =>
    obtain ⟨hc, hcs⟩ := List.forall_mem_cons.1 h
    rw [List.cons_append, substituteFrom_cons_of_not_isPrefix (not_isPrefix_of_ne hc.1 _ _),
      ih hcs]
    cases substituteFrom params none rest <;> rfl

/-- The inside of a placeholder ends at the closing braces behind text without braces. -/
theorem substituteFrom_inside_plain (params : StringMap String) {cs : List Char}
    (h : ∀ c ∈ cs, c ≠ '{' ∧ c ≠ '}') (inside rest : List Char) :
    substituteFrom params (some inside) (cs ++ '}' :: '}' :: rest) =
      substituteFrom params (some (cs.reverse ++ inside)) ('}' :: '}' :: rest) := by
  induction cs generalizing inside with
  | nil => rfl
  | cons c cs ih =>
    obtain ⟨hc, hcs⟩ := List.forall_mem_cons.1 h
    rw [List.cons_append, substituteFrom_inside_of_not_isPrefix inside
      (not_isPrefix_of_ne hc.2 _ _), ih hcs, List.reverse_cons, List.append_assoc,
      List.singleton_append]

theorem substituteFrom_placeholder (params : StringMap String) (inside : Plain)
    (rest : List Char) :
    substituteFrom params none ((Piece.placeholder inside).chars ++ rest) =
      match params.get? (keyOf inside.chars) with
      | none => .error (.noValue (keyOf inside.chars))
      | some value => (substituteFrom params none rest).map (value.toList ++ ·) := by
  have hchars : (Piece.placeholder inside).chars ++ rest =
      '{' :: '{' :: (inside.chars ++ '}' :: '}' :: rest) := by simp [Piece.chars]
  have hinside : substituteFrom params none ((Piece.placeholder inside).chars ++ rest) =
      substituteFrom params (some inside.chars.reverse) ('}' :: '}' :: rest) := by
    rw [hchars, substituteFrom, substituteFrom_inside_plain params inside.plain, List.append_nil]
  rw [hinside]
  cases hvalue : params.get? (keyOf inside.chars) with
  | none => simp only [substituteFrom, List.reverse_reverse, hvalue]
  | some value => simp only [substituteFrom, List.reverse_reverse, hvalue]

theorem hasOpening_plain {cs : List Char} (h : ∀ c ∈ cs, c ≠ '{' ∧ c ≠ '}')
    (rest : List Char) : hasOpening (cs ++ rest) = hasOpening rest := by
  induction cs with
  | nil => rfl
  | cons c cs ih =>
    obtain ⟨hc, hcs⟩ := List.forall_mem_cons.1 h
    rw [List.cons_append, hasOpening_cons_of_ne hc.1, ih hcs]

end Reading

theorem hasOpening_chars (pieces : List Piece) :
    hasOpening (chars pieces) = true ↔ keys pieces ≠ [] := by
  induction pieces with
  | nil => simp [hasOpening, keys]
  | cons p pieces ih =>
    cases p with
    | literal t => rw [chars_cons, Piece.chars, hasOpening_plain t.plain, keys_literal, ih]
    | placeholder inside => simp [Piece.chars, hasOpening]

/-! ## One pass -/

/-- What a piece becomes in a pass: a placeholder becomes the pieces of its value. -/
def Piece.unfolded (values : StringMap (List Piece)) : Piece → List Piece
  | literal t => [literal t]
  | placeholder inside => (values.get? (keyOf inside.chars)).getD []

/-- The pieces after one pass. -/
def unfolded (values : StringMap (List Piece)) (pieces : List Piece) : List Piece :=
  pieces.flatMap (Piece.unfolded values)

@[simp] theorem unfolded_cons (values : StringMap (List Piece)) (p : Piece)
    (pieces : List Piece) :
    unfolded values (p :: pieces) = p.unfolded values ++ unfolded values pieces := rfl

section Pass

variable {values : StringMap (List Piece)} {pieces : List Piece}

theorem mem_keys_unfolded {k : String} :
    k ∈ keys (unfolded values pieces) ↔
      ∃ k' ∈ keys pieces, ∃ v, values.get? k' = some v ∧ k ∈ keys v := by
  induction pieces with
  | nil => simp [unfolded, keys]
  | cons p pieces ih =>
    rw [unfolded_cons, keys_append, List.mem_append, ih]
    cases p with
    | literal t => exact or_iff_right List.not_mem_nil
    | placeholder inside =>
      simp only [keys_placeholder, List.mem_cons, or_and_right, exists_or, exists_eq_left]
      refine or_congr_left ?_
      rw [Piece.unfolded]
      cases values.get? (keyOf inside.chars) <;> simp [keys]

/-- A pass over the text of pieces is a pass over the pieces, if all keys have values. -/
theorem substitute_chars (h : ∀ k ∈ keys pieces, ∃ v, values.get? k = some v) :
    substitute (values.map text) (chars pieces) = .ok (chars (unfolded values pieces)) := by
  rw [substitute]
  induction pieces with
  | nil => rfl
  | cons p pieces ih =>
    cases p with
    | literal t =>
      rw [chars_cons, Piece.chars, substituteFrom_plain _ t.plain, ih h]
      rfl
    | placeholder inside =>
      obtain ⟨⟨v, hv⟩, hrest⟩ := List.forall_mem_cons.1 h
      have hget : (values.map text).get? (keyOf inside.chars) = some (text v) := by
        rw [StringMap.get?_map, hv, Option.map_some]
      rw [chars_cons, substituteFrom_placeholder, hget]
      show Except.map _ (substituteFrom _ none (chars pieces)) = _
      rw [ih hrest, unfolded_cons, Piece.unfolded, hv, chars_append, text, String.toList_ofList]
      rfl

/-- Otherwise it comes to a key without a value. -/
theorem substitute_chars_of_missing {k : String} (hk : k ∈ keys pieces)
    (h : values.get? k = none) :
    ∃ k', substitute (values.map text) (chars pieces) = .error (.noValue k') := by
  rw [substitute]
  induction pieces with
  | nil => cases hk
  | cons p pieces ih =>
    cases p with
    | literal t =>
      obtain ⟨k', hk'⟩ := ih hk
      exact ⟨k', by rw [chars_cons, Piece.chars, substituteFrom_plain _ t.plain, hk']; rfl⟩
    | placeholder inside =>
      rw [chars_cons, substituteFrom_placeholder, StringMap.get?_map]
      cases hv : values.get? (keyOf inside.chars) with
      | none => exact ⟨_, rfl⟩
      | some v =>
        have hne : k ≠ keyOf inside.chars := by
          rintro rfl
          rw [h] at hv
          cases hv
        obtain ⟨k', hk'⟩ := ih ((List.mem_cons.1 hk).resolve_left hne)
        exact ⟨k', by rw [Option.map_some, hk']; rfl⟩

end Pass

end RedisControl.Template
