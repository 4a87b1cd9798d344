/-!
# First occurrences of a mark, and slices between byte offsets

A mark stands first in a text where it stands and nowhere further left. Offsets count the bytes of
the UTF-8 form, and a slice between two of them exists only where both stand between characters, in
order and inside of the text.

* `Text.FirstAt` : a mark stands first between two parts of a text.
* `Text.FirstAt.unique`, `Text.exists_firstAt` : there is one such place, if the mark occurs at all.
* `Text.find?_of_firstAt` : a search returns the number of bytes before the first occurrence.
* `Text.slice?_eq_some` : a part of a text is the slice between the offsets of its two ends.
-/

namespace RedisControl.Text

variable {mark text before behind : List Char} {c : Char}

/-! ## First occurrences -/

/-- A mark stands in a text between two parts, and nowhere further left. -/
structure FirstAt (mark text before behind : List Char) : Prop where
  split : text = before ++ (mark ++ behind)
  leftmost : ∀ earlier later, text = earlier ++ (mark ++ later) → before.length ≤ earlier.length

namespace FirstAt

theorem unique {before' behind' : List Char} (h : FirstAt mark text before behind)
    (h' : FirstAt mark text before' behind') : before = before' ∧ behind = behind' := by
  have hlength : before.length = before'.length :=
    Nat.le_antisymm (h.leftmost _ _ h'.split) (h'.leftmost _ _ h.split)
  obtain ⟨hbefore, hrest⟩ := List.append_inj (h.split.symm.trans h'.split) hlength
  exact ⟨hbefore, List.append_cancel_left hrest⟩

theorem head (mark behind : List Char) : FirstAt mark (mark ++ behind) [] behind :=
  ⟨rfl, fun _ _ _ => Nat.zero_le _⟩

/-- A character in front, where the mark does not start with it. -/
theorem cons (h : FirstAt mark text before behind) (hhead : ¬ mark <+: c :: text) :
    FirstAt mark (c :: text) (c :: before) behind := by
  refine ⟨by rw [h.split, List.cons_append], fun earlier later hsplit => ?_⟩
  cases earlier with
  | nil => exact absurd ⟨later, hsplit.symm⟩ hhead
  | cons d earlier =>
    obtain ⟨-, hrest⟩ := List.cons.inj hsplit
    exact Nat.succ_le_succ (h.leftmost earlier later hrest)

theorem not_isPrefix (h : FirstAt mark text (c :: before) behind) : ¬ mark <+: text := by
  rintro ⟨later, hlater⟩
  exact absurd (h.leftmost [] later hlater.symm) (Nat.not_succ_le_zero _)

theorem tail (h : FirstAt mark (c :: text) (c :: before) behind) :
    FirstAt mark text before behind := by
  refine ⟨(List.cons.inj h.split).2, fun earlier later hsplit => ?_⟩
  exact Nat.le_of_succ_le_succ (h.leftmost (c :: earlier) later (by rw [hsplit, List.cons_append]))

theorem isInfix (h : FirstAt mark text before behind) : mark <:+: text := by
  refine ⟨before, behind, ?_⟩
  rw [h.split, List.append_assoc]

end FirstAt

/-- A mark that occurs in a text occurs first somewhere. -/
theorem exists_firstAt (h : mark <:+: text) : ∃ before behind, FirstAt mark text before behind := by
  induction text with
  | nil =>
    obtain rfl := List.infix_nil.1 h
    exact ⟨[], [], FirstAt.head [] []⟩
  | cons c text ih =>
    by_cases hhead : mark <+: c :: text
    · obtain ⟨behind, hbehind⟩ := hhead
      exact ⟨[], behind, hbehind ▸ FirstAt.head mark behind⟩
    · obtain ⟨before, behind, hfirst⟩ := ih ((List.infix_cons_iff.1 h).resolve_left hhead)
      exact ⟨c :: before, behind, hfirst.cons hhead⟩

/-! ## Byte offsets -/

/-- The number of bytes of a text in UTF-8. -/
def byteCount : List Char → Nat
  | [] => 0
  | c :: cs => c.utf8Size + byteCount cs

theorem byteCount_append (cs ds : List Char) :
    byteCount (cs ++ ds) = byteCount cs + byteCount ds := by
  induction cs with
  | nil => rw [List.nil_append, byteCount, Nat.zero_add]
  | cons c cs ih => rw [List.cons_append, byteCount, byteCount, ih, Nat.add_assoc]

/-- How many bytes stand before the first occurrence of a mark. -/
def find? (mark : List Char) : List Char → Option Nat
  | [] => if mark.isPrefixOf [] then some 0 else none
  | c :: cs =>
    if mark.isPrefixOf (c :: cs) then some 0 else (find? mark cs).map (c.utf8Size + ·)

theorem find?_of_firstAt (h : FirstAt mark text before behind) :
    find? mark text = some (byteCount before) := by
  induction before generalizing text with
  | nil =>
    have hhead : mark.isPrefixOf text = true :=
      List.isPrefixOf_iff_prefix.2 ⟨behind, h.split.symm⟩
    cases text <;> rw [find?, if_pos hhead] <;> rfl
  | cons c before ih =>
    have hsplit : text = c :: (before ++ (mark ++ behind)) := h.split
    subst hsplit
    rw [find?, if_neg (fun hhead => h.not_isPrefix (List.isPrefixOf_iff_prefix.1 hhead)),
      ih h.tail, Option.map_some, byteCount]

theorem find?_of_not_isInfix (h : ¬ mark <:+: text) : find? mark text = none := by
  induction text with
  | nil =>
    rw [find?, if_neg]
    intro hhead
    exact h (List.isPrefixOf_iff_prefix.1 hhead).isInfix
  | cons c text ih =>
    rw [List.infix_cons_iff, not_or] at h
    rw [find?, if_neg (fun hhead => h.1 (List.isPrefixOf_iff_prefix.1 hhead)), ih h.2,
      Option.map_none]

/-! ## Slices -/

/-- Split a text behind a number of bytes, if a character ends there. -/
def splitAt? : Nat → List Char → Option (List Char × List Char)
  | 0, cs => some ([], cs)
  | _ + 1, [] => none
  | n + 1, c :: cs =>
    if c.utf8Size ≤ n + 1 then
      (splitAt? (n + 1 - c.utf8Size) cs).map fun parts => (c :: parts.1, parts.2)
    else none

/-- The slice of a text between two byte offsets, if they are in order and inside of the text, and
both stand between characters. -/
def slice? (text : List Char) (start stop : Nat) : Option (List Char) :=
  if start ≤ stop then
    (splitAt? stop text).bind fun parts => (splitAt? start parts.1).map (·.2)
  else none

theorem splitAt?_append (before behind : List Char) :
    splitAt? (byteCount before) (before ++ behind) = some (before, behind) := by
  induction before with
  | nil => rw [byteCount, List.nil_append, splitAt?]
  | cons c before ih =>
    have hpos := c.utf8Size_pos
    obtain ⟨n, hn⟩ : ∃ n, byteCount (c :: before) = n + 1 :=
      Nat.exists_eq_add_one_of_ne_zero (by rw [byteCount]; omega)
    have hle : c.utf8Size ≤ n + 1 := by
      rw [← hn, byteCount]
      omega
    have hrest : n + 1 - c.utf8Size = byteCount before := by
      rw [← hn, byteCount, Nat.add_sub_cancel_left]
    rw [hn, List.cons_append, splitAt?, if_pos hle, hrest, ih, Option.map_some]

/-- A part of a text is the slice between the offsets of its two ends. -/
theorem slice?_eq_some {part : List Char} {start stop : Nat} (before behind : List Char)
    (split : text = before ++ (part ++ behind)) (hstart : start = byteCount before)
    (hstop : stop = byteCount (before ++ part)) : slice? text start stop = some part := by
  have hle : start ≤ stop := by
    rw [hstart, hstop, byteCount_append]
    exact Nat.le_add_right _ _
  rw [slice?, if_pos hle, split, ← List.append_assoc, hstop, splitAt?_append, Option.bind_some,
    hstart, splitAt?_append, Option.map_some]

end RedisControl.Text
