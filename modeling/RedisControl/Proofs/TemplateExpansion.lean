import RedisControl.Owned.ConfigMaps
import RedisControl.Proofs.TemplatePieces

/-!
# Rendering is recursive expansion, up to depth four

**Theorem (`render_expands`).** A well-formed template over well-formed values renders exactly when
every key that it reaches has a value and its placeholders are nested at most four deep. Its text
is then the complete recursive expansion. In all other cases, and so wherever a key that it reaches
refers back to itself, it is an error of the configuration.

Rendering works in breadth: each pass replaces all placeholders that stand in the text at the time.
Expansion works in depth: it expands the value of a placeholder before it looks at the rest. They
meet one pass at a time. The pieces after a pass reach the keys that the values of the placeholders
reached, are one level less deep, and have the expansion that the pieces had before.
-/

namespace RedisControl.Template

variable {values : StringMap (List Piece)} {pieces more : List Piece} {out : List Char} {n : Nat}

/-! ## What a template means -/

/-- A key that pieces refer to, directly or through the values of other keys. -/
inductive Reaches (values : StringMap (List Piece)) : List Piece → String → Prop where
  | here {pieces : List Piece} {k : String} (refers : k ∈ keys pieces) : Reaches values pieces k
  | through {pieces v : List Piece} {k k' : String} (refers : k ∈ keys pieces)
      (value : values.get? k = some v) (onwards : Reaches values v k') : Reaches values pieces k'

/-- The nesting depth is at most a number. It is 0 without placeholders, and otherwise one more
than that of the deepest of the values that they refer to. -/
def DepthAtMost (values : StringMap (List Piece)) : Nat → List Piece → Prop
  | 0, pieces => ∀ k, k ∉ keys pieces
  | n + 1, pieces => ∀ k ∈ keys pieces, ∀ v, values.get? k = some v → DepthAtMost values n v

/-- The complete recursive expansion of pieces. -/
inductive Expands (values : StringMap (List Piece)) : List Piece → List Char → Prop where
  | nil : Expands values [] []
  | literal {t : Plain} {rest : List Piece} {out : List Char} (onwards : Expands values rest out) :
      Expands values (.literal t :: rest) (t.chars ++ out)
  | placeholder {inside : Plain} {v rest : List Piece} {value out : List Char}
      (found : values.get? (keyOf inside.chars) = some v) (inner : Expands values v value)
      (onwards : Expands values rest out) :
      Expands values (.placeholder inside :: rest) (value ++ out)

/-- All keys that are reached have values. -/
def Complete (values : StringMap (List Piece)) (pieces : List Piece) : Prop :=
  ∀ k, Reaches values pieces k → ∃ v, values.get? k = some v

/-! ## One pass -/

theorem expands_append :
    Expands values (pieces ++ more) out ↔
      ∃ first last, out = first ++ last ∧ Expands values pieces first ∧
        Expands values more last := by
  induction pieces generalizing out with
  | nil =>
    constructor
    · intro h
      exact ⟨[], out, rfl, .nil, h⟩
    · rintro ⟨first, last, rfl, hfirst, hlast⟩
      cases hfirst
      exact hlast
  | cons p pieces ih =>
    rw [List.cons_append]
    constructor
    · intro h
      cases h with
      | literal onwards =>
        obtain ⟨first, last, rfl, hfirst, hlast⟩ := ih.1 onwards
        exact ⟨_, last, (List.append_assoc ..).symm, .literal hfirst, hlast⟩
      | placeholder found inner onwards =>
        obtain ⟨first, last, rfl, hfirst, hlast⟩ := ih.1 onwards
        exact ⟨_, last, (List.append_assoc ..).symm, .placeholder found inner hfirst, hlast⟩
    · rintro ⟨first, last, rfl, hfirst, hlast⟩
      cases hfirst with
      | literal onwards =>
        rw [List.append_assoc]
        exact .literal (ih.2 ⟨_, last, rfl, onwards, hlast⟩)
      | placeholder found inner onwards =>
        rw [List.append_assoc]
        exact .placeholder found inner (ih.2 ⟨_, last, rfl, onwards, hlast⟩)

theorem expands_unfolded (h : ∀ k ∈ keys pieces, ∃ v, values.get? k = some v) :
    Expands values (unfolded values pieces) out ↔ Expands values pieces out := by
  induction pieces generalizing out with
  | nil => exact Iff.rfl
  | cons p pieces ih =>
    rw [unfolded_cons, expands_append]
    cases p with
    | literal t =>
      constructor
      · rintro ⟨first, last, rfl, hfirst, hlast⟩
        cases hfirst with
        | literal onwards =>
          cases onwards
          rw [List.append_nil]
          exact .literal ((ih h).1 hlast)
      · intro hall
        cases hall with
        | literal onwards =>
          have hself : Expands values [.literal t] (t.chars ++ []) := .literal .nil
          rw [List.append_nil] at hself
          exact ⟨_, _, rfl, hself, (ih h).2 onwards⟩
    -- The inner expansion is that of the pieces that the value brings in.
    | placeholder inside =>
      obtain ⟨⟨v, hv⟩, hrest⟩ := List.forall_mem_cons.1 h
      rw [Piece.unfolded, hv, Option.getD_some]
      constructor
      · rintro ⟨first, last, rfl, hfirst, hlast⟩
        exact .placeholder hv hfirst ((ih hrest).1 hlast)
      · intro hall
        cases hall with
        | placeholder found inner onwards =>
          obtain rfl := Option.some.inj (hv.symm.trans found)
          exact ⟨_, _, rfl, inner, (ih hrest).2 onwards⟩

theorem expands_of_keys_eq_nil (h : keys pieces = []) :
    Expands values pieces out ↔ out = chars pieces := by
  induction pieces generalizing out with
  | nil =>
    constructor
    · intro hall
      cases hall
      rfl
    · rintro rfl
      exact .nil
  | cons p pieces ih =>
    cases p with
    | literal t =>
      constructor
      · intro hall
        cases hall with
        | literal onwards => rw [(ih h).1 onwards, chars_cons, Piece.chars]
      · rintro rfl
        exact .literal ((ih h).2 rfl)
    | placeholder inside => cases h

theorem reaches_unfolded {k : String} :
    Reaches values (unfolded values pieces) k ↔
      ∃ k' ∈ keys pieces, ∃ v, values.get? k' = some v ∧ Reaches values v k := by
  constructor
  · intro h
    cases h with
    | here refers =>
      obtain ⟨k', hk', v, hv, hmem⟩ := mem_keys_unfolded.1 refers
      exact ⟨k', hk', v, hv, .here hmem⟩
    | through refers value onwards =>
      obtain ⟨k', hk', v, hv, hmem⟩ := mem_keys_unfolded.1 refers
      exact ⟨k', hk', v, hv, .through hmem value onwards⟩
  · rintro ⟨k', hk', v, hv, h⟩
    cases h with
    | here refers => exact .here (mem_keys_unfolded.2 ⟨k', hk', v, hv, refers⟩)
    | through refers value onwards =>
      exact .through (mem_keys_unfolded.2 ⟨k', hk', v, hv, refers⟩) value onwards

/-- Where the keys that pieces refer to have values, all that they reach have, if that holds after
a pass. -/
theorem complete_unfolded (h : ∀ k ∈ keys pieces, ∃ v, values.get? k = some v) :
    Complete values (unfolded values pieces) ↔ Complete values pieces := by
  constructor
  · intro hrest k hk
    cases hk with
    | here refers => exact h k refers
    | through refers value onwards =>
      exact hrest k (reaches_unfolded.2 ⟨_, refers, _, value, onwards⟩)
  · intro hall k hk
    obtain ⟨k', hk', v, hv, onwards⟩ := reaches_unfolded.1 hk
    exact hall k (.through hk' hv onwards)

theorem depthAtMost_succ :
    DepthAtMost values (n + 1) pieces ↔ DepthAtMost values n (unfolded values pieces) := by
  cases n with
  | zero | succ n =>
    constructor
    · intro h k hk
      obtain ⟨k', hk', v, hv, hmem⟩ := mem_keys_unfolded.1 hk
      exact h k' hk' v hv k hmem
    · intro h k' hk' v hv k hmem
      exact h k (mem_keys_unfolded.2 ⟨k', hk', v, hv, hmem⟩)

/-! ## Pieces without placeholders -/

theorem depthAtMost_of_keys_eq_nil (h : keys pieces = []) (n : Nat) :
    DepthAtMost values n pieces := by
  cases n with
  | zero =>
    intro k
    rw [h]
    exact List.not_mem_nil
  | succ n =>
    intro k hk
    rw [h] at hk
    cases hk

theorem complete_of_keys_eq_nil (h : keys pieces = []) : Complete values pieces := by
  intro k hk
  cases hk with
  | here refers | through refers _ _ =>
    rw [h] at refers
    cases refers

/-! ## All passes -/

theorem passes_chars_of_keys_eq_nil (h : keys pieces = []) (n : Nat) :
    passes (values.map text) n (chars pieces) = .ok out ↔
      (Complete values pieces ∧ DepthAtMost values n pieces) ∧ Expands values pieces out := by
  have hnone : hasOpening (chars pieces) = false :=
    Bool.eq_false_iff.2 fun hopen => (hasOpening_chars pieces).1 hopen h
  have hcomplete : Complete values pieces := complete_of_keys_eq_nil h
  have hdepth : DepthAtMost values n pieces := depthAtMost_of_keys_eq_nil h n
  rw [passes_of_hasOpening_eq_false _ hnone, expands_of_keys_eq_nil h, Except.ok.injEq, eq_comm]
  exact (and_iff_right ⟨hcomplete, hdepth⟩).symm

/-- A number of passes gives the expansion exactly where all is defined and the nesting is no
deeper than the number. -/
theorem passes_chars_eq_ok_iff :
    passes (values.map text) n (chars pieces) = .ok out ↔
      (Complete values pieces ∧ DepthAtMost values n pieces) ∧ Expands values pieces out := by
  induction n generalizing pieces with
  | zero =>
    by_cases hkeys : keys pieces = []
    · exact passes_chars_of_keys_eq_nil hkeys 0
    rw [passes, if_pos ((hasOpening_chars pieces).2 hkeys)]
    constructor
    · intro h
      cases h
    · rintro ⟨⟨-, hdepth⟩, -⟩
      exact absurd (List.eq_nil_iff_forall_not_mem.2 hdepth) hkeys
  | succ n ih =>
    by_cases hkeys : keys pieces = []
    · exact passes_chars_of_keys_eq_nil hkeys (n + 1)
    rw [passes, if_pos ((hasOpening_chars pieces).2 hkeys)]
    -- A key without a value fails the pass, and is one that the pieces reach. Where there is none,
    -- a pass leaves one level less to the passes after it.
    by_cases hmissing : ∃ k ∈ keys pieces, values.get? k = none
    · obtain ⟨k, hk, hnone⟩ := hmissing
      obtain ⟨k', hpass⟩ := substitute_chars_of_missing hk hnone
      rw [hpass]
      constructor
      · intro h
        cases h
      · rintro ⟨⟨hcomplete, -⟩, -⟩
        obtain ⟨v, hv⟩ := hcomplete k (.here hk)
        rw [hnone] at hv
        cases hv
    · have hdefined : ∀ k ∈ keys pieces, ∃ v, values.get? k = some v := fun k hk =>
        Option.ne_none_iff_exists'.1 fun hnone => hmissing ⟨k, hk, hnone⟩
      rw [substitute_chars hdefined, ← complete_unfolded hdefined, depthAtMost_succ,
        ← expands_unfolded hdefined]
      exact ih

theorem exists_expands (hcomplete : Complete values pieces) (hdepth : DepthAtMost values n pieces) :
    ∃ out, Expands values pieces out := by
  induction n generalizing pieces with
  | zero =>
    have hkeys := List.eq_nil_iff_forall_not_mem.2 hdepth
    exact ⟨chars pieces, (expands_of_keys_eq_nil hkeys).2 rfl⟩
  | succ n ih =>
    have hdefined : ∀ k ∈ keys pieces, ∃ v, values.get? k = some v := fun k hk =>
      hcomplete k (.here hk)
    obtain ⟨out, hout⟩ := ih ((complete_unfolded hdefined).2 hcomplete) (depthAtMost_succ.1 hdepth)
    exact ⟨out, (expands_unfolded hdefined).1 hout⟩

/-! ## References in a circle -/

theorem DepthAtMost.exists_lt {k : String} {v : List Piece} (h : DepthAtMost values n pieces)
    (hk : Reaches values pieces k) (hv : values.get? k = some v) :
    ∃ m, m < n ∧ DepthAtMost values m v := by
  induction hk generalizing n with
  | here refers =>
    cases n with
    | zero => exact absurd refers (h _)
    | succ n => exact ⟨n, Nat.lt_succ_self n, h _ refers v hv⟩
  | through refers value _ ih =>
    cases n with
    | zero => exact absurd refers (h _)
    | succ n =>
      obtain ⟨m, hm, hdepth⟩ := ih (h _ refers _ value) hv
      exact ⟨m, Nat.lt_succ_of_lt hm, hdepth⟩

/-- The value of a key that reaches itself is nested without end. -/
theorem not_depthAtMost_of_loop {k : String} {v : List Piece} (hv : values.get? k = some v)
    (hloop : Reaches values v k) (n : Nat) : ¬ DepthAtMost values n v := by
  induction n using Nat.strongRecOn with
  | ind n ih =>
    intro h
    obtain ⟨m, hm, hdepth⟩ := h.exists_lt hloop hv
    exact ih m hm hdepth

/-! ## Rendering -/

/-- All keys that are reached have values, and they are nested no deeper than rendering goes. -/
def Expandable (values : StringMap (List Piece)) (pieces : List Piece) : Prop :=
  Complete values pieces ∧ DepthAtMost values 4 pieces

theorem render_text_eq_ok_iff {s : String} :
    render (text pieces) (values.map text) = .ok s ↔
      Expandable values pieces ∧ Expands values pieces s.toList := by
  rw [render_eq_ok_iff, text, String.toList_ofList]
  exact passes_chars_eq_ok_iff

theorem exists_configGeneration {r : Except RenderError String} (h : ∀ s, r ≠ .ok s) :
    ∃ t, r.mapError ControlError.ofRender = .error (.configGeneration t) := by
  cases r with
  | error e => exact ⟨e.message, rfl⟩
  | ok s => exact absurd rfl (h s)

/-- **Rendering is recursive expansion, up to depth four.** -/
theorem render_expands {template : String} {params : StringMap String} (ht : WellFormed template)
    (hp : ∀ e ∈ params.entries, WellFormed e.2) :
    (∃ (pieces : List Piece) (values : StringMap (List Piece)),
      text pieces = template ∧ values.map text = params) ∧
    ∀ (pieces : List Piece) (values : StringMap (List Piece)),
      text pieces = template → values.map text = params →
      (∀ s, render template params = .ok s ↔
        Expandable values pieces ∧ Expands values pieces s.toList) ∧
      (Expandable values pieces → ∃ s, render template params = .ok s) ∧
      (¬ Expandable values pieces → ∃ t,
        (render template params).mapError ControlError.ofRender = .error (.configGeneration t)) ∧
      ∀ k v, Reaches values pieces k → values.get? k = some v → Reaches values v k → ∃ t,
        (render template params).mapError ControlError.ofRender = .error (.configGeneration t) := by
  obtain ⟨pieces, hpieces⟩ := ht
  obtain ⟨values, hvalues⟩ := exists_map_text hp
  refine ⟨⟨pieces, values, hpieces, hvalues⟩, ?_⟩
  rintro pieces values rfl rfl
  have hfails : ¬ Expandable values pieces → ∃ t,
      (render (text pieces) (values.map text)).mapError ControlError.ofRender =
        .error (.configGeneration t) := by
    intro hnot
    exact exists_configGeneration fun s hs => hnot (render_text_eq_ok_iff.1 hs).1
  refine ⟨fun s => render_text_eq_ok_iff, ?_, hfails, ?_⟩
  · intro hexp
    obtain ⟨out, hout⟩ := exists_expands hexp.1 hexp.2
    refine ⟨String.ofList out, render_text_eq_ok_iff.2 ⟨hexp, ?_⟩⟩
    rw [String.toList_ofList]
    exact hout
  · intro k v hk hv hloop
    -- A key that reaches itself has no depth, so there is nothing to expand to.
    refine hfails fun hexp => ?_
    obtain ⟨m, -, hdepth⟩ := hexp.2.exists_lt hk hv
    exact not_depthAtMost_of_loop hv hloop m hdepth

theorem render_expands_nested :
    let port : Piece := .placeholder ⟨[' ', 'p', '\u3000'], by simp⟩
    let pieces : List Piece := [.placeholder ⟨['l', '\n'], by simp⟩, .literal ⟨['!'], by simp⟩]
    let values : StringMap (List Piece) := .ofList [
      ("l", [.literal ⟨['o', 'n', ' '], by simp⟩, port]), ("p", [.literal ⟨['6'], by simp⟩])]
    WellFormed (text pieces) ∧ (∀ e ∈ (values.map text).entries, WellFormed e.2) ∧
      Expandable values pieces ∧ Expands values pieces "on 6!".toList := by
  intro port pieces values
  have hpieces : WellFormed (text pieces) := ⟨pieces, rfl⟩
  have hvalues : ∀ e ∈ (values.map text).entries, WellFormed e.2 := by
    intro e he
    obtain ⟨d, -, rfl⟩ := List.mem_map.1 he
    exact ⟨d.2, rfl⟩
  have hrender : render (text pieces) (values.map text) = .ok "on 6!" :=
    eq_ok_of_toOption (by decide +kernel)
  obtain ⟨-, hall⟩ := render_expands hpieces hvalues
  exact ⟨hpieces, hvalues, ((hall pieces values rfl rfl).1 "on 6!").1 hrender⟩

end RedisControl.Template
