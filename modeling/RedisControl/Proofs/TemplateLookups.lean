import RedisControl.Owned.ConfigMaps
import RedisControl.Proofs.TemplatePieces

/-!
# What rendering looks at

**Theorem (`render_depends_on_lookups`).** For any template, with braces in any place: a rendered
text has no opening, so rendering it again with any values leaves it as it is, and more values would
not have changed it. Rendering depends on the values of the keys that it looks up and on no others,
whether it succeeds or fails, and every failure is an error of the configuration.

Which keys these are cannot be read off the template. A value can hold placeholders, and together
with the text around it can form new ones, so they are only known by following the passes
(`Template.lookedUp`). That nothing else is listed there is part of the theorem: rendering looks up
a key if and only if it fails for want of it once the key is taken away.
-/

namespace RedisControl.Template

/-! ## The keys that are looked up -/

/-- The keys that a pass looks up from some point in the text on. It stops at the first one
without a value. -/
def lookupsFrom (values : StringMap String) : Option (List Char) → List Char → List String
  | none, [] => []
  | none, '{' :: '{' :: rest => lookupsFrom values (some []) rest
  | none, _ :: rest => lookupsFrom values none rest
  | some _, [] => []
  | some inside, '}' :: '}' :: rest =>
    keyOf inside.reverse ::
      match values.get? (keyOf inside.reverse) with
      | none => []
      | some _ => lookupsFrom values none rest
  | some inside, c :: rest => lookupsFrom values (some (c :: inside)) rest

/-- The keys that a number of passes look up. -/
def lookups (values : StringMap String) : Nat → List Char → List String
  | 0, _ => []
  | n + 1, text =>
    if hasOpening text then
      lookupsFrom values none text ++
        match substitute values text with
        | .error _ => []
        | .ok next => lookups values n next
    else []

/-- The keys that rendering looks up. -/
def lookedUp (template : String) (values : StringMap String) : List String :=
  lookups values maxPasses template.toList

variable {values other : StringMap String} {state : Option (List Char)} {text : List Char}
  {n : Nat} {k : String}

/-! ## One pass -/

theorem substituteFrom_congr
    (h : ∀ k ∈ lookupsFrom values state text, other.get? k = values.get? k) :
    substituteFrom other state text = substituteFrom values state text := by
  fun_induction lookupsFrom values state text with
  | case1 | case4 => rfl
  | case2 rest ih => exact ih h
  | case3 c rest hc ih => rw [substituteFrom, substituteFrom, ih h] <;> exact hc
  -- At the end of a placeholder its key is looked up, and the rest only if it has a value.
  | case5 inside rest ih =>
    obtain ⟨hkey, hrest⟩ := List.forall_mem_cons.1 h
    rw [substituteFrom, substituteFrom, hkey]
    cases hv : values.get? (keyOf inside.reverse) with
    | none => rfl
    | some value =>
      rw [hv] at hrest
      show (substituteFrom other none rest).map _ = (substituteFrom values none rest).map _
      rw [ih hrest]
  | case6 inside c rest hc ih => rw [substituteFrom, substituteFrom, ih h] <;> exact hc

theorem mem_lookupsFrom_of_noValue (h : substituteFrom values state text = .error (.noValue k)) :
    k ∈ lookupsFrom values state text ∧ values.get? k = none := by
  fun_induction lookupsFrom values state text with
  | case1 | case4 => cases h
  | case2 rest ih => exact ih h
  | case3 c rest hc ih =>
    rw [substituteFrom] at h
    · exact ih (map_eq_error_iff.1 h)
    · exact hc
  | case5 inside rest ih =>
    rw [substituteFrom] at h
    cases hv : values.get? (keyOf inside.reverse) with
    | none =>
      rw [hv] at h
      cases h
      exact ⟨List.mem_cons_self, hv⟩
    | some value =>
      rw [hv] at h
      obtain ⟨hmem, hnone⟩ := ih (map_eq_error_iff.1 h)
      exact ⟨List.mem_cons_of_mem _ hmem, hnone⟩
  | case6 inside c rest hc ih =>
    rw [substituteFrom] at h
    · exact ih h
    · exact hc

/-- A pass that looks up a key fails for want of it, if that key is missing and all others have the
values that they had. -/
theorem substituteFrom_of_missing (hmissing : other.get? k = none)
    (hothers : ∀ k', k' ≠ k → other.get? k' = values.get? k')
    (hk : k ∈ lookupsFrom values state text) :
    substituteFrom other state text = .error (.noValue k) := by
  fun_induction lookupsFrom values state text with
  | case1 | case4 => cases hk
  | case2 rest ih => exact ih hk
  | case3 c rest hc ih =>
    rw [substituteFrom]
    · exact map_eq_error_iff.2 (ih hk)
    · exact hc
  | case5 inside rest ih =>
    rw [substituteFrom]
    by_cases hkey : keyOf inside.reverse = k
    · rw [hkey, hmissing]
    · have hrest := (List.mem_cons.1 hk).resolve_left (Ne.symm hkey)
      rw [hothers _ hkey]
      cases hv : values.get? (keyOf inside.reverse) with
      | none =>
        rw [hv] at hrest
        cases hrest
      | some value =>
        rw [hv] at hrest
        exact map_eq_error_iff.2 (ih hrest)
  | case6 inside c rest hc ih =>
    rw [substituteFrom]
    · exact ih hk
    · exact hc

/-! ## All passes -/

theorem passes_congr (h : ∀ k ∈ lookups values n text, other.get? k = values.get? k) :
    passes other n text = passes values n text := by
  induction n generalizing text with
  | zero => rfl
  | succ n ih =>
    rw [passes, passes]
    by_cases hopen : hasOpening text = true
    · rw [lookups, if_pos hopen] at h
      obtain ⟨hpass, hnext⟩ := List.forall_mem_append.1 h
      rw [if_pos hopen, if_pos hopen, substitute, substituteFrom_congr hpass, ← substitute]
      cases hs : substitute values text with
      | error e => rfl
      | ok next =>
        rw [hs] at hnext
        exact ih hnext
    · rw [if_neg hopen, if_neg hopen]

theorem mem_lookups_of_noValue (h : passes values n text = .error (.noValue k)) :
    k ∈ lookups values n text ∧ values.get? k = none := by
  induction n generalizing text with
  | zero =>
    rw [passes] at h
    split at h <;> cases h
  | succ n ih =>
    rw [passes] at h
    by_cases hopen : hasOpening text = true
    · rw [if_pos hopen] at h
      rw [lookups, if_pos hopen, List.mem_append]
      cases hs : substitute values text with
      | error e =>
        rw [hs] at h
        cases h
        obtain ⟨hmem, hnone⟩ := mem_lookupsFrom_of_noValue hs
        exact ⟨.inl hmem, hnone⟩
      | ok next =>
        rw [hs] at h
        obtain ⟨hmem, hnone⟩ := ih h
        exact ⟨.inr hmem, hnone⟩
    · rw [if_neg hopen] at h
      cases h

/-- Passes that look up a key fail for want of it, if that key is missing and all others have the
values that they had. -/
theorem passes_of_missing (hmissing : other.get? k = none)
    (hothers : ∀ k', k' ≠ k → other.get? k' = values.get? k') (hk : k ∈ lookups values n text) :
    passes other n text = .error (.noValue k) := by
  induction n generalizing text with
  | zero => cases hk
  | succ n ih =>
    rw [lookups] at hk
    by_cases hopen : hasOpening text = true
    · rw [if_pos hopen] at hk
      rw [passes, if_pos hopen, substitute]
      by_cases hfirst : k ∈ lookupsFrom values none text
      · rw [substituteFrom_of_missing hmissing hothers hfirst]
        rfl
      · -- The key is looked up in a later pass, so this one goes as before.
        have hsame : ∀ k' ∈ lookupsFrom values none text, other.get? k' = values.get? k' :=
          fun k' hk' => hothers k' fun he => hfirst (he ▸ hk')
        have hlater := (List.mem_append.1 hk).resolve_left hfirst
        rw [substituteFrom_congr hsame, ← substitute]
        cases hs : substitute values text with
        | error e =>
          rw [hs] at hlater
          cases hlater
        | ok next =>
          rw [hs] at hlater
          exact ih hlater
    · rw [if_neg hopen] at hk
      cases hk

/-! ## Rendering -/

variable {template : String}

theorem render_congr (h : ∀ k ∈ lookedUp template values, other.get? k = values.get? k) :
    render template other = render template values := by
  rw [render, render, passes_congr h]

theorem exists_value_of_mem_lookedUp {s : String} (hs : render template values = .ok s)
    (hk : k ∈ lookedUp template values) : ∃ v, values.get? k = some v := by
  refine Option.ne_none_iff_exists'.1 fun hmissing => ?_
  have hfails := passes_of_missing hmissing (fun _ _ => rfl) hk
  rw [render_eq_ok_iff, hfails] at hs
  cases hs

theorem mem_lookedUp_iff :
    k ∈ lookedUp template values ↔ render template (values.erase k) = .error (.noValue k) := by
  have hothers : ∀ k', k' ≠ k → (values.erase k).get? k' = values.get? k' := by
    intro k' hne
    rw [StringMap.get?_erase, if_neg (Ne.symm hne)]
  rw [render_eq_error_iff]
  constructor
  · intro hk
    have hmissing : (values.erase k).get? k = none := by rw [StringMap.get?_erase, if_pos rfl]
    exact passes_of_missing hmissing hothers hk
  · intro h
    -- Had the key not been looked up, erasing it would change nothing, and no pass would fail for
    -- it.
    refine Decidable.byContradiction fun hk => hk ?_
    have hsame : ∀ k' ∈ lookedUp template values, (values.erase k).get? k' = values.get? k' :=
      fun k' hk' => hothers k' fun he => hk (he ▸ hk')
    rw [passes_congr hsame] at h
    exact (mem_lookups_of_noValue h).1

/-- **What rendering depends on.** -/
theorem render_depends_on_lookups (template : String) (values : StringMap String) :
    (∀ s, render template values = .ok s →
      ¬ ['{', '{'] <:+: s.toList ∧ (∀ other, render s other = .ok s) ∧
        ∀ other : StringMap String, (∀ k v, values.get? k = some v → other.get? k = some v) →
          render template other = .ok s) ∧
    (∀ other : StringMap String,
      (∀ k ∈ lookedUp template values, other.get? k = values.get? k) →
        render template other = render template values) ∧
    (∀ k, k ∈ lookedUp template values ↔
      render template (values.erase k) = .error (.noValue k)) ∧
    ∀ e, (render template values).mapError ControlError.ofRender = .error e →
      e = .configGeneration "unterminated placeholder" ∨
      e = .configGeneration "template parameters nested too deeply" ∨
      ∃ k ∈ lookedUp template values, values.get? k = none ∧
        e = .configGeneration ("no value for template parameter '" ++ k ++ "'") := by
  refine ⟨?_, fun other h => render_congr h, fun k => mem_lookedUp_iff, ?_⟩
  · intro s hs
    have hnone := hasOpening_of_passes (render_eq_ok_iff.1 hs)
    refine ⟨not_isInfix_of_render hs, ?_, ?_⟩
    · intro other
      exact render_eq_ok_iff.2 (passes_of_hasOpening_eq_false other hnone maxPasses)
    · intro other hextends
      rw [← hs]
      refine render_congr fun k hk => ?_
      obtain ⟨v, hv⟩ := exists_value_of_mem_lookedUp hs hk
      rw [hv, hextends k v hv]
  · intro e he
    cases hr : render template values with
    | ok s =>
      rw [hr] at he
      cases he
    | error fault =>
      rw [hr] at he
      cases he
      cases fault with
      | unterminated => exact .inl rfl
      | tooDeep => exact .inr (.inl rfl)
      | noValue k =>
        obtain ⟨hk, hmissing⟩ := mem_lookups_of_noValue (render_eq_error_iff.1 hr)
        exact .inr (.inr ⟨k, hk, hmissing, rfl⟩)

/-- Two values that form a placeholder together: its key stands in neither of them, and is looked up
in the second pass. A value for another key changes nothing. -/
theorem render_depends_on_lookups_formed :
    let values : StringMap String := .ofList [("a", "\x7b"), ("b", "\x7bp\x7d\x7d"), ("p", "6")]
    let template := "\x7b\x7ba\x7d\x7d\x7b\x7bb\x7d\x7d"
    let other := values.insert "unused" "\x7b\x7b"
    render template values = .ok "6" ∧ lookedUp template values = ["a", "b", "p"] ∧
      (∀ k ∈ lookedUp template values, other.get? k = values.get? k) ∧
      render template other = .ok "6" ∧
      render template (values.erase "p") = .error (.noValue "p") := by
  intro values template other
  have hkeys : lookedUp template values = ["a", "b", "p"] := by decide +kernel
  have hsame : ∀ k ∈ lookedUp template values, other.get? k = values.get? k := by
    rw [hkeys]
    decide +kernel
  obtain ⟨-, hcongr, hlooked, -⟩ := render_depends_on_lookups template values
  have hrender : render template values = .ok "6" := eq_ok_of_toOption (by decide +kernel)
  have hp : "p" ∈ lookedUp template values := by
    rw [hkeys]
    decide
  exact ⟨hrender, hkeys, hsame, (hcongr other hsame).trans hrender, (hlooked "p").1 hp⟩

end RedisControl.Template
