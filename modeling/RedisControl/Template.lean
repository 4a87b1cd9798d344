import RedisControl.StringMap
import RedisControl.Text.Blank

/-!
# Templates

A template is text with placeholders: two opening braces, a key with blanks around it, two closing
braces. One pass puts the value of its key in the place of each placeholder, from left to right,
without looking at what it has put in. Values may hold placeholders themselves, so passes are
repeated until no opening is left, four times at most.

* `substitute` : one pass.
* `render` : passes until no opening is left.
* `hasOpening_iff` : an opening is two braces anywhere in the text.
-/

namespace RedisControl.Template

/-- Why a template cannot be rendered. -/
inductive RenderError where
  | unterminated
  | noValue (key : String)
  /-- After the last pass there is still an opening. -/
  | tooDeep
  deriving DecidableEq

/-- What is said of an error. -/
def RenderError.message : RenderError → String
  | .unterminated => "unterminated placeholder"
  | .noValue key => "no value for template parameter '" ++ key ++ "'"
  | .tooDeep => "template parameters nested too deeply"

/-- The key that the inside of a placeholder names. -/
def keyOf (inside : List Char) : String := String.ofList (Text.trim inside)

/-- Substitute from some point in the text on. Inside a placeholder the characters since its
opening are kept in reverse. -/
def substituteFrom (values : StringMap String) :
    Option (List Char) → List Char → Except RenderError (List Char)
  | none, [] => .ok []
  | none, '{' :: '{' :: rest => substituteFrom values (some []) rest
  | none, c :: rest => (substituteFrom values none rest).map (c :: ·)
  | some _, [] => .error .unterminated
  | some inside, '}' :: '}' :: rest =>
    match values.get? (keyOf inside.reverse) with
    | none => .error (.noValue (keyOf inside.reverse))
    | some value => (substituteFrom values none rest).map (value.toList ++ ·)
  | some inside, c :: rest => substituteFrom values (some (c :: inside)) rest

/-- One pass: each placeholder from left to right is replaced by the value of its key. -/
def substitute (values : StringMap String) (text : List Char) : Except RenderError (List Char) :=
  substituteFrom values none text

/-- Whether a placeholder opens anywhere. -/
def hasOpening : List Char → Bool
  | '{' :: '{' :: _ => true
  | _ :: rest => hasOpening rest
  | [] => false

/-- Repeat passes until no opening is left, a number of times at most. -/
def passes (values : StringMap String) : Nat → List Char → Except RenderError (List Char)
  | 0, text => if hasOpening text then .error .tooDeep else .ok text
  | n + 1, text =>
    if hasOpening text then (substitute values text).bind (passes values n) else .ok text

/-- How many passes there are at most, so that a value that refers to itself comes to an end. -/
def maxPasses : Nat := 4

/-- Fill a template with values, and fill what they bring in, up to a number of passes. -/
def render (template : String) (values : StringMap String) : Except RenderError String :=
  (passes values maxPasses template.toList).map String.ofList

/-! ## Openings and passes -/

section Steps

variable {values : StringMap String} {c : Char} {text : List Char}

/-- Where no opening starts, a character is kept. -/
theorem substituteFrom_cons_of_not_isPrefix (h : ¬ ['{', '{'] <+: c :: text) :
    substituteFrom values none (c :: text) = (substituteFrom values none text).map (c :: ·) := by
  rw [substituteFrom]
  rintro rest rfl rfl
  exact h ⟨rest, rfl⟩

/-- Where no closing starts, the inside of a placeholder goes on. -/
theorem substituteFrom_inside_of_not_isPrefix (inside : List Char)
    (h : ¬ ['}', '}'] <+: c :: text) :
    substituteFrom values (some inside) (c :: text) =
      substituteFrom values (some (c :: inside)) text := by
  rw [substituteFrom]
  rintro rest rfl rfl
  exact h ⟨rest, rfl⟩

end Steps

theorem hasOpening_cons_of_ne {c : Char} (h : c ≠ '{') (rest : List Char) :
    hasOpening (c :: rest) = hasOpening rest := by
  rw [hasOpening]
  intro _ hc
  exact absurd hc h

theorem hasOpening_iff (text : List Char) : hasOpening text = true ↔ ['{', '{'] <:+: text := by
  fun_induction hasOpening text with
  | case1 rest => exact iff_of_true rfl ⟨[], rest, rfl⟩
  | case2 c rest hne ih =>
    rw [List.infix_cons_iff, ih, or_iff_right]
    rintro ⟨tail, htext⟩
    obtain ⟨hfirst, hrest⟩ := List.cons.inj htext
    exact hne tail hfirst.symm hrest.symm
  | case3 => simp

/-- Where there is no opening, nothing is left to do. -/
theorem passes_of_hasOpening_eq_false (values : StringMap String) {text : List Char}
    (h : hasOpening text = false) (n : Nat) : passes values n text = .ok text := by
  have hnone : ¬ hasOpening text = true := by rw [h]; exact Bool.false_ne_true
  cases n with
  | zero | succ n => rw [passes, if_neg hnone]

/-- What the passes give has no opening. -/
theorem hasOpening_of_passes {values : StringMap String} {n : Nat} {text out : List Char}
    (h : passes values n text = .ok out) : hasOpening out = false := by
  induction n generalizing text with
  | zero =>
    rw [passes] at h
    split at h
    · cases h
    · rename_i hnone
      cases h
      exact Bool.eq_false_iff.2 hnone
  | succ n ih =>
    rw [passes] at h
    split at h
    · cases hs : substitute values text with
      | error e =>
        rw [hs] at h
        cases h
      | ok next =>
        rw [hs] at h
        exact ih h
    · rename_i hnone
      cases h
      exact Bool.eq_false_iff.2 hnone

theorem render_eq_ok_iff {template s : String} {values : StringMap String} :
    render template values = .ok s ↔ passes values maxPasses template.toList = .ok s.toList := by
  rw [render]
  cases passes values maxPasses template.toList with
  | error e => exact iff_of_false nofun nofun
  | ok cs =>
    show Except.ok (String.ofList cs) = Except.ok s ↔ Except.ok cs = Except.ok s.toList
    rw [Except.ok.injEq, Except.ok.injEq]
    constructor
    · rintro rfl
      exact String.toList_ofList.symm
    · rintro rfl
      exact String.ofList_toList

/-- A rendered text has no opening. -/
theorem not_isInfix_of_render {template s : String} {values : StringMap String}
    (h : render template values = .ok s) : ¬ ['{', '{'] <:+: s.toList := by
  rw [← hasOpening_iff, hasOpening_of_passes (render_eq_ok_iff.1 h)]
  exact Bool.false_ne_true

theorem eq_ok_of_toOption {α ε : Type} {x : Except ε α} {a : α} (h : x.toOption = some a) :
    x = .ok a := by
  cases x with
  | error e => cases h
  | ok b => rw [Option.some.inj h]

theorem map_eq_error_iff {α β ε : Type} {f : α → β} {x : Except ε α} {e : ε} :
    x.map f = .error e ↔ x = .error e := by
  cases x with
  | error e' => rw [Except.map, Except.error.injEq, Except.error.injEq]
  | ok a => exact iff_of_false nofun nofun

theorem render_eq_error_iff {template : String} {values : StringMap String} {e : RenderError} :
    render template values = .error e ↔ passes values maxPasses template.toList = .error e :=
  map_eq_error_iff

end RedisControl.Template
