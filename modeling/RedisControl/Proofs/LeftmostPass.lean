import RedisControl.Owned.ConfigMaps
import RedisControl.Proofs.Occurrences

/-!
# A pass goes once through the text, from left to right

**Theorem (`substitute_leftmost`).** A pass succeeds exactly on the texts that can be read as
`l₀ {{k₁}} l₁ … {{kₙ}} lₙ`, where each opening is the first one of what is left, each inside goes
up to the first closing behind its opening, no opening is left in `lₙ`, and every key has a value.
There is at most one such reading. The result is the same text with the values in the place of the
placeholders, as they are. On any other text the error is that of the first placeholder from the
left which is unterminated or has no value.

Nothing is assumed of the braces: there may be runs of them, and closings where nothing was opened.
So it cannot be read off the pieces of a text what a pass does, as it can where the pieces hold no
braces. A reading is a relation between a text, the placeholders read from it and what is left
(`Reads`), and what holds of the shorter rest behind a placeholder is carried over to the text
(`placeholder_induction`).

The theorem also tells the pass in byte offsets (`turn?`): search an opening, search a closing from
there on, take slices between the two. A slice that is out of range, or cuts a character, would
leave a turn undefined. None does, and turn after turn comes to the same result
(`turnsTo_substitute`).

* `substitute_of_placeholder`, `turn?_of_placeholder` : the step at a placeholder, in characters and
  in byte offsets.
* `Reads.unique` : how a text is read does not leave a choice.
* `exists_reads` : placeholders are read until none is left, or one cannot be replaced.
-/

namespace RedisControl.Template

open Text

/-! ## How a text is read -/

def opening : List Char := ['{', '{']

def closing : List Char := ['}', '}']

/-- A placeholder with the text before it. -/
structure Segment where
  before : List Char
  inside : List Char

/-- The key of the placeholder. -/
def Segment.key (s : Segment) : String := keyOf s.inside

/-- A text is read as placeholders, each with the text before it, and the text that is left. Every
placeholder starts at the first opening of what is left, and ends at the first closing behind it. -/
inductive Reads : List Char → List Segment → List Char → Prop
  | nil (text : List Char) : Reads text [] text
  | cons {text behind rest last : List Char} {s : Segment} {segments : List Segment}
      (opens : FirstAt opening text s.before behind) (closes : FirstAt closing behind s.inside rest)
      (onwards : Reads rest segments last) : Reads text (s :: segments) last

/-- The text that placeholders have been read from. -/
def spelled (segments : List Segment) : List Char :=
  segments.flatMap fun s => s.before ++ (opening ++ (s.inside ++ closing))

/-- The same text with values in the place of the placeholders. -/
def filled (values : StringMap String) (segments : List Segment) : List Char :=
  segments.flatMap fun s => s.before ++ ((values.get? s.key).getD "").toList

/-- The keys of all placeholders have values. -/
def HasValues (values : StringMap String) (segments : List Segment) : Prop :=
  ∀ s ∈ segments, ∃ value, values.get? s.key = some value

/-- The first placeholder of a text cannot be replaced, and the message says why. -/
inductive Fails (values : StringMap String) (text : List Char) : String → Prop
  | unterminated {before behind : List Char} (opens : FirstAt opening text before behind)
      (unclosed : ¬ closing <:+: behind) : Fails values text "unterminated placeholder"
  | noValue {behind rest : List Char} {s : Segment} (opens : FirstAt opening text s.before behind)
      (closes : FirstAt closing behind s.inside rest) (missing : values.get? s.key = none) :
      Fails values text ("no value for template parameter '" ++ s.key ++ "'")

/-! ## A pass in byte offsets -/

/-- What one turn of a pass comes to: the text is finished, or there is an error, or a placeholder
gets its value and the pass goes on with the rest. -/
inductive Turn where
  | finished
  | failed (e : RenderError)
  | replaced (before : List Char) (value : String) (rest : List Char)

/-- One turn of a pass, told with searches and slices. It is undefined if a slice is. -/
def turn? (values : StringMap String) (text : List Char) : Option Turn :=
  match find? opening text with
  | none => some .finished
  | some start => do
    let fromOpening ← slice? text start (byteCount text)
    match find? closing fromOpening with
    | none => return .failed .unterminated
    | some offset =>
      let inside ← slice? text (start + 2) (start + offset)
      match values.get? (keyOf inside) with
      | none => return .failed (.noValue (keyOf inside))
      | some value =>
        let before ← slice? text 0 start
        let rest ← slice? text (start + offset + 2) (byteCount text)
        return .replaced before value rest

/-- Turn after turn, a text comes to a result. -/
inductive TurnsTo (values : StringMap String) : List Char → Except RenderError (List Char) → Prop
  | finished {text : List Char} (turn : turn? values text = some .finished) :
      TurnsTo values text (.ok text)
  | failed {text : List Char} {e : RenderError} (turn : turn? values text = some (.failed e)) :
      TurnsTo values text (.error e)
  | replaced {text before rest : List Char} {value : String}
      {r : Except RenderError (List Char)}
      (turn : turn? values text = some (.replaced before value rest))
      (onwards : TurnsTo values rest r) :
      TurnsTo values text (r.map ((before ++ value.toList) ++ ·))

variable {values : StringMap String} {text before behind rest last : List Char} {s : Segment}
  {segments : List Segment}

/-! ## Steps of the scanner -/

theorem substitute_of_unopened (h : ¬ opening <:+: text) : substitute values text = .ok text := by
  rw [substitute]
  induction text with
  | nil => rfl
  | cons c text ih =>
    rw [List.infix_cons_iff, not_or] at h
    rw [substituteFrom_cons_of_not_isPrefix h.1, ih h.2]
    rfl

/-- Text before the first opening is kept. -/
theorem substitute_of_opening (h : FirstAt opening text before behind) :
    substitute values text = (substituteFrom values (some []) behind).map (before ++ ·) := by
  rw [substitute]
  induction before generalizing text with
  | nil =>
    rw [h.split]
    show substituteFrom values (some []) behind = _
    cases substituteFrom values (some []) behind <;> rfl
  | cons c before ih =>
    obtain rfl : text = c :: (before ++ (opening ++ behind)) := h.split
    rw [substituteFrom_cons_of_not_isPrefix h.not_isPrefix, ih h.tail]
    cases substituteFrom values (some []) behind <;> rfl

theorem substituteFrom_inside_of_unclosed (inside : List Char) (h : ¬ closing <:+: text) :
    substituteFrom values (some inside) text = .error .unterminated := by
  induction text generalizing inside with
  | nil => rfl
  | cons c text ih =>
    rw [List.infix_cons_iff, not_or] at h
    rw [substituteFrom_inside_of_not_isPrefix inside h.1, ih _ h.2]

theorem substitute_of_unclosed (opens : FirstAt opening text before behind)
    (unclosed : ¬ closing <:+: behind) : substitute values text = .error .unterminated := by
  rw [substitute_of_opening opens, substituteFrom_inside_of_unclosed [] unclosed]
  rfl

/-- The inside of a placeholder goes up to the first closing. -/
theorem substituteFrom_inside_of_closing {inside : List Char} (start : List Char)
    (h : FirstAt closing text inside rest) :
    substituteFrom values (some start) text =
      substituteFrom values (some (inside.reverse ++ start)) (closing ++ rest) := by
  induction inside generalizing text start with
  | nil =>
    rw [h.split]
    rfl
  | cons c inside ih =>
    obtain rfl : text = c :: (inside ++ (closing ++ rest)) := h.split
    rw [substituteFrom_inside_of_not_isPrefix start h.not_isPrefix, ih _ h.tail,
      List.reverse_cons, List.append_assoc, List.singleton_append]

theorem substitute_of_placeholder (opens : FirstAt opening text s.before behind)
    (closes : FirstAt closing behind s.inside rest) :
    substitute values text =
      match values.get? s.key with
      | none => .error (.noValue s.key)
      | some value => (substitute values rest).map ((s.before ++ value.toList) ++ ·) := by
  have hinside : substituteFrom values (some []) behind =
      substituteFrom values (some s.inside.reverse) ('}' :: '}' :: rest) := by
    rw [substituteFrom_inside_of_closing [] closes, List.append_nil]
    rfl
  rw [substitute_of_opening opens, hinside, Segment.key]
  cases hv : values.get? (keyOf s.inside) with
  | none => simp only [substituteFrom, List.reverse_reverse, hv, Except.map]
  | some value =>
    simp only [substituteFrom, List.reverse_reverse, hv, substitute]
    cases substituteFrom values none rest with
    | error e => rfl
    | ok out => simp only [Except.map, List.append_assoc]

/-! ## Steps in byte offsets -/

theorem byteCount_opening : byteCount opening = 2 := rfl

theorem byteCount_closing : byteCount closing = 2 := rfl

/-- The first closing behind an opening is the first one from the opening on, because no closing
starts inside of an opening. -/
theorem firstAt_closing_opening {inside : List Char} (h : FirstAt closing behind inside rest) :
    FirstAt closing (opening ++ behind) (opening ++ inside) rest := by
  have hsecond : FirstAt closing ('{' :: behind) ('{' :: inside) rest := h.cons (by simp [closing])
  exact hsecond.cons (by simp [closing])

theorem not_isInfix_closing_opening (h : ¬ closing <:+: behind) :
    ¬ closing <:+: opening ++ behind := by
  simpa [opening, closing, List.infix_cons_iff] using h

theorem turn?_of_unopened (h : ¬ opening <:+: text) : turn? values text = some .finished := by
  rw [turn?, find?_of_not_isInfix h]

theorem turn?_of_unclosed (opens : FirstAt opening text before behind)
    (unclosed : ¬ closing <:+: behind) :
    turn? values text = some (.failed .unterminated) := by
  have hfrom : slice? text (byteCount before) (byteCount text) = some (opening ++ behind) :=
    slice?_eq_some before [] (by rw [opens.split, List.append_nil]) rfl (by rw [opens.split])
  rw [turn?, find?_of_firstAt opens]
  simp only [hfrom, Option.bind_eq_bind, Option.bind_some,
    find?_of_not_isInfix (not_isInfix_closing_opening unclosed)]
  rfl

theorem turn?_of_placeholder (values : StringMap String)
    (opens : FirstAt opening text s.before behind) (closes : FirstAt closing behind s.inside rest) :
    turn? values text = some (match values.get? s.key with
      | none => .failed (.noValue s.key)
      | some value => .replaced s.before value rest) := by
  have hsplit : text = s.before ++ (opening ++ (s.inside ++ (closing ++ rest))) := by
    rw [opens.split, closes.split]
  -- The four slices that a turn takes, told by the parts of the text instead of by offsets.
  have hfrom : slice? text (byteCount s.before) (byteCount text) = some (opening ++ behind) :=
    slice?_eq_some s.before [] (by rw [opens.split, List.append_nil]) rfl (by rw [opens.split])
  have hinside : slice? text (byteCount s.before + 2)
      (byteCount s.before + byteCount (opening ++ s.inside)) = some s.inside := by
    refine slice?_eq_some (s.before ++ opening) (closing ++ rest) ?_ ?_ ?_
    · rw [hsplit, List.append_assoc]
    · rw [byteCount_append, byteCount_opening]
    · rw [List.append_assoc, byteCount_append s.before]
  have hbefore : slice? text 0 (byteCount s.before) = some s.before :=
    slice?_eq_some [] (opening ++ behind) opens.split rfl rfl
  have hrest : slice? text (byteCount s.before + byteCount (opening ++ s.inside) + 2)
      (byteCount text) = some rest := by
    refine slice?_eq_some (s.before ++ (opening ++ s.inside ++ closing)) [] ?_ ?_ ?_
    · simp only [hsplit, List.append_assoc, List.append_nil]
    · rw [byteCount_append s.before, byteCount_append (opening ++ s.inside), byteCount_closing,
        Nat.add_assoc]
    · simp only [hsplit, List.append_assoc]
  rw [turn?, find?_of_firstAt opens]
  simp only [hfrom, Option.bind_eq_bind, Option.bind_some,
    find?_of_firstAt (firstAt_closing_opening closes), hinside, Segment.key]
  cases values.get? (keyOf s.inside) with
  | none => rfl
  | some value =>
    simp only [hbefore, hrest, Option.bind_some]
    rfl

/-! ## One placeholder after the other -/

/-- What is left behind a placeholder is shorter. -/
theorem length_rest_lt (opens : FirstAt opening text before behind) {inside : List Char}
    (closes : FirstAt closing behind inside rest) : rest.length < text.length := by
  rw [opens.split, closes.split]
  simp only [opening, closing, List.length_append, List.length_cons]
  omega

/-- Induction on the placeholders of a text: it has no opening, or its first opening is not closed,
or there is a first placeholder and a rest behind it. -/
theorem placeholder_induction {motive : List Char → Prop}
    (unopened : ∀ text, ¬ opening <:+: text → motive text)
    (unclosed : ∀ text before behind, FirstAt opening text before behind →
      ¬ closing <:+: behind → motive text)
    (placeholder : ∀ text (s : Segment) behind rest, FirstAt opening text s.before behind →
      FirstAt closing behind s.inside rest → motive rest → motive text)
    (text : List Char) : motive text := by
  induction hlength : text.length using Nat.strongRecOn generalizing text with
  | ind n ih =>
    by_cases hopening : opening <:+: text
    · obtain ⟨before, behind, opens⟩ := exists_firstAt hopening
      by_cases hclosing : closing <:+: behind
      · obtain ⟨inside, rest, closes⟩ := exists_firstAt hclosing
        have hlt : rest.length < n := hlength ▸ length_rest_lt opens closes
        exact placeholder text ⟨before, inside⟩ behind rest opens closes (ih _ hlt rest rfl)
      · exact unclosed text before behind opens hclosing
    · exact unopened text hopening

/-- The pass in byte offsets ends, never misses a slice, and comes to what the scanner comes to. -/
theorem turnsTo_substitute (values : StringMap String) (text : List Char) :
    TurnsTo values text (substitute values text) := by
  induction text using placeholder_induction with
  | unopened text unopened =>
    rw [substitute_of_unopened unopened]
    exact .finished (turn?_of_unopened unopened)
  | unclosed text before behind opens unclosed =>
    rw [substitute_of_unclosed opens unclosed]
    exact .failed (turn?_of_unclosed opens unclosed)
  | placeholder text s behind rest opens closes ih =>
    have hturn := turn?_of_placeholder values opens closes
    rw [substitute_of_placeholder opens closes]
    cases hv : values.get? s.key with
    | none =>
      rw [hv] at hturn
      exact .failed hturn
    | some value =>
      rw [hv] at hturn
      exact .replaced hturn ih

theorem TurnsTo.unique {r r' : Except RenderError (List Char)} (h : TurnsTo values text r)
    (h' : TurnsTo values text r') : r = r' := by
  induction h generalizing r' with
  | finished turn =>
    cases h' with
    | finished _ => rfl
    | failed turn' | replaced turn' _ => cases turn.symm.trans turn'
  | failed turn =>
    cases h' with
    | failed turn' =>
      cases turn.symm.trans turn'
      rfl
    | finished turn' | replaced turn' _ => cases turn.symm.trans turn'
  | replaced turn _ ih =>
    cases h' with
    | replaced turn' onwards' =>
      cases turn.symm.trans turn'
      rw [ih onwards']
    | finished turn' | failed turn' => cases turn.symm.trans turn'

/-! ## What a pass comes to -/

theorem Reads.text_eq (h : Reads text segments last) : text = spelled segments ++ last := by
  induction h with
  | nil text => rfl
  | @cons text behind rest last s segments opens closes _ ih =>
    rw [opens.split, closes.split, ih, spelled, spelled, List.flatMap_cons]
    simp only [List.append_assoc]

/-- Where no placeholder is left, there was one way to read the text. -/
theorem Reads.unique {segments' : List Segment} {last' : List Char}
    (h : Reads text segments last) (hlast : ¬ opening <:+: last)
    (h' : Reads text segments' last') (hlast' : ¬ opening <:+: last') :
    segments = segments' ∧ last = last' := by
  induction h generalizing segments' with
  | nil text =>
    cases h' with
    | nil _ => exact ⟨rfl, rfl⟩
    | cons opens _ _ => exact absurd opens.isInfix hlast
  | @cons text behind rest last s segments opens closes _ ih =>
    cases h' with
    | nil _ => exact absurd opens.isInfix hlast'
    | @cons _ _ _ _ s' _ opens' closes' onwards' =>
      obtain ⟨hbefore, rfl⟩ := opens.unique opens'
      obtain ⟨hinside, rfl⟩ := closes.unique closes'
      obtain rfl : s = s' := by
        cases s
        cases s'
        cases hbefore
        cases hinside
        rfl
      obtain ⟨rfl, rfl⟩ := ih hlast onwards'
      exact ⟨rfl, rfl⟩

theorem filled_cons {value : String} (h : values.get? s.key = some value) :
    filled values (s :: segments) = (s.before ++ value.toList) ++ filled values segments := by
  rw [filled, List.flatMap_cons, h, Option.getD_some]
  rfl

/-- A pass puts values in the place of placeholders that it has read, and goes on. -/
theorem substitute_of_reads (h : Reads text segments last) (hvalues : HasValues values segments) :
    substitute values text = (substitute values last).map (filled values segments ++ ·) := by
  induction h with
  | nil text => cases substitute values text <;> rfl
  | @cons text behind rest last s segments opens closes _ ih =>
    obtain ⟨⟨value, hv⟩, hrest⟩ := List.forall_mem_cons.1 hvalues
    rw [substitute_of_placeholder opens closes, hv, ih hrest, filled_cons hv]
    cases substitute values last with
    | error e => rfl
    | ok out => simp only [Except.map, List.append_assoc]

theorem Fails.mapError_substitute_eq {message : String} (h : Fails values text message) :
    (substitute values text).mapError ControlError.ofRender =
      .error (.configGeneration message) := by
  cases h with
  | unterminated opens unclosed =>
    rw [substitute_of_unclosed opens unclosed]
    rfl
  | noValue opens closes missing =>
    rw [substitute_of_placeholder opens closes, missing]
    rfl

/-- A pass reads placeholders with values until there is none, or one that cannot be replaced. -/
theorem exists_reads (values : StringMap String) (text : List Char) :
    ∃ segments rest, Reads text segments rest ∧ HasValues values segments ∧
      (¬ opening <:+: rest ∨ ∃ message, Fails values rest message) := by
  induction text using placeholder_induction with
  | unopened text unopened => exact ⟨[], text, .nil text, nofun, .inl unopened⟩
  | unclosed text before behind opens unclosed =>
    exact ⟨[], text, .nil text, nofun, .inr ⟨_, .unterminated opens unclosed⟩⟩
  | placeholder text s behind rest opens closes ih =>
    cases hv : values.get? s.key with
    | none => exact ⟨[], text, .nil text, nofun, .inr ⟨_, .noValue opens closes hv⟩⟩
    | some value =>
      obtain ⟨segments, last, hreads, hvalues, hlast⟩ := ih
      exact ⟨s :: segments, last, .cons opens closes hreads,
        List.forall_mem_cons.2 ⟨⟨value, hv⟩, hvalues⟩, hlast⟩

theorem substitute_eq_ok_of_reads (h : Reads text segments last) (hlast : ¬ opening <:+: last)
    (hvalues : HasValues values segments) :
    substitute values text = .ok (filled values segments ++ last) := by
  rw [substitute_of_reads h hvalues, substitute_of_unopened hlast]
  rfl

theorem mapError_substitute_eq_of_reads {message : String} (h : Reads text segments rest)
    (hvalues : HasValues values segments) (hfails : Fails values rest message) :
    (substitute values text).mapError ControlError.ofRender =
      .error (.configGeneration message) := by
  have hrest := hfails.mapError_substitute_eq
  rw [substitute_of_reads h hvalues]
  cases hs : substitute values rest with
  | error e =>
    rw [hs] at hrest
    exact hrest
  | ok out =>
    rw [hs] at hrest
    cases hrest

theorem substitute_eq_ok_iff {out : List Char} :
    substitute values text = .ok out ↔ ∃ segments last, Reads text segments last ∧
      ¬ opening <:+: last ∧ HasValues values segments ∧ out = filled values segments ++ last := by
  constructor
  · intro h
    obtain ⟨segments, last, hreads, hvalues, hlast | ⟨message, hfails⟩⟩ := exists_reads values text
    · rw [substitute_eq_ok_of_reads hreads hlast hvalues] at h
      cases h
      exact ⟨segments, last, hreads, hlast, hvalues, rfl⟩
    · have herror := mapError_substitute_eq_of_reads hreads hvalues hfails
      rw [h] at herror
      cases herror
  · rintro ⟨segments, last, hreads, hlast, hvalues, rfl⟩
    exact substitute_eq_ok_of_reads hreads hlast hvalues

theorem mapError_substitute_eq_error_iff {e : ControlError} :
    (substitute values text).mapError ControlError.ofRender = .error e ↔
      ∃ segments rest message, Reads text segments rest ∧ HasValues values segments ∧
        Fails values rest message ∧ e = .configGeneration message := by
  constructor
  · intro h
    obtain ⟨segments, rest, hreads, hvalues, hlast | ⟨message, hfails⟩⟩ := exists_reads values text
    · rw [substitute_eq_ok_of_reads hreads hlast hvalues] at h
      cases h
    · rw [mapError_substitute_eq_of_reads hreads hvalues hfails] at h
      cases h
      exact ⟨segments, rest, message, hreads, hvalues, hfails, rfl⟩
  · rintro ⟨segments, rest, message, hreads, hvalues, hfails, rfl⟩
    exact mapError_substitute_eq_of_reads hreads hvalues hfails

/-- **A pass goes once through the text, from left to right.** -/
theorem substitute_leftmost (values : StringMap String) (text : List Char) :
    (∀ out, substitute values text = .ok out ↔ ∃ segments last, Reads text segments last ∧
      ¬ opening <:+: last ∧ HasValues values segments ∧ out = filled values segments ++ last) ∧
    (∀ e, (substitute values text).mapError ControlError.ofRender = .error e ↔
      ∃ segments rest message, Reads text segments rest ∧ HasValues values segments ∧
        Fails values rest message ∧ e = .configGeneration message) ∧
    (∀ segments last, Reads text segments last → text = spelled segments ++ last) ∧
    (∀ segments last segments' last', Reads text segments last → ¬ opening <:+: last →
      Reads text segments' last' → ¬ opening <:+: last' → segments = segments' ∧ last = last') ∧
    ∀ r, TurnsTo values text r ↔ r = substitute values text := by
  refine ⟨fun out => substitute_eq_ok_iff, fun e => mapError_substitute_eq_error_iff,
    fun segments last h => h.text_eq, fun _ _ _ _ h hlast h' hlast' => h.unique hlast h' hlast',
    fun r => ⟨fun h => h.unique (turnsTo_substitute values text), ?_⟩⟩
  rintro rfl
  exact turnsTo_substitute values text

/-- A run of three braces opens with the first two and closes with the first two, a value with an
opening is left alone, and an unterminated placeholder does not matter behind one without value. -/
theorem substitute_leftmost_braces :
    let values : StringMap String := .ofList [("\x7bk", "\x7b\x7b p \x7d\x7d"), ("p", "6")]
    let text :=
      ['}', '}', '{', '{', '{', 'k', '}', '}', '}', '-', '{', '{', ' ', 'p', '}', '}', '{']
    let segments : List Segment := [⟨['}', '}'], ['{', 'k']⟩, ⟨['}', '-'], [' ', 'p']⟩]
    Reads text segments ['{'] ∧ ¬ opening <:+: ['{'] ∧ HasValues values segments ∧
      substitute values text =
        .ok ['}', '}', '{', '{', ' ', 'p', ' ', '}', '}', '}', '-', '6', '{'] ∧
      (substitute values ['{', '{', 'q', '}', '}', '{', '{']).mapError ControlError.ofRender =
        .error (.configGeneration "no value for template parameter 'q'") := by
  intro values text segments
  have hsecond : Reads ['}', '-', '{', '{', ' ', 'p', '}', '}', '{'] [⟨['}', '-'], [' ', 'p']⟩]
      ['{'] :=
    .cons (((FirstAt.head opening [' ', 'p', '}', '}', '{']).cons (by decide)).cons (by decide))
      (((FirstAt.head closing ['{']).cons (by decide)).cons (by decide)) (.nil _)
  have hreads : Reads text segments ['{'] :=
    .cons (((FirstAt.head opening _).cons (by decide)).cons (by decide))
      (((FirstAt.head closing _).cons (by decide)).cons (by decide)) hsecond
  have hlast : ¬ opening <:+: ['{'] := by decide
  have hvalues : HasValues values segments :=
    List.forall_mem_cons.2 ⟨⟨"\x7b\x7b p \x7d\x7d", by decide +kernel⟩,
      List.forall_mem_singleton.2 ⟨"6", by decide +kernel⟩⟩
  have hfilled : ['}', '}', '{', '{', ' ', 'p', ' ', '}', '}', '}', '-', '6', '{'] =
      filled values segments ++ ['{'] := by decide +kernel
  have hfails : Fails values ['{', '{', 'q', '}', '}', '{', '{']
      "no value for template parameter 'q'" :=
    .noValue (s := ⟨[], ['q']⟩) (FirstAt.head opening _)
      ((FirstAt.head closing ['{', '{']).cons (by decide)) (by decide +kernel)
  exact ⟨hreads, hlast, hvalues,
    ((substitute_leftmost values text).1 _).2 ⟨segments, _, hreads, hlast, hvalues, hfilled⟩,
    ((substitute_leftmost values _).2.1 _).2 ⟨[], _, _, .nil _, nofun, hfails, rfl⟩⟩

end RedisControl.Template
