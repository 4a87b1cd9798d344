import RedisControl.Json.Parser
import RedisControl.Json.Printer

/-!
# JSON text reads back

**Theorem (`parse?_text`).** The compact text of a canonical value reads back as that value.

The proof follows the two stages of reading. The characters of a value are cut into the tokens of
the value (`lex_chars`), whatever text comes after them, provided that it cannot be taken for more
of a number or a word. The tokens of a value, put together, complete the value where it was
expected (`build_tokens`), whatever tokens come after them. Neither needs to know where the value
ends: this is what makes the text unambiguous.

* `canonical_ofMap` : the object of a map is canonical.
* `ofMap_injective` : a map is determined by its object.
-/

namespace RedisControl

namespace Json

/-! ## Reading a character -/

section Lex

variable {p q : LexState} {c : Char} {cs rest read : List Char}

/-- Text that does not go on with a number or a word. -/
def Delimited (rest : List Char) : Prop :=
  ∀ c ∈ rest.head?, isNumberChar c = false ∧ c.isLower = false

theorem lex_cons {tokens : List Token} (h : p.step c = some (tokens, q)) :
    lex p (c :: cs) = (lex q cs).map (tokens ++ ·) := by
  rw [lex, h]
  show (lex q cs).bind (fun rest => some (tokens ++ rest)) = _
  cases lex q cs <;> rfl

theorem lex_silent (h : p.step c = some ([], q)) :
    lex p (c :: cs) = lex q cs := by
  rw [lex_cons h]
  cases lex q cs <;> rfl

theorem lex_token {t : Token} (h : p.step c = some ([t], q)) :
    lex p (c :: cs) = (lex q cs).map (t :: ·) :=
  lex_cons h

/-! ## Strings -/

theorem lex_shortEscape {d : Char} (hu : c ≠ 'u') (h : shortEscape? c = some d) :
    lex (.string read) ('\\' :: c :: cs) = lex (.string (d :: read)) cs := by
  rw [lex_silent (q := .escape read) rfl]
  refine lex_silent ?_
  show (if c = 'u' then _ else _) = _
  rw [if_neg hu, h]
  rfl

theorem hexValue?_hexDigit : ∀ n < 16, hexValue? (hexDigit n) = some n := by decide

theorem lex_hex (hc : c.toNat < 0x20) :
    lex (.string read) (['\\', 'u', '0', '0', hexDigit (c.toNat / 16), hexDigit (c.toNat % 16)] ++
      cs) = lex (.string (c :: read)) cs := by
  have hhigh : hexValue? (hexDigit (c.toNat / 16)) = some (c.toNat / 16) :=
    hexValue?_hexDigit _ (by omega)
  have hlow : hexValue? (hexDigit (c.toNat % 16)) = some (c.toNat % 16) :=
    hexValue?_hexDigit _ (by omega)
  have hvalue : 16 * (c.toNat / 16) + c.toNat % 16 = c.toNat := Nat.div_add_mod c.toNat 16
  rw [List.cons_append, lex_silent (q := .escape read) rfl,
    List.cons_append, lex_silent (q := .hex read 4 0 none) rfl,
    List.cons_append, lex_silent (q := .hex read 3 0 none) rfl,
    List.cons_append, lex_silent (q := .hex read 2 0 none) rfl,
    List.cons_append, lex_silent (q := .hex read 1 (c.toNat / 16) none) ?_,
    List.cons_append, lex_silent (q := .string (c :: read)) ?_, List.nil_append]
  · show (hexValue? _).bind _ = _
    rw [hlow]
    show (LexState.afterHex read (16 * (c.toNat / 16) + c.toNat % 16) none).bind _ = _
    rw [hvalue, LexState.afterHex, if_neg (by omega), if_neg (by omega), Char.ofNat_toNat]
    rfl
  · show (hexValue? _).bind _ = _
    rw [hhigh]
    show some ([], LexState.hex read 1 (16 * 0 + c.toNat / 16) none) = _
    rw [Nat.mul_zero, Nat.zero_add]

/-- A character is written with a short escape, in hexadecimal, or as it is. -/
theorem escapeChar_cases (c : Char) :
    (∃ d, d ≠ 'u' ∧ shortEscape? d = some c ∧ escapeChar c = ['\\', d]) ∨
    (c.toNat < 0x20 ∧ escapeChar c =
      ['\\', 'u', '0', '0', hexDigit (c.toNat / 16), hexDigit (c.toNat % 16)]) ∨
    (c ≠ '"' ∧ c ≠ '\\' ∧ ¬ c.toNat < 0x20 ∧ escapeChar c = [c]) := by
  by_cases hshort : c ∈ ['"', '\\', '\x08', '\x0c', '\n', '\r', '\t']
  · left
    simp only [List.mem_cons, List.not_mem_nil, or_false] at hshort
    rcases hshort with rfl | rfl | rfl | rfl | rfl | rfl | rfl <;>
      exact ⟨_, by decide, by decide, rfl⟩
  · right
    simp only [List.mem_cons, List.not_mem_nil, or_false, not_or] at hshort
    by_cases hcontrol : c.toNat < 0x20
    · exact Or.inl ⟨hcontrol, by simp [escapeChar, hshort, hcontrol]⟩
    · exact Or.inr ⟨hshort.1, hshort.2.1, hcontrol, by simp [escapeChar, hshort, hcontrol]⟩

/-- An escaped character is read as the character. -/
theorem lex_escapeChar (c : Char) :
    lex (.string read) (escapeChar c ++ cs) = lex (.string (c :: read)) cs := by
  rcases escapeChar_cases c with ⟨d, hu, hd, h⟩ | ⟨hcontrol, h⟩ | ⟨hquote, hbackslash, hprint, h⟩
  · rw [h]
    exact lex_shortEscape hu hd
  · rw [h]
    exact lex_hex hcontrol
  · rw [h]
    refine lex_silent ?_
    show (if c = '"' then _ else _) = _
    rw [if_neg hquote, if_neg hbackslash, if_neg hprint]

theorem lex_stringBody (cs : List Char) :
    lex (.string read) (cs.flatMap escapeChar ++ '"' :: rest) =
      (lex .between rest).map (.scalar (.str (String.ofList (read.reverse ++ cs))) :: ·) := by
  induction cs generalizing read with
  | nil =>
    rw [List.flatMap_nil, List.nil_append, List.append_nil]
    exact lex_token rfl
  | cons c cs ih =>
    rw [List.flatMap_cons, List.append_assoc, lex_escapeChar, ih, List.reverse_cons,
      List.append_assoc]
    rfl

theorem lex_stringChars (s : String) :
    lex .between (stringChars s ++ rest) = (lex .between rest).map (.scalar (.str s) :: ·) := by
  rw [stringChars, List.cons_append, lex_silent (q := .string []) rfl, List.append_assoc]
  show lex (.string []) (s.toList.flatMap escapeChar ++ '"' :: rest) = _
  rw [lex_stringBody, List.reverse_nil, List.nil_append, String.ofList_toList]

/-! ## Numbers and words -/

/-- A value that the next character completes, whichever it is. -/
theorem lex_complete {v : Option Json}
    (hfinish : p.finish = v.map fun j => [.scalar j])
    (hstep : ∀ c ∈ rest.head?, p.step c =
      v.bind fun j => (lexBetween c).map fun e => (.scalar j :: e.1, e.2)) :
    lex p rest = v.bind fun j => (lex .between rest).map (.scalar j :: ·) := by
  cases rest with
  | nil =>
    rw [lex, hfinish]
    cases v <;> rfl
  | cons c cs =>
    rw [lex, hstep c rfl]
    cases v with
    | none => rfl
    | some j =>
      show _ = (lex .between (c :: cs)).map _
      rw [lex, LexState.step]
      cases lexBetween c with
      | none => rfl
      | some e =>
        show (lex e.2 cs).bind _ = ((lex e.2 cs).bind _).map _
        cases lex e.2 cs <;> rfl

theorem lex_number {n : Int} (h : Delimited rest) (hn : number? read.reverse = some n) :
    lex (.number read) rest = (lex .between rest).map (.scalar (.num n) :: ·) := by
  refine lex_complete (v := some (.num n)) (by rw [LexState.finish, hn]; rfl) ?_
  intro c hc
  rw [LexState.step, if_neg (by rw [(h c hc).1]; exact Bool.false_ne_true), hn]
  cases lexBetween c <;> rfl

theorem lex_word {j : Json} (h : Delimited rest) (hj : word? read.reverse = some j) :
    lex (.word read) rest = (lex .between rest).map (.scalar j :: ·) := by
  refine lex_complete (v := some j) (by rw [LexState.finish, hj]) ?_
  intro c hc
  rw [LexState.step, if_neg (by rw [(h c hc).2]; exact Bool.false_ne_true), hj]
  cases lexBetween c <;> rfl

theorem lex_numberChars (h : ∀ c ∈ cs, isNumberChar c = true) :
    lex (.number read) (cs ++ rest) = lex (.number (cs.reverse ++ read)) rest := by
  induction cs generalizing read with
  | nil => rfl
  | cons c cs ih =>
    have hc : (LexState.number read).step c = some ([], .number (c :: read)) :=
      if_pos (h c (List.mem_cons_self ..))
    rw [List.cons_append, lex_silent hc, ih fun d hd => h d (List.mem_cons_of_mem c hd),
      List.reverse_cons, List.append_assoc]
    rfl

theorem isNumberChar_of_isDigit (h : c.isDigit = true) : isNumberChar c = true := by
  rw [isNumberChar, h]
  rfl

theorem lexBetween_of_isDigit (h : c.isDigit = true) : lexBetween c = some ([], .number [c]) := by
  have hne : ∀ d : Char, d.isDigit = false → c ≠ d := by
    intro d hd he
    rw [he, hd] at h
    cases h
  have hnine : c.val.toNat ≤ 57 := by
    simp only [Char.isDigit, Bool.and_eq_true, decide_eq_true_eq, UInt32.le_iff_toNat_le] at h
    exact h.2
  have hlower : c.isLower = false := by
    have hlow : ¬ 97 ≤ c.val := by
      rw [UInt32.le_iff_toNat_le]
      show ¬ 97 ≤ c.val.toNat
      omega
    show (decide (97 ≤ c.val) && _) = false
    rw [decide_eq_false hlow, Bool.false_and]
  rw [lexBetween, if_neg, if_neg (hne _ (by decide)), if_neg (hne _ (by decide)),
    if_neg (hne _ (by decide)), if_neg (hne _ (by decide)), if_neg (hne _ (by decide)),
    if_neg (hne _ (by decide)), if_neg (hne _ (by decide)), hlower, if_neg Bool.false_ne_true,
    if_pos (Or.inl h)]
  simp [hne]

theorem head?_toDigits_ne_zero {n : Nat} (h : n ≠ 0) : (Nat.toDigits 10 n).head? ≠ some '0' := by
  induction n using Nat.strongRecOn with
  | ind n ih =>
    rw [Nat.toDigits_eq_if (by decide)]
    split
    · rw [List.head?_cons, Ne, Option.some_inj, Nat.digitChar_eq_zero]
      exact h
    · rw [List.head?_append, Option.or_of_isSome (List.isSome_head?.2 Nat.toDigits_ne_nil)]
      exact ih (n / 10) (by omega) (by omega)

theorem digits?_toDigits (n : Nat) : digits? (Nat.toDigits 10 n) = some n := by
  by_cases hn : n = 0
  · rw [hn]
    rfl
  · have hall : (Nat.toDigits 10 n).all Char.isDigit = true :=
      List.all_eq_true.2 fun c hc =>
        Nat.isDigit_of_mem_toDigits (b := 10) (by decide) (by decide) hc
    have hhead := head?_toDigits_ne_zero hn
    have hvalue := Nat.ofDigitChars_toDigits (b := 10) (n := n) (by decide) (by decide)
    cases hdigits : Nat.toDigits 10 n with
    | nil => exact absurd hdigits Nat.toDigits_ne_nil
    | cons c cs =>
      rw [hdigits] at hall hhead hvalue
      have hc : c ≠ '0' := fun he => hhead (congrArg some he)
      unfold digits?
      split
      · cases ‹c :: cs = []›
      · exact absurd (List.cons.inj ‹c :: cs = ['0']›).1 hc
      · obtain ⟨rfl, rfl⟩ := List.cons.inj ‹c :: cs = _›
        rw [if_pos ⟨hc, hall⟩]
        exact congrArg some hvalue

theorem intChars_eq_cons (n : Int) :
    ∃ c cs, intChars n = c :: cs ∧ lexBetween c = some ([], .number [c]) ∧
      (∀ d ∈ cs, isNumberChar d = true) ∧ number? (c :: cs) = some n := by
  have hdigits : ∀ m, ∀ c ∈ Nat.toDigits 10 m, c.isDigit = true :=
    fun m c hc => Nat.isDigit_of_mem_toDigits (b := 10) (by decide) (by decide) hc
  cases n with
  | ofNat m =>
    have hread := digits?_toDigits m
    have hm := hdigits m
    show ∃ c cs, Nat.toDigits 10 m = c :: cs ∧ _
    cases h : Nat.toDigits 10 m with
    | nil => exact absurd h Nat.toDigits_ne_nil
    | cons c cs =>
      rw [h] at hread hm
      refine ⟨c, cs, rfl, lexBetween_of_isDigit (hm c (List.mem_cons_self ..)),
        fun d hd => isNumberChar_of_isDigit (hm d (List.mem_cons_of_mem c hd)), ?_⟩
      unfold number?
      split
      · rename_i he
        have hminus := hm c (List.mem_cons_self ..)
        rw [(List.cons.inj he).1] at hminus
        cases hminus
      · rw [hread]
        rfl
  | negSucc m =>
    refine ⟨'-', Nat.toDigits 10 (m + 1), rfl, rfl,
      fun d hd => isNumberChar_of_isDigit (hdigits _ d hd), ?_⟩
    rw [number?, digits?_toDigits]
    rfl

theorem lex_intChars (h : Delimited rest) (n : Int) :
    lex .between (intChars n ++ rest) = (lex .between rest).map (.scalar (.num n) :: ·) := by
  obtain ⟨c, cs, htext, hfirst, hothers, hvalue⟩ := intChars_eq_cons n
  rw [htext, List.cons_append, lex_silent (p := .between) hfirst, lex_numberChars hothers]
  refine lex_number h ?_
  rw [List.reverse_append, List.reverse_reverse]
  exact hvalue

end Lex

/-! ## The tokens of a value -/

/-- A string, an array or an object: a value whose text shows where it ends. -/
def isEnclosed : Json → Bool
  | .str _ | .arr _ | .obj _ => true
  | _ => false

mutual

/-- The tokens that the text of a value is cut into. -/
def tokens : Json → List Token
  | .arr [] => [.openArray, .closeArray]
  | .arr (j :: js) => .openArray :: (tokens j ++ itemsTokens js)
  | .obj [] => [.openObject, .closeObject]
  | .obj ((k, j) :: ms) =>
    .openObject :: .scalar (.str k) :: .colon :: (tokens j ++ membersTokens ms)
  | j => [.scalar j]

/-- The tokens of the items of an array that has begun, and its end. -/
def itemsTokens : List Json → List Token
  | [] => [.closeArray]
  | j :: js => .comma :: (tokens j ++ itemsTokens js)

/-- The tokens of the members of an object that has begun, and its end. -/
def membersTokens : List (String × Json) → List Token
  | [] => [.closeObject]
  | (k, j) :: ms => .comma :: .scalar (.str k) :: .colon :: (tokens j ++ membersTokens ms)

end

theorem delimited_itemsChars (js : List Json) (rest : List Char) :
    Delimited (itemsChars js ++ rest) := by
  intro c hc
  cases js with
  | nil | cons j js =>
    obtain rfl := Option.some.inj hc
    decide

theorem delimited_membersChars (ms : List (String × Json)) (rest : List Char) :
    Delimited (membersChars ms ++ rest) := by
  intro c hc
  cases ms with
  | nil | cons m ms =>
    obtain rfl := Option.some.inj hc
    decide

theorem map_append_append {α : Type} (o : Option (List α)) (l l' : List α) :
    (o.map (l' ++ ·)).map (l ++ ·) = o.map ((l ++ l') ++ ·) := by
  rw [Option.map_map]
  exact congrArg (o.map ·) (funext fun x => (List.append_assoc l l' x).symm)

theorem map_append_cons {α : Type} (o : Option (List α)) (t : α) (l : List α) :
    (o.map (l ++ ·)).map (t :: ·) = o.map ((t :: l) ++ ·) :=
  map_append_append o [t] l

mutual

/-- The text of a value is cut into its tokens, whatever follows that cannot be taken for more of
it. -/
theorem lex_chars {rest : List Char} : ∀ j : Json, (j.isEnclosed = false → Delimited rest) →
    lex .between (chars j ++ rest) = (lex .between rest).map (tokens j ++ ·)
  | .null, h => by
    rw [chars, List.cons_append, lex_silent (q := .word ['n']) rfl]
    exact (lex_silent rfl).trans ((lex_silent rfl).trans ((lex_silent rfl).trans
      (lex_word (h rfl) rfl)))
  | .bool true, h => by
    rw [chars, List.cons_append, lex_silent (q := .word ['t']) rfl]
    exact (lex_silent rfl).trans ((lex_silent rfl).trans ((lex_silent rfl).trans
      (lex_word (h rfl) rfl)))
  | .bool false, h => by
    rw [chars, List.cons_append, lex_silent (q := .word ['f']) rfl]
    exact (lex_silent rfl).trans ((lex_silent rfl).trans ((lex_silent rfl).trans
      ((lex_silent rfl).trans (lex_word (h rfl) rfl))))
  | .num n, h => lex_intChars (h rfl) n
  | .str s, _ => lex_stringChars s
  | .arr [], _ => by
    rw [chars, List.cons_append, lex_token (t := .openArray) rfl, List.cons_append,
      lex_token (t := .closeArray) rfl, List.nil_append, Option.map_map]
    rfl
  -- What follows an item is a comma or a bracket, neither of which can be more of it.
  | .arr (j :: js), _ => by
    rw [chars, List.cons_append, lex_token (t := .openArray) rfl, List.append_assoc,
      lex_chars j (fun _ => delimited_itemsChars js rest), lex_itemsChars js, map_append_append,
      map_append_cons, tokens]
  | .obj [], _ => by
    rw [chars, List.cons_append, lex_token (t := .openObject) rfl, List.cons_append,
      lex_token (t := .closeObject) rfl, List.nil_append, Option.map_map]
    rfl
  | .obj ((k, j) :: ms), _ => by
    rw [chars, List.cons_append, lex_token (t := .openObject) rfl, List.append_assoc,
      lex_stringChars, List.cons_append, lex_token (t := .colon) rfl, List.append_assoc,
      lex_chars j (fun _ => delimited_membersChars ms rest), lex_membersChars ms,
      map_append_append, map_append_cons, map_append_cons, map_append_cons, tokens]

theorem lex_itemsChars {rest : List Char} :
    ∀ js : List Json,
      lex .between (itemsChars js ++ rest) = (lex .between rest).map (itemsTokens js ++ ·)
  | [] => lex_token rfl
  | j :: js => by
    rw [itemsChars, List.cons_append, lex_token (t := .comma) rfl, List.append_assoc,
      lex_chars j (fun _ => delimited_itemsChars js rest), lex_itemsChars js, map_append_append,
      map_append_cons, itemsTokens]

theorem lex_membersChars {rest : List Char} :
    ∀ ms : List (String × Json),
      lex .between (membersChars ms ++ rest) = (lex .between rest).map (membersTokens ms ++ ·)
  | [] => lex_token rfl
  | (k, j) :: ms => by
    rw [membersChars, List.cons_append, lex_token (t := .comma) rfl, List.append_assoc,
      lex_stringChars, List.cons_append, lex_token (t := .colon) rfl, List.append_assoc,
      lex_chars j (fun _ => delimited_membersChars ms rest), lex_membersChars ms,
      map_append_append, map_append_cons, map_append_cons, map_append_cons, membersTokens]

end

/-! ## Putting tokens together -/

theorem insertEntry_append {α : Type} {key : String} {value : α} {ms : List (String × α)}
    (h : ∀ m ∈ ms, m.1 < key) :
    StringMap.insertEntry key value ms = ms ++ [(key, value)] := by
  induction ms with
  | nil => rfl
  | cons m ms ih =>
    have hlt := h m (List.mem_cons_self ..)
    rw [StringMap.insertEntry, if_neg (fun hlt' => String.lt_asymm hlt hlt'),
      if_neg (fun he : key = m.1 => String.lt_irrefl key (he ▸ hlt)),
      ih fun m' hm' => h m' (List.mem_cons_of_mem m hm')]
    rfl

/-- What becomes of the rest once a value is complete. -/
def putThen (j : Json) (frames : List Frame) (ts : List Token) : Option Json :=
  (BuildState.put j frames).bind (build · ts)

theorem build_firstItem {frames : List Frame} {ts : List Token} (j : Json) :
    build ⟨.firstItem, .array [] :: frames⟩ (tokens j ++ ts) =
      build ⟨.value, .array [] :: frames⟩ (tokens j ++ ts) := by
  match j with
  | .null | .bool _ | .num _ | .str _ => rfl
  | .arr [] | .arr (_ :: _) | .obj [] | .obj (_ :: _) => rfl

mutual

/-- The tokens of a canonical value complete the value, whatever follows. -/
theorem build_tokens {frames : List Frame} {ts : List Token} :
    ∀ j : Json, Canonical j → build ⟨.value, frames⟩ (tokens j ++ ts) = putThen j frames ts
  | .null, _ => rfl
  | .bool _, _ => rfl
  | .num _, _ => rfl
  | .str _, _ => rfl
  | .arr [], _ => rfl
  | .arr (j :: js), h => by
    rw [tokens, List.cons_append, List.append_assoc]
    show build ⟨.firstItem, .array [] :: frames⟩ (tokens j ++ _) = _
    rw [build_firstItem, build_tokens j h.1]
    exact build_itemsTokens js h.2
  | .obj [], _ => rfl
  | .obj ((k, j) :: ms), h => by
    rw [tokens, List.cons_append, List.cons_append, List.cons_append, List.append_assoc]
    show build ⟨.value, .member [] k :: frames⟩ (tokens j ++ _) = _
    rw [build_tokens j h.2.1]
    exact build_membersTokens ms h.1 h.2.2

theorem build_itemsTokens {frames : List Frame} {ts : List Token} {before : List Json} :
    ∀ js : List Json, CanonicalItems js →
      build ⟨.next, .array before :: frames⟩ (itemsTokens js ++ ts) =
        putThen (.arr (before.reverse ++ js)) frames ts
  | [], _ => by
    rw [List.append_nil]
    rfl
  | j :: js, h => by
    rw [itemsTokens, List.cons_append, List.append_assoc]
    show build ⟨.value, .array before :: frames⟩ (tokens j ++ _) = _
    rw [build_tokens j h.1]
    show build ⟨.next, .array (j :: before) :: frames⟩ _ = _
    rw [build_itemsTokens js h.2, List.reverse_cons, List.append_assoc]
    rfl

theorem build_membersTokens {frames : List Frame} {ts : List Token}
    {before : List (String × Json)} :
    ∀ ms : List (String × Json), (before ++ ms).Pairwise (fun a b => a.1 < b.1) →
      CanonicalMembers ms →
      build ⟨.next, .object before :: frames⟩ (membersTokens ms ++ ts) =
        putThen (.obj (before ++ ms)) frames ts
  | [], _, _ => by
    rw [List.append_nil]
    rfl
  | (k, j) :: ms, hsorted, h => by
    have hbefore : ∀ m ∈ before, m.1 < k := fun m hm =>
      (List.pairwise_append.1 hsorted).2.2 m hm (k, j) (List.mem_cons_self ..)
    rw [membersTokens, List.cons_append, List.cons_append, List.cons_append, List.append_assoc]
    show build ⟨.value, .member before k :: frames⟩ (tokens j ++ _) = _
    rw [build_tokens j h.1]
    show build ⟨.next, .object (StringMap.insertEntry k j before) :: frames⟩ _ = _
    rw [List.append_cons] at hsorted
    rw [insertEntry_append hbefore, build_membersTokens ms hsorted h.2, ← List.append_cons]

end

/-! ## Reading a text back -/

theorem lex_text (j : Json) : lex .between (chars j) = some (tokens j) := by
  have hnil : Delimited [] := fun c hc => by cases hc
  rw [← List.append_nil (chars j), lex_chars j fun _ => hnil]
  show some (tokens j ++ []) = _
  rw [List.append_nil]

/-- **The text of a canonical value reads back as the value.** -/
theorem parse?_text {j : Json} (h : Canonical j) : parse? j.text = some j := by
  have hbuild : build ⟨.value, []⟩ (tokens j ++ []) = some j := build_tokens j h
  rw [List.append_nil] at hbuild
  rw [parse?, text, String.toList_ofList, lex_text]
  exact hbuild

/-! ## Objects of maps -/

section Maps

variable {α : Type} {value : α → Json}

theorem canonicalMembers_map (h : ∀ a, Canonical (value a)) (l : List (String × α)) :
    CanonicalMembers (l.map fun e => (e.1, value e.2)) := by
  induction l with
  | nil => exact trivial
  | cons e l ih => exact ⟨h e.2, ih⟩

/-- The object of a map is canonical, because the entries of a map are in order. -/
theorem canonical_ofMap (h : ∀ a, Canonical (value a)) (m : StringMap α) :
    Canonical (ofMap value m) :=
  ⟨List.pairwise_map.2 m.sorted, canonicalMembers_map h m.entries⟩

theorem ofMap_injective (hvalue : ∀ a b, value a = value b → a = b) {m n : StringMap α}
    (h : ofMap value m = ofMap value n) : m = n := by
  have hentries : m.entries = n.entries :=
    List.map_inj_right (fun e e' he => by
      obtain ⟨hk, hv⟩ := Prod.mk.inj he
      exact Prod.ext hk (hvalue _ _ hv)) |>.1 (Json.obj.inj h)
  cases m
  cases n
  cases hentries
  rfl

end Maps

theorem canonical_ofStrings (m : StringMap String) : Canonical (ofStrings m) := by
  have hstr : ∀ s : String, Canonical (.str s) := fun _ => trivial
  exact canonical_ofMap hstr m

theorem ofStrings_injective {m n : StringMap String} (h : ofStrings m = ofStrings n) : m = n :=
  ofMap_injective (fun _ _ => Json.str.inj) h

end Json

end RedisControl
