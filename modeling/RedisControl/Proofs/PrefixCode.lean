import RedisControl.Proofs.JsonRoundTrip

/-!
# The text of a value shows where it ends

**Theorem (`eq_of_bytes_isPrefix`).** No text of a string, an array or an object is the beginning
of the text of another value.

The proof works on tokens. The first token of a value tells which kind of value it is, so the
tokens of two values with anything after them agree only if the values do, and what comes after
them too (`tokens_append_inj`, by induction on both values at once). Cutting a text into tokens
does not look beyond the end of a string, an array or an object (`lex_chars`), so a text that goes
on after the end of such a value has its tokens, and then more.

Here the members of an object are a list, and two objects with the same members in another order
are told apart as well. Nothing is assumed about the order of the keys or that they differ.

* `bytes_inj` : values with one text are equal.
-/

namespace RedisControl

namespace Json

/-! ## The first token -/

/-- The tokens of an array after its bracket. -/
def arrayTokens : List Json → List Token
  | [] => [.closeArray]
  | j :: js => tokens j ++ itemsTokens js

/-- The tokens of an object after its brace. -/
def objectTokens : List (String × Json) → List Token
  | [] => [.closeObject]
  | (k, j) :: ms => .scalar (.str k) :: .colon :: (tokens j ++ membersTokens ms)

/-- The token that a value starts with. -/
def firstToken : Json → Token
  | .arr _ => .openArray
  | .obj _ => .openObject
  | j => .scalar j

/-- The tokens of a value after the first. -/
def otherTokens : Json → List Token
  | .arr js => arrayTokens js
  | .obj ms => objectTokens ms
  | _ => []

theorem tokens_eq_cons (j : Json) : tokens j = firstToken j :: otherTokens j := by
  match j with
  | .null | .bool _ | .num _ | .str _ => rfl
  | .arr [] | .arr (_ :: _) | .obj [] | .obj (_ :: _) => rfl

theorem cons_eq_tokens_append {t : Token} {ts us : List Token} {j : Json}
    (h : t :: ts = tokens j ++ us) : t = firstToken j ∧ ts = otherTokens j ++ us := by
  rw [tokens_eq_cons] at h
  exact List.cons.inj h

/-- No value starts with the end of an array. -/
theorem closeArray_ne {ts us : List Token} {j : Json} : .closeArray :: ts ≠ tokens j ++ us := by
  intro h
  have hfirst := (cons_eq_tokens_append h).1
  cases j <;> cases hfirst

theorem eq_of_scalar {a j : Json} {ts us : List Token} (h : .scalar a :: ts = tokens j ++ us) :
    a = j ∧ ts = us := by
  obtain ⟨hfirst, hrest⟩ := cons_eq_tokens_append h
  cases j with
  | arr js | obj ms => cases hfirst
  | _ => exact ⟨Token.scalar.inj hfirst, hrest⟩

/-! ## Tokens determine the value -/

mutual

/-- The tokens of a value determine it and where it ends, whatever follows. -/
theorem tokens_append_inj : ∀ (j k : Json) {ts us : List Token},
    tokens j ++ ts = tokens k ++ us → j = k ∧ ts = us
  | .null, _, _, _, h => eq_of_scalar h
  | .bool _, _, _, _, h => eq_of_scalar h
  | .num _, _, _, _, h => eq_of_scalar h
  | .str _, _, _, _, h => eq_of_scalar h
  -- The first token tells arrays, objects and scalars apart; the rest is for the lists of items and
  -- members.
  | .arr js, k, _, _, h => by
    rw [tokens_eq_cons] at h
    obtain ⟨hfirst, hrest⟩ := cons_eq_tokens_append h
    cases k with
    | arr ks =>
      obtain ⟨rfl, rfl⟩ := arrayTokens_append_inj js ks hrest
      exact ⟨rfl, rfl⟩
    | _ => cases hfirst
  | .obj ms, k, _, _, h => by
    rw [tokens_eq_cons] at h
    obtain ⟨hfirst, hrest⟩ := cons_eq_tokens_append h
    cases k with
    | obj ns =>
      obtain ⟨rfl, rfl⟩ := objectTokens_append_inj ms ns hrest
      exact ⟨rfl, rfl⟩
    | _ => cases hfirst

theorem arrayTokens_append_inj : ∀ (js ks : List Json) {ts us : List Token},
    arrayTokens js ++ ts = arrayTokens ks ++ us → js = ks ∧ ts = us
  | [], [], _, _, h => ⟨rfl, (List.cons.inj h).2⟩
  | [], _ :: _, _, _, h => by
    rw [arrayTokens, arrayTokens, List.append_assoc] at h
    exact absurd h closeArray_ne
  | _ :: _, [], _, _, h => by
    rw [arrayTokens, arrayTokens, List.append_assoc] at h
    exact absurd h.symm closeArray_ne
  | j :: js, k :: ks, _, _, h => by
    rw [arrayTokens, arrayTokens, List.append_assoc, List.append_assoc] at h
    obtain ⟨rfl, hrest⟩ := tokens_append_inj j k h
    obtain ⟨rfl, rfl⟩ := itemsTokens_append_inj js ks hrest
    exact ⟨rfl, rfl⟩

theorem itemsTokens_append_inj : ∀ (js ks : List Json) {ts us : List Token},
    itemsTokens js ++ ts = itemsTokens ks ++ us → js = ks ∧ ts = us
  | [], [], _, _, h => ⟨rfl, (List.cons.inj h).2⟩
  | [], _ :: _, _, _, h => by cases (List.cons.inj h).1
  | _ :: _, [], _, _, h => by cases (List.cons.inj h).1
  | j :: js, k :: ks, _, _, h => by
    rw [itemsTokens, itemsTokens, List.cons_append, List.cons_append, List.append_assoc,
      List.append_assoc] at h
    obtain ⟨rfl, hrest⟩ := tokens_append_inj j k (List.cons.inj h).2
    obtain ⟨rfl, rfl⟩ := itemsTokens_append_inj js ks hrest
    exact ⟨rfl, rfl⟩

theorem objectTokens_append_inj : ∀ (ms ns : List (String × Json)) {ts us : List Token},
    objectTokens ms ++ ts = objectTokens ns ++ us → ms = ns ∧ ts = us
  | [], [], _, _, h => ⟨rfl, (List.cons.inj h).2⟩
  | [], _ :: _, _, _, h => by cases (List.cons.inj h).1
  | _ :: _, [], _, _, h => by cases (List.cons.inj h).1
  | (_, j) :: ms, (_, k) :: ns, _, _, h => by
    simp only [objectTokens, List.cons_append, List.append_assoc, List.cons.injEq,
      Token.scalar.injEq, Json.str.injEq, true_and] at h
    obtain ⟨rfl, hvalue⟩ := h
    obtain ⟨rfl, hrest⟩ := tokens_append_inj j k hvalue
    obtain ⟨rfl, rfl⟩ := membersTokens_append_inj ms ns hrest
    exact ⟨rfl, rfl⟩

theorem membersTokens_append_inj : ∀ (ms ns : List (String × Json)) {ts us : List Token},
    membersTokens ms ++ ts = membersTokens ns ++ us → ms = ns ∧ ts = us
  | [], [], _, _, h => ⟨rfl, (List.cons.inj h).2⟩
  | [], _ :: _, _, _, h => by cases (List.cons.inj h).1
  | _ :: _, [], _, _, h => by cases (List.cons.inj h).1
  | (_, j) :: ms, (_, k) :: ns, _, _, h => by
    simp only [membersTokens, List.cons_append, List.append_assoc, List.cons.injEq,
      Token.scalar.injEq, Json.str.injEq, true_and] at h
    obtain ⟨rfl, hvalue⟩ := h
    obtain ⟨rfl, hrest⟩ := tokens_append_inj j k hvalue
    obtain ⟨rfl, rfl⟩ := membersTokens_append_inj ms ns hrest
    exact ⟨rfl, rfl⟩

end

/-! ## Texts -/

theorem chars_injective {j k : Json} (h : chars j = chars k) : j = k := by
  have htokens : tokens j ++ [] = tokens k ++ [] := by
    rw [Option.some.inj ((lex_text j).symm.trans (h ▸ lex_text k))]
  exact (tokens_append_inj j k htokens).1

/-- A text that starts with that of a string, an array or an object goes no further. -/
theorem eq_of_chars_isPrefix {j k : Json} (hj : j.isEnclosed = true) (h : chars j <+: chars k) :
    j = k := by
  obtain ⟨rest, h⟩ := h
  -- Both texts are cut into tokens, so that one sequence of tokens begins the other.
  have hlex : (lex .between rest).map (tokens j ++ ·) = some (tokens k) := by
    rw [← lex_chars j fun hopen => absurd (hj.symm.trans hopen) nofun, h, lex_text]
  obtain ⟨ts, -, htokens⟩ := Option.map_eq_some_iff.1 hlex
  have hsame : tokens j ++ ts = tokens k ++ [] := by
    rw [List.append_nil]
    exact htokens
  exact (tokens_append_inj j k hsame).1

theorem bytes_inj {j k : Json} : j.bytes = k.bytes ↔ j = k := by
  constructor
  · intro h
    have htext : j.text = k.text := String.toByteArray_inj.1 (ByteArray.ext (Array.toList_inj.1 h))
    exact chars_injective (String.ofList_inj.1 htext)
  · rintro rfl
    rfl

/-- **The text of a string, an array or an object is not the beginning of another one.** -/
theorem eq_of_bytes_isPrefix {j k : Json} (hj : j.isEnclosed = true) (h : j.bytes <+: k.bytes) :
    j = k := by
  obtain ⟨rest, h⟩ := h
  have hutf8 : (chars j).utf8Encode ++ ⟨rest.toArray⟩ = (chars k).utf8Encode := by
    refine ByteArray.ext (Array.toList_inj.1 ?_)
    rw [ByteArray.data_append, Array.toList_append]
    exact h
  exact eq_of_chars_isPrefix hj (List.isPrefix_of_utf8Encode_append_eq_utf8Encode _ hutf8)

end Json

end RedisControl
