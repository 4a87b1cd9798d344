import RedisControl.Condition
import RedisControl.Proofs.JsonRoundTrip

/-!
# Writers and readers that belong together

A reader and a writer are a codec if every value, once written, reads back as itself from the text
of its JSON form. Scalars have codecs, and lists and maps have one if their elements do. A record
has one if each of its fields is read in a way that fits how it is written:

* a field that is always written may be read in any of the four ways;
* a field that is written only if it is there must be read as one that may be left out.

The keys of a record stand in order, so no field can hide another (`member?_record`), and what is
written is canonical.

* `IsCodec.readsBack` : what is written reads back from its text.
* `IsCodec.list`, `IsCodec.map` : codecs for lists and maps.
* `Fields.required`, `Fields.optional`, `Fields.defaulted`, `Fields.lenient` : reading the fields
  of a record.
-/

namespace RedisControl

namespace Json

variable {α : Type} {read : Json → Option α} {write : α → Json}

/-- What is written reads back. It is canonical, so that its text says the same, and never null, so
that a field that holds it is not taken for one that was left out. -/
structure IsCodec (read : Json → Option α) (write : α → Json) : Prop where
  read_write : ∀ a, read (write a) = some a
  canonical : ∀ a, (write a).Canonical
  ne_null : ∀ a, write a ≠ .null

/-- Every value reads back from the text of its JSON form; and what was read from any JSON value
at all reads the same once it has been written. -/
structure ReadsBack (read : Json → Option α) (write : α → Json) : Prop where
  written : ∀ a, (parse? (write a).text).bind read = some a
  rewritten : ∀ j, (read j).bind (fun a => (parse? (write a).text).bind read) = read j

/-- **What a codec writes reads back from its text.** -/
theorem IsCodec.readsBack (codec : IsCodec read write) : ReadsBack read write := by
  have hwritten : ∀ a, (parse? (write a).text).bind read = some a := by
    intro a
    rw [parse?_text (codec.canonical a)]
    exact codec.read_write a
  refine ⟨hwritten, fun j => ?_⟩
  simp only [hwritten]
  exact Option.bind_fun_some (read j)

/-! ## Scalars -/

theorem isCodec_string : IsCodec asString? .str :=
  ⟨fun _ => rfl, fun _ => trivial, fun _ h => nomatch h⟩

theorem isCodec_bool : IsCodec asBool? .bool :=
  ⟨fun _ => rfl, fun _ => trivial, fun _ h => nomatch h⟩

theorem isCodec_int32 : IsCodec asInt32? fun n => .num n.toInt where
  read_write n := by
    have hlow : -2147483648 ≤ n.toInt := Int32.le_toInt n
    have hhigh : n.toInt ≤ 2147483647 := Int.le_of_lt_add_one (Int32.toInt_lt n)
    rw [asInt32?, asIntIn?, if_pos ⟨hlow, hhigh⟩, Option.map_some, Int32.ofInt_toInt]
  canonical _ := trivial
  ne_null _ h := nomatch h

theorem isCodec_int64 : IsCodec asInt64? fun n => .num n.toInt where
  read_write n := by
    have hlow : -9223372036854775808 ≤ n.toInt := Int64.le_toInt n
    have hhigh : n.toInt ≤ 9223372036854775807 := Int.le_of_lt_add_one (Int64.toInt_lt n)
    rw [asInt64?, asIntIn?, if_pos ⟨hlow, hhigh⟩, Option.map_some, Int64.ofInt_toInt]
  canonical _ := trivial
  ne_null _ h := nomatch h

/-- Names that can be told apart are written as strings. -/
theorem isCodec_name {ofName? : String → Option α} {name : α → String}
    (h : ∀ a, ofName? (name a) = some a) :
    IsCodec (Condition.readName? ofName?) fun a => .str (name a) :=
  ⟨h, fun _ => trivial, fun _ h => nomatch h⟩

/-! ## Lists and maps -/

theorem mapM_eq_some {β γ : Type} {f : β → Option γ} {g : γ → β} (h : ∀ c, f (g c) = some c)
    (l : List γ) : (l.map g).mapM f = some l := by
  induction l with
  | nil => rfl
  | cons c l ih =>
    rw [List.map_cons, List.mapM_cons, h c, ih]
    rfl

theorem canonicalItems_map (h : ∀ a, (write a).Canonical) (l : List α) :
    CanonicalItems (l.map write) := by
  induction l with
  | nil => exact trivial
  | cons a l ih => exact ⟨h a, ih⟩

theorem IsCodec.list (codec : IsCodec read write) :
    IsCodec (asList? read) fun l => .arr (l.map write) where
  read_write := mapM_eq_some codec.read_write
  canonical := canonicalItems_map codec.canonical
  ne_null _ h := nomatch h

theorem entries_foldl_insert {l : List (String × α)} {m : StringMap α}
    (h : (m.entries ++ l).Pairwise fun a b => a.1 < b.1) :
    (l.foldl (fun m e => m.insert e.1 e.2) m).entries = m.entries ++ l := by
  induction l generalizing m with
  | nil => exact (List.append_nil _).symm
  | cons e l ih =>
    have hbefore : ∀ e' ∈ m.entries, e'.1 < e.1 := fun e' he' =>
      (List.pairwise_append.1 h).2.2 e' he' e (List.mem_cons_self ..)
    have hinsert : (m.insert e.1 e.2).entries = m.entries ++ [e] := insertEntry_append hbefore
    rw [List.append_cons, ← hinsert] at h
    rw [List.foldl_cons, ih h, hinsert, ← List.append_cons]

/-- The entries of a map, entered one after the other, make up the map. -/
theorem ofList_entries (m : StringMap α) : StringMap.ofList m.entries = m := by
  have hentries : (StringMap.ofList m.entries).entries = m.entries :=
    entries_foldl_insert (m := StringMap.empty) m.sorted
  exact StringMap.ext_get? fun k => congrArg (StringMap.find? k) hentries

theorem IsCodec.map (codec : IsCodec read write) : IsCodec (asMap? read) (ofMap write) where
  read_write m := by
    have hentries : (m.entries.map fun e => (e.1, write e.2)).mapM
        (fun e => (read e.2).map fun v => (e.1, v)) = some m.entries :=
      mapM_eq_some (fun e => by rw [codec.read_write]; rfl) m.entries
    rw [ofMap, asMap?, hentries, Option.map_some, ofList_entries]
  canonical := canonical_ofMap codec.canonical
  ne_null _ h := nomatch h

theorem isCodec_strings : IsCodec asStrings? ofStrings := isCodec_string.map

/-! ## Records -/

section Records

variable {fields : List (String × Option Json)} {key : String} {a : α} {o : Option α}

/-- The fields of a record have their keys in order and hold canonical values. -/
structure Fields (fields : List (String × Option Json)) : Prop where
  sorted : (fields.map Prod.fst).Pairwise (· < ·)
  canonical : ∀ f ∈ fields, ∀ j ∈ f.2, j.Canonical

theorem mem_of_mem_members {e : String × Json}
    (he : e ∈ fields.filterMap fun f => f.2.map fun j => (f.1, j)) : (e.1, some e.2) ∈ fields := by
  obtain ⟨⟨k, v⟩, hf, hv⟩ := List.mem_filterMap.1 he
  obtain ⟨j, rfl, rfl⟩ := Option.map_eq_some_iff.1 hv
  exact hf

/-- A record holds every field under its own key. -/
theorem member?_record (h : (fields.map Prod.fst).Pairwise (· < ·)) {v : Option Json}
    (hmem : (key, v) ∈ fields) : (record fields).member? key = v := by
  show StringMap.find? key (fields.filterMap _) = v
  induction fields with
  | nil => cases hmem
  | cons f fields ih =>
    obtain ⟨hfirst, hrest⟩ := List.pairwise_cons.1 h
    have hlater : ∀ {k w}, (k, w) ∈ fields → f.1 < k := fun hm =>
      hfirst _ (List.mem_map_of_mem hm)
    rcases List.mem_cons.1 hmem with rfl | hmem
    · cases v with
      | none => exact StringMap.find?_eq_none fun e he => hlater (mem_of_mem_members he)
      | some j => exact if_pos rfl
    · have hlt : f.1 < key := hlater hmem
      have hne : f.1 ≠ key := fun he => String.lt_irrefl key (by rwa [he] at hlt)
      rw [← ih hrest hmem]
      obtain ⟨k, w⟩ := f
      cases w with
      | none => rfl
      | some j => exact if_neg hne

theorem canonicalMembers_of_forall {members : List (String × Json)}
    (h : ∀ m ∈ members, m.2.Canonical) : CanonicalMembers members := by
  induction members with
  | nil => exact trivial
  | cons m members ih =>
    exact ⟨h m (List.mem_cons_self ..), ih fun m' hm' => h m' (List.mem_cons_of_mem m hm')⟩

@[simp] theorem asRecord?_record (positions : List Field) :
    (record fields).asRecord? positions = some (record fields) := rfl

@[simp] theorem asObject?_record : (record fields).asObject? = some (record fields) := rfl

theorem optional_of_ne_null {j v : Json} (hv : j.member? key = some v) (hnull : v ≠ .null) :
    j.optional key read = (read v).map some := by
  rw [optional, hv]
  cases v with
  | null => exact absurd rfl hnull
  | _ => rfl

namespace Fields

theorem canonical_record (h : Fields fields) : (record fields).Canonical := by
  refine ⟨?_, canonicalMembers_of_forall fun m hm => h.canonical _ (mem_of_mem_members hm) _ rfl⟩
  refine List.pairwise_filterMap.2 ((List.pairwise_map.1 h.sorted).imp ?_)
  intro f g hlt e he e' he'
  obtain ⟨_, _, rfl⟩ := Option.map_eq_some_iff.1 he
  obtain ⟨_, _, rfl⟩ := Option.map_eq_some_iff.1 he'
  exact hlt

theorem required (h : Fields fields) (codec : IsCodec read write)
    (hmem : (key, some (write a)) ∈ fields) : (record fields).required key read = some a := by
  rw [Json.required, member?_record h.sorted hmem]
  exact codec.read_write a

theorem defaulted (h : Fields fields) (codec : IsCodec read write) {default : α}
    (hmem : (key, some (write a)) ∈ fields) :
    (record fields).defaulted key read default = some a := by
  rw [Json.defaulted, member?_record h.sorted hmem]
  exact codec.read_write a

theorem optional (h : Fields fields) (codec : IsCodec read write)
    (hmem : (key, o.map write) ∈ fields) : (record fields).optional key read = some o := by
  cases o with
  | none =>
    rw [Json.optional, member?_record h.sorted hmem]
    rfl
  | some a =>
    rw [optional_of_ne_null (member?_record h.sorted hmem) (codec.ne_null a), codec.read_write a]
    rfl

theorem lenient (h : Fields fields) (codec : IsCodec read write) {default : α}
    (hmem : (key, some (write a)) ∈ fields) :
    (record fields).lenient key read default = some a := by
  rw [Json.lenient, h.optional codec (o := some a) hmem]
  rfl

end Fields

/-- What is written as a record with keys in order, and read field by field, has a codec. -/
theorem IsCodec.ofRecord {members : α → List (String × Option Json)} (keys : List String)
    (hsorted : keys.Pairwise (· < ·)) (hkeys : ∀ a, (members a).map Prod.fst = keys)
    (hcanonical : ∀ a, ∀ f ∈ members a, ∀ j ∈ f.2, j.Canonical)
    (hread : ∀ a, Fields (members a) → read (record (members a)) = some a) :
    IsCodec read fun a => record (members a) := by
  have hfields : ∀ a, Fields (members a) := fun a => ⟨by rw [hkeys]; exact hsorted, hcanonical a⟩
  exact {
    read_write := fun a => hread a (hfields a)
    canonical := fun a => (hfields a).canonical_record
    ne_null := fun _ h => nomatch h }

end Records

/-! ## Fields that nobody wrote -/

section Omissions

variable {members : List (String × Json)} {key known : String} {v : Json}

/-- A record by name is read by its known fields only. A field that is left out reads like the
value that it implies. -/
structure ReadsByName (read : Json → Option α) (known : List String)
    (implied : List (String × Json)) : Prop where
  unknown : ∀ members key v, key ∉ known →
    read ((Json.obj members).setMember key v) = read (.obj members)
  left_out : ∀ members, ∀ f ∈ implied, (Json.obj members).member? f.1 = none →
    read ((Json.obj members).setMember f.1 f.2) = read (.obj members)

@[simp] theorem asRecord?_obj (positions : List Field) :
    (Json.obj members).asRecord? positions = some (.obj members) := rfl

@[simp] theorem asRecord?_setMember (positions : List Field) :
    ((Json.obj members).setMember key v).asRecord? positions =
      some ((Json.obj members).setMember key v) := rfl

@[simp] theorem required_setMember (h : key ≠ known) :
    ((Json.obj members).setMember key v).required known read =
      (Json.obj members).required known read := by
  rw [required, member?_setMember, if_neg h, required]

@[simp] theorem defaulted_setMember (h : key ≠ known) {default : α} :
    ((Json.obj members).setMember key v).defaulted known read default =
      (Json.obj members).defaulted known read default := by
  rw [defaulted, member?_setMember, if_neg h, defaulted]

@[simp] theorem optional_setMember (h : key ≠ known) :
    ((Json.obj members).setMember key v).optional known read =
      (Json.obj members).optional known read := by
  rw [Json.optional, member?_setMember, if_neg h, Json.optional]

theorem defaulted_setMember_default {default : α} (h : (Json.obj members).member? key = none)
    (hv : read v = some default) :
    ((Json.obj members).setMember key v).defaulted key read default =
      (Json.obj members).defaulted key read default := by
  rw [defaulted, member?_setMember, if_pos rfl, defaulted, h]
  exact hv

theorem optional_setMember_null (h : (Json.obj members).member? key = none) :
    ((Json.obj members).setMember key .null).optional key read =
      (Json.obj members).optional key read := by
  rw [Json.optional, member?_setMember, if_pos rfl, Json.optional, h]

end Omissions

end Json

end RedisControl
