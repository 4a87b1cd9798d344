import RedisControl.Api.Request
import RedisControl.Proofs.Separation

/-!
# Requests that can be built

A request can be built if its target is made of characters that may stand there. Of the target of
an owned object only the namespace and the name of the instance are not given by this library, and
what is given is plain: it may stand in a path and in a query, and begins neither a query nor a
fragment. So whether it is there makes no difference to the rest, and all requests about the
objects of an instance can be built if one target with its namespace and its name can.

* `Target.isSome_ofText?_iff` : whether a text is a target, character by character.
* `Target.standsIn_append_plain` : plain text can be left out.
* `Redis.IsAddressable` : the requests about an instance and its objects can be built.
-/

namespace RedisControl.Api

/-! ## Targets, character by character -/

namespace Target

/-- Whether a character may come next, given that the query has begun or not. -/
def mayStand (query : Bool) (c : Char) : Bool := if query then inQuery c else c == '?' || inPath c

/-- Whether characters may stand in a target, given that its query has begun or not. What comes
after a number sign does not matter. -/
def standsIn : (query : Bool) → List Char → Bool
  | _, [] => true
  | query, c :: cs => c == '#' || (mayStand query c && standsIn (query || c == '?') cs)

theorem standsIn_query (cs : List Char) :
    standsIn true cs = (cs.takeWhile (· != '#')).all inQuery := by
  induction cs with
  | nil => rfl
  | cons c cs ih =>
    by_cases hc : c = '#'
    · simp [standsIn, hc]
    · simp [standsIn, mayStand, hc, ih]

theorem isSome_ofText?_iff (text : String) :
    (ofText? text).isSome ↔ standsIn false text.toList = true := by
  have hsome : (ofText? text).isSome ↔
      let cs := text.toList.takeWhile (· != '#')
      let path := cs.takeWhile (· != '?')
      path.all inPath = true ∧ (cs.drop (path.length + 1)).all inQuery = true := by
    simp only [ofText?, Option.isSome_ite, Bool.and_eq_true]
  rw [hsome]
  generalize text.toList = cs
  induction cs with
  | nil => simp [standsIn]
  | cons c cs ih =>
    by_cases hc : c = '#'
    · simp [standsIn, hc]
    · by_cases hq : c = '?'
      · simp [standsIn, mayStand, hq, standsIn_query]
      · simp only at ih
        simp [standsIn, mayStand, hc, hq, beq_false_of_ne hq, ← ih, and_assoc]

/-! ## Plain text -/

/-- Text that may stand everywhere in a target, and begins neither a query nor a fragment. -/
def IsPlain (text : String) : Prop :=
  text.toList.all (fun c => inPath c && inQuery c && c != '#' && c != '?') = true

instance (text : String) : Decidable (IsPlain text) :=
  inferInstanceAs (Decidable (_ = true))

theorem standsIn_plain_append {text : String} (h : IsPlain text) (query : Bool)
    (after : List Char) : standsIn query (text.toList ++ after) = standsIn query after := by
  unfold IsPlain at h
  generalize text.toList = cs at h
  induction cs with
  | nil => rfl
  | cons c cs ih =>
    rw [List.all_cons, Bool.and_eq_true] at h
    obtain ⟨hc, h⟩ := h
    simp only [Bool.and_eq_true, bne_iff_ne] at hc
    obtain ⟨⟨⟨hpath, hquery⟩, hfragment⟩, hmark⟩ := hc
    rw [List.cons_append, standsIn, mayStand, hpath, hquery, beq_false_of_ne hfragment,
      beq_false_of_ne hmark, Bool.or_false, ih h]
    cases query <;> rfl

theorem standsIn_append_plain {text : String} (h : IsPlain text) (query : Bool)
    (before after : List Char) :
    standsIn query (before ++ (text.toList ++ after)) = standsIn query (before ++ after) := by
  induction before generalizing query with
  | nil => exact standsIn_plain_append h query after
  | cons c before ih => simp only [List.cons_append, standsIn, ih]

/-- What may stand in a path and in a query can be added at the end. -/
theorem standsIn_append {after : List Char} (h : ∀ query, standsIn query after = true)
    {query : Bool} {before : List Char} (hbefore : standsIn query before = true) :
    standsIn query (before ++ after) = true := by
  induction before generalizing query with
  | nil => exact h query
  | cons c before ih =>
    rw [standsIn, Bool.or_eq_true, Bool.and_eq_true] at hbefore
    rw [List.cons_append, standsIn, Bool.or_eq_true, Bool.and_eq_true]
    exact hbefore.imp_right fun hc => ⟨hc.1, ih hc.2⟩

end Target

/-! ## Names in a target -/

open Target

/-- Of the target of something that is named after an instance, the namespace and the name of the
instance decide, and what comes after them. -/
theorem Resource.standsIn_collection {res : Resource} (hroot : IsPlain (res.root ++ "/namespaces/"))
    (hplural : IsPlain ("/" ++ res.plural ++ "/")) {before : String} (hbefore : IsPlain before)
    (ns name after : String) :
    standsIn false (res.collection ns ++ (before ++ name) ++ after).toList =
      standsIn false ((ns ++ "/" ++ name).toList ++ after.toList) := by
  have htext : (res.collection ns ++ (before ++ name) ++ after).toList =
      (res.root ++ "/namespaces/").toList ++ (ns.toList ++
        (("/" ++ res.plural ++ "/").toList ++ (before.toList ++ (name.toList ++ after.toList)))) := by
    simp only [collection, String.toList_append, List.append_assoc]
  have hslash : (ns ++ "/" ++ name).toList ++ after.toList =
      ns.toList ++ ("/".toList ++ (name.toList ++ after.toList)) := by
    simp only [String.toList_append, List.append_assoc]
  rw [htext, hslash, standsIn_plain_append hroot, standsIn_append_plain hplural,
    standsIn_append_plain hbefore]
  exact (standsIn_append_plain (by decide : IsPlain "/") _ _ _).symm

theorem Resource.isPlain_ofKind (k : Kind) : IsPlain ((ofKind k).root ++ "/namespaces/") ∧
    IsPlain ("/" ++ (ofKind k).plural ++ "/") := by
  cases k <;> decide

theorem standsIn_plain {text : String} (h : IsPlain text) (query : Bool) :
    standsIn query text.toList = true := by
  rw [← List.append_nil text.toList, standsIn_plain_append h]
  rfl

theorem standsIn_patchQuery {text : String} (h : IsPlain text) (query : Bool) :
    standsIn query (text ++ patchQuery).toList = true := by
  rw [String.toList_append, standsIn_plain_append h]
  revert query
  decide

theorem Request.targetOf_eq {name text : String} {t : Target} (hname : name ≠ "")
    (ht : Target.ofText? text = some t) : targetOf name text = .ok t := by
  rw [targetOf, if_neg hname, ht]

end RedisControl.Api

namespace RedisControl

open Api Api.Target

/-! ## The requests about an instance -/

namespace Redis

/-- The instance can be named in requests: it has an identifier, and a namespace and a name that
are not empty and may stand in a target. -/
structure IsAddressable (r : Redis) : Prop where
  complete : r.IsComplete
  ns_ne : r.metadata.ns ≠ some ""
  name_ne : r.name ≠ ""
  target : (Target.ofText? (r.metadata.ns.getD "" ++ "/" ++ r.name)).isSome

variable {r : Redis}

/-- The names of owned objects are that of the instance with plain text before and after it. -/
theorem exists_of_mem_objectNames {k : Kind} {n : String} (h : n ∈ r.objectNames k) :
    ∃ before after, IsPlain before ∧ IsPlain after ∧ n = before ++ r.name ++ after := by
  have hplain : ∀ {after}, IsPlain after →
      ∃ before after', IsPlain before ∧ IsPlain after' ∧
        r.name ++ after = before ++ r.name ++ after' :=
    fun {after} hafter => ⟨"", after, by decide, hafter, by rw [String.empty_append]⟩
  have hname : ∃ before after, IsPlain before ∧ IsPlain after ∧
      r.name = before ++ r.name ++ after :=
    ⟨"", "", by decide, by decide, by rw [String.empty_append, String.append_empty]⟩
  cases k with
  | serviceAccount =>
    rw [List.mem_singleton.1 h]
    exact ⟨"redis-", "", by decide, by decide, String.append_empty.symm⟩
  | role =>
    rw [List.mem_singleton.1 h]
    exact ⟨"redis-", "-role", by decide, by decide, rfl⟩
  | roleBinding =>
    rw [List.mem_singleton.1 h]
    exact ⟨"redis-", "-rolebinding", by decide, by decide, rfl⟩
  | configMap =>
    rcases List.mem_cons.1 h with rfl | h
    · exact hplain (by decide)
    · rw [List.mem_singleton.1 h]
      exact hplain (by decide)
  | service =>
    rcases List.mem_cons.1 h with rfl | h
    · exact hplain (by decide)
    · rw [List.mem_singleton.1 h]
      exact hname
  | statefulSet =>
    rw [List.mem_singleton.1 h]
    exact hname

namespace IsAddressable

/-- What is named after the instance in a resource can be addressed. -/
theorem exists_target (h : r.IsAddressable) {res : Resource}
    (hroot : IsPlain (res.root ++ "/namespaces/")) (hplural : IsPlain ("/" ++ res.plural ++ "/"))
    {before after : String} (hbefore : IsPlain before)
    (hafter : ∀ query, standsIn query after.toList = true) :
    ∃ t, Target.ofText? (res.collection (r.metadata.ns.getD "") ++ (before ++ r.name) ++ after) =
      some t := by
  refine Option.isSome_iff_exists.1 ((isSome_ofText?_iff _).2 ?_)
  rw [Resource.standsIn_collection hroot hplural hbefore]
  exact standsIn_append hafter ((isSome_ofText?_iff _).1 h.target)

theorem ne_of_mem_objectNames (h : r.IsAddressable) {k : Kind} {n : String}
    (hn : n ∈ r.objectNames k) : n ≠ "" := by
  obtain ⟨before, after, -, -, rfl⟩ := exists_of_mem_objectNames hn
  intro he
  rw [String.append_eq_empty_iff, String.append_eq_empty_iff] at he
  exact h.name_ne he.1.2

theorem exists_requests (h : r.IsAddressable) {k : Kind} {n : String} (hn : n ∈ r.objectNames k)
    (body : Json) :
    (∃ t, Request.read? (.ofKind k) (r.metadata.ns.getD "") n = .ok (.read t)) ∧
      ∃ t, Request.patch? (.ofKind k) (r.metadata.ns.getD "") n "" body = .ok (.patch t body) := by
  obtain ⟨hroot, hplural⟩ := Resource.isPlain_ofKind k
  have hne := h.ne_of_mem_objectNames hn
  obtain ⟨before, after, hbefore, hafter, rfl⟩ := exists_of_mem_objectNames hn
  obtain ⟨t, ht⟩ := h.exists_target hroot hplural hbefore (standsIn_plain hafter)
  obtain ⟨t', ht'⟩ := h.exists_target hroot hplural hbefore (standsIn_patchQuery hafter)
  have hread : (Resource.ofKind k).collection (r.metadata.ns.getD "") ++ (before ++ r.name ++ after) =
      (Resource.ofKind k).collection (r.metadata.ns.getD "") ++ (before ++ r.name) ++ after := by
    simp only [String.append_assoc]
  refine ⟨⟨t, ?_⟩, t', ?_⟩
  · rw [Request.read?, hread, Request.targetOf_eq hne ht]
    rfl
  · rw [← String.append_assoc] at ht'
    rw [Request.patch?, hread, String.append_empty, Request.targetOf_eq hne ht']
    rfl

theorem exists_statusRequest (h : r.IsAddressable) (body : Json) : ∃ t,
    Request.patch? .redises (r.metadata.ns.getD "") r.name "/status" body = .ok (.patch t body) := by
  obtain ⟨t, ht⟩ := h.exists_target (by decide : IsPlain (Resource.redises.root ++ "/namespaces/"))
    (by decide) (by decide : IsPlain "") (standsIn_patchQuery (by decide : IsPlain "/status"))
  rw [String.empty_append] at ht
  refine ⟨t, ?_⟩
  rw [Request.patch?, String.append_assoc, Request.targetOf_eq h.name_ne ht]
  rfl

end IsAddressable

end Redis

end RedisControl
