import RedisControl.Proofs.Postponement

/-!
# What comes of applying an object

**Theorem (`apply_answers_classified`).** Apply an object of any kind over a server that answers
as it likes. Without a name or a namespace nothing is sent. Otherwise the object is read, and
patched if the read gives an object or says that there is none, whatever the object holds. What
the two requests come to is read off the replies of the server, or is the fault that keeps the read
from being built. If one of the two fails, then its error is the answer, or the delay for writes if
it is one that passes; and if none does, the answer says from the versions before and after what
the patch did, and for a workload how many replicas are ready.

A read that can be made leads to a patch that can be made, because the two targets differ only in
the query, which may follow on any target (`exists_patch_of_read`). So a patch is missing for one
reason only, a read that failed. The codes that pass are looked at where the answer is made, the
reason of an error where it is read; `Fails` is said of what the requests come to, after the
latter, so that an object that is not there is no failure.

* `Api.readAnswer`, `Api.patchAnswer` : what the two requests come to.
* `Api.exists_applying` : the replies that they are read off, and the requests behind the answer.
* `Api.Classified` : what the answer has to be, given what the requests come to.
-/

namespace RedisControl

/-! ## Kinds -/

theorem Body.kind_of_read? {j : Json} {k : Kind} {body : Body} (h : Body.read? j k = some body) :
    body.kind = k := by
  cases k with
  | serviceAccount =>
    obtain rfl := Option.some.inj h
    rfl
  | role | configMap | service =>
    obtain ⟨_, -, h⟩ := Option.bind_eq_some_iff.1 h
    obtain rfl := Option.some.inj h
    rfl
  | roleBinding | statefulSet =>
    obtain ⟨_, -, h⟩ := Option.bind_eq_some_iff.1 h
    obtain ⟨_, -, h⟩ := Option.bind_eq_some_iff.1 h
    obtain rfl := Option.some.inj h
    rfl

theorem SubResource.kind_of_read? {j : Json} {k : Kind} {o : SubResource}
    (h : SubResource.read? k j = some o) : o.kind = k := by
  obtain ⟨_, -, h⟩ := Option.bind_eq_some_iff.1 h
  obtain ⟨_, -, h⟩ := Option.bind_eq_some_iff.1 h
  obtain ⟨_, -, h⟩ := Option.bind_eq_some_iff.1 h
  obtain ⟨_, -, h⟩ := Option.bind_eq_some_iff.1 h
  obtain ⟨body, hbody, h⟩ := Option.bind_eq_some_iff.1 h
  obtain rfl := Option.some.inj h
  exact Body.kind_of_read? hbody

/-- The replicas that a workload reports as ready, none if it does not say; other kinds report
nothing. -/
theorem SubResource.readyReplicas?_eq (o : SubResource) :
    (o.kind ≠ .statefulSet → o.readyReplicas? = none) ∧
      (o.kind = .statefulSet → ∃ spec status, o.body = .statefulSet spec status ∧
        o.readyReplicas? = some ((status.bind (·.readyReplicas)).getD 0)) := by
  obtain ⟨metadata, body⟩ := o
  cases body with
  | statefulSet spec status => exact ⟨fun h => absurd rfl h, fun _ => ⟨spec, status, rfl, rfl⟩⟩
  | _ => exact ⟨fun _ => rfl, nofun⟩

namespace Api

open Program

/-! ## Requests -/

/-- The query of a patch may follow on the target of a read. -/
theorem Request.exists_patch_of_read {r : Resource} {ns name : String} {q : Request}
    (h : Request.read? r ns name = .ok q) (body : Json) :
    ∃ target, Target.ofText? (r.collection ns ++ name ++ patchQuery) = some target ∧
      Request.patch? r ns name "" body = .ok (.patch target body) := by
  have htarget : ∃ t, targetOf name (r.collection ns ++ name) = .ok t := by
    rw [Request.read?] at h
    cases ht : targetOf name (r.collection ns ++ name) with
    | error fault =>
      rw [ht] at h
      cases h
    | ok t => exact ⟨t, rfl⟩
  obtain ⟨t, ht⟩ := htarget
  unfold targetOf at ht
  split at ht
  · cases ht
  · rename_i hname
    split at ht
    · cases ht
    · rename_i htext
      have hread := (Target.isSome_ofText?_iff _).1 (Option.isSome_of_eq_some htext)
      have hquery : ∀ query, Target.standsIn query patchQuery.toList = true := by
        intro query
        have hplain := standsIn_patchQuery (by decide : Target.IsPlain "") query
        rwa [String.empty_append] at hplain
      have hpatch := Target.standsIn_append hquery hread
      rw [← String.toList_append] at hpatch
      obtain ⟨target, htarget⟩ :=
        Option.isSome_iff_exists.1 ((Target.isSome_ofText?_iff _).2 hpatch)
      refine ⟨target, htarget, ?_⟩
      rw [Request.patch?, String.append_empty, targetOf_eq hname htarget]
      rfl

/-- The patches among some events, each with its target and what it asks for. -/
def patches (t : List (Event Api)) : List (Target × Json) :=
  (requests t).filterMap fun
    | (.patch target body, _) => some (target, body)
    | (.read _, _) => none

/-! ## What the two requests come to -/

section

variable {σ : Type} (server : Handler Api σ) (st : σ) (o : SubResource) (ns name : String)

/-- What the read of an object comes to; a read that cannot be made comes to an error. -/
def readAnswer : Except ClientError (Option SubResource) :=
  ((get (SubResource.read? o.kind) (.ofKind o.kind) ns name).run server st).1

/-- What the patch of an object comes to, after the read. -/
def patchAnswer : Except ClientError SubResource :=
  ((patch (SubResource.read? o.kind) (.ofKind o.kind) ns name o.write).run server
    ((get (SubResource.read? o.kind) (.ofKind o.kind) ns name).run server st).2).1

end

/-- One of the two requests fails; there is no patch unless the read gives an object or says that
there is none. -/
def Fails (read : Except ClientError (Option SubResource)) (patched : Except ClientError SubResource)
    (e : ClientError) : Prop :=
  read = .error e ∨ ∃ before, read = .ok before ∧ patched = .error e

/-- What the answer has to be, given what the two requests come to. -/
structure Classified (timeout : Duration) (k : Kind)
    (read : Except ClientError (Option SubResource)) (patched : Except ClientError SubResource)
    (a : Except ControlError Applied) : Prop where
  pending : ∀ after, a = .ok (.pending after) ↔ after = timeout ∧
    ∃ f, Fails read patched (.api f) ∧ (f.code = 404 ∨ f.code = 409)
  failed : ∀ e, a = .error e ↔ ∃ c, e = .client c ∧ Fails read patched c ∧
    ¬ ∃ f, c = .api f ∧ (f.code = 404 ∨ f.code = 409)
  converged : (∃ change ready, a = .ok (.converged change ready)) ↔ ¬ ∃ c, Fails read patched c
  /-- The versions before and after tell what the patch did, and the object after it how many
  replicas are ready. -/
  shown : ∀ change ready, a = .ok (.converged change ready) → ∃ before after,
    read = .ok before ∧ patched = .ok after ∧
    (change = .created ↔ before = none) ∧
    (change = .unchanged ↔ ∃ previous, before = some previous ∧
      previous.metadata.resourceVersion = after.metadata.resourceVersion) ∧
    (change = .updated ↔ ∃ previous, before = some previous ∧
      previous.metadata.resourceVersion ≠ after.metadata.resourceVersion) ∧
    (k ≠ .statefulSet → ready = none) ∧
    (k = .statefulSet → ∃ spec status, after.body = .statefulSet spec status ∧
      ready = some ((status.bind (·.readyReplicas)).getD 0))

/-! ## The answer -/

theorem changeBetween_cases (before : Option SubResource) (after : SubResource) :
    (changeBetween before after = .created ↔ before = none) ∧
    (changeBetween before after = .unchanged ↔ ∃ previous, before = some previous ∧
      previous.metadata.resourceVersion = after.metadata.resourceVersion) ∧
    (changeBetween before after = .updated ↔ ∃ previous, before = some previous ∧
      previous.metadata.resourceVersion ≠ after.metadata.resourceVersion) := by
  cases before with
  | none => simp [changeBetween]
  | some previous =>
    by_cases h : previous.metadata.resourceVersion = after.metadata.resourceVersion
    · simp [changeBetween, h]
    · simp [changeBetween, h]

theorem classified_of_fails {timeout : Duration} {k : Kind}
    {read : Except ClientError (Option SubResource)} {patched : Except ClientError SubResource}
    {e : ClientError} (only : ∀ c, Fails read patched c ↔ c = e) :
    Classified timeout k read patched (postponed timeout (.client e)) := by
  have htransient := e.isTransient_iff
  rw [postponed_eq]
  -- The answer is a delay or an error, as the code tells; it is never that the object is in place.
  cases h : e.isTransient with
  | true =>
    obtain ⟨f, rfl, hcode⟩ := htransient.1 h
    refine ⟨?_, ?_, ?_, nofun⟩
    · intro after
      constructor
      · intro ha
        cases ha
        exact ⟨rfl, f, (only _).2 rfl, hcode⟩
      · rintro ⟨rfl, -⟩
        rfl
    · intro e
      refine iff_of_false nofun ?_
      rintro ⟨c, -, hfails, hstays⟩
      exact hstays ⟨f, (only c).1 hfails, hcode⟩
    · exact iff_of_false nofun fun hnone => hnone ⟨_, (only _).2 rfl⟩
  | false =>
    have hstays : ¬ ∃ f, e = .api f ∧ (f.code = 404 ∨ f.code = 409) := by
      rw [← htransient, h]
      exact Bool.false_ne_true
    refine ⟨?_, ?_, ?_, nofun⟩
    · intro after
      refine iff_of_false nofun ?_
      rintro ⟨-, f, hfails, hcode⟩
      exact hstays ⟨f, ((only _).1 hfails).symm, hcode⟩
    · intro e'
      constructor
      · intro ha
        cases ha
        exact ⟨e, rfl, (only e).2 rfl, hstays⟩
      · rintro ⟨c, rfl, hfails, -⟩
        rw [(only c).1 hfails]
        rfl
    · exact iff_of_false nofun fun hnone => hnone ⟨_, (only _).2 rfl⟩

theorem classified_of_written {timeout : Duration} {k : Kind} {before : Option SubResource}
    {after : SubResource} (hkind : after.kind = k) :
    Classified timeout k (.ok before) (.ok after)
      (.ok (.converged (changeBetween before after) after.readyReplicas?)) := by
  have hnone : ∀ c, ¬ Fails (.ok before) (.ok after) c := by
    rintro c (h | ⟨_, -, h⟩) <;> cases h
  refine ⟨?_, ?_, ?_, ?_⟩
  · intro delay
    refine iff_of_false nofun ?_
    rintro ⟨-, f, hfails, -⟩
    exact hnone _ hfails
  · intro e
    refine iff_of_false nofun ?_
    rintro ⟨c, -, hfails, -⟩
    exact hnone c hfails
  · exact iff_of_true ⟨_, _, rfl⟩ fun ⟨c, hfails⟩ => hnone c hfails
  · intro change ready ha
    cases ha
    obtain ⟨hcreated, hunchanged, hupdated⟩ := changeBetween_cases before after
    refine ⟨before, after, rfl, rfl, hcreated, hunchanged, hupdated, ?_⟩
    rw [← hkind]
    exact after.readyReplicas?_eq

/-- What the two requests come to leaves one answer only. -/
theorem Classified.unique {timeout : Duration} {k : Kind}
    {read : Except ClientError (Option SubResource)} {patched : Except ClientError SubResource}
    {a a' : Except ControlError Applied} (h : Classified timeout k read patched a)
    (h' : Classified timeout k read patched a') : a = a' := by
  -- Delays and errors are told by an equivalence each. Where the object is in place, both answers
  -- are read off the same two objects.
  match a, h with
  | .error e, h => exact ((h'.failed e).2 ((h.failed e).1 rfl)).symm
  | .ok (.pending after), h => exact ((h'.pending after).2 ((h.pending after).1 rfl)).symm
  | .ok (.converged change ready), h =>
    obtain ⟨change', ready', rfl⟩ := h'.converged.2 (h.converged.1 ⟨change, ready, rfl⟩)
    obtain ⟨before, after, hread, hpatched, hcreated, hunchanged, hupdated, hother, hworkload⟩ :=
      h.shown change ready rfl
    obtain ⟨before', after', hread', hpatched', hcreated', hunchanged', hupdated', hother',
      hworkload'⟩ := h'.shown change' ready' rfl
    obtain rfl := Except.ok.inj (hread.symm.trans hread')
    obtain rfl := Except.ok.inj (hpatched.symm.trans hpatched')
    have hchange : change = change' := by
      cases change with
      | created => exact (hcreated'.2 (hcreated.1 rfl)).symm
      | unchanged => exact (hunchanged'.2 (hunchanged.1 rfl)).symm
      | updated => exact (hupdated'.2 (hupdated.1 rfl)).symm
    have hready : ready = ready' := by
      by_cases hk : k = .statefulSet
      · obtain ⟨spec, status, hbody, rfl⟩ := hworkload hk
        obtain ⟨spec', status', hbody', rfl⟩ := hworkload' hk
        obtain ⟨-, rfl⟩ := Body.statefulSet.inj (hbody.symm.trans hbody')
        rfl
      · rw [hother hk, hother' hk]
    rw [hchange, hready]

section

variable {σ : Type} (server : Handler Api σ) (st : σ) (timeout : Duration) (o : SubResource)
  (ns name : String)

theorem kind_of_patchAnswer {after : SubResource}
    (h : patchAnswer server st o ns name = .ok after) : after.kind = o.kind := by
  unfold patchAnswer patch at h
  cases hrequest : Request.patch? (.ofKind o.kind) ns name "" o.write with
  | error fault =>
    rw [hrequest] at h
    cases h
  | ok q =>
    rw [hrequest] at h
    obtain ⟨x, -, hx⟩ := runs_fetch.1 (runs_transcript server
      (fetch (SubResource.read? o.kind) (.ok q)) _)
    rw [hx] at h
    unfold Reply.decode at h
    split at h
    · cases h
    · split at h
      · cases h
      · split at h
        · rename_i hread
          obtain ⟨j, -, hj⟩ := Option.bind_eq_some_iff.1 hread
          obtain rfl := Except.ok.inj h
          exact SubResource.kind_of_read? hj
        · cases h

theorem run_applyNamed_of_unread {e : ClientError}
    (hread : readAnswer server st o ns name = .error e) :
    ((applyNamed timeout o ns name).run server st).1 = postponed timeout (.client e) := by
  unfold readAnswer at hread
  rw [applyNamed, bind_eq, run_bind, hread]
  rfl

theorem run_applyNamed_of_unpatched {before : Option SubResource} {e : ClientError}
    (hread : readAnswer server st o ns name = .ok before)
    (hpatch : patchAnswer server st o ns name = .error e) :
    ((applyNamed timeout o ns name).run server st).1 = postponed timeout (.client e) := by
  unfold readAnswer at hread
  unfold patchAnswer at hpatch
  rw [applyNamed, bind_eq, run_bind, hread]
  show ((Program.bind _ _).run server _).1 = _
  rw [run_bind, hpatch]
  rfl

theorem run_applyNamed_of_patched {before : Option SubResource} {after : SubResource}
    (hread : readAnswer server st o ns name = .ok before)
    (hpatch : patchAnswer server st o ns name = .ok after) :
    ((applyNamed timeout o ns name).run server st).1 =
      .ok (.converged (changeBetween before after) after.readyReplicas?) := by
  unfold readAnswer at hread
  unfold patchAnswer at hpatch
  rw [applyNamed, bind_eq, run_bind, hread]
  show ((Program.bind _ _).run server _).1 = _
  rw [run_bind, hpatch]
  rfl

theorem classified_applyNamed :
    Classified timeout o.kind (readAnswer server st o ns name) (patchAnswer server st o ns name)
      ((applyNamed timeout o ns name).run server st).1 := by
  cases hread : readAnswer server st o ns name with
  | error e =>
    rw [run_applyNamed_of_unread server st timeout o ns name hread]
    refine classified_of_fails fun c => ?_
    constructor
    · rintro (h | ⟨_, h, -⟩)
      · exact (Except.error.inj h).symm
      · cases h
    · rintro rfl
      exact Or.inl rfl
  | ok before =>
    cases hpatch : patchAnswer server st o ns name with
    | error e =>
      rw [run_applyNamed_of_unpatched server st timeout o ns name hread hpatch]
      refine classified_of_fails fun c => ?_
      constructor
      · rintro (h | ⟨_, -, h⟩)
        · cases h
        · exact (Except.error.inj h).symm
      · rintro rfl
        exact Or.inr ⟨before, rfl, rfl⟩
    | ok after =>
      rw [run_applyNamed_of_patched server st timeout o ns name hread hpatch]
      exact classified_of_written (kind_of_patchAnswer server st o ns name hpatch)

/-! ## The patch -/

theorem patches_append (t u : List (Event Api)) : patches (t ++ u) = patches t ++ patches u := by
  rw [patches, requests, List.filterMap_append, List.filterMap_append]
  rfl

theorem patches_get : patches
    ((get (SubResource.read? o.kind) (.ofKind o.kind) ns name).transcript server st) = [] := by
  rw [get, transcript_bind, patches_append, Request.read?]
  cases Request.targetOf name ((Resource.ofKind o.kind).collection ns ++ name) with
  | error fault | ok target => rfl

theorem exists_read_of_readAnswer {before : Option SubResource}
    (h : readAnswer server st o ns name = .ok before) :
    ∃ q, Request.read? (.ofKind o.kind) ns name = .ok q := by
  cases hrequest : Request.read? (.ofKind o.kind) ns name with
  | error fault =>
    unfold readAnswer get at h
    rw [hrequest] at h
    cases h
  | ok q => exact ⟨q, rfl⟩

theorem patches_applyNamed :
    (∀ e, readAnswer server st o ns name = .error e →
      patches ((applyNamed timeout o ns name).transcript server st) = []) ∧
    ∀ before, readAnswer server st o ns name = .ok before → ∃ target,
      Target.ofText? ((Resource.ofKind o.kind).collection ns ++ name ++ patchQuery) = some target ∧
      patches ((applyNamed timeout o ns name).transcript server st) = [(target, o.write)] := by
  unfold applyNamed
  rw [bind_eq, transcript_bind, patches_append, patches_get, List.nil_append]
  constructor
  · intro e hread
    unfold readAnswer at hread
    rw [hread]
    rfl
  · intro before hread
    obtain ⟨q, hq⟩ := exists_read_of_readAnswer server st o ns name hread
    obtain ⟨target, htarget, hpatch⟩ := Request.exists_patch_of_read hq o.write
    refine ⟨target, htarget, ?_⟩
    unfold readAnswer at hread
    rw [hread]
    show patches ((Program.bind _ _).transcript server _) = _
    rw [transcript_bind, patches_append, patch, hpatch]
    split <;> rfl

end

/-! ## The replies -/

section

variable {σ : Type} (server : Handler Api σ) (st : σ) {o : SubResource} {ns name : String}

theorem readAnswer_of_fault {fault : RequestFault}
    (h : Request.read? (.ofKind o.kind) ns name = .error fault) :
    readAnswer server st o ns name = .error (.request fault) := by
  rw [readAnswer, get, h]
  rfl

/-- Where the requests can be built, what they come to is read off the replies of the server. -/
theorem exists_applying (timeout : Duration) (hname : o.metadata.name = some name)
    (hns : o.metadata.ns = some ns) {q : Request}
    (hq : Request.read? (.ofKind o.kind) ns name = .ok q) : ∃ target,
    Request.patch? (.ofKind o.kind) ns name "" o.write = .ok (.patch target o.write) ∧
    readAnswer server st o ns name =
      absentOr (Reply.decode (SubResource.read? o.kind) (server (.send q) st).1) ∧
    patchAnswer server st o ns name = Reply.decode (SubResource.read? o.kind)
      (server (.send (.patch target o.write)) (server (.send q) st).2).1 ∧
    Applying timeout o q (.patch target o.write) ((applyObject timeout o).transcript server st)
      ((applyObject timeout o).run server st).1 := by
  obtain ⟨target, -, hpatch⟩ := Request.exists_patch_of_read hq o.write
  refine ⟨target, hpatch, ?_, ?_,
    applying_of_runs hname hns hq hpatch (runs_transcript server _ st)⟩
  · rw [readAnswer, get, hq]
    rfl
  · rw [patchAnswer, patch, hpatch, get, hq]
    rfl

end

/-! ## The theorem -/

/-- **What comes of applying an object.** -/
theorem apply_answers_classified (timeout : Duration) (o : SubResource) {σ : Type}
    (server : Handler Api σ) (st : σ) :
    (o.metadata.name = none →
      (applyObject timeout o).transcript server st = [] ∧
      ((applyObject timeout o).run server st).1 = .error (.missingKey "metadata.name")) ∧
    (∀ name, o.metadata.name = some name → o.metadata.ns = none →
      (applyObject timeout o).transcript server st = [] ∧
      ((applyObject timeout o).run server st).1 = .error (.missingKey "metadata.namespace")) ∧
    ∀ name ns, o.metadata.name = some name → o.metadata.ns = some ns →
      (∀ fault, Request.read? (.ofKind o.kind) ns name = .error fault →
        readAnswer server st o ns name = .error (.request fault)) ∧
      (∀ q, Request.read? (.ofKind o.kind) ns name = .ok q → ∃ target,
        Request.patch? (.ofKind o.kind) ns name "" o.write = .ok (.patch target o.write) ∧
        readAnswer server st o ns name =
          absentOr (Reply.decode (SubResource.read? o.kind) (server (.send q) st).1) ∧
        patchAnswer server st o ns name = Reply.decode (SubResource.read? o.kind)
          (server (.send (.patch target o.write)) (server (.send q) st).2).1 ∧
        Applying timeout o q (.patch target o.write)
          ((applyObject timeout o).transcript server st)
          ((applyObject timeout o).run server st).1) ∧
      (∀ e, readAnswer server st o ns name = .error e →
        patches ((applyObject timeout o).transcript server st) = []) ∧
      (∀ before, readAnswer server st o ns name = .ok before → ∃ target,
        Target.ofText? ((Resource.ofKind o.kind).collection ns ++ name ++ patchQuery) =
          some target ∧
        patches ((applyObject timeout o).transcript server st) = [(target, o.write)]) ∧
      Classified timeout o.kind (readAnswer server st o ns name)
        (patchAnswer server st o ns name) ((applyObject timeout o).run server st).1 := by
  refine ⟨?_, ?_, ?_⟩
  · intro hname
    rw [applyObject, hname]
    exact ⟨rfl, rfl⟩
  · intro name hname hns
    rw [applyObject, hname, hns]
    exact ⟨rfl, rfl⟩
  · intro name ns hname hns
    refine ⟨fun _ => readAnswer_of_fault server st,
      fun _ => exists_applying server st timeout hname hns, ?_⟩
    rw [applyObject, hname, hns]
    obtain ⟨hunread, hpatched⟩ := patches_applyNamed server st timeout o ns name
    exact ⟨hunread, hpatched, classified_applyNamed server st timeout o ns name⟩

namespace Answering

open Postponement

/-- An object as it is desired. -/
def desired (body : Body) : SubResource where
  metadata := { name := some "cache", ns := some "demo" }
  body := body

/-- The object as it is in the cluster, in some version. -/
def placed (body : Body) (version : String) : SubResource where
  metadata := { name := some "cache", ns := some "demo", resourceVersion := some version }
  body := body

/-- A reply with the object in some version. -/
def sent (body : Body) (version : String) : Reply :=
  .answered 200 (placed body version).write.text

/-- What comes of applying the object over a server that sends given replies. -/
def result (body : Body) (replies : List Reply) : Except ControlError Applied :=
  ((applyObject (.ofSeconds 30) (desired body)).run replying replies).1

/-- A workload of which two replicas are ready. -/
def workload : Body := .statefulSet none (some { readyReplicas := some 2, replicas := 3 })

theorem exists_read (k : Kind) : ∃ q, Request.read? (.ofKind k) "demo" "cache" = .ok q := by
  have hbuilt : (Request.read? (.ofKind k) "demo" "cache").isOk = true := by
    cases k <;> decide +kernel
  cases hq : Request.read? (.ofKind k) "demo" "cache" with
  | ok q => exact ⟨q, rfl⟩
  | error fault =>
    rw [hq] at hbuilt
    cases hbuilt

end Answering

open Answering Postponement in
/-- Pairs of replies, each with its answer. -/
theorem apply_answers_classified_pairs :
    result .serviceAccount [refusal 404 "NotFound", sent .serviceAccount "1"] =
      .ok (.converged .created none) ∧
    result .serviceAccount [sent .serviceAccount "1", sent .serviceAccount "2"] =
      .ok (.converged .updated none) ∧
    result workload [sent workload "1", sent workload "1"] =
      .ok (.converged .unchanged (some 2)) ∧
    result .serviceAccount [sent .serviceAccount "1", refusal 409 "Conflict"] =
      .ok (.pending (.ofSeconds 30)) ∧
    result .serviceAccount [sent .serviceAccount "1", refusal 500 "InternalError"] =
      .error (.client (.api ⟨"Failure", "", "InternalError", 500⟩)) := by
  -- What the two requests come to is read off the pair of replies.
  have hclassified : ∀ body x y, Classified (.ofSeconds 30) body.kind
      (absentOr (x.decode (SubResource.read? body.kind)))
      (y.decode (SubResource.read? body.kind)) (result body [x, y]) := by
    intro body x y
    obtain ⟨-, hreplies, -, -, hclassified⟩ := (apply_answers_classified (.ofSeconds 30)
      (desired body) replying [x, y]).2.2 "cache" "demo" rfl rfl
    obtain ⟨q, hq⟩ := exists_read body.kind
    obtain ⟨target, -, hread, hpatched, -⟩ := hreplies q hq
    rw [hread, hpatched] at hclassified
    exact hclassified
  have hrefused : ∀ c ∈ [(409, "Conflict"), (500, "InternalError")],
      (refusal c.1 c.2).decode (SubResource.read? Body.serviceAccount.kind) =
        .error (.api ⟨"Failure", "", c.2, c.1⟩) := by
    simp only [← errorOf_eq_some_iff]
    decide +kernel
  have hsent : ∀ c ∈ [(Body.serviceAccount, "1"), (.serviceAccount, "2"), (workload, "1")],
      ((sent c.1 c.2).decode (SubResource.read? c.1.kind)).toOption = some (placed c.1 c.2) := by
    decide +kernel
  simp only [List.forall_mem_cons] at hsent hrefused
  obtain ⟨hfirst, hsecond, hworkload, -⟩ := hsent
  obtain ⟨hconflict, hbroken, -⟩ := hrefused
  refine ⟨?_, ?_, ?_, ?_, ?_⟩
  · have h := hclassified .serviceAccount (refusal 404 "NotFound") (sent .serviceAccount "1")
    have habsent : absentOr ((refusal 404 "NotFound").decode
        (SubResource.read? Body.serviceAccount.kind)) = .ok none :=
      Template.eq_ok_of_toOption (by decide +kernel)
    rw [habsent, Template.eq_ok_of_toOption hfirst] at h
    exact h.unique (classified_of_written rfl)
  · have h := hclassified .serviceAccount (sent .serviceAccount "1") (sent .serviceAccount "2")
    rw [Template.eq_ok_of_toOption hfirst, Template.eq_ok_of_toOption hsecond] at h
    exact h.unique (classified_of_written rfl)
  · have h := hclassified workload (sent workload "1") (sent workload "1")
    rw [Template.eq_ok_of_toOption hworkload] at h
    exact h.unique (classified_of_written rfl)
  · have h := hclassified .serviceAccount (sent .serviceAccount "1") (refusal 409 "Conflict")
    rw [Template.eq_ok_of_toOption hfirst, hconflict] at h
    exact (h.pending _).2 ⟨rfl, _, Or.inr ⟨_, rfl, rfl⟩, Or.inr rfl⟩
  · have h := hclassified .serviceAccount (sent .serviceAccount "1") (refusal 500 "InternalError")
    rw [Template.eq_ok_of_toOption hfirst, hbroken] at h
    refine (h.failed _).2 ⟨_, rfl, Or.inr ⟨_, rfl, rfl⟩, ?_⟩
    rintro ⟨f, hf, hcode⟩
    cases hf
    exact absurd hcode (by decide)

end Api

end RedisControl
