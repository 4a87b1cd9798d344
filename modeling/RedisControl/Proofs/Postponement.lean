import RedisControl.Proofs.ApiRuns
import RedisControl.Proofs.PassPlan
import RedisControl.Proofs.RequestTargets

/-!
# Failures that pass are no errors of a pass

An error with the code of a conflict or of a missing object will pass: another pass, some time
later, may well go through.

**Theorem (`transient_failures_postpone`).** Take a pass over the API server that reads an
instance, where the secrets that it reads are valid and its write of the status is accepted, or
refused for want of the instance. As long as the requests about owned objects fail only in ways
that pass, the pass does not end with an error. At the first such failure it ends, with the delay
that writes are to be tried again after; at any other failure it ends with just that error.

What a failed request means is decided in one place, where an object is applied (`postponed`). A
pass ends with the first application whose answer is not good (`PlanRun.ending_of_apply_mem`), and
an error of its steps is that of an application or of the secrets (`ConvergeRun.hasError`).

* `ClientError.isTransient` : the failures that pass.
* `Served` : all else goes well.
-/

namespace RedisControl

open Program Api

/-! ## Where errors come from -/

theorem Applied.eq_error_of_stop? {a : Except ControlError Applied} {e : ControlError}
    (h : Applied.stop? a = some (.error e)) : a = .error e := by
  match a, h with
  | .error e', h => rw [Except.error.inj (Option.some.inj h)]

theorem ApplyRun.exists_of_error {os : List SubResource} {as : List (Except ControlError Applied)}
    {e : ControlError} (h : ApplyRun os as (some (.error e))) :
    ∃ o, ⟨.apply o, .error e⟩ ∈ applyEvents os as := by
  obtain ⟨o, a, hm, ha⟩ := h.exists_of_stop
  obtain rfl := Applied.eq_error_of_stop? ha
  exact ⟨o, hm⟩

/-- An error comes from an application, or from the secrets that were read. -/
def Trace.HasError (r : Redis) (events : Trace) (e : ControlError) : Prop :=
  (∃ o, ⟨.apply o, .error e⟩ ∈ events) ∨
    ∃ reads, Runs (tlsInputHashes r) reads (.error e) ∧
      Trace.secretAnswers reads = Trace.secretAnswers events

theorem Gathering.hasError {r : Redis} {w : Owned r} {events : Trace} {ms : List Mark}
    {e : ControlError} (h : Gathering w events ms (.finish (.error e))) :
    Trace.HasError r events e := by
  generalize hx : (.finish (.error e) : Progress InputHashes) = x at h
  cases h with
  | permissions permissions =>
    obtain rfl := Progress.finish.inj hx
    exact Or.inl permissions.exists_of_error
  | tlsInputs permissions tlsInputs =>
    obtain rfl := Except.error.inj (Progress.finish.inj hx)
    refine Or.inr ⟨_, tlsInputs, ?_⟩
    rw [Trace.secretAnswers_append, secretAnswers_applyEvents, List.nil_append]
  | configMaps permissions tlsInputs configMaps =>
    obtain rfl := Progress.ofStop_eq_finish hx.symm
    obtain ⟨o, hm⟩ := configMaps.exists_of_error
    exact Or.inl ⟨o, List.mem_append_right _ (List.mem_append_right _ hm)⟩

/-- An error of the steps over a complete instance is that of an application or of the secrets. -/
theorem ConvergeRun.hasError {settings : Settings} {r : Redis} (hr : r.IsComplete)
    {s s' : Status} {events : Trace} {e : ControlError}
    (h : ConvergeRun settings r s events s' (.error e)) : Trace.HasError r events e := by
  generalize hending : (.error e : Ending) = ending at h
  cases h with
  | filled _ _ => cases hending
  | unowned _ unowned =>
    obtain ⟨w⟩ := Redis.owned_of_isComplete hr
    rw [w.permissionObjects_eq] at unowned
    cases unowned
  | worked _ course _ =>
    cases course with
    | stopped gathering =>
      obtain rfl : (.error e : Ending) = _ := hending
      exact gathering.hasError
    | recorded _ _ => cases hending
    | services _ _ services =>
      obtain rfl : (.error e : Ending) = _ := hending
      obtain ⟨o, hm⟩ := services.exists_of_error
      exact Or.inl ⟨o, List.mem_append_right _ hm⟩
    | @workload _ _ _ _ a _ _ _ =>
      have ha : a = .error e := by
        cases hstop : Applied.stop? a with
        | none =>
          rw [hstop] at hending
          cases hending
        | some ending =>
          rw [hstop] at hending
          obtain rfl : (.error e : Ending) = ending := hending
          exact Applied.eq_error_of_stop? hstop
      subst ha
      exact Or.inl ⟨_, List.mem_append_right _ (List.mem_append_right _ (List.mem_singleton_self _))⟩

/-! ## What else a pass asks for -/

/-- The secrets that were read, if any, are valid. -/
def Trace.SecretsValid (r : Redis) (t : Trace) : Prop :=
  secretAnswers t = [] ∨ ∃ inputs, tlsResult r (secretAnswers t) = .ok inputs

theorem Trace.secretAnswers_ne_nil {r : Redis} {reads : Trace} {e : ControlError}
    (hreads : Runs (tlsInputHashes r) reads (.error e)) : secretAnswers reads ≠ [] := by
  intro hnone
  have hnil : reads = [] := by
    refine List.eq_nil_iff_forall_not_mem.2 ?_
    intro event he
    have hread := runs_tlsInputHashes_reads hreads event he
    obtain ⟨answer, hanswer⟩ := Option.isSome_iff_exists.1 hread
    have hmem : answer ∈ secretAnswers reads := List.mem_filterMap.2 ⟨event, he, hanswer⟩
    rw [hnone] at hmem
    cases hmem
  obtain ⟨stage, event, hlast, -⟩ := (follows_tlsInputHashes hreads).getLast?_of_stop
  rw [hnil, List.zip_nil_right] at hlast
  cases hlast

theorem Trace.SecretsValid.not_error {r : Redis} {t reads : Trace} (h : SecretsValid r t)
    {e : ControlError} (hreads : Runs (tlsInputHashes r) reads (.error e))
    (hanswers : secretAnswers reads = secretAnswers t) : False := by
  rcases h with hnone | ⟨inputs, hok⟩
  · exact secretAnswers_ne_nil hreads (hanswers.trans hnone)
  · rw [← hanswers, tlsResult_of_runs hreads] at hok
    cases hok

/-- Whether a write of the status was accepted, or refused because the instance has gone. -/
def Api.Reply.acknowledges (x : Reply) : Bool :=
  match x.decode Redis.read? with
  | .ok _ => true
  | .error (.api f) => f.code == 404
  | .error _ => false

theorem Api.Reply.statusWritten_eq {x : Reply} (h : x.acknowledges = true) :
    statusWritten (x.decode Redis.read?) = .ok () := by
  unfold acknowledges at h
  generalize x.decode Redis.read? = answer at h
  match answer, h with
  | .ok r, _ => rfl
  | .error (.api f), h => exact if_pos h

/-- All goes well in a run that has to do with neither the owned objects nor the clock: an
instance is read that can be named in requests, the secrets that are read are valid, and writes of
the status are acknowledged. -/
structure Served (r : Redis) (calls : List (Event Cluster × List (Event Api))) : Prop where
  read : r ∈ Trace.redises (calls.map (·.1))
  addressable : r.IsAddressable
  secrets : Trace.SecretsValid r (calls.map (·.1))
  status : ∀ r' q x, (.patchStatus r', q, x) ∈ requestsBehind calls → x.acknowledges = true

/-! ## Failures that pass -/

/-- A failure that will pass: a conflict, or an object that is missing. -/
def ClientError.isTransient : ClientError → Bool
  | .api f => f.code == 404 || f.code == 409
  | _ => false

theorem ClientError.isTransient_iff (e : ClientError) :
    e.isTransient = true ↔ ∃ f, e = .api f ∧ (f.code = 404 ∨ f.code = 409) := by
  cases e with
  | api f => simp [isTransient]
  | _ => exact iff_of_false Bool.false_ne_true nofun

/-- How a pass ends with a request about an owned object that failed. -/
def ClientError.ending (timeout : Duration) (e : ClientError) : Ending :=
  if e.isTransient then .ok (.requeueAfter timeout) else .error (.client e)

theorem postponed_eq (timeout : Duration) (e : ClientError) : postponed timeout (.client e) =
    if e.isTransient then .ok (.pending timeout) else .error (.client e) := by
  have hcodes : ((ControlError.client e).isConflict || (ControlError.client e).isNotFound) =
      e.isTransient := by
    cases e with
    | api f => exact Bool.or_comm _ _
    | _ => rfl
  rw [postponed, hcodes]

theorem stop?_postponed (timeout : Duration) (e : ClientError) :
    Applied.stop? (postponed timeout (.client e)) = some (e.ending timeout) := by
  rw [postponed_eq, ClientError.ending]
  split <;> rfl

/-! ## The calls of a run over the API server -/

theorem eq_some_of_getD_ne {s : Option String} (h : s.getD "" ≠ "") : s = some (s.getD "") := by
  cases s with
  | none => exact absurd rfl h
  | some text => rfl

/-- An owned object of an addressable instance has a name and a namespace, and the requests about
it can be built. -/
theorem Redis.IsAddressable.applying {r : Redis} (h : r.IsAddressable) {timeout : Duration}
    {o : SubResource} (hns : o.handle.ns = r.metadata.ns.getD "")
    (hname : o.handle.name ∈ r.objectNames o.kind) {u : List (Event Api)}
    {a : Except ControlError Applied} (run : Runs (applyObject timeout o) u a) :
    ∃ q q' body, Applying timeout o (.read q) (.patch q' body) u a := by
  have hnamed := eq_some_of_getD_ne (h.ne_of_mem_objectNames hname)
  have hplaced : o.metadata.ns = some (r.metadata.ns.getD "") := by
    rw [← hns]
    refine eq_some_of_getD_ne ?_
    intro hempty
    refine h.ns_ne ?_
    rw [h.complete.ns_eq, ← hns]
    exact congrArg some hempty
  obtain ⟨⟨q, hq⟩, q', hq'⟩ := h.exists_requests hname o.write
  exact ⟨q, q', o.write, applying_of_runs hnamed hplaced hq hq' run⟩

section

variable {timeout : Duration} {settings : Settings} {ns name : String} {t : List (Event Api)}
  {e : Ending} {r : Redis}

namespace Program.Division

variable (d : Division (answer timeout) (pass settings ns name) t e)

theorem applying (served : Served r d.calls) {o : SubResource} {a : Except ControlError Applied}
    {u : List (Event Api)} (hc : (⟨.apply o, a⟩, u) ∈ d.calls) :
    ∃ q q' body, Applying timeout o (.read q) (.patch q' body) u a := by
  have hevent : (⟨.apply o, a⟩ : Event Cluster) ∈ d.calls.map (·.1) := List.mem_map_of_mem hc
  have hhandle : o.handle ∈ Trace.handles (d.calls.map (·.1)) :=
    Trace.mem_handles.2 (List.mem_filterMap.2 ⟨_, hevent, rfl⟩)
  obtain ⟨-, hns, hname⟩ := mem_objectNames_of_runs d.runs served.read hhandle
  exact served.addressable.applying hns hname (d.behind _ hc)

theorem ending_eq (served : Served r d.calls) {s : Status} {body : Ending}
    {writes : List (Redis × Except ControlError Unit)} (finalized : FinalRun r s body writes e)
    (hwrites : ∀ w ∈ writes, writeEvent w ∈ d.calls.map (·.1)) : e = body := by
  cases finalized with
  | unchanged _ => rfl
  | @written now a _ =>
    rw [List.forall_mem_singleton] at hwrites
    obtain ⟨⟨event, u⟩, hc, rfl⟩ := List.mem_map.1 hwrites
    obtain ⟨q, hq⟩ := served.addressable.exists_statusRequest (statusBody (some (s.finished now)))
    obtain ⟨x, rfl, rfl⟩ := runs_patchStatus (r := { r with status := some (s.finished now) })
      served.addressable.complete.ns_eq hq (d.behind _ hc)
    have hrequest := mem_requestsBehind.2 ⟨_, hc, rfl, List.mem_cons_self⟩
    rw [Api.Reply.statusWritten_eq (served.status _ _ x hrequest)]
    rfl

/-- A pass ends as its steps end, which make all its applications and read all its secrets. -/
theorem exists_steps (served : Served r d.calls) :
    ∃ events s, ConvergeRun settings r r.statusOrEmpty events s e ∧
      Trace.secretAnswers (d.calls.map (·.1)) = Trace.secretAnswers events ∧
      ∀ o a, (⟨.apply o, a⟩ : Event Cluster) ∈ events ↔ ∃ u, (⟨.apply o, a⟩, u) ∈ d.calls := by
  obtain ⟨events, s, body, writes, steps, finalized, hexchange⟩ :=
    exists_steps_of_runs d.runs served.read
  have hending : e = body := by
    refine d.ending_eq served finalized ?_
    intro w hw
    have hmem : writeEvent w ∈ Trace.exchange (d.calls.map (·.1)) := by
      rw [hexchange]
      exact List.mem_cons_of_mem _ (List.mem_append_right _ (List.mem_map_of_mem hw))
    exact (List.mem_filter.1 hmem).1
  subst hending
  refine ⟨events, s, steps, Trace.secretAnswers_of_exchange hexchange, ?_⟩
  intro o a
  have happlications := Trace.applications_of_exchange hexchange
  constructor
  · intro hm
    have hm' := Trace.mem_applications.2 hm
    rw [← happlications] at hm'
    obtain ⟨⟨event, u⟩, hc, rfl⟩ := List.mem_map.1 (Trace.mem_applications.1 hm')
    exact ⟨u, hc⟩
  · rintro ⟨u, hc⟩
    have hm : (o, a) ∈ Trace.applications (d.calls.map (·.1)) :=
      Trace.mem_applications.2 (List.mem_map_of_mem hc)
    rw [happlications] at hm
    exact Trace.mem_applications.1 hm

/-- A request about an owned object that failed ends the pass. -/
theorem ending_of_failure (served : Served r d.calls) {o : SubResource} {q : Request} {x : Reply}
    {failure : ClientError} (hrequest : (.apply o, q, x) ∈ requestsBehind d.calls)
    (hfailure : q.failure? o.kind x = some failure) : e = failure.ending timeout := by
  obtain ⟨events, s, steps, -, happlied⟩ := d.exists_steps served
  obtain ⟨⟨⟨c, a⟩, u⟩, hc, rfl, hu⟩ := mem_requestsBehind.1 hrequest
  obtain ⟨q, q', body, happlying⟩ := d.applying served hc
  have hmem : failure ∈ failures o.kind u := List.mem_filterMap.2 ⟨_, hu, hfailure⟩
  rcases happlying.failures_cases with ⟨hnone, -⟩ | ⟨failure', hone, rfl⟩
  · rw [hnone] at hmem
    cases hmem
  · rw [hone, List.mem_singleton] at hmem
    subst hmem
    exact (steps.planRun served.addressable.complete).ending_of_apply_mem
      ((happlied _ _).2 ⟨u, hc⟩) (stop?_postponed timeout failure)

theorem exists_failure_of_error {error : ControlError}
    (d : Division (answer timeout) (pass settings ns name) t (.error error))
    (served : Served r d.calls) :
    ∃ o q x failure, (.apply o, q, x) ∈ requestsBehind d.calls ∧
      q.failure? o.kind x = some failure ∧ failure.isTransient = false := by
  obtain ⟨events, s, steps, hsecrets, happlied⟩ := d.exists_steps served
  rcases steps.hasError served.addressable.complete with ⟨o, hm⟩ | ⟨reads, hreads, hanswers⟩
  · obtain ⟨u, hc⟩ := (happlied _ _).1 hm
    obtain ⟨q, q', body, happlying⟩ := d.applying served hc
    generalize ha : (.error error : Except ControlError Applied) = a at happlying
    rcases happlying.failures_cases with ⟨-, change, ready, rfl⟩ | ⟨failure, hone, rfl⟩
    · cases ha
    · have hmem : failure ∈ failures o.kind u := by
        rw [hone]
        exact List.mem_singleton_self _
      obtain ⟨⟨q, x⟩, hu, hfailure⟩ := List.mem_filterMap.1 hmem
      refine ⟨o, q, x, failure, mem_requestsBehind.2 ⟨_, hc, rfl, hu⟩, hfailure, ?_⟩
      -- Had it been a failure that passes, the answer would be a delay.
      have hending := stop?_postponed timeout failure
      rw [← ha, ClientError.ending] at hending
      cases htransient : failure.isTransient with
      | false => rfl
      | true =>
        rw [htransient] at hending
        cases hending
  · rw [← hsecrets] at hanswers
    exact (served.secrets.not_error hreads hanswers).elim

end Program.Division

end

/-! ## The theorem -/

/-- **Failures that pass are no errors of a pass.** -/
theorem transient_failures_postpone {timeout : Duration} {settings : Settings} {ns name : String}
    {t : List (Event Api)} {e : Ending} (run : Runs (overApi timeout (pass settings ns name)) t e) :
    Nonempty (Division (answer timeout) (pass settings ns name) t e) ∧
    ∀ d : Division (answer timeout) (pass settings ns name) t e, ∀ r, Served r d.calls →
      ((∀ o q x failure, (.apply o, q, x) ∈ requestsBehind d.calls →
          q.failure? o.kind x = some failure →
            ∃ f, failure = .api f ∧ (f.code = 404 ∨ f.code = 409)) →
        ∃ outcome, e = .ok outcome) ∧
      ∀ o q x failure, (.apply o, q, x) ∈ requestsBehind d.calls →
        q.failure? o.kind x = some failure →
          ((∃ f, failure = .api f ∧ (f.code = 404 ∨ f.code = 409)) →
            e = .ok (.requeueAfter timeout)) ∧
          ((¬ ∃ f, failure = .api f ∧ (f.code = 404 ∨ f.code = 409)) →
            e = .error (.client failure)) := by
  refine ⟨runs_lower_iff.1 run, ?_⟩
  intro d r served
  constructor
  · intro htransient
    cases e with
    | ok outcome => exact ⟨outcome, rfl⟩
    | error error =>
      obtain ⟨o, q, x, failure, hrequest, hfailure, hstays⟩ := d.exists_failure_of_error served
      rw [failure.isTransient_iff.2 (htransient o q x failure hrequest hfailure)] at hstays
      cases hstays
  · intro o q x failure hrequest hfailure
    rw [← failure.isTransient_iff, d.ending_of_failure served hrequest hfailure,
      ClientError.ending]
    exact ⟨fun h => if_pos h, fun h => if_neg h⟩

namespace Postponement

/-- A server that sends given replies, one after the other. -/
def replying : Handler Api (List Reply)
  | .send _, x :: rest => (x, rest)
  | .send _, [] => (.failed "", [])
  | .now, rest => ("2030-01-01T00:00:00Z", rest)

/-- What the API server says of a request that it refuses. -/
def refusal (code : Nat) (reason : String) : Reply :=
  .answered code (Json.text (.obj [("code", .num code), ("reason", .str reason),
    ("status", .str "Failure")]))

/-- An instance that a pass has seen before. -/
def seen : Redis where
  metadata := { name := some "cache", ns := some "demo", uid := some "1" }
  spec := {}
  status := some ⟨⟨[⟨"Ready", .unknown, "Init", none, "", none⟩]⟩, .empty⟩

/-- The same instance as the API server sends it. -/
def seenJson : Json :=
  .obj [("metadata", .obj [("name", .str "cache"), ("namespace", .str "demo"), ("uid", .str "1")]),
    ("spec", .obj []),
    ("status", .obj [("conditions", .arr [
      .obj [("reason", .str "Init"), ("status", .str "Unknown"), ("type", .str "Ready")]])])]

/-- The instance is read, some replies are about its service account, and then it has gone. -/
def replies (about : List Reply) : List Reply :=
  .answered 200 seenJson.text :: (about ++ [refusal 404 "NotFound"])

/-- How a pass over such replies ends. -/
def ending (about : List Reply) : Ending :=
  ((overApi (.ofSeconds 30) (pass .default "demo" "cache")).run replying (replies about)).1

/-- The pass over such replies. -/
def division (about : List Reply) : Division (answer (.ofSeconds 30))
    (pass .default "demo" "cache")
    ((overApi (.ofSeconds 30) (pass .default "demo" "cache")).transcript replying (replies about))
    (ending about) :=
  .ofHandler _ replying _ (replies about)

/-- The service account is not there, and writing it meets a conflict. -/
def conflict : List Reply := [refusal 404 "NotFound", refusal 409 "Conflict"]

/-- Nothing is served where the service account should be, which does not say that it is absent. -/
def unserved : List Reply := [.answered 404 "404 page not found"]

/-- The service account is not there, and the server fails to write it. -/
def broken : List Reply := [refusal 404 "NotFound", refusal 500 "InternalError"]

/-- These replies, each with the failure that they come to. -/
def failing : List (List Reply × ApiFailure) :=
  [(conflict, ⟨"Failure", "", "Conflict", 409⟩),
   (unserved, ⟨"404 Not Found", "\"404 page not found\"", "Failed to parse error data", 404⟩),
   (broken, ⟨"Failure", "", "InternalError", 500⟩)]

/-- What a pass over such replies goes through: the instance is read, no secret is, the write of
the status is acknowledged, and a request about an owned object fails as told. -/
def goesThrough (about : List Reply) (failure : ApiFailure) : Bool :=
  let calls := (division about).calls
  decide (Trace.redises (calls.map (·.1)) = [seen]) &&
  (Trace.secretAnswers (calls.map (·.1))).isEmpty &&
  ((requestsBehind calls).all fun e =>
    match e.1 with
    | .patchStatus _ => e.2.2.acknowledges
    | _ => true) &&
  (requestsBehind calls).any fun e =>
    match e.1 with
    | .apply o => e.2.1.failure? o.kind e.2.2 == some (.api failure)
    | _ => false

theorem goesThrough_failing : failing.all (fun c => goesThrough c.1 c.2) = true := by
  decide +kernel

theorem served_division {about : List Reply} {failure : ApiFailure}
    (h : goesThrough about failure = true) : Served seen (division about).calls ∧
      ∃ o q x, (.apply o, q, x) ∈ requestsBehind (division about).calls ∧
        q.failure? o.kind x = some (.api failure) := by
  simp only [goesThrough, Bool.and_eq_true, decide_eq_true_eq, List.isEmpty_iff] at h
  obtain ⟨⟨⟨hread, hsecrets⟩, hstatus⟩, hfailed⟩ := h
  constructor
  · refine ⟨?_, ⟨⟨rfl, rfl, rfl⟩, by decide, by decide, by decide⟩, Or.inl hsecrets, ?_⟩
    · rw [hread]
      exact List.mem_singleton_self _
    · exact fun _ _ _ hrequest => List.all_eq_true.1 hstatus _ hrequest
  · obtain ⟨⟨c, q, x⟩, hrequest, hfailure⟩ := List.any_eq_true.1 hfailed
    cases c with
    | apply o => exact ⟨o, q, x, hrequest, eq_of_beq hfailure⟩
    | _ => cases hfailure

end Postponement

open Postponement in
/-- A conflict on a write ends the pass with the delay for writes, and so does a read that meets
the code of a missing object without its reason; any other code ends it with just that error. -/
theorem transient_failures_postpone_codes :
    ending conflict = .ok (.requeueAfter (.ofSeconds 30)) ∧
    ending unserved = .ok (.requeueAfter (.ofSeconds 30)) ∧
    ending broken = .error (.client (.api ⟨"Failure", "", "InternalError", 500⟩)) := by
  have hends : ∀ c ∈ failing,
      (c.2.code = 404 ∨ c.2.code = 409 → ending c.1 = .ok (.requeueAfter (.ofSeconds 30))) ∧
      (¬ (c.2.code = 404 ∨ c.2.code = 409) → ending c.1 = .error (.client (.api c.2))) := by
    intro c hc
    obtain ⟨served, o, q, x, hrequest, hfailure⟩ :=
      served_division (List.all_eq_true.1 goesThrough_failing c hc)
    obtain ⟨-, hdivisions⟩ := transient_failures_postpone (runs_transcript replying
      (overApi (.ofSeconds 30) (pass .default "demo" "cache")) (replies c.1))
    obtain ⟨hpasses, hstays⟩ :=
      (hdivisions (division c.1) seen served).2 o q x (.api c.2) hrequest hfailure
    refine ⟨fun hcode => hpasses ⟨c.2, rfl, hcode⟩, fun hcode => hstays ?_⟩
    rintro ⟨f, hf, hcode'⟩
    cases hf
    exact hcode hcode'
  simp only [failing, List.forall_mem_cons] at hends
  obtain ⟨hconflict, hunserved, hbroken, -⟩ := hends
  exact ⟨hconflict.1 (by decide), hunserved.1 (by decide), hbroken.2 (by decide)⟩

end RedisControl
