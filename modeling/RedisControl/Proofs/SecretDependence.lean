import RedisControl.Proofs.PassPlan
import RedisControl.Proofs.PodVolumes
import RedisControl.SecretIndex

/-!
# The index of secrets is exact

Three things are said of an instance and a secret: that a change of the secret is reported to the
instance, that a pass over the instance reads the secret, and that its pods mount the secret.

**Theorem (`secret_index_agrees`).** The three say the same. Of a list of instances, the index of
a secret has those, in order, that read it from a cluster in which all secrets are valid, and
those are the ones in its namespace whose pods mount it. So an instance depends on the secrets
alone from which the index leads to it: clusters that agree on these give the same TLS inputs or
the same error, and a change of any other secret leaves a pass, call by call, as it was.

What is asked for is planned before (`Follows.asks_isPrefix`), and where all secrets are valid all
of it is asked (`Follows.asks_eq`). The rest is what two handlers have to agree on in order to
bring about the same run (`run_congr_of_rel`): the calls of that run.

* `referencingInstances_eq` : the index of a list of complete instances.
* `Handler.HasSecretsOf.asks_eq` : what is read where all secrets are valid.
* `Redis.DependsOnIndexed` : an instance depends on the secrets alone that lead to it.
-/

namespace RedisControl

open Program

/-! ## The index -/

namespace Redis

variable {r : Redis} {ns name : String}

def ref (r : Redis) : InstanceRef := ⟨r.metadata.ns, r.name⟩

theorem IsComplete.ref?_eq (h : r.IsComplete) : r.ref? = some r.ref := by
  rw [ref?, h.name_eq]
  rfl

/-- The index leads to the instance from secrets of this namespace and name. -/
def IsIndexedUnder (r : Redis) (ns name : String) : Prop :=
  ∃ s : Secret, s.metadata.ns = some ns ∧ s.metadata.name = some name ∧
    referencingInstances [r] s = some [r.ref]

theorem refersTo_iff {s : Secret} (hns : s.metadata.ns = some ns)
    (hname : s.metadata.name = some name) :
    r.refersTo s = true ↔ r.metadata.ns = some ns ∧ name ∈ r.referencedSecrets := by
  rw [refersTo, decide_eq_true_iff, hns, ObjectMeta.nameOrGenerated, hname]
  rfl

end Redis

theorem referencingInstances_eq {rs : List Redis} (complete : ∀ r ∈ rs, r.IsComplete)
    (s : Secret) :
    referencingInstances rs s = some ((rs.filter (·.refersTo s)).map Redis.ref) := by
  have hrefs : ∀ l : List Redis, (∀ r ∈ l, r.IsComplete) →
      l.mapM Redis.ref? = some (l.map Redis.ref) := by
    intro l hl
    induction l with
    | nil => rfl
    | cons r l ih =>
      rw [List.forall_mem_cons] at hl
      rw [List.mapM_cons, hl.1.ref?_eq, ih hl.2]
      rfl
  exact hrefs _ fun r hr => complete r (List.mem_filter.1 hr).1

theorem Redis.IsComplete.isIndexedUnder_iff {r : Redis} (h : r.IsComplete) {ns name : String} :
    r.IsIndexedUnder ns name ↔ r.metadata.ns = some ns ∧ name ∈ r.referencedSecrets := by
  have hindex : ∀ s, referencingInstances [r] s = some (([r].filter (·.refersTo s)).map ref) :=
    referencingInstances_eq (List.forall_mem_singleton.2 h)
  constructor
  · rintro ⟨s, hns, hname, hs⟩
    rw [← refersTo_iff hns hname]
    refine Decidable.byContradiction ?_
    intro hrefers
    rw [hindex, List.filter_cons, if_neg hrefers] at hs
    cases hs
  · intro hr
    let s : Secret := ⟨none, none, { ns := some ns, name := some name }, none, none⟩
    have hrefers : r.refersTo s = true := (refersTo_iff rfl rfl).2 hr
    refine ⟨s, rfl, rfl, ?_⟩
    rw [hindex, List.filter_cons, if_pos hrefers]
    rfl

/-! ## What is read -/

namespace Redis

variable {r : Redis}

theorem exists_of_mem_readPlan {stage : Stage} (h : stage ∈ r.readPlan) :
    ∃ name hash, stage = r.readStage hash name := by
  rcases List.mem_append.1 h with h | h <;> obtain ⟨name, -, rfl⟩ := List.mem_map.1 h <;>
    exact ⟨name, _, rfl⟩

theorem read_mem_readPlan {ns name : String} : Ask.read ns name ∈ r.readPlan.map Stage.ask ↔
    ns = r.metadata.ns.getD "" ∧ name ∈ r.referencedSecrets := by
  rw [readPlan, List.map_append, List.map_map, List.map_map, List.mem_append, List.mem_map,
    List.mem_map, referencedSecrets, List.mem_append]
  have hread : ∀ {hash} {n : String}, (Stage.ask ∘ r.readStage hash) n = .read ns name ↔
      r.metadata.ns.getD "" = ns ∧ n = name := fun {hash n} => by
    rw [Function.comp, readStage, Stage.ask, Ask.read.injEq]
  simp only [hread]
  grind

/-- A pass plans to read what belongs to the TLS inputs, and nothing else. -/
theorem read_mem_plan {ns name : String} : Ask.read ns name ∈ r.plan.map Stage.ask ↔
    Ask.read ns name ∈ r.readPlan.map Stage.ask := by
  simp only [plan, gatheringPlan, deployingPlan, List.map_append, List.mem_append, List.map_cons,
    List.map_nil, List.mem_cons, List.not_mem_nil, or_false, applyStage, Stage.ask, reduceCtorEq,
    false_or]

theorem IsComplete.isIndexedUnder_of_read (h : r.IsComplete) {ns name : String}
    (hread : Ask.read ns name ∈ r.readPlan.map Stage.ask) : r.IsIndexedUnder ns name := by
  obtain ⟨rfl, hname⟩ := read_mem_readPlan.1 hread
  exact h.isIndexedUnder_iff.2 ⟨h.ns_eq, hname⟩

end Redis

theorem Trace.read_mem_asks {t : Trace} {e : Event Cluster} (he : e ∈ t) {ns name : String}
    (hcall : e.call = .getSecret ns name) : Ask.read ns name ∈ asks t := by
  refine List.mem_filterMap.2 ⟨e, he, ?_⟩
  obtain ⟨c, x⟩ := e
  obtain rfl : c = .getSecret ns name := hcall
  rfl

/-- All secrets that an instance refers to are there at any time, and valid for what they are
referred to as. -/
structure Handler.HasSecretsOf {σ : Type} (h : Handler Cluster σ) (r : Redis) : Prop where
  certificate : ∀ name ∈ r.spec.tls.certificate?, ∀ st, ∃ s digest,
    (h (.getSecret (r.metadata.ns.getD "") name) st).1 = .ok (some s) ∧
      s.certificateHash r.spec.tls.caBundle?.isNone = .ok digest
  caBundle : ∀ name ∈ r.spec.tls.caBundle?, ∀ st, ∃ s digest,
    (h (.getSecret (r.metadata.ns.getD "") name) st).1 = .ok (some s) ∧
      s.caBundleHash = .ok digest

namespace Handler.HasSecretsOf

variable {σ : Type} {h : Handler Cluster σ} {r : Redis}

theorem of_mem_readPlan (hs : h.HasSecretsOf r) {ns name : String}
    {hash : Secret → Except SecretProblem String} (hmem : .read ns name hash ∈ r.readPlan) (st : σ) :
    ∃ s digest, (h (.getSecret ns name) st).1 = .ok (some s) ∧ hash s = .ok digest := by
  rcases List.mem_append.1 hmem with hmem | hmem <;> obtain ⟨n, hn, he⟩ := List.mem_map.1 hmem <;>
    cases he
  · exact hs.certificate _ (Option.mem_toList.1 hn) st
  · exact hs.caBundle _ (Option.mem_toList.1 hn) st

theorem asks_eq (hs : h.HasSecretsOf r) (st : σ) :
    Trace.asks ((tlsInputHashes r).transcript h st) = r.readPlan.map Stage.ask := by
  have hfollows := follows_tlsInputHashes (runs_transcript h (tlsInputHashes r) st)
  cases hresult : ((tlsInputHashes r).run h st).1 with
  | ok inputs =>
    rw [hresult] at hfollows
    exact hfollows.asks_eq
  | error e =>
    -- An error comes from the last read, but the secret it reads is valid.
    rw [hresult] at hfollows
    obtain ⟨stage, event, hlast, hmeets⟩ := hfollows.getLast?_of_stop
    obtain ⟨hstage, hevent⟩ := List.of_mem_zip (List.mem_of_getLast? hlast)
    obtain ⟨name, hash, rfl⟩ := Redis.exists_of_mem_readPlan hstage
    obtain ⟨answer, rfl, hstop⟩ := hmeets.exists_answer
    obtain ⟨st', hanswer⟩ := exists_of_mem_transcript hevent
    obtain ⟨s, digest, hsecret, hhash⟩ := hs.of_mem_readPlan hstage st'
    obtain rfl : answer = .ok (some s) := hanswer.trans hsecret
    rw [secretHashOf, hhash] at hstop
    cases hstop

end Handler.HasSecretsOf

/-! ## What is mounted -/

/-- The secrets that the pods of an instance mount; none where the workload cannot be built. -/
def Redis.mountedSecrets (r : Redis) (settings : Settings) (inputHash : String) : List String :=
  match r.statefulSet settings inputHash with
  | .error _ => []
  | .ok o => (o.podSpec?.map PodSpec.secretNames).getD []

theorem Redis.IsComplete.mountedSecrets_eq {r : Redis} (h : r.IsComplete) (settings : Settings)
    (inputHash : String) : r.mountedSecrets settings inputHash = r.referencedSecrets := by
  obtain ⟨w⟩ := owned_of_isComplete h
  rw [mountedSecrets, w.statefulSet_eq]
  show ((w.workload settings inputHash).podSpec?.map _).getD [] = _
  rw [podSpec?_of_statefulSet (w.statefulSet_eq settings inputHash)]
  exact secretNames_podSpec

/-! ## What an instance depends on -/

/-- An instance depends on those secrets alone from which the index leads to it. -/
structure Redis.DependsOnIndexed (r : Redis) : Prop where
  /-- They are in the namespace of the instance. -/
  ns : ∀ ns name, r.IsIndexedUnder ns name → r.metadata.ns = some ns
  /-- Two clusters that answer alike when asked for one of them give the same TLS inputs, or the
  same error. -/
  tlsInputs : ∀ (σ τ : Type) (h : Handler Cluster σ) (h' : Handler Cluster τ),
    (∀ ns name, r.IsIndexedUnder ns name → ∀ st st',
      (h (.getSecret ns name) st).1 = (h' (.getSecret ns name) st').1) →
    ∀ st st', ((tlsInputHashes r).run h st).1 = ((tlsInputHashes r).run h' st').1
  /-- Where a cluster answers otherwise only when asked for other secrets, a pass over the instance
  makes the same calls, gets the same answers and ends the same way. -/
  pass : ∀ (σ : Type) (h h' : Handler Cluster σ),
    (∀ c, (∀ ns name, c = .getSecret ns name → r.IsIndexedUnder ns name) → h c = h' c) →
    ∀ settings ns name st, (h (.getRedis ns name) st).1 = .ok (some r) →
      (pass settings ns name).run h st = (pass settings ns name).run h' st ∧
      (pass settings ns name).transcript h st = (pass settings ns name).transcript h' st

namespace Redis

variable {r : Redis}

/-- The calls for the TLS inputs of an instance are reads of secrets that it is indexed under. -/
theorem IsComplete.isIndexedUnder_of_tlsInputHashes (hr : r.IsComplete) {t : Trace}
    {x : Except ControlError InputHashes} (run : Runs (tlsInputHashes r) t x) {e : Event Cluster}
    (he : e ∈ t) : ∃ ns name, e.call = .getSecret ns name ∧ r.IsIndexedUnder ns name := by
  have hread := runs_tlsInputHashes_reads run e he
  obtain ⟨c, x⟩ := e
  cases c with
  | getSecret ns name =>
    have hask : Ask.read ns name ∈ Trace.asks t := Trace.read_mem_asks he rfl
    exact ⟨ns, name, rfl,
      hr.isIndexedUnder_of_read ((follows_tlsInputHashes run).asks_isPrefix.subset hask)⟩
  | _ => cases hread

theorem IsComplete.isIndexedUnder_of_pass (hr : r.IsComplete) {settings : Settings}
    {ns name : String} {t : Trace} {e : Ending} (run : Runs (RedisControl.pass settings ns name) t e)
    (hread : r ∈ Trace.redises t) {event : Event Cluster} (he : event ∈ t) {sns sname : String}
    (hcall : event.call = .getSecret sns sname) : r.IsIndexedUnder sns sname := by
  obtain ⟨events, s, body, writes, steps, -, hexchange⟩ := exists_steps_of_runs run hread
  have hevent : event ∈ Trace.exchange t := by
    refine List.mem_filter.2 ⟨he, ?_⟩
    obtain ⟨c, x⟩ := event
    obtain rfl : c = .getSecret sns sname := hcall
    rfl
  rw [hexchange, List.mem_cons, List.mem_append] at hevent
  rcases hevent with rfl | hevent | hevent
  · cases hcall
  · have hask := Trace.read_mem_asks hevent hcall
    exact hr.isIndexedUnder_of_read
      (read_mem_plan.1 ((steps.planRun hr).asks_isPrefix.subset hask))
  · obtain ⟨write, -, rfl⟩ := List.mem_map.1 hevent
    cases hcall

theorem IsComplete.dependsOnIndexed (hr : r.IsComplete) : r.DependsOnIndexed where
  ns := fun ns name h => (hr.isIndexedUnder_iff.1 h).1
  tlsInputs := by
    intro σ τ h h' agree st st'
    refine (run_congr_of_rel (R := fun _ _ => True) trivial ?_).1
    intro e he st st' _
    obtain ⟨ns, name, hcall, hindexed⟩ :=
      hr.isIndexedUnder_of_tlsInputHashes (runs_transcript h _ _) he
    rw [hcall]
    exact ⟨agree ns name hindexed st st', trivial⟩
  pass := by
    intro σ h h' agree settings ns name st hread
    have hmem : r ∈ Trace.redises ((RedisControl.pass settings ns name).transcript h st) := by
      rw [← Trace.redises_exchange, (runs_pass (runs_transcript h _ st)).redises_eq]
      exact Option.mem_toList.2 (congrArg (fun x => Event.redis? ⟨.getRedis ns name, x⟩) hread)
    -- The handlers need to agree on the calls of this run alone, and keep the same state then.
    have hagree : ∀ e ∈ (RedisControl.pass settings ns name).transcript h st, ∀ s s', s = s' →
        (h e.call s).1 = (h' e.call s').1 ∧ (h e.call s).2 = (h' e.call s').2 := by
      rintro e he s _ rfl
      have hsame : h e.call = h' e.call := by
        refine agree _ ?_
        intro sns sname hcall
        exact hr.isIndexedUnder_of_pass (runs_transcript h _ _) hmem he hcall
      rw [hsame]
      exact ⟨rfl, rfl⟩
    obtain ⟨hresult, hstate, htranscript⟩ := run_congr_of_rel rfl hagree
    exact ⟨Prod.ext hresult hstate, htranscript⟩

end Redis

/-! ## The theorem -/

/-- **The index of secrets is exact.** -/
theorem secret_index_agrees {rs : List Redis} (complete : ∀ r ∈ rs, r.IsComplete) {s : Secret}
    {ns name : String} (hns : s.metadata.ns = some ns) (hname : s.metadata.name = some name) :
    (∀ (σ : Type) (h : Handler Cluster σ), (∀ r ∈ rs, h.HasSecretsOf r) → ∀ st,
      referencingInstances rs s = some ((rs.filter fun r =>
        Ask.read ns name ∈ Trace.asks ((tlsInputHashes r).transcript h st)).map Redis.ref)) ∧
    (∀ settings inputHash, referencingInstances rs s = some ((rs.filter fun r =>
      r.metadata.ns = some ns ∧ name ∈ r.mountedSecrets settings inputHash).map Redis.ref)) ∧
    ∀ r : Redis, r.IsComplete → r.DependsOnIndexed := by
  rw [referencingInstances_eq complete]
  refine ⟨?_, ?_, fun r hr => hr.dependsOnIndexed⟩
  · intro σ h hs st
    congr 2
    refine List.filter_congr ?_
    intro r hr
    rw [Bool.eq_iff_iff, Redis.refersTo_iff hns hname, decide_eq_true_iff, (hs r hr).asks_eq,
      Redis.read_mem_readPlan, (complete r hr).ns_eq, Option.some.injEq, eq_comm]
    rfl
  · intro settings inputHash
    congr 2
    refine List.filter_congr ?_
    intro r hr
    rw [Bool.eq_iff_iff, Redis.refersTo_iff hns hname, decide_eq_true_iff,
      (complete r hr).mountedSecrets_eq]

namespace SecretDependence

/-- A secret that can be referred to in both roles. -/
def sharedSecret : Secret where
  data := some (.ofList [("tls-ca-bundle.pem", [1]), ("tls.crt", [2]), ("tls.key", [3])])
  immutable := none
  metadata := { name := some "shared", ns := some "demo" }
  stringData := none
  type := none

/-- An instance that refers to a secret called so in both roles. -/
def sharing (ns : String) : Redis where
  metadata := { name := some "cache", ns := some ns, uid := some "1" }
  spec := { tls := { secretName := some "shared", caBundleSecretName := "shared" } }
  status := none

/-- A cluster in which every secret is the shared one. -/
def handler : Handler Cluster (Option Status × Nat) :=
  { SteadyCluster.plain fun _ => .ok (.converged .created none) with
    secret := fun _ _ => .ok (some sharedSecret) }.handler toString

theorem hasSecretsOf_sharing (ns : String) : handler.HasSecretsOf (sharing ns) where
  certificate := fun _ _ _ => ⟨sharedSecret, _, rfl, rfl⟩
  caBundle := fun _ _ _ => ⟨sharedSecret, _, rfl, rfl⟩

end SecretDependence

open SecretDependence in
/-- Of two instances of one name that refer to a secret in both roles, the one in its namespace
reads and mounts it. -/
theorem secret_index_agrees_shared :
    let rs := [sharing "demo", sharing "prod"]
    (rs.filter fun r => Ask.read "demo" "shared" ∈
      Trace.asks ((tlsInputHashes r).transcript handler (none, 0))).map Redis.ref =
        [⟨some "demo", "cache"⟩] ∧
    (rs.filter fun r => r.metadata.ns = some "demo" ∧
      "shared" ∈ r.mountedSecrets .default "").map Redis.ref = [⟨some "demo", "cache"⟩] ∧
    (sharing "prod").DependsOnIndexed := by
  intro rs
  have hcomplete : ∀ r ∈ rs, r.IsComplete :=
    List.forall_mem_cons.2 ⟨⟨rfl, rfl, rfl⟩, List.forall_mem_singleton.2 ⟨rfl, rfl, rfl⟩⟩
  have hsecrets : ∀ r ∈ rs, handler.HasSecretsOf r :=
    List.forall_mem_cons.2
      ⟨hasSecretsOf_sharing _, List.forall_mem_singleton.2 (hasSecretsOf_sharing _)⟩
  have hindex : referencingInstances rs sharedSecret = some [⟨some "demo", "cache"⟩] := by decide
  obtain ⟨hread, hmount, hdepends⟩ :=
    secret_index_agrees hcomplete (rfl : sharedSecret.metadata.ns = some "demo")
      (rfl : sharedSecret.metadata.name = some "shared")
  exact ⟨Option.some.inj ((hread _ handler hsecrets (none, 0)).symm.trans hindex),
    Option.some.inj ((hmount .default "").symm.trans hindex), hdepends _ ⟨rfl, rfl, rfl⟩⟩

end RedisControl
